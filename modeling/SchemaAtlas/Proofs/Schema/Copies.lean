import SchemaAtlas.Proofs.Schema.Ids
import SchemaAtlas.Proofs.Schema.Reloading
import SchemaAtlas.Proofs.Schema.Removal
import SchemaAtlas.Proofs.Value.Amounts

/-! # Copies of tables

A copy of a table can always be added, because among as many labels as there are tables, and one
more, one is free. Only moving the copy can fail, where an integer too large for floating point
meets a floating point number.
-/
namespace SchemaAtlas.Schema

/-! The label of a copy. -/

/-- The labels for a copy in the order in which they are tried, without end. -/
def copyLabel (base : String) : Nat → String
  | 0 => base
  | n + 1 => base ++ "_" ++ toString (n + 2)

theorem copyLabels_eq (base : String) (count : Nat) :
    copyLabels base count = (List.range (count + 1)).map (copyLabel base) := by
  rw [copyLabels, List.range_succ_eq_map, List.map_cons, List.map_map]
  rfl

theorem copyLabel_injective {base : String} {m n : Nat} (h : copyLabel base m = copyLabel base n) :
    m = n := by
  have hne : ∀ k, base ≠ copyLabel base (k + 1) := by
    intro k hk
    have hlist := congrArg String.toList hk
    simp [copyLabel] at hlist
  cases m with
  | zero =>
    cases n with
    | zero => rfl
    | succ n => exact absurd h (hne n)
  | succ m =>
    cases n with
    | zero => exact absurd h.symm (hne m)
    | succ n =>
      have hlist := congrArg String.toList h
      simp only [copyLabel, String.toList_append] at hlist
      have hnumber := String.toList_inj.mp (List.append_cancel_left hlist)
      have := toString_nat_injective hnumber
      omega

/-- The key that a table with the label of a copy has. -/
def copyKey (base : String) (n : Nat) : Value :=
  .str (tableId (copyLabel base n))

theorem copyKey_injective (base : String) : Function.Injective (copyKey base) := fun _ _ h =>
  copyLabel_injective (tableId_injective (Value.str.inj h))

/-- Not all labels that are tried can be taken: there is one more of them than of tables. -/
theorem exists_copyKey_notMem (base : String) (taken : List Value) :
    ∃ n < taken.length + 1, copyKey base n ∉ taken := by
  by_contra hall
  push Not at hall
  have hnodup : ((List.range (taken.length + 1)).map (copyKey base)).Nodup :=
    List.nodup_range.map (copyKey_injective base)
  have hsubset : (List.range (taken.length + 1)).map (copyKey base) ⊆ taken := by
    intro v hv
    obtain ⟨n, hn, rfl⟩ := List.mem_map.mp hv
    exact hall n (List.mem_range.mp hn)
  have hle := (List.subperm_of_subset hnodup hsubset).length_le
  rw [List.length_map, List.length_range] at hle
  omega

/-- The label of a copy is the first one whose table id is free. -/
theorem freshLabel_eq_copyLabel (base : String) (taken : List Value) :
    ∃ n, freshLabel base taken = copyLabel base n ∧ copyKey base n ∉ taken ∧
      ∀ m < n, copyKey base m ∈ taken := by
  obtain ⟨k, hk, hfree⟩ := exists_copyKey_notMem base taken
  have hsome : ((List.range (taken.length + 1)).find? fun n =>
      !taken.contains (copyKey base n)).isSome :=
    List.find?_isSome.mpr ⟨k, List.mem_range.mpr hk, by simpa using hfree⟩
  obtain ⟨n, hn⟩ := Option.isSome_iff_exists.mp hsome
  obtain ⟨hfirst, _, hearlier⟩ := List.find?_range_eq_some.mp hn
  refine ⟨n, ?_, by simpa using hfirst, fun m hm => by simpa using hearlier m hm⟩
  rw [freshLabel, copyLabels_eq, List.find?_map]
  change (((List.range _).find? fun n => !taken.contains (copyKey base n)).map _).getD base = _
  rw [hn]
  rfl

/-! Where a copy stands. -/

theorem isSome_number? {a : Value} (h : a.IsNumber) : a.number?.isSome := by
  rcases h with ⟨n, rfl⟩ | ⟨x, rfl⟩ <;> rfl

/-- Whether a position cannot be moved along the diagonal. -/
def Position.IsStuck (p : Position) (offset : Value) : Prop :=
  p.x.Clashes offset ∨ p.y.Clashes offset

theorem Position.shift_eq_error {p : Position} {offset : Value} (hx : p.x.number?.isSome)
    (ho : offset.number?.isSome) (h : p.IsStuck offset) : p.shift offset = .error .overflow := by
  by_cases hclash : p.x.Clashes offset
  · rw [shift, Value.add_eq_error hclash]
    rfl
  · obtain ⟨x, hx⟩ := Value.exists_add hx ho hclash
    rw [shift, hx, ok_bind, Value.add_eq_error (h.resolve_left hclash)]
    rfl

theorem Position.exists_shift {p : Position} {offset : Value} (hx : p.x.number?.isSome)
    (hy : p.y.number?.isSome) (ho : offset.number?.isSome) (h : ¬ p.IsStuck offset) :
    ∃ q, p.shift offset = .ok q ∧ p.x.add offset = .ok q.x ∧ p.y.add offset = .ok q.y := by
  obtain ⟨hnx, hny⟩ := not_or.mp h
  obtain ⟨x, hx⟩ := Value.exists_add hx ho hnx
  obtain ⟨y, hy⟩ := Value.exists_add hy ho hny
  exact ⟨⟨x, y⟩, by rw [shift, hx, ok_bind, hy]; rfl, hx, hy⟩

/-- A table that agrees with another but for its id, its label, its position and the ids of its
columns. -/
structure Table.IsCopyOf (u t : Table) : Prop where
  rest : { u with id := t.id, label := t.label, position := t.position, columns := t.columns } = t
  columns : List.Forall₂ (fun c d : Column => { c with id := d.id } = d) u.columns t.columns

theorem Table.isCopyOf_relabel (t : Table) (label : String) (p : Position) :
    (t.relabel label p).IsCopyOf t where
  rest := rfl
  columns := List.forall₂_map_left_iff.mpr (List.forall₂_same.mpr fun _ _ => rfl)

/-- A graph with a copy of one of its tables, labelled with a base or with the first free label that
is made of it. -/
structure Graph.IsDuplicated (g : Graph) (t : Table) (offset : Value) (base : String) (g' : Graph)
    (u : Table) : Prop where
  graph : g' = { g with tables := g.tables ++ [u] }
  copy : u.IsCopyOf t
  label : ∃ n, u.label = .str (copyLabel base n) ∧ u.id = copyKey base n ∧
    ∀ m < n, copyKey base m ∈ g.tableKeys
  free : u.key ∉ g.tableKeys
  moved : t.position.x.add offset = .ok u.position.x ∧ t.position.y.add offset = .ok u.position.y

theorem Graph.IsTyped.isKeyed {g : Graph} (h : g.IsTyped) : g.IsKeyed := by
  intro k hk
  obtain ⟨t, ht, rfl⟩ := List.mem_map.mp hk
  obtain ⟨s, hs⟩ := (h.tables t ht).id
  rw [Table.key, hs]
  rfl

section Add
variable {g : Graph} {u : Table} (hkeyed : g.IsKeyed) (hscalar : u.id.isScalar = true)
  (hfree : u.key ∉ g.tableKeys)

theorem tableKeys_append : Graph.tableKeys { g with tables := g.tables ++ [u] } =
    g.tableKeys ++ [u.key] :=
  List.map_append

include hkeyed hscalar hfree

theorem addTable_of_free : g.addTable u = .ok { g with tables := g.tables ++ [u] } := by
  have hcontains : g.tableKeys.contains u.key = false := by simpa using hfree
  rw [Graph.addTable, hkeyed.checkIds, ok_bind]
  dsimp only
  rw [hscalar, hcontains]
  rfl

/-- A table that has been added is removed again without a trace. -/
theorem removeTable_added (hjoined : g.IsJoined) :
    Graph.removeTable { g with tables := g.tables ++ [u] } u.id = .ok g := by
  have hkeyed' : Graph.IsKeyed { g with tables := g.tables ++ [u] } := by
    intro k hk
    rw [tableKeys_append] at hk
    rcases List.mem_append.mp hk with hk | hk
    · exact hkeyed k hk
    · rw [List.mem_singleton.mp hk, Table.key, isScalar_key]
      exact hscalar
  have hjoined' : Graph.IsJoined { g with tables := g.tables ++ [u] } := by
    intro r hr
    rw [tableKeys_append]
    obtain ⟨hsource, htarget⟩ := hjoined r hr
    exact ⟨List.mem_append_left _ hsource, List.mem_append_left _ htarget⟩
  have hmem : u.id.key ∈ Graph.tableKeys { g with tables := g.tables ++ [u] } := by
    rw [tableKeys_append]
    exact List.mem_append_right _ (List.mem_singleton.mpr rfl)
  have htables : (g.tables ++ [u]).filter (fun t => !([u.key].contains t.key)) = g.tables := by
    have hkeep : ∀ t ∈ g.tables, (!([u.key].contains t.key)) = true := by
      intro t ht
      have hne : t.key ≠ u.key := fun heq => hfree (heq ▸ key_mem_tableKeys ht)
      simpa using hne
    rw [List.filter_append, List.filter_eq_self.mpr hkeep]
    simp
  have hrelationships : g.relationships.filter (fun r => !r.touchesAny [u.key]) =
      g.relationships := by
    refine List.filter_eq_self.mpr fun r hr => ?_
    obtain ⟨hsource, htarget⟩ := hjoined r hr
    rw [Bool.not_eq_true', touchesAny_eq_false, List.mem_singleton, List.mem_singleton]
    exact ⟨fun heq => hfree (heq ▸ hsource), fun heq => hfree (heq ▸ htarget)⟩
  rw [removeTable_eq_withoutTables hkeyed' hjoined' hmem, Graph.withoutTables]
  change Except.ok (Graph.mk ((g.tables ++ [u]).filter fun t => !([u.key].contains t.key))
    (g.relationships.filter fun r => !r.touchesAny [u.key])) = _
  rw [htables, hrelationships]

end Add

/-- A table of a graph whose fields have the right types is copied, under the first label that is
free, unless an integer too large for floating point would have to be added to a floating point
number. Removing the copy gives the graph back. -/
theorem duplicateTable_typed {g : Graph} (h : g.IsTyped) {id offset : Value}
    (hid : id ∈ g.tables.map Table.id) (hoffset : offset.number?.isSome) :
    ∃ t base, g.table? id = some t ∧ t.label = .str base ∧
      (t.position.IsStuck offset → g.duplicateTable id offset = .error .overflow) ∧
      (¬ t.position.IsStuck offset → ∃ g' u, g.duplicateTable id offset = .ok g' ∧
        g.IsDuplicated t offset (base ++ "_copy") g' u ∧
        (g.IsJoined → g'.removeTable u.id = .ok g)) := by
  obtain ⟨s, hs, rfl⟩ := List.mem_map.mp hid
  obtain ⟨t, hrequire, ht, _⟩ := exists_requireTable (key_mem_tableKeys hs)
  obtain ⟨base, hbase⟩ := (h.tables t ht).label
  obtain ⟨hx, hy⟩ := (h.tables t ht).position
  have hfind : g.table? s.id = some t := by
    rw [Graph.requireTable] at hrequire
    split at hrequire
    · next heq =>
      cases hrequire
      exact heq
    · cases hrequire
  have hlabel : t.label.text = base := by rw [hbase]; rfl
  have hduplicate : g.duplicateTable s.id offset = t.position.shift offset >>= fun p =>
      g.addTable (t.relabel (freshLabel (base ++ "_copy") g.tableKeys) p) := by
    rw [Graph.duplicateTable, hrequire, ok_bind, h.isKeyed.checkIds, ok_bind, hlabel]
  refine ⟨t, base, hfind, hbase, fun hstuck => ?_, fun hfits => ?_⟩
  · rw [hduplicate, Position.shift_eq_error (isSome_number? hx) hoffset hstuck]
    rfl
  · obtain ⟨p, hp, hpx, hpy⟩ :=
      Position.exists_shift (isSome_number? hx) (isSome_number? hy) hoffset hfits
    obtain ⟨n, hn, hfree, hearlier⟩ := freshLabel_eq_copyLabel (base ++ "_copy") g.tableKeys
    let u := t.relabel (copyLabel (base ++ "_copy") n) p
    have hadd : g.addTable u = .ok { g with tables := g.tables ++ [u] } :=
      addTable_of_free h.isKeyed rfl hfree
    rw [hduplicate, hp, ok_bind, hn]
    exact ⟨_, u, hadd, ⟨rfl, t.isCopyOf_relabel _ p, ⟨n, rfl, rfl, hearlier⟩, hfree, hpx, hpy⟩,
      removeTable_added h.isKeyed rfl hfree⟩

theorem Table.isTyped_fresh (label : String) {p : Position} (hx : p.x.IsNumber)
    (hy : p.y.IsNumber) : (fresh (.str label) p).IsTyped where
  id := ⟨_, rfl⟩
  label := ⟨_, rfl⟩
  columns c hc := by
    rw [List.mem_singleton.mp hc]
    exact ⟨⟨_, rfl⟩, ⟨_, rfl⟩, ⟨_, rfl⟩, ⟨_, rfl⟩, .inl rfl, .inl rfl⟩
  comment := ⟨_, rfl⟩
  headerColor := .inl rfl
  position := ⟨hx, hy⟩

/-- A table further to the right than floating point reaches. -/
def remote : Graph where
  tables := [.fresh (.str "t") ⟨.int (10 ^ 400), .int 0⟩]

/-- It cannot be copied half a unit further. -/
theorem duplicateTable_remote : remote.IsTyped ∧ Value.str "node-t" ∈ remote.tables.map Table.id ∧
    (Value.float 0.5).number?.isSome ∧
    remote.duplicateTable (.str "node-t") (.float 0.5) = .error .overflow := by
  refine ⟨⟨fun t ht => ?_, nofun⟩, by decide, rfl, ?_⟩
  · rw [List.mem_singleton.mp ht]
    exact Table.isTyped_fresh "t" (.inl ⟨_, rfl⟩) (.inl ⟨_, rfl⟩)
  · decide +kernel

/-- A table with a copy, and one that has the id of a second copy under another label. -/
def guests : Graph where
  tables := [.fresh (.str "guests") ⟨.int 0, .float 0⟩, .fresh (.str "guests_copy") .origin,
    { Table.fresh (.str "others") .origin with id := .str (tableId "guests_copy_2") }]

theorem duplicateTable_typed_guests : guests.IsTyped ∧ guests.IsJoined ∧
    Value.str "node-guests" ∈ guests.tables.map Table.id ∧ (Value.int 50).number?.isSome ∧
    ∃ (g' : Graph) (u : Table), guests.duplicateTable (.str "node-guests") (.int 50) = .ok g' ∧
      u.label = .str "guests_copy_3" ∧ g'.removeTable u.id = .ok guests := by
  have htyped : guests.IsTyped := by
    have horigin : (Value.float 0).IsNumber := .inr ⟨_, rfl⟩
    have hothers := Table.isTyped_fresh "others" (p := .origin) horigin horigin
    refine ⟨fun t ht => ?_, nofun⟩
    simp only [guests, List.mem_cons, List.not_mem_nil, or_false] at ht
    rcases ht with rfl | rfl | rfl
    · exact Table.isTyped_fresh "guests" (.inl ⟨_, rfl⟩) horigin
    · exact Table.isTyped_fresh "guests_copy" horigin horigin
    · exact { hothers with id := ⟨_, rfl⟩ }
  have hmem : Value.str "node-guests" ∈ guests.tables.map Table.id := by decide
  have hjoined : guests.IsJoined := nofun
  have hnumber : (Value.int 50).number?.isSome := rfl
  refine ⟨htyped, hjoined, hmem, hnumber, ?_⟩
  obtain ⟨t, base, ht, hbase, _, hcopied⟩ := duplicateTable_typed htyped hmem hnumber
  cases ht
  cases hbase
  have hfits : ¬ Position.IsStuck ⟨.int 0, .float 0⟩ (.int 50) := by
    rintro (⟨_, _, hm, hn, hclash⟩ | ⟨_, _, hm, hn, hclash⟩)
    · cases hm
      cases hn
      exact hclash
    · cases hm
      cases hn
      have hlarge : (2 ^ 54 - 1) * 2 ^ 970 ≤ (50 : Int).natAbs := hclash
      exact absurd hlarge (by decide +kernel)
  obtain ⟨g', u, hok, hdup, hremove⟩ := hcopied hfits
  obtain ⟨n, hn, hid, hearlier⟩ := hdup.label
  have hfree := hdup.free
  rw [Table.key, hid] at hfree
  -- both shorter labels are taken, and the third one is free
  have htwo : n = 2 := by
    rcases lt_trichotomy n 2 with hlt | heq | hgt
    · have htaken : ∀ m < 2, copyKey "guests_copy" m ∈ guests.tableKeys := by decide +kernel
      exact absurd (htaken n hlt) hfree
    · exact heq
    · have hthird : copyKey "guests_copy" 2 ∉ guests.tableKeys := by decide +kernel
      exact absurd (hearlier 2 hgt) hthird
  exact ⟨g', u, hok, by rw [hn, htwo]; decide +kernel, hremove hjoined⟩

end SchemaAtlas.Schema
