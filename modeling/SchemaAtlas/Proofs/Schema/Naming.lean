import SchemaAtlas.Proofs.Schema.Editing

/-! # Tables named by words

Labels and column names of word characters hold no hyphens, so the id of a column tells its table.
Editing keeps tables named that way as long as none is added under another kind of label.
-/
namespace SchemaAtlas.Schema

/-- A text of word characters, which may be empty. -/
def IsWordText (s : String) : Prop :=
  ∀ c ∈ s.toList, Text.isWord c = true

instance (s : String) : Decidable (IsWordText s) :=
  decidable_of_iff (s.toList.all Text.isWord = true) List.all_eq_true

theorem isWord_of_isDigit {c : Char} (h : c.isDigit = true) : Text.isWord c = true := by
  have hbounds : 48 ≤ c.toNat ∧ c.toNat < 58 := by
    simp only [Char.isDigit, Bool.and_eq_true, decide_eq_true_eq] at h
    have hlow := UInt32.le_iff_toNat_le.mp h.1
    have hhigh := UInt32.le_iff_toNat_le.mp h.2
    change 48 ≤ c.toNat at hlow
    change c.toNat ≤ 57 at hhigh
    omega
  rw [Text.isWord, Text.inRanges, Text.wordBounds, Text.crosses_of_le hbounds.1,
    Text.crosses_of_lt hbounds.2]
  rfl

namespace IsWordText

theorem unhyphenated {s : String} (h : IsWordText s) : IsUnhyphenated s := by
  intro hm
  have hhyphen : Text.isWord '-' = false := by decide
  rw [h '-' hm] at hhyphen
  cases hhyphen

theorem append {s t : String} (hs : IsWordText s) (ht : IsWordText t) : IsWordText (s ++ t) := by
  intro c hc
  rw [String.toList_append] at hc
  rcases List.mem_append.mp hc with hc | hc
  · exact hs c hc
  · exact ht c hc

theorem toString (n : Nat) : IsWordText (toString n) := by
  intro c hc
  rw [Nat.toString_eq_ofList_toDigits, String.toList_ofList] at hc
  exact isWord_of_isDigit (Nat.isDigit_of_mem_toDigits (by decide) (by decide) hc)

end IsWordText

theorem freshLabel_mem (base : String) (taken : List Value) :
    freshLabel base taken ∈ copyLabels base taken.length := by
  unfold freshLabel
  cases h : (copyLabels base taken.length).find? fun label =>
      !taken.contains (.str (tableId label)) with
  | none => exact List.mem_cons_self
  | some label => exact List.mem_of_find?_eq_some h

theorem IsWordText.freshLabel {base : String} (h : IsWordText base) (taken : List Value) :
    IsWordText (freshLabel base taken) := by
  rcases List.mem_cons.mp (freshLabel_mem base taken) with heq | hmem
  · rw [heq]
    exact h
  · obtain ⟨i, _, hi⟩ := List.mem_map.mp hmem
    rw [← hi]
    exact (h.append (by decide)).append (IsWordText.toString _)

/-- The label of a table and the names of its columns are words, and all ids are made of them. -/
def Table.IsNamed (t : Table) : Prop :=
  ∃ l, IsWordText l ∧ t.label = .str l ∧ t.id = .str (tableId l) ∧
    ∀ c ∈ t.columns, ∃ n, IsWordText n ∧ c.name = .str n ∧ c.id = .str (columnId l n)

def Table.naming (t : Table) : Value × Value × List (Value × Value) :=
  (t.label, t.id, t.columns.map fun c => (c.name, c.id))

def Table.Owns (t : Table) (columnId : Value) : Prop :=
  ∃ c ∈ t.columns, c.id = columnId

theorem Table.IsNamed.of_naming {t u : Table} (h : t.IsNamed) (hn : u.naming = t.naming) :
    u.IsNamed := by
  simp only [naming, Prod.mk.injEq] at hn
  obtain ⟨hlabel, hid, hcolumns⟩ := hn
  obtain ⟨l, hl, htl, hti, htc⟩ := h
  refine ⟨l, hl, hlabel.trans htl, hid.trans hti, ?_⟩
  intro c hc
  have hmem : (c.name, c.id) ∈ t.columns.map fun c => (c.name, c.id) := by
    rw [← hcolumns]
    exact List.mem_map_of_mem hc
  obtain ⟨d, hd, heq⟩ := List.mem_map.mp hmem
  obtain ⟨hname, hdid⟩ := Prod.mk.inj heq
  rw [← hname, ← hdid]
  exact htc d hd

theorem Table.isNamed_fresh {label : String} (h : IsWordText label) (position : Position) :
    (fresh (.str label) position).IsNamed := by
  refine ⟨label, h, rfl, rfl, ?_⟩
  intro c hc
  rw [List.mem_singleton.mp hc]
  exact ⟨"id", by decide, rfl, rfl⟩

theorem Table.IsNamed.relabel {t : Table} (h : t.IsNamed) {label : String} (hl : IsWordText label)
    (position : Position) : (t.relabel label position).IsNamed := by
  obtain ⟨_, _, _, _, htc⟩ := h
  refine ⟨label, hl, rfl, rfl, ?_⟩
  intro c hc
  obtain ⟨d, hd, rfl⟩ := List.mem_map.mp hc
  obtain ⟨n, hn, hname, _⟩ := htc d hd
  refine ⟨n, hn, hname, ?_⟩
  rw [hname]
  rfl

theorem columnId_injective {l l' n n' : String} (hl : IsWordText l) (hl' : IsWordText l')
    (h : columnId l n = columnId l' n') : l = l' ∧ n = n' := by
  rcases columnId_eq_iff.mp h with heq | ⟨p, rfl, _⟩ | ⟨p, rfl, _⟩
  · exact heq
  · exact absurd hl'.unhyphenated (not_isUnhyphenated_columnId _ _)
  · exact absurd hl.unhyphenated (not_isUnhyphenated_columnId _ _)

theorem Table.IsNamed.id_eq_of_owns {t u : Table} (ht : t.IsNamed) (hu : u.IsNamed)
    {columnId : Value} (hto : t.Owns columnId) (huo : u.Owns columnId) : t.id = u.id := by
  obtain ⟨l, hl, _, hid, hc⟩ := ht
  obtain ⟨l', hl', _, hid', hc'⟩ := hu
  obtain ⟨c, hcm, rfl⟩ := hto
  obtain ⟨d, hdm, heq⟩ := huo
  obtain ⟨n, _, _, hcid⟩ := hc c hcm
  obtain ⟨n', _, _, hdid⟩ := hc' d hdm
  rw [hcid, hdid] at heq
  obtain ⟨rfl, _⟩ := columnId_injective hl' hl (Value.str.inj heq)
  rw [hid, hid']

/-! What becomes of the names when a graph is edited. -/

section Renaming

variable {g g' : Graph}

theorem isNamed_of_map_naming (h : ∀ t ∈ g.tables, t.IsNamed)
    (hm : g'.tables.map Table.naming = g.tables.map Table.naming) :
    ∀ t ∈ g'.tables, t.IsNamed := by
  intro t ht
  have hmem : t.naming ∈ g.tables.map Table.naming := by
    rw [← hm]
    exact List.mem_map_of_mem ht
  obtain ⟨u, hu, hnaming⟩ := List.mem_map.mp hmem
  exact (h u hu).of_naming hnaming.symm

theorem naming_reloaded (t : Table) : t.reloaded.naming = t.naming := by
  simp [Table.naming, Table.reloaded, Column.reloaded, Function.comp_def]

theorem map_naming_dim (g : Graph) (s : Selection) :
    (g.dim s).tables.map Table.naming = g.tables.map Table.naming := by
  rw [Graph.dim, List.map_map]
  rfl

theorem naming_flagForeign (ids : List Value) (t : Table) :
    (t.flagForeign ids).naming = t.naming := by
  simp [Table.naming, Table.flagForeign, Function.comp_def]

theorem map_naming_map {f : Table → Table} (hf : ∀ t, (f t).naming = t.naming)
    (tables : List Table) : (tables.map f).map Table.naming = tables.map Table.naming := by
  rw [List.map_map]
  exact List.map_congr_left fun t _ => hf t

/-- An operation that adds tables only under labels of word characters, and puts none in the place
of another. -/
def Edit.IsOrdinary : Edit → Prop
  | .addTable t => ∃ label position, IsWordText label ∧ t = .fresh (.str label) position
  | .updateTable _ => False
  | _ => True

theorem Edit.IsOrdinary.isNamed {e : Edit} (he : e.IsOrdinary) (ha : e.apply g = .ok g')
    (h : ∀ t ∈ g.tables, t.IsNamed) : ∀ t ∈ g'.tables, t.IsNamed := by
  have hadd : ∀ u, u.IsNamed → g.addTable u = .ok g' → ∀ t ∈ g'.tables, t.IsNamed := by
    intro u hu hadd t ht
    obtain ⟨_, rfl⟩ := addTable_eq_ok hadd
    rcases List.mem_append.mp ht with ht | ht
    · exact h t ht
    · rw [List.mem_singleton.mp ht]
      exact hu
  cases e with
  | addTable t =>
    obtain ⟨label, position, hl, rfl⟩ := he
    exact hadd _ (Table.isNamed_fresh hl position) ha
  | updateTable t => exact he.elim
  | duplicateTable id offset =>
    obtain ⟨t, ht, p, ha⟩ := duplicateTable_eq_ok ha
    have hnamed := h t ht
    obtain ⟨l, hl, hlabel, _⟩ := hnamed
    have hbase : IsWordText (t.label.text ++ "_copy") := by
      rw [hlabel]
      exact hl.append (by decide)
    exact hadd _ ((h t ht).relabel (hbase.freshLabel _) p) ha
  | removeTable id =>
    rw [removeTable_eq_ok ha]
    exact fun t ht => h t (List.mem_filter.mp ht).1
  | prune =>
    rw [prune_eq_ok ha]
    exact h
  | connect source target cardinality =>
    obtain ⟨c, _, s, _, t, _, rfl⟩ := connect_eq_ok.mp ha
    unfold Graph.addRelationship
    split <;> exact h
  | highlight selection =>
    obtain ⟨⟨dimmed, ids⟩, hdim, ha⟩ := bind_eq_ok.mp ha
    cases ha
    rw [highlight_eq_ok hdim]
    exact isNamed_of_map_naming h (map_naming_dim g selection)
  | layout settings direction =>
    obtain ⟨s, _, ha⟩ := bind_eq_ok.mp ha
    obtain ⟨positions, hlen, rfl⟩ := layout_eq_ok ha
    exact isNamed_of_map_naming h (map_moveTables hlen fun _ _ => rfl)
  | infer =>
    rw [infer_eq_ok ha]
    exact isNamed_of_map_naming h (map_naming_map (naming_flagForeign _) _)
  | reload name =>
    rw [Edit.apply, Graph.ofDocument_toDocument] at ha
    cases ha
    exact isNamed_of_map_naming h (map_naming_map naming_reloaded _)

end Renaming

theorem label_of_mem_inForce {ds : List Sql.TableDef} {t : Table}
    (h : t ∈ (Sql.inForce ds).map Sql.TableDef.toTable) : ∃ d ∈ ds, t.label = .str d.name := by
  obtain ⟨d, hd, rfl⟩ := List.mem_map.mp h
  exact ⟨d, Sql.mem_of_mem_inForce hd, rfl⟩

theorem label_of_mem_inferred {tables : List Table} {t : Table} (h : t ∈ (inferred tables).tables) :
    ∃ u ∈ tables, t.label = u.label := by
  obtain ⟨u, hu, rfl⟩ := List.mem_map.mp h
  exact ⟨u, hu, rfl⟩

theorem label_of_mem_parse {sql : String} {t : Table} (h : t ∈ (Sql.parse sql).tables) :
    ∃ d ∈ Sql.definitions sql.toList, t.label = .str d.name := by
  by_cases hkeys : Sql.lastingKeys (Sql.definitions sql.toList) = []
  · rw [Sql.parse_of_keys_eq_nil hkeys] at h
    obtain ⟨u, hu, hlabel⟩ := label_of_mem_inferred h
    rw [hlabel]
    exact label_of_mem_inForce hu
  · rw [Sql.parse_of_keys_ne_nil hkeys] at h
    dsimp only at h
    exact label_of_mem_inForce h

theorem isNamed_of_mem_parse {sql : String} {t : Table} (h : t ∈ (Sql.parse sql).tables)
    (hc : ∀ c ∈ t.columns, IsWordText c.name.text) : t.IsNamed := by
  obtain ⟨l, hl, hid, hcolumns⟩ := (Sql.parse_wellFormed sql).ownIds t h
  obtain ⟨d, hd, hlabel⟩ := label_of_mem_parse h
  obtain rfl : l = d.name := Value.str.inj (hl.symm.trans hlabel)
  refine ⟨d.name, (Sql.definitions_isName hd).word, hl, hid, ?_⟩
  intro c hcm
  obtain ⟨n, hn, hcid⟩ := hcolumns c hcm
  have hword := hc c hcm
  rw [hn] at hword
  exact ⟨n, hword, hn, hcid⟩

end SchemaAtlas.Schema
