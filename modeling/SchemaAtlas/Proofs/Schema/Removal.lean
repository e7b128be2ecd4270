import SchemaAtlas.Proofs.Layout.Dependence
import SchemaAtlas.Proofs.Schema.Soundness

/-! # Removing tables

As long as both ends of every relationship are tables, it makes no difference whether tables are
removed one after the other, in whatever order, or all dropped at once and the relationships that
have lost an end pruned afterwards.
-/
namespace SchemaAtlas.Schema

/-- No relationship dangles. -/
def Graph.IsJoined (g : Graph) : Prop :=
  ∀ r ∈ g.relationships, r.source.key ∈ g.tableKeys ∧ r.target.key ∈ g.tableKeys

/-- The ids of all tables can serve as keys. -/
def Graph.IsKeyed (g : Graph) : Prop :=
  ∀ k ∈ g.tableKeys, k.isScalar = true

instance (g : Graph) : Decidable g.IsJoined :=
  inferInstanceAs (Decidable (∀ r ∈ g.relationships, _ ∧ _))

instance (g : Graph) : Decidable g.IsKeyed :=
  inferInstanceAs (Decidable (∀ k ∈ g.tableKeys, _))

/-- Whether an end of a relationship has one of some keys. -/
def Relationship.touchesAny (r : Relationship) (keys : List Value) : Bool :=
  keys.contains r.source.key || keys.contains r.target.key

/-- The graph without some tables and without the relationships that touch them. -/
def Graph.withoutTables (g : Graph) (keys : List Value) : Graph where
  tables := g.tables.filter fun t => !keys.contains t.key
  relationships := g.relationships.filter fun r => !r.touchesAny keys

theorem touchesAny_cons (r : Relationship) (k : Value) (keys : List Value) :
    r.touchesAny (k :: keys) = (r.touchesAny [k] || r.touchesAny keys) := by
  simp only [Relationship.touchesAny, List.contains_cons, List.contains_nil, Bool.or_false]
  ac_rfl

theorem touchesAny_singleton (r : Relationship) (k : Value) : r.touchesAny [k] = r.touches k := by
  simp [Relationship.touchesAny, Relationship.touches]

section Without
variable {g : Graph} {k : Value} {keys : List Value}

theorem withoutTables_nil : g.withoutTables [] = g := by
  simp [Graph.withoutTables, Relationship.touchesAny]

theorem withoutTables_cons :
    (g.withoutTables [k]).withoutTables keys = g.withoutTables (k :: keys) := by
  have ht : ∀ t : Table, ((!keys.contains t.key) && !([k].contains t.key)) =
      !(k :: keys).contains t.key := by
    intro t
    rw [List.contains_cons, List.contains_cons, List.contains_nil, Bool.or_false, Bool.not_or,
      Bool.and_comm]
  have hr : ∀ r : Relationship, ((!r.touchesAny keys) && !r.touchesAny [k]) =
      !r.touchesAny (k :: keys) := by
    intro r
    rw [touchesAny_cons r k keys, Bool.not_or, Bool.and_comm]
  rw [Graph.withoutTables, Graph.withoutTables, Graph.withoutTables, List.filter_filter,
    List.filter_filter]
  simp only [ht, hr]

/-- Only which tables are left out counts, not in which order they are named. -/
theorem withoutTables_perm {keys' : List Value} (h : keys.Perm keys') :
    g.withoutTables keys = g.withoutTables keys' := by
  have hcontains : ∀ v, keys.contains v = keys'.contains v := by
    intro v
    rw [Bool.eq_iff_iff, List.contains_iff_mem, List.contains_iff_mem]
    exact h.mem_iff
  simp only [Graph.withoutTables, Relationship.touchesAny, hcontains]

theorem mem_tableKeys_withoutTables {v : Value} :
    v ∈ (g.withoutTables keys).tableKeys ↔ v ∈ g.tableKeys ∧ v ∉ keys := by
  simp only [Graph.tableKeys, Graph.withoutTables, List.mem_map, List.mem_filter,
    Bool.not_eq_true', List.contains_eq_mem, decide_eq_false_iff_not]
  constructor
  · rintro ⟨t, ⟨ht, hk⟩, rfl⟩
    exact ⟨⟨t, ht, rfl⟩, hk⟩
  · rintro ⟨⟨t, ht, rfl⟩, hk⟩
    exact ⟨t, ⟨ht, hk⟩, rfl⟩

theorem touchesAny_eq_false {r : Relationship} :
    r.touchesAny keys = false ↔ r.source.key ∉ keys ∧ r.target.key ∉ keys := by
  simp [Relationship.touchesAny]

theorem Graph.IsJoined.withoutTables (h : g.IsJoined) (keys : List Value) :
    (g.withoutTables keys).IsJoined := by
  intro r hr
  obtain ⟨hr, huntouched⟩ := List.mem_filter.mp hr
  obtain ⟨hsource, htarget⟩ := touchesAny_eq_false.mp (Bool.not_eq_true' _ |>.mp huntouched)
  obtain ⟨hs, ht⟩ := h r hr
  exact ⟨mem_tableKeys_withoutTables.mpr ⟨hs, hsource⟩,
    mem_tableKeys_withoutTables.mpr ⟨ht, htarget⟩⟩

theorem Graph.IsKeyed.withoutTables (h : g.IsKeyed) (keys : List Value) :
    (g.withoutTables keys).IsKeyed := fun v hv =>
  h v (mem_tableKeys_withoutTables.mp hv).1

end Without

theorem exists_requireTable {g : Graph} {id : Value} (h : id.key ∈ g.tableKeys) :
    ∃ t, g.requireTable id = .ok t ∧ t ∈ g.tables ∧ t.key = id.key := by
  obtain ⟨t, ht, hk⟩ := List.mem_map.mp h
  have hsome : (g.table? id).isSome := List.find?_isSome.mpr ⟨t, ht, decide_eq_true hk⟩
  obtain ⟨u, hu⟩ := Option.isSome_iff_exists.mp hsome
  refine ⟨u, by rw [Graph.requireTable, hu], List.mem_of_find?_eq_some hu, ?_⟩
  simpa using List.find?_some hu

/-! What the operations do to a graph in which no relationship dangles. -/

section Operations
variable {g : Graph}

theorem Graph.IsKeyed.checkIds (hkeyed : g.IsKeyed) : g.checkIds = .ok () := by
  rw [checkIds_eq, if_pos (List.all_eq_true.mpr hkeyed)]

/-- A value with the key of a table can serve as a key itself. -/
theorem Graph.IsKeyed.isScalar (hkeyed : g.IsKeyed) {v : Value} (hv : v.key ∈ g.tableKeys) :
    v.isScalar = true := by
  rw [← isScalar_key]
  exact hkeyed _ hv

variable (hkeyed : g.IsKeyed) (hjoined : g.IsJoined)
include hkeyed hjoined

theorem removeTable_eq_withoutTables {id : Value} (h : id.key ∈ g.tableKeys) :
    g.removeTable id = .ok (g.withoutTables [id.key]) := by
  obtain ⟨t, ht, _⟩ := exists_requireTable h
  have hscalar : g.relationships.all (fun r =>
      id.isScalar && r.source.isScalar && r.target.isScalar) = true := by
    refine List.all_eq_true.mpr fun r hr => ?_
    obtain ⟨hsource, htarget⟩ := hjoined r hr
    rw [hkeyed.isScalar h, hkeyed.isScalar hsource, hkeyed.isScalar htarget]
    rfl
  have htables : (g.tables.filter fun t => t.key ≠ id.key) =
      g.tables.filter fun t => !([id.key].contains t.key) := by
    simp
  rw [Graph.removeTable, ht, ok_bind]
  dsimp only
  rw [hscalar, Graph.withoutTables, ← htables]
  simp only [touchesAny_singleton]
  rfl

/-- Tables are removed one after the other, each of them while it is still there. -/
theorem foldlM_removeTable {ids : List Value} (hids : (ids.map Value.key).Nodup)
    (hmem : ∀ id ∈ ids, id.key ∈ g.tableKeys) :
    ids.foldlM Graph.removeTable g = .ok (g.withoutTables (ids.map Value.key)) := by
  induction ids generalizing g with
  | nil => rw [List.map_nil, withoutTables_nil]; rfl
  | cons id ids ih =>
    obtain ⟨hnew, hids⟩ := List.nodup_cons.mp hids
    have hrest : ∀ v ∈ ids, v.key ∈ (g.withoutTables [id.key]).tableKeys := by
      intro v hv
      refine mem_tableKeys_withoutTables.mpr ⟨hmem v (List.mem_cons_of_mem _ hv), ?_⟩
      rw [List.mem_singleton]
      intro heq
      exact hnew (heq ▸ List.mem_map_of_mem hv)
    rw [List.foldlM_cons, removeTable_eq_withoutTables hkeyed hjoined (hmem id List.mem_cons_self),
      ok_bind, ih (hkeyed.withoutTables _) (hjoined.withoutTables _) hids hrest, withoutTables_cons,
      List.map_cons]

/-- Dropping tables and pruning takes away just the relationships that touch them. -/
theorem prune_dropTables (keys : List Value) :
    (g.dropTables keys).prune = .ok (g.withoutTables keys) := by
  have hkeys : (g.dropTables keys).IsKeyed := hkeyed.withoutTables keys
  have hscalar : g.relationships.all (fun r => r.source.isScalar &&
      (!(g.dropTables keys).tableKeys.contains r.source.key || r.target.isScalar)) = true := by
    refine List.all_eq_true.mpr fun r hr => ?_
    obtain ⟨hsource, htarget⟩ := hjoined r hr
    rw [hkeyed.isScalar hsource, hkeyed.isScalar htarget, Bool.or_true]
    rfl
  have hfilter : g.relationships.filter (g.dropTables keys).joins =
      g.relationships.filter fun r => !r.touchesAny keys := by
    refine List.filter_congr fun r hr => ?_
    obtain ⟨hsource, htarget⟩ := hjoined r hr
    rw [Bool.eq_iff_iff, Graph.joins_iff, Bool.not_eq_true', touchesAny_eq_false]
    have hmem : ∀ v ∈ g.tableKeys, v ∈ (g.dropTables keys).tableKeys ↔ v ∉ keys := fun v hv =>
      mem_tableKeys_withoutTables.trans (and_iff_right hv)
    rw [hmem _ hsource, hmem _ htarget]
  rw [Graph.prune, hkeys.checkIds, ok_bind]
  change (if !g.relationships.all _ then _ else _) = _
  rw [hscalar, Graph.withoutTables, ← hfilter]
  rfl

theorem prune_eq_self : g.prune = .ok g := by
  have h := prune_dropTables hkeyed hjoined []
  rw [withoutTables_nil] at h
  have hdrop : g.dropTables [] = g := by
    simp [Graph.dropTables]
  rwa [hdrop] at h

end Operations

/-- Removing tables one after the other, in any order, never fails, and gives what dropping them
and pruning gives; nothing is left to be pruned then. -/
theorem removeTable_in_turn {g : Graph} (hkeyed : g.IsKeyed) (hjoined : g.IsJoined)
    {ids : List Value} (hids : (ids.map Value.key).Nodup)
    (hmem : ∀ id ∈ ids, id.key ∈ g.tableKeys) :
    ∃ left, (g.dropTables (ids.map Value.key)).prune = .ok left ∧
      (∀ order : List Value, order.Perm ids → order.foldlM Graph.removeTable g = .ok left) ∧
      left.prune = .ok left := by
  refine ⟨g.withoutTables (ids.map Value.key), prune_dropTables hkeyed hjoined _, ?_,
    prune_eq_self (hkeyed.withoutTables _) (hjoined.withoutTables _)⟩
  intro order horder
  have hkeys := horder.map Value.key
  rw [foldlM_removeTable hkeyed hjoined (hkeys.nodup_iff.mpr hids)
    fun id hid => hmem id (horder.mem_iff.mp hid), withoutTables_perm hkeys]

/-- A ring of three tables, one of which also refers to itself. -/
def ringGraph : Graph where
  tables := ["a", "b", "c"].map fun name => .fresh (.str name) .origin
  relationships := [("a", "b"), ("b", "c"), ("c", "c"), ("c", "a")].map fun (source, target) => {
    id := .str (source ++ target)
    source := .str (tableId source)
    target := .str (tableId target)
    sourceHandle := .str (sourceHandle (columnId source "id"))
    targetHandle := .str (targetHandle (columnId target "id")) }

theorem removeTable_in_turn_ring : ringGraph.IsKeyed ∧ ringGraph.IsJoined ∧
    ∃ left, (ringGraph.dropTables [.str "node-a", .str "node-b"]).prune = .ok left ∧
      [Value.str "node-b", .str "node-a"].foldlM Graph.removeTable ringGraph = .ok left ∧
      left.relationships.map Relationship.id = [.str "cc"] := by
  have hkeyed : ringGraph.IsKeyed := by decide
  have hjoined : ringGraph.IsJoined := by decide
  have hids : ([.str "node-a", .str "node-b"].map Value.key).Nodup := by decide
  obtain ⟨left, hpruned, horder, _⟩ := removeTable_in_turn hkeyed hjoined hids (by decide)
  refine ⟨hkeyed, hjoined, left, hpruned, horder _ (List.Perm.swap _ _ _), ?_⟩
  cases hpruned
  decide

end SchemaAtlas.Schema
