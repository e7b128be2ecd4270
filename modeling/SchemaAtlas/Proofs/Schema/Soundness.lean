import SchemaAtlas.Proofs.Schema.Document
import SchemaAtlas.Proofs.Schema.Inference
import SchemaAtlas.Proofs.Schema.WellFormed
import SchemaAtlas.Schema.Session

/-! # Sound graphs

A graph is sound when no two tables share an id and both ends of every relationship are tables
of the graph. Every operation gives a sound graph if it is given one, or fails.
-/
namespace SchemaAtlas.Schema
open Layout (Pair Settings layout moveTables place)

structure Graph.IsSound (g : Graph) : Prop where
  nodup : g.tableKeys.Nodup
  joins : ∀ r ∈ g.relationships, r.source.key ∈ g.tableKeys ∧ r.target.key ∈ g.tableKeys

theorem key_mem_tableKeys {g : Graph} {t : Table} (h : t ∈ g.tables) : t.key ∈ g.tableKeys :=
  List.mem_map_of_mem h

theorem Graph.joins_iff {g : Graph} {r : Relationship} :
    g.joins r = true ↔ r.source.key ∈ g.tableKeys ∧ r.target.key ∈ g.tableKeys := by
  simp [Graph.joins]

/-- Ids made from labels are texts, and so are their own keys. -/
theorem map_key_eq_map_id {tables : List Table} (h : ∀ t ∈ tables, t.HasOwnIds) :
    tables.map Table.key = tables.map Table.id := by
  refine List.map_congr_left fun t ht => ?_
  obtain ⟨l, _, hid, _⟩ := h t ht
  rw [Table.key, hid]
  rfl

theorem Graph.WellFormed.isSound {g : Graph} (h : g.WellFormed) : g.IsSound where
  nodup := by
    rw [Graph.tableKeys, map_key_eq_map_id h.ownIds]
    exact h.tableIds
  joins r hr := by
    obtain ⟨s, hs, t, ht, hsource, htarget, _⟩ := h.joins r hr
    rw [hsource, htarget]
    exact ⟨key_mem_tableKeys hs, key_mem_tableKeys ht⟩

/-- Inference makes a sound graph of any tables with distinct ids. -/
theorem isSound_inferred {tables : List Table} (h : (tables.map Table.key).Nodup) :
    (inferred tables).IsSound := by
  have hkeys : (inferred tables).tableKeys = tables.map Table.key := by
    rw [Graph.tableKeys, inferred, List.map_map]
    rfl
  refine ⟨hkeys ▸ h, fun r hr => ?_⟩
  obtain ⟨l, hl, rfl⟩ := List.mem_map.mp hr
  obtain ⟨hsource, _, htarget, _⟩ := mem_links.mp hl
  rw [hkeys]
  exact ⟨List.mem_map_of_mem hsource, List.mem_map_of_mem htarget⟩

/-! What the operations give when they do not fail. -/

section Inversion
variable {g g' : Graph}

theorem addTable_eq_ok {t : Table} (h : g.addTable t = .ok g') :
    t.key ∉ g.tableKeys ∧ g' = { g with tables := g.tables ++ [t] } := by
  obtain ⟨_, _, h⟩ := bind_eq_ok.mp h
  dsimp only at h
  split at h
  · cases h
  · split at h
    · cases h
    · next hfree =>
      exact ⟨by simpa using hfree, (Except.ok.inj h).symm⟩

theorem updateTable_eq_ok {t : Table} (h : g.updateTable t = .ok g') :
    g' = { g with tables := g.tables.map fun u => if u.key = t.key then t else u } := by
  obtain ⟨_, _, h⟩ := bind_eq_ok.mp h
  exact (Except.ok.inj h).symm

theorem requireTable_eq_ok {id : Value} {t : Table} (h : g.requireTable id = .ok t) :
    t ∈ g.tables := by
  unfold Graph.requireTable at h
  split at h
  · cases h
    exact List.mem_of_find?_eq_some ‹_›
  · cases h

theorem duplicateTable_eq_ok {id offset : Value} (h : g.duplicateTable id offset = .ok g') :
    ∃ t ∈ g.tables, ∃ position,
      g.addTable (t.relabel (freshLabel (t.label.text ++ "_copy") g.tableKeys) position) =
        .ok g' := by
  obtain ⟨t, ht, h⟩ := bind_eq_ok.mp h
  obtain ⟨_, _, h⟩ := bind_eq_ok.mp h
  obtain ⟨p, _, h⟩ := bind_eq_ok.mp h
  exact ⟨t, requireTable_eq_ok ht, p, h⟩

theorem removeTable_eq_ok {id : Value} (h : g.removeTable id = .ok g') :
    g' = { tables := g.tables.filter fun t => t.key ≠ id.key
           relationships := g.relationships.filter fun r => !r.touches id.key } := by
  obtain ⟨_, _, h⟩ := bind_eq_ok.mp h
  dsimp only at h
  split at h
  · cases h
  · exact (Except.ok.inj h).symm

theorem prune_eq_ok (h : g.prune = .ok g') : g' = g.pruned := by
  obtain ⟨_, _, h⟩ := bind_eq_ok.mp h
  dsimp only at h
  split at h
  · cases h
  · exact (Except.ok.inj h).symm

theorem ownerOf_eq_ok {id : Value} {t : Table} (h : g.ownerOf id = .ok t) :
    t ∈ g.tables ∧ ∃ c ∈ t.columns, c.id.key = id.key := by
  unfold Graph.ownerOf at h
  split at h
  · next hfind =>
    cases h
    exact ⟨List.mem_of_find?_eq_some hfind, by simpa using List.find?_some hfind⟩
  · cases h

theorem connect_eq_ok {source target cardinality : Value} :
    g.connect source target cardinality = .ok g' ↔
      ∃ c, Cardinality.ofValue cardinality = .ok c ∧ ∃ s, g.ownerOf source = .ok s ∧
        ∃ t, g.ownerOf target = .ok t ∧
          g.addRelationship (.drawn s t source target c) = g' := by
  constructor
  · intro h
    obtain ⟨c, hc, h⟩ := bind_eq_ok.mp h
    obtain ⟨s, hs, h⟩ := bind_eq_ok.mp h
    obtain ⟨t, ht, h⟩ := bind_eq_ok.mp h
    exact ⟨c, hc, s, hs, t, ht, Except.ok.inj h⟩
  · rintro ⟨c, hc, s, hs, t, ht, rfl⟩
    rw [Graph.connect, hc, ok_bind, hs, ok_bind, ht, ok_bind]
    rfl

theorem highlight_eq_ok {s : Selection} {ids : List Value} (h : g.highlight s = .ok (g', ids)) :
    g' = g.dim s := by
  unfold Graph.highlight at h
  split at h
  · cases h
    rfl
  · cases h

theorem length_of_place {α : Type} [Layout.Quantity α] {s : Settings α}
    {positions : List (Pair α)} (h : place s g = .ok positions) : positions.length = g.tables.length := by
  obtain ⟨_, _, h⟩ := bind_eq_ok.mp h
  obtain ⟨sizes, _, h⟩ := bind_eq_ok.mp h
  dsimp only at h
  split at h
  · cases h
  · obtain ⟨ranks, _, h⟩ := bind_eq_ok.mp h
    obtain ⟨count, _, h⟩ := bind_eq_ok.mp h
    obtain ⟨centres, _, h⟩ := bind_eq_ok.mp h
    obtain ⟨corners, _, h⟩ := bind_eq_ok.mp h
    obtain ⟨least, _, h⟩ := bind_eq_ok.mp h
    exact length_of_mapM h

theorem layout_eq_ok {s : Settings Value} (h : layout g s = .ok g') :
    ∃ positions, positions.length = g.tables.length ∧ g' = moveTables g positions := by
  obtain ⟨positions, hplace, h⟩ := bind_eq_ok.mp h
  exact ⟨positions, length_of_place hplace, (Except.ok.inj h).symm⟩

theorem infer_eq_ok {tables : List Table} (h : infer tables = .ok g') : g' = inferred tables := by
  unfold infer at h
  split at h
  · cases h
  · exact (Except.ok.inj h).symm

end Inversion

/-! The ids of the tables after operations that only change what tables hold. -/

theorem tableKeys_replace (g : Graph) (t : Table) :
    (g.tables.map fun u => if u.key = t.key then t else u).map Table.key = g.tableKeys := by
  rw [List.map_map]
  refine List.map_congr_left fun u _ => ?_
  rw [Function.comp_apply]
  split
  · exact Eq.symm ‹_›
  · rfl

theorem map_moveTables {g : Graph} {positions : List (Pair Value)} {β : Type}
    (h : positions.length = g.tables.length) {f : Table → β}
    (hf : ∀ (t : Table) (p : Position), f { t with position := p } = f t) :
    (moveTables g positions).tables.map f = g.tables.map f := by
  have hmap : (moveTables g positions).tables.map f =
      ((g.tables.zip positions).map Prod.fst).map f := by
    rw [moveTables, List.map_zipWith, List.map_map, List.map_zip_eq_zipWith]
    simp only [hf]
    rfl
  rw [hmap, List.map_fst_zip (Nat.le_of_eq h.symm)]

theorem tableKeys_moveTables {g : Graph} {positions : List (Pair Value)}
    (h : positions.length = g.tables.length) :
    (moveTables g positions).tableKeys = g.tableKeys :=
  map_moveTables h fun _ _ => rfl

@[simp] theorem tableKeys_reloaded (g : Graph) : g.reloaded.tableKeys = g.tableKeys := by
  rw [Graph.tableKeys, Graph.reloaded, List.map_map]
  rfl

/-! What the operations keep. -/

namespace Graph.IsSound

variable {g g' : Graph} (h : g.IsSound)
include h

theorem of_tableKeys (hk : g'.tableKeys = g.tableKeys)
    (hr : g'.relationships = g.relationships) : g'.IsSound := by
  refine ⟨hk ▸ h.nodup, fun r hmem => ?_⟩
  rw [hk]
  exact h.joins r (hr ▸ hmem)

theorem addTable {t : Table} (ha : g.addTable t = .ok g') : g'.IsSound := by
  obtain ⟨hfree, rfl⟩ := addTable_eq_ok ha
  have hkeys : Graph.tableKeys { g with tables := g.tables ++ [t] } = g.tableKeys ++ [t.key] :=
    List.map_append
  constructor
  · rw [hkeys, ← List.concat_eq_append]
    exact h.nodup.concat hfree
  · intro r hr
    obtain ⟨hsource, htarget⟩ := h.joins r hr
    rw [hkeys]
    exact ⟨List.mem_append_left _ hsource, List.mem_append_left _ htarget⟩

theorem removeTable {id : Value} (hd : g.removeTable id = .ok g') : g'.IsSound := by
  rw [removeTable_eq_ok hd]
  have hkey : ∀ {u : Value}, u ∈ g.tableKeys → u ≠ id.key →
      u ∈ (g.tables.filter fun t => t.key ≠ id.key).map Table.key := by
    intro u hu hne
    obtain ⟨t, ht, rfl⟩ := List.mem_map.mp hu
    exact List.mem_map_of_mem (List.mem_filter.mpr ⟨ht, decide_eq_true hne⟩)
  refine ⟨h.nodup.sublist (List.filter_sublist.map _), fun r hr => ?_⟩
  obtain ⟨hr, huntouched⟩ := List.mem_filter.mp hr
  have hends : r.source.key ≠ id.key ∧ r.target.key ≠ id.key := by
    simpa [Relationship.touches] using huntouched
  obtain ⟨hsource, htarget⟩ := h.joins r hr
  exact ⟨hkey hsource hends.1, hkey htarget hends.2⟩

theorem pruned : g.pruned.IsSound where
  nodup := h.nodup
  joins _ hr := joins_iff.mp (List.mem_filter.mp hr).2

theorem addRelationship {r : Relationship} (hr : r.source.key ∈ g.tableKeys ∧
    r.target.key ∈ g.tableKeys) : (g.addRelationship r).IsSound := by
  rw [Graph.addRelationship]
  split
  · exact h
  · refine ⟨h.nodup, fun s hs => ?_⟩
    rcases List.mem_append.mp hs with hs | hs
    · exact h.joins s hs
    · rw [List.mem_singleton.mp hs]
      exact hr

theorem reloaded : g.reloaded.IsSound := by
  constructor
  · rw [tableKeys_reloaded]
    exact h.nodup
  · intro r hr
    obtain ⟨s, hs, rfl⟩ := List.mem_map.mp hr
    rw [tableKeys_reloaded]
    exact h.joins s hs

end Graph.IsSound

end SchemaAtlas.Schema
