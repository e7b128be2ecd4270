import SchemaAtlas.Proofs.Schema.Soundness
import SchemaAtlas.Proofs.Sql.WellFormed

/-! # Runs of edits

However a sound graph is edited, it stays sound: each operation keeps it so or fails, and one
that fails leaves the graph as it was. Graphs of scripts are sound to begin with.
-/
namespace SchemaAtlas.Schema
open Layout (Settings layout)

/-- An operation with all it is given. -/
inductive Edit where
  | addTable (t : Table)
  | updateTable (t : Table)
  | duplicateTable (id offset : Value)
  | removeTable (id : Value)
  | prune
  | connect (source target cardinality : Value)
  | highlight (selection : Selection)
  | layout (settings : Settings Value) (direction : Option Value)
  | infer
  | reload (name : Value)

def Edit.apply (g : Graph) : Edit → Except Fault Graph
  | .addTable t => g.addTable t
  | .updateTable t => g.updateTable t
  | .duplicateTable id offset => g.duplicateTable id offset
  | .removeTable id => g.removeTable id
  | .prune => g.prune
  | .connect source target cardinality => g.connect source target cardinality
  | .highlight selection => do return (← g.highlight selection).1
  | .layout settings direction => do Layout.layout g (← settings.withDirection? direction)
  | .infer => Schema.infer g.tables
  | .reload name => Graph.ofDocument (g.toDocument name)

/-- The graph after an operation, which leaves it as it was if it fails. -/
def Edit.next (g : Graph) (e : Edit) : Graph :=
  match e.apply g with
  | .ok next => next
  | .error _ => g

def Graph.edited (g : Graph) (edits : List Edit) : Graph :=
  edits.foldl Edit.next g

/-- What operations keep that do not fail is kept by runs of them. -/
theorem edited_induction {p : Graph → Prop} {g : Graph} {edits : List Edit} (h : p g)
    (hstep : ∀ e ∈ edits, ∀ g g', p g → e.apply g = .ok g' → p g') : p (g.edited edits) := by
  induction edits generalizing g with
  | nil => exact h
  | cons e edits ih =>
    have hnext : p (e.next g) := by
      unfold Edit.next
      split
      · next ha => exact hstep e List.mem_cons_self _ _ h ha
      · exact h
    exact ih hnext fun d hd => hstep d (List.mem_cons_of_mem _ hd)

namespace Graph.IsSound

variable {g g' : Graph} (h : g.IsSound)
include h

theorem apply {e : Edit} (he : e.apply g = .ok g') : g'.IsSound := by
  cases e with
  | addTable t => exact h.addTable he
  | updateTable t =>
    rw [updateTable_eq_ok he]
    exact h.of_tableKeys (tableKeys_replace g t) rfl
  | duplicateTable id offset =>
    obtain ⟨t, _, p, ht⟩ := duplicateTable_eq_ok he
    exact h.addTable ht
  | removeTable id => exact h.removeTable he
  | prune =>
    rw [prune_eq_ok he]
    exact h.pruned
  | connect source target cardinality =>
    obtain ⟨c, _, s, hs, t, ht, rfl⟩ := connect_eq_ok.mp he
    exact h.addRelationship
      ⟨key_mem_tableKeys (ownerOf_eq_ok hs).1, key_mem_tableKeys (ownerOf_eq_ok ht).1⟩
  | highlight selection =>
    obtain ⟨⟨dimmed, ids⟩, hdim, he⟩ := bind_eq_ok.mp he
    cases he
    rw [highlight_eq_ok hdim]
    exact h.of_tableKeys (tableKeys_dim g selection) rfl
  | layout settings direction =>
    obtain ⟨s, _, he⟩ := bind_eq_ok.mp he
    obtain ⟨positions, hlen, rfl⟩ := layout_eq_ok he
    exact h.of_tableKeys (tableKeys_moveTables hlen) rfl
  | infer =>
    rw [infer_eq_ok he]
    exact isSound_inferred h.nodup
  | reload name =>
    rw [Edit.apply, ofDocument_toDocument] at he
    cases he
    exact h.reloaded

theorem edited (edits : List Edit) : (g.edited edits).IsSound :=
  edited_induction h fun _ _ _ _ h => h.apply

end Graph.IsSound

theorem of_return_nothing {x : Except Fault Graph} {g' : Graph} {report : Report}
    (h : (do return (← x, Report.nothing)) = Except.ok (g', report)) : x = .ok g' := by
  obtain ⟨_, hx, h⟩ := bind_eq_ok.mp h
  cases h
  exact hx

/-- A step of a session carries out an operation or only looks at the graph, unless it drops
tables and leaves their relationships. -/
theorem Step.apply_eq_ok {g g' : Graph} {s : Step} {report : Report}
    (hdrop : ∀ ids, s ≠ .dropTables ids) (h : s.apply g = .ok (g', report)) :
    g' = g ∨ ∃ e : Edit, e.apply g = .ok g' := by
  cases s with
  | newTable label position => exact .inr ⟨.addTable (.fresh label position), of_return_nothing h⟩
  | addTable t => exact .inr ⟨.addTable t, of_return_nothing h⟩
  | updateTable t => exact .inr ⟨.updateTable t, of_return_nothing h⟩
  | duplicateTable id offset => exact .inr ⟨.duplicateTable id offset, of_return_nothing h⟩
  | removeTable id => exact .inr ⟨.removeTable id, of_return_nothing h⟩
  | prune => exact .inr ⟨.prune, of_return_nothing h⟩
  | dropTables ids => exact absurd rfl (hdrop ids)
  | connect source target cardinality =>
    exact .inr ⟨.connect source target cardinality, of_return_nothing h⟩
  | highlight tables relationships =>
    rw [Step.apply] at h
    split at h
    · obtain ⟨⟨dimmed, ids⟩, hdim, h⟩ := bind_eq_ok.mp h
      obtain ⟨_, _, h⟩ := bind_eq_ok.mp h
      cases h
      exact .inr ⟨.highlight _, bind_eq_ok.mpr ⟨_, hdim, rfl⟩⟩
    · cases h
  | layout direction =>
    obtain ⟨s, hs, h⟩ := bind_eq_ok.mp h
    exact .inr ⟨.layout .usual direction, bind_eq_ok.mpr ⟨s, hs, of_return_nothing h⟩⟩
  | infer => exact .inr ⟨.infer, of_return_nothing h⟩
  | reload => exact .inr ⟨.reload reloadName, of_return_nothing h⟩
  | find query =>
    obtain ⟨_, _, h⟩ := bind_eq_ok.mp h
    cases h
    exact .inl rfl
  | lookup id column =>
    obtain ⟨_, _, h⟩ := bind_eq_ok.mp h
    obtain ⟨_, _, h⟩ := bind_eq_ok.mp h
    cases h
    exact .inl rfl
  | write =>
    obtain ⟨_, _, h⟩ := bind_eq_ok.mp h
    cases h
    exact .inl rfl

namespace Graph.IsSound

variable {g : Graph}

theorem nextStep (h : g.IsSound) {s : Step} (hdrop : ∀ ids, s ≠ .dropTables ids) :
    (s.next g).IsSound := by
  unfold Step.next
  split
  · next hs =>
    rcases Step.apply_eq_ok hdrop hs with rfl | ⟨e, he⟩
    · exact h
    · exact h.apply he
  · exact h

/-- A session that drops no tables keeps a sound graph sound. -/
theorem after (h : g.IsSound) {steps : List Step} (hdrop : ∀ ids, .dropTables ids ∉ steps) :
    (g.after steps).IsSound := by
  induction steps generalizing g with
  | nil => exact h
  | cons s steps ih =>
    have hs : ∀ ids, s ≠ .dropTables ids := by
      intro ids hs
      exact hdrop ids (hs ▸ List.mem_cons_self)
    exact ih (h.nextStep hs) fun ids hmem => hdrop ids (List.mem_cons_of_mem _ hmem)

end Graph.IsSound

theorem isSound_parse (sql : String) : (Sql.parse sql).IsSound := by
  by_cases h : Sql.lastingKeys (Sql.definitions sql.toList) = []
  · rw [Sql.parse_of_keys_eq_nil h]
    refine isSound_inferred ?_
    rw [map_key_eq_map_id (Sql.inForce_hasOwnIds _)]
    exact Sql.inForce_ids_nodup _
  · rw [Sql.parse_of_keys_ne_nil h]
    exact (Sql.declared_wellFormed (Sql.definitions_ownsKeys sql.toList)).isSound

/-- Editing keeps sound graphs sound, among them those of all scripts. -/
theorem edited_isSound :
    (∀ g : Graph, g.IsSound → ∀ edits, (g.edited edits).IsSound) ∧
      ∀ sql edits, ((Sql.parse sql).edited edits).IsSound :=
  ⟨fun _ h => h.edited, fun sql => (isSound_parse sql).edited⟩

/-- Two tables, one of which refers to the other, with columns by which to find this out. -/
def shop : Graph where
  tables := [.fresh (.str "users") .origin, {
    id := .str (tableId "orders")
    label := .str "orders"
    columns := [{
      id := .str (columnId "orders" "user_id")
      name := .str "user_id"
      type := .str "INT" }] }]
  relationships := [{
    id := .str "e-0"
    source := .str (tableId "users")
    target := .str (tableId "orders")
    sourceHandle := .str (sourceHandle (columnId "users" "id"))
    targetHandle := .str (targetHandle (columnId "orders" "user_id")) }]

/-- A run with a table that is copied, connected and removed, and one that cannot be added. -/
def shopEdits : List Edit := [
  .duplicateTable (.str (tableId "orders")) (.int 50),
  .connect (.str (columnId "orders_copy" "user_id")) (.str (columnId "users" "id")) (.str "N:1"),
  .addTable (.fresh (.str "users") .origin),
  .removeTable (.str (tableId "orders")),
  .reload (.str "shop"),
  .highlight ⟨[.str (tableId "users")], []⟩,
  .layout .usual (some (.str "TB"))]

theorem edited_isSound_shop : shop.IsSound ∧ (shop.edited shopEdits).IsSound := by
  have h : shop.IsSound := ⟨by decide, by decide⟩
  exact ⟨h, edited_isSound.1 shop h shopEdits⟩

example : (shop.edited shopEdits.dropLast).tableKeys =
    [.str "node-users", .str "node-orders_copy"] := by
  decide +kernel

example : (shop.edited shopEdits.dropLast).relationships.map (fun r => (r.source, r.target)) =
    [(.str "node-orders_copy", .str "node-users")] := by
  decide +kernel

end SchemaAtlas.Schema
