import SchemaAtlas.Proofs.Schema.Document

/-! # Loading as a normal form

What a document describes is written so that it is read back unchanged, however odd the
document: the values that saving and loading would change are gone after the first load. The
same holds of every graph whose fields have the types that they should have.
-/
namespace SchemaAtlas.Value

def IsText (v : Value) : Prop :=
  ∃ s, v = .str s

def IsNumber (v : Value) : Prop :=
  (∃ n, v = .int n) ∨ ∃ x, v = .float x

theorem IsText.orEmpty_eq {v : Value} (h : v.IsText) : v.orEmpty = v := by
  obtain ⟨s, rfl⟩ := h
  exact orEmpty_str s

end SchemaAtlas.Value

namespace SchemaAtlas.Schema

structure Column.IsTyped (c : Column) : Prop where
  id : c.id.IsText
  name : c.name.IsText
  type : c.type.IsText
  comment : c.comment.IsText
  nullable : c.nullable = .null ∨ ∃ b, c.nullable = .bool b
  color : c.color = .null ∨ c.color.IsText

structure Table.IsTyped (t : Table) : Prop where
  id : t.id.IsText
  label : t.label.IsText
  columns : ∀ c ∈ t.columns, c.IsTyped
  comment : t.comment.IsText
  headerColor : t.headerColor = .null ∨ t.headerColor.IsText
  position : t.position.x.IsNumber ∧ t.position.y.IsNumber

structure Relationship.IsTyped (r : Relationship) : Prop where
  id : r.id.IsText
  source : r.source.IsText
  target : r.target.IsText
  sourceHandle : r.sourceHandle.IsText
  targetHandle : r.targetHandle.IsText
  label : r.label.IsText

structure Graph.IsTyped (g : Graph) : Prop where
  tables : ∀ t ∈ g.tables, t.IsTyped
  relationships : ∀ r ∈ g.relationships, r.IsTyped

/-! Saving and loading keeps the parts whose texts are normal already. -/

theorem Column.reloaded_eq_self {c : Column} (h : c.comment.orEmpty = c.comment) :
    c.reloaded = c := by
  rw [reloaded, h]

theorem Table.reloaded_eq_self {t : Table} (hcolumns : ∀ c ∈ t.columns, c.reloaded = c)
    (hcomment : t.comment.orEmpty = t.comment) : t.reloaded = t := by
  have hmap : t.columns.map Column.reloaded = t.columns :=
    (List.map_congr_left hcolumns).trans (List.map_id' t.columns)
  rw [reloaded, hmap, hcomment]

theorem Relationship.reloaded_eq_self {r : Relationship}
    (hsource : r.sourceHandle.orEmpty = r.sourceHandle)
    (htarget : r.targetHandle.orEmpty = r.targetHandle) (hlabel : r.label.orEmpty = r.label) :
    r.reloaded = r := by
  rw [reloaded, hsource, htarget, hlabel]

theorem Graph.reloaded_eq_self {g : Graph} (htables : ∀ t ∈ g.tables, t.reloaded = t)
    (hrelationships : ∀ r ∈ g.relationships, r.reloaded = r) : g.reloaded = g := by
  have ht : g.tables.map Table.reloaded = g.tables :=
    (List.map_congr_left htables).trans (List.map_id' g.tables)
  have hr : g.relationships.map Relationship.reloaded = g.relationships :=
    (List.map_congr_left hrelationships).trans (List.map_id' g.relationships)
  rw [reloaded, ht, hr]

theorem Graph.IsTyped.reloaded_eq {g : Graph} (h : g.IsTyped) : g.reloaded = g := by
  refine Graph.reloaded_eq_self (fun t ht => ?_) fun r hr => ?_
  · have htyped := h.tables t ht
    refine Table.reloaded_eq_self (fun c hc => ?_) htyped.comment.orEmpty_eq
    exact Column.reloaded_eq_self (htyped.columns c hc).comment.orEmpty_eq
  · have htyped := h.relationships r hr
    exact Relationship.reloaded_eq_self htyped.sourceHandle.orEmpty_eq
      htyped.targetHandle.orEmpty_eq htyped.label.orEmpty_eq

/-! What is loaded is normal: where a value counts as false, the empty text has been put in its
place, and all other values are kept. -/

theorem Column.reloaded_of_ofValue {v : Value} {c : Column} (h : Column.ofValue v = .ok c) :
    c.reloaded = c := by
  iterate 5 obtain ⟨_, _, h⟩ := bind_eq_ok.mp h
  obtain ⟨comment, _, h⟩ := bind_eq_ok.mp h
  iterate 2 obtain ⟨_, _, h⟩ := bind_eq_ok.mp h
  cases h
  exact Column.reloaded_eq_self (Value.orEmpty_orEmpty comment)

theorem Table.reloaded_of_ofValue {v : Value} {t : Table} (h : Table.ofValue v = .ok t) :
    t.reloaded = t := by
  iterate 6 obtain ⟨_, _, h⟩ := bind_eq_ok.mp h
  obtain ⟨columns, hcolumns, h⟩ := bind_eq_ok.mp h
  obtain ⟨comment, _, h⟩ := bind_eq_ok.mp h
  iterate 5 obtain ⟨_, _, h⟩ := bind_eq_ok.mp h
  cases h
  refine Table.reloaded_eq_self (fun c hc => ?_) (Value.orEmpty_orEmpty comment)
  obtain ⟨w, _, hw⟩ := exists_of_mem_mapM hcolumns hc
  exact Column.reloaded_of_ofValue hw

theorem Relationship.reloaded_of_ofValue {v : Value} {r : Relationship}
    (h : Relationship.ofValue v = .ok r) : r.reloaded = r := by
  iterate 3 obtain ⟨_, _, h⟩ := bind_eq_ok.mp h
  obtain ⟨source, _, h⟩ := bind_eq_ok.mp h
  obtain ⟨target, _, h⟩ := bind_eq_ok.mp h
  obtain ⟨label, _, h⟩ := bind_eq_ok.mp h
  obtain ⟨kind, _, h⟩ := bind_eq_ok.mp h
  cases h
  exact Relationship.reloaded_eq_self (Value.orEmpty_orEmpty source) (Value.orEmpty_orEmpty target)
    (Value.orEmpty_orEmpty label)

theorem Graph.reloaded_of_ofDocument {d : Value} {g : Graph} (h : Graph.ofDocument d = .ok g) :
    g.reloaded = g := by
  iterate 2 obtain ⟨_, _, h⟩ := bind_eq_ok.mp h
  obtain ⟨tables, htables, h⟩ := bind_eq_ok.mp h
  iterate 2 obtain ⟨_, _, h⟩ := bind_eq_ok.mp h
  obtain ⟨relationships, hrelationships, h⟩ := bind_eq_ok.mp h
  cases h
  refine Graph.reloaded_eq_self (fun t ht => ?_) fun r hr => ?_
  · obtain ⟨w, _, hw⟩ := exists_of_mem_mapM htables ht
    exact Table.reloaded_of_ofValue hw
  · obtain ⟨w, _, hw⟩ := exists_of_mem_mapM hrelationships hr
    exact Relationship.reloaded_of_ofValue hw

/-- Graphs of the right types and all graphs that documents describe are read back from their
own documents, whatever these are called. -/
theorem ofDocument_toDocument_eq_self (g : Graph)
    (h : g.IsTyped ∨ ∃ d, Graph.ofDocument d = .ok g) (name : Value) :
    Graph.ofDocument (g.toDocument name) = .ok g := by
  rw [Graph.ofDocument_toDocument]
  rcases h with h | ⟨d, h⟩
  · rw [h.reloaded_eq]
  · rw [Graph.reloaded_of_ofDocument h]

/-- A document most of whose values are not what they should be. -/
def oddDocument : Value :=
  .object [
    ("edges", .list [.object [
      ("id", .null), ("source", .int 3), ("target", .list []), ("sourceHandle", .bool false),
      ("targetHandle", .list [.null]), ("label", .int 7), ("style", .object []),
      ("data", .object [("kind", .str "dotted")])]]),
    ("nodes", .list [.object [
      ("id", .bool true), ("position", .object [("y", .str "low")]),
      ("data", .object [
        ("comment", .int 0), ("isExpanded", .null), ("dimmed", .list []), ("headerColor", .int 0),
        ("columns", .list [.object [
          ("id", .int 1), ("name", .null), ("isPk", .str "no"), ("comment", .object []),
          ("nullable", .int 0), ("color", .bool false)]])])]])]

/-- The graph that it describes all the same. -/
def oddGraph : Graph where
  tables := [{
    id := .bool true
    label := .str ""
    columns := [{
      id := .int 1, name := .null, type := .str "", isPrimary := true
      nullable := .int 0, color := .bool false }]
    headerColor := .int 0
    position := ⟨.float 0, .str "low"⟩ }]
  relationships := [{
    id := .null, source := .int 3, target := .list [], sourceHandle := .str ""
    targetHandle := .list [.null], label := .int 7, kind := .manual }]

theorem ofDocument_toDocument_eq_self_odd :
    Graph.ofDocument oddDocument = .ok oddGraph ∧
      Graph.ofDocument (oddGraph.toDocument (.str "odd")) = .ok oddGraph := by
  have h : Graph.ofDocument oddDocument = .ok oddGraph := rfl
  exact ⟨h, ofDocument_toDocument_eq_self oddGraph (.inr ⟨oddDocument, h⟩) (.str "odd")⟩

end SchemaAtlas.Schema
