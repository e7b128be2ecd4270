import SchemaAtlas.Proofs.Faults
import SchemaAtlas.Schema.Document

/-! # Saving and loading

A graph that has been saved can always be loaded again, and nothing is lost: only comments,
handles and labels that are empty come back as the empty text.
-/
namespace SchemaAtlas.Schema

def Column.reloaded (c : Column) : Column :=
  { c with comment := c.comment.orEmpty }

def Table.reloaded (t : Table) : Table :=
  { t with columns := t.columns.map Column.reloaded, comment := t.comment.orEmpty }

def Relationship.reloaded (r : Relationship) : Relationship :=
  { r with
    sourceHandle := r.sourceHandle.orEmpty
    targetHandle := r.targetHandle.orEmpty
    label := r.label.orEmpty }

/-- A graph that has been saved and loaded. -/
def Graph.reloaded (g : Graph) : Graph :=
  ⟨g.tables.map Table.reloaded, g.relationships.map Relationship.reloaded⟩

/-! Every field is found among those that are written; one that is left out for null is read as
null. -/

theorem Column.ofValue_toValue (c : Column) : Column.ofValue c.toValue = .ok c.reloaded := by
  by_cases hn : c.nullable = .null <;> by_cases hc : c.color = .null <;>
    simp [Column.toValue, Column.ofValue, optionalField, hn, hc, Value.need, Value.getD,
      Value.get?, Value.field?, Column.reloaded, ok_bind, Value.truthy, pure, Except.pure]

theorem Table.ofValue_toValue (t : Table) : Table.ofValue t.toValue = .ok t.reloaded := by
  have hcolumns : (t.columns.map Column.toValue).mapM Column.ofValue =
      .ok (t.columns.map Column.reloaded) := by
    rw [List.mapM_map]
    exact mapM_eq_ok fun c _ => c.ofValue_toValue
  by_cases hc : t.headerColor = .null <;>
    simp [Table.toValue, Table.ofValue, optionalField, hc, Value.need, Value.getD, Value.get?,
      Value.field?, Value.parts, Table.reloaded, ok_bind, Value.truthy, pure, Except.pure, hcolumns]

theorem Kind.ofEdge_toValue (r : Relationship) : Kind.ofEdge r.toValue = .ok r.kind := by
  simp [Relationship.toValue, Kind.ofEdge, Kind.ofValue?, Value.getD, Value.get?, Value.field?,
    ok_bind, pure, Except.pure]

theorem Relationship.ofValue_toValue (r : Relationship) :
    Relationship.ofValue r.toValue = .ok r.reloaded := by
  rw [Relationship.ofValue, Kind.ofEdge_toValue]
  simp [Relationship.toValue, Value.need, Value.getD, Value.get?, Value.field?,
    Relationship.reloaded, ok_bind, pure, Except.pure]

/-- A graph that has been saved can be loaded. -/
theorem Graph.ofDocument_toDocument (g : Graph) (name : Value) :
    Graph.ofDocument (g.toDocument name) = .ok g.reloaded := by
  have htables : (g.tables.map Table.toValue).mapM Table.ofValue =
      .ok (g.tables.map Table.reloaded) := by
    rw [List.mapM_map]
    exact mapM_eq_ok fun t _ => t.ofValue_toValue
  have hrelationships : (g.relationships.map Relationship.toValue).mapM Relationship.ofValue =
      .ok (g.relationships.map Relationship.reloaded) := by
    rw [List.mapM_map]
    exact mapM_eq_ok fun r _ => r.ofValue_toValue
  simp [Graph.toDocument, Graph.ofDocument, Value.getD, Value.get?, Value.field?, Value.parts,
    htables, hrelationships, Graph.reloaded, ok_bind, pure, Except.pure]

end SchemaAtlas.Schema
