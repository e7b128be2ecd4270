import SchemaAtlas.Schema.Graph

/-! # Focus

Selected relationships bring the tables at their ends into focus. Selected tables bring their
relationships and the tables at the other ends, but not the neighbours of those. Every table
out of focus is dimmed; with nothing selected none is.
-/
namespace SchemaAtlas.Schema

structure Selection where
  tables : List Value
  relationships : List Value

def Selection.isEmpty (s : Selection) : Bool :=
  s.tables.isEmpty && s.relationships.isEmpty

/-- Whether a relationship is in focus: selected itself, or at a selected table. -/
def Selection.focuses (s : Selection) (r : Relationship) : Bool :=
  s.relationships.contains r.id.key ||
    s.tables.contains r.source.key || s.tables.contains r.target.key

def Graph.inFocus (g : Graph) (s : Selection) : List Relationship :=
  if s.isEmpty then [] else g.relationships.filter s.focuses

/-- The keys of the tables in focus: those selected and the ends of relationships. -/
def Graph.focusedKeys (g : Graph) (s : Selection) : List Value :=
  s.tables ++ (g.inFocus s).flatMap fun r => [r.source.key, r.target.key]

def Graph.dim (g : Graph) (s : Selection) : Graph :=
  let focused := g.focusedKeys s
  { g with tables := g.tables.map fun t =>
      { t with dimmed := !s.isEmpty && !focused.contains t.key } }

@[simp] theorem Graph.relationships_dim (g : Graph) (s : Selection) :
    (g.dim s).relationships = g.relationships := rfl

@[simp] theorem Graph.tableKeys_dim (g : Graph) (s : Selection) :
    (g.dim s).tableKeys = g.tableKeys := by
  simp [Graph.dim, Graph.tableKeys, Table.key, Function.comp_def]

def Graph.hasScalarIds (g : Graph) : Bool :=
  g.tables.all (fun t => t.id.isScalar) &&
    g.relationships.all fun r => r.id.isScalar && r.source.isScalar && r.target.isScalar

/-- Dims the tables out of focus; also gives the ids of the relationships in focus. -/
def Graph.highlight (g : Graph) (s : Selection) : Except Fault (Graph × List Value) :=
  if s.isEmpty || g.hasScalarIds then
    .ok (g.dim s, (g.inFocus s).map Relationship.id)
  else .error .unsuitable

end SchemaAtlas.Schema
