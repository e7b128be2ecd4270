import SchemaAtlas.Schema.Graph

/-! # Diagram documents

A graph as a document of named fields, and the graph that a document describes. Loading
ignores fields that it does not know, and fills in those that may be missing. The kind of an
edge without one is told from its style and its label.
-/
namespace SchemaAtlas.Value

def get? (v : Value) (name : String) : Except Fault (Option Value) :=
  match v with
  | .object fields => .ok (field? name fields)
  | _ => .error (.notAnObject v.kind)

def getD (v : Value) (name : String) (default : Value) : Except Fault Value := do
  return (← v.get? name).getD default

def need (v : Value) (name : String) : Except Fault Value :=
  match v with
  | .object fields => match field? name fields with
    | some w => .ok w
    | none => .error (.missingField name)
  | _ => .error .unsuitable

/-- The parts of a value, one after the other: items, field names or characters. -/
def parts (v : Value) : Except Fault (List Value) :=
  match v with
  | .list items => .ok items
  | .object fields => .ok (fields.map fun f => .str f.1)
  | .str s => .ok (s.toList.map fun c => .str (String.singleton c))
  | _ => .error .unsuitable

end SchemaAtlas.Value

namespace SchemaAtlas.Schema

def optionalField (name : String) (v : Value) : List (String × Value) :=
  if v = .null then [] else [(name, v)]

def Column.toValue (c : Column) : Value :=
  .object <| [
    ("id", c.id),
    ("name", c.name),
    ("type", c.type),
    ("isPk", .bool c.isPrimary),
    ("isFk", .bool c.isForeign),
    ("comment", c.comment)] ++
    optionalField "nullable" c.nullable ++ optionalField "color" c.color

def Table.toValue (t : Table) : Value :=
  .object [
    ("id", t.id),
    ("type", .str "table"),
    ("position", .object [("x", t.position.x), ("y", t.position.y)]),
    ("data", .object <| [
      ("label", t.label),
      ("columns", .list (t.columns.map Column.toValue)),
      ("comment", t.comment),
      ("isExpanded", .bool t.isExpanded),
      ("dimmed", .bool t.dimmed)] ++ optionalField "headerColor" t.headerColor)]

def Style.toValue (s : Style) : Value :=
  .object <| ("stroke", .str s.stroke) ::
    ((s.strokeWidth.map fun w => ("strokeWidth", .int w)).toList ++
      (s.dashes.map fun d => ("strokeDasharray", .str d)).toList)

def Relationship.toValue (r : Relationship) : Value :=
  .object [
    ("id", r.id),
    ("source", r.source),
    ("target", r.target),
    ("sourceHandle", r.sourceHandle),
    ("targetHandle", r.targetHandle),
    ("type", .str "default"),
    ("animated", .bool false),
    ("label", r.label),
    ("style", r.kind.style.toValue),
    ("markerEnd", .object [("type", .str "arrowclosed"), ("color", .str r.kind.style.stroke)]),
    ("data", .object [("kind", .str r.kind.name)])]

def Graph.toDocument (g : Graph) (name : Value) : Value :=
  .object [
    ("name", name),
    ("nodes", .list (g.tables.map Table.toValue)),
    ("edges", .list (g.relationships.map Relationship.toValue))]

def Column.ofValue (v : Value) : Except Fault Column := do
  return {
    id := ← v.need "id"
    name := ← v.need "name"
    type := ← v.getD "type" (.str "")
    isPrimary := (← v.getD "isPk" (.bool false)).truthy
    isForeign := (← v.getD "isFk" (.bool false)).truthy
    comment := (← v.getD "comment" .null).orEmpty
    nullable := ← v.getD "nullable" .null
    color := ← v.getD "color" .null }

def Table.ofValue (v : Value) : Except Fault Table := do
  let data ← v.getD "data" (.object [])
  let position ← v.getD "position" (.object [])
  return {
    id := ← v.need "id"
    label := ← data.getD "label" (.str "")
    columns := ← (← (← data.getD "columns" (.list [])).parts).mapM Column.ofValue
    comment := (← data.getD "comment" .null).orEmpty
    isExpanded := (← data.getD "isExpanded" (.bool true)) ≠ .bool false
    headerColor := ← data.getD "headerColor" .null
    dimmed := (← data.getD "dimmed" (.bool false)).truthy
    position := ⟨← position.getD "x" (.float 0), ← position.getD "y" (.float 0)⟩ }

/-- The kind that a value names; lists and objects cannot even be looked up. -/
def Kind.ofValue? (v : Value) : Except Fault (Option Kind) :=
  match v with
  | .str name => .ok (Kind.ofName? name)
  | .list _ | .object _ => .error .unsuitable
  | _ => .ok none

/-- The kind of an edge: the one that it names, else inferred if its line is dashed, else
manual if it is labelled. -/
def Kind.ofEdge (edge : Value) : Except Fault Kind := do
  match ← Kind.ofValue? (← (← edge.getD "data" (.object [])).getD "kind" .null) with
  | some kind => return kind
  | none =>
    if (← (← edge.getD "style" (.object [])).getD "strokeDasharray" .null).truthy then
      return .inferred
    else if (← edge.getD "label" .null).truthy then return .manual
    else return .explicit

def Relationship.ofValue (v : Value) : Except Fault Relationship := do
  return {
    id := ← v.need "id"
    source := ← v.need "source"
    target := ← v.need "target"
    sourceHandle := (← v.getD "sourceHandle" .null).orEmpty
    targetHandle := (← v.getD "targetHandle" .null).orEmpty
    label := (← v.getD "label" .null).orEmpty
    kind := ← Kind.ofEdge v }

def Graph.ofDocument (d : Value) : Except Fault Graph := do
  let tables ← (← (← d.getD "nodes" (.list [])).parts).mapM Table.ofValue
  let relationships ← (← (← d.getD "edges" (.list [])).parts).mapM Relationship.ofValue
  return ⟨tables, relationships⟩

end SchemaAtlas.Schema
