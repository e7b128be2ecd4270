import SchemaAtlas.Schema.Graph
import SchemaAtlas.Value.Arithmetic
import SchemaAtlas.Text.Case

/-! # Editing

Operations that make a new graph from a graph: adding, replacing, copying and removing tables,
connecting columns, and finding tables. Those that cannot be carried out say why.
-/
namespace SchemaAtlas.Schema

def Graph.requireTable (g : Graph) (id : Value) : Except Fault Table :=
  match g.table? id with
  | some t => .ok t
  | none => .error (.unknownTable id.text)

/-- A table that holds an integer `id` as primary key and nothing else. -/
def Table.fresh (label : Value) (position : Position) : Table where
  id := .str (tableId label.text)
  label := label
  columns := [{
    id := .str (columnId label.text "id")
    name := .str "id"
    type := .str "INT"
    isPrimary := true }]
  position := position

def Graph.addTable (g : Graph) (t : Table) : Except Fault Graph := do
  g.checkIds
  if !t.id.isScalar then throw .unsuitable
  if g.tableKeys.contains t.key then throw (.tableExists t.id.text)
  return { g with tables := g.tables ++ [t] }

def Graph.updateTable (g : Graph) (t : Table) : Except Fault Graph := do
  let _ ← g.requireTable t.id
  return { g with tables := g.tables.map fun u => if u.key = t.key then t else u }

def copyLabels (base : String) (count : Nat) : List String :=
  base :: (List.range count).map fun i => base ++ "_" ++ toString (i + 2)

/-- The first label for a copy whose table id is not among the keys taken. -/
def freshLabel (base : String) (taken : List Value) : String :=
  ((copyLabels base taken.length).find? fun label =>
    !taken.contains (.str (tableId label))).getD base

def Table.relabel (t : Table) (label : String) (position : Position) : Table :=
  { t with
    id := .str (tableId label)
    label := .str label
    columns := t.columns.map fun c => { c with id := .str (columnId label c.name.text) }
    position := position }

def Position.shift (p : Position) (offset : Value) : Except Fault Position := do
  return ⟨← p.x.add offset, ← p.y.add offset⟩

/-- Appends a copy of a table, moved along the diagonal. Relationships are not copied. -/
def Graph.duplicateTable (g : Graph) (id offset : Value) : Except Fault Graph := do
  let t ← g.requireTable id
  g.checkIds
  let label := freshLabel (t.label.text ++ "_copy") g.tableKeys
  g.addTable (t.relabel label (← t.position.shift offset))

def Relationship.touches (r : Relationship) (key : Value) : Bool :=
  r.source.key = key || r.target.key = key

def Graph.removeTable (g : Graph) (id : Value) : Except Fault Graph := do
  let _ ← g.requireTable id
  let scalar (r : Relationship) := id.isScalar && r.source.isScalar && r.target.isScalar
  if !g.relationships.all scalar then throw .unsuitable
  return {
    tables := g.tables.filter fun t => t.key ≠ id.key
    relationships := g.relationships.filter fun r => !r.touches id.key }

def Graph.joins (g : Graph) (r : Relationship) : Bool :=
  g.tableKeys.contains r.source.key && g.tableKeys.contains r.target.key

def Graph.pruned (g : Graph) : Graph :=
  { g with relationships := g.relationships.filter g.joins }

def Graph.prune (g : Graph) : Except Fault Graph := do
  g.checkIds
  let scalar (r : Relationship) :=
    r.source.isScalar && (!g.tableKeys.contains r.source.key || r.target.isScalar)
  if !g.relationships.all scalar then throw .unsuitable
  return g.pruned

def Graph.dropTables (g : Graph) (keys : List Value) : Graph :=
  { g with tables := g.tables.filter fun t => !keys.contains t.key }

inductive Cardinality where
  | oneToOne
  | oneToMany
  | manyToOne
  | manyToMany
  deriving DecidableEq, Repr

def Cardinality.all : List Cardinality := [.oneToOne, .oneToMany, .manyToOne, .manyToMany]

def Cardinality.label : Cardinality → String
  | .oneToOne => "1:1"
  | .oneToMany => "1:N"
  | .manyToOne => "N:1"
  | .manyToMany => "N:N"

def Cardinality.ofValue (v : Value) : Except Fault Cardinality :=
  match Cardinality.all.find? fun c => v = .str c.label with
  | some c => .ok c
  | none => .error (.unknownCardinality v.shown)

def Graph.ownerOf (g : Graph) (columnId : Value) : Except Fault Table :=
  match g.tables.find? fun t => t.columns.any fun c => c.id.key = columnId.key with
  | some t => .ok t
  | none => .error (.unknownColumn columnId.text)

def Relationship.drawn (source target : Table) (sourceColumn targetColumn : Value)
    (cardinality : Cardinality) : Relationship where
  id := .str ("e-" ++ Schema.sourceHandle sourceColumn.text ++ "-" ++
    Schema.targetHandle targetColumn.text)
  source := source.id
  target := target.id
  sourceHandle := .str (Schema.sourceHandle sourceColumn.text)
  targetHandle := .str (Schema.targetHandle targetColumn.text)
  label := .str cardinality.label
  kind := .manual

def Graph.addRelationship (g : Graph) (r : Relationship) : Graph :=
  if g.relationships.any fun s => s.id.key = r.id.key then g
  else { g with relationships := g.relationships ++ [r] }

def Graph.connect (g : Graph) (sourceColumn targetColumn cardinality : Value) :
    Except Fault Graph := do
  let cardinality ← Cardinality.ofValue cardinality
  let source ← g.ownerOf sourceColumn
  let target ← g.ownerOf targetColumn
  return g.addRelationship (.drawn source target sourceColumn targetColumn cardinality)

def occursIn (needle : List Char) : List Char → Bool
  | [] => needle.isEmpty
  | s@(_ :: rest) => needle.isPrefixOf s || occursIn needle rest

/-- The first table whose label holds a text when letter case is ignored; every label up to
it has to be a text. -/
def findByLabel (needle : List Char) : List Table → Except Fault (Option Table)
  | [] => .ok none
  | t :: rest => match t.label with
    | .str label =>
      if occursIn needle (Text.lower label.toList) then .ok (some t) else findByLabel needle rest
    | _ => .error .notText

/-- The first table whose label holds a query. An empty query finds nothing. -/
def Graph.find (g : Graph) (query : Value) : Except Fault (Option Table) :=
  if query.truthy then
    match query with
    | .str s => findByLabel (Text.lower s.toList) g.tables
    | _ => .error .notText
  else .ok none

end SchemaAtlas.Schema
