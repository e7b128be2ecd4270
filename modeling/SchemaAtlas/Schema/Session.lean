import SchemaAtlas.Schema.Document
import SchemaAtlas.Schema.Editing
import SchemaAtlas.Schema.Focus
import SchemaAtlas.Schema.Inference
import SchemaAtlas.Layout.Placement
import SchemaAtlas.Value.Order
import SchemaAtlas.Sql.Writer

/-! # Editing sessions

A session is a run of steps, each on the latest graph or on an earlier one. A step that is
refused leaves the graph that it worked on.
-/
namespace SchemaAtlas.Schema

inductive Step where
  | newTable (label : Value) (position : Position)
  | addTable (t : Table)
  | updateTable (t : Table)
  | duplicateTable (id offset : Value)
  | removeTable (id : Value)
  | prune
  | dropTables (ids : List Value)
  | connect (source target cardinality : Value)
  | find (query : Value)
  | highlight (tables relationships : List Value)
  | layout (direction : Option Value)
  | infer
  | reload
  | lookup (id column : Value)
  | write

inductive Report where
  | nothing
  | found (t : Option Table)
  | highlighted (ids : List Value)
  | looked (tableIds : List Value) (t : Option Table) (column : Option Column)
  | script (sql : String)

def reloadName : Value := .str "diagram"

def Step.apply (g : Graph) : Step → Except Fault (Graph × Report)
  | .newTable label position => do
    return (← g.addTable (.fresh label position), .nothing)
  | .addTable t => do return (← g.addTable t, .nothing)
  | .updateTable t => do return (← g.updateTable t, .nothing)
  | .duplicateTable id offset => do return (← g.duplicateTable id offset, .nothing)
  | .removeTable id => do return (← g.removeTable id, .nothing)
  | .prune => do return (← g.prune, .nothing)
  | .dropTables ids => .ok (g.dropTables (ids.map Value.key), .nothing)
  | .connect source target cardinality => do
    return (← g.connect source target cardinality, .nothing)
  | .find query => do return (g, .found (← g.find query))
  | .highlight tables relationships =>
    if (tables ++ relationships).all Value.isScalar then do
      let (dimmed, ids) ←
        g.highlight ⟨tables.map Value.key, relationships.map Value.key⟩
      return (dimmed, .highlighted (← Value.sortDistinct ids))
    else .error .unsuitable
  | .layout direction => do
    return (← Layout.layout g (← Layout.Settings.usual.withDirection? direction), .nothing)
  | .infer => do return (← Schema.infer g.tables, .nothing)
  | .reload => do return (← Graph.ofDocument (g.toDocument reloadName), .nothing)
  | .lookup id column => do
    g.checkIds
    let t := g.table? id
    let ids ← Value.sortDistinct (g.tables.map Table.id)
    return (g, .looked ids t (t.bind fun t => t.column? column))
  | .write => do return (g, .script (← Sql.write g.tables))

/-- The graph after a step, refused or not. -/
def Step.next (g : Graph) (s : Step) : Graph :=
  match s.apply g with
  | .ok (next, _) => next
  | .error _ => g

def Graph.after (g : Graph) (steps : List Step) : Graph :=
  steps.foldl Step.next g

@[simp] theorem Graph.after_nil (g : Graph) : g.after [] = g := rfl

@[simp] theorem Graph.after_cons (g : Graph) (s : Step) (steps : List Step) :
    g.after (s :: steps) = (s.next g).after steps := rfl

theorem Graph.after_append (g : Graph) (steps more : List Step) :
    g.after (steps ++ more) = (g.after steps).after more :=
  List.foldl_append

/-- A step of a session that may go back to an earlier state. -/
structure Move where
  /-- The step, or why it cannot even be read. -/
  step : Except Fault Step
  /-- The number of the state to work on; the latest if none is given. -/
  start : Option Nat := none

def Move.from (m : Move) (latest : Graph) (states : List Graph) : Graph :=
  match m.start with
  | some n => (states[n]?).getD latest
  | none => latest

/-- The answers of a session: for each move the new graph and the report, or a fault. -/
def session (latest : Graph) (states : List Graph) :
    List Move → List (Except Fault (Graph × Report))
  | [] => []
  | m :: rest =>
    let g := m.from latest states
    let answer := m.step.bind (·.apply g)
    let next := match answer with
      | .ok (next, _) => next
      | .error _ => g
    answer :: session next (states ++ [next]) rest

end SchemaAtlas.Schema
