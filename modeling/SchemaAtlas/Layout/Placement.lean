import SchemaAtlas.Layout.Cycles
import SchemaAtlas.Layout.Layers
import SchemaAtlas.Layout.Quantity
import SchemaAtlas.Layout.Settings

/-! # Placing tables

Ranks follow each other along the primary axis, the tables of a rank are stacked along the
secondary axis around a common line. The whole is moved so that its smallest coordinates
are zero.
-/
namespace SchemaAtlas.Layout
open Schema (Graph Table)

structure Pair (α : Type) where
  x : α
  y : α
  deriving DecidableEq

/-- The pair with its parts exchanged unless ranks are horizontal: what lies along the primary
axis, then along the secondary one, or back. -/
def Pair.turn (horizontal : Bool) (p : Pair α) : Pair α :=
  if horizontal then p else ⟨p.y, p.x⟩

abbrev Spot (α : Type) := Value × Pair α

def lastSpot? (spots : List (Spot α)) (node : Value) : Option (Pair α) :=
  (spots.reverse.find? fun s => s.1 = node).map (·.2)

section

variable {α : Type} [Quantity α]
open Quantity

def visibleRows (t : Table) : Nat :=
  if t.isExpanded then t.columns.length else 0

def Settings.nodeSize (s : Settings α) (t : Table) : Except Fault (Pair α) := do
  return ⟨s.nodeWidth, ← add s.headerHeight (← times s.rowHeight (visibleRows t))⟩

/-- The centres of the nodes of a layer of some depth whose band begins at `start`, stacked
from the position `cursor` on. Sizes are along the primary and the secondary axis. -/
def stack (s : Settings α) (start depth : α) : (cursor : α) → List (Spot α) →
    Except Fault (List (Spot α))
  | _, [] => .ok []
  | cursor, (node, size) :: rest => do
    let primary ← add start (← half depth)
    let secondary ← add cursor (← half size.y)
    let cursor ← add cursor (← add size.y s.nodeSep)
    return (node, ⟨primary, secondary⟩) :: (← stack s start depth cursor rest)

/-- Where the stack of a layer begins, so that its middle lies on the common line. -/
def stackStart (s : Settings α) (layer : List (Spot α)) : Except Fault α := do
  let lengths ← sum (layer.map (·.2.y))
  let gaps ← times s.nodeSep ((layer.length : Int) - 1)
  half (← neg (← add lengths gaps))

/-- The centres of the nodes of a layer, and the beginning of the next band. -/
def bandCentres (s : Settings α) (start : α) (layer : List (Spot α)) :
    Except Fault (List (Spot α) × α) :=
  match layer with
  | [] => .ok ([], start)
  | first :: rest => do
    let depth ← largest first.2.x (rest.map (·.2.x))
    let placed ← stack s start depth (← stackStart s layer) layer
    return (placed, ← add start (← add depth s.rankSep))

def centres (s : Settings α) (start : α) : List (List (Spot α)) → Except Fault (List (Spot α))
  | [] => .ok []
  | layer :: rest => do
    let (placed, next) ← bandCentres s start layer
    return placed ++ (← centres s next rest)

def corner (direction : Direction) (size centre : Pair α) : Except Fault (Pair α) := do
  let primary ← if direction.isReversed then neg centre.x else pure centre.x
  let middle := Pair.turn direction.isHorizontal ⟨primary, centre.y⟩
  return ⟨← sub middle.x (← half size.x), ← sub middle.y (← half size.y)⟩

def leastCorner (spots : List (Spot α)) : Except Fault (Pair α) :=
  match spots.map (·.2) with
  | [] => .ok ⟨origin, origin⟩
  | p :: ps => do return ⟨← smallest p.x (ps.map Pair.x), ← smallest p.y (ps.map Pair.y)⟩

/-- The relation between tables as a directed graph over their keys; relationships with an
unknown end are left out. -/
def graphOf (g : Graph) : Digraph Value :=
  .ofLists g.tableKeys (g.relationships.map fun r => (r.source.key, r.target.key))

/-- The place of a key among those of the tables, the last one if it occurs repeatedly. -/
def lastIndex (keys : List Value) (node : Value) : Nat :=
  keys.length - 1 - keys.reverse.idxOf node

/-- The relation between tables without its cycles. What is not a number never counts as the
table met before, so the search for cycles forgets its path there. -/
def acyclicGraphOf (g : Graph) : Digraph Value :=
  (graphOf g).breakCycles Value.isNaN

/-- The ranks of the tables of a graph whose cycles have been broken. A cycle that is left
keeps its tables from being sorted. -/
def ranksOf (g : Graph) (dag : Digraph Value) : Except Fault (Digraph.Ranks Value) :=
  let ranks := dag.ranks (lastIndex g.tableKeys)
  if ranks.length < dag.nodes.length then .error .cycleLeft else .ok ranks

def place (s : Settings α) (g : Graph) : Except Fault (List (Pair α)) := do
  g.checkIds
  let sizes ← g.tables.mapM fun t => do return (t.key, ← s.nodeSize t)
  if g.tableKeys.contains .null then throw .nullNode
  let sizeOf (node : Value) := (lastSpot? sizes node).getD ⟨zero, zero⟩
  let dag := acyclicGraphOf g
  let ranks ← ranksOf g dag
  let layers := dag.layers ranks (lastIndex g.tableKeys) (← count s.sweeps)
  let spots := layers.map fun layer =>
    layer.map fun node => (node, (sizeOf node).turn s.direction.isHorizontal)
  let corners ← (← centres s origin spots).mapM fun (node, centre) => do
    return (node, ← corner s.direction (sizeOf node) centre)
  let least ← leastCorner corners
  g.tables.mapM fun t => do
    let p := (lastSpot? corners t.key).getD ⟨origin, origin⟩
    return ⟨← sub p.x least.x, ← sub p.y least.y⟩

end

def moveTables (g : Graph) (positions : List (Pair Value)) : Graph :=
  { g with tables :=
      List.zipWith (fun t p => { t with position := ⟨p.x, p.y⟩ }) g.tables positions }

/-- Lays a graph out. Relationships are kept as they are. -/
def layout (g : Graph) (s : Settings Value) : Except Fault Graph := do
  return moveTables g (← place s g)

end SchemaAtlas.Layout
