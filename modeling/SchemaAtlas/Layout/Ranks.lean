import SchemaAtlas.Layout.Digraph

/-! # Ranks

The nodes of a graph without cycles are sorted so that every edge leads forward, always going
on with the first ready node in a given order. The rank of a node is the length of the longest
path that ends at it.
-/
namespace SchemaAtlas.Layout.Digraph

variable {α : Type} [DecidableEq α]

/-- The element for which `f` is least, the first of several. -/
def least? (f : α → Nat) : List α → Option α
  | [] => none
  | a :: rest => match least? f rest with
    | none => some a
    | some b => if f b < f a then some b else some a

def isReady (g : Digraph α) (sorted : List α) (u : α) : Bool :=
  !sorted.contains u && (g.predecessors u).all sorted.contains

def sortFrom (g : Digraph α) (order : α → Nat) : (bound : Nat) → (sorted : List α) → List α
  | 0, sorted => sorted
  | bound + 1, sorted => match least? order (g.nodes.filter (g.isReady sorted)) with
    | none => sorted
    | some u => g.sortFrom order bound (sorted ++ [u])

/-- The nodes so that every edge leads forward, the first in order as early as possible. -/
def topologicalSort (g : Digraph α) (order : α → Nat) : List α :=
  g.sortFrom order g.nodes.length []

abbrev Ranks (α : Type) := List (α × Nat)

def Ranks.of (ranks : Ranks α) (u : α) : Nat :=
  (ranks.lookup u).getD 0

/-- One more than the largest rank of some nodes, zero if there are none. -/
def above (ranks : Ranks α) (us : List α) : Nat :=
  us.foldl (fun n u => max n (ranks.of u + 1)) 0

def ranks (g : Digraph α) (order : α → Nat) : Ranks α :=
  (g.topologicalSort order).foldl (fun ranks u => ranks ++ [(u, above ranks (g.predecessors u))]) []

end SchemaAtlas.Layout.Digraph
