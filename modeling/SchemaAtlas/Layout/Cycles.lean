import SchemaAtlas.Layout.Digraph

/-! # Breaking cycles

A depth-first search from every node in order, successors in order, meets an edge that leads
back to its own path exactly if there is a cycle. Such edges are removed one by one, each time
the first that a new search meets.

A search may forget: when it follows an edge from a forgetful node, its path begins anew at
that node. Cycles through such a node can stay undetected; without forgetful nodes none does.
-/
namespace SchemaAtlas.Layout

structure Search (α : Type) where
  /-- The edges that have not been met. -/
  pending : List (α × α)
  /-- The nodes on the way, the last first. -/
  stack : List α
  /-- How many of them, counted from the last, are remembered as the path. -/
  remembered : Nat
  /-- The nodes from which no edge is pending. -/
  finished : List α

variable {α : Type} [DecidableEq α]

def Search.initial (g : Digraph α) : Search α :=
  ⟨g.edges, [], 0, []⟩

def Search.setOut (s : Search α) (u : α) : Search α :=
  { s with stack := [u], remembered := 1 }

def Search.goBack (s : Search α) (u : α) (below : List α) : Search α :=
  { s with stack := below, remembered := max 1 (s.remembered - 1), finished := u :: s.finished }

/-- Follows an edge from the last node, unless it leads back to the path. -/
def Search.follow (s : Search α) (forgets : α → Bool) (e : α × α) :
    Except (α × α) (Search α) :=
  let remembered := if forgets e.1 then 1 else s.remembered
  if e.2 ∈ s.stack.take remembered then .error e
  else .ok { s with stack := e.2 :: s.stack, remembered := remembered + 1 }

/-- One step: meets the next edge from the last node or goes back. Edges to nodes `explored`
before are not followed. -/
def Search.step (forgets : α → Bool) (explored : List α) (s : Search α) :
    Except (α × α) (Search α) :=
  match s.stack with
  | [] => .ok s
  | u :: below => match s.pending.find? fun e => e.1 = u with
    | none => .ok (s.goBack u below)
    | some e =>
      let s := { s with pending := s.pending.erase e }
      if e.2 ∈ explored then .ok s else s.follow forgets e

/-- Up to `bound` steps. Each step meets an edge or goes back from a node. -/
def Search.run (forgets : α → Bool) (explored : List α) : (bound : Nat) → Search α →
    Except (α × α) (Search α)
  | 0, s => .ok s
  | bound + 1, s => do Search.run forgets explored bound (← s.step forgets explored)

namespace Digraph

def searchAll (g : Digraph α) (forgets : α → Bool) : Except (α × α) (Search α) :=
  g.nodes.foldlM (fun s u =>
    if u ∈ s.finished then .ok s
    else (s.setOut u).run forgets s.finished (2 * g.edges.length + 1)) (Search.initial g)

def backEdge? (g : Digraph α) (forgets : α → Bool) : Option (α × α) :=
  match g.searchAll forgets with
  | .error e => some e
  | .ok _ => none

def breakFrom (forgets : α → Bool) : (bound : Nat) → Digraph α → Digraph α
  | 0, g => g
  | bound + 1, g => match g.backEdge? forgets with
    | none => g
    | some e => breakFrom forgets bound (g.erase e)

def withoutLoops (g : Digraph α) : Digraph α :=
  g.keep fun e => e.1 ≠ e.2

/-- The graph without the cycles that searches detect: loops are removed, then an edge of
every cycle. -/
def breakCycles (g : Digraph α) (forgets : α → Bool) : Digraph α :=
  breakFrom forgets g.edges.length g.withoutLoops

end Digraph

end SchemaAtlas.Layout
