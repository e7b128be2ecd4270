import SchemaAtlas.Layout.Ranks

/-! # Layers

Nodes of one rank form a layer. Within a layer nodes are sorted by the mean position of their
neighbours in other layers, which leaves fewer edges crossing. Sweeps go through the layers
downward by predecessors and upward by successors in turn.
-/
namespace SchemaAtlas.Layout.Digraph

variable {α : Type} [DecidableEq α]

structure Mean where
  sum : Nat
  count : Nat
  deriving DecidableEq, Repr

def Mean.less (a b : Mean) : Bool :=
  a.sum * b.count < b.sum * a.count

def initialLayers (ranks : Ranks α) (order : α → Nat) : List (List α) :=
  let sorted := (ranks.map (·.1)).mergeSort fun u v => order u ≤ order v
  let height := ranks.foldl (fun n r => max n (r.2 + 1)) 0
  (List.range height).map fun rank => sorted.filter fun u => ranks.of u = rank

def positionIn (layers : List (List α)) (u : α) : Nat :=
  match layers.find? (·.contains u) with
  | some layer => layer.idxOf u
  | none => 0

/-- The mean position of the neighbours of a node, or its own position if it has none. -/
def barycenter (neighbours : α → List α) (position : α → Nat) (u : α) : Mean :=
  match neighbours u with
  | [] => ⟨position u, 1⟩
  | vs => ⟨(vs.map position).foldl (· + ·) 0, vs.length⟩

structure Sortable (α : Type) where
  node : α
  mean : Mean
  position : Nat

def Sortable.of (neighbours : α → List α) (position : α → Nat) (u : α) : Sortable α :=
  ⟨u, barycenter neighbours position u, position u⟩

/-- Whether a node may stand before another: by mean, then by position. -/
def Sortable.le (a b : Sortable α) : Bool :=
  a.mean.less b.mean || (!b.mean.less a.mean && a.position ≤ b.position)

def sortLayer (neighbours : α → List α) (position : α → Nat) (layer : List α) : List α :=
  ((layer.map (Sortable.of neighbours position)).mergeSort Sortable.le).map Sortable.node

omit [DecidableEq α] in
theorem sortLayer_perm (neighbours : α → List α) (position : α → Nat) (layer : List α) :
    (sortLayer neighbours position layer).Perm layer := by
  have h := (List.mergeSort_perm (layer.map (Sortable.of neighbours position))
    Sortable.le).map Sortable.node
  simpa [sortLayer, Sortable.of, Function.comp_def] using h

def resort (neighbours : α → List α) (layers : List (List α)) (i : Nat) : List (List α) :=
  layers.modify i (sortLayer neighbours (positionIn layers))

/-- One sweep: downward it passes over the first layer, upward over the last. -/
def sweep (g : Digraph α) (downward : Bool) (layers : List (List α)) : List (List α) :=
  if downward then
    ((List.range layers.length).drop 1).foldl (resort g.predecessors) layers
  else
    (List.range (layers.length - 1)).reverse.foldl (resort g.successors) layers

def sweeps (g : Digraph α) (layers : List (List α)) (count : Nat) : List (List α) :=
  (List.range count).foldl (fun layers i => g.sweep (i % 2 = 0) layers) layers

def layers (g : Digraph α) (ranks : Ranks α) (order : α → Nat) (count : Int) : List (List α) :=
  g.sweeps (initialLayers ranks order) count.toNat

end SchemaAtlas.Layout.Digraph
