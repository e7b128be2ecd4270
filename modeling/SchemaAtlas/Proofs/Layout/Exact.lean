import SchemaAtlas.Proofs.Faults
import SchemaAtlas.Proofs.Layout.Cycles
import SchemaAtlas.Proofs.Layout.Layers
import Mathlib.Algebra.Order.Ring.Rat
import Mathlib.Tactic.Linarith

/-! # Layouts computed exactly

On rationals the arithmetic of a layout never fails, so positions are given by plain functions.
They do not depend on any other value than the settings, the ids of the tables, their visible
rows and the relationships.
-/
namespace SchemaAtlas.Layout
open Schema (Graph Table)

/-- Rationals as quantities. Only a whole number is a number of repetitions. -/
instance : Quantity ℚ where
  origin := 0
  zero := 0
  add a b := .ok (a + b)
  sub a b := .ok (a - b)
  sum xs := .ok xs.sum
  times a n := .ok (a * n)
  neg a := .ok (-a)
  half a := .ok (a / 2)
  less a b := .ok (decide (a < b))
  count a := if a.den = 1 then .ok a.num else .error .unsuitable

@[simp] theorem add_rat (a b : ℚ) : Quantity.add a b = .ok (a + b) := rfl

@[simp] theorem sub_rat (a b : ℚ) : Quantity.sub a b = .ok (a - b) := rfl

@[simp] theorem times_rat (a : ℚ) (n : Int) : Quantity.times a n = .ok (a * n) := rfl

@[simp] theorem neg_rat (a : ℚ) : Quantity.neg a = .ok (-a) := rfl

@[simp] theorem half_rat (a : ℚ) : Quantity.half a = .ok (a / 2) := rfl

@[simp] theorem sum_rat (xs : List ℚ) : Quantity.sum xs = .ok xs.sum := rfl

theorem largest_rat (x : ℚ) (xs : List ℚ) : Quantity.largest x xs = .ok (xs.foldl max x) := by
  have hmax : (fun m x : ℚ => (do return if ← Quantity.less m x then x else m : Except Fault ℚ)) =
      fun m x => .ok (max m x) := by
    funext m x
    rw [max_def_lt]
    by_cases h : m < x <;> simp [Quantity.less, h]
  rw [Quantity.largest, hmax]
  exact List.foldlM_pure

theorem smallest_rat (x : ℚ) (xs : List ℚ) : Quantity.smallest x xs = .ok (xs.foldl min x) := by
  have hmin : (fun m x : ℚ => (do return if ← Quantity.less x m then x else m : Except Fault ℚ)) =
      fun m x => .ok (min x m) := by
    funext m x
    rw [min_def_lt]
    by_cases h : x < m <;> simp [Quantity.less, h]
  rw [Quantity.smallest, hmin]
  simp only [min_comm]
  exact List.foldlM_pure

def Settings.exactSize (s : Settings ℚ) (t : Table) : Pair ℚ :=
  ⟨s.nodeWidth, s.headerHeight + s.rowHeight * visibleRows t⟩

theorem nodeSize_eq (s : Settings ℚ) (t : Table) : s.nodeSize t = .ok (s.exactSize t) := by
  simp [Settings.nodeSize, Settings.exactSize, ok_bind]

section Bands
variable (s : Settings ℚ) (size : Value → Pair ℚ)

/-- The centres of nodes on a line, one after the other from a position on. -/
def stacked (line : ℚ) : (cursor : ℚ) → List Value → List (Spot ℚ)
  | _, [] => []
  | cursor, u :: rest =>
    (u, ⟨line, cursor + (size u).y / 2⟩) ::
      stacked line (cursor + ((size u).y + s.nodeSep)) rest

/-- What a layer measures along the secondary axis, with its gaps. -/
def extent (layer : List Value) : ℚ :=
  (layer.map fun u => (size u).y).sum + s.nodeSep * (layer.length - 1)

/-- What the nodes of a layer measure at most along the primary axis. -/
def depth : (layer : List Value) → ℚ
  | [] => 0
  | u :: rest => (rest.map fun v => (size v).x).foldl max (size u).x

/-- The centres of the nodes of a layer whose band begins at `start`. -/
def band (start : ℚ) (layer : List Value) : List (Spot ℚ) :=
  stacked s size (start + depth size layer / 2) (-extent s size layer / 2) layer

/-- Where the band after that of a layer begins. -/
def nextBand (start : ℚ) : (layer : List Value) → ℚ
  | [] => start
  | u :: rest => start + (depth size (u :: rest) + s.rankSep)

/-- The centres of all nodes, layer by layer. -/
def bands : (start : ℚ) → List (List Value) → List (Spot ℚ)
  | _, [] => []
  | start, layer :: rest => band s size start layer ++ bands (nextBand s size start layer) rest

def withSizes (layer : List Value) : List (Spot ℚ) :=
  layer.map fun u => (u, size u)

theorem stack_eq (start depth cursor : ℚ) (layer : List Value) :
    stack s start depth cursor (withSizes size layer) =
      .ok (stacked s size (start + depth / 2) cursor layer) := by
  induction layer generalizing cursor with
  | nil => rfl
  | cons u rest ih =>
    simp only [withSizes] at ih
    simp [withSizes, stack, stacked, ok_bind, ih]

theorem stackStart_eq (layer : List Value) :
    stackStart s (withSizes size layer) = .ok (-extent s size layer / 2) := by
  simp only [stackStart, withSizes, List.map_map, Function.comp_def, sum_rat, ok_bind, times_rat,
    List.length_map, add_rat, neg_rat, half_rat, extent]
  push_cast
  rfl

theorem bandCentres_eq (start : ℚ) (layer : List Value) :
    bandCentres s start (withSizes size layer) =
      .ok (band s size start layer, nextBand s size start layer) := by
  cases layer with
  | nil => rfl
  | cons u rest =>
    have hstart := stackStart_eq s size (u :: rest)
    have hstack := stack_eq s size start (depth size (u :: rest)) (-extent s size (u :: rest) / 2)
      (u :: rest)
    simp only [withSizes, List.map_cons] at hstart hstack
    simp only [withSizes, List.map_cons, bandCentres, List.map_map, Function.comp_def, largest_rat,
      ok_bind, hstart, band, nextBand]
    rw [depth] at hstack
    simp only [depth, hstack, ok_bind, add_rat]
    rfl

theorem centres_eq (start : ℚ) (layers : List (List Value)) :
    centres s start (layers.map (withSizes size)) = .ok (bands s size start layers) := by
  induction layers generalizing start with
  | nil => rfl
  | cons layer rest ih => simp [centres, bands, bandCentres_eq, ok_bind, ih]

end Bands

/-- The top left corner of a node with a centre and a size. -/
def exactCorner (d : Direction) (size centre : Pair ℚ) : Pair ℚ :=
  let middle := Pair.turn d.isHorizontal ⟨if d.isReversed then -centre.x else centre.x, centre.y⟩
  ⟨middle.x - size.x / 2, middle.y - size.y / 2⟩

theorem corner_eq (d : Direction) (size centre : Pair ℚ) :
    corner d size centre = .ok (exactCorner d size centre) := by
  cases d <;> rfl

def exactLeast (spots : List (Spot ℚ)) : Pair ℚ :=
  match spots.map (·.2) with
  | [] => ⟨0, 0⟩
  | p :: ps => ⟨(ps.map Pair.x).foldl min p.x, (ps.map Pair.y).foldl min p.y⟩

theorem leastCorner_eq (spots : List (Spot ℚ)) :
    leastCorner spots = .ok (exactLeast spots) := by
  rw [leastCorner, exactLeast]
  cases spots.map (·.2) with
  | nil => rfl
  | cons p ps => simp [smallest_rat, ok_bind]

section Place
variable (s : Settings ℚ) (g : Graph)

/-- The size of the table with a key. -/
def sizeOf (u : Value) : Pair ℚ :=
  (lastSpot? (g.tables.map fun t => (t.key, s.exactSize t)) u).getD ⟨0, 0⟩

/-- What the table with a key measures along the primary and the secondary axis. -/
def axialSize (u : Value) : Pair ℚ :=
  (sizeOf s g u).turn s.direction.isHorizontal

def exactRanks : Digraph.Ranks Value :=
  (acyclicGraphOf g).ranks (lastIndex g.tableKeys)

def exactLayers : List (List Value) :=
  (acyclicGraphOf g).layers (exactRanks g) (lastIndex g.tableKeys) s.sweeps.num

def exactCentres : List (Spot ℚ) :=
  bands s (axialSize s g) 0 (exactLayers s g)

/-- The top left corners of the tables before the whole is moved. -/
def exactCorners : List (Spot ℚ) :=
  (exactCentres s g).map fun p => (p.1, exactCorner s.direction (sizeOf s g p.1) p.2)

def exactPosition (t : Table) : Pair ℚ :=
  let p := (lastSpot? (exactCorners s g) t.key).getD ⟨0, 0⟩
  ⟨p.x - (exactLeast (exactCorners s g)).x, p.y - (exactLeast (exactCorners s g)).y⟩

end Place

/-- An id by which a table can be laid out, such as any text: no list, object or null, nor the
float that is not a number. -/
structure IsNodeId (id : Value) : Prop where
  scalar : id.isScalar = true
  notNull : id.key ≠ .null
  notNaN : id.key.isNaN = false

theorem isNodeId_str (s : String) : IsNodeId (.str s) :=
  ⟨rfl, by simp, rfl⟩

section
variable {g : Graph} (hid : ∀ t ∈ g.tables, IsNodeId t.id)
include hid

theorem isMinimalCut_acyclicGraphOf : (graphOf g).IsMinimalCut (acyclicGraphOf g) :=
  Digraph.breakCycles_isMinimalCut (isNaN_of_mem_nodes fun t ht => (hid t ht).notNaN)

/-- Every table of a graph whose cycles have been broken is ranked. -/
theorem ranksOf_eq : ranksOf g (acyclicGraphOf g) = .ok (exactRanks g) := by
  have hperm := (isMinimalCut_acyclicGraphOf hid).acyclic.map_fst_ranks (lastIndex g.tableKeys)
  have hlen : (exactRanks g).length = (acyclicGraphOf g).nodes.length := by
    rw [← hperm.length_eq, List.length_map]
    rfl
  rw [ranksOf]
  exact if_neg (by rw [← hlen]; exact lt_irrefl _)

/-- A layout never fails on rationals. -/
theorem place_eq (s : Settings ℚ) (hs : s.sweeps.den = 1) :
    place s g = .ok (g.tables.map (exactPosition s g)) := by
  have hcheck : g.checkIds = .ok () :=
    if_pos (List.all_eq_true.mpr fun t ht => (hid t ht).scalar)
  have hnull : g.tableKeys.contains .null = false := by
    simpa [Graph.tableKeys, Table.key] using fun t ht => (hid t ht).notNull
  have hcount : Quantity.count s.sweeps = .ok s.sweeps.num := if_pos hs
  have hsizes : g.tables.mapM
      (fun t => do return (t.key, ← s.nodeSize t) : Table → Except Fault _) =
        .ok (g.tables.map fun t => (t.key, s.exactSize t)) := by
    simp only [nodeSize_eq]
    exact List.mapM_pure
  -- What is computed one after the other is replaced by its value, up to the corners.
  rw [place]
  simp only [hcheck, hsizes, hnull, ok_bind, ranksOf_eq hid, hcount, corner_eq, sub_rat]
  rw [if_neg Bool.false_ne_true]
  change (centres s 0 ((exactLayers s g).map (withSizes (axialSize s g))) >>= _) = _
  rw [centres_eq, ok_bind]
  simp only [List.mapM_pure]
  change (leastCorner (exactCorners s g) >>= _) = _
  rw [leastCorner_eq, ok_bind]
  rfl

end

end SchemaAtlas.Layout
