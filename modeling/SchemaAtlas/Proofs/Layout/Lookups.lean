import SchemaAtlas.Proofs.Layout.Placement
import SchemaAtlas.Proofs.Layout.Sweeps
import SchemaAtlas.Proofs.Schema.Soundness

/-! # What a layout looks up

A layout keeps tables of the order, the ranks, the positions, the sizes and the corners of nodes,
and what it looks up in one of them is always there: what one stage leaves covers all that the next
one asks for. So a layout computed exactly gives every table a place, whatever its relationships are
and whether or not ids repeat.
-/
namespace SchemaAtlas.Layout
open Schema (Graph Table Relationship)

namespace Digraph

variable {α : Type} [DecidableEq α]

/-- In one of some sweeps, the layer with a number comes next to be sorted by some neighbours. -/
def Visits (g : Digraph α) (start : List (List α)) (count : Nat) (neighbours : α → List α)
    (layers : List (List α)) (i : Nat) : Prop :=
  ∃ n < count, ∃ before after,
    sweepOrder (n % 2 = 0) (g.sweeps start n).length = before ++ i :: after ∧
      neighbours = g.neighboursIn (n % 2 = 0) ∧
      layers = before.foldl (resort neighbours) (g.sweeps start n)

theorem length_foldl_resort (neighbours : α → List α) (layers : List (List α)) (is : List Nat) :
    (is.foldl (resort neighbours) layers).length = layers.length := by
  induction is generalizing layers with
  | nil => rfl
  | cons i is ih => rw [List.foldl_cons, ih, resort, List.length_modify]

theorem length_sweeps (g : Digraph α) (layers : List (List α)) (n : Nat) :
    (g.sweeps layers n).length = layers.length := by
  induction n with
  | zero => rfl
  | succ n ih => rw [sweeps_succ, sweep_eq, length_foldl_resort, ih]

section Visits
variable {g : Digraph α} {start layers : List (List α)} {count i : Nat} {neighbours : α → List α}

theorem Visits.lt_length (h : g.Visits start count neighbours layers i) : i < layers.length := by
  obtain ⟨n, _, before, after, horder, rfl, rfl⟩ := h
  have hi : i ∈ sweepOrder (n % 2 = 0) (g.sweeps start n).length := by
    rw [horder]
    exact List.mem_append_right _ List.mem_cons_self
  rw [length_foldl_resort]
  exact (mem_sweepOrder.mp hi).1

theorem Visits.isLayered {rank : α → Nat} (h : g.Visits start count neighbours layers i)
    (hs : IsLayered g.nodes rank start) : IsLayered g.nodes rank layers := by
  obtain ⟨n, _, before, after, _, rfl, rfl⟩ := h
  exact (hs.sweeps g n).foldl_resort _ _

theorem Visits.mem_nodes (h : g.Visits start count neighbours layers i) {u v : α}
    (hv : v ∈ neighbours u) : v ∈ g.nodes := by
  obtain ⟨n, _, before, after, _, rfl, _⟩ := h
  have he := mem_neighboursIn.mp hv
  split at he
  · exact g.source_mem _ he
  · exact g.target_mem _ he

end Visits

section Ranks
variable {g : Digraph α} (ha : g.IsAcyclic) (order order' : α → Nat)
include ha

/-- When a node is ranked, its predecessors have their ranks. -/
theorem IsAcyclic.mem_ranked {before after : Ranks α} {p : α × Nat}
    (h : g.ranks order = before ++ p :: after) {v : α} (hv : v ∈ g.predecessors p.1) :
    v ∈ before.map (·.1) := by
  have hkeys : (g.ranks order).map (·.1) = g.topologicalSort order := map_fst_ranksAlong g _
  have hfirst : before.map (·.1) ++ [p.1] <+: g.topologicalSort order := by
    rw [← hkeys, h]
    exact ⟨after.map (·.1), by simp⟩
  exact (ha.topologicalSort order).1.before _ _ hfirst v (mem_predecessors.mp hv)

/-- Every rank in use has a layer, and there are no others. -/
theorem IsAcyclic.length_initialLayers :
    (initialLayers (g.ranks order) order').length = above (g.ranks order) g.nodes := by
  have hkeys := ha.map_fst_ranks order
  have hn := hkeys.nodup_iff.mpr g.nodup_nodes
  rw [initialLayers, List.length_map, List.length_range]
  calc
    (g.ranks order).foldl (fun n p => max n (p.2 + 1)) 0
      = (g.ranks order).foldl (fun n p => max n ((g.ranks order).of p.1 + 1)) 0 :=
        List.foldl_ext _ _ _ fun n p hp => by rw [Ranks.of_eq_of_mem hn hp]
    _ = above (g.ranks order) ((g.ranks order).map (·.1)) := by rw [above, List.foldl_map]
    _ = above (g.ranks order) g.nodes := above_perm _ hkeys

/-- No layer is empty. -/
theorem IsAcyclic.ne_nil_of_mem_layers (count : Int) {layer : List α}
    (h : layer ∈ g.layers (g.ranks order) order' count) : layer ≠ [] := by
  have hlayered := ha.isLayered order order' count
  obtain ⟨i, hi, rfl⟩ := List.mem_iff_getElem.mp h
  have hlen : i < above (g.ranks order) g.nodes := by
    rwa [layers, length_sweeps, ha.length_initialLayers] at hi
  obtain ⟨u, hu, hrank⟩ := (ha.exists_rank_iff order i).mpr hlen
  exact List.ne_nil_of_mem ((hlayered.mem i hi u).mpr ⟨hu, hrank⟩)

end Ranks

end Digraph

theorem lastSpot?_isSome_iff {α : Type} {spots : List (Spot α)} {u : Value} :
    (lastSpot? spots u).isSome ↔ u ∈ spots.map (·.1) := by
  rw [lastSpot?, Option.isSome_map, List.find?_isSome]
  simp

/-- A key is found at its last place. -/
theorem getElem?_lastIndex {keys : List Value} {u : Value} (h : u ∈ keys) :
    keys[lastIndex keys u]? = some u := by
  have hu : u ∈ keys.reverse := List.mem_reverse.mpr h
  have hlt : keys.reverse.idxOf u < keys.length := by
    rw [← List.length_reverse]
    exact List.idxOf_lt_length_of_mem hu
  rw [lastIndex, ← List.getElem?_reverse hlt, List.getElem?_idxOf hu]

/-- The layers of the tables before they are sorted. -/
def startLayers (g : Graph) : List (List Value) :=
  Digraph.initialLayers (exactRanks g) (lastIndex g.tableKeys)

/-- Nothing is missing where a layout relies on it: the order, ranks, positions, sizes and corners
of nodes where they are looked up, a node in each layer, and a way to sort all nodes. -/
structure IsComplete (s : Settings ℚ) (g : Graph) : Prop where
  /-- Removing edges that lead back comes to its end. -/
  breaks : Digraph.BreaksTo Value.isNaN (graphOf g).withoutLoops (acyclicGraphOf g)
  acyclic : (acyclicGraphOf g).IsAcyclic
  /-- So all nodes are sorted and get a rank. -/
  ranked : ((exactRanks g).map (·.1)).Perm (acyclicGraphOf g).nodes
  order : ∀ u ∈ (acyclicGraphOf g).nodes, g.tableKeys[lastIndex g.tableKeys u]? = some u
  /-- When a node is ranked, its predecessors have been. -/
  ranks : ∀ before p after, exactRanks g = before ++ p :: after →
    ∀ v ∈ (acyclicGraphOf g).predecessors p.1, v ∈ before.map (·.1)
  layers : ∀ p ∈ exactRanks g, p.2 < (startLayers g).length
  /-- When a layer is sorted, all its nodes and their neighbours have a position. -/
  positions : ∀ neighbours layers i,
    (acyclicGraphOf g).Visits (startLayers g) s.sweeps.num.toNat neighbours layers i →
      ∃ layer, layers[i]? = some layer ∧ ∀ u ∈ layer,
        u ∈ layers.flatten ∧ (∀ v ∈ neighbours u, v ∈ layers.flatten) ∧
          0 < (Digraph.barycenter neighbours (Digraph.positionIn layers) u).count
  nonempty : ∀ layer ∈ exactLayers s g, layer ≠ []
  sizes : ∀ u ∈ (exactLayers s g).flatten,
    (lastSpot? (g.tables.map fun t => (t.key, s.exactSize t)) u).isSome
  corners : ∀ t ∈ g.tables, (lastSpot? (exactCorners s g) t.key).isSome

section Complete
variable {g : Graph} (hid : ∀ t ∈ g.tables, IsNodeId t.id)
include hid

theorem isLayered_startLayers :
    Digraph.IsLayered (acyclicGraphOf g).nodes (exactRanks g).of (startLayers g) :=
  (isMinimalCut_acyclicGraphOf hid).acyclic.isLayered _ _ 0

theorem isComplete (s : Settings ℚ) : IsComplete s g where
  breaks := Digraph.breaksTo_breakCycles
    (isNaN_of_mem_nodes fun t ht => (hid t ht).notNaN)
  acyclic := (isMinimalCut_acyclicGraphOf hid).acyclic
  ranked := (isMinimalCut_acyclicGraphOf hid).acyclic.map_fst_ranks _
  order u hu := by
    obtain ⟨t, ht, rfl⟩ := (mem_nodes_iff hid).mp hu
    exact getElem?_lastIndex (Schema.key_mem_tableKeys ht)
  ranks _ _ _ h _ := (isMinimalCut_acyclicGraphOf hid).acyclic.mem_ranked _ h
  layers p hp := by
    have hkeys := (isMinimalCut_acyclicGraphOf hid).acyclic.map_fst_ranks (lastIndex g.tableKeys)
    have hn := hkeys.nodup_iff.mpr (acyclicGraphOf g).nodup_nodes
    have hnode := hkeys.mem_iff.mp (List.mem_map_of_mem hp)
    rw [← Digraph.Ranks.of_eq_of_mem hn hp]
    exact (isLayered_startLayers hid).lt_length p.1 hnode
  positions neighbours layers i h := by
    have hlayered := h.isLayered (isLayered_startLayers hid)
    refine ⟨_, List.getElem?_eq_getElem h.lt_length, fun u hu => ⟨?_, fun v hv => ?_, ?_⟩⟩
    · exact List.mem_flatten.mpr ⟨_, List.getElem_mem h.lt_length, hu⟩
    · exact hlayered.mem_flatten.mpr (h.mem_nodes hv)
    · exact Digraph.barycenter_count_pos _ _ _
  nonempty _ h := (isMinimalCut_acyclicGraphOf hid).acyclic.ne_nil_of_mem_layers _ _ _ h
  sizes u hu := by
    obtain ⟨t, ht, rfl⟩ := (mem_nodes_iff hid).mp ((isLayered_exactLayers hid s).mem_flatten.mp hu)
    refine lastSpot?_isSome_iff.mpr (List.mem_map.mpr ⟨(t.key, s.exactSize t), ?_, rfl⟩)
    exact List.mem_map_of_mem (f := fun t => (t.key, s.exactSize t)) ht
  corners t ht := by
    refine lastSpot?_isSome_iff.mpr ?_
    rw [exactCorners, List.map_map]
    exact List.mem_map_of_mem (f := Prod.fst) (mem_exactCentres hid ht)

end Complete

section Moved

/-- The same relationships and the same tables in the same order, but for where they lie. -/
structure IsMoved (g g' : Graph) : Prop where
  tables : List.Forall₂ (fun t u => ∃ p, u = { t with position := p }) g.tables g'.tables
  relationships : g'.relationships = g.relationships

theorem isMoved_moveTables {g : Graph} {positions : List (Pair Value)}
    (h : positions.length = g.tables.length) : IsMoved g (moveTables g positions) := by
  refine ⟨?_, rfl⟩
  change List.Forall₂ _ g.tables (List.zipWith _ g.tables positions)
  generalize g.tables = tables at h ⊢
  induction tables generalizing positions with
  | nil => exact .nil
  | cons t ts ih =>
    cases positions with
    | nil => cases h
    | cons p ps => exact .cons ⟨⟨p.x, p.y⟩, rfl⟩ (ih (Nat.succ.inj h))

variable {α : Type} [Quantity α]

/-- The graph with its tables at their positions, written as values in some way. -/
def layoutWith (write : α → Value) (g : Graph) (s : Settings α) : Except Fault Graph := do
  return moveTables g ((← place s g).map fun p => ⟨write p.x, write p.y⟩)

theorem layout_eq_layoutWith (g : Graph) (s : Settings Value) :
    layout g s = layoutWith id g s := by
  simp [layout, layoutWith]

theorem layoutWith_isMoved {write : α → Value} {g g' : Graph} {s : Settings α}
    (h : layoutWith write g s = .ok g') : IsMoved g g' := by
  obtain ⟨positions, hplace, h⟩ := bind_eq_ok.mp h
  cases h
  exact isMoved_moveTables (by rw [List.length_map, Schema.length_of_place hplace])

end Moved

/-- A layout computed exactly never fails: nothing that it looks up is missing, and the result has
all tables and relationships of the graph, only with new positions. -/
theorem layout_isComplete (s : Settings ℚ) (g : Graph) (n : ℤ) (hs : s.sweeps = n)
    (hid : ∀ t ∈ g.tables, IsNodeId t.id) (write : ℚ → Value) :
    IsComplete s g ∧ ∃ g', layoutWith write g s = .ok g' ∧ IsMoved g g' := by
  have hplace := place_eq hid s (by rw [hs]; exact Rat.den_intCast n)
  have hlayout : layoutWith write g s = .ok (moveTables g
      ((g.tables.map (exactPosition s g)).map fun p => ⟨write p.x, write p.y⟩)) := by
    rw [layoutWith, hplace]
    rfl
  exact ⟨isComplete hid s, _, hlayout, layoutWith_isMoved hlayout⟩

/-- The ring with one of its tables given again, and once more with a column. -/
def crowded : Graph where
  tables := ring.tables ++ [labelled "b", { labelled "a" with
    columns := [{ id := .str "a-id", name := .str "id", type := .str "INT" }] }]
  relationships := ring.relationships

theorem isNodeId_crowded : ∀ t ∈ crowded.tables, IsNodeId t.id := by
  refine List.forall_mem_append.mpr ⟨isNodeId_ring, ?_⟩
  intro t ht
  rcases List.mem_pair.mp ht with rfl | rfl <;> exact isNodeId_str _

theorem layout_isComplete_crowded :
    fractions.sweeps = (3 : ℤ) ∧ (∀ t ∈ crowded.tables, IsNodeId t.id) ∧
      IsComplete fractions crowded ∧
        ∃ g', layoutWith (fun x => .int x.floor) crowded fractions = .ok g' ∧ IsMoved crowded g' :=
  ⟨rfl, isNodeId_crowded, layout_isComplete fractions crowded 3 rfl isNodeId_crowded _⟩

end SchemaAtlas.Layout
