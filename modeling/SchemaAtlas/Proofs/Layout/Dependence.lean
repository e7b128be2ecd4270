import SchemaAtlas.Proofs.Layout.Cycles
import SchemaAtlas.Proofs.Layout.Reordered
import SchemaAtlas.Proofs.Schema.Soundness

/-! # What a layout depends on

A layout only sees the ids of the tables, how many rows they show, and which of them are joined
by relationships. So it can be repeated without effect.
-/
namespace SchemaAtlas.Schema
open Layout (visibleRows)

/-- The ids of the tables, each with the number of rows that the table shows. -/
def Graph.outline (g : Graph) : List (Value × Nat) :=
  g.tables.map fun t => (t.key, visibleRows t)

/-- Whether a relationship joins two different tables. -/
def Graph.joinsTwo (g : Graph) (r : Relationship) : Bool :=
  g.joins r && r.source.key ≠ r.target.key

/-- The pairs of different tables that relationships join, in the order in which they come
first. -/
def Graph.joinedPairs (g : Graph) : List (Value × Value) :=
  ((g.relationships.filter g.joinsTwo).map fun r => (r.source.key, r.target.key)).eraseDups

/-- No relationships between different tables lead from a table back to it. -/
def Graph.HasNoCycle (g : Graph) : Prop :=
  ∀ u, ¬ Relation.TransGen (fun u v => (u, v) ∈ g.joinedPairs) u u

/-- The same pairs of tables are joined, in the same order unless there is no cycle. -/
def Graph.IsJoinedLike (g g' : Graph) : Prop :=
  g.joinedPairs = g'.joinedPairs ∨ g.HasNoCycle ∧ ∀ e, e ∈ g.joinedPairs ↔ e ∈ g'.joinedPairs

def Graph.positions (g : Graph) : List Position :=
  g.tables.map Table.position

theorem map_fst_outline (g : Graph) : g.outline.map (·.1) = g.tableKeys := by
  rw [Graph.outline, List.map_map]
  rfl

theorem isScalar_key (v : Value) : v.key.isScalar = v.isScalar := by
  cases v with
  | float x =>
    rw [Value.key]
    split <;> rfl
  | _ => rfl

theorem checkIds_eq (g : Graph) :
    g.checkIds = if g.tableKeys.all Value.isScalar then .ok () else .error .unsuitable := by
  have hall : (g.tables.all fun t => t.id.isScalar) = g.tableKeys.all Value.isScalar := by
    rw [Graph.tableKeys, List.all_map]
    congr 1
    funext t
    exact (isScalar_key t.id).symm
  rw [Graph.checkIds, hall]

end SchemaAtlas.Schema

namespace SchemaAtlas.Layout
open Schema (Graph Table Position)

theorem eraseDups_filter {α : Type} [BEq α] [LawfulBEq α] (p : α → Bool) (l : List α) :
    (l.filter p).eraseDups = l.eraseDups.filter p := by
  generalize h : l.length = n
  induction n using Nat.strongRecOn generalizing l with
  | _ n ih =>
    cases l with
    | nil => rfl
    | cons a l =>
      have hle := List.length_filter_le (fun b => !b == a) l
      have hrest := ih _ (by simp at h; omega) (l.filter fun b => !b == a) rfl
      rw [List.eraseDups_cons]
      by_cases hp : p a = true
      · rw [List.filter_cons_of_pos hp, List.filter_cons_of_pos hp, List.eraseDups_cons, ← hrest,
          List.filter_filter, List.filter_filter]
        simp only [Bool.and_comm]
      · rw [List.filter_cons_of_neg hp, List.filter_cons_of_neg hp, ← hrest, List.filter_filter]
        congr 1
        refine List.filter_congr fun b _ => ?_
        by_cases hb : b = a
        · subst hb
          simp [hp]
        · simp [hb]

section Edges
variable {g g' : Graph}

theorem edges_withoutLoops (g : Graph) : (graphOf g).withoutLoops.edges = g.joinedPairs := by
  change ((List.filter _ _).eraseDups).filter _ = _
  rw [← eraseDups_filter, List.filter_filter, List.filter_map]
  congr 2
  refine List.filter_congr fun r _ => ?_
  simp [Graph.joinsTwo, Graph.joins, Bool.and_comm]

theorem isAcyclic_withoutLoops : (graphOf g).withoutLoops.IsAcyclic ↔ g.HasNoCycle := by
  have hadj : (graphOf g).withoutLoops.Adj = fun u v => (u, v) ∈ g.joinedPairs := by
    funext u v
    rw [Digraph.Adj, edges_withoutLoops]
  rw [Digraph.IsAcyclic, hadj, Graph.HasNoCycle]

theorem acyclicGraphOf_of_hasNoCycle (h : g.HasNoCycle) :
    acyclicGraphOf g = (graphOf g).withoutLoops :=
  (isAcyclic_withoutLoops.mpr h).breakFrom_eq _ _

/-- Removing edges from cycles goes by the pairs that are joined, and only if there are cycles by
their order. -/
theorem acyclicGraphOf_reordered (hk : g.tableKeys = g'.tableKeys) (hj : g.IsJoinedLike g') :
    (acyclicGraphOf g).IsReordered (acyclicGraphOf g') := by
  have hnodes : (graphOf g).withoutLoops.nodes = (graphOf g').withoutLoops.nodes :=
    congrArg List.eraseDups hk
  rcases hj with heq | ⟨ha, hmem⟩
  · have hsame : (graphOf g).withoutLoops = (graphOf g').withoutLoops := by
      refine Digraph.ext_lists hnodes ?_
      rw [edges_withoutLoops, edges_withoutLoops, heq]
    have hle : ∀ d : Digraph Value, d.withoutLoops.edges.length ≤ d.edges.length :=
      fun d => List.length_filter_le _ _
    rw [acyclicGraphOf, acyclicGraphOf, Digraph.breakCycles, Digraph.breakCycles, hsame,
      Digraph.breakFrom_eq_of_le (hsame ▸ hle (graphOf g)) (hle (graphOf g'))]
    exact .refl _
  · have ha' : g'.HasNoCycle := by
      have hadj : (fun u v => (u, v) ∈ g'.joinedPairs) = fun u v => (u, v) ∈ g.joinedPairs := by
        funext u v
        exact propext (hmem (u, v)).symm
      rw [Graph.HasNoCycle, hadj]
      exact ha
    rw [acyclicGraphOf_of_hasNoCycle ha, acyclicGraphOf_of_hasNoCycle ha']
    refine ⟨hnodes, (List.perm_ext_iff_of_nodup (Digraph.nodup_edges _)
      (Digraph.nodup_edges _)).mpr fun e => ?_⟩
    rw [edges_withoutLoops, edges_withoutLoops]
    exact hmem e

end Edges

section Place
variable {α : Type} [Quantity α] {g g' : Graph}

/-- A table with some number of rows, with its size. -/
def Settings.spotOf (s : Settings α) (p : Value × Nat) : Except Fault (Spot α) := do
  return (p.1, ⟨s.nodeWidth, ← Quantity.add s.headerHeight (← Quantity.times s.rowHeight p.2)⟩)

theorem mapM_nodeSize (s : Settings α) (g : Graph) :
    (g.tables.mapM fun t => do return (t.key, ← s.nodeSize t) : Except Fault (List (Spot α))) =
      g.outline.mapM s.spotOf := by
  rw [Graph.outline, List.mapM_map]
  congr 1
  funext t
  simp [Settings.nodeSize, Settings.spotOf]

/-- Where the table with a key comes to lie, relative to the least corner. -/
def shifted (corners : List (Spot α)) (least : Pair α) (key : Value) : Except Fault (Pair α) := do
  let p := (lastSpot? corners key).getD ⟨Quantity.origin, Quantity.origin⟩
  return ⟨← Quantity.sub p.x least.x, ← Quantity.sub p.y least.y⟩

theorem mapM_shifted (corners : List (Spot α)) (least : Pair α) (g : Graph) :
    (g.tables.mapM fun t => do
      let p := (lastSpot? corners t.key).getD ⟨Quantity.origin, Quantity.origin⟩
      return ⟨← Quantity.sub p.x least.x, ← Quantity.sub p.y least.y⟩) =
      g.tableKeys.mapM (shifted corners least) := by
  rw [Graph.tableKeys, List.mapM_map]
  rfl

theorem place_congr (ho : g.outline = g'.outline)
    (hr : (acyclicGraphOf g).IsReordered (acyclicGraphOf g')) (s : Settings α) :
    place s g = place s g' := by
  have hk : g.tableKeys = g'.tableKeys := by
    rw [← Schema.map_fst_outline, ← Schema.map_fst_outline, ho]
  have hranks : ranksOf g (acyclicGraphOf g) = ranksOf g' (acyclicGraphOf g') := by
    rw [ranksOf, ranksOf, hr.ranks_eq, hr.nodes, hk]
  simp only [place, Schema.checkIds_eq, mapM_nodeSize, mapM_shifted, ho, hk, hranks, hr.layers_eq]

end Place

section Move
variable {g : Graph} {positions : List (Pair Value)}

theorem positions_moveTables (h : positions.length = g.tables.length) :
    (moveTables g positions).positions = positions.map fun p => ⟨p.x, p.y⟩ := by
  have hmap : (moveTables g positions).positions =
      ((g.tables.zip positions).map Prod.snd).map fun p => ⟨p.x, p.y⟩ := by
    rw [Graph.positions, moveTables, List.map_zipWith, List.map_map, List.map_zip_eq_zipWith]
    rfl
  rw [hmap, List.map_snd_zip (Nat.le_of_eq h)]

theorem moveTables_moveTables (g : Graph) (positions : List (Pair Value)) :
    moveTables (moveTables g positions) positions = moveTables g positions := by
  rw [moveTables, moveTables, Schema.Graph.mk.injEq]
  refine ⟨?_, rfl⟩
  dsimp only
  induction g.tables generalizing positions with
  | nil => rfl
  | cons t ts ih =>
    cases positions with
    | nil => rfl
    | cons p ps =>
      rw [List.zipWith_cons_cons, List.zipWith_cons_cons, ih]

theorem outline_moveTables (h : positions.length = g.tables.length) :
    (moveTables g positions).outline = g.outline :=
  Schema.map_moveTables h fun _ _ => rfl

theorem joinedPairs_moveTables (h : positions.length = g.tables.length) :
    (moveTables g positions).joinedPairs = g.joinedPairs := by
  have hjoins : (moveTables g positions).joinsTwo = g.joinsTwo := by
    funext r
    rw [Graph.joinsTwo, Graph.joinsTwo, Graph.joins, Graph.joins, Schema.tableKeys_moveTables h]
  rw [Graph.joinedPairs, Graph.joinedPairs, hjoins]
  rfl

theorem place_moveTables (h : positions.length = g.tables.length) (s : Settings Value) :
    place s (moveTables g positions) = place s g :=
  place_congr (outline_moveTables h) (acyclicGraphOf_reordered (Schema.tableKeys_moveTables h)
    (.inl (joinedPairs_moveTables h))) s

end Move

/-- Laying out a graph that has been laid out changes nothing. -/
theorem layout_layout (g : Graph) (s : Settings Value) :
    (layout g s >>= fun g' => layout g' s) = layout g s := by
  cases hplace : place s g with
  | error e => simp only [layout, hplace]; rfl
  | ok positions =>
    have hlen := Schema.length_of_place hplace
    have hlayout : layout g s = .ok (moveTables g positions) := by
      simp only [layout, hplace]
      rfl
    have hagain : place s (moveTables g positions) = .ok positions := by
      rw [place_moveTables hlen, hplace]
    rw [hlayout, ok_bind, layout, hagain, ok_bind, moveTables_moveTables]
    rfl

theorem positions_layout (g : Graph) (s : Settings Value) :
    Graph.positions <$> layout g s =
      (List.map fun p => ⟨p.x, p.y⟩) <$> place s g := by
  rw [layout]
  cases hplace : place s g with
  | error e => rfl
  | ok positions => exact congrArg Except.ok (positions_moveTables (Schema.length_of_place hplace))

/-- Graphs whose tables have the same ids and show as many rows, and in which the same pairs are
joined, are laid out alike, and laying them out once more changes nothing. -/
theorem layout_congr {g g' : Graph} (ho : g.outline = g'.outline) (hj : g.IsJoinedLike g')
    (s : Settings Value) :
    Graph.positions <$> layout g s = Graph.positions <$> layout g' s ∧
      (layout g s >>= fun h => layout h s) = layout g s := by
  have hk : g.tableKeys = g'.tableKeys := by
    rw [← Schema.map_fst_outline, ← Schema.map_fst_outline, ho]
  rw [positions_layout, positions_layout, place_congr ho (acyclicGraphOf_reordered hk hj)]
  exact ⟨rfl, layout_layout g s⟩

/-- Three tables, each of which refers to all before it. -/
def triangle : Graph where
  tables := ["a", "b", "c"].map labelled
  relationships := [between "b" "a", between "c" "b", between "c" "a"]

/-- The same tables with an inverted order of references, one of them given twice, with a loop
and with a reference to nothing. -/
def cluttered : Graph where
  tables := ["a", "b", "c"].map fun label => { labelled label with dimmed := true }
  relationships := [between "c" "a", between "b" "b", between "c" "b", between "a" "x",
    between "b" "a", between "c" "a"]

theorem layout_congr_cluttered :
    Graph.positions <$> layout triangle .usual = Graph.positions <$> layout cluttered .usual ∧
      (layout triangle .usual >>= fun h => layout h .usual) = layout triangle .usual := by
  have hdown : ∀ e ∈ (graphOf triangle).withoutLoops.edges,
      triangle.tableKeys.idxOf e.2 < triangle.tableKeys.idxOf e.1 := by decide
  have hno : triangle.HasNoCycle :=
    isAcyclic_withoutLoops.mp
      (Digraph.isAcyclic_of_height triangle.tableKeys.idxOf fun u v he => hdown (u, v) he)
  have hsame : triangle.joinedPairs.Perm cluttered.joinedPairs := by decide
  exact layout_congr (by decide) (.inr ⟨hno, fun e => hsame.mem_iff⟩) .usual

end SchemaAtlas.Layout
