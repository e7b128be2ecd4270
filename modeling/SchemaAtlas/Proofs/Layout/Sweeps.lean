import SchemaAtlas.Proofs.Layout.Layers
import SchemaAtlas.Proofs.Layout.LongestPaths
import Mathlib.Algebra.Order.Field.Rat
import Mathlib.Data.List.Sort
import Mathlib.Data.Prod.Lex

/-! # What a sweep leaves

A sweep comes to a layer only after all layers that hold neighbours of its nodes, and goes back to
none of them. So the positions by which a layer has been sorted are those that its neighbours keep,
and in the end every layer is still in the order of its means.
-/
namespace SchemaAtlas.Layout.Digraph

section Means

/-- What a mean amounts to. -/
def Mean.value (m : Mean) : ℚ :=
  m.sum / m.count

theorem Mean.less_iff {a b : Mean} (ha : 0 < a.count) (hb : 0 < b.count) :
    a.less b = true ↔ a.value < b.value := by
  have hac : (0 : ℚ) < a.count := Nat.cast_pos.mpr ha
  have hbc : (0 : ℚ) < b.count := Nat.cast_pos.mpr hb
  rw [Mean.value, Mean.value, div_lt_div_iff₀ hac hbc, Mean.less, decide_eq_true_iff]
  norm_cast

variable {α : Type} {neighbours : α → List α} {position position' : α → Nat} {u : α}

/-- No mean is taken of nothing. -/
theorem barycenter_count_pos (neighbours : α → List α) (position : α → Nat) (u : α) :
    0 < (barycenter neighbours position u).count := by
  rw [barycenter]
  cases neighbours u with
  | nil => exact Nat.one_pos
  | cons v vs => exact Nat.succ_pos _

theorem barycenter_congr_position (hne : neighbours u ≠ [])
    (h : ∀ v ∈ neighbours u, position v = position' v) :
    barycenter neighbours position u = barycenter neighbours position' u := by
  rw [barycenter, barycenter]
  cases hu : neighbours u with
  | nil => exact absurd hu hne
  | cons v vs =>
    dsimp only
    rw [List.map_congr_left (hu ▸ h)]

/-- What nodes are sorted by, as one key. -/
def Sortable.key (a : Sortable α) : ℚ ×ₗ ℕ :=
  toLex (a.mean.value, a.position)

theorem Sortable.le_eq {a b : Sortable α} (ha : 0 < a.mean.count) (hb : 0 < b.mean.count) :
    a.le b = decide (a.key ≤ b.key) := by
  have hab := Mean.less_iff ha hb
  have hba := Mean.less_iff hb ha
  rw [Bool.eq_iff_iff, decide_eq_true_iff, Sortable.key, Sortable.key, Prod.Lex.toLex_le_toLex]
  rw [Sortable.le, Bool.or_eq_true, Bool.and_eq_true, Bool.not_eq_true', ← Bool.not_eq_true, hab,
    hba, decide_eq_true_iff]
  constructor
  · rintro (h | ⟨hle, hpos⟩)
    · exact .inl h
    · rcases (not_lt.mp hle).lt_or_eq with h | h
      · exact .inl h
      · exact .inr ⟨h, hpos⟩
  · rintro (h | ⟨heq, hpos⟩)
    · exact .inl h
    · exact .inr ⟨not_lt.mpr heq.le, hpos⟩

/-- A sorted layer is in the order of the means by which it has been sorted. -/
theorem pairwise_sortLayer (neighbours : α → List α) (position : α → Nat) (layer : List α) :
    (sortLayer neighbours position layer).Pairwise fun u v =>
      (barycenter neighbours position u).value ≤ (barycenter neighbours position v).value := by
  have hcount : ∀ a ∈ layer.map (Sortable.of neighbours position), 0 < a.mean.count := by
    intro a ha
    obtain ⟨u, _, rfl⟩ := List.mem_map.mp ha
    exact barycenter_count_pos _ _ _
  have hkeys := List.map_mergeSort (r := Sortable.le) (s := fun a b => decide (a ≤ b))
    (f := Sortable.key) fun a ha b hb => Sortable.le_eq (hcount a ha) (hcount b hb)
  have hsorted := List.pairwise_mergeSort' (· ≤ ·)
    ((layer.map (Sortable.of neighbours position)).map Sortable.key)
  rw [← hkeys, List.pairwise_map] at hsorted
  rw [sortLayer, List.pairwise_map]
  refine hsorted.imp_of_mem fun {a b} ha hb hle => ?_
  -- Each entry holds the mean of its own node.
  have hof : ∀ c ∈ (layer.map (Sortable.of neighbours position)).mergeSort Sortable.le,
      barycenter neighbours position c.node = c.mean := by
    intro c hc
    obtain ⟨u, _, rfl⟩ := List.mem_map.mp (List.mem_mergeSort.mp hc)
    rfl
  rw [hof a ha, hof b hb]
  rcases Prod.Lex.toLex_le_toLex.mp hle with h | h
  · exact h.le
  · exact h.1.le

/-- A layer stays in the order of its means for as long as the neighbours of its nodes keep their
positions. -/
theorem pairwise_sortLayer_of_eq {layer : List α}
    (h : ∀ u ∈ layer, ∀ w ∈ neighbours u, position' w = position w) :
    (sortLayer neighbours position layer).Pairwise fun u v => neighbours u ≠ [] →
      neighbours v ≠ [] →
        (barycenter neighbours position' u).value ≤ (barycenter neighbours position' v).value := by
  have hmean : ∀ u ∈ sortLayer neighbours position layer, neighbours u ≠ [] →
      barycenter neighbours position' u = barycenter neighbours position u := by
    intro u hu hne
    exact barycenter_congr_position hne (h u ((sortLayer_perm _ _ _).mem_iff.mp hu))
  refine (pairwise_sortLayer neighbours position layer).imp_of_mem ?_
  intro u v hu hv hle hune hvne
  rw [hmean u hu hune, hmean v hv hvne]
  exact hle

end Means

variable {α : Type} [DecidableEq α]

/-- Wherever two nodes of one layer both have neighbours, those of the first lie on average no
further back than those of the second. -/
def IsBalanced (neighbours : α → List α) (layers : List (List α)) : Prop :=
  ∀ layer ∈ layers, layer.Pairwise fun u v => neighbours u ≠ [] → neighbours v ≠ [] →
    (barycenter neighbours (positionIn layers) u).value ≤
      (barycenter neighbours (positionIn layers) v).value

/-- The neighbours that count in a sweep. -/
def neighboursIn (g : Digraph α) (downward : Bool) : α → List α :=
  if downward then g.predecessors else g.successors

/-- The numbers of the layers that a sweep sorts, in its order. -/
def sweepOrder (downward : Bool) (count : Nat) : List Nat :=
  if downward then (List.range count).drop 1 else (List.range (count - 1)).reverse

/-- A sweep passes the layer with a number before that with another. -/
def IsAhead (downward : Bool) (i j : Nat) : Prop :=
  if downward then i < j else j < i

theorem IsAhead.asymm {downward : Bool} {i j : Nat} (h : IsAhead downward i j) :
    ¬ IsAhead downward j i := by
  cases downward with
  | false => exact fun h' => Nat.lt_asymm (show j < i from h) h'
  | true => exact fun h' => Nat.lt_asymm (show i < j from h) h'

theorem sweep_eq (g : Digraph α) (downward : Bool) (layers : List (List α)) :
    g.sweep downward layers =
      (sweepOrder downward layers.length).foldl (resort (g.neighboursIn downward)) layers := by
  cases downward <;> rfl

theorem sweeps_succ (g : Digraph α) (layers : List (List α)) (n : Nat) :
    g.sweeps layers (n + 1) = g.sweep (n % 2 = 0) (g.sweeps layers n) := by
  rw [sweeps, List.range_succ, List.foldl_concat]
  rfl

theorem mem_sweepOrder {downward : Bool} {count i : Nat} :
    i ∈ sweepOrder downward count ↔ i < count ∧ if downward then 0 < i else i + 1 < count := by
  cases downward with
  | false =>
    rw [sweepOrder, if_neg Bool.false_ne_true, if_neg Bool.false_ne_true, List.mem_reverse,
      List.mem_range]
    omega
  | true =>
    rw [sweepOrder, if_pos rfl, if_pos rfl, List.drop_one, List.tail_range, List.mem_range'_1]
    omega

theorem pairwise_sweepOrder (downward : Bool) (count : Nat) :
    (sweepOrder downward count).Pairwise (IsAhead downward) := by
  cases downward with
  | false => exact List.pairwise_reverse.mpr List.pairwise_lt_range
  | true => exact List.pairwise_lt_range.drop

theorem mem_neighboursIn {g : Digraph α} {downward : Bool} {u w : α} :
    w ∈ g.neighboursIn downward u ↔ if downward then (w, u) ∈ g.edges else (u, w) ∈ g.edges := by
  cases downward with
  | false => exact mem_successors
  | true => exact mem_predecessors

/-! What sorting layers one by one does to a single layer. -/

section Resort
variable (neighbours : α → List α) {layers : List (List α)} {i j : Nat}

theorem getElem?_resort (layers : List (List α)) (i j : Nat) :
    (resort neighbours layers i)[j]? =
      layers[j]?.map fun layer =>
        if i = j then sortLayer neighbours (positionIn layers) layer else layer := by
  rw [resort, List.getElem?_modify]
  rfl

theorem getElem?_foldl_resort {is : List Nat} (h : j ∉ is) :
    (is.foldl (resort neighbours) layers)[j]? = layers[j]? := by
  induction is generalizing layers with
  | nil => rfl
  | cons i is ih =>
    obtain ⟨hji, hrest⟩ := not_or.mp (mt List.mem_cons.mpr h)
    rw [List.foldl_cons, ih hrest, getElem?_resort]
    simp [Ne.symm hji]

end Resort

section Positions
variable {us : List α} {rank : α → Nat} {layers layers' : List (List α)}

/-- A node is found in the layer of its rank. -/
theorem IsLayered.positionIn_eq (h : IsLayered us rank layers) {u : α} (hu : u ∈ us)
    {layer : List α} (hl : layers[rank u]? = some layer) :
    positionIn layers u = layer.idxOf u := by
  have honly : ∀ l ∈ layers, u ∈ l → l = layer := by
    intro l hmem hul
    obtain ⟨i, hi, rfl⟩ := List.mem_iff_getElem.mp hmem
    obtain ⟨_, hrank⟩ := (h.mem i hi u).mp hul
    rw [hrank, List.getElem?_eq_getElem hi] at hl
    exact Option.some.inj hl
  have hin : u ∈ layer := by
    obtain ⟨hi, rfl⟩ := List.getElem?_eq_some_iff.mp hl
    exact (h.mem _ hi u).mpr ⟨hu, rfl⟩
  rw [positionIn]
  cases hfind : layers.find? (·.contains u) with
  | none =>
    exact absurd hin (by simpa using List.find?_eq_none.mp hfind _ (List.mem_of_getElem? hl))
  | some l =>
    have hul : u ∈ l := by simpa using List.find?_some hfind
    rw [honly l (List.mem_of_find?_eq_some hfind) hul]

theorem IsLayered.positionIn_congr (h : IsLayered us rank layers)
    (h' : IsLayered us rank layers') {u : α} (hu : u ∈ us)
    (hl : layers[rank u]? = layers'[rank u]?) : positionIn layers u = positionIn layers' u := by
  have hi := h.lt_length u hu
  have hlayer := List.getElem?_eq_getElem hi
  rw [h.positionIn_eq hu hlayer, h'.positionIn_eq hu (hl ▸ hlayer)]

end Positions

section Balance
variable {us : List α} {rank : α → Nat} {layers : List (List α)} {neighbours : α → List α}

/-- A layer that is sorted before some others is in the order of its means in the end, if neither it
nor a layer with neighbours of its nodes is among them. -/
theorem IsLayered.pairwise_foldl_resort {now last : List (List α)} {i : Nat} {after : List Nat}
    (h : IsLayered us rank now) (hlast : (i :: after).foldl (Digraph.resort neighbours) now = last)
    (hi : i ∉ after)
    (hsettled : ∀ u ∈ us, rank u = i → ∀ w ∈ neighbours u, w ∈ us ∧ rank w ∉ i :: after)
    {layer : List α} (hl : last[i]? = some layer) :
    layer.Pairwise fun u v => neighbours u ≠ [] → neighbours v ≠ [] →
      (barycenter neighbours (positionIn last) u).value ≤
        (barycenter neighbours (positionIn last) v).value := by
  have hlayered : IsLayered us rank last := hlast ▸ h.foldl_resort neighbours (i :: after)
  have hsame : ∀ j, j ∉ i :: after → last[j]? = now[j]? := by
    intro j hj
    rw [← hlast, getElem?_foldl_resort neighbours hj]
  rw [← hlast, List.foldl_cons, getElem?_foldl_resort neighbours hi, getElem?_resort] at hl
  obtain ⟨unsorted, hunsorted, rfl⟩ := Option.map_eq_some_iff.mp hl
  rw [if_pos rfl]
  refine pairwise_sortLayer_of_eq fun u hu w hw => ?_
  obtain ⟨hlt, rfl⟩ := List.getElem?_eq_some_iff.mp hunsorted
  obtain ⟨hnode, hrank⟩ := (h.mem i hlt u).mp hu
  obtain ⟨hwus, hwi⟩ := hsettled u hnode hrank w hw
  exact hlayered.positionIn_congr h hwus (hsame _ hwi)

end Balance

section Sweep
variable {g : Digraph α} {rank : α → Nat} {layers : List (List α)}
  (h : IsLayered g.nodes rank layers)
  (hforward : ∀ u v, (u, v) ∈ g.edges → rank u < rank v)
include h hforward

/-- The neighbours that count in a sweep lie in layers that it passes first. -/
theorem IsLayered.rank_of_mem_neighboursIn {downward : Bool} {u w : α}
    (hw : w ∈ g.neighboursIn downward u) :
    w ∈ g.nodes ∧ IsAhead downward (rank w) (rank u) ∧
      rank u ∈ sweepOrder downward layers.length := by
  rw [mem_sweepOrder]
  cases downward with
  | false =>
    have he : (u, w) ∈ g.edges := mem_neighboursIn.mp hw
    have hlt := hforward u w he
    have hlen := h.lt_length w (g.target_mem _ he)
    rw [if_neg Bool.false_ne_true]
    exact ⟨g.target_mem _ he, hlt, by omega, by omega⟩
  | true =>
    have he : (w, u) ∈ g.edges := mem_neighboursIn.mp hw
    have hlt := hforward w u he
    rw [if_pos rfl]
    exact ⟨g.source_mem _ he, hlt, h.lt_length u (g.target_mem _ he), by omega⟩

theorem IsLayered.isBalanced_sweep (downward : Bool) :
    IsBalanced (g.neighboursIn downward) (g.sweep downward layers) := by
  intro layer hlayer
  obtain ⟨i, hl⟩ := List.mem_iff_getElem?.mp hlayer
  rw [sweep_eq] at hl ⊢
  by_cases hi : i ∈ sweepOrder downward layers.length
  · obtain ⟨before, after, horder⟩ := List.append_of_mem hi
    have hbeyond : ∀ j ∈ after, IsAhead downward i j := by
      have hpair := pairwise_sweepOrder downward layers.length
      rw [horder] at hpair
      exact (List.pairwise_cons.mp (List.pairwise_append.mp hpair).2.1).1
    rw [horder, List.foldl_append] at hl ⊢
    have hnow := h.foldl_resort (g.neighboursIn downward) before
    have hself : i ∉ after := fun hmem => (hbeyond i hmem).asymm (hbeyond i hmem)
    refine hnow.pairwise_foldl_resort rfl hself ?_ hl
    rintro u - rfl w hw
    obtain ⟨hnode, hahead, _⟩ := h.rank_of_mem_neighboursIn hforward hw
    refine ⟨hnode, fun hmem => ?_⟩
    rcases List.mem_cons.mp hmem with heq | hmem
    · rw [heq] at hahead
      exact hahead.asymm hahead
    · exact hahead.asymm (hbeyond _ hmem)
  · -- A layer that the sweep leaves out holds no node with neighbours.
    have hlast := h.foldl_resort (g.neighboursIn downward) (sweepOrder downward layers.length)
    refine List.pairwise_of_forall_mem_list fun u hu v _ hne => ?_
    obtain ⟨w, hw⟩ := List.exists_mem_of_ne_nil _ hne
    obtain ⟨_, _, hsorted⟩ := h.rank_of_mem_neighboursIn hforward hw
    obtain ⟨hlt, rfl⟩ := List.getElem?_eq_some_iff.mp hl
    rw [((hlast.mem i hlt u).mp hu).2] at hsorted
    exact absurd hsorted hi

end Sweep

/-- Layers hold every node once, by rank, and once they have been sorted, every layer is in the
order of the means of its nodes: of their predecessors' positions if the last sweep went downward,
else of their successors'. The positions are those in the layers as they are in the end. -/
theorem layers_isBalanced (g : Digraph α) (ha : g.IsAcyclic) (order order' : α → Nat)
    (count : Int) :
    IsLayered g.nodes (g.ranks order).of (g.layers (g.ranks order) order' count) ∧
      (0 < count → IsBalanced (g.neighboursIn ((count - 1) % 2 = 0))
        (g.layers (g.ranks order) order' count)) := by
  have hlayered := ha.isLayered order order'
  refine ⟨hlayered count, fun hpos => ?_⟩
  obtain ⟨n, rfl⟩ : ∃ n : Nat, count = n + 1 := ⟨(count - 1).toNat, by omega⟩
  have hlast : (((n : Int) + 1 - 1) % 2 = 0) = (n % 2 = 0) := by
    rw [eq_iff_iff]
    omega
  have hsweeps : g.layers (g.ranks order) order' (n + 1) =
      g.sweep (n % 2 = 0) (g.layers (g.ranks order) order' n) := sweeps_succ g _ n
  simp only [hlast, hsweeps]
  exact (hlayered n).isBalanced_sweep (fun _ _ => ha.ranks_lt order) _

/-- Two layers, and a node that refers past the second to a third. -/
def crossing : Digraph String :=
  .ofLists ["a", "b", "c", "d", "e", "f", "g"]
    [("a", "f"), ("a", "e"), ("b", "d"), ("b", "e"), ("c", "d"), ("c", "g"), ("e", "g"), ("f", "g")]

theorem isAcyclic_crossing : crossing.IsAcyclic := by
  have hdown : ∀ e ∈ crossing.edges,
      crossing.nodes.reverse.idxOf e.2 < crossing.nodes.reverse.idxOf e.1 := by decide
  exact isAcyclic_of_height crossing.nodes.reverse.idxOf fun u v he => hdown (u, v) he

theorem layers_isBalanced_crossing :
    crossing.IsAcyclic ∧
      IsLayered crossing.nodes (crossing.ranks crossing.nodes.idxOf).of
        (crossing.layers (crossing.ranks crossing.nodes.idxOf) crossing.nodes.idxOf 3) ∧
      IsBalanced (crossing.neighboursIn true)
        (crossing.layers (crossing.ranks crossing.nodes.idxOf) crossing.nodes.idxOf 3) := by
  obtain ⟨hlayered, hbalanced⟩ := layers_isBalanced crossing isAcyclic_crossing
    crossing.nodes.idxOf crossing.nodes.idxOf 3
  exact ⟨isAcyclic_crossing, hlayered, hbalanced (by decide)⟩

example : crossing.layers (crossing.ranks crossing.nodes.idxOf) crossing.nodes.idxOf 3 =
    [["a", "c", "b"], ["f", "e", "d"], ["g"]] := by
  cbv

end SchemaAtlas.Layout.Digraph
