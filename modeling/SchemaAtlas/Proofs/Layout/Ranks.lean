import SchemaAtlas.Layout.Ranks
import SchemaAtlas.Proofs.Layout.Paths
import Mathlib.Data.List.Perm.Subperm

/-! # Ranks along edges

In a graph without cycles some node is always ready, so sorting takes in every node after its
predecessors. The rank of a node is then one above the largest rank of its predecessors, and
every edge leads to a larger rank.
-/
namespace SchemaAtlas.Layout.Digraph

variable {α : Type}

theorem lt_foldl_max (f : α → Nat) {l : List α} {a : α} (h : a ∈ l) :
    f a < l.foldl (fun n b => max n (f b + 1)) 0 := by
  have hmono : ∀ (l : List α) (n : Nat), n ≤ l.foldl (fun n b => max n (f b + 1)) n := by
    intro l
    induction l with
    | nil => exact fun n => le_rfl
    | cons b l ih => exact fun n => (le_max_left _ _).trans (ih _)
  obtain ⟨before, after, rfl⟩ := List.append_of_mem h
  rw [List.foldl_append, List.foldl_cons]
  exact (le_max_right _ _).trans (hmono after _)

theorem least?_mem {f : α → Nat} {l : List α} {a : α} (h : least? f l = some a) : a ∈ l := by
  induction l generalizing a with
  | nil => simp [least?] at h
  | cons b rest ih =>
    rw [least?] at h
    split at h
    · cases h
      exact List.mem_cons_self
    · next c hc =>
      split at h <;> cases h
      · exact List.mem_cons_of_mem _ (ih hc)
      · exact List.mem_cons_self

theorem least?_eq_none {f : α → Nat} {l : List α} (h : least? f l = none) : l = [] := by
  cases l with
  | nil => rfl
  | cons b rest =>
    rw [least?] at h
    split at h
    · cases h
    · split at h <;> cases h

/-- Some nodes of a graph, each after its predecessors. -/
structure IsSorted (g : Digraph α) (sorted : List α) : Prop where
  nodup : sorted.Nodup
  subset : sorted ⊆ g.nodes
  before : ∀ us u, us ++ [u] <+: sorted → ∀ v, (v, u) ∈ g.edges → v ∈ us

theorem IsSorted.nil (g : Digraph α) : g.IsSorted [] :=
  ⟨List.nodup_nil, List.nil_subset _, fun us u h => by simp at h⟩

theorem IsSorted.init {g : Digraph α} {sorted : List α} {u : α}
    (h : g.IsSorted (sorted ++ [u])) : g.IsSorted sorted where
  nodup := h.nodup.sublist (List.sublist_append_left _ _)
  subset := List.Subset.trans (List.subset_append_left _ _) h.subset
  before us w hw := h.before us w (hw.trans (List.prefix_append _ _))

variable [DecidableEq α]

theorem isReady_iff {g : Digraph α} {sorted : List α} {u : α} :
    g.isReady sorted u = true ↔ u ∉ sorted ∧ ∀ v, (v, u) ∈ g.edges → v ∈ sorted := by
  simp [isReady, mem_predecessors]

theorem IsSorted.concat {g : Digraph α} {sorted : List α} (h : g.IsSorted sorted) {u : α}
    (hu : u ∈ g.nodes) (hr : g.isReady sorted u = true) : g.IsSorted (sorted ++ [u]) := by
  obtain ⟨hnew, hpred⟩ := isReady_iff.mp hr
  refine ⟨by simpa using h.nodup.concat hnew, ?_, fun us w hw v hv => ?_⟩
  · exact List.append_subset.mpr ⟨h.subset, List.cons_subset.mpr ⟨hu, List.nil_subset _⟩⟩
  · rcases List.prefix_concat_iff.mp hw with hw | hw
    · obtain ⟨rfl, hwu⟩ := List.append_inj' hw rfl
      rw [List.singleton_inj.mp hwu] at hv
      exact hpred v hv
    · exact h.before us w hw v hv

theorem IsAcyclic.exists_ready {g : Digraph α} (ha : g.IsAcyclic) {sorted : List α}
    (hleft : ∃ u ∈ g.nodes, u ∉ sorted) : g.nodes.filter (g.isReady sorted) ≠ [] := by
  have hne : g.nodes.filter (fun u => !sorted.contains u) ≠ [] := by
    obtain ⟨u, hu, hs⟩ := hleft
    exact List.ne_nil_of_mem (List.mem_filter.mpr ⟨hu, by simpa using hs⟩)
  obtain ⟨u, hu, hmin⟩ := ha.exists_source hne
  obtain ⟨hmem, hs⟩ := List.mem_filter.mp hu
  refine List.ne_nil_of_mem (List.mem_filter.mpr ⟨hmem, isReady_iff.mpr ⟨by simpa using hs, ?_⟩⟩)
  intro v hv
  by_contra hvs
  exact hmin v (List.mem_filter.mpr ⟨g.source_mem _ hv, by simpa using hvs⟩) hv

/-- Sorting a graph without cycles takes in all nodes that the bound allows for. -/
theorem IsAcyclic.sortFrom {g : Digraph α} (ha : g.IsAcyclic) (order : α → Nat) {n : Nat}
    {sorted : List α} (h : g.IsSorted sorted) (hn : g.nodes.length ≤ sorted.length + n) :
    g.IsSorted (g.sortFrom order n sorted) ∧ (g.sortFrom order n sorted).Perm g.nodes := by
  have hsub : sorted.Subperm g.nodes := List.subperm_of_subset h.nodup h.subset
  induction n generalizing sorted with
  | zero => exact ⟨h, hsub.perm_of_length_le hn⟩
  | succ n ih =>
    rw [Digraph.sortFrom]
    cases hleast : least? order (g.nodes.filter (g.isReady sorted)) with
    | none =>
      refine ⟨h, hsub.perm_of_length_le ?_⟩
      -- No node is ready, so all have been sorted.
      have hall : g.nodes ⊆ sorted := by
        intro u hu
        by_contra hus
        exact ha.exists_ready ⟨u, hu, hus⟩ (least?_eq_none hleast)
      exact (List.subperm_of_subset g.nodup_nodes hall).length_le
    | some u =>
      obtain ⟨hu, hr⟩ := List.mem_filter.mp (least?_mem hleast)
      have hnext := h.concat hu hr
      exact ih hnext (by simp; omega) (List.subperm_of_subset hnext.nodup hnext.subset)

theorem IsAcyclic.topologicalSort {g : Digraph α} (ha : g.IsAcyclic) (order : α → Nat) :
    g.IsSorted (g.topologicalSort order) ∧ (g.topologicalSort order).Perm g.nodes :=
  ha.sortFrom order (.nil g) (by simp)

theorem Ranks.of_append {ranks more : Ranks α} {u : α} (h : u ∈ ranks.map (·.1)) :
    Ranks.of (ranks ++ more) u = ranks.of u := by
  obtain ⟨⟨v, n⟩, hm, rfl⟩ := List.mem_map.mp h
  have hsome : (ranks.lookup v).isSome := by
    rw [List.lookup_isSome_iff]
    exact ⟨(v, n), hm, by simp⟩
  obtain ⟨m, hm⟩ := Option.isSome_iff_exists.mp hsome
  simp [Ranks.of, List.lookup_append, hm]

theorem Ranks.of_concat_self {ranks : Ranks α} {u : α} {n : Nat} (h : u ∉ ranks.map (·.1)) :
    Ranks.of (ranks ++ [(u, n)]) u = n := by
  have hnone : ranks.lookup u = none := by
    rw [List.lookup_eq_none_iff]
    intro p hp
    simpa using fun he : u = p.1 => h (List.mem_map.mpr ⟨p, hp, he.symm⟩)
  simp [Ranks.of, List.lookup_append, hnone]

/-- Where no node has two ranks, each has the rank that is given for it. -/
theorem Ranks.of_eq_of_mem {ranks : Ranks α} (hn : (ranks.map (·.1)).Nodup) {p : α × Nat}
    (h : p ∈ ranks) : ranks.of p.1 = p.2 := by
  obtain ⟨before, after, rfl⟩ := List.append_of_mem h
  have hp : p.1 ∉ before.map (·.1) := by
    rw [List.map_append, List.map_cons] at hn
    exact fun hp => (List.nodup_append.mp hn).2.2 _ hp _ List.mem_cons_self rfl
  rw [← List.singleton_append, ← List.append_assoc, Ranks.of_append (by simp),
    Ranks.of_concat_self hp]

theorem above_congr {ranks ranks' : Ranks α} {us : List α}
    (h : ∀ u ∈ us, ranks.of u = ranks'.of u) : above ranks us = above ranks' us := by
  refine List.foldl_ext _ _ _ fun n u hu => ?_
  rw [h u hu]

theorem above_perm (ranks : Ranks α) {us vs : List α} (h : us.Perm vs) :
    above ranks us = above ranks vs := by
  have : RightCommutative fun (n : Nat) (u : α) => max n (ranks.of u + 1) :=
    ⟨fun _ _ _ => max_right_comm _ _ _⟩
  exact h.foldl_eq _

theorem lt_above {ranks : Ranks α} {us : List α} {u : α} (h : u ∈ us) :
    ranks.of u < above ranks us :=
  lt_foldl_max ranks.of h

/-- The ranks of some sorted nodes. -/
def ranksAlong (g : Digraph α) (sorted : List α) : Ranks α :=
  sorted.foldl (fun ranks u => ranks ++ [(u, above ranks (g.predecessors u))]) []

theorem ranksAlong_concat (g : Digraph α) (sorted : List α) (u : α) :
    g.ranksAlong (sorted ++ [u]) =
      g.ranksAlong sorted ++ [(u, above (g.ranksAlong sorted) (g.predecessors u))] := by
  rw [ranksAlong, List.foldl_concat]
  rfl

theorem map_fst_ranksAlong (g : Digraph α) (sorted : List α) :
    (g.ranksAlong sorted).map (·.1) = sorted := by
  induction sorted using List.reverseRecOn with
  | nil => rfl
  | append_singleton sorted u ih => rw [ranksAlong_concat, List.map_append, ih]; rfl

/-- Each sorted node ranks just above its predecessors. -/
theorem IsSorted.of_ranksAlong {g : Digraph α} {sorted : List α} (h : g.IsSorted sorted) {u : α}
    (hu : u ∈ sorted) :
    (g.ranksAlong sorted).of u = above (g.ranksAlong sorted) (g.predecessors u) := by
  induction sorted using List.reverseRecOn with
  | nil => exact absurd hu List.not_mem_nil
  | append_singleton sorted w ih =>
    -- The ranks of the predecessors are final when the rank of a node is computed.
    have hkeep : ∀ v ∈ sorted,
        (g.ranksAlong (sorted ++ [w])).of v = (g.ranksAlong sorted).of v := by
      intro v hv
      rw [ranksAlong_concat, Ranks.of_append (by rwa [map_fst_ranksAlong])]
    have hpred : ∀ us x, us ++ [x] <+: sorted ++ [w] → us ⊆ sorted →
        above (g.ranksAlong (sorted ++ [w])) (g.predecessors x) =
          above (g.ranksAlong sorted) (g.predecessors x) := by
      intro us x hx hus
      refine above_congr fun v hv => hkeep v (hus ?_)
      exact h.before us x hx v (mem_predecessors.mp hv)
    rcases List.mem_append.mp hu with hus | huw
    · obtain ⟨before, after, rfl⟩ := List.append_of_mem hus
      rw [hkeep u hus, ih h.init hus, hpred before u ⟨after ++ [w], by simp⟩ (by simp)]
    · rw [List.mem_singleton.mp huw, hpred sorted w List.prefix_rfl (List.Subset.refl _),
        ranksAlong_concat, Ranks.of_concat_self]
      rw [map_fst_ranksAlong]
      exact fun hm => (List.nodup_append.mp h.nodup).2.2 w hm w (List.mem_singleton_self w) rfl

section Ranks
variable {g : Digraph α} (ha : g.IsAcyclic) (order : α → Nat)
include ha

theorem IsAcyclic.map_fst_ranks : ((g.ranks order).map (·.1)).Perm g.nodes := by
  have hkeys : (g.ranks order).map (·.1) = g.topologicalSort order := map_fst_ranksAlong g _
  rw [hkeys]
  exact (ha.topologicalSort order).2

theorem IsAcyclic.of_ranks {u : α} (hu : u ∈ g.nodes) :
    (g.ranks order).of u = above (g.ranks order) (g.predecessors u) :=
  (ha.topologicalSort order).1.of_ranksAlong ((ha.topologicalSort order).2.mem_iff.mpr hu)

theorem IsAcyclic.ranks_lt {u v : α} (he : (u, v) ∈ g.edges) :
    (g.ranks order).of u < (g.ranks order).of v := by
  rw [ha.of_ranks order (g.target_mem _ he)]
  exact lt_above (mem_predecessors.mpr he)

theorem IsAcyclic.ranks_lt_of_reaches {u v : α} (hr : g.Reaches u v) (hne : u ≠ v) :
    (g.ranks order).of u < (g.ranks order).of v := by
  have hup : ∀ w, Relation.TransGen g.Adj u w →
      (g.ranks order).of u < (g.ranks order).of w := by
    intro w hw
    induction hw with
    | single he => exact ha.ranks_lt order he
    | tail _ he ih => exact ih.trans (ha.ranks_lt order he)
  rcases Relation.reflTransGen_iff_eq_or_transGen.mp hr with heq | hr
  · exact absurd heq.symm hne
  · exact hup v hr

end Ranks

end SchemaAtlas.Layout.Digraph
