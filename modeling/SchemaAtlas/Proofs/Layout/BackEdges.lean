import SchemaAtlas.Proofs.Layout.Tour

/-! # The edges that lead back on a tour

What a tour keeps has no cycles, since every edge kept leads to a node that is finished before
its source. Along what it keeps a path leads from the target of every dropped edge to the
source: the part of the way between them at the time.
-/
namespace SchemaAtlas.Layout
open Relation

namespace Tour

variable {α : Type} [DecidableEq α]

/-- What holds throughout a tour of a graph. -/
structure IsSound (g : Digraph α) (t : Tour α) : Prop where
  pending : t.pending.Sublist g.edges
  dropped : ∀ e ∈ t.dropped, e ∈ g.edges ∧ e ∉ t.pending
  nodup : t.stack.Nodup
  /-- The nodes on the way are a path of kept edges. -/
  path : t.stack.IsChain fun v u => (t.kept g).Adj u v
  back : ∀ e ∈ t.dropped, (t.kept g).Reaches e.2 e.1
  done : ∀ e ∈ t.pending, e.1 ∉ t.finished
  /-- A kept edge leads from a finished node to one that was finished before. -/
  before : ∀ u below, u :: below <:+ t.finished → ∀ v, (t.kept g).Adj u v → v ∈ below
  /-- A kept edge leads from any other node to one that is finished or further up the way. -/
  above : ∀ u v, (t.kept g).Adj u v → u ∉ t.finished →
    v ∈ t.finished ∨ [v, u].Sublist t.stack

namespace IsSound

variable {g : Digraph α} {t : Tour α}

theorem initial (g : Digraph α) : (Tour.initial g).IsSound g where
  pending := List.Sublist.refl _
  dropped := by simp [Tour.initial]
  nodup := List.nodup_nil
  path := List.isChain_nil
  back := by simp [Tour.initial]
  done := by simp [Tour.initial]
  before u below h := by simp [Tour.initial] at h
  above u v h := by
    obtain ⟨he, hp, _⟩ := mem_kept.mp h
    exact absurd he hp

theorem setOut (h : t.IsSound g) (hs : t.stack = []) (u : α) : (t.setOut u).IsSound g where
  pending := h.pending
  dropped := h.dropped
  nodup := List.nodup_singleton u
  path := List.isChain_singleton u
  back := h.back
  done := h.done
  before := h.before
  above x v hx hfin := by
    rcases h.above x v hx hfin with hv | hv
    · exact .inl hv
    · rw [hs] at hv
      simp at hv

theorem goBack (h : t.IsSound g) {u : α} {below : List α} (hs : t.stack = u :: below)
    (hu : ∀ e ∈ t.pending, e.1 ≠ u) : (t.goBack u below).IsSound g where
  pending := h.pending
  dropped := h.dropped
  nodup := (hs ▸ h.nodup).of_cons
  path := (hs ▸ h.path : (u :: below).IsChain _).tail
  back := h.back
  done e he := by
    rintro hm
    rcases List.mem_cons.mp hm with hm | hm
    · exact hu e he hm
    · exact h.done e he hm
  before x rest hx v hv := by
    rcases List.suffix_cons_iff.mp hx with hx | hx
    · obtain ⟨rfl, rfl⟩ := List.cons.inj hx
      by_cases hfin : x ∈ t.finished
      · -- The node has been finished before, and its edges have not changed since.
        obtain ⟨l, r, hlr⟩ := List.append_of_mem hfin
        have hmem := h.before x r ⟨l, hlr.symm⟩ v hv
        exact hlr ▸ List.mem_append_right _ (List.mem_cons_of_mem _ hmem)
      · rcases h.above x v hv hfin with hv | hv
        · exact hv
        · -- Nothing is further up the way than its last node.
          have hnodup := hs ▸ h.nodup
          rw [hs] at hv
          cases hv with
          | cons _ hv => exact absurd (hv.subset (by simp)) (List.nodup_cons.mp hnodup).1
          | cons_cons _ hv =>
            exact absurd (List.singleton_sublist.mp hv) (List.nodup_cons.mp hnodup).1
    · exact h.before x rest hx v hv
  above x v hx hfin := by
    have hfin' : x ∉ t.finished := fun hm => hfin (List.mem_cons_of_mem _ hm)
    rcases h.above x v hx hfin' with hv | hv
    · exact .inl (List.mem_cons_of_mem _ hv)
    · rw [hs] at hv
      cases hv with
      | cons _ hv => exact .inr hv
      | cons_cons _ _ => exact .inl List.mem_cons_self

/-- Meeting an edge takes it from those pending, and no other. -/
theorem mem_pass (h : t.IsSound g) {e d : α × α} (he : e ∈ t.pending) :
    d ∈ ((t.pass e).kept g).edges ↔ d = e ∨ d ∈ (t.kept g).edges := by
  have hnodup := h.pending.nodup g.nodup_edges
  have hedge := h.pending.subset he
  have hdropped : e ∉ t.dropped := fun hm => (h.dropped e hm).2 he
  simp only [mem_kept, pass, hnodup.mem_erase_iff]
  by_cases hd : d = e
  · subst hd
    simp [hedge, hdropped]
  · simp [hd]

theorem mem_drop (h : t.IsSound g) {e d : α × α} (he : e ∈ t.pending) :
    d ∈ ((t.drop e).kept g).edges ↔ d ∈ (t.kept g).edges := by
  have hnodup := h.pending.nodup g.nodup_edges
  simp only [mem_kept, drop, pass, hnodup.mem_erase_iff, List.mem_cons]
  by_cases hd : d = e
  · subst hd
    simp [he]
  · simp [hd]

/-- Meeting an edge from the last node keeps all but what is said about that edge. -/
theorem pass_of (h : t.IsSound g) {u v : α} {below stack : List α} (hs : t.stack = u :: below)
    (he : (u, v) ∈ t.pending) (hstack : t.stack <:+ stack) (hnodup : stack.Nodup)
    (hpath : stack.IsChain fun y x => (((t.pass (u, v)).kept g).Adj x y))
    (habove : v ∈ t.finished ∨ [v, u].Sublist stack) :
    IsSound g { t.pass (u, v) with stack := stack } where
  pending := List.erase_sublist.trans h.pending
  dropped e hm := ⟨(h.dropped e hm).1, fun hp => (h.dropped e hm).2 (List.mem_of_mem_erase hp)⟩
  nodup := hnodup
  path := hpath
  back e hm := (h.back e hm).mono fun d hd => (h.mem_pass he).mpr (.inr hd)
  done e hm := h.done e (List.mem_of_mem_erase hm)
  before x rest hx y hxy := by
    rcases (h.mem_pass he).mp hxy with hxy | hxy
    · -- The last node has an edge pending, so it is not finished.
      obtain ⟨rfl, rfl⟩ := Prod.mk.inj hxy
      exact absurd (hx.subset List.mem_cons_self) (h.done _ he)
    · exact h.before x rest hx y hxy
  above x y hxy hfin := by
    rcases (h.mem_pass he).mp hxy with hxy | hxy
    · obtain ⟨rfl, rfl⟩ := Prod.mk.inj hxy
      exact habove
    · exact (h.above x y hxy hfin).imp id fun hsub => hsub.trans hstack.sublist

theorem pass (h : t.IsSound g) {u v : α} {below : List α} (hs : t.stack = u :: below)
    (he : (u, v) ∈ t.pending) (hv : v ∈ t.finished) : (t.pass (u, v)).IsSound g := by
  refine h.pass_of hs he List.suffix_rfl h.nodup (h.path.imp fun y x hxy => ?_) (.inl hv)
  exact (h.mem_pass he).mpr (.inr hxy)

theorem push (h : t.IsSound g) {u v : α} {below : List α} (hs : t.stack = u :: below)
    (he : (u, v) ∈ t.pending) (hv : v ∉ t.stack) : (t.push (u, v)).IsSound g := by
  refine h.pass_of hs he (List.suffix_cons _ _) (List.nodup_cons.mpr ⟨hv, h.nodup⟩) ?_ ?_
  · have hpath : t.stack.IsChain fun y x => ((t.pass (u, v)).kept g).Adj x y :=
      h.path.imp fun y x hxy => (h.mem_pass he).mpr (.inr hxy)
    rw [hs] at hpath ⊢
    exact List.isChain_cons_cons.mpr ⟨(h.mem_pass he).mpr (.inl rfl), hpath⟩
  · rw [hs]
    exact .inr (by simp)

theorem reaches_last (h : t.IsSound g) {u v : α} {below : List α} (hs : t.stack = u :: below)
    (hv : v ∈ t.stack) : (t.kept g).Reaches v u :=
  Digraph.reaches_of_isChain (hs ▸ h.path) (hs ▸ hv)

theorem drop (h : t.IsSound g) {u v : α} {below : List α} (hs : t.stack = u :: below)
    (he : (u, v) ∈ t.pending) (hv : v ∈ t.stack) : (t.drop (u, v)).IsSound g where
  pending := List.erase_sublist.trans h.pending
  dropped e hm := by
    rcases List.mem_cons.mp hm with rfl | hm
    · refine ⟨h.pending.subset he, fun hp => ?_⟩
      exact ((h.pending.nodup g.nodup_edges).mem_erase_iff.mp hp).1 rfl
    · exact ⟨(h.dropped e hm).1, fun hp => (h.dropped e hm).2 (List.mem_of_mem_erase hp)⟩
  nodup := h.nodup
  path := h.path.imp fun y x hxy => (h.mem_drop he).mpr hxy
  back e hm := by
    have hkept : ∀ d ∈ (t.kept g).edges, d ∈ ((t.drop (u, v)).kept g).edges :=
      fun d hd => (h.mem_drop he).mpr hd
    rcases List.mem_cons.mp hm with rfl | hm
    · exact (h.reaches_last hs hv).mono hkept
    · exact (h.back e hm).mono hkept
  done e hm := h.done e (List.mem_of_mem_erase hm)
  before x rest hx y hxy := h.before x rest hx y ((h.mem_drop he).mp hxy)
  above x y hxy hfin := h.above x y ((h.mem_drop he).mp hxy) hfin

theorem step (h : t.IsSound g) {explored : List α} (hex : ∀ u ∈ explored, u ∈ t.finished) :
    (t.step explored).IsSound g := by
  cases hs : t.stack with
  | nil => rwa [step_of_stack_eq_nil hs]
  | cons u below =>
    rcases step_cases explored t hs with ⟨hu, he⟩ | ⟨v, he, ⟨hv, ht⟩ | ⟨hv, ht⟩ | ⟨hv, ht⟩⟩
    · rw [he]
      exact h.goBack hs hu
    · rw [ht]
      exact h.pass hs he (hex v hv)
    · rw [ht]
      exact h.drop hs he hv
    · rw [ht]
      exact h.push hs he hv

theorem run (h : t.IsSound g) {explored : List α} (hex : ∀ u ∈ explored, u ∈ t.finished)
    (n : Nat) : (t.run explored n).IsSound g := by
  induction n generalizing t with
  | zero => exact h
  | succ n ih => exact ih (h.step hex) fun u hu => (precedes_step _ _).finished (hex u hu)

end IsSound

omit [DecidableEq α] in
theorem work_setOut {g : Digraph α} {t : Tour α} (h : t.pending.Sublist g.edges) (u : α) :
    (t.setOut u).work ≤ 2 * g.edges.length + 1 := by
  have hlen := h.length_le
  simp only [work, setOut, List.length_singleton]
  omega

/-- What holds whenever a tour is back. -/
structure IsBack (g : Digraph α) (t : Tour α) : Prop extends t.IsSound g where
  stack : t.stack = []

theorem IsBack.visit {g : Digraph α} {t : Tour α} (h : t.IsBack g) (u : α) :
    (t.visit (2 * g.edges.length + 1) u).IsBack g := by
  rw [Tour.visit]
  split
  · exact h
  · exact ⟨(h.setOut h.stack u).run (fun _ hv => hv) _, stack_run_eq_nil (work_setOut h.pending u)⟩

theorem IsBack.mem_visit {g : Digraph α} {t : Tour α} (h : t.IsBack g) (u : α) :
    u ∈ (t.visit (2 * g.edges.length + 1) u).finished := by
  have hstack := (h.visit u).stack
  rw [Tour.visit] at hstack ⊢
  split at hstack
  · next hu => rwa [if_pos hu]
  · next hu =>
    rw [if_neg hu]
    have hmem : u ∈ (t.setOut u).stack := List.mem_singleton_self u
    rcases mem_run t.finished (2 * g.edges.length + 1) (.inl hmem) with hm | hm
    · rw [hstack] at hm
      exact absurd hm List.not_mem_nil
    · exact hm

theorem IsBack.foldl_visit {g : Digraph α} {t : Tour α} (h : t.IsBack g) (us : List α) :
    (us.foldl (Tour.visit (2 * g.edges.length + 1)) t).IsBack g ∧
      ∀ u, u ∈ us ∨ u ∈ t.finished →
        u ∈ (us.foldl (Tour.visit (2 * g.edges.length + 1)) t).finished := by
  induction us generalizing t with
  | nil => exact ⟨h, fun u hu => hu.resolve_left List.not_mem_nil⟩
  | cons w us ih =>
    obtain ⟨hback, hfin⟩ := ih (h.visit w)
    refine ⟨hback, fun u hu => hfin u ?_⟩
    rcases hu with hu | hu
    · rcases List.mem_cons.mp hu with rfl | hu
      · exact .inr (h.mem_visit u)
      · exact .inl hu
    · exact .inr ((precedes_visit _ t w).finished hu)

end Tour

namespace Digraph

variable {α : Type} [DecidableEq α]

/-- The tour of a graph from all its nodes in order. -/
def tour (g : Digraph α) : Tour α :=
  g.nodes.foldl (Tour.visit (2 * g.edges.length + 1)) (Tour.initial g)

/-- The edges that lead back on the tour of a graph. -/
def backEdges (g : Digraph α) : List (α × α) :=
  g.tour.dropped

theorem tour_isBack (g : Digraph α) : g.tour.IsBack g :=
  (Tour.IsBack.foldl_visit ⟨Tour.IsSound.initial g, rfl⟩ g.nodes).1

theorem mem_finished_tour {g : Digraph α} {u : α} (h : u ∈ g.nodes) : u ∈ g.tour.finished :=
  (Tour.IsBack.foldl_visit ⟨Tour.IsSound.initial g, rfl⟩ g.nodes).2 u (.inl h)

theorem pending_tour (g : Digraph α) : g.tour.pending = [] := by
  refine List.eq_nil_iff_forall_not_mem.mpr fun e he => ?_
  have hedge := g.tour_isBack.pending.subset he
  exact g.tour_isBack.done e he (mem_finished_tour (g.source_mem e hedge))

theorem kept_tour (g : Digraph α) : g.tour.kept g = g.without g.backEdges := by
  rw [Tour.kept, pending_tour]
  rfl

theorem backEdges_subset {g : Digraph α} {e : α × α} (h : e ∈ g.backEdges) : e ∈ g.edges :=
  (g.tour_isBack.dropped e h).1

/-- Along the edges that remain a path leads back against every edge that does not. -/
theorem reaches_of_mem_backEdges {g : Digraph α} {e : α × α} (h : e ∈ g.backEdges) :
    (g.without g.backEdges).Reaches e.2 e.1 :=
  g.kept_tour ▸ g.tour_isBack.back e h

theorem isAcyclic_without_backEdges (g : Digraph α) : (g.without g.backEdges).IsAcyclic := by
  -- The height of a node is the number of nodes finished before it was finished first.
  refine isAcyclic_of_height (fun u => g.tour.finished.reverse.idxOf u) fun u v he => ?_
  have hu : u ∈ g.tour.finished.reverse :=
    List.mem_reverse.mpr (mem_finished_tour (g.source_mem _ (mem_without.mp he).1))
  obtain ⟨earlier, later, hsplit, hnot⟩ := List.eq_append_cons_of_mem hu
  have hsuffix : u :: earlier.reverse <:+ g.tour.finished := by
    refine ⟨later.reverse, ?_⟩
    rw [← List.reverse_inj, hsplit]
    simp
  have hv : v ∈ earlier :=
    List.mem_reverse.mp (g.tour_isBack.before u _ hsuffix v (g.kept_tour ▸ he))
  rw [hsplit, List.idxOf_append_of_mem hv, List.idxOf_append_of_notMem hnot]
  exact lt_of_lt_of_le (List.idxOf_lt_length_of_mem hv) (Nat.le_add_right _ _)

end Digraph

end SchemaAtlas.Layout
