import SchemaAtlas.Proofs.Layout.BackEdges

/-! # Searching anew after every removal

A search that starts over on the graph without some of the edges that lead back on the tour
goes the way of the tour, until it meets another one of these. So starting over until nothing
leads back removes exactly the edges that lead back on one tour, and then it ends.
-/
namespace SchemaAtlas.Layout

variable {α : Type} [DecidableEq α]

/-- The search that is where a tour is, if some edges are not there. -/
def Tour.search (t : Tour α) (es : List (α × α)) : Search α :=
  ⟨t.pending.filter fun e => !es.contains e, t.stack, max 1 t.stack.length, t.finished⟩

def Search.work (s : Search α) : Nat :=
  2 * s.pending.length + s.stack.length

def Search.pass (s : Search α) (e : α × α) : Search α :=
  ⟨s.pending.erase e, s.stack, s.remembered, s.finished⟩

def Search.push (s : Search α) (e : α × α) : Search α :=
  ⟨s.pending.erase e, e.2 :: s.stack, s.remembered + 1, s.finished⟩

theorem Search.run_of_stack_eq_nil {forgets : α → Bool} {explored : List α} {s : Search α}
    (h : s.stack = []) (n : Nat) : s.run forgets explored n = .ok s := by
  induction n with
  | zero => rfl
  | succ n ih =>
    rw [Search.run, Search.step, h]
    exact ih

omit [DecidableEq α] in
theorem find?_filter_of_find? {p q : α → Bool} {l : List α} {a : α} (h : l.find? q = some a)
    (hp : p a = true) : (l.filter p).find? q = some a := by
  obtain ⟨hq, before, after, rfl, hbefore⟩ := List.find?_eq_some_iff_append.mp h
  rw [List.filter_append, List.filter_cons_of_pos hp]
  refine List.find?_eq_some_iff_append.mpr ⟨hq, _, _, rfl, fun b hb => ?_⟩
  exact hbefore b (List.mem_filter.mp hb).1

section Step
variable {t : Tour α} {es : List (α × α)}

theorem Tour.search_goBack {u : α} {below : List α} (hs : t.stack = u :: below) :
    (t.goBack u below).search es = (t.search es).goBack u below := by
  simp [search, goBack, Search.goBack, hs]

theorem Tour.search_pass {e : α × α} (hp : t.pending.Nodup) :
    (t.pass e).search es = (t.search es).pass e := by
  have hp' : (t.pending.filter fun e => !es.contains e).Nodup := hp.filter _
  simp only [search, pass, Search.pass, hp.erase_eq_filter, hp'.erase_eq_filter,
    List.filter_filter, Bool.and_comm]

theorem Tour.search_push {e : α × α} (hp : t.pending.Nodup) (hs : t.stack ≠ []) :
    (t.push e).search es = (t.search es).push e := by
  have hlen := List.length_pos_iff.mpr hs
  rw [search, Search.push, Search.mk.injEq]
  refine ⟨congrArg Search.pending (search_pass hp), rfl, ?_, rfl⟩
  simp only [push, pass, search, List.length_cons]
  omega

/-- Dropping an edge that is not there changes nothing. -/
theorem Tour.search_drop {e : α × α} (hp : t.pending.Nodup) (he : e ∈ es) :
    (t.drop e).search es = t.search es := by
  have hfilter : (t.pending.erase e).filter (fun e => !es.contains e) =
      t.pending.filter fun e => !es.contains e := by
    rw [hp.erase_eq_filter, List.filter_filter]
    refine List.filter_congr fun d _ => ?_
    by_cases hd : d = e
    · subst hd
      simp [he]
    · simp [hd]
  simp only [search, drop, pass, hfilter]

theorem Search.work_erase {s : Search α} {e : α × α} (he : e ∈ s.pending) :
    (s.pass e).work + 2 = s.work ∧ (s.push e).work + 1 = s.work := by
  have hlen := List.length_erase_of_mem he
  have hpos := List.length_pos_of_mem he
  simp only [work, pass, push, hlen, List.length_cons]
  omega

variable {forgets : α → Bool} {explored : List α} {g : Digraph α}

theorem Search.step_of_find {s : Search α} {u : α} {below : List α} {e : α × α}
    (hs : s.stack = u :: below) (he : s.pending.find? (fun e => e.1 = u) = some e)
    (hforgets : forgets e.1 = false) (hr : s.stack.length ≤ s.remembered) :
    s.step forgets explored =
      if e.2 ∈ explored then .ok (s.pass e)
      else if e.2 ∈ s.stack then .error e else .ok (s.push e) := by
  simp only [Search.step, hs, he, Search.follow, hforgets, Bool.false_eq_true, if_false]
  rw [List.take_of_length_le (hs ▸ hr)]
  simp only [pass, push, hs]

theorem Tour.step_of_find (explored : List α) {u : α} {below : List α} {e : α × α} (hs : t.stack = u :: below)
    (he : t.pending.find? (fun e => e.1 = u) = some e) :
    t.step explored =
      if e.2 ∈ explored then t.pass e else if e.2 ∈ t.stack then t.drop e else t.push e := by
  simp only [step, hs, he]

/-- An edge that is pending or dropped after it has been met leads back. -/
theorem Tour.leads_back (h : t.IsSound g) {u : α} {below : List α} {e : α × α}
    (hs : t.stack = u :: below) (he : t.pending.find? (fun e => e.1 = u) = some e)
    (hcase : e ∈ (t.step explored).pending ∨ e ∈ (t.step explored).dropped) :
    e.2 ∉ explored ∧ e.2 ∈ t.stack := by
  have hmem := List.mem_of_find?_eq_some he
  have hlost : ¬ (e ∈ (t.pass e).pending ∨ e ∈ t.dropped) := by
    rintro (hm | hm)
    · exact ((h.pending.nodup g.nodup_edges).mem_erase_iff.mp hm).1 rfl
    · exact (h.dropped e hm).2 hmem
  rw [step_of_find explored hs he] at hcase
  split at hcase
  · exact absurd hcase hlost
  · next hx =>
    split at hcase
    · next hv => exact ⟨hx, hv⟩
    · exact absurd hcase hlost

/-- A search makes the step of the tour, or stays because the tour drops an edge that is not
there, or meets the edge that the tour drops. -/
theorem Tour.search_step (h : t.IsSound g) (hf : ∀ u ∈ g.nodes, forgets u = false)
    (hs : t.stack ≠ [])
    (hes : ∀ e ∈ es, e ∈ t.pending →
      e ∈ (t.step explored).pending ∨ e ∈ (t.step explored).dropped) :
    ((t.search es).step forgets explored = .ok ((t.step explored).search es) ∧
        ((t.step explored).search es).work < (t.search es).work ∧
        (t.step explored).dropped = t.dropped) ∨
      ((t.step explored).search es = t.search es ∧
        ∀ e ∈ (t.step explored).dropped, e ∈ t.dropped ∨ e ∈ es) ∨
      ∃ e ∈ (t.step explored).dropped, e ∉ es ∧
        (t.search es).step forgets explored = .error e := by
  obtain ⟨u, below, hs⟩ := List.exists_cons_of_ne_nil hs
  have hnodup := h.pending.nodup g.nodup_edges
  have hstack : (t.search es).stack = u :: below := hs
  cases hfind : t.pending.find? fun e => e.1 = u with
  | none =>
    have hstep : t.step explored = t.goBack u below := by simp only [step, hs, hfind]
    have hfind' : (t.search es).pending.find? (fun e => e.1 = u) = none := by
      rw [List.find?_eq_none] at hfind ⊢
      exact fun e he => hfind e (List.mem_filter.mp he).1
    refine .inl ⟨?_, ?_, by rw [hstep]; rfl⟩
    · simp only [hstep, search_goBack hs, Search.step, hstack, hfind']
    · simp [hstep, search_goBack hs, Search.work, Search.goBack, hstack]
  | some e =>
    have he := List.mem_of_find?_eq_some hfind
    have hforgets : forgets e.1 = false := hf _ (g.source_mem _ (h.pending.subset he))
    have hstep := step_of_find explored hs hfind
    by_cases hees : e ∈ es
    · -- The edge is not there, so the tour has to drop it.
      obtain ⟨hx, hv⟩ := leads_back h hs hfind (hes e hees he)
      have hdrop : t.step explored = t.drop e := by rw [hstep, if_neg hx, if_pos hv]
      refine .inr (.inl ⟨hdrop ▸ search_drop hnodup hees, fun d hd => ?_⟩)
      rw [hdrop] at hd
      rcases List.mem_cons.mp hd with rfl | hd
      · exact .inr hees
      · exact .inl hd
    · have hthere : e ∈ (t.search es).pending := by
        simpa [search] using And.intro he hees
      have hfind' : (t.search es).pending.find? (fun e => e.1 = u) = some e :=
        find?_filter_of_find? hfind (by simpa using hees)
      obtain ⟨hpass, hpush⟩ := Search.work_erase hthere
      rw [Search.step_of_find hstack hfind' hforgets (le_max_right _ _), hstep]
      by_cases hx : e.2 ∈ explored
      · rw [if_pos hx, if_pos hx, search_pass hnodup]
        exact .inl ⟨rfl, by omega, rfl⟩
      · by_cases hv : e.2 ∈ t.stack
        · rw [if_neg hx, if_neg hx, if_pos (c := e.2 ∈ (t.search es).stack) hv, if_pos hv]
          exact .inr (.inr ⟨e, List.mem_cons_self, hees, rfl⟩)
        · rw [if_neg hx, if_neg hx, if_neg (c := e.2 ∈ (t.search es).stack) hv, if_neg hv,
            search_push hnodup (by simp [hs])]
          exact .inl ⟨rfl, by omega, rfl⟩

/-- How a search ends that goes the way of a tour between two of its states: where the tour
is, unless it meets an edge that the tour drops and that is there. -/
def Tour.Outcome (t t' : Tour α) (es : List (α × α)) (ends : Search α → Prop)
    (r : Except (α × α) (Search α)) : Prop :=
  (∃ s, r = .ok s ∧ ends s ∧ ∀ e ∈ t'.dropped, e ∈ t.dropped ∨ e ∈ es) ∨
    ∃ e ∈ t'.dropped, e ∉ es ∧ r = .error e

/-- The search from a node goes the way of the tour from it. The bounds suffice for both. -/
theorem Tour.search_run (h : t.IsSound g) (hf : ∀ u ∈ g.nodes, forgets u = false)
    (hex : ∀ u ∈ explored, u ∈ t.finished) {n m : Nat} (hn : t.work ≤ n)
    (hm : (t.search es).work ≤ m)
    (hes : ∀ e ∈ es, e ∈ (t.run explored n).pending ∨ e ∈ (t.run explored n).dropped) :
    t.Outcome (t.run explored n) es (· = (t.run explored n).search es)
      ((t.search es).run forgets explored m) := by
  induction n generalizing t m with
  | zero =>
    have hs : (t.run explored 0).stack = [] := stack_run_eq_nil hn
    exact .inl ⟨_, Search.run_of_stack_eq_nil hs m, rfl, fun e he => .inl he⟩
  | succ n ih =>
    by_cases hs : t.stack = []
    · rw [run_of_stack_eq_nil hs]
      exact .inl ⟨_, Search.run_of_stack_eq_nil hs m, rfl, fun e he => .inl he⟩
    · have hstep : ∀ e ∈ es, e ∈ t.pending →
          e ∈ (t.step explored).pending ∨ e ∈ (t.step explored).dropped := by
        intro e he _
        rcases hes e he with he | he
        · exact .inl ((precedes_run explored n _).pending.subset he)
        · exact (precedes_run explored n _).fresh e he
      have hex' : ∀ u ∈ explored, u ∈ (t.step explored).finished :=
        fun u hu => (precedes_step explored t).finished (hex u hu)
      have hn' : (t.step explored).work ≤ n :=
        Nat.le_of_lt_succ ((work_step_lt hs).trans_le hn)
      rcases search_step h hf hs hstep with
        ⟨hok, hwork, hdrop⟩ | ⟨hstay, hdrop⟩ | ⟨e, he, hees, herr⟩
      · -- The search makes the step as well and has less work left.
        obtain ⟨m, rfl⟩ : ∃ k, m = k + 1 := ⟨m - 1, by omega⟩
        have hrun : (t.search es).run forgets explored (m + 1) =
            ((t.step explored).search es).run forgets explored m := by
          rw [Search.run, hok]
          rfl
        have hrest := ih (h.step hex) hex' hn' (m := m) (by omega) hes
        rw [Outcome, hdrop] at hrest
        rw [hrun]
        exact hrest
      · -- The search does not move, which costs it none of its steps.
        have hrest := ih (h.step hex) hex' hn' (m := m) (hstay ▸ hm) hes
        rw [hstay] at hrest
        rcases hrest with ⟨s, hr, hend, hd⟩ | hrest
        · exact .inl ⟨s, hr, hend, fun e he => (hd e he).elim (hdrop e) .inr⟩
        · exact .inr hrest
      · -- The search ends; an edge once dropped stays dropped for the rest of the tour.
        obtain ⟨m, rfl⟩ : ∃ k, m = k + 1 := by
          have hlen := List.length_pos_iff.mpr hs
          simp only [Search.work, search] at hm
          exact ⟨m - 1, by omega⟩
        refine .inr ⟨e, (precedes_run explored n _).dropped he, hees, ?_⟩
        rw [Search.run, herr]
        rfl

end Step

/-- A search between two nodes that goes the way of a tour. -/
structure Tour.IsFollowedBy (t : Tour α) (es : List (α × α)) (s : Search α) : Prop where
  pending : s.pending = t.pending.filter fun e => !es.contains e
  finished : s.finished = t.finished

/-- One round of a search: sets out from a node unless it is finished. -/
def Search.visit (forgets : α → Bool) (bound : Nat) (s : Search α) (u : α) :
    Except (α × α) (Search α) :=
  if u ∈ s.finished then .ok s else (s.setOut u).run forgets s.finished bound

section Rounds
variable {forgets : α → Bool} {g : Digraph α} {t : Tour α} {es : List (α × α)} {s : Search α}

theorem Tour.IsFollowedBy.visit (h : t.IsFollowedBy es s) (hb : t.IsBack g)
    (hf : ∀ u ∈ g.nodes, forgets u = false) (u : α)
    (hes : ∀ e ∈ es, e ∈ (t.visit (2 * g.edges.length + 1) u).pending ∨
      e ∈ (t.visit (2 * g.edges.length + 1) u).dropped) :
    t.Outcome (t.visit (2 * g.edges.length + 1) u) es
      (Tour.IsFollowedBy (t.visit (2 * g.edges.length + 1) u) es)
      (s.visit forgets (2 * (g.without es).edges.length + 1) u) := by
  have hstart : s.setOut u = (t.setOut u).search es := by
    rw [Search.setOut, h.pending, h.finished]
    rfl
  rw [Search.visit, h.finished]
  rw [Tour.visit] at hes ⊢
  by_cases hu : u ∈ t.finished
  · rw [if_pos hu, if_pos hu]
    exact .inl ⟨s, rfl, h, fun e he => .inl he⟩
  · rw [if_neg hu] at hes
    rw [if_neg hu, if_neg hu, hstart]
    have hwork : ((t.setOut u).search es).work ≤ 2 * (g.without es).edges.length + 1 := by
      have hlen := (hb.pending.filter fun e => !es.contains e).length_le
      simp only [Search.work, Tour.search, Tour.setOut, Digraph.edges_without,
        List.length_singleton]
      omega
    rcases Tour.search_run (hb.setOut hb.stack u) hf (fun v hv => hv)
      (Tour.work_setOut hb.pending u) hwork hes with ⟨s', hr, rfl, hd⟩ | herr
    · exact .inl ⟨_, hr, ⟨rfl, rfl⟩, hd⟩
    · exact .inr herr

theorem Tour.IsFollowedBy.foldlM_visit (h : t.IsFollowedBy es s) (hb : t.IsBack g)
    (hf : ∀ u ∈ g.nodes, forgets u = false) (us : List α)
    (hes : ∀ e ∈ es, e ∈ (us.foldl (Tour.visit (2 * g.edges.length + 1)) t).pending ∨
      e ∈ (us.foldl (Tour.visit (2 * g.edges.length + 1)) t).dropped) :
    t.Outcome (us.foldl (Tour.visit (2 * g.edges.length + 1)) t) es
      (Tour.IsFollowedBy (us.foldl (Tour.visit (2 * g.edges.length + 1)) t) es)
      (us.foldlM (Search.visit forgets (2 * (g.without es).edges.length + 1)) s) := by
  induction us generalizing t s with
  | nil => exact .inl ⟨s, rfl, h, fun e he => .inl he⟩
  | cons u us ih =>
    have hlater := Tour.precedes_foldl_visit (2 * g.edges.length + 1)
      (t.visit (2 * g.edges.length + 1) u) us
    have hround := h.visit hb hf u fun e he => by
      rcases hes e he with he | he
      · exact .inl (hlater.pending.subset he)
      · exact hlater.fresh e he
    rw [List.foldlM_cons]
    rcases hround with ⟨s', hr, hs', hd⟩ | ⟨e, he, hees, herr⟩
    · rw [hr]
      rcases ih hs' (hb.visit u) hes with ⟨s'', hr', hs'', hd'⟩ | herr
      · exact .inl ⟨s'', hr', hs'', fun e he => (hd' e he).elim (hd e) .inr⟩
      · exact .inr herr
    · rw [herr]
      exact .inr ⟨e, hlater.dropped he, hees, rfl⟩

end Rounds

namespace Digraph

section
variable {g : Digraph α} {forgets : α → Bool}

/-- The search of a graph without some of the edges that lead back either meets another one of
them or finishes every node, and then none is left. -/
theorem searchAll_without (hf : ∀ u ∈ g.nodes, forgets u = false) {es : List (α × α)}
    (hes : ∀ e ∈ es, e ∈ g.backEdges) :
    (∃ s, (g.without es).searchAll forgets = .ok s ∧ (∀ u ∈ g.nodes, u ∈ s.finished) ∧
        ∀ e ∈ g.backEdges, e ∈ es) ∨
      ∃ e ∈ g.backEdges, e ∉ es ∧ (g.without es).searchAll forgets = .error e := by
  have hstart : (Tour.initial g).IsFollowedBy es (Search.initial (g.without es)) := ⟨rfl, rfl⟩
  rcases hstart.foldlM_visit ⟨Tour.IsSound.initial g, rfl⟩ hf g.nodes
    (fun e he => .inr (hes e he)) with ⟨s, hr, hs, hd⟩ | herr
  · refine .inl ⟨s, hr, fun u hu => ?_, fun e he => (hd e he).resolve_left List.not_mem_nil⟩
    rw [hs.finished]
    exact mem_finished_tour hu
  · exact .inr herr

/-- The loop that removes edges that lead back, one by one, from one graph to the last: it ends
when a search has finished every node and has met no such edge. -/
inductive BreaksTo (forgets : α → Bool) : Digraph α → Digraph α → Prop
  | done {g : Digraph α} {s : Search α} (hs : g.searchAll forgets = .ok s)
      (hfin : ∀ u ∈ g.nodes, u ∈ s.finished) : BreaksTo forgets g g
  | again {g h : Digraph α} {e : α × α} (he : g.searchAll forgets = .error e)
      (hrest : BreaksTo forgets (g.erase e) h) : BreaksTo forgets g h

theorem breakFrom_of_ok {s : Search α} (h : g.searchAll forgets = .ok s) (n : Nat) :
    breakFrom forgets n g = g := by
  cases n with
  | zero => rfl
  | succ n => simp only [breakFrom, backEdge?, h]

theorem breakFrom_of_error {e : α × α} (h : g.searchAll forgets = .error e) (n : Nat) :
    breakFrom forgets (n + 1) g = breakFrom forgets n (g.erase e) := by
  simp only [breakFrom, backEdge?, h]

theorem breakFrom_without_of_ok {es : List (α × α)} {s : Search α}
    (hs : (g.without es).searchAll forgets = .ok s) (hfin : ∀ u ∈ g.nodes, u ∈ s.finished)
    (hes : ∀ e, e ∈ es ↔ e ∈ g.backEdges) (n : Nat) :
    breakFrom forgets n (g.without es) = g.without g.backEdges ∧
      BreaksTo forgets (g.without es) (g.without g.backEdges) := by
  rw [← without_congr hes]
  exact ⟨breakFrom_of_ok hs n, .done hs hfin⟩

/-- Whatever has been removed so far, what remains in the end is the graph without the edges
that lead back on its tour. -/
theorem breakFrom_without (hf : ∀ u ∈ g.nodes, forgets u = false) {es : List (α × α)}
    (hes : ∀ e ∈ es, e ∈ g.backEdges) {n : Nat} (hn : (g.without es).edges.length ≤ n) :
    breakFrom forgets n (g.without es) = g.without g.backEdges ∧
      BreaksTo forgets (g.without es) (g.without g.backEdges) := by
  induction n generalizing es with
  | zero =>
    rcases searchAll_without hf hes with ⟨s, hs, hfin, hall⟩ | ⟨e, he, hees, herr⟩
    · exact breakFrom_without_of_ok hs hfin (fun e => ⟨hes e, hall e⟩) 0
    · have hmem : e ∈ (g.without es).edges := mem_without.mpr ⟨backEdges_subset he, hees⟩
      exact absurd (List.length_pos_of_mem hmem) (Nat.not_lt.mpr hn)
  | succ n ih =>
    rcases searchAll_without hf hes with ⟨s, hs, hfin, hall⟩ | ⟨e, he, hees, herr⟩
    · exact breakFrom_without_of_ok hs hfin (fun e => ⟨hes e, hall e⟩) (n + 1)
    · have hmem : e ∈ (g.without es).edges := mem_without.mpr ⟨backEdges_subset he, hees⟩
      have hless : ((g.without es).erase e).edges.length < (g.without es).edges.length :=
        List.length_filter_lt_length_iff_exists.mpr ⟨e, hmem, by simp⟩
      rw [erase_without] at hless
      have hes' : ∀ d ∈ e :: es, d ∈ g.backEdges := by
        intro d hd
        rcases List.mem_cons.mp hd with rfl | hd
        · exact he
        · exact hes d hd
      obtain ⟨hbreak, hto⟩ := ih hes' (by omega)
      rw [breakFrom_of_error herr, erase_without]
      exact ⟨hbreak, .again herr (erase_without g es e ▸ hto)⟩

theorem breakCycles_eq (hf : ∀ u ∈ g.nodes, forgets u = false) :
    g.breakCycles forgets = g.withoutLoops.without g.withoutLoops.backEdges := by
  have hlen : (g.withoutLoops.without []).edges.length ≤ g.edges.length :=
    (List.length_filter_le _ _).trans (List.length_filter_le _ _)
  rw [breakCycles, ← (breakFrom_without (g := g.withoutLoops) hf (by simp) hlen).1,
    without_eq_self (by simp)]

theorem breaksTo_breakCycles (hf : ∀ u ∈ g.nodes, forgets u = false) :
    BreaksTo forgets g.withoutLoops (g.breakCycles forgets) := by
  have hempty : ∀ e ∈ ([] : List (α × α)), e ∈ g.withoutLoops.backEdges := by simp
  have hto := (breakFrom_without (g := g.withoutLoops) hf hempty le_rfl).2
  rwa [without_eq_self (by simp), ← breakCycles_eq hf] at hto

end

end Digraph

end SchemaAtlas.Layout
