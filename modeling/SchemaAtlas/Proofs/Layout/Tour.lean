import SchemaAtlas.Layout.Cycles
import SchemaAtlas.Proofs.Layout.Paths

/-! # Searching past the edges that lead back

A tour searches a graph like the search for a cycle does, but it drops an edge that leads back
to its path and goes on. Every step uses up an edge or a node of the way, so the tour from a
node is back after a number of steps known beforehand.
-/
namespace SchemaAtlas.Layout

/-- A tour in progress. -/
structure Tour (α : Type) where
  /-- The edges that have not been met. -/
  pending : List (α × α)
  /-- The nodes on the way, the last first. -/
  stack : List α
  /-- The nodes from which no edge is pending, the last finished first. -/
  finished : List α
  /-- The edges that led back. -/
  dropped : List (α × α)

namespace Tour

variable {α : Type} [DecidableEq α]

/-! A tour sets out from a node and in each step either goes back, or meets an edge and passes
it, drops it or follows it. -/

def initial (g : Digraph α) : Tour α :=
  ⟨g.edges, [], [], []⟩

def setOut (t : Tour α) (u : α) : Tour α :=
  { t with stack := [u] }

def goBack (t : Tour α) (u : α) (below : List α) : Tour α :=
  { t with stack := below, finished := u :: t.finished }

def pass (t : Tour α) (e : α × α) : Tour α :=
  { t with pending := t.pending.erase e }

def drop (t : Tour α) (e : α × α) : Tour α :=
  { t.pass e with dropped := e :: t.dropped }

def push (t : Tour α) (e : α × α) : Tour α :=
  { t.pass e with stack := e.2 :: t.stack }

/-- One step: meets the next edge from the last node or goes back. -/
def step (explored : List α) (t : Tour α) : Tour α :=
  match t.stack with
  | [] => t
  | u :: below => match t.pending.find? fun e => e.1 = u with
    | none => t.goBack u below
    | some e =>
      if e.2 ∈ explored then t.pass e else if e.2 ∈ t.stack then t.drop e else t.push e

def run (explored : List α) : (steps : Nat) → Tour α → Tour α
  | 0, t => t
  | steps + 1, t => (t.step explored).run explored steps

/-- Tours from a node unless it is finished. -/
def visit (bound : Nat) (t : Tour α) (u : α) : Tour α :=
  if u ∈ t.finished then t else (t.setOut u).run t.finished bound

/-- An upper bound for the steps of a tour until it is back. -/
def work (t : Tour α) : Nat :=
  2 * t.pending.length + t.stack.length

/-- The graph of the edges that a tour has met and not dropped. -/
def kept (t : Tour α) (g : Digraph α) : Digraph α :=
  g.without (t.pending ++ t.dropped)

theorem step_cases (explored : List α) (t : Tour α) {u : α} {below : List α}
    (hs : t.stack = u :: below) :
    ((∀ e ∈ t.pending, e.1 ≠ u) ∧ t.step explored = t.goBack u below) ∨
      ∃ v, (u, v) ∈ t.pending ∧
        (v ∈ explored ∧ t.step explored = t.pass (u, v) ∨
          v ∈ t.stack ∧ t.step explored = t.drop (u, v) ∨
          v ∉ t.stack ∧ t.step explored = t.push (u, v)) := by
  simp only [step, hs]
  cases hf : t.pending.find? fun e => e.1 = u with
  | none => exact .inl ⟨by simpa using hf, rfl⟩
  | some e =>
    obtain ⟨x, v⟩ := e
    have hx : x = u := by simpa using List.find?_some hf
    subst hx
    refine .inr ⟨v, List.mem_of_find?_eq_some hf, ?_⟩
    by_cases hv : v ∈ explored
    · exact .inl ⟨hv, if_pos hv⟩
    · by_cases hv' : v ∈ x :: below
      · exact .inr (.inl ⟨hv', by simp only [if_neg hv, if_pos hv']⟩)
      · exact .inr (.inr ⟨hv', by simp only [if_neg hv, if_neg hv']⟩)

theorem step_of_stack_eq_nil {explored : List α} {t : Tour α} (h : t.stack = []) :
    t.step explored = t := by
  rw [step, h]

theorem run_of_stack_eq_nil {explored : List α} {t : Tour α} (h : t.stack = []) (n : Nat) :
    t.run explored n = t := by
  induction n with
  | zero => rfl
  | succ n ih => rw [run, step_of_stack_eq_nil h, ih]

theorem work_step_lt {explored : List α} {t : Tour α} (hs : t.stack ≠ []) :
    (t.step explored).work < t.work := by
  obtain ⟨u, below, hs⟩ := List.exists_cons_of_ne_nil hs
  rcases step_cases explored t hs with ⟨_, he⟩ | ⟨v, hv, ⟨_, he⟩ | ⟨_, he⟩ | ⟨_, he⟩⟩
  · rw [he]
    simp [work, goBack, hs]
  all_goals
    have hlen := List.length_erase_of_mem hv
    have hpos := List.length_pos_of_mem hv
    rw [he]
    simp only [work, pass, drop, push, hs, List.length_cons, hlen]
    omega

/-- The tour is back after as many steps as there is work. -/
theorem stack_run_eq_nil {explored : List α} {t : Tour α} {n : Nat} (h : t.work ≤ n) :
    (t.run explored n).stack = [] := by
  induction n generalizing t with
  | zero =>
    have hlen : t.stack.length = 0 := by
      rw [work] at h
      omega
    exact List.length_eq_zero_iff.mp hlen
  | succ n ih =>
    by_cases hs : t.stack = []
    · rw [run_of_stack_eq_nil hs, hs]
    · exact ih (Nat.le_of_lt_succ ((work_step_lt hs).trans_le h))

/-- Every node on the way gets finished or stays on the way. -/
theorem mem_step {explored : List α} {t : Tour α} {u : α}
    (h : u ∈ t.stack ∨ u ∈ t.finished) :
    u ∈ (t.step explored).stack ∨ u ∈ (t.step explored).finished := by
  cases hs : t.stack with
  | nil => rwa [step_of_stack_eq_nil hs]
  | cons w below =>
    rcases step_cases explored t hs with ⟨_, he⟩ | ⟨v, hv, ⟨_, he⟩ | ⟨_, he⟩ | ⟨_, he⟩⟩ <;>
      rw [he]
    · rw [hs] at h
      rcases h with h | h
      · rcases List.mem_cons.mp h with rfl | h
        · exact .inr List.mem_cons_self
        · exact .inl h
      · exact .inr (List.mem_cons_of_mem _ h)
    · exact h
    · exact h
    · exact h.imp (List.mem_cons_of_mem _) id

theorem mem_run (explored : List α) (n : Nat) {t : Tour α} {u : α}
    (h : u ∈ t.stack ∨ u ∈ t.finished) :
    u ∈ (t.run explored n).stack ∨ u ∈ (t.run explored n).finished := by
  induction n generalizing t with
  | zero => exact h
  | succ n ih => exact ih (mem_step h)

/-- What a tour has done so far stays done. -/
structure Precedes (t t' : Tour α) : Prop where
  pending : t'.pending.Sublist t.pending
  dropped : t.dropped ⊆ t'.dropped
  /-- Only an edge that was pending is dropped. -/
  fresh : ∀ e ∈ t'.dropped, e ∈ t.pending ∨ e ∈ t.dropped
  finished : t.finished ⊆ t'.finished

omit [DecidableEq α] in
theorem Precedes.refl (t : Tour α) : t.Precedes t :=
  ⟨List.Sublist.refl _, List.Subset.refl _, fun _ h => .inr h, List.Subset.refl _⟩

omit [DecidableEq α] in
theorem Precedes.trans {t t' t'' : Tour α} (h : t.Precedes t') (h' : t'.Precedes t'') :
    t.Precedes t'' where
  pending := h'.pending.trans h.pending
  dropped := List.Subset.trans h.dropped h'.dropped
  fresh e he := by
    rcases h'.fresh e he with he | he
    · exact .inl (h.pending.subset he)
    · exact h.fresh e he
  finished := List.Subset.trans h.finished h'.finished

theorem precedes_step (explored : List α) (t : Tour α) : t.Precedes (t.step explored) := by
  cases hs : t.stack with
  | nil => rw [step_of_stack_eq_nil hs]; exact .refl t
  | cons u below =>
    have hrefl := Precedes.refl t
    rcases step_cases explored t hs with ⟨_, he⟩ | ⟨v, hv, ⟨_, he⟩ | ⟨_, he⟩ | ⟨_, he⟩⟩ <;>
      rw [he]
    · exact ⟨hrefl.pending, hrefl.dropped, hrefl.fresh, List.subset_cons_self _ _⟩
    · exact ⟨List.erase_sublist, hrefl.dropped, hrefl.fresh, hrefl.finished⟩
    · refine ⟨List.erase_sublist, List.subset_cons_self _ _, fun e hm => ?_, hrefl.finished⟩
      rcases List.mem_cons.mp hm with rfl | hm
      · exact .inl hv
      · exact .inr hm
    · exact ⟨List.erase_sublist, hrefl.dropped, hrefl.fresh, hrefl.finished⟩

theorem precedes_run (explored : List α) (n : Nat) (t : Tour α) :
    t.Precedes (t.run explored n) := by
  induction n generalizing t with
  | zero => exact .refl t
  | succ n ih => exact (precedes_step explored t).trans (ih _)

omit [DecidableEq α] in
theorem precedes_setOut (t : Tour α) (u : α) : t.Precedes (t.setOut u) :=
  ⟨List.Sublist.refl _, List.Subset.refl _, fun _ h => .inr h, List.Subset.refl _⟩

theorem precedes_visit (bound : Nat) (t : Tour α) (u : α) : t.Precedes (t.visit bound u) := by
  rw [visit]
  split
  · exact .refl t
  · exact (precedes_setOut t u).trans (precedes_run _ _ _)

theorem precedes_foldl_visit (bound : Nat) (t : Tour α) (us : List α) :
    t.Precedes (us.foldl (visit bound) t) := by
  induction us generalizing t with
  | nil => exact .refl t
  | cons u us ih => exact (precedes_visit bound t u).trans (ih _)

theorem mem_kept {t : Tour α} {g : Digraph α} {e : α × α} :
    e ∈ (t.kept g).edges ↔ e ∈ g.edges ∧ e ∉ t.pending ∧ e ∉ t.dropped := by
  rw [kept, Digraph.mem_without, List.mem_append, not_or]

end Tour

end SchemaAtlas.Layout
