import SchemaAtlas.Layout.Layers
import SchemaAtlas.Proofs.Layout.Ranks
import SchemaAtlas.Layout.Cycles
import Mathlib.Data.List.Chain
import Mathlib.Data.List.Perm.Basic

/-! # The order of edges

The order in which edges come matters only for what is removed from a cycle. Where there are
no cycles nothing is removed, whether or not a search forgets its path, and whatever else is
computed from edges goes through sums, maxima and tests on all of them.
-/
namespace SchemaAtlas.Layout
open Relation

section Search
variable {α : Type} [DecidableEq α] {g : Digraph α}

/-- A search of a graph whose way is a path of the graph. -/
structure Search.IsOn (g : Digraph α) (s : Search α) : Prop where
  pending : s.pending ⊆ g.edges
  path : s.stack.IsChain fun v u => g.Adj u v

/-- What a search of a graph leads to: it stays on the graph or meets an edge of a cycle. -/
def Search.Stays (g : Digraph α) : Except (α × α) (Search α) → Prop
  | .ok s => s.IsOn g
  | .error e => e ∈ g.edges ∧ g.Reaches e.2 e.1

omit [DecidableEq α] in
theorem Search.Stays.bind {x : Except (α × α) (Search α)}
    {f : Search α → Except (α × α) (Search α)} (hx : Stays g x)
    (hf : ∀ s, s.IsOn g → Stays g (f s)) : Stays g (x >>= f) := by
  cases x with
  | error e => exact hx
  | ok s => exact hf s hx

theorem Search.IsOn.step {s : Search α} (h : s.IsOn g) (forgets : α → Bool) (explored : List α) :
    Stays g (s.step forgets explored) := by
  rw [Search.step]
  cases hs : s.stack with
  | nil => exact h
  | cons u below =>
    have hpath := hs ▸ h.path
    dsimp only
    cases hfind : s.pending.find? fun e => e.1 = u with
    | none => exact ⟨h.pending, hpath.tail⟩
    | some e =>
      have he : e ∈ g.edges := h.pending (List.mem_of_find?_eq_some hfind)
      have hu : e.1 = u := by simpa using List.find?_some hfind
      have hleft : s.pending.erase e ⊆ g.edges :=
        List.Subset.trans List.erase_subset h.pending
      dsimp only
      split
      · exact ⟨hleft, hpath⟩
      · rw [Search.follow]
        dsimp only
        generalize (if forgets e.1 = true then 1 else s.remembered) = k
        split
        · next hback =>
          -- However much of the way is forgotten, the edge leads back to a node on it.
          have hmem : e.2 ∈ u :: below := List.mem_of_mem_take hback
          rw [Stays, hu]
          exact ⟨he, Digraph.reaches_of_isChain hpath hmem⟩
        · exact ⟨hleft, List.isChain_cons_cons.mpr ⟨hu ▸ he, hpath⟩⟩

theorem Search.IsOn.run {s : Search α} (h : s.IsOn g) (forgets : α → Bool) (explored : List α)
    (n : Nat) : Stays g (s.run forgets explored n) := by
  induction n generalizing s with
  | zero => exact h
  | succ n ih => exact (h.step forgets explored).bind fun _ hs => ih hs

namespace Digraph

theorem stays_searchAll (g : Digraph α) (forgets : α → Bool) :
    Search.Stays g (g.searchAll forgets) := by
  have hall : ∀ (us : List α) (s : Search α), s.IsOn g →
      Search.Stays g (us.foldlM (fun s u =>
        if u ∈ s.finished then .ok s
        else (s.setOut u).run forgets s.finished (2 * g.edges.length + 1)) s) := by
    intro us
    induction us with
    | nil => exact fun s hs => hs
    | cons u us ih =>
      intro s hs
      rw [List.foldlM_cons]
      refine Search.Stays.bind ?_ ih
      split
      · exact hs
      · have hout : (s.setOut u).IsOn g := ⟨hs.pending, List.isChain_singleton u⟩
        exact hout.run forgets _ _
  exact hall g.nodes _ ⟨List.Subset.refl _, List.isChain_nil⟩

theorem of_backEdge?_eq_some {forgets : α → Bool} {e : α × α}
    (h : g.backEdge? forgets = some e) : e ∈ g.edges ∧ g.Reaches e.2 e.1 := by
  have hstays := g.stays_searchAll forgets
  rw [backEdge?] at h
  cases hsearch : g.searchAll forgets with
  | ok s => simp [hsearch] at h
  | error d =>
    rw [hsearch] at hstays h
    cases h
    exact hstays

theorem breakFrom_of_none {forgets : α → Bool} (h : g.backEdge? forgets = none) (n : Nat) :
    breakFrom forgets n g = g := by
  cases n with
  | zero => rfl
  | succ n => rw [breakFrom, h]

/-- Where there is no cycle no search finds one, even if it forgets its path. -/
theorem IsAcyclic.breakFrom_eq (ha : g.IsAcyclic) (forgets : α → Bool) (n : Nat) :
    breakFrom forgets n g = g := by
  refine breakFrom_of_none ?_ n
  cases h : g.backEdge? forgets with
  | none => rfl
  | some e =>
    obtain ⟨he, hr⟩ := of_backEdge?_eq_some h
    exact absurd hr (ha.not_reaches he)

/-- Any bound will do that lets all edges be removed. -/
theorem breakFrom_eq_of_le {forgets : α → Bool} {m n : Nat} (hm : g.edges.length ≤ m)
    (hn : g.edges.length ≤ n) : breakFrom forgets m g = breakFrom forgets n g := by
  induction m generalizing g n with
  | zero =>
    cases h : g.backEdge? forgets with
    | none => rw [breakFrom_of_none h, breakFrom_of_none h]
    | some e =>
      have hpos := List.length_pos_of_mem (of_backEdge?_eq_some h).1
      omega
  | succ m ih =>
    cases h : g.backEdge? forgets with
    | none => rw [breakFrom_of_none h, breakFrom_of_none h]
    | some e =>
      have he := (of_backEdge?_eq_some h).1
      have hless : (g.erase e).edges.length < g.edges.length :=
        List.length_filter_lt_length_iff_exists.mpr ⟨e, he, by simp⟩
      obtain ⟨n, rfl⟩ : ∃ k, n = k + 1 := ⟨n - 1, by omega⟩
      rw [breakFrom, breakFrom, h]
      exact ih (by omega) (by omega)

end Digraph

end Search

namespace Digraph

variable {α : Type} [DecidableEq α]

/-- The same nodes, and the same edges in perhaps another order. -/
structure IsReordered (g h : Digraph α) : Prop where
  nodes : g.nodes = h.nodes
  edges : g.edges.Perm h.edges

omit [DecidableEq α] in
theorem IsReordered.refl (g : Digraph α) : g.IsReordered g :=
  ⟨rfl, List.Perm.refl _⟩

omit [DecidableEq α] in
theorem barycenter_congr {neighbours neighbours' : α → List α}
    (hp : ∀ u, (neighbours u).Perm (neighbours' u)) :
    barycenter neighbours = barycenter neighbours' := by
  funext position u
  rw [barycenter, barycenter]
  have hu := hp u
  cases h : neighbours u with
  | nil =>
    rw [h] at hu
    rw [hu.nil_eq.symm]
  | cons v vs =>
    rw [h] at hu
    cases h' : neighbours' u with
    | nil =>
      rw [h'] at hu
      exact absurd hu.eq_nil (List.cons_ne_nil _ _)
    | cons w ws =>
      rw [h'] at hu
      dsimp only
      rw [(hu.map position).foldl_eq, hu.length_eq]

theorem resort_congr {neighbours neighbours' : α → List α}
    (hp : ∀ u, (neighbours u).Perm (neighbours' u)) :
    resort neighbours = resort neighbours' := by
  have hof : Sortable.of neighbours = Sortable.of neighbours' := by
    funext position u
    rw [Sortable.of, Sortable.of, barycenter_congr hp]
  have hsort : sortLayer neighbours = sortLayer neighbours' := by
    funext position layer
    rw [sortLayer, sortLayer, hof]
  funext layers i
  rw [resort, resort, hsort]

namespace IsReordered

variable {g h : Digraph α} (hr : g.IsReordered h)
include hr

theorem predecessors (u : α) : (g.predecessors u).Perm (h.predecessors u) :=
  (hr.edges.filter _).map _

theorem successors (u : α) : (g.successors u).Perm (h.successors u) :=
  (hr.edges.filter _).map _

theorem isReady_eq (sorted : List α) : g.isReady sorted = h.isReady sorted := by
  funext u
  rw [isReady, isReady, (hr.predecessors u).all_eq]

theorem sortFrom_eq (order : α → Nat) (n : Nat) (sorted : List α) :
    g.sortFrom order n sorted = h.sortFrom order n sorted := by
  induction n generalizing sorted with
  | zero => rfl
  | succ n ih =>
    rw [sortFrom, sortFrom, hr.nodes, hr.isReady_eq]
    cases least? order (h.nodes.filter (h.isReady sorted)) with
    | none => rfl
    | some u => exact ih _

theorem above_eq (ranks : Ranks α) (u : α) :
    above ranks (g.predecessors u) = above ranks (h.predecessors u) :=
  above_perm ranks (hr.predecessors u)

theorem ranks_eq (order : α → Nat) : g.ranks order = h.ranks order := by
  rw [ranks, ranks, topologicalSort, topologicalSort, hr.sortFrom_eq, hr.nodes]
  simp only [hr.above_eq]

theorem sweep_eq : g.sweep = h.sweep := by
  funext downward layers
  rw [sweep, sweep, resort_congr hr.predecessors, resort_congr hr.successors]

theorem layers_eq : g.layers = h.layers := by
  funext ranks order count
  simp only [layers, sweeps, hr.sweep_eq]

end IsReordered

end Digraph

end SchemaAtlas.Layout
