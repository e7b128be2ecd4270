import SchemaAtlas.Proofs.Layout.Ranks
import Mathlib.Order.Bounds.Basic

/-! # Ranks and longest paths

The rank of a node is the length of the longest path that ends at it. A path climbs by at least
one rank with every edge, and from a node of positive rank one can go back by exactly one rank, so
no rank below is left out. Nothing of this depends on which ready node is sorted first.
-/
namespace SchemaAtlas.Layout.Digraph

variable {α : Type}

/-- A path with some number of edges ends at a node. The path is given from its end. -/
def EndsPath (g : Digraph α) (u : α) (length : Nat) : Prop :=
  ∃ before : List α, (u :: before).IsChain (fun v u => g.Adj u v) ∧ before.length = length

theorem foldl_max_eq (f : α → Nat) (l : List α) (n : Nat) :
    l.foldl (fun n a => max n (f a + 1)) n = n ∨
      ∃ a ∈ l, f a + 1 = l.foldl (fun n a => max n (f a + 1)) n := by
  induction l generalizing n with
  | nil => exact .inl rfl
  | cons a l ih =>
    rw [List.foldl_cons]
    rcases ih (max n (f a + 1)) with h | ⟨b, hb, h⟩
    · rw [h]
      rcases max_choice n (f a + 1) with hn | ha
      · exact .inl hn
      · exact .inr ⟨a, List.mem_cons_self, ha.symm⟩
    · exact .inr ⟨b, List.mem_cons_of_mem _ hb, h⟩

variable [DecidableEq α]

/-- What lies just above some nodes is at the bottom or one above the rank of one of them. -/
theorem above_eq_zero_or (ranks : Ranks α) (us : List α) :
    above ranks us = 0 ∨ ∃ u ∈ us, ranks.of u + 1 = above ranks us :=
  foldl_max_eq ranks.of us 0

/-- Ranks that are the lengths of longest paths. -/
structure IsRanking (g : Digraph α) (ranks : Ranks α) : Prop where
  /-- Every node has one rank. -/
  nodes : (ranks.map (·.1)).Perm g.nodes
  longest : ∀ u ∈ g.nodes, IsGreatest {n | g.EndsPath u n} (ranks.of u)
  forward : ∀ u v, (u, v) ∈ g.edges → ranks.of u < ranks.of v
  back : ∀ v ∈ g.nodes, 0 < ranks.of v → ∃ u, (u, v) ∈ g.edges ∧ ranks.of u + 1 = ranks.of v
  /-- Exactly the ranks up to the largest are used. -/
  used : ∀ r, (∃ u ∈ g.nodes, ranks.of u = r) ↔ r < above ranks g.nodes

section
variable {g : Digraph α} {ranks : Ranks α}

theorem EndsPath.le (hforward : ∀ u v, (u, v) ∈ g.edges → ranks.of u < ranks.of v) {u : α} {n : Nat}
    (h : g.EndsPath u n) : n ≤ ranks.of u := by
  obtain ⟨before, hchain, rfl⟩ := h
  induction before generalizing u with
  | nil => exact Nat.zero_le _
  | cons w before ih =>
    obtain ⟨hwu, hrest⟩ := List.isChain_cons_cons.mp hchain
    exact Nat.lt_of_le_of_lt (ih hrest) (hforward w u hwu)

theorem endsPath_of_back
    (hback : ∀ v ∈ g.nodes, 0 < ranks.of v → ∃ u, (u, v) ∈ g.edges ∧ ranks.of u + 1 = ranks.of v)
    {u : α} (hu : u ∈ g.nodes) : g.EndsPath u (ranks.of u) := by
  induction hr : ranks.of u generalizing u with
  | zero => exact ⟨[], List.isChain_singleton u, rfl⟩
  | succ r ih =>
    obtain ⟨w, hwu, hw⟩ := hback u hu (by omega)
    have hnode : w ∈ g.nodes := g.source_mem _ hwu
    obtain ⟨before, hchain, hlen⟩ := ih hnode (by omega)
    exact ⟨w :: before, List.isChain_cons_cons.mpr ⟨hwu, hchain⟩, by rw [List.length_cons, hlen]⟩

/-- Below the rank of a node every rank is that of another. -/
theorem exists_of_le
    (hback : ∀ v ∈ g.nodes, 0 < ranks.of v → ∃ u, (u, v) ∈ g.edges ∧ ranks.of u + 1 = ranks.of v)
    {v : α} (hv : v ∈ g.nodes) {r : Nat} (hr : r ≤ ranks.of v) :
    ∃ u ∈ g.nodes, ranks.of u = r := by
  induction hk : ranks.of v - r generalizing v with
  | zero => exact ⟨v, hv, by omega⟩
  | succ k ih =>
    obtain ⟨w, hwv, hw⟩ := hback v hv (by omega)
    have hnode : w ∈ g.nodes := g.source_mem _ hwv
    exact ih hnode (by omega) (by omega)

end

section
variable {g : Digraph α} (ha : g.IsAcyclic) (order : α → Nat)
include ha

theorem IsAcyclic.exists_back {v : α} (hv : v ∈ g.nodes) (hpos : 0 < (g.ranks order).of v) :
    ∃ u, (u, v) ∈ g.edges ∧ (g.ranks order).of u + 1 = (g.ranks order).of v := by
  rw [ha.of_ranks order hv] at hpos ⊢
  rcases above_eq_zero_or (g.ranks order) (g.predecessors v) with h | ⟨u, hu, h⟩
  · omega
  · exact ⟨u, mem_predecessors.mp hu, h⟩

theorem IsAcyclic.exists_rank_iff (r : Nat) :
    (∃ u ∈ g.nodes, (g.ranks order).of u = r) ↔ r < above (g.ranks order) g.nodes := by
  constructor
  · rintro ⟨u, hu, rfl⟩
    exact lt_above hu
  · intro hr
    rcases above_eq_zero_or (g.ranks order) g.nodes with h | ⟨v, hv, h⟩
    · omega
    · exact exists_of_le (fun _ => ha.exists_back order) hv (by omega)

theorem IsAcyclic.isRanking : g.IsRanking (g.ranks order) where
  nodes := ha.map_fst_ranks order
  longest _ hu := ⟨endsPath_of_back (fun _ => ha.exists_back order) hu,
    fun _ h => h.le fun _ _ => ha.ranks_lt order⟩
  forward _ _ he := ha.ranks_lt order he
  back _ := ha.exists_back order
  used := ha.exists_rank_iff order

end

/-- Longest paths leave no choice, so two rankings assign the same ranks. -/
theorem IsRanking.perm {g : Digraph α} {ranks ranks' : Ranks α} (h : g.IsRanking ranks)
    (h' : g.IsRanking ranks') : ranks.Perm ranks' := by
  have hmem : ∀ {ranks : Ranks α}, g.IsRanking ranks → ∀ p : α × Nat,
      p ∈ ranks ↔ p.1 ∈ g.nodes ∧ IsGreatest {n | g.EndsPath p.1 n} p.2 := by
    intro ranks h p
    have hn := h.nodes.nodup_iff.mpr g.nodup_nodes
    have hkey : ∀ q ∈ ranks, q.1 ∈ g.nodes :=
      fun q hq => h.nodes.mem_iff.mp (List.mem_map_of_mem hq)
    constructor
    · intro hp
      rw [← Ranks.of_eq_of_mem hn hp]
      exact ⟨hkey p hp, h.longest _ (hkey p hp)⟩
    · rintro ⟨hnode, hgreatest⟩
      obtain ⟨q, hq, hk⟩ := List.mem_map.mp (h.nodes.mem_iff.mpr hnode)
      have hrank : q.2 = p.2 := by
        rw [← Ranks.of_eq_of_mem hn hq, hk]
        exact (h.longest _ hnode).unique hgreatest
      exact Prod.ext hk hrank ▸ hq
  have hn : ∀ {ranks : Ranks α}, g.IsRanking ranks → ranks.Nodup :=
    fun h => List.Nodup.of_map _ (h.nodes.nodup_iff.mpr g.nodup_nodes)
  exact (List.perm_ext_iff_of_nodup (hn h) (hn h')).mpr fun p => (hmem h p).trans (hmem h' p).symm

/-- The ranks of the nodes of a graph without cycles are the lengths of the longest paths to them,
in whatever order nodes come first. -/
theorem ranks_isRanking (g : Digraph α) (ha : g.IsAcyclic) (order order' : α → Nat) :
    g.IsRanking (g.ranks order) ∧ (g.ranks order).Perm (g.ranks order') :=
  ⟨ha.isRanking order, (ha.isRanking order).perm (ha.isRanking order')⟩

/-- A way from `a` to `d` with two short cuts, and another node next to its end. -/
def shortcuts : Digraph String :=
  .ofLists ["d", "c", "b", "a", "e"]
    [("a", "d"), ("b", "c"), ("a", "c"), ("a", "b"), ("c", "d"), ("e", "d")]

theorem isAcyclic_shortcuts : shortcuts.IsAcyclic := by
  have hdown : ∀ e ∈ shortcuts.edges,
      shortcuts.nodes.idxOf e.2 < shortcuts.nodes.idxOf e.1 := by decide
  exact isAcyclic_of_height shortcuts.nodes.idxOf fun u v he => hdown (u, v) he

theorem ranks_isRanking_shortcuts :
    shortcuts.IsAcyclic ∧ shortcuts.IsRanking (shortcuts.ranks shortcuts.nodes.idxOf) ∧
      (shortcuts.ranks shortcuts.nodes.idxOf).Perm
        (shortcuts.ranks shortcuts.nodes.reverse.idxOf) :=
  ⟨isAcyclic_shortcuts, ranks_isRanking shortcuts isAcyclic_shortcuts _ _⟩

example : shortcuts.ranks shortcuts.nodes.idxOf =
    [("a", 0), ("b", 1), ("c", 2), ("e", 0), ("d", 3)] := by
  decide

end SchemaAtlas.Layout.Digraph
