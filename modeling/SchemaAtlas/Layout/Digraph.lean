/-! # Directed graphs

Finite directed graphs without repeated nodes or edges. Nodes and edges are kept in the
order in which they were first met, and so are the successors of a node.
-/
namespace SchemaAtlas.Layout

theorem nodup_eraseDups {α : Type} [BEq α] [LawfulBEq α] (l : List α) : l.eraseDups.Nodup := by
  generalize h : l.length = n
  induction n using Nat.strongRecOn generalizing l with
  | _ n ih =>
    cases l with
    | nil => simp
    | cons a l =>
      have hle := List.length_filter_le (fun b => !b == a) l
      rw [List.eraseDups_cons, List.nodup_cons]
      refine ⟨?_, ih _ (by simp at h; omega) _ rfl⟩
      simp [List.mem_eraseDups]

structure Digraph (α : Type) where
  nodes : List α
  edges : List (α × α)
  nodup_nodes : nodes.Nodup
  nodup_edges : edges.Nodup
  source_mem : ∀ e ∈ edges, e.1 ∈ nodes
  target_mem : ∀ e ∈ edges, e.2 ∈ nodes

namespace Digraph

variable {α : Type} [DecidableEq α]

/-- The graph of some nodes and of those edges that join two of them. -/
def ofLists (nodes : List α) (edges : List (α × α)) : Digraph α where
  nodes := nodes.eraseDups
  edges := (edges.filter fun e => nodes.contains e.1 && nodes.contains e.2).eraseDups
  nodup_nodes := nodup_eraseDups _
  nodup_edges := nodup_eraseDups _
  source_mem := by
    intro e he
    simp only [List.mem_eraseDups, List.mem_filter, Bool.and_eq_true, List.contains_iff_mem] at he
    simpa [List.mem_eraseDups] using he.2.1
  target_mem := by
    intro e he
    simp only [List.mem_eraseDups, List.mem_filter, Bool.and_eq_true, List.contains_iff_mem] at he
    simpa [List.mem_eraseDups] using he.2.2

def keep (g : Digraph α) (kept : α × α → Bool) : Digraph α where
  nodes := g.nodes
  edges := g.edges.filter kept
  nodup_nodes := g.nodup_nodes
  nodup_edges := List.Pairwise.filter _ g.nodup_edges
  source_mem e he := g.source_mem e (List.mem_filter.1 he).1
  target_mem e he := g.target_mem e (List.mem_filter.1 he).1

def erase (g : Digraph α) (e : α × α) : Digraph α :=
  g.keep (· ≠ e)

def successors (g : Digraph α) (u : α) : List α :=
  (g.edges.filter fun e => e.1 = u).map (·.2)

def predecessors (g : Digraph α) (v : α) : List α :=
  (g.edges.filter fun e => e.2 = v).map (·.1)

theorem mem_successors {g : Digraph α} {u v : α} : v ∈ g.successors u ↔ (u, v) ∈ g.edges := by
  simp only [successors, List.mem_map, List.mem_filter, decide_eq_true_eq]
  constructor
  · rintro ⟨⟨a, b⟩, ⟨h, rfl⟩, rfl⟩; exact h
  · exact fun h => ⟨(u, v), ⟨h, rfl⟩, rfl⟩

theorem mem_predecessors {g : Digraph α} {u v : α} :
    u ∈ g.predecessors v ↔ (u, v) ∈ g.edges := by
  simp only [predecessors, List.mem_map, List.mem_filter, decide_eq_true_eq]
  constructor
  · rintro ⟨⟨a, b⟩, ⟨h, rfl⟩, rfl⟩; exact h
  · exact fun h => ⟨(u, v), ⟨h, rfl⟩, rfl⟩

omit [DecidableEq α] in
theorem mem_keep {g : Digraph α} {kept : α × α → Bool} {e : α × α} :
    e ∈ (g.keep kept).edges ↔ e ∈ g.edges ∧ kept e = true := by
  simp [keep]

end Digraph

end SchemaAtlas.Layout
