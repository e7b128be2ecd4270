import SchemaAtlas.Layout.Placement
import SchemaAtlas.Proofs.Layout.Restarts

/-! # What breaking cycles leaves

The relation between tables without its cycles has all its tables and as many of its edges as
can be: every edge removed that is no loop would close a cycle again. So edges outside cycles
stay, and where there are no cycles but loops, nothing else is removed.
-/
namespace SchemaAtlas.Layout
open Schema (Graph Table Relationship)

namespace Digraph

variable {α : Type} [DecidableEq α] {g : Digraph α} {forgets : α → Bool}

/-- A graph without cycles that is left of another, and to which no edge but loops can be given
back. -/
structure IsMinimalCut (g h : Digraph α) : Prop where
  nodes : h.nodes = g.nodes
  edges : ∀ e ∈ h.edges, e ∈ g.edges
  acyclic : h.IsAcyclic
  minimal : ∀ e ∈ g.edges, e ∉ h.edges → e.1 ≠ e.2 → h.Reaches e.2 e.1

theorem mem_withoutLoops {e : α × α} :
    e ∈ g.withoutLoops.edges ↔ e ∈ g.edges ∧ e.1 ≠ e.2 := by
  simp [withoutLoops, mem_keep]

theorem breakCycles_isMinimalCut (hf : ∀ u ∈ g.nodes, forgets u = false) :
    g.IsMinimalCut (g.breakCycles forgets) := by
  rw [breakCycles_eq hf]
  refine ⟨rfl, fun e he => ?_, isAcyclic_without_backEdges _, fun e he hrem hloop => ?_⟩
  · exact (mem_withoutLoops.mp (mem_without.mp he).1).1
  · have hmem : e ∈ g.withoutLoops.edges := mem_withoutLoops.mpr ⟨he, hloop⟩
    have hback : e ∈ g.withoutLoops.backEdges := by
      by_contra hnot
      exact hrem (mem_without.mpr ⟨hmem, hnot⟩)
    exact reaches_of_mem_backEdges hback

/-- An edge that lies on no cycle is never removed. -/
theorem IsMinimalCut.mem_of_not_reaches {h : Digraph α} (hc : g.IsMinimalCut h) {e : α × α}
    (he : e ∈ g.edges) (hcycle : ¬ g.Reaches e.2 e.1) : e ∈ h.edges := by
  by_contra hrem
  by_cases hloop : e.1 = e.2
  · exact hcycle (hloop ▸ Relation.ReflTransGen.refl)
  · exact hcycle ((hc.minimal e he hrem hloop).mono hc.edges)

theorem breakCycles_eq_withoutLoops (hf : ∀ u ∈ g.nodes, forgets u = false)
    (ha : g.withoutLoops.IsAcyclic) : g.breakCycles forgets = g.withoutLoops := by
  rw [breakCycles_eq hf]
  refine without_eq_self fun e hback he => ?_
  have hr : g.withoutLoops.Reaches e.2 e.1 :=
    (reaches_of_mem_backEdges hback).mono fun d hd => (mem_without.mp hd).1
  exact ha.not_reaches he hr

end Digraph

theorem isNaN_of_mem_nodes {g : Graph} (h : ∀ t ∈ g.tables, t.key.isNaN = false) :
    ∀ u ∈ (graphOf g).nodes, u.isNaN = false := by
  intro u hu
  obtain ⟨t, ht, rfl⟩ := List.mem_map.mp (List.mem_eraseDups.mp hu)
  exact h t ht

/-- Removing the first edge that leads back, again and again, ends with a graph without cycles,
and nothing is removed that could have stayed. The hypothesis holds of all ids that are texts; it
leaves out only the float that is not a number, which escapes a search since it does not equal
itself. -/
theorem acyclicGraphOf_minimal (g : Graph) (h : ∀ t ∈ g.tables, t.key.isNaN = false) :
    Digraph.BreaksTo Value.isNaN (graphOf g).withoutLoops (acyclicGraphOf g) ∧
      (graphOf g).IsMinimalCut (acyclicGraphOf g) ∧
      (∀ e ∈ (graphOf g).edges, ¬ (graphOf g).Reaches e.2 e.1 → e ∈ (acyclicGraphOf g).edges) ∧
      ((graphOf g).withoutLoops.IsAcyclic → acyclicGraphOf g = (graphOf g).withoutLoops) := by
  have hf := isNaN_of_mem_nodes h
  have hcut := Digraph.breakCycles_isMinimalCut hf
  exact ⟨Digraph.breaksTo_breakCycles hf, hcut, fun e he => hcut.mem_of_not_reaches he,
    Digraph.breakCycles_eq_withoutLoops hf⟩

/-- A relationship between the tables with two labels. -/
def between (source target : String) : Relationship where
  id := .str (source ++ target)
  source := .str (Schema.tableId source)
  target := .str (Schema.tableId target)
  sourceHandle := .str (Schema.sourceHandle (Schema.columnId source "id"))
  targetHandle := .str (Schema.targetHandle (Schema.columnId target "id"))

def labelled (label : String) : Table where
  id := .str (Schema.tableId label)
  label := .str label

/-- Three tables in a ring that is closed in both directions, one of them with a loop, a fourth
to which the ring refers, and a fifth that stands alone. -/
def ring : Graph where
  tables := ["a", "b", "c", "d", "e"].map labelled
  relationships := [between "a" "b", between "b" "c", between "c" "a", between "b" "b",
    between "c" "b", between "b" "a", between "c" "d", between "d" "x"]

theorem acyclicGraphOf_minimal_ring :
    (∀ t ∈ ring.tables, t.key.isNaN = false) ∧
      Digraph.BreaksTo Value.isNaN (graphOf ring).withoutLoops (acyclicGraphOf ring) ∧
      (graphOf ring).IsMinimalCut (acyclicGraphOf ring) ∧
      (∀ e ∈ (graphOf ring).edges, ¬ (graphOf ring).Reaches e.2 e.1 →
        e ∈ (acyclicGraphOf ring).edges) ∧
      ((graphOf ring).withoutLoops.IsAcyclic →
        acyclicGraphOf ring = (graphOf ring).withoutLoops) := by
  have h : ∀ t ∈ ring.tables, t.key.isNaN = false := by decide
  exact ⟨h, acyclicGraphOf_minimal ring h⟩

example : (acyclicGraphOf ring).edges =
    [("a", "b"), ("b", "c"), ("c", "d")].map fun e =>
      (.str (Schema.tableId e.1), .str (Schema.tableId e.2)) := by
  decide

end SchemaAtlas.Layout
