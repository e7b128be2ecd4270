import SchemaAtlas.Layout.Digraph
import Mathlib.Data.List.Chain
import Mathlib.Logic.Relation
import Mathlib.Order.WellFoundedSet

/-! # Paths in directed graphs

Paths follow edges. A graph is acyclic if no path with an edge leads back to where it began;
it is if the edges lead down some height, and then any of its nodes that are picked out
include one to which no edge leads from another of them.
-/
namespace SchemaAtlas.Layout.Digraph
open Relation

variable {α : Type}

/-- An edge leads from a node to another. -/
def Adj (g : Digraph α) (u v : α) : Prop :=
  (u, v) ∈ g.edges

/-- A path leads from a node to another, perhaps without any edge. -/
def Reaches (g : Digraph α) (u v : α) : Prop :=
  ReflTransGen g.Adj u v

/-- No path with an edge leads from a node to itself. -/
def IsAcyclic (g : Digraph α) : Prop :=
  ∀ u, ¬ TransGen g.Adj u u

theorem ext_lists {g h : Digraph α} (hn : g.nodes = h.nodes) (he : g.edges = h.edges) :
    g = h := by
  cases g
  cases h
  cases hn
  cases he
  rfl

theorem Reaches.mono {g h : Digraph α} (hsub : ∀ e ∈ g.edges, e ∈ h.edges) {u v : α}
    (hr : g.Reaches u v) : h.Reaches u v :=
  ReflTransGen.mono (fun a b he => hsub (a, b) he) u v hr

/-- Along a chain of edges, the last node first, every node reaches the last. -/
theorem reaches_of_isChain {g : Digraph α} {u v : α} {below : List α}
    (hpath : (u :: below).IsChain fun v u => g.Adj u v) (hv : v ∈ u :: below) :
    g.Reaches v u := by
  induction below generalizing u with
  | nil =>
    rw [List.mem_singleton.mp hv]
    exact ReflTransGen.refl
  | cons w below ih =>
    obtain ⟨hwu, hrest⟩ := List.isChain_cons_cons.mp hpath
    rcases List.mem_cons.mp hv with rfl | hv
    · exact ReflTransGen.refl
    · exact ReflTransGen.tail (ih hrest hv) hwu

theorem IsAcyclic.not_reaches {g : Digraph α} (ha : g.IsAcyclic) {u v : α}
    (he : (u, v) ∈ g.edges) : ¬ g.Reaches v u :=
  fun hr => ha u (TransGen.head' he hr)

theorem isAcyclic_of_height {g : Digraph α} (height : α → Nat)
    (h : ∀ u v, (u, v) ∈ g.edges → height v < height u) : g.IsAcyclic := by
  have hdown : ∀ u v, TransGen g.Adj u v → height v < height u := by
    intro u v huv
    induction huv with
    | single he => exact h _ _ he
    | tail _ he ih => exact (h _ _ he).trans ih
  exact fun u hu => lt_irrefl _ (hdown u u hu)

/-- Among some nodes of a graph without cycles there is one to which no edge leads from another
of them. -/
theorem IsAcyclic.exists_source {g : Digraph α} (ha : g.IsAcyclic) {us : List α} (hne : us ≠ []) :
    ∃ u ∈ us, ∀ v ∈ us, (v, u) ∉ g.edges := by
  have : IsStrictOrder α (TransGen g.Adj) :=
    { irrefl := ha, trans := fun _ _ _ => TransGen.trans }
  have hwf : {u | u ∈ us}.WellFoundedOn (TransGen g.Adj) := us.finite_toSet.wellFoundedOn
  obtain ⟨u, hu⟩ := List.exists_mem_of_ne_nil us hne
  obtain ⟨⟨m, hm⟩, hmin⟩ := hwf.has_min Set.univ ⟨⟨u, hu⟩, trivial⟩
  exact ⟨m, hm, fun v hv he => hmin.2 ⟨v, hv⟩ trivial (TransGen.single he)⟩

section
variable [DecidableEq α]

def without (g : Digraph α) (es : List (α × α)) : Digraph α :=
  g.keep fun e => !es.contains e

theorem edges_without (g : Digraph α) (es : List (α × α)) :
    (g.without es).edges = g.edges.filter fun e => !es.contains e := rfl

theorem mem_without {g : Digraph α} {es : List (α × α)} {e : α × α} :
    e ∈ (g.without es).edges ↔ e ∈ g.edges ∧ e ∉ es := by
  simp [without, mem_keep]

theorem without_eq_self {g : Digraph α} {es : List (α × α)} (h : ∀ e ∈ es, e ∉ g.edges) :
    g.without es = g := by
  refine ext_lists rfl (List.filter_eq_self.mpr fun e he => ?_)
  have : e ∉ es := fun hm => h e hm he
  simpa using this

theorem without_congr {g : Digraph α} {es es' : List (α × α)} (h : ∀ e, e ∈ es ↔ e ∈ es') :
    g.without es = g.without es' := by
  refine ext_lists rfl (List.filter_congr fun e _ => ?_)
  rw [Bool.not_inj_iff, Bool.eq_iff_iff, List.contains_iff_mem, List.contains_iff_mem]
  exact h e

theorem erase_without (g : Digraph α) (es : List (α × α)) (e : α × α) :
    (g.without es).erase e = g.without (e :: es) := by
  refine ext_lists rfl ?_
  change (g.edges.filter _).filter _ = g.edges.filter _
  rw [List.filter_filter]
  refine List.filter_congr fun d _ => ?_
  by_cases hd : d = e <;> simp [hd]

end

end SchemaAtlas.Layout.Digraph
