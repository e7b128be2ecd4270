import Mathlib.Data.List.Perm.Basic
import Mathlib.Data.List.Forall2
import SchemaAtlas.Schema.Focus

/-! # Highlighting

What is in focus is said of each relationship and each table by itself, without a walk through the
graph. So the order of the relationships does not matter, nor what was dimmed before, and a joint
selection brings into focus what its parts do.
-/
namespace SchemaAtlas.Schema

/-- A relationship is drawn into focus when it is selected or touches a selected table. -/
inductive Selection.Draws (s : Selection) (r : Relationship) : Prop
  | selected (h : r.id.key ∈ s.relationships)
  | leaves (h : r.source.key ∈ s.tables)
  | enters (h : r.target.key ∈ s.tables)

/-- A table is shown when it is selected or at an end of a relationship drawn into focus. -/
inductive Graph.Shows (g : Graph) (s : Selection) (key : Value) : Prop
  | selected (h : key ∈ s.tables)
  | source (r : Relationship) (hr : r ∈ g.relationships) (h : s.Draws r) (hkey : r.source.key = key)
  | target (r : Relationship) (hr : r ∈ g.relationships) (h : s.Draws r) (hkey : r.target.key = key)

theorem focuses_iff {s : Selection} {r : Relationship} : s.focuses r = true ↔ s.Draws r := by
  simp only [Selection.focuses, Bool.or_eq_true, List.contains_iff_mem]
  constructor
  · rintro ((h | h) | h)
    · exact .selected h
    · exact .leaves h
    · exact .enters h
  · rintro (h | h | h)
    · exact .inl (.inl h)
    · exact .inl (.inr h)
    · exact .inr h

/-- An empty selection draws nothing, so it needs no case of its own here. -/
theorem inFocus_eq_filter (g : Graph) (s : Selection) :
    g.inFocus s = g.relationships.filter s.focuses := by
  unfold Graph.inFocus
  split
  · next hempty =>
    simp only [Selection.isEmpty, Bool.and_eq_true, List.isEmpty_iff] at hempty
    have hnone : s.focuses = fun _ => false := by
      funext r
      simp [Selection.focuses, hempty.1, hempty.2]
    rw [hnone, List.filter_false]
  · rfl

theorem mem_inFocus {g : Graph} {s : Selection} {r : Relationship} :
    r ∈ g.inFocus s ↔ r ∈ g.relationships ∧ s.Draws r := by
  rw [inFocus_eq_filter, List.mem_filter, focuses_iff]

theorem mem_focusedKeys {g : Graph} {s : Selection} {key : Value} :
    key ∈ g.focusedKeys s ↔ g.Shows s key := by
  simp only [Graph.focusedKeys, List.mem_append, List.mem_flatMap, mem_inFocus, List.mem_cons,
    List.not_mem_nil, or_false]
  constructor
  · rintro (h | ⟨r, ⟨hr, h⟩, rfl | rfl⟩)
    · exact .selected h
    · exact .source r hr h rfl
    · exact .target r hr h rfl
  · rintro (h | ⟨r, hr, h, rfl⟩ | ⟨r, hr, h, rfl⟩)
    · exact .inl h
    · exact .inr ⟨r, ⟨hr, h⟩, .inl rfl⟩
    · exact .inr ⟨r, ⟨hr, h⟩, .inr rfl⟩

/-! The relationships looked at one after the other. -/

/-- Gathers the ends and the id of a relationship. It is held against the selection and not against
the tables gathered so far: the neighbours of neighbours stay out. -/
def Selection.gather (s : Selection) (found : List Value × List Value) (r : Relationship) :
    List Value × List Value :=
  if s.focuses r then (found.1 ++ [r.source.key, r.target.key], found.2 ++ [r.id]) else found

theorem gather_of_draws {s : Selection} {r : Relationship} (h : s.Draws r)
    (found : List Value × List Value) :
    s.gather found r = (found.1 ++ [r.source.key, r.target.key], found.2 ++ [r.id]) :=
  if_pos (focuses_iff.mpr h)

theorem gather_of_not_draws {s : Selection} {r : Relationship} (h : ¬ s.Draws r)
    (found : List Value × List Value) : s.gather found r = found :=
  if_neg fun hf => h (focuses_iff.mp hf)

theorem foldl_gather (s : Selection) (rs : List Relationship) (found : List Value × List Value) :
    rs.foldl s.gather found =
      (found.1 ++ (rs.filter s.focuses).flatMap (fun r => [r.source.key, r.target.key]),
        found.2 ++ (rs.filter s.focuses).map Relationship.id) := by
  induction rs generalizing found with
  | nil => simp
  | cons r rs ih =>
    rw [List.foldl_cons, ih]
    by_cases h : s.Draws r
    · rw [gather_of_draws h, List.filter_cons_of_pos (focuses_iff.mpr h), List.flatMap_cons,
        List.map_cons, List.append_assoc, List.append_assoc]
      rfl
    · rw [gather_of_not_draws h, List.filter_cons_of_neg fun hf => h (focuses_iff.mp hf)]

/-- In whatever order the relationships are looked at, what is gathered is the focus. -/
theorem foldl_gather_perm {g : Graph} {rs : List Relationship} (h : rs.Perm g.relationships)
    (s : Selection) :
    (∀ key, key ∈ (rs.foldl s.gather (s.tables, [])).1 ↔ g.Shows s key) ∧
      (rs.foldl s.gather (s.tables, [])).2.Perm ((g.inFocus s).map Relationship.id) := by
  have hperm : (rs.filter s.focuses).Perm (g.inFocus s) := by
    rw [inFocus_eq_filter]
    exact h.filter _
  rw [foldl_gather]
  refine ⟨fun key => ?_, by simpa using hperm.map Relationship.id⟩
  rw [← mem_focusedKeys, Graph.focusedKeys, List.mem_append, List.mem_append,
    (hperm.flatMap_right _).mem_iff]

/-! Graphs that are highlighted alike. -/

/-- A table as it is in focus. -/
def Table.undimmed (t : Table) : Table :=
  { t with dimmed := false }

/-- Two graphs that differ at most in which tables are dimmed and in the order of relationships. -/
structure Graph.Matches (g h : Graph) : Prop where
  tables : h.tables.map Table.undimmed = g.tables.map Table.undimmed
  relationships : h.relationships.Perm g.relationships

theorem tables_dim (g : Graph) (s : Selection) :
    (g.dim s).tables = (g.tables.map Table.undimmed).map fun t =>
      { t with dimmed := !s.isEmpty && !(g.focusedKeys s).contains t.key } := by
  rw [List.map_map]
  rfl

theorem matches_dim (g : Graph) (s : Selection) : g.Matches (g.dim s) where
  tables := by
    rw [tables_dim, List.map_map, List.map_map]
    rfl
  relationships := .refl _

theorem hasScalarIds_eq (g : Graph) :
    g.hasScalarIds = ((g.tables.map Table.undimmed).all (fun t => t.id.isScalar) &&
      g.relationships.all fun r => r.id.isScalar && r.source.isScalar && r.target.isScalar) := by
  rw [List.all_map]
  rfl

namespace Graph.Matches
variable {g h : Graph} (hm : g.Matches h)
include hm

theorem hasScalarIds : h.hasScalarIds = g.hasScalarIds := by
  rw [hasScalarIds_eq, hasScalarIds_eq, hm.tables, hm.relationships.all_eq]

theorem inFocus (s : Selection) : (h.inFocus s).Perm (g.inFocus s) := by
  rw [inFocus_eq_filter, inFocus_eq_filter]
  exact hm.relationships.filter _

theorem tables_dim (s : Selection) : (h.dim s).tables = (g.dim s).tables := by
  have hkeys : ∀ key, (h.focusedKeys s).contains key = (g.focusedKeys s).contains key := by
    intro key
    rw [Bool.eq_iff_iff, List.contains_iff_mem, List.contains_iff_mem, Graph.focusedKeys,
      Graph.focusedKeys, List.mem_append, List.mem_append,
      ((hm.inFocus s).flatMap_right _).mem_iff]
  rw [Schema.tables_dim, Schema.tables_dim, hm.tables]
  simp only [hkeys]

end Graph.Matches

/-- What was dimmed before makes no difference. -/
theorem highlight_dim (g : Graph) (s s' : Selection) :
    (g.dim s).highlight s' = g.highlight s' := by
  have hm := matches_dim g s
  have hdim : (g.dim s).dim s' = g.dim s' :=
    congrArg (fun tables => Graph.mk tables g.relationships) (hm.tables_dim s')
  have hfocus : (g.dim s).inFocus s' = g.inFocus s' := by
    rw [inFocus_eq_filter, inFocus_eq_filter, Graph.relationships_dim]
  rw [Graph.highlight, Graph.highlight, hm.hasScalarIds, hdim, hfocus]

/-! The focus of a selection. -/

/-- A graph highlighted for a selection, with the ids of the relationships in focus. -/
structure Graph.IsFocused (g : Graph) (s : Selection) (g' : Graph) (ids : List Value) : Prop where
  relationships : g'.relationships = g.relationships
  tables : List.Forall₂ (fun t u : Table => u.undimmed = t.undimmed ∧
    (u.dimmed = false ↔ s.isEmpty = true ∨ g.Shows s t.key)) g.tables g'.tables
  ids : ∀ v, v ∈ ids ↔ ∃ r ∈ g.relationships, s.Draws r ∧ r.id = v

theorem isFocused_dim (g : Graph) (s : Selection) :
    g.IsFocused s (g.dim s) ((g.inFocus s).map Relationship.id) where
  relationships := rfl
  tables := by
    refine List.forall₂_map_right_iff.mpr (List.forall₂_same.mpr fun t _ => ⟨rfl, ?_⟩)
    rw [Bool.and_eq_false_iff, Bool.not_eq_false', Bool.not_eq_false', List.contains_iff_mem,
      mem_focusedKeys]
  ids v := by
    rw [List.mem_map]
    constructor
    · rintro ⟨r, hr, rfl⟩
      obtain ⟨hr, hdraws⟩ := mem_inFocus.mp hr
      exact ⟨r, hr, hdraws, rfl⟩
    · rintro ⟨r, hr, hdraws, rfl⟩
      exact ⟨r, mem_inFocus.mpr ⟨hr, hdraws⟩, rfl⟩

/-! Joint selections. -/

theorem Selection.isEmpty_iff {s : Selection} :
    s.isEmpty = true ↔ s.tables = [] ∧ s.relationships = [] := by
  rw [isEmpty, Bool.and_eq_true, List.isEmpty_iff, List.isEmpty_iff]

/-- Whether one selection holds all that another one does. -/
structure Selection.IsWithin (s s' : Selection) : Prop where
  tables : s.tables ⊆ s'.tables
  relationships : s.relationships ⊆ s'.relationships

namespace Selection.IsWithin
variable {s s' : Selection} (h : s.IsWithin s')
include h

theorem isEmpty_eq_false (hs : s.isEmpty = false) : s'.isEmpty = false := by
  rw [Bool.eq_false_iff, ne_eq, isEmpty_iff] at hs ⊢
  rintro ⟨htables, hrelationships⟩
  exact hs ⟨List.subset_nil.mp (htables ▸ h.tables),
    List.subset_nil.mp (hrelationships ▸ h.relationships)⟩

theorem draws {r : Relationship} (hr : s.Draws r) : s'.Draws r := by
  cases hr with
  | selected hr => exact .selected (h.relationships hr)
  | leaves hr => exact .leaves (h.tables hr)
  | enters hr => exact .enters (h.tables hr)

theorem shows {g : Graph} {key : Value} (hk : g.Shows s key) : g.Shows s' key := by
  cases hk with
  | selected hk => exact .selected (h.tables hk)
  | source r hr hdraws hkey => exact .source r hr (h.draws hdraws) hkey
  | target r hr hdraws hkey => exact .target r hr (h.draws hdraws) hkey

end Selection.IsWithin

/-- A selection of just what one of two selections holds. -/
structure Selection.IsUnion (s s₁ s₂ : Selection) : Prop where
  tables : ∀ key, key ∈ s.tables ↔ key ∈ s₁.tables ∨ key ∈ s₂.tables
  relationships : ∀ key, key ∈ s.relationships ↔ key ∈ s₁.relationships ∨ key ∈ s₂.relationships

namespace Selection.IsUnion
variable {s s₁ s₂ : Selection} (h : s.IsUnion s₁ s₂)
include h

theorem left : s₁.IsWithin s where
  tables _ hk := (h.tables _).mpr (.inl hk)
  relationships _ hk := (h.relationships _).mpr (.inl hk)

theorem right : s₂.IsWithin s where
  tables _ hk := (h.tables _).mpr (.inr hk)
  relationships _ hk := (h.relationships _).mpr (.inr hk)

theorem draws_iff {r : Relationship} : s.Draws r ↔ s₁.Draws r ∨ s₂.Draws r := by
  refine ⟨fun hr => ?_, fun hr => hr.elim h.left.draws h.right.draws⟩
  cases hr with
  | selected hr => exact ((h.relationships _).mp hr).imp .selected .selected
  | leaves hr => exact ((h.tables _).mp hr).imp .leaves .leaves
  | enters hr => exact ((h.tables _).mp hr).imp .enters .enters

theorem shows_iff {g : Graph} {key : Value} :
    g.Shows s key ↔ g.Shows s₁ key ∨ g.Shows s₂ key := by
  refine ⟨fun hk => ?_, fun hk => hk.elim h.left.shows h.right.shows⟩
  cases hk with
  | selected hk => exact ((h.tables key).mp hk).imp .selected .selected
  | source r hr hdraws hkey =>
    exact (h.draws_iff.mp hdraws).imp (.source r hr · hkey) (.source r hr · hkey)
  | target r hr hdraws hkey =>
    exact (h.draws_iff.mp hdraws).imp (.target r hr · hkey) (.target r hr · hkey)

/-- A table is dimmed for a joint selection when it is dimmed for both of its parts. -/
theorem tables_dim (g : Graph) (h₁ : s₁.isEmpty = false) (h₂ : s₂.isEmpty = false) :
    (g.dim s).tables = List.zipWith (fun t u : Table => { t with dimmed := t.dimmed && u.dimmed })
      (g.dim s₁).tables (g.dim s₂).tables := by
  have hkeys : ∀ key, (g.focusedKeys s).contains key =
      ((g.focusedKeys s₁).contains key || (g.focusedKeys s₂).contains key) := by
    intro key
    rw [Bool.eq_iff_iff, Bool.or_eq_true, List.contains_iff_mem, List.contains_iff_mem,
      List.contains_iff_mem, mem_focusedKeys, mem_focusedKeys, mem_focusedKeys, h.shows_iff]
  rw [Schema.tables_dim, Schema.tables_dim, Schema.tables_dim, List.zipWith_map_left,
    List.zipWith_map_right, List.zipWith_self]
  refine List.map_congr_left fun t _ => ?_
  rw [h₁, h₂, h.left.isEmpty_eq_false h₁, hkeys, Bool.not_or]
  rfl

theorem mem_inFocus {g : Graph} {r : Relationship} :
    r ∈ g.inFocus s ↔ r ∈ g.inFocus s₁ ∨ r ∈ g.inFocus s₂ := by
  rw [Schema.mem_inFocus, Schema.mem_inFocus, Schema.mem_inFocus, h.draws_iff, and_or_left]

end Selection.IsUnion

/-- Only with something selected do the ids have to serve as keys. -/
theorem highlight_eq {g : Graph} {s : Selection} (h : s.isEmpty = true ∨ g.hasScalarIds = true) :
    g.highlight s = .ok (g.dim s, (g.inFocus s).map Relationship.id) := by
  rw [Graph.highlight, Bool.or_eq_true_iff.mpr h, if_pos rfl]

/-- Highlighting brings into focus what is selected, the relationships at selected tables and the
tables at the other ends. The order of the relationships does not matter, nor does what was dimmed
before; with nothing selected nothing is dimmed; and a joint selection brings into focus what its
parts do. -/
theorem highlight_isFocused {g : Graph} {s : Selection}
    (hg : s.isEmpty = true ∨ g.hasScalarIds = true) :
    ∃ g' ids, g.highlight s = .ok (g', ids) ∧ g.IsFocused s g' ids ∧
      (∀ rs : List Relationship, rs.Perm g.relationships →
        (∀ key, key ∈ (rs.foldl s.gather (s.tables, [])).1 ↔ g.Shows s key) ∧
          (rs.foldl s.gather (s.tables, [])).2.Perm ids) ∧
      (∀ h : Graph, g.Matches h → ∃ h' ids', h.highlight s = .ok (h', ids') ∧
        h'.tables = g'.tables ∧ ids'.Perm ids) ∧
      (∀ s' : Selection, g'.highlight s' = g.highlight s') ∧
      (s.isEmpty = true → (∀ t ∈ g'.tables, t.dimmed = false) ∧ ids = []) ∧
      ∀ s₁ s₂ : Selection, s.IsUnion s₁ s₂ → s₁.isEmpty = false → s₂.isEmpty = false →
        ∃ g₁ ids₁ g₂ ids₂, g.highlight s₁ = .ok (g₁, ids₁) ∧ g.highlight s₂ = .ok (g₂, ids₂) ∧
          g'.tables = List.zipWith (fun t u : Table => { t with dimmed := t.dimmed && u.dimmed })
            g₁.tables g₂.tables ∧
          ∀ v, v ∈ ids ↔ v ∈ ids₁ ∨ v ∈ ids₂ := by
  refine ⟨g.dim s, _, highlight_eq hg, isFocused_dim g s, fun rs hrs => foldl_gather_perm hrs s,
    fun h hm => ?_, highlight_dim g s, fun hempty => ?_, fun s₁ s₂ hs h₁ h₂ => ?_⟩
  · have hh : s.isEmpty = true ∨ h.hasScalarIds = true := by rwa [hm.hasScalarIds]
    exact ⟨_, _, highlight_eq hh, hm.tables_dim s, (hm.inFocus s).map _⟩
  · refine ⟨fun t ht => ?_, ?_⟩
    · obtain ⟨u, _, rfl⟩ := List.mem_map.mp ht
      rw [hempty]
      rfl
    · rw [Graph.inFocus, if_pos hempty]
      rfl
  · have hscalar : g.hasScalarIds = true := by
      refine hg.resolve_left ?_
      rw [hs.left.isEmpty_eq_false h₁]
      exact Bool.false_ne_true
    refine ⟨_, _, _, _, highlight_eq (.inr hscalar), highlight_eq (.inr hscalar),
      hs.tables_dim g h₁ h₂, fun v => ?_⟩
    simp only [List.mem_map, hs.mem_inFocus, or_and_right, exists_or]

/-- A row of tables, the third of which refers to itself, with an id given twice. -/
def terrace : Graph where
  tables := ["a", "b", "c", "d"].map fun l => { id := .str (tableId l), label := .str l }
  relationships :=
    [("e", "a", "b"), ("f", "b", "c"), ("loop", "c", "c"), ("e", "c", "d")].map fun (id, a, b) =>
      { id := .str id, source := .str (tableId a), target := .str (tableId b)
        sourceHandle := .null, targetHandle := .null }

/-- Its first table, and one that is not there. -/
def corner : Selection :=
  ⟨[.str "node-a", .str "node-z"], []⟩

/-- The first table brings in the second one but not the third, which comes with its loop. -/
theorem highlight_isFocused_terrace : (corner.isEmpty = true ∨ terrace.hasScalarIds = true) ∧
    ∃ g' ids, terrace.highlight corner = .ok (g', ids) ∧
      g'.tables.map Table.dimmed = [false, false, true, true] ∧ ids = [.str "e"] ∧
      ∃ h ids', g'.highlight ⟨[], [.str "loop"]⟩ = .ok (h, ids') ∧
        h.tables.map Table.dimmed = [true, true, false, true] ∧ ids' = [.str "loop"] := by
  have hscalar : corner.isEmpty = true ∨ terrace.hasScalarIds = true := .inr (by decide)
  obtain ⟨g', ids, hok, _, _, _, hagain, _⟩ := highlight_isFocused hscalar
  refine ⟨hscalar, g', ids, hok, ?_, ?_, terrace.dim ⟨[], [.str "loop"]⟩, _, ?_, ?_, rfl⟩
  · cases hok
    decide
  · cases hok
    decide
  · rw [hagain]
    rfl
  · decide

end SchemaAtlas.Schema
