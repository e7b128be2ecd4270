import SchemaAtlas.Proofs.Schema.WellFormed
import Mathlib.Data.List.Pairwise
import Mathlib.Data.Prod.Lex

/-! # The edges that inference finds

The columns that an edge leaves and at which it arrives are known only by their ids, and columns
are flagged by their ids alone. When no id of a column occurs twice over all tables, an edge tells
its link, and a column is flagged exactly if an edge arrives at it. So there is one edge for every
key of a table and every other table that refers to it, and no other.
-/
namespace SchemaAtlas.Schema

/-- A column is named after a table: after its label, or after its label without one `s` at the
end. -/
def Column.RefersTo (c : Column) (t : Table) : Prop :=
  ∃ stem, (t.label = .str stem ∨ t.label = .str (stem ++ "s")) ∧ c.name = .str (stem ++ "_id")

/-- The first column of a table, in the order of declaration, that refers to another. -/
def Table.RefersBy (t : Table) (c : Column) (s : Table) : Prop :=
  ∃ before after, t.columns = before ++ c :: after ∧ c.RefersTo s ∧ ∀ b ∈ before, ¬ b.RefersTo s

namespace Relationship

/-- A relationship leads from a column of a table to another table. -/
def Leads (r : Relationship) (s : Table) (k : Column) (t : Table) : Prop :=
  r.source = s.id ∧ r.sourceHandle = .str (Schema.sourceHandle k.id.text) ∧ r.target = t.id

/-- A relationship arrives at a column of a table. -/
def ArrivesAt (r : Relationship) (t : Table) (c : Column) : Prop :=
  r.target = t.id ∧ r.targetHandle = .str (Schema.targetHandle c.id.text)

instance (r : Relationship) (s : Table) (k : Column) (t : Table) : Decidable (r.Leads s k t) :=
  inferInstanceAs (Decidable (_ ∧ _ ∧ _))

instance (r : Relationship) (t : Table) (c : Column) : Decidable (r.ArrivesAt t c) :=
  inferInstanceAs (Decidable (_ ∧ _))

/-- The number of the column that a relationship leaves, among the columns of all tables. -/
def columnPlace (tables : List Table) (r : Relationship) : ℕ :=
  ((tables.flatMap Table.columns).map fun c =>
    Value.str (Schema.sourceHandle c.id.text)).idxOf r.sourceHandle

/-- The place of a relationship: the table and the column that it leaves, and the table at which
it arrives, by their numbers. -/
def place (tables : List Table) (r : Relationship) : ℕ ×ₗ ℕ ×ₗ ℕ :=
  toLex ((tables.map Table.id).idxOf r.source, toLex
    (r.columnPlace tables, (tables.map Table.id).idxOf r.target))

theorem place_lt_place {tables : List Table} {r r' : Relationship} :
    r.place tables < r'.place tables ↔
      (tables.map Table.id).idxOf r.source < (tables.map Table.id).idxOf r'.source ∨
      (tables.map Table.id).idxOf r.source = (tables.map Table.id).idxOf r'.source ∧
        (r.columnPlace tables < r'.columnPlace tables ∨
        r.columnPlace tables = r'.columnPlace tables ∧
          (tables.map Table.id).idxOf r.target < (tables.map Table.id).idxOf r'.target) := by
  simp only [place, Prod.Lex.toLex_lt_toLex]

end Relationship

/-- What inference makes of some tables. Every key column of a table has one edge to each other
table that refers to the first, arriving at the first column that does, and there is no other
edge; edges come by table, key and other table; and a table changes only in that columns at which
an edge arrives are flagged. -/
structure IsInferred (tables : List Table) (g : Graph) : Prop where
  edge : ∀ s ∈ tables, ∀ k ∈ s.primaryKeys, ∀ t ∈ tables, t ≠ s → (∃ c ∈ t.columns, c.RefersTo s) →
    ∃ c, t.RefersBy c s ∧
      g.relationships.filter (fun r => r.Leads s k t) = [Link.relationship ⟨s, k, t, c⟩]
  noEdge : ∀ s ∈ tables, ∀ k ∈ s.primaryKeys, ∀ t ∈ tables,
    (t = s ∨ ∀ c ∈ t.columns, ¬ c.RefersTo s) →
      g.relationships.filter (fun r => r.Leads s k t) = []
  sound : ∀ r ∈ g.relationships, ∃ s ∈ tables, ∃ k ∈ s.primaryKeys, ∃ t ∈ tables, t ≠ s ∧
    ∃ c, t.RefersBy c s ∧ r = Link.relationship ⟨s, k, t, c⟩
  order : g.relationships.Pairwise fun r r' => r.place tables < r'.place tables
  tables : g.tables = tables.map fun t => { t with columns := t.columns.map fun c =>
    { c with isForeign := c.isForeign || g.relationships.any fun r => r.ArrivesAt t c } }

/-- Tables whose ids are distinct as keys, and whose columns have distinct ids over all tables. -/
structure HaveDistinctIds (tables : List Table) : Prop where
  tableIds : (tables.map Table.key).Nodup
  columnIds : ((tables.flatMap Table.columns).map Column.id).Nodup

theorem singular_append (stem : String) : singular (stem ++ "s") = stem := by
  simp [singular]

theorem eq_or_eq_singular_append (label : String) :
    label = singular label ∨ label = singular label ++ "s" := by
  unfold singular
  split
  next h =>
    obtain ⟨stem, hstem⟩ := List.getLast?_eq_some_iff.mp h
    refine .inr (String.toList_inj.mp ?_)
    simp [hstem]
  next => exact .inl rfl

/-- The names that refer to a label are those made of a stem of it. -/
theorem mem_referringNames {label name : String} : name ∈ referringNames label ↔
    ∃ stem, (label = stem ∨ label = stem ++ "s") ∧ name = stem ++ "_id" := by
  simp only [referringNames, List.mem_cons, List.not_mem_nil, or_false]
  constructor
  · rintro (rfl | rfl)
    · exact ⟨label, .inl rfl, rfl⟩
    · exact ⟨singular label, eq_or_eq_singular_append label, rfl⟩
  · rintro ⟨stem, rfl | rfl, rfl⟩
    · exact .inl rfl
    · exact .inr (by rw [singular_append])

theorem Column.refersTo_iff {c : Column} {t : Table} :
    c.RefersTo t ↔ c.name ∈ t.referringNames := by
  unfold Table.referringNames
  split
  next label h =>
    simp only [Column.RefersTo, h, Value.str.injEq, List.mem_map, mem_referringNames]
    constructor
    · rintro ⟨stem, hs, hc⟩
      exact ⟨_, ⟨stem, hs, rfl⟩, hc.symm⟩
    · rintro ⟨_, ⟨stem, hs, rfl⟩, hc⟩
      exact ⟨stem, hs, hc.symm⟩
  next h =>
    refine iff_of_false ?_ List.not_mem_nil
    rintro ⟨stem, hs | hs, _⟩
    · exact h _ hs
    · exact h _ hs

theorem Table.refersBy_iff {t s : Table} {c : Column} :
    t.RefersBy c s ↔ t.referenceTo? s = some c := by
  simp only [Table.RefersBy, Table.referenceTo?, List.find?_eq_some_iff_append,
    List.contains_iff_mem, ← Column.refersTo_iff, Bool.not_eq_true', ← Bool.not_eq_true]
  constructor
  · rintro ⟨before, after, hcols, hc, hbefore⟩
    exact ⟨hc, before, after, hcols, hbefore⟩
  · rintro ⟨hc, before, after, hcols, hbefore⟩
    exact ⟨before, after, hcols, hc, hbefore⟩

theorem Table.exists_refersBy {t s : Table} (h : ∃ c ∈ t.columns, c.RefersTo s) :
    ∃ c, t.RefersBy c s := by
  simp only [Table.refersBy_iff, ← Option.isSome_iff_exists]
  obtain ⟨c, hc, hrefers⟩ := h
  exact List.find?_isSome.mpr ⟨c, hc, List.contains_iff_mem.mpr (Column.refersTo_iff.mp hrefers)⟩

theorem sourceHandle_injective {a b : String} (h : sourceHandle a = sourceHandle b) : a = b := by
  simpa [sourceHandle, ← String.toList_inj] using h

theorem targetHandle_injective {a b : String} (h : targetHandle a = targetHandle b) : a = b := by
  simpa [targetHandle, ← String.toList_inj] using h

/-- Items with distinct names are in the order of the numbers of their names. -/
theorem pairwise_idxOf {α β : Type} [DecidableEq β] {f : α → β} {l : List α}
    (h : (l.map f).Nodup) :
    l.Pairwise fun a b => (l.map f).idxOf (f a) < (l.map f).idxOf (f b) := by
  have hnames : (l.map f).Pairwise fun a b => (l.map f).idxOf a < (l.map f).idxOf b := by
    refine List.pairwise_iff_getElem.mpr fun i j hi hj hij => ?_
    rwa [h.idxOf_getElem i hi, h.idxOf_getElem j hj]
  rwa [List.pairwise_map] at hnames

namespace HaveDistinctIds
variable {tables : List Table}

theorem nodup_ids (h : HaveDistinctIds tables) : (tables.map Table.id).Nodup := by
  have hkeys : ((tables.map Table.id).map Value.key).Nodup := by
    rw [List.map_map]
    exact h.tableIds
  exact hkeys.of_map

theorem eq_of_id_eq (h : HaveDistinctIds tables) {s t : Table} (hs : s ∈ tables) (ht : t ∈ tables)
    (hid : s.id = t.id) : s = t :=
  List.inj_on_of_nodup_map h.nodup_ids hs ht hid

theorem eq_of_columnId_eq (h : HaveDistinctIds tables) {s t : Table} {c d : Column}
    (hs : s ∈ tables) (ht : t ∈ tables) (hc : c ∈ s.columns) (hd : d ∈ t.columns)
    (hid : c.id = d.id) : c = d :=
  List.inj_on_of_nodup_map h.columnIds (List.mem_flatMap.mpr ⟨s, hs, hc⟩)
    (List.mem_flatMap.mpr ⟨t, ht, hd⟩) hid

/-- A column is in one table only. -/
theorem eq_of_mem_columns (h : HaveDistinctIds tables) {s t : Table} {c : Column}
    (hs : s ∈ tables) (ht : t ∈ tables) (hcs : c ∈ s.columns) (hct : c ∈ t.columns) : s = t := by
  by_contra hne
  have hsymm : Std.Symm (Function.onFun List.Disjoint Table.columns) :=
    ⟨fun _ _ hdisjoint _ ha hb => hdisjoint hb ha⟩
  have hdisjoint := (List.nodup_flatMap.mp h.columnIds.of_map).2
  exact hdisjoint.forall hs ht hne hcs hct

end HaveDistinctIds

section Inferred
variable {tables : List Table} (h : HaveDistinctIds tables) (ht : ∀ t ∈ tables, t.IsTextual)
include h ht

/-- Columns that are written alike are the same. -/
theorem eq_of_columnText_eq {s t : Table} {c d : Column} (hs : s ∈ tables) (hst : t ∈ tables)
    (hc : c ∈ s.columns) (hd : d ∈ t.columns) (htext : c.id.text = d.id.text) : c = d := by
  obtain ⟨⟨i, hi⟩, _⟩ := (ht s hs).columns c hc
  obtain ⟨⟨j, hj⟩, _⟩ := (ht t hst).columns d hd
  refine h.eq_of_columnId_eq hs hst hc hd ?_
  rw [hi, hj] at htext ⊢
  exact congrArg Value.str htext

/-- A relationship that stands for a link tells its ends. -/
theorem link_of_leads {l : Link} (hl : l ∈ links tables) {s t : Table} {k : Column}
    (hs : s ∈ tables) (hk : k ∈ s.primaryKeys) (hst : t ∈ tables)
    (hleads : l.relationship.Leads s k t) : l.source = s ∧ l.primary = k ∧ l.target = t := by
  obtain ⟨hsource, hprimary, htarget, _⟩ := mem_links.mp hl
  obtain ⟨h1, h2, h3⟩ := hleads
  refine ⟨h.eq_of_id_eq hsource hs h1, ?_, h.eq_of_id_eq htarget hst h3⟩
  exact eq_of_columnText_eq h ht hsource hs (mem_primaryKeys hprimary) (mem_primaryKeys hk)
    (sourceHandle_injective (Value.str.inj h2))

theorem nodup_sourceHandles : ((tables.flatMap Table.columns).map fun c =>
    Value.str (sourceHandle c.id.text)).Nodup := by
  refine h.columnIds.of_map.map_on fun c hc d hd hcd => ?_
  obtain ⟨s, hs, hc⟩ := List.mem_flatMap.mp hc
  obtain ⟨t, hst, hd⟩ := List.mem_flatMap.mp hd
  exact eq_of_columnText_eq h ht hs hst hc hd (sourceHandle_injective (Value.str.inj hcd))

/-- Relationships come in the order of their places. -/
theorem pairwise_place : ((links tables).map Link.relationship).Pairwise
    fun r r' => r.place tables < r'.place tables := by
  have htables := pairwise_idxOf h.nodup_ids
  have hcolumns := pairwise_idxOf (nodup_sourceHandles h ht)
  -- Two links differ first in their sources, or else in their keys, or else in their targets.
  refine List.pairwise_map.mpr (pairwise_links ?_ (fun s hs => ?_) ?_)
  · refine htables.imp ?_
    rintro _ _ hlt a b rfl rfl
    exact Relationship.place_lt_place.mpr (.inl hlt)
  · have hsublist : s.primaryKeys.Sublist (tables.flatMap Table.columns) :=
      List.filter_sublist.trans (List.sublist_flatten_of_mem (List.mem_map_of_mem hs))
    refine (hcolumns.sublist hsublist).imp ?_
    rintro _ _ hlt a b hsource rfl rfl
    have hid : a.relationship.source = b.relationship.source := congrArg Table.id hsource
    exact Relationship.place_lt_place.mpr (.inr ⟨by rw [hid], .inl hlt⟩)
  · refine htables.imp ?_
    rintro _ _ hlt a b hsource hprimary rfl rfl
    have hid : a.relationship.source = b.relationship.source := congrArg Table.id hsource
    have hhandle : a.relationship.sourceHandle = b.relationship.sourceHandle :=
      congrArg (fun k : Column => Value.str (sourceHandle k.id.text)) hprimary
    have hplace : a.relationship.columnPlace tables = b.relationship.columnPlace tables := by
      rw [Relationship.columnPlace, hhandle, Relationship.columnPlace]
    exact Relationship.place_lt_place.mpr (.inr ⟨by rw [hid], .inr ⟨hplace, hlt⟩⟩)

theorem nodup_relationships : ((links tables).map Link.relationship).Nodup := by
  refine List.nodup_iff_pairwise_ne.mpr ((pairwise_place h ht).imp ?_)
  rintro _ _ hlt rfl
  exact lt_irrefl _ hlt

/-- The edges from a key to a table are the one that stands for the link between them. -/
theorem mem_filter_leads {s t : Table} {k : Column} (hs : s ∈ tables) (hk : k ∈ s.primaryKeys)
    (hst : t ∈ tables) {r : Relationship} :
    r ∈ ((links tables).map Link.relationship).filter (fun r => r.Leads s k t) ↔
      t ≠ s ∧ ∃ c, t.RefersBy c s ∧ r = Link.relationship ⟨s, k, t, c⟩ := by
  simp only [List.mem_filter, List.mem_map, decide_eq_true_eq, Table.refersBy_iff]
  constructor
  · rintro ⟨⟨l, hl, rfl⟩, hleads⟩
    obtain ⟨rfl, rfl, rfl⟩ := link_of_leads h ht hl hs hk hst hleads
    obtain ⟨_, _, _, hne, hforeign⟩ := mem_links.mp hl
    exact ⟨fun heq => hne (congrArg Table.key heq), l.foreign, hforeign, rfl⟩
  · rintro ⟨hne, c, hc, rfl⟩
    have hkey : t.key ≠ s.key := fun hkey =>
      hne (List.inj_on_of_nodup_map h.tableIds hst hs hkey)
    exact ⟨⟨_, mem_links.mpr ⟨hs, hk, hst, hkey, hc⟩, rfl⟩, rfl, rfl, rfl⟩

/-- The ids of columns tell where a link arrives. -/
theorem arrivesAt_iff {l : Link} (hl : l ∈ links tables) {t : Table} {c : Column}
    (hst : t ∈ tables) (hc : c ∈ t.columns) :
    l.relationship.ArrivesAt t c ↔ l.foreign.id.key = c.id.key := by
  obtain ⟨_, _, htarget, _, hforeign⟩ := mem_links.mp hl
  obtain ⟨hforeign, _⟩ := referenceTo?_mem hforeign
  constructor
  · rintro ⟨_, hhandle⟩
    rw [eq_of_columnText_eq h ht htarget hst hforeign hc
      (targetHandle_injective (Value.str.inj hhandle))]
  · intro hkey
    obtain ⟨⟨i, hi⟩, _⟩ := (ht _ htarget).columns _ hforeign
    obtain ⟨⟨j, hj⟩, _⟩ := (ht t hst).columns c hc
    have hid : l.foreign.id = c.id := by simpa [hi, hj] using hkey
    -- The same id can only be that of the same column, which is in no other table.
    obtain rfl := h.eq_of_columnId_eq htarget hst hforeign hc hid
    obtain rfl := h.eq_of_mem_columns htarget hst hforeign hc
    exact ⟨rfl, rfl⟩

theorem any_arrivesAt {t : Table} {c : Column} (hst : t ∈ tables) (hc : c ∈ t.columns) :
    (((links tables).map Link.relationship).any fun r => r.ArrivesAt t c) =
      ((links tables).map fun l => l.foreign.id.key).contains c.id.key := by
  rw [Bool.eq_iff_iff, List.contains_iff_mem, List.mem_map, List.any_map, List.any_eq_true]
  refine exists_congr fun l => and_congr_right fun hl => ?_
  exact decide_eq_true_iff.trans (arrivesAt_iff h ht hl hst hc)

theorem inferred_isInferred : IsInferred tables (inferred tables) where
  edge s hs k hk t hst hne hrefers := by
    obtain ⟨c, hc⟩ := Table.exists_refersBy hrefers
    refine ⟨c, hc, ?_⟩
    refine List.perm_singleton.mp ((List.perm_ext_iff_of_nodup
      ((nodup_relationships h ht).filter _) (List.nodup_singleton _)).mpr fun r => ?_)
    refine (mem_filter_leads h ht hs hk hst).trans (Iff.trans ?_ List.mem_singleton.symm)
    constructor
    · rintro ⟨_, d, hd, rfl⟩
      rw [Table.refersBy_iff] at hc hd
      rw [Option.some.inj (hc.symm.trans hd)]
    · rintro rfl
      exact ⟨hne, c, hc, rfl⟩
  noEdge s hs k hk t hst hnone := by
    refine List.eq_nil_iff_forall_not_mem.mpr fun r hr => ?_
    obtain ⟨hne, c, ⟨before, after, hcols, hc, _⟩, _⟩ :=
      (mem_filter_leads h ht hs hk hst).mp hr
    exact hnone.elim hne fun hnone => hnone c (by simp [hcols]) hc
  sound r hr := by
    obtain ⟨l, hl, rfl⟩ := List.mem_map.mp hr
    obtain ⟨hs, hk, hst, hne, hforeign⟩ := mem_links.mp hl
    exact ⟨l.source, hs, l.primary, hk, l.target, hst, fun heq => hne (congrArg Table.key heq),
      l.foreign, Table.refersBy_iff.mpr hforeign, rfl⟩
  order := pairwise_place h ht
  tables := by
    refine List.map_congr_left fun t hst => ?_
    refine congrArg (fun columns => { t with columns := columns }) ?_
    refine List.map_congr_left fun c hc => ?_
    exact congrArg (fun flag => { c with isForeign := c.isForeign || flag })
      (any_arrivesAt h ht hst hc).symm

end Inferred

/-- Inference is sound and complete on tables with distinct ids, and leaves its own result as it
is. -/
theorem infer_isInferred (tables : List Table) (ht : ∀ t ∈ tables, t.IsTextual)
    (h : HaveDistinctIds tables) :
    ∃ g, infer tables = .ok g ∧ IsInferred tables g ∧ infer g.tables = .ok g :=
  ⟨inferred tables, infer_eq_inferred ht, inferred_isInferred h ht, infer_inferred ht⟩

/-- A table with named columns, some of them keys. -/
def Table.ofNames (label : String) (columns : List (String × Bool)) : Table where
  id := .str (tableId label)
  label := .str label
  columns := columns.map fun c => {
    id := .str (columnId label c.1)
    name := .str c.1
    type := .str "INT"
    isPrimary := c.2 }

theorem Table.ofNames_isTextual (label : String) (columns : List (String × Bool)) :
    (Table.ofNames label columns).IsTextual := by
  refine ⟨⟨label, rfl⟩, fun c hc => ?_⟩
  obtain ⟨d, _, rfl⟩ := List.mem_map.mp hc
  exact ⟨⟨_, rfl⟩, _, rfl⟩

/-- Two tables that refer to each other, one of them by both names and with two keys, and a third
without keys that refers to both. -/
def forum : List Table := [
  .ofNames "users" [("id", true), ("posts_id", false)],
  .ofNames "posts" [("users_id", false), ("id", true), ("user_id", true)],
  .ofNames "post" [("user_id", false), ("post_id", false)]]

theorem infer_isInferred_forum :
    (∀ t ∈ forum, t.IsTextual) ∧ HaveDistinctIds forum ∧
      ∃ g, infer forum = .ok g ∧ IsInferred forum g ∧ infer g.tables = .ok g := by
  have ht : ∀ t ∈ forum, t.IsTextual := by
    simp [forum, Table.ofNames_isTextual]
  have h : HaveDistinctIds forum := ⟨by decide, by decide⟩
  exact ⟨ht, h, infer_isInferred forum ht h⟩

/-- The first of two names counts, every key has edges of its own, and `posts` is referred to by
a column of `post` that is named after the latter. -/
example : (inferred forum).relationships.map (fun r => r.id) = [
    .str "auto-e-users-id-posts-users_id",
    .str "auto-e-users-id-post-user_id",
    .str "auto-e-posts-id-users-posts_id",
    .str "auto-e-posts-id-post-post_id",
    .str "auto-e-posts-user_id-users-posts_id",
    .str "auto-e-posts-user_id-post-post_id"] := by
  decide

end SchemaAtlas.Schema
