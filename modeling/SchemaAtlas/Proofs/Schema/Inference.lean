import SchemaAtlas.Schema.Inference
import Mathlib.Data.List.Nodup

/-! # What inference finds

Inference cannot fail on tables whose names and ids are texts. A link is one for every primary
key column of a table and every other table that has a column named after the first. Flagging
columns as foreign keys does not change what is found, so inference leaves its own result as
it is.
-/
namespace SchemaAtlas.Schema

/-- The label of a table is a text, and so are the ids and names of its columns. -/
structure Table.IsTextual (t : Table) : Prop where
  label : ∃ l, t.label = .str l
  columns : ∀ c ∈ t.columns, (∃ i, c.id = .str i) ∧ ∃ n, c.name = .str n

theorem searchFault?_eq_none {names : List Value} {columns : List Column}
    (h : ∀ c ∈ columns, c.id.isScalar = true ∧ c.name.isScalar = true) :
    searchFault? names columns = none := by
  induction columns with
  | nil => rfl
  | cons c rest ih =>
    obtain ⟨hid, hname⟩ := h c List.mem_cons_self
    have hrest := ih fun d hd => h d (List.mem_cons_of_mem _ hd)
    simp [searchFault?, hid, hname, hrest]

theorem Table.IsTextual.scalar {t : Table} (h : t.IsTextual) :
    ∀ c ∈ t.columns, c.id.isScalar = true ∧ c.name.isScalar = true := by
  intro c hc
  obtain ⟨⟨i, hi⟩, n, hn⟩ := h.columns c hc
  rw [hi, hn]
  exact ⟨rfl, rfl⟩

theorem linkFault?_eq_none {tables : List Table} (h : ∀ t ∈ tables, t.IsTextual)
    {source : Table} (hs : source.IsTextual) : linkFault? tables source = none := by
  obtain ⟨l, hl⟩ := hs.label
  simp only [linkFault?, hl]
  apply List.findSome?_eq_none_iff.mpr
  intro target ht
  obtain ⟨_, _, ht⟩ := List.mem_flatMap.mp ht
  split
  · rfl
  · exact searchFault?_eq_none (h target ht).scalar

/-- Inference succeeds on tables whose names and ids are texts. -/
theorem infer_eq_inferred {tables : List Table} (h : ∀ t ∈ tables, t.IsTextual) :
    infer tables = .ok (inferred tables) := by
  have hlink : tables.findSome? (linkFault? tables) = none :=
    List.findSome?_eq_none_iff.mpr fun t ht => linkFault?_eq_none h (h t ht)
  have hflag : ((tables.flatMap Table.columns).findSome? fun c =>
      if c.isForeign || c.id.isScalar then none else some Fault.unsuitable) = none := by
    apply List.findSome?_eq_none_iff.mpr
    intro c hc
    obtain ⟨t, ht, hct⟩ := List.mem_flatMap.mp hc
    simp [((h t ht).scalar c hct).1]
  have hnone : inferenceFault? tables = none := by
    rw [inferenceFault?, hlink, hflag]
    rfl
  rw [infer, hnone]

theorem mem_links {tables : List Table} {l : Link} :
    l ∈ links tables ↔ l.source ∈ tables ∧ l.primary ∈ l.source.primaryKeys ∧
      l.target ∈ tables ∧ l.target.key ≠ l.source.key ∧
      l.target.referenceTo? l.source = some l.foreign := by
  simp only [links, List.mem_flatMap, List.mem_filterMap]
  constructor
  · rintro ⟨source, hs, primary, hp, target, ht, hl⟩
    unfold link? at hl
    split at hl
    · cases hl
    · next hne =>
      obtain ⟨foreign, hf, rfl⟩ := Option.map_eq_some_iff.mp hl
      exact ⟨hs, hp, ht, hne, hf⟩
  · rintro ⟨hs, hp, ht, hne, hf⟩
    refine ⟨l.source, hs, l.primary, hp, l.target, ht, ?_⟩
    rw [link?, if_neg hne, hf]
    rfl

theorem referenceTo?_mem {target source : Table} {c : Column}
    (h : target.referenceTo? source = some c) :
    c ∈ target.columns ∧ c.name ∈ source.referringNames :=
  ⟨List.mem_of_find?_eq_some h, by simpa using List.find?_some h⟩

theorem link?_source_target {source : Table} {primary : Column} {target : Table} {l : Link}
    (h : link? source primary target = some l) :
    l.source = source ∧ l.primary = primary ∧ l.target = target := by
  unfold link? at h
  split at h
  · cases h
  · obtain ⟨foreign, _, rfl⟩ := Option.map_eq_some_iff.mp h
    exact ⟨rfl, rfl, rfl⟩

/-- Links come by source, by primary key and by target. -/
theorem pairwise_links {tables : List Table} {R : Link → Link → Prop}
    (hsource : tables.Pairwise fun s s' => ∀ a b : Link, a.source = s → b.source = s' → R a b)
    (hprimary : ∀ s ∈ tables, s.primaryKeys.Pairwise fun k k' => ∀ a b : Link,
      a.source = b.source → a.primary = k → b.primary = k' → R a b)
    (htarget : tables.Pairwise fun t t' => ∀ a b : Link,
      a.source = b.source → a.primary = b.primary → a.target = t → b.target = t' → R a b) :
    (links tables).Pairwise R := by
  have hmem : ∀ {s : Table} {k : Column} {l : Link}, l ∈ tables.filterMap (link? s k) →
      l.source = s ∧ l.primary = k := by
    intro s k l hl
    obtain ⟨t, _, hl⟩ := List.mem_filterMap.mp hl
    exact ⟨(link?_source_target hl).1, (link?_source_target hl).2.1⟩
  have hmems : ∀ {s : Table} {l : Link},
      (l ∈ s.primaryKeys.flatMap fun k => tables.filterMap (link? s k)) → l.source = s := by
    intro s l hl
    obtain ⟨k, _, hl⟩ := List.mem_flatMap.mp hl
    exact (hmem hl).1
  refine List.pairwise_flatMap.mpr
    ⟨fun s hs => List.pairwise_flatMap.mpr ⟨fun k _ => List.pairwise_filterMap.mpr ?_, ?_⟩, ?_⟩
  · refine htarget.imp fun h a ha b hb => ?_
    obtain ⟨hsa, hka, hta⟩ := link?_source_target ha
    obtain ⟨hsb, hkb, htb⟩ := link?_source_target hb
    exact h a b (hsa.trans hsb.symm) (hka.trans hkb.symm) hta htb
  · refine (hprimary s hs).imp fun h a ha b hb => ?_
    exact h a b ((hmem ha).1.trans (hmem hb).1.symm) (hmem ha).2 (hmem hb).2
  · exact hsource.imp fun h a ha b hb => h a b (hmems ha) (hmems hb)

/-- No link is found twice among distinct tables with distinct columns. -/
theorem links_nodup {tables : List Table} (ht : tables.Nodup)
    (hc : ∀ t ∈ tables, t.columns.Nodup) : (links tables).Nodup := by
  refine List.nodup_iff_pairwise_ne.mpr
    (pairwise_links (ht.imp ?_) (fun s hs => ((hc s hs).filter _).imp ?_) (ht.imp ?_))
  · rintro _ _ hne a b rfl rfl rfl
    exact hne rfl
  · rintro _ _ hne a b _ rfl rfl rfl
    exact hne rfl
  · rintro _ _ hne a b _ _ rfl rfl rfl
    exact hne rfl

@[simp] theorem flagForeign_nil (t : Table) : t.flagForeign [] = t := by
  simp [Table.flagForeign]

theorem inferred_of_links_eq_nil {tables : List Table} (h : links tables = []) :
    inferred tables = ⟨tables, []⟩ := by
  simp [inferred, h, List.map_congr_left (fun t _ => flagForeign_nil t)]

/-- A single table has nothing to refer to. -/
theorem links_of_length_le_one {tables : List Table} (h : tables.length ≤ 1) :
    links tables = [] := by
  apply List.eq_nil_iff_forall_not_mem.mpr
  intro l hl
  obtain ⟨hs, _, ht, hne, _⟩ := mem_links.mp hl
  match tables, h with
  | [], _ => simp at hs
  | [t], _ => exact hne (by rw [List.mem_singleton.mp hs, List.mem_singleton.mp ht])

section Flagging
variable (ids : List Value)

/-- A column that may have been flagged as a foreign key. -/
def Column.flagForeign (c : Column) : Column :=
  { c with isForeign := c.isForeign || ids.contains c.id.key }

/-- A link between tables that may have been flagged. -/
def Link.flagForeign (l : Link) : Link :=
  ⟨l.source.flagForeign ids, l.primary.flagForeign ids, l.target.flagForeign ids,
    l.foreign.flagForeign ids⟩

theorem flagForeign_columns (t : Table) :
    (t.flagForeign ids).columns = t.columns.map (Column.flagForeign ids) := rfl

theorem flagForeign_primaryKeys (t : Table) :
    (t.flagForeign ids).primaryKeys = t.primaryKeys.map (Column.flagForeign ids) := by
  rw [Table.primaryKeys, flagForeign_columns, List.filter_map]
  rfl

theorem flagForeign_referenceTo? (target source : Table) :
    (target.flagForeign ids).referenceTo? (source.flagForeign ids) =
      (target.referenceTo? source).map (Column.flagForeign ids) := by
  rw [Table.referenceTo?, flagForeign_columns, List.find?_map]
  rfl

theorem flagForeign_link? (source : Table) (primary : Column) (target : Table) :
    link? (source.flagForeign ids) (primary.flagForeign ids) (target.flagForeign ids) =
      (link? source primary target).map (Link.flagForeign ids) := by
  rw [link?, link?, flagForeign_referenceTo?]
  change (if target.key = source.key then _ else _) = _
  split
  · rfl
  · cases target.referenceTo? source <;> rfl

theorem flagForeign_links (tables : List Table) :
    links (tables.map (Table.flagForeign ids)) = (links tables).map (Link.flagForeign ids) := by
  simp only [links, List.flatMap_map, List.map_flatMap, flagForeign_primaryKeys,
    List.filterMap_map, List.map_filterMap]
  simp only [Function.comp_def, flagForeign_link?]

theorem flagForeign_flagForeign (t : Table) :
    (t.flagForeign ids).flagForeign ids = t.flagForeign ids := by
  simp [Table.flagForeign]

end Flagging

/-- Inference finds in its own result what it has found before, and flags nothing more. -/
theorem inferred_inferred (tables : List Table) :
    inferred (inferred tables).tables = inferred tables := by
  have hids : ∀ ids, ((links tables).map (Link.flagForeign ids)).map (fun l => l.foreign.id.key) =
      (links tables).map fun l => l.foreign.id.key := by
    intro ids
    rw [List.map_map]
    rfl
  have hrel : ∀ ids, ((links tables).map (Link.flagForeign ids)).map Link.relationship =
      (links tables).map Link.relationship := by
    intro ids
    rw [List.map_map]
    rfl
  simp only [inferred, flagForeign_links, hids, hrel, List.map_map]
  congr 1
  exact List.map_congr_left fun t _ => flagForeign_flagForeign _ t

theorem flagForeign_isTextual {t : Table} (h : t.IsTextual) (ids : List Value) :
    (t.flagForeign ids).IsTextual := by
  refine ⟨h.label, ?_⟩
  intro c hc
  rw [flagForeign_columns] at hc
  obtain ⟨d, hd, rfl⟩ := List.mem_map.mp hc
  exact h.columns d hd

/-- Inferring relationships twice is inferring them once. -/
theorem infer_inferred {tables : List Table} (h : ∀ t ∈ tables, t.IsTextual) :
    infer (inferred tables).tables = .ok (inferred tables) := by
  have hflag : ∀ t ∈ (inferred tables).tables, t.IsTextual := by
    intro t ht
    obtain ⟨u, hu, rfl⟩ := List.mem_map.mp ht
    exact flagForeign_isTextual (h u hu) _
  rw [infer_eq_inferred hflag, inferred_inferred]

end SchemaAtlas.Schema
