import SchemaAtlas.Proofs.Schema.Ids

/-! # Well-formed graphs

In a well-formed graph all ids are those that the names ask for, every relationship joins
columns of two of its tables, and no id serves twice. Inference on tables with their own ids
makes such a graph.
-/
namespace SchemaAtlas.Schema

/-- The ids of a table and of its columns are made from its label and their names. -/
def Table.HasOwnIds (t : Table) : Prop :=
  ∃ l, t.label = .str l ∧ t.id = .str (tableId l) ∧
    ∀ c ∈ t.columns, ∃ n, c.name = .str n ∧ c.id = .str (columnId l n)

/-- A relationship leads from a table to another, between handles of columns of these. -/
def Relationship.Joins (r : Relationship) (s t : Table) : Prop :=
  r.source = s.id ∧ r.target = t.id ∧
    (∃ a m, s.label = .str a ∧ r.sourceHandle = .str (Schema.sourceHandle (columnId a m))) ∧
    ∃ b n, t.label = .str b ∧ r.targetHandle = .str (Schema.targetHandle (columnId b n))

/-- No column name occurs twice in a table. -/
def Table.HasDistinctNames (t : Table) : Prop :=
  (t.columns.map Column.name).Nodup

instance (t : Table) : Decidable t.HasDistinctNames :=
  inferInstanceAs (Decidable (List.Nodup _))

/-- A graph whose ids are in order. -/
structure Graph.WellFormed (g : Graph) : Prop where
  tableIds : (g.tables.map Table.id).Nodup
  ownIds : ∀ t ∈ g.tables, t.HasOwnIds
  joins : ∀ r ∈ g.relationships, ∃ s ∈ g.tables, ∃ t ∈ g.tables, r.Joins s t
  relationshipIds : (∀ t ∈ g.tables, t.HasDistinctNames) →
    (g.relationships.map Relationship.id).Nodup

theorem Table.HasOwnIds.flagForeign {t : Table} (h : t.HasOwnIds) (ids : List Value) :
    (t.flagForeign ids).HasOwnIds := by
  obtain ⟨l, hl, hid, hc⟩ := h
  refine ⟨l, hl, hid, ?_⟩
  intro c hm
  obtain ⟨d, hd, rfl⟩ := List.mem_map.mp hm
  exact hc d hd

theorem flagForeign_hasDistinctNames {t : Table} {ids : List Value} :
    (t.flagForeign ids).HasDistinctNames ↔ t.HasDistinctNames := by
  rw [Table.HasDistinctNames, Table.HasDistinctNames, flagForeign_columns, List.map_map]
  rfl

theorem mem_primaryKeys {t : Table} {c : Column} (h : c ∈ t.primaryKeys) : c ∈ t.columns :=
  (List.mem_filter.mp h).1

/-- What a link between tables with their own ids consists of. -/
theorem link_parts {tables : List Table} (ho : ∀ t ∈ tables, t.HasOwnIds) {l : Link}
    (hl : l ∈ links tables) :
    ∃ a n b m, l.source.label = .str a ∧ l.target.label = .str b ∧
      l.source.id = .str (tableId a) ∧ l.target.id = .str (tableId b) ∧
      l.primary.name = .str n ∧ l.primary.id = .str (columnId a n) ∧
      l.foreign.id = .str (columnId b m) ∧ m ∈ referringNames a := by
  obtain ⟨hs, hp, ht, _, hf⟩ := mem_links.mp hl
  obtain ⟨hfc, hfn⟩ := referenceTo?_mem hf
  obtain ⟨a, ha, hida, hca⟩ := ho _ hs
  obtain ⟨b, hb, hidb, hcb⟩ := ho _ ht
  obtain ⟨n, hn, hidn⟩ := hca _ (mem_primaryKeys hp)
  obtain ⟨m, hm, hidm⟩ := hcb _ hfc
  refine ⟨a, n, b, m, ha, hb, hida, hidb, hn, hidn, hidm, ?_⟩
  simpa [Table.referringNames, ha, hm] using hfn

/-- Between tables with distinct labels and columns no two links have the same id. -/
theorem links_ids_nodup {tables : List Table} (hid : (tables.map Table.id).Nodup)
    (ho : ∀ t ∈ tables, t.HasOwnIds) (hn : ∀ t ∈ tables, t.HasDistinctNames)
    (hh : ∀ t ∈ tables, ∀ l, t.label = .str l → IsUnhyphenated l) :
    ((links tables).map fun l => l.relationship.id).Nodup := by
  refine (links_nodup hid.of_map fun t ht => (hn t ht).of_map).map_on ?_
  intro x hx y hy hxy
  obtain ⟨hsx, hpx, htx, _, hfx⟩ := mem_links.mp hx
  obtain ⟨hsy, hpy, hty, _, hfy⟩ := mem_links.mp hy
  obtain ⟨a, n, b, m, ha, hb, hida, hidb, hna, hidn, hidm, hm⟩ := link_parts ho hx
  obtain ⟨a', n', b', m', ha', hb', hida', hidb', hna', hidn', hidm', hm'⟩ := link_parts ho hy
  have hua := hh _ hsx a ha
  have hua' := hh _ hsy a' ha'
  simp only [Link.relationship, hidn, hidm, hidn', hidm', Value.text_str, Value.str.injEq] at hxy
  obtain ⟨rfl, rfl, rfl, rfl⟩ := linkId_injective hua hua' (hh _ htx b hb) (hh _ hty b' hb')
    (hua.referringNames hm) (hua'.referringNames hm') hxy
  have hsource : x.source = y.source :=
    List.inj_on_of_nodup_map hid hsx hsy (hida.trans hida'.symm)
  have htarget : x.target = y.target :=
    List.inj_on_of_nodup_map hid htx hty (hidb.trans hidb'.symm)
  have hprimary : x.primary = y.primary :=
    List.inj_on_of_nodup_map (hn _ hsx) (mem_primaryKeys hpx) (mem_primaryKeys (hsource ▸ hpy))
      (hna.trans hna'.symm)
  -- The column that refers is the first of its kind in the target, so the tables decide it.
  have hforeign : x.foreign = y.foreign := by
    rw [hsource, htarget, hfy] at hfx
    exact (Option.some.inj hfx).symm
  rcases x with ⟨xs, xp, xt, xf⟩
  rcases y with ⟨ys, yp, yt, yf⟩
  simp only at hsource htarget hprimary hforeign
  rw [hsource, htarget, hprimary, hforeign]

/-- Inference makes a well-formed graph of tables with their own ids. -/
theorem inferred_wellFormed {tables : List Table} (hid : (tables.map Table.id).Nodup)
    (ho : ∀ t ∈ tables, t.HasOwnIds)
    (hh : ∀ t ∈ tables, ∀ l, t.label = .str l → IsUnhyphenated l) :
    (inferred tables).WellFormed where
  tableIds := by
    rw [inferred, List.map_map]
    exact hid
  ownIds := by
    intro t ht
    obtain ⟨u, hu, rfl⟩ := List.mem_map.mp ht
    exact (ho u hu).flagForeign _
  joins := by
    intro r hr
    obtain ⟨l, hl, rfl⟩ := List.mem_map.mp hr
    obtain ⟨hs, _, ht, _, _⟩ := mem_links.mp hl
    obtain ⟨a, n, b, m, ha, hb, _, _, _, hidn, hidm, _⟩ := link_parts ho hl
    refine ⟨_, List.mem_map.mpr ⟨_, hs, rfl⟩, _, List.mem_map.mpr ⟨_, ht, rfl⟩, rfl, rfl,
      ⟨a, n, ha, ?_⟩, b, m, hb, ?_⟩
    · rw [Link.relationship, hidn]
      rfl
    · rw [Link.relationship, hidm]
      rfl
  relationshipIds := by
    intro hn
    rw [inferred, List.map_map]
    refine links_ids_nodup hid ho (fun t ht => ?_) hh
    exact flagForeign_hasDistinctNames.mp (hn _ (List.mem_map.mpr ⟨t, ht, rfl⟩))

end SchemaAtlas.Schema
