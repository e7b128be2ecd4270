import SchemaAtlas.Proofs.Schema.Connecting
import SchemaAtlas.Proofs.Schema.Copies
import SchemaAtlas.Proofs.Schema.InferredEdges

/-! # Columns of copies

The columns of a copy get ids from its label, which no other table has. But an id with more hyphens
than one does not tell where the label ends: the column `b-c` of a table `a` and the column `c` of a
table `a-b` have the same id. A copy keeps the ids of columns distinct just when they are not met by
another one in this way.
-/
namespace SchemaAtlas.Schema

theorem isUnhyphenated_copyLabel {base : String} (h : IsUnhyphenated base) (n : Nat) :
    IsUnhyphenated (copyLabel base n) := by
  cases n with
  | zero => exact h
  | succ n => exact (h.append (by decide)).append (isUnhyphenated_toString _)

/-! Tables whose columns are found by their ids. -/

/-- A graph in which no id occurs twice, each made from the label of a table and the name of a
column in it. -/
structure Graph.HasOwnColumns (g : Graph) : Prop extends HaveDistinctIds g.tables where
  ownIds : ∀ t ∈ g.tables, t.HasOwnIds
  names : ∀ t ∈ g.tables, t.HasDistinctNames

/-- Every column is found in its own table. -/
def Graph.FindsOwners (g : Graph) : Prop :=
  ∀ t ∈ g.tables, ∀ id, t.Owns id → g.ownerOf id = .ok t

theorem Table.HasOwnIds.key_eq {t : Table} (h : t.HasOwnIds) :
    t.key = .str (tableId t.label.text) := by
  obtain ⟨l, hl, hid, _⟩ := h
  rw [key, hid, hl]
  rfl

theorem Table.HasOwnIds.id_eq {t : Table} (h : t.HasOwnIds) {c : Column} (hc : c ∈ t.columns) :
    c.id = .str (columnId t.label.text c.name.text) := by
  obtain ⟨l, hl, _, hcolumns⟩ := h
  obtain ⟨n, hn, hid⟩ := hcolumns c hc
  rw [hid, hl, hn]
  rfl

theorem exists_ownerOf {g : Graph} {t : Table} (ht : t ∈ g.tables) {id : Value} (ho : t.Owns id) :
    ∃ u, g.ownerOf id = .ok u := by
  obtain ⟨c, hc, rfl⟩ := ho
  have hsome : (g.tables.find? fun u => u.columns.any fun d => d.id.key = c.id.key).isSome :=
    List.find?_isSome.mpr ⟨t, ht, List.any_eq_true.mpr ⟨c, hc, decide_eq_true rfl⟩⟩
  obtain ⟨u, hu⟩ := Option.isSome_iff_exists.mp hsome
  exact ⟨u, by rw [Graph.ownerOf, hu]⟩

theorem HaveDistinctIds.findsOwners {g : Graph} (h : HaveDistinctIds g.tables)
    (ho : ∀ t ∈ g.tables, t.HasOwnIds) : g.FindsOwners := by
  rintro t ht _ ⟨c, hc, rfl⟩
  obtain ⟨u, hu⟩ := exists_ownerOf ht ⟨c, hc, rfl⟩
  obtain ⟨hmem, d, hd, hkey⟩ := ownerOf_eq_ok hu
  rw [(ho t ht).id_eq hc] at hkey
  have hid : c.id = d.id := ((ho t ht).id_eq hc).trans (eq_str_of_key hkey).symm
  obtain rfl := h.eq_of_columnId_eq ht hmem hc hd hid
  obtain rfl := h.eq_of_mem_columns ht hmem hc hd
  exact hu

/-- Columns are connected by a relationship between their own tables. -/
def Graph.ConnectsOwners (g : Graph) : Prop :=
  ∀ s ∈ g.tables, ∀ t ∈ g.tables, ∀ (a b : Value) (c : Cardinality), s.Owns a → t.Owns b →
    g.connect a b (.str c.label) = .ok (g.addRelationship (.drawn s t a b c))

theorem Graph.FindsOwners.eq_of_owns {g : Graph} (h : g.FindsOwners) {s t : Table}
    (hs : s ∈ g.tables) (ht : t ∈ g.tables) {id : Value} (hso : s.Owns id) (hto : t.Owns id) :
    s = t :=
  Except.ok.inj ((h s hs id hso).symm.trans (h t ht id hto))

theorem Graph.FindsOwners.connectsOwners {g : Graph} (h : g.FindsOwners) : g.ConnectsOwners := by
  intro s hs t ht a b c ha hb
  exact connect_eq_ok.mpr ⟨c, c.ofValue_label, s, h s hs a ha, t, h t ht b hb, rfl⟩

/-! The columns of a copy. -/

theorem Table.hasOwnIds_relabel {t : Table} (h : t.HasOwnIds) (label : String) (p : Position) :
    (t.relabel label p).HasOwnIds := by
  obtain ⟨_, _, _, hcolumns⟩ := h
  refine ⟨label, rfl, rfl, fun c hc => ?_⟩
  obtain ⟨d, hd, rfl⟩ := List.mem_map.mp hc
  obtain ⟨n, hn, _⟩ := hcolumns d hd
  exact ⟨n, hn, by rw [hn]; rfl⟩

theorem hasDistinctNames_relabel {t : Table} {label : String} {p : Position} :
    (t.relabel label p).HasDistinctNames ↔ t.HasDistinctNames := by
  rw [Table.HasDistinctNames, Table.HasDistinctNames, Table.relabel, List.map_map]
  rfl

/-- With a label in common columns are told by their names. -/
theorem nodup_ids_of_names {t : Table} (h : t.HasOwnIds) (hn : t.HasDistinctNames) :
    (t.columns.map Column.id).Nodup := by
  obtain ⟨l, _, _, hcolumns⟩ := h
  have hids : t.columns.map Column.id =
      (t.columns.map Column.name).map fun v => .str (columnId l v.text) := by
    rw [List.map_map]
    refine List.map_congr_left fun c hc => ?_
    obtain ⟨n, hname, hid⟩ := hcolumns c hc
    rw [Function.comp_apply, hname]
    exact hid
  rw [hids]
  refine hn.map_on fun v hv w hw heq => ?_
  obtain ⟨c, hc, rfl⟩ := List.mem_map.mp hv
  obtain ⟨d, hd, rfl⟩ := List.mem_map.mp hw
  obtain ⟨m, hm, _⟩ := hcolumns c hc
  obtain ⟨n, hn, _⟩ := hcolumns d hd
  rw [hm, hn] at heq ⊢
  exact congrArg Value.str (columnId_right_injective l (Value.str.inj heq))

theorem owns_relabel {t : Table} {label : String} {p : Position} {id : Value} :
    (t.relabel label p).Owns id ↔ ∃ c ∈ t.columns, .str (columnId label c.name.text) = id := by
  simp [Table.Owns, Table.relabel]

/-- The graph with a copy of a table appended to it. -/
def Graph.withCopy (g : Graph) (t : Table) (label : String) (p : Position) : Graph :=
  { g with tables := g.tables ++ [t.relabel label p] }

/-- Whether a column that is there already has the id of a column of a copy, cut elsewhere. -/
def Graph.Recuts (g : Graph) (t : Table) (label : String) : Prop :=
  ∃ c ∈ t.columns, ∃ u ∈ g.tables, ∃ d ∈ u.columns,
    IsRecut label c.name.text u.label.text d.name.text ∨
      IsRecut u.label.text d.name.text label c.name.text

section Copy
variable {g : Graph} (h : g.HasOwnColumns) {t : Table} (ht : t ∈ g.tables) {label : String}
  (hfree : .str (tableId label) ∉ g.tableKeys) (p : Position)
include h hfree

/-- As no table has the label of the copy, ids can only agree that are cut differently. -/
theorem recuts_iff : g.Recuts t label ↔
    ∃ id, (t.relabel label p).Owns id ∧ ∃ u ∈ g.tables, u.Owns id := by
  constructor
  · rintro ⟨c, hc, u, hu, d, hd, hrecut⟩
    refine ⟨d.id, owns_relabel.mpr ⟨c, hc, ?_⟩, u, hu, d, hd, rfl⟩
    rw [(h.ownIds u hu).id_eq hd]
    exact congrArg Value.str (columnId_eq_iff.mpr (.inr hrecut))
  · rintro ⟨_, hcopy, u, hu, d, hd, rfl⟩
    obtain ⟨c, hc, hid⟩ := owns_relabel.mp hcopy
    rw [(h.ownIds u hu).id_eq hd] at hid
    refine ⟨c, hc, u, hu, d, hd, (columnId_eq_iff.mp (Value.str.inj hid)).resolve_left ?_⟩
    rintro ⟨rfl, _⟩
    rw [← (h.ownIds u hu).key_eq] at hfree
    exact hfree (key_mem_tableKeys hu)

include ht

theorem nodup_columnIds_withCopy :
    (((g.withCopy t label p).tables.flatMap Table.columns).map Column.id).Nodup ↔
      ¬ g.Recuts t label := by
  have hcopied : ((t.relabel label p).columns.map Column.id).Nodup :=
    nodup_ids_of_names (Table.hasOwnIds_relabel (h.ownIds t ht) label p)
      (hasDistinctNames_relabel.mpr (h.names t ht))
  rw [recuts_iff h hfree p, Graph.withCopy, List.flatMap_append, List.flatMap_singleton,
    List.map_append, List.nodup_append', and_iff_right h.columnIds, and_iff_right hcopied]
  constructor
  · rintro hdisjoint ⟨id, ⟨c, hc, rfl⟩, u, hu, d, hd, hid⟩
    refine hdisjoint (List.mem_map.mpr ⟨d, List.mem_flatMap.mpr ⟨u, hu, hd⟩, hid⟩) ?_
    exact List.mem_map_of_mem hc
  · intro hnone id hid hcopy
    obtain ⟨d, hd, rfl⟩ := List.mem_map.mp hid
    obtain ⟨u, hu, hd⟩ := List.mem_flatMap.mp hd
    obtain ⟨c, hc, hceq⟩ := List.mem_map.mp hcopy
    exact hnone ⟨d.id, ⟨c, hc, hceq⟩, u, hu, d, hd, rfl⟩

theorem hasOwnColumns_withCopy (hnone : ¬ g.Recuts t label) :
    (g.withCopy t label p).HasOwnColumns where
  tableIds := by
    change (Graph.tableKeys { g with tables := g.tables ++ [t.relabel label p] }).Nodup
    rw [tableKeys_append, ← List.concat_eq_append]
    exact h.tableIds.concat hfree
  columnIds := (nodup_columnIds_withCopy h ht hfree p).mpr hnone
  ownIds := List.forall_mem_append.mpr ⟨h.ownIds,
    List.forall_mem_singleton.mpr (Table.hasOwnIds_relabel (h.ownIds t ht) label p)⟩
  names := List.forall_mem_append.mpr ⟨h.names,
    List.forall_mem_singleton.mpr (hasDistinctNames_relabel.mpr (h.names t ht))⟩

theorem findsOwners_withCopy : (g.withCopy t label p).FindsOwners ↔ ¬ g.Recuts t label := by
  constructor
  · intro hfinds hrecuts
    obtain ⟨id, hcopy, u, hu, hown⟩ := (recuts_iff h hfree p).mp hrecuts
    have heq := hfinds.eq_of_owns (List.mem_append_right _ (List.mem_singleton.mpr rfl))
      (List.mem_append_left _ hu) hcopy hown
    apply hfree
    change (t.relabel label p).key ∈ g.tableKeys
    rw [heq]
    exact key_mem_tableKeys hu
  · intro hnone
    have hown := hasOwnColumns_withCopy h ht hfree p hnone
    exact hown.toHaveDistinctIds.findsOwners hown.ownIds

end Copy

/-- Nothing is cut in two places where only one of labels and names hold hyphens. -/
theorem not_recuts {g : Graph} {t : Table} {label : String}
    (h : (IsUnhyphenated label ∧ ∀ u ∈ g.tables, IsUnhyphenated u.label.text) ∨
      (∀ u ∈ g.tables, ∀ d ∈ u.columns, IsUnhyphenated d.name.text)) (ht : t ∈ g.tables) :
    ¬ g.Recuts t label := by
  rintro ⟨c, hc, u, hu, d, hd, ⟨q, hl, hn⟩ | ⟨q, hl, hn⟩⟩
  · rcases h with ⟨_, hlabels⟩ | hnames
    · exact not_isUnhyphenated_columnId _ _ (hl ▸ hlabels u hu)
    · exact not_isUnhyphenated_columnId _ _ (hn ▸ hnames t ht c hc)
  · rcases h with ⟨hlabel, _⟩ | hnames
    · exact not_isUnhyphenated_columnId _ _ (hl ▸ hlabel)
    · exact not_isUnhyphenated_columnId _ _ (hn ▸ hnames u hu d hd)

/-- The first label for a copy whose table id is free. -/
def Graph.IsFirstFree (g : Graph) (base label : String) : Prop :=
  ∃ n, label = copyLabel base n ∧ copyKey base n ∉ g.tableKeys ∧
    ∀ m < n, copyKey base m ∈ g.tableKeys

theorem HaveDistinctIds.requireTable_eq {g : Graph} (h : HaveDistinctIds g.tables) {t : Table}
    (ht : t ∈ g.tables) : g.requireTable t.id = .ok t := by
  obtain ⟨u, hrequire, hu, hkey⟩ := exists_requireTable (key_mem_tableKeys ht)
  rwa [List.inj_on_of_nodup_map h.tableIds hu ht hkey] at hrequire

theorem Graph.HasOwnColumns.isKeyed {g : Graph} (h : g.HasOwnColumns) : g.IsKeyed := by
  intro k hk
  obtain ⟨u, hu, rfl⟩ := List.mem_map.mp hk
  rw [(h.ownIds u hu).key_eq]
  rfl

/-- Nothing but moving the copy to its place can fail. -/
theorem duplicateTable_eq_withCopy {g : Graph} (h : g.HasOwnColumns) {t : Table}
    (ht : t ∈ g.tables) {base : String} (hbase : t.label = .str base) :
    ∃ label, g.IsFirstFree (base ++ "_copy") label ∧ ∀ offset, g.duplicateTable t.id offset =
      t.position.shift offset >>= fun p => .ok (g.withCopy t label p) := by
  obtain ⟨n, hn, hfree, hearlier⟩ := freshLabel_eq_copyLabel (base ++ "_copy") g.tableKeys
  refine ⟨copyLabel (base ++ "_copy") n, ⟨n, rfl, hfree, hearlier⟩, fun offset => ?_⟩
  have hlabel : t.label.text = base := by
    rw [hbase]
    rfl
  rw [Graph.duplicateTable, h.toHaveDistinctIds.requireTable_eq ht, ok_bind, h.isKeyed.checkIds,
    ok_bind, hlabel, hn]
  exact bind_congr fun p => addTable_of_free h.isKeyed rfl hfree

/-- A copy gets the first free label and is appended, unless it cannot be placed. Then the ids of
all columns are distinct, and each column is found in its own table, just when no id is cut in two
places; and none is if only labels or only names hold hyphens. -/
theorem duplicateTable_columnIds {g : Graph} (h : g.HasOwnColumns) {t : Table}
    (ht : t ∈ g.tables) :
    ∃ base label, t.label = .str base ∧ g.IsFirstFree (base ++ "_copy") label ∧
      (∀ offset, g.duplicateTable t.id offset =
        t.position.shift offset >>= fun p => .ok (g.withCopy t label p)) ∧
      (∀ p, ((((g.withCopy t label p).tables.flatMap Table.columns).map Column.id).Nodup ↔
          ¬ g.Recuts t label) ∧
        ((g.withCopy t label p).FindsOwners ↔ ¬ g.Recuts t label) ∧
        (¬ g.Recuts t label →
          (g.withCopy t label p).HasOwnColumns ∧ (g.withCopy t label p).ConnectsOwners)) ∧
      ((∀ u ∈ g.tables, IsUnhyphenated u.label.text) ∨
        (∀ u ∈ g.tables, ∀ c ∈ u.columns, IsUnhyphenated c.name.text) → ¬ g.Recuts t label) := by
  obtain ⟨base, hbase, _⟩ := h.ownIds t ht
  obtain ⟨label, hfirst, hduplicate⟩ := duplicateTable_eq_withCopy h ht hbase
  refine ⟨base, label, hbase, hfirst, hduplicate, fun p => ?_, fun hhyphens => ?_⟩
  · obtain ⟨n, rfl, hfree, _⟩ := hfirst
    have hfinds := findsOwners_withCopy h ht hfree p
    exact ⟨nodup_columnIds_withCopy h ht hfree p, hfinds, fun hnone =>
      ⟨hasOwnColumns_withCopy h ht hfree p hnone, (hfinds.mpr hnone).connectsOwners⟩⟩
  · refine not_recuts (hhyphens.imp_left fun hlabels => ⟨?_, hlabels⟩) ht
    have hunhyphenated := hlabels t ht
    rw [hbase] at hunhyphenated
    obtain ⟨n, rfl, _⟩ := hfirst
    exact isUnhyphenated_copyLabel (IsUnhyphenated.append hunhyphenated (by decide)) n

theorem Table.hasOwnIds_ofNames (label : String) (columns : List (String × Bool)) :
    (Table.ofNames label columns).HasOwnIds := by
  refine ⟨label, rfl, rfl, fun c hc => ?_⟩
  obtain ⟨d, _, rfl⟩ := List.mem_map.mp hc
  exact ⟨d.1, rfl, rfl⟩

def inn : Table :=
  .ofNames "inn" [("id", true), ("guest-id", false)]

/-- Tables with hyphens in labels and in names, one of which has been copied before. -/
def inns : Graph where
  tables := [inn, .ofNames "inn-guest" [("no", true)], .ofNames "inn_copy" [("guest-id", false)]]

theorem duplicateTable_columnIds_inns : inns.HasOwnColumns ∧ inn ∈ inns.tables ∧
    ∃ g', inns.duplicateTable inn.id (.int 50) = .ok g' ∧
      g'.tables.map Table.label =
        [.str "inn", .str "inn-guest", .str "inn_copy", .str "inn_copy_2"] ∧
      ((g'.tables.flatMap Table.columns).map Column.id).Nodup ∧ g'.ConnectsOwners := by
  have hown : inns.HasOwnColumns := by
    refine ⟨⟨by decide, by decide⟩, fun t ht => ?_, by decide⟩
    simp only [inns, List.mem_cons, List.not_mem_nil, or_false] at ht
    rcases ht with rfl | rfl | rfl <;> exact Table.hasOwnIds_ofNames _ _
  have hmem : inn ∈ inns.tables := List.mem_cons_self
  obtain ⟨base, label, hbase, ⟨n, rfl, hfree, hearlier⟩, hduplicate, hcolumns, _⟩ :=
    duplicateTable_columnIds hown hmem
  cases hbase
  have hone : n = 1 := by
    rcases lt_trichotomy n 1 with hlt | heq | hgt
    · have htaken : ∀ m < 1, copyKey "inn_copy" m ∈ inns.tableKeys := by decide +kernel
      exact absurd (htaken n hlt) hfree
    · exact heq
    · have hsecond : copyKey "inn_copy" 1 ∉ inns.tableKeys := by decide +kernel
      exact absurd (hearlier 1 hgt) hsecond
  subst hone
  obtain ⟨p, hp⟩ : ∃ p, inn.position.shift (.int 50) = .ok p := ⟨_, rfl⟩
  have hnodup : (((inns.withCopy inn "inn_copy_2" p).tables.flatMap Table.columns).map
      Column.id).Nodup := by
    have hids : ((inns.withCopy inn "inn_copy_2" p).tables.flatMap Table.columns).map Column.id =
        ["inn-id", "inn-guest-id", "inn-guest-no", "inn_copy-guest-id", "inn_copy_2-id",
          "inn_copy_2-guest-id"].map .str := rfl
    rw [hids]
    decide
  obtain ⟨hiff, _, hkept⟩ := hcolumns p
  refine ⟨hown, hmem, _, ?_, ?_, hnodup, (hkept (hiff.mp hnodup)).2⟩
  · rw [hduplicate, hp]
    rfl
  · rfl

/-- A table, and another one whose label goes on from that of a copy with the first name. -/
def crossing : Graph where
  tables := [.ofNames "a" [("b-c", false)], .ofNames "a_copy-b" [("c", false)]]

/-- A column of the copy has the id of one in the other table, and there it is found. -/
theorem duplicateTable_crossing : crossing.HasOwnColumns ∧
    Value.str "node-a" ∈ crossing.tables.map Table.id ∧
    ∃ g' t u, crossing.duplicateTable (.str "node-a") (.int 50) = .ok g' ∧
      g'.tables = crossing.tables ++ [t] ∧ t.Owns (.str "a_copy-b-c") ∧
      ¬ ((g'.tables.flatMap Table.columns).map Column.id).Nodup ∧
      g'.ownerOf (.str "a_copy-b-c") = .ok u ∧ u.id ≠ t.id := by
  have hown : crossing.HasOwnColumns := by
    refine ⟨⟨by decide, by decide⟩, fun t ht => ?_, by decide⟩
    simp only [crossing, List.mem_cons, List.not_mem_nil, or_false] at ht
    rcases ht with rfl | rfl <;> exact Table.hasOwnIds_ofNames _ _
  refine ⟨hown, by decide, _, _, .ofNames "a_copy-b" [("c", false)], rfl, rfl, ?_, ?_, rfl, ?_⟩
  · exact ⟨_, List.mem_singleton.mpr rfl, rfl⟩
  · have hids : ([.str "a-b-c", .str "a_copy-b-c", .str "a_copy-b-c"] : List Value).Nodup → False :=
      by decide
    exact hids
  · decide

end SchemaAtlas.Schema
