import SchemaAtlas.Proofs.Schema.Naming

/-! # Relationships drawn by hand

A relationship that is drawn between two columns is told from all others by its id alone, which is
only joined from names. So it is found again however a graph has been edited, and drawing it once
more changes nothing.
-/
namespace SchemaAtlas.Schema

/-- A column named by words, in a table named by a word. -/
@[ext]
structure ColumnRef where
  table : String
  name : String
  table_word : IsWordText table
  name_word : IsWordText name

namespace ColumnRef

def id (c : ColumnRef) : String :=
  columnId c.table c.name

/-- The id of the relationship drawn from a column to another. -/
def drawnId (a b : ColumnRef) : String :=
  "e-" ++ sourceHandle a.id ++ "-" ++ targetHandle b.id

theorem toList_drawnId (a b : ColumnRef) : (a.drawnId b).toList =
    "e-".toList ++ (a.table.toList ++ '-' :: (a.name.toList ++ '-' :: ("source-".toList ++
      (b.table.toList ++ '-' :: (b.name.toList ++ '-' :: "target".toList))))) := by
  simp [drawnId, id, columnId, sourceHandle, targetHandle]

theorem id_injective {a b : ColumnRef} (h : a.id = b.id) : a = b := by
  obtain ⟨ht, hn⟩ := columnId_injective a.table_word b.table_word h
  exact ColumnRef.ext ht hn

/-- The id of a relationship drawn between columns tells both of them. -/
theorem drawnId_injective {a a' b b' : ColumnRef} (h : a.drawnId b = a'.drawnId b') :
    a = a' ∧ b = b' := by
  have hl := congrArg String.toList h
  rw [toList_drawnId, toList_drawnId] at hl
  have hl := List.append_cancel_left hl
  obtain ⟨h1, hl⟩ := eq_of_append_separator a.table_word.unhyphenated a'.table_word.unhyphenated hl
  obtain ⟨h2, hl⟩ := eq_of_append_separator a.name_word.unhyphenated a'.name_word.unhyphenated hl
  have hl := List.append_cancel_left hl
  obtain ⟨h3, hl⟩ := eq_of_append_separator b.table_word.unhyphenated b'.table_word.unhyphenated hl
  obtain ⟨h4, _⟩ := eq_of_append_separator b.name_word.unhyphenated b'.name_word.unhyphenated hl
  exact ⟨ColumnRef.ext (String.toList_inj.mp h1) (String.toList_inj.mp h2),
    ColumnRef.ext (String.toList_inj.mp h3) (String.toList_inj.mp h4)⟩

/-- Ids of foreign keys have fewer parts. -/
theorem drawnId_ne_foreignKey (a b : ColumnRef) {k : Sql.ForeignKey} (i : Nat)
    (hr : IsWordText k.referencedTable) (ht : IsWordText k.table) :
    (k.relationship i).id ≠ .str (a.drawnId b) := by
  intro h
  have hl := congrArg String.toList (Value.str.inj h)
  rw [toList_drawnId] at hl
  simp only [String.toList_append, List.append_assoc] at hl
  have hl := List.append_cancel_left hl
  obtain ⟨_, hl⟩ := eq_of_append_separator (isUnhyphenated_toString i)
    a.table_word.unhyphenated hl
  obtain ⟨_, hl⟩ := eq_of_append_separator hr.unhyphenated a.name_word.unhyphenated hl
  change k.table.toList = _ at hl
  apply ht.unhyphenated
  rw [hl]
  simp

/-- Ids of inferred relationships begin differently. -/
theorem drawnId_ne_link (a b : ColumnRef) (l : Link) :
    l.relationship.id ≠ .str (a.drawnId b) := by
  intro h
  have hl := congrArg String.toList (Value.str.inj h)
  rw [toList_drawnId] at hl
  simp at hl

end ColumnRef

structure Relationship.Draws (r : Relationship) (a b : ColumnRef) : Prop where
  id : r.id = .str (a.drawnId b)
  source : r.source = .str (tableId a.table)
  target : r.target = .str (tableId b.table)
  sourceHandle : r.sourceHandle = .str (Schema.sourceHandle a.id)
  targetHandle : r.targetHandle = .str (Schema.targetHandle b.id)

/-- Relationships drawn by hand are told by their ids, from each other and from the rest. -/
structure AreTold (rs : List Relationship) : Prop where
  drawn : ∀ r ∈ rs, r.kind = .manual → ∃ a b, r.Draws a b
  apart : ∀ r ∈ rs, r.kind ≠ .manual → ∀ a b : ColumnRef, r.id ≠ .str (a.drawnId b)
  nodup : ((rs.filter fun r => r.kind = .manual).map Relationship.id).Nodup

namespace AreTold

variable {rs : List Relationship}

theorem of_not_manual (h : ∀ r ∈ rs, r.kind ≠ .manual ∧
    ∀ a b : ColumnRef, r.id ≠ .str (a.drawnId b)) : AreTold rs where
  drawn r hr hk := absurd hk (h r hr).1
  apart r hr _ := (h r hr).2
  nodup := by
    have hnone : (rs.filter fun r => r.kind = .manual) = [] := by
      apply List.filter_eq_nil_iff.mpr
      intro r hr
      simpa using (h r hr).1
    rw [hnone]
    exact List.nodup_nil

variable (h : AreTold rs)
include h

theorem sublist {rs' : List Relationship} (hs : rs'.Sublist rs) : AreTold rs' where
  drawn r hr := h.drawn r (hs.subset hr)
  apart r hr := h.apart r (hs.subset hr)
  nodup := h.nodup.sublist ((hs.filter _).map _)

theorem reloaded : AreTold (rs.map Relationship.reloaded) where
  drawn := by
    intro r hr hk
    obtain ⟨s, hs, rfl⟩ := List.mem_map.mp hr
    obtain ⟨a, b, hd⟩ := h.drawn s hs hk
    refine ⟨a, b, hd.id, hd.source, hd.target, ?_, ?_⟩
    · rw [Relationship.reloaded, hd.sourceHandle, Value.orEmpty_str]
    · rw [Relationship.reloaded, hd.targetHandle, Value.orEmpty_str]
  apart := by
    intro r hr hk
    obtain ⟨s, hs, rfl⟩ := List.mem_map.mp hr
    exact h.apart s hs hk
  nodup := by
    have hids : (((rs.map Relationship.reloaded).filter fun r => r.kind = .manual).map
        Relationship.id) = (rs.filter fun r => r.kind = .manual).map Relationship.id := by
      rw [List.filter_map, List.map_map]
      rfl
    rw [hids]
    exact h.nodup

theorem concat {r : Relationship} {a b : ColumnRef} (hr : r.Draws a b)
    (hk : r.kind = .manual) (hfree : ∀ s ∈ rs, s.id ≠ r.id) : AreTold (rs ++ [r]) where
  drawn := by
    intro s hs hks
    rcases List.mem_append.mp hs with hs | hs
    · exact h.drawn s hs hks
    · rw [List.mem_singleton.mp hs]
      exact ⟨a, b, hr⟩
  apart := by
    intro s hs hks
    rcases List.mem_append.mp hs with hs | hs
    · exact h.apart s hs hks
    · rw [List.mem_singleton.mp hs] at hks
      exact absurd hk hks
  nodup := by
    have hids : ((rs ++ [r]).filter fun s => s.kind = .manual).map Relationship.id =
        (rs.filter fun s => s.kind = .manual).map Relationship.id ++ [r.id] := by
      simp [hk]
    rw [hids, ← List.concat_eq_append]
    refine h.nodup.concat fun hmem => ?_
    obtain ⟨s, hs, heq⟩ := List.mem_map.mp hmem
    exact hfree s (List.mem_filter.mp hs).1 heq

end AreTold

theorem areTold_inferred (tables : List Table) : AreTold (inferred tables).relationships := by
  apply AreTold.of_not_manual
  intro r hr
  obtain ⟨l, _, rfl⟩ := List.mem_map.mp hr
  exact ⟨nofun, fun a b => ColumnRef.drawnId_ne_link a b l⟩

theorem areTold_declaredOf {ds : List Sql.TableDef} (ho : ∀ d ∈ ds, d.OwnsKeys)
    (hn : ∀ d ∈ ds, IsWordText d.name) :
    AreTold (Sql.declaredOf (fun name => ds.any fun d => d.name = name) (Sql.lastingKeys ds)) := by
  have hword : ∀ name ∈ ds.map Sql.TableDef.name, IsWordText name := by
    intro name hname
    obtain ⟨d, hd, rfl⟩ := List.mem_map.mp hname
    exact hn d hd
  apply AreTold.of_not_manual
  intro r hr
  obtain ⟨⟨k, i⟩, hk, rfl⟩ := List.mem_map.mp hr
  obtain ⟨hk, hknown⟩ := List.mem_filter.mp hk
  have hsource : k.referencedTable ∈ ds.map Sql.TableDef.name := by simpa using hknown
  have htarget := Sql.mem_lastingKeys ho (List.fst_mem_of_mem_zipIdx hk)
  exact ⟨nofun, fun a b =>
    ColumnRef.drawnId_ne_foreignKey a b i (hword _ hsource) (hword _ htarget)⟩

theorem areTold_parse (sql : String) : AreTold (Sql.parse sql).relationships := by
  by_cases hkeys : Sql.lastingKeys (Sql.definitions sql.toList) = []
  · rw [Sql.parse_of_keys_eq_nil hkeys]
    exact areTold_inferred _
  · rw [Sql.parse_of_keys_ne_nil hkeys]
    dsimp only
    exact areTold_declaredOf (Sql.definitions_ownsKeys sql.toList)
      fun d hd => (Sql.definitions_isName hd).word

theorem eq_str_of_key {v : Value} {s : String} (h : v.key = .str s) : v = .str s := by
  cases v with
  | str t => exact h
  | float x =>
    rw [Value.key] at h
    split at h <;> cases h
  | null => cases h
  | bool b => cases h
  | int n => cases h
  | list xs => cases h
  | object fs => cases h
  | moment m => cases h

section Drawing

variable {g g' : Graph}

theorem addRelationship_tables (g : Graph) (r : Relationship) :
    (g.addRelationship r).tables = g.tables := by
  unfold Graph.addRelationship
  split <;> rfl

/-- A relationship is appended, or one with its id is there already. -/
theorem addRelationship_cases (g : Graph) (r : Relationship) :
    (g.addRelationship r = g ∧ ∃ s ∈ g.relationships, s.id.key = r.id.key) ∨
      ((∀ s ∈ g.relationships, s.id.key ≠ r.id.key) ∧
        g.addRelationship r = { g with relationships := g.relationships ++ [r] }) := by
  unfold Graph.addRelationship
  split
  · next h => exact .inl ⟨rfl, by simpa using h⟩
  · next h => exact .inr ⟨by simpa using h, rfl⟩

theorem mem_addRelationship (g : Graph) (r : Relationship) :
    ∃ s ∈ (g.addRelationship r).relationships, s.id.key = r.id.key := by
  rcases addRelationship_cases g r with ⟨heq, s, hs, hid⟩ | ⟨_, heq⟩
  · rw [heq]
    exact ⟨s, hs, hid⟩
  · rw [heq]
    exact ⟨r, List.mem_append_right _ (List.mem_singleton.mpr rfl), rfl⟩

theorem ownerOf_addRelationship (g : Graph) (r : Relationship) (id : Value) :
    (g.addRelationship r).ownerOf id = g.ownerOf id := by
  rw [Graph.ownerOf, addRelationship_tables, Graph.ownerOf]

theorem exists_ref_of_ownerOf (h : ∀ t ∈ g.tables, t.IsNamed) {id : Value} {t : Table}
    (ho : g.ownerOf id = .ok t) :
    ∃ a : ColumnRef, id = .str a.id ∧ t.id = .str (tableId a.table) ∧ t.Owns id := by
  obtain ⟨ht, c, hc, hkey⟩ := ownerOf_eq_ok ho
  obtain ⟨l, hl, _, hid, hcolumns⟩ := h t ht
  obtain ⟨n, hn, _, hcid⟩ := hcolumns c hc
  rw [hcid] at hkey
  obtain rfl := eq_str_of_key hkey.symm
  exact ⟨⟨l, n, hl, hn⟩, rfl, hid, c, hc, hcid⟩

theorem draws_drawn {a b : ColumnRef} {s t : Table} (hs : s.id = .str (tableId a.table))
    (ht : t.id = .str (tableId b.table)) (c : Cardinality) :
    (Relationship.drawn s t (.str a.id) (.str b.id) c).Draws a b :=
  ⟨rfl, hs, ht, rfl, rfl⟩

theorem AreTold.addRelationship (h : AreTold g.relationships) {r : Relationship}
    {a b : ColumnRef} (hr : r.Draws a b) (hk : r.kind = .manual) :
    AreTold (g.addRelationship r).relationships := by
  rcases addRelationship_cases g r with ⟨heq, _⟩ | ⟨hfree, heq⟩
  · rw [heq]
    exact h
  · rw [heq]
    refine h.concat hr hk fun s hs hid => ?_
    exact hfree s hs (congrArg Value.key hid)

theorem Edit.IsOrdinary.areTold {e : Edit} (he : e.IsOrdinary) (ha : e.apply g = .ok g')
    (ht : ∀ t ∈ g.tables, t.IsNamed) (h : AreTold g.relationships) :
    AreTold g'.relationships := by
  cases e with
  | addTable t =>
    obtain ⟨_, rfl⟩ := addTable_eq_ok ha
    exact h
  | updateTable t => exact he.elim
  | duplicateTable id offset =>
    obtain ⟨_, _, _, ha⟩ := duplicateTable_eq_ok ha
    obtain ⟨_, rfl⟩ := addTable_eq_ok ha
    exact h
  | removeTable id =>
    rw [removeTable_eq_ok ha]
    exact h.sublist List.filter_sublist
  | prune =>
    rw [prune_eq_ok ha]
    exact h.sublist List.filter_sublist
  | connect source target cardinality =>
    obtain ⟨c, _, s, hs, t, htarget, rfl⟩ := connect_eq_ok.mp ha
    obtain ⟨a, rfl, hsid, _⟩ := exists_ref_of_ownerOf ht hs
    obtain ⟨b, rfl, htid, _⟩ := exists_ref_of_ownerOf ht htarget
    exact h.addRelationship (draws_drawn hsid htid c) rfl
  | highlight selection =>
    obtain ⟨⟨dimmed, ids⟩, hdim, ha⟩ := bind_eq_ok.mp ha
    cases ha
    rw [highlight_eq_ok hdim]
    exact h
  | layout settings direction =>
    obtain ⟨s, _, ha⟩ := bind_eq_ok.mp ha
    obtain ⟨positions, _, rfl⟩ := layout_eq_ok ha
    exact h
  | infer =>
    rw [infer_eq_ok ha]
    exact areTold_inferred g.tables
  | reload name =>
    rw [Edit.apply, Graph.ofDocument_toDocument] at ha
    cases ha
    exact h.reloaded

end Drawing

/-- A sound graph with tables named by words, whose drawn relationships are told by their ids. -/
structure Graph.IsOrderly (g : Graph) : Prop where
  sound : g.IsSound
  tables : ∀ t ∈ g.tables, t.IsNamed
  relationships : AreTold g.relationships

/-- The relationships drawn by hand between the handles of two columns. -/
def Graph.drawnBetween (g : Graph) (a b : Value) : List Relationship :=
  (g.relationships.filter fun r => r.kind = .manual).filter fun r =>
    r.sourceHandle = .str (sourceHandle a.text) ∧ r.targetHandle = .str (targetHandle b.text)

/-- After two columns have been connected, one relationship is drawn between them and leads from
the table of the first to that of the second. Connecting them again changes nothing. -/
def Graph.ConnectsOnce (g : Graph) : Prop :=
  ∀ a b cardinality g', g.connect a b cardinality = .ok g' →
    (∃ r, g'.drawnBetween a b = [r] ∧
      (∃ s ∈ g'.tables, s.Owns a ∧ r.source = s.id) ∧
      ∃ t ∈ g'.tables, t.Owns b ∧ r.target = t.id) ∧
    ∀ c : Cardinality, g'.connect a b (.str c.label) = .ok g'

theorem Relationship.Draws.refs_eq {r : Relationship} {a a' b b' : ColumnRef} (h : r.Draws a b)
    (hs : r.sourceHandle = .str (Schema.sourceHandle a'.id))
    (ht : r.targetHandle = .str (Schema.targetHandle b'.id)) : a = a' ∧ b = b' := by
  have hsource := Value.str.inj (h.sourceHandle.symm.trans hs)
  have htarget := Value.str.inj (h.targetHandle.symm.trans ht)
  rw [Schema.sourceHandle, Schema.sourceHandle, ← String.toList_inj] at hsource
  rw [Schema.targetHandle, Schema.targetHandle, ← String.toList_inj] at htarget
  simp only [String.toList_append, List.append_cancel_right_eq, String.toList_inj]
    at hsource htarget
  exact ⟨ColumnRef.id_injective hsource, ColumnRef.id_injective htarget⟩

theorem AreTold.drawnBetween_eq {g : Graph} (h : AreTold g.relationships) {r : Relationship}
    (hr : r ∈ g.relationships) (hk : r.kind = .manual) {a b : ColumnRef} (hd : r.Draws a b) :
    g.drawnBetween (.str a.id) (.str b.id) = [r] := by
  have hmanual : r ∈ g.relationships.filter fun r => r.kind = .manual :=
    List.mem_filter.mpr ⟨hr, decide_eq_true hk⟩
  -- The handles tell the columns, the columns tell the id, and no two drawn ones share an id.
  have hall : ∀ s ∈ g.drawnBetween (.str a.id) (.str b.id), s = r := by
    intro s hs
    obtain ⟨hsm, hends⟩ := List.mem_filter.mp hs
    obtain ⟨hsource, htarget⟩ := of_decide_eq_true hends
    obtain ⟨hmem, hks⟩ := List.mem_filter.mp hsm
    obtain ⟨a', b', hd'⟩ := h.drawn s hmem (of_decide_eq_true hks)
    obtain ⟨rfl, rfl⟩ := hd'.refs_eq hsource htarget
    exact List.inj_on_of_nodup_map h.nodup hsm hmanual (hd'.id.trans hd.id.symm)
  have hmem : r ∈ g.drawnBetween (.str a.id) (.str b.id) :=
    List.mem_filter.mpr ⟨hmanual, decide_eq_true ⟨hd.sourceHandle, hd.targetHandle⟩⟩
  have hnodup : (g.drawnBetween (.str a.id) (.str b.id)).Nodup := h.nodup.of_map.filter _
  rw [List.eq_replicate_of_mem hall] at hnodup hmem ⊢
  have hpos := (List.mem_replicate.mp hmem).1
  have hone := List.nodup_replicate.mp hnodup
  rw [show (g.drawnBetween (.str a.id) (.str b.id)).length = 1 by omega]
  rfl

theorem Cardinality.ofValue_label (c : Cardinality) : ofValue (.str c.label) = .ok c := by
  cases c <;> decide

namespace Graph.IsOrderly

variable {g g' : Graph} (h : g.IsOrderly)
include h

theorem apply {e : Edit} (he : e.IsOrdinary) (ha : e.apply g = .ok g') : g'.IsOrderly where
  sound := h.sound.apply ha
  tables := he.isNamed ha h.tables
  relationships := he.areTold ha h.tables h.relationships

theorem edited {edits : List Edit} (he : ∀ e ∈ edits, e.IsOrdinary) :
    (g.edited edits).IsOrderly :=
  edited_induction h fun e hmem _ _ h => h.apply (he e hmem)

theorem pairwise_owns : g.tables.Pairwise fun t u => ∀ id, ¬ (t.Owns id ∧ u.Owns id) := by
  have hne : g.tables.Pairwise fun t u => t.key ≠ u.key := List.pairwise_map.mp h.sound.nodup
  refine hne.imp_of_mem fun ht hu hkey id hboth => ?_
  apply hkey
  rw [Table.key, Table.key, (h.tables _ ht).id_eq_of_owns (h.tables _ hu) hboth.1 hboth.2]

theorem connectsOnce : g.ConnectsOnce := by
  intro x y cardinality g' hconnect
  have h' : g'.IsOrderly := h.apply (e := .connect x y cardinality) trivial hconnect
  obtain ⟨c, _, s, hs, t, ht, rfl⟩ := connect_eq_ok.mp hconnect
  have hs' := (ownerOf_addRelationship g (.drawn s t x y c) x).trans hs
  have ht' := (ownerOf_addRelationship g (.drawn s t x y c) y).trans ht
  obtain ⟨a, rfl, hsid, hso⟩ := exists_ref_of_ownerOf h'.tables hs'
  obtain ⟨b, rfl, htid, hto⟩ := exists_ref_of_ownerOf h'.tables ht'
  -- Whether it has just been drawn or been there before, a relationship has the id.
  obtain ⟨r, hr, hkey⟩ := mem_addRelationship g (.drawn s t (.str a.id) (.str b.id) c)
  have hid : r.id = .str (a.drawnId b) := eq_str_of_key hkey
  have hk : r.kind = .manual := by
    by_contra hk
    exact h'.relationships.apart r hr hk a b hid
  obtain ⟨a', b', hd⟩ := h'.relationships.drawn r hr hk
  obtain ⟨rfl, rfl⟩ := ColumnRef.drawnId_injective (Value.str.inj (hd.id.symm.trans hid))
  constructor
  · exact ⟨r, h'.relationships.drawnBetween_eq hr hk hd,
      ⟨s, (ownerOf_eq_ok hs').1, hso, hd.source.trans hsid.symm⟩,
      t, (ownerOf_eq_ok ht').1, hto, hd.target.trans htid.symm⟩
  · intro c'
    refine connect_eq_ok.mpr ⟨c', c'.ofValue_label, s, hs', t, ht', ?_⟩
    rcases addRelationship_cases _ (.drawn s t (.str a'.id) (.str b'.id) c') with
      ⟨heq, _⟩ | ⟨hfree, _⟩
    · exact heq
    · exact absurd hkey (hfree r hr)

end Graph.IsOrderly

theorem isOrderly_parse {sql : String}
    (h : ∀ t ∈ (Sql.parse sql).tables, ∀ c ∈ t.columns, IsWordText c.name.text) :
    (Sql.parse sql).IsOrderly where
  sound := isSound_parse sql
  tables t ht := isNamed_of_mem_parse ht (h t ht)
  relationships := areTold_parse sql

/-- However a script with columns named by words is edited, ids are made of labels and names, no
column id occurs in two tables, and between two columns that are connected one relationship is
drawn. -/
theorem edited_connectsOnce (sql : String) (edits : List Edit)
    (hsql : ∀ t ∈ (Sql.parse sql).tables, ∀ c ∈ t.columns, IsWordText c.name.text)
    (hedits : ∀ e ∈ edits, e.IsOrdinary) :
    (∀ t ∈ ((Sql.parse sql).edited edits).tables, t.IsNamed) ∧
      (((Sql.parse sql).edited edits).tables.Pairwise fun t u =>
        ∀ id, ¬ (t.Owns id ∧ u.Owns id)) ∧
      ((Sql.parse sql).edited edits).ConnectsOnce := by
  have h := (isOrderly_parse hsql).edited hedits
  exact ⟨h.tables, h.pairwise_owns, h.connectsOnce⟩

def tagScript : String :=
  "CREATE TABLE users (id INT PRIMARY KEY); CREATE TABLE orders (user_id INT)"

/-- A run in which columns of an added table and of a copy are connected twice. -/
def tagEdits : List Edit := [
  .addTable (.fresh (.str "tags") .origin),
  .duplicateTable (.str (tableId "orders")) (.int 50),
  .connect (.str (columnId "orders_copy" "user_id")) (.str (columnId "tags" "id")) (.str "N:1"),
  .reload (.str "shop"),
  .connect (.str (columnId "orders_copy" "user_id")) (.str (columnId "tags" "id")) (.str "1:1"),
  .removeTable (.str (tableId "orders"))]

theorem edited_connectsOnce_tags :
    (∀ t ∈ (Sql.parse tagScript).tables, ∀ c ∈ t.columns, IsWordText c.name.text) ∧
      (∀ e ∈ tagEdits, e.IsOrdinary) ∧ ((Sql.parse tagScript).edited tagEdits).ConnectsOnce := by
  have hsql : ∀ t ∈ (Sql.parse tagScript).tables, ∀ c ∈ t.columns, IsWordText c.name.text := by
    decide +kernel
  have hedits : ∀ e ∈ tagEdits, e.IsOrdinary := by
    simp only [tagEdits, List.forall_mem_cons, List.not_mem_nil, false_implies, implies_true]
    exact ⟨⟨"tags", .origin, by decide, rfl⟩, trivial, trivial, trivial, trivial, trivial, trivial⟩
  exact ⟨hsql, hedits, (edited_connectsOnce _ tagEdits hsql hedits).2.2⟩

example : ((Sql.parse tagScript).edited tagEdits).relationships.map
    (fun r => (r.source, r.target, r.label)) =
      [(.str "node-orders_copy", .str "node-tags", .str "N:1")] := by
  decide +kernel

end SchemaAtlas.Schema
