import SchemaAtlas.Proofs.Sql.Continuation
import SchemaAtlas.Proofs.Sql.RereadStatements
import Mathlib.Data.List.Forall2

/-! # Written scripts are read back

A written script defines its tables one after the other, and nothing else. No relationship is
written, so all that are read are inferred.
-/
namespace SchemaAtlas.Sql
open Text (allBlank)
open Schema (Column Table Graph infer inferred)

theorem IsQuiet.isClosedScript {stop : Char → Bool} {u : List Char} (hu : IsQuiet stop u) :
    IsClosedScript u := by
  refine ⟨hu.region, ?_⟩
  rw [stripComments, hu.verbatim, hu.run]
  rfl

/-- A quiet text is one statement. -/
theorem IsQuiet.definitions_eq {u : List Char} (hu : IsQuiet (· = ';') u) :
    definitions u = (tableStatement u).1.toList := by
  rw [Sql.definitions_eq, stripComments, hu.verbatim, cut_segment hu.toIsSegment, List.nil_append]
  cases h : (tableStatement u).1 <;> simp [h]

/-- The script that is written for some tables. -/
def scriptText (tables : List Table) : List Char :=
  tables.flatMap fun t => statementText t ++ ";\n\n".toList

theorem write_eq {tables : List Table} (h : ∀ t ∈ tables, IsWritable t) :
    write tables = .ok (String.ofList (scriptText tables)) := by
  have hstatements : tables.mapM writeTable =
      .ok (tables.map fun t => String.ofList (statementText t ++ ";\n\n".toList)) :=
    mapM_eq_ok fun t ht => writeTable_eq (h t ht)
  have hjoin : String.join (tables.map fun t =>
      String.ofList (statementText t ++ ";\n\n".toList)) = String.ofList (scriptText tables) := by
    rw [← String.toList_inj, String.toList_join, List.flatMap_map,
      @String.toList_ofList (scriptText tables)]
    exact List.flatMap_congr fun t _ => @String.toList_ofList (statementText t ++ ";\n\n".toList)
  rw [write, hstatements, ← hjoin]
  rfl

/-- Each written statement is read by itself, so the script gives the tables one by one. -/
theorem definitions_scriptText {tables : List Table} (h : ∀ t ∈ tables, IsWritable t)
    {b : List Char} (hb : allBlank b = true) (hq : IsQuiet (· = ';') b) :
    definitions (b ++ scriptText tables) = tables.map readTable := by
  induction tables generalizing b with
  | nil =>
    rw [show b ++ scriptText [] = b from List.append_nil b, hq.definitions_eq,
      tableStatement_of_allBlank hb]
    rfl
  | cons t tables ih =>
    have ht := h t List.mem_cons_self
    have hstatement : IsQuiet (· = ';') (b ++ statementText t) :=
      hq.append (statementText_quiet ht) rfl
    -- The two line feeds after a semicolon stand before the next statement, which is why the
    -- induction allows blanks there.
    have hrest := @ih (fun u hu => h u (List.mem_cons_of_mem _ hu)) "\n\n".toList (by decide)
      (.plain (by decide))
    have hsplit : b ++ scriptText (t :: tables) =
        (b ++ statementText t) ++ ';' :: ("\n\n".toList ++ scriptText tables) := by
      have hsemicolon : ";\n\n".toList = ';' :: "\n\n".toList := by decide
      unfold scriptText
      rw [List.flatMap_cons, hsemicolon]
      simp only [List.append_assoc, List.cons_append]
    rw [hsplit, hstatement.isClosedScript.definitions_append, hrest, hstatement.definitions_eq,
      tableStatement_statementText ht hb]
    rfl

theorem readTable_names_nodup {tables : List Table} (h : ∀ t ∈ tables, IsWritable t)
    (hl : (tables.map Table.label).Nodup) :
    ((tables.map readTable).map TableDef.name).Nodup := by
  have hnames : (tables.map readTable).map TableDef.name =
      (tables.map Table.label).map Value.text := by
    rw [List.map_map, List.map_map]
    rfl
  rw [hnames]
  refine hl.map_on ?_
  intro v hv w hw heq
  obtain ⟨t, ht, rfl⟩ := List.mem_map.mp hv
  obtain ⟨u, hu, rfl⟩ := List.mem_map.mp hw
  obtain ⟨l, hlt, _⟩ := (h t ht).label
  obtain ⟨m, hmu, _⟩ := (h u hu).label
  rw [hlt, hmu, Value.text_str, Value.text_str] at heq
  rw [hlt, hmu, heq]

/-- Relationships are only inferred from a script that has been written. -/
theorem parse_scriptText {tables : List Table} (h : ∀ t ∈ tables, IsWritable t)
    (hl : (tables.map Table.label).Nodup) :
    parse (String.ofList (scriptText tables)) =
      inferred (tables.map fun t => (readTable t).toTable) := by
  have hdefs : definitions (String.ofList (scriptText tables)).toList = tables.map readTable := by
    rw [@String.toList_ofList (scriptText tables)]
    exact definitions_scriptText h rfl (.nil _)
  have hforce : inForce (tables.map readTable) = tables.map readTable :=
    inForce_of_nodup (readTable_names_nodup h hl)
  have hkeys : lastingKeys (tables.map readTable) = [] := by
    apply lastingKeys_eq_nil
    intro d hd
    obtain ⟨t, _, rfl⟩ := List.mem_map.mp hd
    rfl
  rw [parse_of_keys_eq_nil (by rw [hdefs, hkeys]), hdefs, hforce, List.map_map]
  rfl

/-- What a column keeps when it is written and read again. A comment that mentions a primary
key may be taken for one. -/
structure ColumnKept (c d : Column) : Prop where
  name : d.name = c.name
  type : d.type = c.type
  comment : d.comment = c.comment
  isPrimary : mentionsPrimaryKey c.comment.text.toList = false → d.isPrimary = c.isPrimary

/-- What a table keeps when it is written and read again. -/
structure TableKept (t u : Table) : Prop where
  label : u.label = t.label
  comment : u.comment = t.comment
  columns : List.Forall₂ ColumnKept t.columns u.columns

theorem columnKept_readKeyColumn {c : Column} (h : IsWritableColumn c) (table : String) :
    ColumnKept c ((readKeyColumn c).toColumn table) := by
  obtain ⟨n, hn, _⟩ := h.name
  obtain ⟨y, hy, _⟩ := h.type
  obtain ⟨s, hs⟩ := h.comment
  constructor
  · simp [readKeyColumn, readColumn, ColumnDef.toColumn, hn]
  · simp [readKeyColumn, readColumn, ColumnDef.toColumn, hy]
  · simp [readKeyColumn, readColumn, ColumnDef.toColumn, hs]
  · intro hmention
    have hnot : mentionsPrimaryKey (modifiersText c.comment.text.toList) = false := by
      unfold modifiersText
      split
      · rfl
      · exact mentionsPrimaryKey_commentClause hmention
    simp [readKeyColumn, readColumn, ColumnDef.toColumn, hnot]

theorem tableKept_readTable {t : Table} (h : IsWritable t) : TableKept t (readTable t).toTable := by
  obtain ⟨l, hl, _⟩ := h.label
  obtain ⟨s, hs⟩ := h.comment
  constructor
  · simp [readTable, TableDef.toTable, hl]
  · simp [readTable, TableDef.toTable, hs]
  · rw [TableDef.toTable, readTable, List.map_map, List.forall₂_map_right_iff, List.forall₂_same]
    exact fun c hc => columnKept_readKeyColumn (h.columns c hc) _

/-- Marking foreign keys takes nothing away. -/
theorem TableKept.flagForeign {t u : Table} (h : TableKept t u) (ids : List Value) :
    TableKept t (u.flagForeign ids) := by
  refine ⟨h.label, h.comment, ?_⟩
  rw [Table.flagForeign, List.forall₂_map_right_iff]
  exact h.columns.imp fun c d hc => ⟨hc.name, hc.type, hc.comment, hc.isPrimary⟩

/-- Tables that can be written are read back in order with all their columns, whatever their
comments say, and their relationships are those that inference finds among them. -/
theorem parse_write {tables : List Table} (hw : ∀ t ∈ tables, IsWritable t)
    (hl : (tables.map Table.label).Nodup) :
    ∃ sql, write tables = .ok sql ∧ List.Forall₂ TableKept tables (parse sql).tables ∧
      infer (parse sql).tables = .ok (parse sql) ∧
      ∀ r ∈ (parse sql).relationships, r.kind = .inferred := by
  have hparse := parse_scriptText hw hl
  refine ⟨String.ofList (scriptText tables), write_eq hw, ?_, ?_, ?_⟩
  · rw [hparse, inferred]
    dsimp only
    rw [List.map_map, List.forall₂_map_right_iff, List.forall₂_same]
    exact fun t ht => (tableKept_readTable (hw t ht)).flagForeign _
  · rw [hparse]
    apply Schema.infer_inferred
    intro t ht
    obtain ⟨u, _, rfl⟩ := List.mem_map.mp ht
    exact TableDef.toTable_isTextual _
  · intro r hr
    rw [hparse] at hr
    exact kind_of_mem_inferred hr

/-- The primary key of both tables below. -/
def idColumn : Column where
  id := .null
  name := .str "id"
  type := .str "INT"
  isPrimary := true

/-- A table whose comments hold everything that could end a literal, a clause or a statement. -/
def awkwardTable : Table where
  id := .null
  label := .str "order"
  comment := .str "it's \\ ; CREATE TABLE `x` (\n-- done"
  columns := [
    idColumn,
    { id := .null, name := .str "état", type := .str "ENUM('A, B','--')",
      comment := .str "', /* ) \\" },
    { id := .null, name := .str "user_id", type := .str "DECIMAL(10, 2)", isPrimary := true,
      comment := .str "# primary" }]

/-- A table that another one refers to by the name of a column. -/
def plainTable : Table where
  id := .null
  label := .str "user"
  columns := [idColumn]

theorem parse_write_awkward :
    (∀ t ∈ [awkwardTable, plainTable], IsWritable t) ∧
      ([awkwardTable, plainTable].map Table.label).Nodup ∧
      ∃ sql, write [awkwardTable, plainTable] = .ok sql ∧
        List.Forall₂ TableKept [awkwardTable, plainTable] (parse sql).tables ∧
        infer (parse sql).tables = .ok (parse sql) ∧
        ∀ r ∈ (parse sql).relationships, r.kind = .inferred := by
  have hid : IsWritableColumn idColumn :=
    ⟨⟨_, rfl, by decide⟩, ⟨_, rfl, by decide⟩, ⟨_, rfl⟩⟩
  have hawkward : IsWritable awkwardTable := by
    refine ⟨⟨_, rfl, by decide⟩, ⟨_, rfl⟩, ?_, by decide⟩
    intro c hc
    simp only [awkwardTable, List.mem_cons, List.not_mem_nil, or_false] at hc
    rcases hc with rfl | rfl | rfl
    · exact hid
    · exact ⟨⟨_, rfl, by decide⟩, ⟨_, rfl, by decide⟩, ⟨_, rfl⟩⟩
    · exact ⟨⟨_, rfl, by decide⟩, ⟨_, rfl, by decide⟩, ⟨_, rfl⟩⟩
  have hplain : IsWritable plainTable := by
    refine ⟨⟨_, rfl, by decide⟩, ⟨_, rfl⟩, ?_, by decide⟩
    intro c hc
    rw [List.mem_singleton.mp hc]
    exact hid
  have hw : ∀ t ∈ [awkwardTable, plainTable], IsWritable t := by
    intro t ht
    simp only [List.mem_cons, List.not_mem_nil, or_false] at ht
    rcases ht with rfl | rfl
    · exact hawkward
    · exact hplain
  have hl : ([awkwardTable, plainTable].map Table.label).Nodup := by decide
  exact ⟨hw, hl, parse_write hw hl⟩

end SchemaAtlas.Sql
