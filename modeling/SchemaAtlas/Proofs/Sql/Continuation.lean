import SchemaAtlas.Proofs.Sql.Reading
import SchemaAtlas.Proofs.Sql.Regions
import SchemaAtlas.Proofs.Sql.Cuts
import SchemaAtlas.Proofs.Text.Blank

/-! # Scripts that are continued

What follows a closed script and a semicolon is read as if it stood alone. It may redefine
the tables of the script and add more, but it cannot take one away or move it.
-/
namespace SchemaAtlas.Sql
open Schema (Table)

/-- A script that ends outside literals, comments and parentheses. -/
structure IsClosedScript (sql : List Char) : Prop where
  region : regionAfter .code sql = .code
  state : (State.initial.run (stripComments sql)).isClosed = true

theorem tableStatement_of_allBlank {s : List Char} (h : Text.allBlank s = true) :
    (tableStatement s).1 = none := by
  have hsections : sections? s = none := by
    rw [sections?, Text.strip_of_allBlank h]
    rfl
  rw [tableStatement, hsections]

/-- The last part of a script counts only if it defines a table, blank or not. -/
theorem definitions_eq (sql : List Char) :
    definitions sql =
      ((cut (Token.delimits ';') (tokens (stripComments sql))).1 ++
        [(cut (Token.delimits ';') (tokens (stripComments sql))).2]).filterMap
          fun s => (tableStatement s).1 := by
  rw [definitions, statements, splitAt, partsOf]
  split
  · next hb => simp [tableStatement_of_allBlank hb]
  · rfl

theorem IsClosedScript.stripComments_append {p : List Char} (h : IsClosedScript p)
    (t : List Char) :
    stripComments (p ++ ';' :: t) = stripComments p ++ ';' :: stripComments t := by
  have hmark : startsMark ';' t = false := rfl
  rw [stripComments, stripFrom_append _ _ rfl, h.region, stripFrom_code_cons hmark]
  rfl

/-- The definitions of a continued script are those of its two parts. -/
theorem IsClosedScript.definitions_append {p : List Char} (h : IsClosedScript p)
    (t : List Char) : definitions (p ++ ';' :: t) = definitions p ++ definitions t := by
  rw [definitions_eq p, definitions, statements, h.stripComments_append,
    splitAt_append rfl (State.run_eq_initial h.state)]
  rw [← List.singleton_append, ← List.append_assoc, List.filterMap_append]
  rfl

/-- The ids of the tables of a script, by the first definitions of their names. -/
theorem parse_table_ids (sql : String) :
    (parse sql).tables.map Table.id =
      ((definitions sql.toList).map TableDef.name).eraseDups.map fun name =>
        .str (Schema.tableId name) := by
  rw [← inForce_names]
  by_cases h : lastingKeys (definitions sql.toList) = []
  · rw [parse_of_keys_eq_nil h]
    simp [Schema.inferred, TableDef.toTable, Schema.Table.flagForeign]
  · rw [parse_of_keys_ne_nil h]
    simp [TableDef.toTable]

/-- A closed script keeps its definitions and the places of its tables, whatever follows. -/
theorem definitions_of_continued (p t : String) (h : IsClosedScript p.toList) :
    definitions (p ++ ";" ++ t).toList = definitions p.toList ++ definitions t.toList ∧
      (parse p).tables.map Table.id <+: (parse (p ++ ";" ++ t)).tables.map Table.id := by
  have hd : definitions (p ++ ";" ++ t).toList = definitions p.toList ++ definitions t.toList := by
    simpa using h.definitions_append t.toList
  refine ⟨hd, ?_⟩
  rw [parse_table_ids, parse_table_ids, hd, List.map_append, List.eraseDups_append, List.map_append]
  exact List.prefix_append _ _

theorem definitions_of_continued_malformed :
    IsClosedScript "CREATE TABLE a (b ENUM('x;)')) -- (\n".toList ∧
      definitions ("CREATE TABLE a (b ENUM('x;)')) -- (\n" ++ ";" ++ "CREATE TABLE (' /*").toList =
        definitions "CREATE TABLE a (b ENUM('x;)')) -- (\n".toList ++
          definitions "CREATE TABLE (' /*".toList ∧
      (parse "CREATE TABLE a (b ENUM('x;)')) -- (\n").tables.map Table.id <+:
        (parse ("CREATE TABLE a (b ENUM('x;)')) -- (\n" ++ ";" ++ "CREATE TABLE (' /*")).tables.map
          Table.id := by
  have h : IsClosedScript "CREATE TABLE a (b ENUM('x;)')) -- (\n".toList :=
    ⟨by decide, by decide⟩
  exact ⟨h, definitions_of_continued _ _ h⟩

end SchemaAtlas.Sql
