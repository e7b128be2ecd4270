import SchemaAtlas.Sql.Comments
import SchemaAtlas.Sql.Table
import SchemaAtlas.Schema.Inference

/-! # Scripts

A script is read statement by statement after its comments have been removed. Of several
definitions of a table the last counts, at the place of the first. A script that declares no
foreign key at all has its relationships inferred from column names.
-/
namespace SchemaAtlas.Sql
open Schema (Column Table Relationship Graph tableId columnId sourceHandle targetHandle)

def ColumnDef.toColumn (table : String) (c : ColumnDef) : Column where
  id := .str (columnId table c.name)
  name := .str c.name
  type := .str c.type
  isPrimary := c.isPrimary
  isForeign := c.isForeign
  comment := .str c.comment
  nullable := .bool c.nullable

def TableDef.toTable (t : TableDef) : Table where
  id := .str (tableId t.name)
  label := .str t.name
  columns := t.columns.map (ColumnDef.toColumn t.name)
  comment := .str t.comment

/-- What has been read of a script: the definitions in force, and their foreign keys in
the order of the script. -/
structure Catalog where
  tables : List TableDef
  foreignKeys : List ForeignKey
  deriving DecidableEq, Repr

/-- Puts a definition in the place of one with the same name, or at the end. -/
def replaceTable (t : TableDef) : List TableDef → List TableDef
  | [] => [t]
  | u :: rest => if u.name = t.name then t :: rest else u :: replaceTable t rest

namespace Catalog

def empty : Catalog := ⟨[], []⟩

def defines (c : Catalog) (name : String) : Bool :=
  c.tables.any fun t => t.name = name

/-- The catalog after one more definition, which replaces an earlier one of that name. -/
def add (c : Catalog) (t : TableDef) : Catalog where
  tables := replaceTable t c.tables
  foreignKeys := c.foreignKeys.filter (fun k => k.table ≠ t.name) ++ t.foreignKeys

end Catalog

def Catalog.addStatement (c : Catalog) (statement : List Char) : Catalog × List Note :=
  match tableStatement statement with
  | (some t, notes) =>
    (c.add t, notes ++ if c.defines t.name then [.redefined t.name] else [])
  | (none, notes) =>
    let text := Text.strip statement
    (c, notes ++ if text.isEmpty then [] else [.skipped (.ofList text)])

def Catalog.addStatements (c : Catalog) : List (List Char) → Catalog × List Note
  | [] => (c, [])
  | statement :: rest =>
    let (c, notes) := c.addStatement statement
    let (c, more) := c.addStatements rest
    (c, notes ++ more)

def statements (sql : List Char) : List (List Char) :=
  splitAt ';' (stripComments sql)

/-- The relationship that a foreign key declares, leading from the table referred to. -/
def ForeignKey.relationship (index : Nat) (k : ForeignKey) : Relationship where
  id := .str ("e-" ++ toString index ++ "-" ++ k.referencedTable ++ "-" ++ k.table)
  source := .str (tableId k.referencedTable)
  target := .str (tableId k.table)
  sourceHandle := .str (sourceHandle (columnId k.referencedTable k.referencedColumn))
  targetHandle := .str (targetHandle (columnId k.table k.column))

/-- The relationships of foreign keys numbered from `index`, without those that refer to
unknown tables; these are noted. -/
def declared (known : String → Bool) (index : Nat) :
    List ForeignKey → List Relationship × List Note
  | [] => ([], [])
  | k :: rest =>
    let (relationships, notes) := declared known (index + 1) rest
    if known k.referencedTable then (k.relationship index :: relationships, notes)
    else (relationships, .unknownReference k :: notes)

def Catalog.graph (c : Catalog) : Graph × List Note :=
  let tables := c.tables.map TableDef.toTable
  if c.foreignKeys.isEmpty && 1 < tables.length then (Schema.inferred tables, [])
  else
    let (relationships, notes) := declared c.defines 0 c.foreignKeys
    (⟨tables, relationships⟩, notes)

def readScript (sql : String) : Graph × List Note :=
  let (catalog, notes) := Catalog.empty.addStatements (statements sql.toList)
  let (graph, more) := catalog.graph
  (graph, notes ++ more)

def parse (sql : String) : Graph :=
  (readScript sql).1

end SchemaAtlas.Sql
