import SchemaAtlas.Schema.Graph
import SchemaAtlas.Sql.Literal

/-! # Writing scripts

One `CREATE TABLE` statement per table, with its columns in order, then the primary key.
Relationships are not written.
-/
namespace SchemaAtlas.Sql
open Schema (Column Table)

/-- A comment as a text; anything else cannot be written. -/
def commentOf : Value → Except Fault String
  | .str s => .ok s
  | _ => .error .notText

def escapeLiteral (s : String) : String :=
  .ofList (quoteLiteral s.toList)

def backticked (name : Value) : String :=
  "`" ++ name.text ++ "`"

def columnLine (c : Column) : Except Fault String := do
  let definition := "  " ++ backticked c.name ++ " " ++ c.type.text
  if c.comment.truthy then
    return definition ++ " COMMENT '" ++ escapeLiteral (← commentOf c.comment) ++ "'"
  else return definition

def primaryKeyLine (t : Table) : List String :=
  match t.primaryKeys with
  | [] => []
  | keys => ["  PRIMARY KEY (" ++ ", ".intercalate (keys.map fun c => backticked c.name) ++ ")"]

def writeTable (t : Table) : Except Fault String := do
  let lines ← t.columns.mapM columnLine
  let comment := escapeLiteral (← commentOf t.comment)
  return "CREATE TABLE " ++ backticked t.label ++ " (\n" ++
    ",\n".intercalate (lines ++ primaryKeyLine t) ++ "\n)" ++
    (if comment.isEmpty then "" else " COMMENT='" ++ comment ++ "'") ++ ";\n\n"

def write (tables : List Table) : Except Fault String := do
  return String.join (← tables.mapM writeTable)

/-- What is answered for a value that is given instead of tables: nothing is written for an
empty list or object, all else is refused. -/
def writeValue : Value → Except Fault String
  | .null => .error (.expected "a sequence of tables" .null)
  | .str _ => .error (.expected "a sequence of tables" .str)
  | .list [] => .ok ""
  | .object [] => .ok ""
  | .list _ | .object _ => .error .notATable
  | _ => .error .unsuitable

end SchemaAtlas.Sql
