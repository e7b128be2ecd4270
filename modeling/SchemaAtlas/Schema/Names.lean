/-! # Names and ids

Ids are joined from names with hyphens: those of tables from their labels, those of columns
from the label of the table and the name of the column, those of handles from columns.
-/
namespace SchemaAtlas.Schema

def tableMark : String := "node-"

def tableId (name : String) : String :=
  tableMark ++ name

def tableName (id : String) : String :=
  if tableMark.toList.isPrefixOf id.toList then .ofList (id.toList.drop tableMark.length) else id

def columnId (table column : String) : String :=
  table ++ "-" ++ column

def sourceHandle (columnId : String) : String :=
  columnId ++ "-source"

def targetHandle (columnId : String) : String :=
  columnId ++ "-target"

def singular (label : String) : String :=
  match label.toList.getLast? with
  | some 's' => .ofList label.toList.dropLast
  | _ => label

/-- The column names that refer to the table with a label by convention. -/
def referringNames (label : String) : List String :=
  [label ++ "_id", singular label ++ "_id"]

theorem tableId_injective {a b : String} (h : tableId a = tableId b) : a = b := by
  have := congrArg String.toList h
  simpa [tableId, ← String.toList_inj] using this

end SchemaAtlas.Schema
