import SchemaAtlas.Sql.Split
import SchemaAtlas.Sql.Pattern
import SchemaAtlas.Text.Case
import SchemaAtlas.Text.Pieces

/-! # Table definitions

What a `CREATE TABLE` statement says. The body is split into clauses: columns, the primary
key, foreign keys, and indexes, which are passed over. Keys are applied once all columns are
known, so their place in the body does not matter. What cannot be read is noted and left out.
-/
namespace SchemaAtlas.Sql

structure ColumnDef where
  name : String
  type : String
  isPrimary : Bool
  isForeign : Bool
  comment : String
  nullable : Bool
  deriving DecidableEq, Repr

/-- A foreign key: a column of a table refers to a column of another. -/
structure ForeignKey where
  table : String
  column : String
  referencedTable : String
  referencedColumn : String
  deriving DecidableEq, Repr

structure TableDef where
  name : String
  columns : List ColumnDef
  comment : String
  foreignKeys : List ForeignKey
  deriving DecidableEq, Repr

inductive Note where
  | noBody (table : String)
  | unbalancedBody (table : String)
  | unreadConstraint (table clause : String)
  | unreadClause (table clause : String)
  | skipped (statement : String)
  | redefined (table : String)
  | unknownReference (key : ForeignKey)
  deriving DecidableEq, Repr

def Note.isWarning : Note → Bool
  | .redefined _ | .unknownReference _ => true
  | _ => false

def Note.message : Note → String
  | .noBody t => "Table " ++ t ++ " has no column body, skipping"
  | .unbalancedBody t => "Table " ++ t ++ " has an unbalanced column body, skipping"
  | .unreadConstraint t clause => "Unrecognized constraint in " ++ t ++ ": " ++ clause
  | .unreadClause t clause => "Unrecognized clause in " ++ t ++ ": " ++ clause
  | .skipped s => "Skipping statement: " ++ .ofList (s.toList.take 60)
  | .redefined t => "Table " ++ t ++ " is defined twice, keeping the last"
  | .unknownReference k =>
    "Foreign key " ++ k.table ++ "." ++ k.column ++ " references unknown table " ++
      k.referencedTable ++ ", dropping it"

/-- A column from its clause: a name, a type, and modifiers in any order. -/
def column? (clause : List Char) : Option ColumnDef :=
  let (name, rest) := Text.firstWord (Text.strip clause)
  if name.isEmpty || rest.isEmpty then none
  else
    let n := typeEnd rest
    let modifiers := Text.strip (rest.drop n)
    some {
      name := .ofList (bareName name)
      type := .ofList (Text.upper (rest.take n))
      isPrimary := mentionsPrimaryKey modifiers
      isForeign := false
      comment := .ofList (commentText columnComment? modifiers)
      nullable := !mentionsNotNull modifiers }

def primaryKeyNames (clause : List Char) : List String :=
  match Text.search primaryKeyList? clause with
  | some names => (Text.pieces ',' names).map fun n => .ofList (bareName (Text.strip n))
  | none => []

inductive Clause where
  | blank
  | index
  | primaryKey (names : List String)
  | foreignKey (column referencedTable referencedColumn : String)
  | column (c : ColumnDef)
  | unreadConstraint (text : String)
  | unread (text : String)
  deriving DecidableEq, Repr

def clause (part : List Char) : Clause :=
  let text := Text.strip part
  if text.isEmpty then .blank
  else if isIndexClause text then .index
  else if isPrimaryKeyClause text then .primaryKey (primaryKeyNames text)
  else if isConstraintClause text then
    match Text.search reference? text with
    | some (column, table, referenced) =>
      .foreignKey (.ofList column) (.ofList table) (.ofList referenced)
    | none => .unreadConstraint (.ofList text)
  else match column? text with
    | some c => .column c
    | none => .unread (.ofList text)

/-- The name in the header of a statement, the body between its parentheses, and what
follows; or a note why there is no body, or nothing if no table is created. -/
def sections? (statement : List Char) :
    Option (String × Except Note (List Char × List Char)) := do
  let (name, rest) ← tableHeader? (Text.strip statement)
  let name := String.ofList name
  let rest := rest.dropWhile (· ≠ '(')
  if rest.isEmpty then return (name, .error (.noBody name))
  match closing? rest with
  | none => return (name, .error (.unbalancedBody name))
  | some n => return (name, .ok ((rest.drop 1).take (n - 1), rest.drop (n + 1)))

def Clause.note? (table : String) : Clause → Option Note
  | .unreadConstraint text => some (.unreadConstraint table text)
  | .unread text => some (.unreadClause table text)
  | _ => none

def Clause.foreignKey? (table : String) : Clause → Option ForeignKey
  | .foreignKey own referencedTable referencedColumn =>
    some ⟨table, own, referencedTable, referencedColumn⟩
  | _ => none

def Clause.column? : Clause → Option ColumnDef
  | .column c => some c
  | _ => none

def Clause.primaryNames : Clause → List String
  | .primaryKey names => names
  | _ => []

def ColumnDef.withKeys (primary foreign : List String) (c : ColumnDef) : ColumnDef :=
  { c with
    isPrimary := c.isPrimary || primary.contains c.name
    isForeign := foreign.contains c.name }

def TableDef.ofClauses (name : String) (clauses : List Clause) (options : List Char) :
    TableDef :=
  let foreignKeys := clauses.filterMap (Clause.foreignKey? name)
  let primary := clauses.flatMap Clause.primaryNames
  { name
    columns := (clauses.filterMap Clause.column?).map
      (ColumnDef.withKeys primary (foreignKeys.map ForeignKey.column))
    comment := .ofList (commentText tableComment? options)
    foreignKeys }

def tableStatement (statement : List Char) : Option TableDef × List Note :=
  match sections? statement with
  | none => (none, [])
  | some (_, .error note) => (none, [note])
  | some (name, .ok (body, options)) =>
    let clauses := (splitAt ',' body).map clause
    (some (.ofClauses name clauses options), clauses.filterMap (Clause.note? name))

end SchemaAtlas.Sql
