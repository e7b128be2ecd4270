/-! # Errors in definitions

What can be wrong with a definition that a database file keeps, and the words for it.
-/
namespace SchemaAtlas.Sql

inductive DefinitionError where
  | incomplete
  | unrecognized (s : List Char)
  | misplaced (s : List Char)
  /-- An entry that is not that of its definition. -/
  | mismatch
  /-- A name with the name of a database before it. -/
  | qualified
  /-- Something of a kind that there is already. -/
  | taken (kind : String) (name : List Char)
  /-- A table or a view with the name of an index. -/
  | indexNamed (name : List Char)
  | missingTable (name : List Char)
  | orphanIndex
  | badRoot
  | duplicateColumn (name : List Char)
  | tooManyColumns (table : List Char)
  | severalKeys (table : List Char)
  | keyMissing (table : List Char)
  /-- A column that counts up and is not that of row numbers. -/
  | notCountable
  /-- A column that counts up in a table without row numbers. -/
  | nothingCounted
  | unknownOption (name : List Char)
  | missingType (table column : List Char)
  | unknownType (table column type : List Char)
  /-- A default that is not the same for all rows. -/
  | varyingDefault (column : List Char)
  | computedDefault
  | badComputed (column : List Char)
  | computedKey
  | onlyComputed
  /-- A place for nulls where their place is fixed. -/
  | nullsPlaced (place : String)
  | keyExpression
  /-- The same key twice, with different answers to a conflict. -/
  | conflictingAnswers
  | severalReferenced (column table : List Char)
  | referencedCount
  | unknownReferring (column : List Char)
  /-- An index of something that has none. -/
  | notIndexable (kind : String)
  | triggerOnVirtual
  | triggerOnSystem
  | triggerTime (time kind : String) (table : List Char)
  | foreignDatabase (kind : String) (name database : List Char)
  /-- A change of a table with the name of a database before it, in a trigger. -/
  | qualifiedTarget
  /-- A choice of an index for a change, in a trigger. -/
  | targetIndex (clause : String)
  | returningTrigger
  | parameterInView
  | unknownJoin (words : List Char)
  | joinNeeded (clause : String)
  /-- A clause for all parts of a query that comes before the last. -/
  | clauseTooEarly (clause operator : String)
  | tooManyParts
  | duplicateCommon (name : List Char)
  | missingWindow (name : List Char)
  | overriddenWindow (part : String) (name : List Char)
  | unsupportedFrame
  | distinctWindow
  | tooManyArguments (function : List Char)
  | termCount (found expected : Nat)
  | assignedCount (columns values : Nat)
  | parameterNumber
  | tooDeep
  /-- A column that there is not, with the names before it. -/
  | missingColumn (path : List (List Char))
  | prohibited (what place : String)
  | misusedRow
  | misusedFunction (kind : String) (function : List Char)
  | argumentCount (function : List Char)
  | notWindow (function : List Char)
  | filteredScalar (function : List Char)
  | badLikelihood (function : List Char)
  deriving DecidableEq, Repr

namespace DefinitionError

def maxDepth : Nat := 1000

def maxParameter : Nat := 250000

def inTriggers (what : String) : String :=
  what ++ " on UPDATE or DELETE statements within triggers"

def queryMessage : DefinitionError → String
  | .unknownJoin words => "unknown join type: " ++ .ofList words
  | .joinNeeded clause => "a JOIN clause is required before " ++ clause
  | .clauseTooEarly clause operator =>
    clause ++ " clause should come after " ++ operator ++ " not before"
  | .tooManyParts => "too many terms in compound SELECT"
  | .duplicateCommon name => "duplicate WITH table name: " ++ .ofList name
  | .missingWindow name => "no such window: " ++ .ofList name
  | .overriddenWindow part name =>
    "cannot override " ++ part ++ " of window: " ++ .ofList name
  | .unsupportedFrame => "unsupported frame specification"
  | .distinctWindow => "DISTINCT is not supported for window functions"
  | .tooManyArguments f => "too many arguments on function " ++ .ofList f
  | .termCount found expected =>
    let plural := if 1 < found then "s" else ""
    s!"IN(...) element has {found} term{plural} - expected {expected}"
  | .assignedCount columns values => s!"{columns} columns assigned {values} values"
  | .parameterNumber => s!"variable number must be between ?1 and ?{maxParameter}"
  | .tooDeep => s!"Expression tree is too large (maximum depth {maxDepth})"
  | .missingColumn path =>
    "no such column: " ++ String.intercalate "." (path.map String.ofList)
  | .prohibited what place => what ++ " prohibited in " ++ place
  | .misusedRow => "row value misused"
  | .misusedFunction kind f => "misuse of " ++ kind ++ " function " ++ .ofList f ++ "()"
  | .argumentCount f => "wrong number of arguments to function " ++ .ofList f ++ "()"
  | .notWindow f => .ofList f ++ "() may not be used as a window function"
  | .filteredScalar f => "FILTER may not be used with non-aggregate " ++ .ofList f ++ "()"
  | .badLikelihood f =>
    "second argument to " ++ .ofList f ++ "() must be a constant between 0.0 and 1.0"
  | _ => ""

def message : DefinitionError → String
  | .incomplete => "incomplete input"
  | .unrecognized s => "unrecognized token: \"" ++ .ofList s ++ "\""
  | .misplaced s => "near \"" ++ .ofList s ++ "\": syntax error"
  | .mismatch => ""
  | .qualified => "corrupt database"
  | .taken kind name => kind ++ " " ++ .ofList name ++ " already exists"
  | .indexNamed name => "there is already an index named " ++ .ofList name
  | .missingTable name => "no such table: main." ++ .ofList name
  | .orphanIndex => "orphan index"
  | .badRoot => "invalid rootpage"
  | .duplicateColumn name => "duplicate column name: " ++ .ofList name
  | .tooManyColumns table => "too many columns on " ++ .ofList table
  | .severalKeys table => "table \"" ++ .ofList table ++ "\" has more than one primary key"
  | .keyMissing table => "PRIMARY KEY missing on table " ++ .ofList table
  | .notCountable => "AUTOINCREMENT is only allowed on an INTEGER PRIMARY KEY"
  | .nothingCounted => "AUTOINCREMENT not allowed on WITHOUT ROWID tables"
  | .unknownOption name => "unknown table option: " ++ .ofList name
  | .missingType table column =>
    "missing datatype for " ++ .ofList table ++ "." ++ .ofList column
  | .unknownType table column type =>
    "unknown datatype for " ++ .ofList table ++ "." ++ .ofList column ++
      ": \"" ++ .ofList type ++ "\""
  | .varyingDefault column =>
    "default value of column [" ++ .ofList column ++ "] is not constant"
  | .computedDefault => "cannot use DEFAULT on a generated column"
  | .badComputed column => "error in generated column \"" ++ .ofList column ++ "\""
  | .computedKey => "generated columns cannot be part of the PRIMARY KEY"
  | .onlyComputed => "must have at least one non-generated column"
  | .nullsPlaced place => "unsupported use of NULLS " ++ place
  | .keyExpression => "expressions prohibited in PRIMARY KEY and UNIQUE constraints"
  | .conflictingAnswers => "conflicting ON CONFLICT clauses specified"
  | .severalReferenced column table =>
    "foreign key on " ++ .ofList column ++
      " should reference only one column of table " ++ .ofList table
  | .referencedCount =>
    "number of columns in foreign key does not match the number of columns in " ++
      "the referenced table"
  | .unknownReferring column =>
    "unknown column \"" ++ .ofList column ++ "\" in foreign key definition"
  | .notIndexable kind => kind ++ " may not be indexed"
  | .triggerOnVirtual => "cannot create triggers on virtual tables"
  | .triggerOnSystem => "cannot create trigger on system table"
  | .triggerTime time kind table =>
    "cannot create " ++ time ++ " trigger on " ++ kind ++ ": " ++ .ofList table
  | .foreignDatabase kind name database =>
    kind ++ " " ++ .ofList name ++ " cannot reference objects in database " ++ .ofList database
  | .qualifiedTarget =>
    "qualified table names are not allowed on INSERT, UPDATE, and DELETE " ++
      "statements within triggers"
  | .targetIndex clause => inTriggers ("the " ++ clause ++ " clause is not allowed")
  | .returningTrigger => "cannot use RETURNING in a trigger"
  | .parameterInView => "parameters are not allowed in views"
  | e => e.queryMessage

end DefinitionError

end SchemaAtlas.Sql
