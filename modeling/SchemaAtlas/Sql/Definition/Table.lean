import SchemaAtlas.Sql.Definition.Names

/-! # Tables by their definitions

What a definition says of a table: its columns, its keys, what is checked and what is computed.
Each step that adds to a table either gives the new table or what is wrong.
-/
namespace SchemaAtlas.Sql.Definition

def standardTypes : List String := ["ANY", "BLOB", "INT", "INTEGER", "REAL", "TEXT"]

inductive ColumnType where
  | missing
  | standard (name : String)
  /-- Any other type, without quotes. -/
  | custom (name : List Char)
  deriving DecidableEq, Repr

structure Column where
  name : List Char
  type : ColumnType
  collation : List Char := "BINARY".toList
  computed? : Option Expr := none
  hasDefault : Bool := false
  /-- Whether it is part of the primary key. -/
  isKey : Bool := false

/-- An index of a table: its columns, or something computed, each with its collation; what
happens when a key is there already; and its root. -/
structure Index where
  name : List Char
  parts : List (Option Nat × List Char)
  answer? : Option String := none
  /-- Whether it is that of the primary key. -/
  isPrimary : Bool := false
  root : Nat := 0

inductive TableKind where
  | table
  | view
  | virtual
  deriving DecidableEq, Repr

structure Table where
  kind : TableKind := .table
  name : List Char
  root : Nat := 0
  columns : List Column := []
  hasKey : Bool := false
  /-- The column that is the number of the row. -/
  numberColumn? : Option Nat := none
  /-- What happens when the number of a row is there already. -/
  answer? : Option String := none
  countsUp : Bool := false
  hasRowNumber : Bool := true
  indexes : List Index := []
  checks : List Expr := []

def maxColumns : Nat := 2000

def isQuotation (c : Char) : Bool :=
  c = '"' || c = '\'' || c = '\x60' || c = '['

/-- What is between the first and the last character, if the first begins a quotation and no
other does. -/
def stripped (s : List Char) : List Char :=
  match s with
  | q :: rest =>
    let inner := rest.dropLast
    if isQuotation q && !rest.isEmpty && !inner.any isQuotation then inner else s
  | [] => []

/-- A text without a word at its end, and the spaces before it. -/
def withoutEnd? (word : String) (s : List Char) : Option (List Char) :=
  let n := s.length - word.length
  if word.length ≤ s.length && sameName (s.drop n) word.toList then
    some ((s.take n).reverse.dropWhile fun c => isSpace c || c = '\x0b').reverse
  else none

def ownType (s : List Char) : List Char :=
  if s.length < "generated always".length then s
  else match withoutEnd? "always" s with
    | none => s
    | some s => (withoutEnd? "generated" s).getD s

def ColumnType.ofWritten (written : List Char) : ColumnType :=
  let own := ownType written
  let s := if 3 ≤ own.length then stripped own else own
  match standardTypes.find? (· = capital s) with
  | some name => .standard name
  | none => if s.isEmpty then .missing else .custom (nameOf s)

namespace Table

def scope (t : Table) (place : Place) : Scope :=
  ⟨place, t.name, t.columns.map (·.name), t.hasRowNumber⟩

def columnAt? (t : Table) (name : List Char) : Option Nat :=
  t.columns.findIdx? (sameName name ·.name)

def addColumn (t : Table) (name : List Char) (type : ColumnType) : Except DefinitionError Table :=
  if maxColumns ≤ t.columns.length then .error (.tooManyColumns t.name)
  else if (t.columnAt? name).isSome then .error (.duplicateColumn name)
  else .ok { t with columns := t.columns ++ [{ name, type }] }

def lastColumn? (t : Table) : Option Column :=
  t.columns.getLast?

def changeLast (t : Table) (change : Column → Column) : Table :=
  { t with columns := t.columns.modify (t.columns.length - 1) change }

def addDefault (t : Table) (e : Expr) : Except DefinitionError Table :=
  match t.lastColumn? with
  | none => .ok t
  | some c =>
    if !e.isFixed then .error (.varyingDefault c.name)
    else if c.computed?.isSome then .error .computedDefault
    else .ok (t.changeLast fun c => { c with hasDefault := true })

/-- Lets the last column be computed. The word after the expression says how. -/
def addComputed (t : Table) (e : Expr) (how? : Option (List Char)) :
    Except DefinitionError Table :=
  match t.lastColumn? with
  | none => .ok t
  | some c =>
    let isKnown := how?.all fun how =>
      sameName how "virtual".toList || sameName how "stored".toList
    if c.hasDefault || c.computed?.isSome || !isKnown then .error (.badComputed c.name)
    else if c.isKey then .error .computedKey
    else
      let e := match e.head with
        | .name _ _ => .make .operation [e]
        | _ => e
      .ok (t.changeLast fun c => { c with computed? := some e })

def addCollation (t : Table) (collation : List Char) : Table :=
  let last := t.columns.length - 1
  let part : Option Nat × List Char → Option Nat × List Char
    | (place, old) => (place, if place = some last then collation else old)
  { t.changeLast fun c => { c with collation } with
    indexes := t.indexes.map fun index => { index with parts := index.parts.map part } }

end Table

def columnMeant : Expr → Expr
  | .node (.text s) _ _ => .make (.name s (some '\'')) []
  | .node (.collate c) _ [.node (.text s) _ _] =>
    .make (.collate c) [.make (.name s (some '\'')) []]
  | e => e

namespace Table

def indexPart (t : Table) (e : Expr) : Option Nat × List Char :=
  let place? := match e.uncollated with
    | .node (.name name _) _ _ => t.columnAt? name
    | _ => none
  let own := (place?.bind fun i => t.columns[i]?).map (·.collation)
  match e with
  | .node (.collate c) _ _ => (place?, c)
  | _ => (place?, own.getD "BINARY".toList)

/-- The parts of an index by its terms. An index that belongs to the table itself is one of
columns. -/
def indexParts (t : Table) (isOwn : Bool) (terms : List SortTerm) :
    Except DefinitionError (List (Option Nat × List Char)) :=
  terms.mapM fun term => do
    let e := columnMeant term.expr
    if let some error := (t.scope .index).findings e none then throw error
    let part := t.indexPart e
    if isOwn && part.1.isNone then throw .keyExpression
    return part

def nullsError (terms : List SortTerm) : Option DefinitionError :=
  (terms.findSome? (·.nulls?)).map .nullsPlaced

def sameParts (a b : List (Option Nat × List Char)) : Bool :=
  a.length = b.length && (a.zip b).all fun (p, q) => p.1 = q.1 && sameName p.2 q.2

def nextIndexName (t : Table) : List Char :=
  "sqlite_autoindex_".toList ++ t.name ++ '_' :: (toString (t.indexes.length + 1)).toList

/-- Adds an index that the table has of itself, if there is none such yet. Two answers to the
same conflict must not differ. -/
def addOwnIndex (t : Table) (terms : List SortTerm) (answer? : Option String) (isPrimary : Bool) :
    Except DefinitionError Table := do
  if let some e := nullsError terms then throw e
  let parts ← t.indexParts true terms
  match t.indexes.find? (sameParts ·.parts parts) with
  | none =>
    return { t with indexes := t.indexes ++ [⟨t.nextIndexName, parts, answer?, isPrimary, 0⟩] }
  | some other =>
    if other.answer?.isSome && answer?.isSome && other.answer? ≠ answer? then
      throw .conflictingAnswers
    let change (index : Index) : Index :=
      if sameParts index.parts parts then
        { index with
          answer? := index.answer?.or answer?
          isPrimary := index.isPrimary || isPrimary }
      else index
    return { t with indexes := t.indexes.map change }

def lastTerm (t : Table) : List SortTerm :=
  match t.lastColumn? with
  | some c => [{ expr := .make (.name c.name none) [] }]
  | none => []

def addUniqueColumn (t : Table) (answer? : Option String) : Except DefinitionError Table :=
  t.addOwnIndex t.lastTerm answer? false

end Table

structure Key where
  terms : List SortTerm
  answer? : Option String
  countsUp : Bool
  /-- Whether it is of one column that goes downwards. -/
  isDescending : Bool := false

namespace Table

def namedColumns (t : Table) (terms : List SortTerm) : List Nat :=
  terms.filterMap fun term => match (columnMeant term.expr.uncollated) with
    | .node (.name name _) _ _ => t.columnAt? name
    | _ => none

def markKey (t : Table) (i : Nat) : Table :=
  { t with columns := t.columns.modify i fun c => { c with isKey := true } }

/-- Adds the primary key. A single column of integers that goes upwards is the number of the
row. -/
def addKey (t : Table) (k : Key) : Except DefinitionError Table := do
  if t.hasKey then throw (.severalKeys t.name)
  let t := { t with hasKey := true }
  let columns := t.namedColumns k.terms
  let isComputed := columns.any fun i => (t.columns[i]?).any (·.computed?.isSome)
  let t := columns.foldl (fun t i => t.markKey i) t
  let isInteger (i : Nat) : Bool := (t.columns[i]?).any (·.type = .standard "INTEGER")
  match k.terms, columns with
  | [_], [i] =>
    if isInteger i && !k.isDescending then
      if let some e := nullsError k.terms then throw e
      if isComputed then throw .computedKey
      return { t with numberColumn? := some i, answer? := k.answer?, countsUp := k.countsUp }
  | _, _ => pure ()
  if k.countsUp then throw .notCountable
  if isComputed then throw .computedKey
  t.addOwnIndex k.terms k.answer? true

/-- What is wrong with a reference from some columns of the table, or from the last one, to some
columns of another. -/
def referenceError (t : Table) (columns? : Option (List (List Char))) (other : List Char)
    (referenced? : Option Nat) : Option DefinitionError :=
  match columns? with
  | none =>
    if referenced?.any (· ≠ 1) then
      (t.lastColumn?).map fun c => .severalReferenced c.name other
    else none
  | some columns =>
    if referenced?.any (· ≠ columns.length) then some .referencedCount
    else (columns.find? fun c => (t.columnAt? c).isNone).map .unknownReferring

def addCheck (t : Table) (e : Expr) : Table :=
  { t with checks := t.checks ++ [e] }

def typeError (t : Table) : Option DefinitionError :=
  t.columns.findSome? fun c => match c.type with
    | .missing => some (.missingType t.name c.name)
    | .custom type => some (.unknownType t.name c.name type)
    | .standard _ => none

/-- The table without numbers of its rows, which has its primary key as an index. -/
def withoutRowNumbers (t : Table) : Except DefinitionError Table := do
  if t.countsUp then throw .nothingCounted
  if !t.hasKey then throw (.keyMissing t.name)
  let t := { t with hasRowNumber := false }
  let t ← match t.numberColumn?.bind fun i => t.columns[i]? with
    | none => pure t
    | some c => t.addOwnIndex [{ expr := .make (.name c.name none) [] }] t.answer? true
  let rooted (index : Index) : Index :=
    if index.isPrimary then { index with root := t.root } else index
  return { t with indexes := t.indexes.map rooted }

/-- What is wrong with what is checked, after something else was found wrong or not. -/
def checkFindings (t : Table) (before : Option DefinitionError) : List Expr →
    Option DefinitionError
  | [] => before
  | e :: rest =>
    match (t.scope .check).findings e before with
    | none => checkFindings t none rest
    | some error => some error

/-- What is wrong with what is computed, after something else was found wrong or not. -/
def computedFindings (t : Table) (before : Option DefinitionError) : Option DefinitionError :=
  let computed := t.columns.filterMap (·.computed?)
  let findings := computed.foldl (fun e x => (t.scope .computed).findings x e) before
  if !computed.isEmpty && computed.length = t.columns.length then some .onlyComputed else findings

/-- The table as it is defined in full, and what is wrong with it, after something else was found
wrong or not. -/
def completed (t : Table) (isStrict isRowless isReadOnly : Bool)
    (before : Option DefinitionError) : Option DefinitionError × Table :=
  match if isStrict then t.typeError else none with
  | some e => (some e, t)
  | none =>
    match if isRowless then t.withoutRowNumbers else .ok t with
    | .error e => (some e, t)
    | .ok t =>
      let checks := if isReadOnly then [] else t.checks
      (t.computedFindings (t.checkFindings before checks), t)

end Table

end SchemaAtlas.Sql.Definition
