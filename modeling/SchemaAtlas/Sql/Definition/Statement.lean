import SchemaAtlas.Sql.Definition.Columns
import SchemaAtlas.Sql.Definition.Trigger

/-! # Definitions

A definition makes a table, a view, an index or a trigger. It has to be that of its entry in the
list of contents, and what it makes must be new.
-/
namespace SchemaAtlas.Sql.Definition

structure Catalogue where
  tables : List Table
  triggers : List (List Char) := []

structure Listing where
  type : Option (List Char)
  name : Option (List Char)
  table : Option (List Char)
  root : Nat

namespace Catalogue

def contents : Table :=
  let column (name type : String) : Column := ⟨name.toList, .ofWritten type.toList, [], none,
    false, false⟩
  { name := "sqlite_master".toList
    root := 1
    columns := [column "type" "text", column "name" "text", column "tbl_name" "text",
      column "rootpage" "int", column "sql" "text"] }

def otherContentsName : List Char := "sqlite_schema".toList

def initial : Catalogue := ⟨[contents], []⟩

def table? (k : Catalogue) (name : List Char) : Option Table :=
  let name := if sameName name otherContentsName then contents.name else name
  k.tables.find? (sameName name ·.name)

def hasIndex (k : Catalogue) (name : List Char) : Bool :=
  k.tables.any fun t => t.indexes.any (sameName name ·.name)

def addTable (k : Catalogue) (t : Table) : Catalogue :=
  { k with tables := k.tables ++ [t] }

def changeTable (k : Catalogue) (name : List Char) (change : Table → Table) : Catalogue :=
  { k with tables := k.tables.map fun t => if sameName name t.name then change t else t }

end Catalogue

def Listing.fits (l : Listing) (kind : String) (name table : List Char) : Bool :=
  l.type.any (sameName kind.toList) && l.name.any (sameName name) && l.table.any (sameName table)

/-- The name of what is defined: that of its database, the name itself, and whether there may be
such a thing already. -/
structure NewName where
  database? : Option Lexeme
  written : Lexeme
  mayExist : Bool

def NewName.name (n : NewName) : List Char := n.written.name

/-- What a definition is read against: what is known, its entry, and whether the file can only be
read. -/
structure Context where
  known : Catalogue
  listing : Listing
  isReadOnly : Bool

namespace Context

open Reader

def newName : Reader NewName := do
  let mayExist ← acceptWord "IF"
  if mayExist then expectWords ["NOT", "EXISTS"]
  let (database?, written) ← qualifiedName
  return ⟨database?, written, mayExist⟩

/-- A new table, or what is wrong with its name. Nothing is defined where there may be one. -/
def newTable (c : Context) (kind : TableKind) (n : NewName) : Except DefinitionError Draft := do
  let isContents := c.listing.root = 1
  if n.database?.isSome && !isContents then throw .qualified
  let name := if isContents then Catalogue.contents.name else n.name
  if !c.listing.fits (if kind = .view then "view" else "table") name name then throw .mismatch
  match c.known.table? name with
  | some other =>
    if n.mayExist then return none
    let written := if isContents then (n.database?.getD n.written).written else n.written.written
    throw (.taken (if other.kind = .view then "view" else "table") written)
  | none =>
    if c.known.hasIndex name then throw (.indexNamed name)
    return some { kind, name, root := c.listing.root }

/-- A new table. What is wrong with its name is a complaint. -/
def draft (c : Context) (kind : TableKind) (n : NewName) : Reader Draft :=
  match c.newTable kind n with
  | .ok d => return d
  | .error e => do
    complain e
    return none

def withDraft (c : Context) (d : Draft) : Catalogue :=
  (d.map c.known.addTable).getD c.known

/-- Reads an option of a table: whether it is strict, and whether its rows have no numbers. -/
def tableOption : Reader (Bool × Bool) := do
  let isWithout ← acceptWord "WITHOUT"
  let option := (← name).written
  if sameName option (if isWithout then "rowid" else "strict").toList then
    return (!isWithout, isWithout)
  else
    complain (.unknownOption option)
    return (false, false)

def tableOptions : Reader (Bool × Bool) := do
  let first ← if (← peek).isName then tableOption else pure (false, false)
  repeatFrom first fun (isStrict, isRowless) => do
    if ← acceptMark "," then
      let (a, b) ← tableOption
      return some (isStrict || a, isRowless || b)
    else return none

def table (c : Context) (g : Grammar) : Reader Catalogue := do
  let n ← newName
  let d ← c.draft .table n
  if ← acceptWord "AS" then
    let _ ← g.query
    if d.isSome then complain .mismatch
    return c.known
  let d ← inBrackets (d.body g)
  let (isStrict, isRowless) ← tableOptions
  match d with
  | none => return c.known
  | some t =>
    let (e, t) := t.completed isStrict isRowless c.isReadOnly (← get).complaint
    complainOf e
    return c.known.addTable t

def virtualTable (c : Context) : Reader Catalogue := do
  expectWords ["TABLE"]
  let n ← newName
  expectWords ["USING"]
  let _ ← name
  let d ← c.draft .virtual n
  if ← acceptMark "(" then
    let _ ← repeatFrom 1 fun depth => do
      if depth = 0 then return none
      let t ← expect (·.kind ≠ .finish)
      if t.isMark "(" then return some (depth + 1)
      else if t.isMark ")" then return some (depth - 1)
      else return some depth
  return c.withDraft d

def checkDatabases (kind : String) (name : List Char) : Reader Unit := do
  let databases := (← get).databases.reverse
  complainOf <| (databases.find? fun d => !sameName d mainDatabase).map fun d =>
    .foreignDatabase kind name d

def view (c : Context) (g : Grammar) : Reader Catalogue := do
  let n ← newName
  let _ ← columnNames?
  expectWords ["AS"]
  let _ ← g.query
  if (← get).hasParameter then
    complain .parameterInView
    return c.known
  let d ← c.draft .view n
  if d.isNone || (← isComplaining) then return c.known
  checkDatabases "view" n.written.written
  if !(← isComplaining) && c.listing.root ≠ 0 then complain .mismatch
  return c.withDraft d

/-- An index that is defined: its table, its terms, and which rows it is of. -/
structure NewIndex where
  name : NewName
  table : List Char
  terms : List SortTerm
  condition? : Option Expr

def withIndex (c : Context) (n : NewIndex) : Except DefinitionError Catalogue := do
  if let some e := Table.nullsError n.terms then throw e
  if n.name.database?.isSome then throw .qualified
  match c.known.table? n.table with
  | none => throw (.missingTable n.table)
  | some t =>
    if t.kind = .view then throw (.notIndexable "views")
    if t.kind = .virtual then throw (.notIndexable "virtual tables")
    if !c.listing.fits "index" n.name.name t.name then throw .mismatch
    if c.known.hasIndex n.name.name then
      if n.name.mayExist then return c.known else throw (.taken "index" n.name.name)
    let terms := n.terms.map (columnMeant ·.expr)
    if let some e := n.condition?.bind fun e => (t.scope .partialIndex).findings e none then
      throw ((terms.head?.bind fun term => (t.scope .index).findings term (some e)).getD e)
    let parts ← t.indexParts false n.terms
    if t.indexes.any (·.root = c.listing.root) then throw .badRoot
    let index : Index := { name := n.name.name, parts, root := c.listing.root }
    return c.known.changeTable t.name fun t => { t with indexes := t.indexes ++ [index] }

def indexHead : Reader (NewName × List Char) := do
  let n ← newName
  expectWords ["ON"]
  return (n, (← name).name)

def index (c : Context) (g : Grammar) : Reader Catalogue := do
  let (n, table) ← indexHead
  let terms ← inBrackets g.sortTerms
  let condition? ← after? "WHERE" g.anyExpr
  if ← isComplaining then return c.known
  match c.withIndex ⟨n, table, terms, condition?⟩ with
  | .ok k => return k
  | .error e => do
    complain e
    return c.known

/-- What is wrong with a trigger of a name at some time on a table. Nothing is defined where there
may be one. -/
def newTrigger (c : Context) (n : NewName) (time : String) (table : List Char) :
    Except DefinitionError (Option (List Char)) := do
  if n.database?.isSome then throw .qualified
  match c.known.table? table with
  | none => throw (.missingTable table)
  | some t =>
    if t.kind = .virtual then throw .triggerOnVirtual
    if !c.listing.fits "trigger" n.name t.name then throw .mismatch
    if c.known.triggers.any (sameName n.name) then
      if n.mayExist then return none else throw (.taken "trigger" n.written.written)
    if sameName (t.name.take 7) "sqlite_".toList then throw .triggerOnSystem
    if t.kind = .view && time ≠ "INSTEAD OF" then throw (.triggerTime time "view" table)
    if t.kind ≠ .view && time = "INSTEAD OF" then throw (.triggerTime time "table" table)
    return some n.name

def triggerTime : Reader String := do
  if ← acceptWord "INSTEAD" then
    expectWords ["OF"]
    return "INSTEAD OF"
  else if ← acceptWord "AFTER" then return "AFTER"
  else
    let _ ← acceptWord "BEFORE"
    return "BEFORE"

def triggerHead : Reader (NewName × String × List Char) := do
  let n ← newName
  let time ← triggerTime
  if (← expectOneOf ["DELETE", "INSERT", "UPDATE"]) = "UPDATE" then
    let _ ← after? "OF" names
  expectWords ["ON"]
  return (n, time, (← qualifiedName).2.name)

def trigger (c : Context) (g : Grammar) : Reader Catalogue := do
  let (n, time, table) ← triggerHead
  if ← acceptWord "FOR" then expectWords ["EACH", "ROW"]
  let _ ← after? "WHEN" g.anyExpr
  let name? ← match c.newTrigger n time table with
    | .ok name? => pure name?
    | .error e => do
      complain e
      pure none
  expectWords ["BEGIN"]
  g.actions
  match name? with
  | none => return c.known
  | some name =>
    checkDatabases "trigger" name
    return { c.known with triggers := name :: c.known.triggers }

def definition (c : Context) : Reader Catalogue := do
  expectWords ["CREATE"]
  let g := Grammar.ofDepth (← left)
  let isTemporary ← accept (·.isOneOf ["TEMP", "TEMPORARY"])
  let kinds := ["TABLE", "VIEW", "TRIGGER"] ++
    if isTemporary then [] else ["VIRTUAL", "UNIQUE", "INDEX"]
  let known ← match ← expectOneOf kinds with
    | "TABLE" => c.table g
    | "VIEW" => c.view g
    | "TRIGGER" => c.trigger g
    | "VIRTUAL" => c.virtualTable
    | "UNIQUE" => do
      expectWords ["INDEX"]
      c.index g
    | _ => c.index g
  if (← peek).kind ≠ .separator then refuse
  if let some e := (← get).complaint then throw e
  return known

/-- Reads up to the name of the table for which an index or a trigger is defined. -/
def owner : Reader (List Char) := do
  expectWords ["CREATE"]
  match ← expectOneOf ["UNIQUE", "INDEX", "TRIGGER"] with
  | "TRIGGER" => return (← triggerHead).2.2
  | "UNIQUE" => do
    expectWords ["INDEX"]
    return (← indexHead).2
  | _ => return (← indexHead).2

def read (c : Context) (s : List Char) : Except DefinitionError Catalogue :=
  c.definition.run' ⟨lexemes s, none, false, []⟩

def ownerOf? (s : List Char) : Option (List Char) :=
  (owner.run' ⟨lexemes s, none, false, []⟩).toOption

end Context

end SchemaAtlas.Sql.Definition
