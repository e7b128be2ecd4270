import SchemaAtlas.Sql.Definition.Operation

/-! # Reading a query

A query selects from tables or lists values, and several can be put together to one. Clauses that
hold for all of it come after the last part. Of a query only its size is kept.
-/
namespace SchemaAtlas.Sql.Definition

/-- A part of a query: how it is put to the parts before it, its size, and which clauses come
after it. -/
structure Part where
  operator : String := ""
  query : Query
  isOrdered : Bool := false
  isLimited : Bool := false
  isValues : Bool := false

def maxParts : Nat := 500

/-- What is wrong with the parts of a query, the last of which comes first. -/
def partsError : List Part → Option DefinitionError
  | next :: part :: rest =>
    if part.isOrdered then some (.clauseTooEarly "ORDER BY" next.operator)
    else if part.isLimited then some (.clauseTooEarly "LIMIT" next.operator)
    else partsError (part :: rest)
  | _ => none

def partCountError (parts : List Part) : Option DefinitionError :=
  if maxParts < parts.length && !(parts.head?.any (·.isValues)) then some .tooManyParts else none

def queryOf (parts : List Part) : Query :=
  ⟨(parts.head?.map (·.query.width)).getD 0, parts.foldl (fun n p => max n p.query.height) 0⟩

/-- Puts some parts to those before them. Where they are more than one they count as a table. -/
def putTogether (before : List Part) (operator : String) : List Part → List Part
  | [part] => { part with operator } :: before
  | parts => ⟨operator, ⟨1, (queryOf parts).height⟩, false, false, false⟩ :: before

def isJoin (words : List String) : Bool :=
  let has (names : List String) : Bool := words.any names.contains
  words.all joinWords.contains &&
    !(has ["INNER", "CROSS"] && has ["LEFT", "RIGHT", "FULL", "OUTER"]) &&
    !(has ["OUTER"] && !has ["LEFT", "RIGHT", "FULL"])

/-- What is wrong with a window that stands after others, the last of which comes first, and the
window with what it takes over. -/
def Window.after (w : Window) (others : List Window) : Option DefinitionError × Window :=
  match w.base? with
  | none => (none, w)
  | some base =>
    match others.find? (sameName base ·.name) with
    | none => (some (.missingWindow base), w)
    | some other => match w.overrides? other with
      | some part => (some (.overriddenWindow part base), w)
      | none => (none, { w with base? := none, isOrdered := w.isOrdered || other.isOrdered })

namespace Grammar

open Reader

def givenName : Reader Unit := do
  if ← acceptWord "AS" then
    let _ ← name
  else
    let _ ← accept Lexeme.isAlias

def resultColumn (g : Grammar) : Reader Expr := do
  let isAllOf : Bool := match (← get).lexemes with
    | t :: point :: star :: _ => isOwnName t && point.isMark "." && star.isMark "*"
    | _ => false
  if isAllOf then
    let _ ← pass
    expectMark "."
    expectMark "*"
    return .make .operation []
  else if ← acceptMark "*" then return .make .operation []
  else
    let e ← g.anyExpr
    givenName
    return e

def joinOperator : Reader Bool := do
  if ← acceptMark "," then return true
  let t ← peek
  if t.is "JOIN" then
    let _ ← pass
    return true
  else if t.isOneOf joinWords then
    let first ← pass
    let second ← if (← peek).is "JOIN" then pure [] else pure [← name]
    let third ← if second.isEmpty || (← peek).is "JOIN" then pure [] else pure [← name]
    expectWords ["JOIN"]
    let words := first :: second ++ third
    if !isJoin (words.map (capital ·.written)) then
      complain (.unknownJoin (List.intercalate [' '] (words.map (·.written))))
    return true
  else return false

def indexChoice : Reader Unit := do
  if ← acceptWord "INDEXED" then
    expectWords ["BY"]
    let _ ← name
  else if ← acceptWord "NOT" then expectWords ["INDEXED"]

/-- Reads on what a table is joined. The first one is not. -/
def joinCondition (g : Grammar) (isFirst : Bool) : Reader Unit := do
  if ← acceptWord "ON" then
    let _ ← g.anyExpr
    if isFirst then complain (.joinNeeded "ON")
  else if ← acceptWord "USING" then
    let _ ← inBrackets names
    if isFirst then complain (.joinNeeded "USING")

def source (g : Grammar) (isFirst : Bool) : Reader Unit := do
  if ← acceptMark "(" then
    if (← peek).beginsQuery then
      let _ ← g.query
    else g.sources
    expectMark ")"
    givenName
  else
    tableName
    if ← acceptMark "(" then
      let _ ← g.exprsInside
      givenName
    else
      givenName
      indexChoice
  g.joinCondition isFirst

def readSources (g : Grammar) : Reader Unit := do
  g.source true
  repeatFrom () fun _ => do
    if ← joinOperator then some <$> g.source false else return none

def windows (g : Grammar) : Reader Unit := do
  let one : Reader Window := do
    let name ← name
    expectWords ["AS"]
    return { (← inBrackets g.window) with name := name.written }
  let first ← one
  let _ ← repeatFrom [first] fun others => do
    if ← acceptMark "," then
      let (e, w) := (← one).after others
      complainOf e
      return some (w :: others)
    else return none

def limit? (g : Grammar) : Reader (Option Expr) :=
  after? "LIMIT" do
    let e ← g.anyExpr
    if ← accept fun t => t.is "OFFSET" || t.isMark "," then
      return .make .operation [e, ← g.anyExpr]
    else return .make .operation [e]

def selection (g : Grammar) : Reader Part := do
  let _ ← accept (·.isOneOf ["DISTINCT", "ALL"])
  let columns ← commaSeparated g.resultColumn
  let _ ← after? "FROM" g.readSources
  let condition? ← after? "WHERE" g.anyExpr
  let groups? ← after? "GROUP" do
    expectWords ["BY"]
    g.exprs
  let having? ← after? "HAVING" g.anyExpr
  let _ ← after? "WINDOW" g.windows
  let order? ← g.order?
  let limit? ← g.limit?
  let terms := (order?.getD []).map (·.expr)
  let inside := columns ++ condition?.toList ++ groups?.getD [] ++ having?.toList ++ terms ++
    limit?.toList
  return ⟨"", ⟨columns.length, Expr.maxHeight inside⟩, order?.isSome, limit?.isSome, false⟩

def values (g : Grammar) : Reader (List Part) := do
  let rows ← commaSeparated (inBrackets g.exprs)
  return rows.reverse.map fun row =>
    ⟨"UNION ALL", ⟨row.length, Expr.maxHeight row⟩, false, false, true⟩

def parts (g : Grammar) : Reader (List Part) := do
  if (← expectOneOf ["SELECT", "VALUES"]) = "SELECT" then return [← g.selection]
  else g.values

def setOperator? : Reader (Option String) := do
  let t ← peek
  if !t.isOneOf ["UNION", "EXCEPT", "INTERSECT"] then return none
  let word := capital (← pass).written
  if word = "UNION" then
    if ← acceptWord "ALL" then return some "UNION ALL"
  return some word

def commonTables (g : Grammar) : Reader Unit := do
  let one (others : List (List Char)) : Reader (List (List Char)) := do
    let name := (← name).name
    let _ ← columnNames?
    expectWords ["AS"]
    if ← acceptWord "NOT" then expectWords ["MATERIALIZED"]
    else
      let _ ← acceptWord "MATERIALIZED"
    let _ ← inBrackets g.query
    if others.any (sameName name) then complain (.duplicateCommon name)
    return name :: others
  let first ← one []
  let _ ← repeatFrom first fun others => do
    if ← acceptMark "," then some <$> one others else return none

def readQuery (g : Grammar) : Reader Query := do
  if ← acceptWord "WITH" then
    let _ ← acceptWord "RECURSIVE"
    g.commonTables
  let all ← repeatFrom (← g.parts) fun before => do
    match ← setOperator? with
    | some operator => return some (putTogether before operator (← g.parts))
    | none => return none
  complainOf (partsError all)
  complainOf (partCountError all)
  return queryOf all

def ofDepth : Nat → Grammar
  | 0 => ⟨fun _ _ => refuse, refuse, refuse⟩
  | depth + 1 => {
      expr := fun least isLow => (ofDepth depth).readExpr least isLow
      query := fun p => (ofDepth depth).readQuery p
      sources := fun p => (ofDepth depth).readSources p }

end Grammar

end SchemaAtlas.Sql.Definition
