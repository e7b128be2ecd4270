import SchemaAtlas.Sql.Definition.Operation
import SchemaAtlas.Sql.Definition.Table

/-! # Reading the columns of a table

A table is defined by its columns, each with a type and constraints, then constraints of the
table, and options after the bracket. Where there is no table to define, for there is one of that
name already, everything is only read.
-/
namespace SchemaAtlas.Sql.Definition

abbrev Draft := Option Table

namespace Draft

open Reader

/-- Does a step of the definition; what is wrong with it is a complaint. -/
def step (d : Draft) (change : Table → Except DefinitionError Table) : Reader Draft :=
  match d with
  | none => return none
  | some t => match change t with
    | .ok t => return some t
    | .error e => do
      complain e
      return some t

def answer? : Reader (Option String) :=
  after? "ON" do
    expectWords ["CONFLICT"]
    expectOneOf ["ROLLBACK", "ABORT", "FAIL", "IGNORE", "REPLACE"]

def referenceActions : Reader Unit :=
  repeatFrom () fun _ => do
    if ← acceptWord "MATCH" then
      let _ ← name
      return some ()
    else if ← acceptWord "ON" then
      let _ ← expectOneOf ["INSERT", "DELETE", "UPDATE"]
      match ← expectOneOf ["SET", "CASCADE", "RESTRICT", "NO"] with
      | "SET" =>
        let _ ← expectOneOf ["NULL", "DEFAULT"]
        return some ()
      | "NO" => some <$> expectWords ["ACTION"]
      | _ => return some ()
    else return none

def referenced : Reader (List Char × Option Nat) := do
  let other ← name
  let columns? ← columnNames?
  referenceActions
  return (other.written, columns?.map (·.length))

def refer (d : Draft) (columns? : Option (List (List Char)))
    (referenced : List Char × Option Nat) : Reader Unit :=
  complainOf (d.bind fun t => t.referenceError columns? referenced.1 referenced.2)

/-- Passes when a constraint is checked, after the word that says that it can wait. -/
def deferral : Reader Unit := do
  if ← acceptWord "INITIALLY" then
    let _ ← expectOneOf ["DEFERRED", "IMMEDIATE"]

def default (g : Grammar) (d : Draft) : Reader Draft := do
  let t ← peek
  if t.isMark "(" then
    let e ← inBrackets g.anyExpr
    d.step (·.addDefault e)
  else
    let isSigned ← accept fun t => t.isMark "+" || t.isMark "-"
    let t ← peek
    let isLiteral := t.kind = .integer || t.kind = .real || t.kind = .blob || t.kind = .text ||
      t.is "NULL" || t.isOneOf timeWords
    let isWord := t.isIdentifier && !t.isJoinWord
    if !isLiteral && (isSigned || !isWord) then refuse
    let _ ← pass
    d.step (·.addDefault (.make .blob []))

def computed (g : Grammar) (d : Draft) : Reader Draft := do
  let e ← inBrackets g.anyExpr
  let t ← peek
  let isWord := t.isAlias && t.kind ≠ .text
  let how? ← if isWord then some <$> Lexeme.written <$> pass else pure none
  d.step (·.addComputed e how?)

def columnKey (d : Draft) : Reader Draft := do
  expectWords ["KEY"]
  let isDescending ← direction
  let answer? ← answer?
  let countsUp ← acceptWord "AUTOINCREMENT"
  d.step fun t => t.addKey ⟨t.lastTerm, answer?, countsUp, isDescending⟩

def columnConstraint? (g : Grammar) (d : Draft) : Reader (Option Draft) := do
  let t ← peek
  if !t.isOneOf ["CONSTRAINT", "DEFAULT", "NULL", "NOT", "PRIMARY", "UNIQUE", "CHECK",
      "REFERENCES", "COLLATE", "GENERATED", "AS", "DEFERRABLE"] then return none
  let _ ← pass
  match capital t.written with
  | "CONSTRAINT" =>
    let _ ← name
    return some d
  | "DEFAULT" => some <$> d.default g
  | "NULL" =>
    let _ ← answer?
    return some d
  | "NOT" =>
    if ← acceptWord "DEFERRABLE" then deferral
    else
      expectWords ["NULL"]
      let _ ← answer?
    return some d
  | "DEFERRABLE" =>
    deferral
    return some d
  | "PRIMARY" => some <$> d.columnKey
  | "UNIQUE" =>
    let answer? ← answer?
    some <$> d.step (·.addUniqueColumn answer?)
  | "CHECK" =>
    let e ← inBrackets g.anyExpr
    some <$> d.step fun t => .ok (t.addCheck e)
  | "REFERENCES" =>
    d.refer none (← referenced)
    return some d
  | "COLLATE" =>
    let collation ← expect Lexeme.isAlias
    some <$> d.step fun t => .ok (t.addCollation collation.name)
  | "GENERATED" =>
    expectWords ["ALWAYS", "AS"]
    some <$> d.computed g
  | _ => some <$> d.computed g

def column (g : Grammar) (d : Draft) : Reader Draft := do
  let name ← name
  let type ← typeName
  let d ← d.step (·.addColumn name.name (.ofWritten type))
  repeatFrom d fun d => d.columnConstraint? g

def constraintWords : List String := ["CONSTRAINT", "PRIMARY", "UNIQUE", "CHECK", "FOREIGN"]

def tableConstraint (g : Grammar) (d : Draft) : Reader Draft := do
  match ← expectOneOf constraintWords with
  | "CONSTRAINT" =>
    let _ ← name
    return d
  | "PRIMARY" =>
    expectWords ["KEY"]
    let (terms, countsUp) ← inBrackets do
      let terms ← g.sortTerms
      return (terms, ← acceptWord "AUTOINCREMENT")
    let answer? ← answer?
    d.step (·.addKey { terms, answer?, countsUp })
  | "UNIQUE" =>
    let terms ← inBrackets g.sortTerms
    let answer? ← answer?
    d.step (·.addOwnIndex terms answer? false)
  | "CHECK" =>
    let e ← inBrackets g.anyExpr
    let _ ← answer?
    d.step fun t => .ok (t.addCheck e)
  | _ =>
    expectWords ["KEY"]
    let columns ← columnNames?
    if columns.isNone then refuse
    expectWords ["REFERENCES"]
    let referenced ← referenced
    if ← acceptWord "NOT" then
      expectWords ["DEFERRABLE"]
      deferral
    else if ← acceptWord "DEFERRABLE" then deferral
    d.refer (columns.map fun names => names.map (·.name)) referenced
    return d

/-- Reads the columns of a table, then its constraints, up to the bracket that ends them. -/
def body (g : Grammar) (d : Draft) : Reader Draft := do
  let first ← d.column g
  let (d, isBracket) ← repeatFrom (first, false) fun (d, isDone) => do
    if isDone then return none
    if !(← acceptMark ",") then return none
    if (← peek).isOneOf constraintWords then return some (d, true)
    else return some (← d.column g, false)
  if !isBracket then return d
  let d ← d.tableConstraint g
  repeatFrom d fun d => do
    if (← acceptMark ",") || (← peek).isOneOf constraintWords then
      some <$> d.tableConstraint g
    else return none

end Draft

end SchemaAtlas.Sql.Definition
