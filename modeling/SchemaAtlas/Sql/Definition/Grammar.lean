import SchemaAtlas.Sql.Definition.Expr
import SchemaAtlas.Sql.Definition.Reader

/-! # Parts of a definition that hold others

What is nested in brackets is read by a grammar one level below. Here are the parts that
expressions and queries share: types, lists of expressions, orders, and windows.
-/
namespace SchemaAtlas.Sql.Definition

/-- How what is nested is read: an expression whose operators bind at least so tightly, where a
low one ends at a conjunction; a query; and the tables of a query. -/
structure Grammar where
  expr : (least : Nat) → (isLow : Bool) → Reader Expr
  query : Reader Query
  sources : Reader Unit

/-- What is said of a window: its name and the one that it goes on with, as they are written, and
which of its parts are given. -/
structure Window where
  name : List Char := []
  base? : Option (List Char) := none
  isPartitioned : Bool := false
  isOrdered : Bool := false
  isFramed : Bool := false

inductive Bound where
  | unbounded
  | preceding
  | current
  | following
  deriving DecidableEq, Repr

def Bound.mayEnd (first last : Bound) : Bool :=
  !(first = .current && last = .preceding ||
    first = .following && (last = .preceding || last = .current))

def Lexeme.beginsQuery (t : Lexeme) : Bool :=
  t.isOneOf ["SELECT", "VALUES", "WITH"]

namespace Reader

def bounded (e : Expr) : Reader Expr := do
  if DefinitionError.maxDepth < e.height then complain .tooDeep
  return e

def node (h : Expr.Head) (children : List Expr) : Reader Expr :=
  bounded (.make h children)

def signed : Reader (List Lexeme) := do
  let t ← peek
  let sign ← if t.isMark "+" || t.isMark "-" then pure [← pass] else pure []
  return sign ++ [← expect fun t => t.kind = .integer || t.kind = .real]

def typeSize : Reader (List Lexeme) := do
  let opened ← pass
  let first ← signed
  let second ← if (← peek).isMark "," then pure ((← pass) :: (← signed)) else pure []
  return opened :: first ++ second ++ [← expect (·.isMark ")")]

/-- Passes the words of a type and the size after them. What is written is answered. -/
def typeName : Reader (List Char) := do
  let words ← repeatFrom [] fun read => do
    if (← peek).isAlias then return some ((← pass) :: read) else return none
  let size ← if !words.isEmpty && (← peek).isMark "(" then typeSize else pure []
  match words.reverse ++ size with
  | [] => return []
  | t :: rest => return t.written ++ rest.flatMap fun t => t.gap ++ t.written

def direction : Reader Bool := do
  if ← acceptWord "DESC" then return true
  let _ ← acceptWord "ASC"
  return false

def columnNames? : Reader (Option (List Lexeme)) := do
  if !(← peek).isMark "(" then return none
  some <$> inBrackets (commaSeparated do
    let name ← name
    if ← acceptWord "COLLATE" then
      let _ ← expect Lexeme.isAlias
    let _ ← direction
    return name)

end Reader

namespace Grammar

open Reader

def anyExpr (g : Grammar) : Reader Expr :=
  g.expr 0 false

def exprs (g : Grammar) : Reader (List Expr) :=
  commaSeparated g.anyExpr

def exprsInside (g : Grammar) : Reader (List Expr) := do
  let items ← if (← peek).isMark ")" then pure [] else g.exprs
  expectMark ")"
  return items

def sortTerms (g : Grammar) : Reader (List SortTerm) :=
  commaSeparated do
    let expr ← g.anyExpr
    let isDescending ← direction
    let nulls? ← after? "NULLS" (expectOneOf ["FIRST", "LAST"])
    return { expr, isDescending, nulls? }

def order? (g : Grammar) : Reader (Option (List SortTerm)) :=
  after? "ORDER" do
    expectWords ["BY"]
    g.sortTerms

/-- Reads what begins or ends a frame; at an end that is not given it is open in a direction. -/
def bound (g : Grammar) (openEnd : String) : Reader Bound := do
  if ← acceptWord "UNBOUNDED" then
    expectWords [openEnd]
    return .unbounded
  else if ← acceptWord "CURRENT" then
    expectWords ["ROW"]
    return .current
  else
    let _ ← g.anyExpr
    return if (← expectOneOf ["PRECEDING", "FOLLOWING"]) = "PRECEDING" then .preceding
      else .following

def exclusion : Reader Unit := do
  if ← acceptWord "EXCLUDE" then
    match ← expectOneOf ["NO", "CURRENT", "GROUP", "TIES"] with
    | "NO" => expectWords ["OTHERS"]
    | "CURRENT" => expectWords ["ROW"]
    | _ => return ()

def frameWords : List String := ["RANGE", "ROWS", "GROUPS"]

def frame (g : Grammar) : Reader Bool := do
  if !(← accept (·.isOneOf frameWords)) then return false
  let (first, last) ← do
    if ← acceptWord "BETWEEN" then
      let first ← g.bound "PRECEDING"
      expectWords ["AND"]
      pure (first, ← g.bound "FOLLOWING")
    else pure (← g.bound "PRECEDING", .current)
  exclusion
  if !first.mayEnd last then complain .unsupportedFrame
  return true

def window (g : Grammar) : Reader Window := do
  let t ← peek
  let base? ← if t.isName && !t.isOneOf ("PARTITION" :: frameWords) then
      some <$> Lexeme.written <$> pass
    else pure none
  let partition? ← after? "PARTITION" do
    expectWords ["BY"]
    g.exprs
  let order? ← g.order?
  let isFramed ← g.frame
  return ⟨[], base?, partition?.isSome, order?.isSome, isFramed⟩

end Grammar

def Window.overrides? (w base : Window) : Option String :=
  if w.isPartitioned then some "PARTITION clause"
  else if base.isOrdered && w.isOrdered then some "ORDER BY clause"
  else if base.isFramed then some "frame specification"
  else none

end SchemaAtlas.Sql.Definition
