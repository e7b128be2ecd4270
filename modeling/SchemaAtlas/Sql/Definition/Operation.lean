import SchemaAtlas.Sql.Definition.Grammar

/-! # Reading an expression

An expression is an operand and what operators make of it. Operators have levels; one of a higher
level binds more tightly, and those of one level go from left to right.
-/
namespace SchemaAtlas.Sql.Definition

namespace Level

def conjunction : Nat := 1

/-- The level of equality and of the operators that ask something of a value. -/
def equality : Nat := 3

def collation : Nat := 10

def top : Nat := 11

end Level

inductive Operator where
  | both
  | head (h : Expr.Head)
  /-- A function of both operands. -/
  | function (name : List Char)

def Operator.apply (left right : Expr) : Operator → Expr
  | .both => .both left right
  | .head h => .make h [left, right]
  | .function name => .make (.call name 2 false false) [left, right]

def markLevels : List (List String × Nat × Expr.Head) :=
  [(["=", "==", "!=", "<>"], 3, .compare), (["<", "<=", ">", ">="], 4, .compare),
    (["&", "|", "<<", ">>"], 6, .operation), (["+", "-"], 7, .operation),
    (["*", "/", "%"], 8, .operation), (["||"], 9, .operation)]

def operator? (t : Lexeme) : Option (Nat × Operator) :=
  if t.is "OR" then some (0, .head .operation)
  else if t.is "AND" then some (Level.conjunction, .both)
  else if t.isMark "->" || t.isMark "->>" then some (9, .function t.written)
  else (markLevels.find? fun (marks, _) => marks.any t.isMark).map fun (_, level, head) =>
    (level, .head head)

def likeWords : List String := ["LIKE", "GLOB", "REGEXP", "MATCH"]

def timeWords : List String := ["CURRENT_DATE", "CURRENT_TIME", "CURRENT_TIMESTAMP"]

def maxArguments : Nat := 127

def isZero (written : List Char) : Bool :=
  written.all fun c => c = '0' || c = 'x' || c = 'X'

namespace Grammar

open Reader

/-- What is wrong with a parameter: its number, or that it is none of the definition's own. -/
def parameterError (written : List Char) : Option DefinitionError :=
  match written with
  | '?' :: digits =>
    let n := digits.foldl (fun n c => 10 * n + (c.toNat - '0'.toNat)) 0
    if !digits.isEmpty && (n = 0 || DefinitionError.maxParameter < n) then some .parameterNumber
    else none
  | '#' :: c :: _ => if c.isDigit then some (.misplaced written) else none
  | _ => none

def parameter : Reader Expr := do
  match parameterError (← pass).written with
  | some e => complain e
  | none => modify fun p => { p with hasParameter := true }
  return .make .parameter []

def choice (g : Grammar) : Reader Expr := do
  let chosen ← if (← peek).is "WHEN" then pure [] else pure [← g.anyExpr]
  let case : Reader (List Expr) := do
    expectWords ["WHEN"]
    let condition ← g.anyExpr
    expectWords ["THEN"]
    return [condition, ← g.anyExpr]
  let first ← case
  let cases ← repeatFrom first fun read => do
    if (← peek).is "WHEN" then return some (read ++ (← case)) else return none
  let otherwise ← after? "ELSE" g.anyExpr
  expectWords ["END"]
  node .operation (chosen ++ cases ++ otherwise.toList)

def conversion (g : Grammar) : Reader Expr :=
  inBrackets do
    let e ← g.anyExpr
    expectWords ["AS"]
    let _ ← typeName
    return .make .operation [e]

def raising : Reader Expr :=
  inBrackets do
    if (← expectOneOf ["IGNORE", "ROLLBACK", "ABORT", "FAIL"]) ≠ "IGNORE" then
      expectMark ","
      let _ ← name
    return .make .raise []

/-- Reads what follows the arguments of a function, and tells whether rows are filtered and
whether there is a window. -/
def filterAndWindow (g : Grammar) : Reader (Bool × Bool) := do
  let filter? ← after? "FILTER" <| inBrackets do
    expectWords ["WHERE"]
    g.anyExpr
  let window? ← after? "OVER" do
    if (← peek).isMark "(" then
      let _ ← inBrackets g.window
    else
      let _ ← name
  return (filter?.isSome, window?.isSome)

def callOf (f : Lexeme) (arguments : List Expr) (isDistinct isFiltered isWindow : Bool) :
    Reader Expr := do
  if maxArguments < arguments.length then complain (.tooManyArguments f.written)
  if isDistinct && isWindow then complain .distinctWindow
  node (.call f.name arguments.length isWindow isFiltered) arguments

def call (g : Grammar) (f : Lexeme) : Reader Expr := do
  expectMark "("
  if ← acceptMark "*" then
    expectMark ")"
    let (isFiltered, isWindow) ← g.filterAndWindow
    callOf f [] false isFiltered isWindow
  else
    let isDistinct ← acceptWord "DISTINCT"
    if !isDistinct then
      let _ ← acceptWord "ALL"
    let arguments ← g.exprsInside
    let (isFiltered, isWindow) ← g.filterAndWindow
    callOf f arguments isDistinct isFiltered isWindow

def named (g : Grammar) : Reader Expr := do
  let t ← pass
  let next ← peek
  if next.isMark "." then
    let _ ← pass
    let second ← name
    if ← acceptMark "." then
      node (.path [t.name, second.name, (← name).name]) []
    else node (.path [t.name, second.name]) []
  else if next.isMark "(" && t.isIdentifier && !t.isJoinWord then g.call t
  else if t.kind = .text then return .make (.text t.name) []
  else
    let quotation := if t.kind = .quoted then t.written.head? else none
    return .make (.name t.name quotation) []

def bracketed (g : Grammar) : Reader Expr := do
  let _ ← pass
  if (← peek).beginsQuery then
    let q ← g.query
    expectMark ")"
    node (.query q) []
  else
    let items ← g.exprs
    expectMark ")"
    match items with
    | [e] => return e
    | _ => return .make .row items

def special (g : Grammar) (word : String) : Reader Expr := do
  match word with
  | "NOT" => node .not [← g.expr Level.equality false]
  | "NULL" => return .make .null []
  | "CAST" => g.conversion
  | "RAISE" => raising
  | "CASE" => g.choice
  | _ => node (.nonempty (← inBrackets g.query)) []

def specialWords : List String := ["NOT", "NULL", "CAST", "RAISE", "CASE", "EXISTS"]

def isOwnName (t : Lexeme) : Bool :=
  t.isName && !t.isOneOf (specialWords ++ timeWords)

def operand (g : Grammar) : Reader Expr := do
  let t ← peek
  match t.kind with
  | .integer => return .make (.integer (isZero (← pass).written)) []
  | .real => return .make (.real (← pass).written) []
  | .blob =>
    let _ ← pass
    return .make .blob []
  | .parameter => parameter
  | _ =>
    if t.isMark "(" then g.bracketed
    else if ["~", "+", "-"].any t.isMark then
      let _ ← pass
      node .operation [← g.expr Level.top false]
    else if t.isOneOf specialWords then g.special (capital (← pass).written)
    else if t.isOneOf timeWords then callOf (← pass) [] false false false
    else if t.isName then g.named
    else refuse

/-- Reads what a value is compared with, after the word for being the same. -/
def comparison (g : Grammar) (left : Expr) : Reader Expr := do
  let _ ← acceptWord "NOT"
  if ← acceptWord "DISTINCT" then expectWords ["FROM"]
  let right ← g.expr (Level.equality + 1) false
  if right.head = .null then node .isNull [left] else node .is [left, right]

/-- Reads what a value is looked for in, after the word for that. -/
def membership (g : Grammar) (left : Expr) (negated : Bool) : Reader Expr := do
  if ← acceptMark "(" then
    if (← peek).beginsQuery then
      let q ← g.query
      expectMark ")"
      bounded (.negatedIf negated (.make (.memberOf q) [left]))
    else
      let items ← g.exprsInside
      if left.head = .row then
        if let some item := items.find? (rowWidth · ≠ left.width) then
          complain (.termCount (rowWidth item) left.width)
      bounded (left.isIn items negated)
  else
    tableName
    if ← acceptMark "(" then
      let _ ← g.exprsInside
    bounded (.negatedIf negated (.make (.memberOf ⟨1, 0⟩) [left]))
where
  /-- How many values a row has. -/
  rowWidth (e : Expr) : Nat := if e.head = .row then e.width else 1

/-- Reads what is asked of a value: whether it is like another, between others, or one of some. -/
def question (g : Grammar) (left : Expr) (negated : Bool) : Reader Expr := do
  let t ← peek
  if t.isOneOf likeWords then
    let f ← pass
    let right ← g.expr (Level.equality + 1) false
    let escape? ← after? "ESCAPE" (g.expr (Level.equality + 1) false)
    let arguments := [right, left] ++ escape?.toList
    bounded (.negatedIf negated (.make (.call f.name arguments.length false false) arguments))
  else if ← acceptWord "BETWEEN" then
    let low ← g.expr 0 true
    expectWords ["AND"]
    let high ← g.expr (Level.equality + 1) false
    bounded (.negatedIf negated (.make .between [left, low, high]))
  else if ← acceptWord "IN" then g.membership left negated
  else refuse

/-- Reads what an operator of at least some level makes of an expression, if there is one. -/
def extended? (g : Grammar) (least : Nat) (isLow : Bool) (e : Expr) : Reader (Option Expr) := do
  let t ← peek
  if let some (level, operator) := operator? t then
    if level < least || isLow && level = Level.conjunction then return none
    let _ ← pass
    let right ← g.expr (level + 1) false
    some <$> bounded (operator.apply e right)
  else if t.is "COLLATE" && least ≤ Level.collation then
    let _ ← pass
    return some (.make (.collate (← expect Lexeme.isAlias).name) [e])
  else if Level.equality < least then return none
  else if t.is "ISNULL" || t.is "NOTNULL" then
    let _ ← pass
    some <$> node .isNull [e]
  else if t.is "IS" then
    let _ ← pass
    some <$> g.comparison e
  else if t.is "NOT" then
    let _ ← pass
    if ← acceptWord "NULL" then some <$> node .isNull [e] else some <$> g.question e true
  else if t.isOneOf (["BETWEEN", "IN"] ++ likeWords) then some <$> g.question e false
  else return none

def readExpr (g : Grammar) (least : Nat) (isLow : Bool) : Reader Expr := do
  let first ← g.operand
  repeatFrom first (g.extended? least isLow)

end Grammar

end SchemaAtlas.Sql.Definition
