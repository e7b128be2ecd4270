import SchemaAtlas.Sql.Definition.Expr
import SchemaAtlas.Sql.Definition.Function
import SchemaAtlas.Number.Decimal

/-! # Names in the expressions of a table

Expressions in the definition of a table or an index speak of the columns of that table alone,
and only some of what an expression can be is allowed there. What is wrong last is what is told.
-/
namespace SchemaAtlas.Sql.Definition

inductive Place where
  | check
  | index
  | partialIndex
  | computed
  deriving DecidableEq, Repr

def Place.title : Place → String
  | .check => "CHECK constraints"
  | .index => "index expressions"
  | .partialIndex => "partial index WHERE clauses"
  | .computed => "generated columns"

def Place.isFixed : Place → Bool
  | .index | .computed => true
  | .check | .partialIndex => false

structure Scope where
  place : Place
  table : List Char
  columns : List (List Char)
  /-- Whether the rows have numbers that can be asked for. -/
  hasRowNumber : Bool

abbrev Findings := StateM (Option DefinitionError)

def found (e : DefinitionError) : Findings Unit :=
  set (some e)

def isClean : Findings Bool := do
  return (← get).isNone

def rowNumberNames : List (List Char) :=
  ["_rowid_", "rowid", "oid"].map String.toList

def mainDatabase : List Char := "main".toList

namespace Scope

def has (s : Scope) (name : List Char) : Bool :=
  s.columns.any (sameName name) ||
    !s.place.isFixed && s.hasRowNumber && rowNumberNames.any (sameName name)

def lookUp (s : Scope) (names : List (List Char)) : Findings Bool := do
  let path := if names.length = 3 && !s.place.isFixed then names.drop 1 else names
  let isThere := match path with
    | [name] => s.has name
    | [table, name] => sameName table s.table && s.has name
    | [database, table, name] =>
      (s.place = .partialIndex || sameName database mainDatabase) && sameName table s.table &&
        s.has name
    | _ => false
  if !isThere then found (.missingColumn path)
  return isThere

/-- Looks for what a name stands for. One that is no column may be a text or a truth value. -/
def lookUpName (s : Scope) (name : List Char) (quotation : Option Char) : Findings Bool :=
  if !s.has name && (quotation = some '"' || Expr.isTruthName name quotation) then return true
  else s.lookUp [name]

def decimalOf (written : List Char) : Number.Decimal :=
  let isExponent (c : Char) : Bool := c = 'e' || c = 'E'
  let mantissa := written.takeWhile (!isExponent ·)
  let exponent := written.drop (mantissa.length + 1)
  let whole := mantissa.takeWhile (· ≠ '.')
  let fraction := mantissa.drop (whole.length + 1)
  let value (s : List Char) : Nat :=
    (s.filter Char.isDigit).foldl (fun n c => 10 * n + (c.toNat - '0'.toNat)) 0
  let power : Int := if exponent.head? = some '-' then -value exponent else value exponent
  ⟨value (whole ++ fraction), power - fraction.length⟩

/-- Whether an expression is a likelihood: a number with a point or an exponent, of at most
one. -/
def isLikelihood : Expr → Bool
  | .node (.real written) _ _ => (decimalOf written).toFloat false ≤ 1
  | _ => false

def checkCall (s : Scope) (function : List Char) (arguments : List Expr)
    (isWindow isFiltered : Bool) : Findings Unit := do
  let forms := formsOf function
  let form? := forms.find? (·.takes arguments.length)
  if form?.isSome && sameName function "likelihood".toList then
    if !(arguments[1]?.any isLikelihood) then found (.badLikelihood function)
  if form?.any (·.varies) && s.place ≠ .check then
    found (.prohibited "non-deterministic functions" s.place.title)
  let kind? := form?.map (·.kind)
  let single := match kind? with
    | some kind => kind = .scalar
    | none => forms.any fun form => form.kind ≠ .aggregate && form.kind ≠ .window
  if single && isWindow then found (.notWindow function)
  else if kind?.any fun kind => kind ≠ .scalar && kind ≠ .hidden then
    let kind := if kind? = some .window || isWindow then "window" else "aggregate"
    found (.misusedFunction kind function)
  else if form?.isNone && !forms.isEmpty then found (.argumentCount function)
  else if isWindow || isFiltered then found (.filteredScalar function)

mutual

/-- Notes what is wrong in an expression, and tells whether to go on after it. -/
def visit (s : Scope) : Expr → Findings Bool
  | .node head _ children =>
    match head with
    | .isNull => do
      let _ ← visitAll s children
      return true
    | .name name quotation => s.lookUpName name quotation
    | .path names => do
      if s.place.isFixed then found (.prohibited "the \".\" operator" s.place.title)
      s.lookUp names
    | .call function _ isWindow isFiltered => do
      s.checkCall function children isWindow isFiltered
      let _ ← visitAll s children
      return true
    | .query _ | .nonempty _ | .memberOf _ => do
      found (.prohibited "subqueries" s.place.title)
      return false
    | .parameter => do
      found (.prohibited "parameters" s.place.title)
      return false
    | .is => do
      match (children[1]?).map Expr.uncollated with
      | some (.node (.name name quotation) _ _) =>
        if !(← s.lookUpName name quotation) then return false
        if !Expr.isTruthName name quotation || s.has name then
          if children.head?.any (·.width ≠ 1) then found .misusedRow
          if !(← isClean) then return false
        if ← visitFirst s 1 children then isClean else return false
      | _ => visitEqual s children
    | .compare | .between => visitEqual s children
    | _ => visitBelow s children

/-- Notes what is wrong where values are compared, which have to be equally many. -/
def visitEqual (s : Scope) : List Expr → Findings Bool
  | [] => isClean
  | e :: rest => do
    if rest.any (·.width ≠ e.width) then found .misusedRow
    if !(← isClean) then return false
    if ← visit s e then visitAll s rest else return false

/-- Notes what is wrong in some expressions, if nothing was found wrong before. -/
def visitBelow (s : Scope) : List Expr → Findings Bool
  | [] => isClean
  | e :: rest => do
    if !(← isClean) then return false
    if ← visit s e then visitAll s rest else return false

def visitFirst (s : Scope) : Nat → List Expr → Findings Bool
  | 0, _ | _, [] => return true
  | n + 1, e :: rest => do
    if ← visit s e then visitFirst s n rest else return false

/-- Notes what is wrong in some expressions, up to the first after which not to go on. -/
def visitAll (s : Scope) : List Expr → Findings Bool
  | [] => return true
  | e :: rest => do
    if ← visit s e then visitAll s rest else return false

end

def findings (s : Scope) (e : Expr) (before : Option DefinitionError) : Option DefinitionError :=
  (s.visit e before).2

end Scope

end SchemaAtlas.Sql.Definition
