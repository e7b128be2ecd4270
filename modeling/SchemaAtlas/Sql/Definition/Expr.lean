import SchemaAtlas.Sql.Definition.Function

/-! # Expressions in a definition

Expressions as trees: what stands at a node, how high the tree is there, and what is below. Of a
query inside an expression only its size is kept.
-/
namespace SchemaAtlas.Sql.Definition

structure Query where
  width : Nat
  height : Nat
  deriving DecidableEq, Repr

inductive Expr.Head where
  | null
  | integer (isZero : Bool)
  | real (written : List Char)
  | blob
  | text (s : List Char)
  /-- Being in an empty list, or not being in it. -/
  | settled (truth : Bool)
  /-- A name, and the mark that it is quoted with. -/
  | name (s : List Char) (quotation : Option Char)
  /-- A name with others before it, with points between. -/
  | path (names : List (List Char))
  | parameter
  | raise
  | not
  /-- Any operation that asks nothing of what it is applied to. -/
  | operation
  | isNull
  | is
  | compare
  | between
  | collate (name : List Char)
  | row
  | member
  | memberOf (q : Query)
  | query (q : Query)
  | nonempty (q : Query)
  /-- A call of a function with as many arguments as are below. -/
  | call (function : List Char) (arity : Nat) (isWindow isFiltered : Bool)
  deriving DecidableEq, Repr

/-- An expression: a node, the height of the tree, and what is below the node. -/
inductive Expr where
  | node (head : Expr.Head) (height : Nat) (children : List Expr)

namespace Expr

def head : Expr → Head
  | node head _ _ => head

def height : Expr → Nat
  | node _ height _ => height

def children : Expr → List Expr
  | node _ _ children => children

def maxHeight (es : List Expr) : Nat :=
  es.foldl (fun n e => max n e.height) 0

def Head.queryHeight : Head → Nat
  | .memberOf q | .query q | .nonempty q => q.height
  | _ => 0

/-- The height of a node above others. What is collated and what stands in a row does not
count. -/
def heightOver (h : Head) (children : List Expr) : Nat :=
  match h with
  | .collate _ | .row => 1
  | _ => max (maxHeight children) h.queryHeight + 1

def make (h : Head) (children : List Expr) : Expr :=
  node h (heightOver h children) children

def width : Expr → Nat
  | node .row _ children => children.length
  | node (.query q) _ _ => q.width
  | _ => 1

def uncollated : Expr → Expr
  | node (.collate _) _ (e :: _) => uncollated e
  | e => e

def isFalse : Expr → Bool
  | node (.integer isZero) _ _ => isZero
  | node (.settled truth) _ _ => !truth
  | _ => false

def isTruthName (s : List Char) (quotation : Option Char) : Bool :=
  quotation.isNone && (sameName s "true".toList || sameName s "false".toList)

/-- Whether a node does not depend on a row; some functions may count as such. -/
def Head.isConstant (counts : List Char → Nat → Bool) : Head → Bool
  | .name s quotation => isTruthName s quotation
  | .path _ | .raise | .memberOf _ | .query _ | .nonempty _ => false
  | .call function arity isWindow isFiltered =>
    counts function arity && !isWindow && !isFiltered
  | _ => true

mutual

def isConstant (counts : List Char → Nat → Bool) : Expr → Bool
  | node h _ children => h.isConstant counts && areConstant counts children

def areConstant (counts : List Char → Nat → Bool) : List Expr → Bool
  | [] => true
  | e :: rest => isConstant counts e && areConstant counts rest

end

/-- Whether an expression can be the default of a column, where any function may stand. -/
def isFixed (e : Expr) : Bool :=
  e.isConstant fun _ _ => true

def isSettled (e : Expr) : Bool :=
  e.isConstant fun function arity =>
    (formsOf function).any fun form => form.takes arity && form.kind = .scalar && !form.varies

/-- The conjunction of expressions. One that is false is all that is kept. -/
def both (e f : Expr) : Expr :=
  if e.isFalse || f.isFalse then make (.integer true) [] else make .operation [e, f]

def negatedIf (negated : Bool) (e : Expr) : Expr :=
  if negated then make .not [e] else e

/-- Whether a value is one of some, or whether it is not. A list without values settles it, a
list of one value that is always the same is a comparison, and rows are looked for as in a
query. -/
def isIn (e : Expr) (items : List Expr) (negated : Bool) : Expr :=
  match items, e.head with
  | [], _ => make (.settled negated) []
  | _, .row => negatedIf negated (make (.memberOf ⟨e.width, maxHeight items⟩) [e])
  | [item], _ =>
    negatedIf negated <|
      if item.isSettled then make .compare [e, make .operation [item]]
      else match item with
        | node (.query q) _ _ => make (.memberOf q) [e]
        | _ => make .member [e, item]
  | _, _ => negatedIf negated (make .member (e :: items))

end Expr

structure SortTerm where
  expr : Expr
  isDescending : Bool := false
  /-- Where nulls come, if that is said. -/
  nulls? : Option String := none

end SchemaAtlas.Sql.Definition
