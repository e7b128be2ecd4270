import SchemaAtlas.Terminal.Constant.Token

/-! # Constants

A constant is a number, a sum of a real and an imaginary number, texts or bytes side by side, a
tuple, a set or an object. What is in a set or the key in an object has to be hashable: no set and
no object is part of it. Brackets around a constant change nothing.
-/
namespace SchemaAtlas.Terminal
namespace Constant

inductive Shape where
  /-- A number without a sign. -/
  | number (isImaginary isHuge : Bool)
  | signed (isImaginary isHuge : Bool)
  | other (isHashable : Bool)
  /-- The constructor of sets, which has yet to be called. -/
  | setName
  deriving DecidableEq, Repr

/-- Whether something can be in a set; nothing if it is no constant. -/
def Shape.hashable? : Shape → Option Bool
  | .number _ _ | .signed _ _ => some true
  | .other h => some h
  | .setName => none

def Shape.withSign? : Shape → Option Shape
  | .number i h => some (.signed i h)
  | _ => none

def Shape.plus? (a b : Shape) : Option Shape :=
  match a, b with
  | .number false false, .number true _ | .signed false false, .number true _ =>
    some (.other true)
  | _, _ => none

abbrev Reading := Option (Shape × List ConstantToken)

def needMark (c : Char) : List ConstantToken → Option (List ConstantToken)
  | t :: rest => if t = .mark c then some rest else none
  | [] => none

/-- The texts side by side at the beginning, which are all of one kind. -/
def textsAhead (isBytes : Bool) : List ConstantToken → Option (List ConstantToken)
  | .text b :: rest => if b = isBytes then textsAhead isBytes rest else none
  | ts => some ts

mutual

/-- A constant: a number with or without a sign, a sum, or anything without a sign. -/
def constant : (bound : Nat) → List ConstantToken → Reading
  | 0, _ => none
  | bound + 1, ts => do
    let (a, ts) ← operand bound ts
    match ts with
    | .mark c :: rest =>
      if c = '+' || c = '-' then
        let (b, ts) ← operand bound rest
        let sum ← a.plus? b
        if ts.head? = some (.mark '+') || ts.head? = some (.mark '-') then none
        else return (sum, ts)
      else return (a, ts)
    | _ => return (a, ts)

def operand : (bound : Nat) → List ConstantToken → Reading
  | 0, _ => none
  | bound + 1, ts =>
    match ts with
    | .number i h :: rest => some (.number i h, rest)
    | .text b :: rest => (textsAhead b rest).map fun ts => (.other true, ts)
    | .single :: rest => some (.other true, rest)
    | .setName :: rest => called rest
    | .mark c :: rest =>
      if c = '+' || c = '-' then do
        let (a, ts) ← operand bound rest
        return (← a.withSign?, ts)
      else if c = '(' then do
        let (a, ts) ← inParentheses bound rest
        if a = .setName then called ts else return (a, ts)
      else if c = '\x7b' then inBraces bound rest
      else none
    | _ => none
where
  /-- The constructor of sets, called if brackets follow it. -/
  called (ts : List ConstantToken) : Reading :=
    match ts with
    | .mark '(' :: .mark ')' :: rest => some (.other false, rest)
    | _ => some (.setName, ts)

def inParentheses : (bound : Nat) → List ConstantToken → Reading
  | 0, _ => none
  | bound + 1, ts =>
    if ts.head? = some (.mark ')') then some (.other true, ts.drop 1)
    else do
      let (a, ts) ← constant bound ts
      if ts.head? = some (.mark ')') then return (a, ts.drop 1)
      let (h, ts) ← items bound (← a.hashable?) (← needMark ',' ts)
      return (.other h, ← needMark ')' ts)

/-- The items after a comma, up to the end or a closing bracket, and whether all are hashable. -/
def items : (bound : Nat) → (isHashable : Bool) → List ConstantToken →
    Option (Bool × List ConstantToken)
  | 0, _, _ => none
  | bound + 1, h, ts =>
    match ts with
    | [] | .lineEnd :: _ | .mark ')' :: _ | .mark '\x7d' :: _ => some (h, ts)
    | _ => do
      let (a, ts) ← constant bound ts
      let h := h && (← a.hashable?)
      if ts.head? = some (.mark ',') then items bound h (ts.drop 1) else return (h, ts)

def inBraces : (bound : Nat) → List ConstantToken → Reading
  | 0, _ => none
  | bound + 1, ts =>
    if ts.head? = some (.mark '\x7d') then some (.other false, ts.drop 1)
    else do
      let (a, ts) ← constant bound ts
      if !(← a.hashable?) then none
      if ts.head? = some (.mark ':') then
        let (b, ts) ← constant bound (ts.drop 1)
        let _ ← b.hashable?
        return (.other false, ← fields bound ts)
      else
        let (h, ts) ← if ts.head? = some (.mark ',') then items bound true (ts.drop 1)
          else some (true, ts)
        if h then return (.other false, ← needMark '\x7d' ts) else none

def fields : (bound : Nat) → List ConstantToken → Option (List ConstantToken)
  | 0, _ => none
  | bound + 1, ts =>
    match ts with
    | .mark '\x7d' :: rest => some rest
    | .mark ',' :: .mark '\x7d' :: rest => some rest
    | .mark ',' :: rest => do
      let (a, ts) ← constant bound rest
      if !(← a.hashable?) then none
      let (b, ts) ← constant bound (← needMark ':' ts)
      let _ ← b.hashable?
      fields bound ts
    | _ => none

end

def isConstant (s : List Char) : Bool :=
  let read : Option Bool := do
    let ts ← tokens s
    let bound := 4 * ts.length + 4
    let (a, ts) ← constant bound ts
    let h ← a.hashable?
    let (_, ts) ← if ts.head? = some (.mark ',') then items bound h (ts.drop 1) else some (h, ts)
    return ts.isEmpty || ts = [.lineEnd]
  read.getD false

end Constant

end SchemaAtlas.Terminal
