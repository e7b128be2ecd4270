import SchemaAtlas.Fault

/-! # Arithmetic on values

Integers are exact until a floating point number joins in; truth values count as one
and zero. Division of integers gives the nearest floating point number. What is not a
number can at most be joined to its like, or repeated.
-/
namespace SchemaAtlas.Value

inductive Numeric where
  | int (n : Int)
  | float (x : Float)

def number? : Value → Option Numeric
  | .bool b => some (.int (if b then 1 else 0))
  | .int n => some (.int n)
  | .float x => some (.float x)
  | _ => none

def Numeric.toFloat : Numeric → Except Fault Float
  | .float x => .ok x
  | .int n => match Number.ofInt? n with
    | some x => .ok x
    | none => .error .overflow

def Numeric.combine (onInts : Int → Int → Int) (onFloats : Float → Float → Float) :
    Numeric → Numeric → Except Fault Value
  | .int m, .int n => .ok (.int (onInts m n))
  | a, b => do return .float (onFloats (← a.toFloat) (← b.toFloat))

/-- Sum; texts and lists are joined. -/
def add (a b : Value) : Except Fault Value :=
  match a.number?, b.number? with
  | some m, some n => m.combine (· + ·) (· + ·) n
  | _, _ => match a, b with
    | .str s, .str t => .ok (.str (s ++ t))
    | .list xs, .list ys => .ok (.list (xs ++ ys))
    | _, _ => .error .unsuitable

/-- A sum of floating point numbers while it is taken: what the terms have come to, and what
rounding has taken from it. -/
structure Running where
  total : Float
  lost : Float := 0

/-- One more term. The smaller part of a sum is the one that loses digits. -/
def Running.add (r : Running) (x : Float) : Running :=
  let total := r.total + x
  let error := if x.abs ≤ r.total.abs then r.total - total + x else x - total + r.total
  ⟨total, r.lost + error⟩

/-- The sum with what rounding has taken, which is left out where it is not finite. -/
def Running.sum (r : Running) : Float :=
  if r.lost != 0 && Number.isFinite r.lost then r.total + r.lost else r.total

/-- The sum of numbers after some of them. Integers are added without looking at what is lost. -/
def sumFloats (r : Running) : List Value → Except Fault Value
  | [] => .ok (.float r.sum)
  | v :: vs => match v.number? with
    | some (.float x) => sumFloats (r.add x) vs
    | some n => do sumFloats { r with total := r.total + (← n.toFloat) } vs
    | none => .error .unsuitable

def sumInts (n : Int) : List Value → Except Fault Value
  | [] => .ok (.int n)
  | v :: vs => match v.number? with
    | some (.int m) => sumInts (n + m) vs
    | some (.float x) => do sumFloats ⟨(← (Numeric.int n).toFloat) + x, 0⟩ vs
    | none => .error .unsuitable

/-- The sum of numbers: exact as long as they are integers, and compensated for rounding from the
first floating point number on. -/
def sum (vs : List Value) : Except Fault Value :=
  sumInts 0 vs

def sub (a b : Value) : Except Fault Value :=
  match a.number?, b.number? with
  | some m, some n => m.combine (· - ·) (· - ·) n
  | _, _ => .error .unsuitable

/-- A multiple; texts and lists are repeated. -/
def mulInt (a : Value) (n : Int) : Except Fault Value :=
  match a.number? with
  | some m => m.combine (· * ·) (· * ·) (.int n)
  | none => match a with
    | .str s => .ok (.str (.ofList (List.replicate n.toNat s.toList).flatten))
    | .list xs => .ok (.list (List.replicate n.toNat xs).flatten)
    | _ => .error .unsuitable

def neg (a : Value) : Except Fault Value :=
  match a.number? with
  | some (.int n) => .ok (.int (-n))
  | some (.float x) => .ok (.float (-x))
  | none => .error .unsuitable

def half (a : Value) : Except Fault Value :=
  match a.number? with
  | some (.int n) =>
    match Number.ofQuotient? (n < 0) n.natAbs 2 with
    | some x => .ok (.float x)
    | none => .error .overflow
  | some (.float x) => .ok (.float (x / 2))
  | none => .error .unsuitable

def Numeric.less : Numeric → Numeric → Bool
  | .int m, .int n => m < n
  | .float x, .float y => x < y
  | .int m, .float y => Number.intLtFloat m y
  | .float x, .int n => Number.floatLtInt x n

def Numeric.same : Numeric → Numeric → Bool
  | .int m, .int n => m = n
  | .float x, .float y => x == y
  | .int m, .float y => Number.toInt? y = some m
  | .float x, .int n => Number.toInt? x = some n

mutual

/-- Equality of values, in which numbers count by what they amount to and the order of
fields does not count. -/
def same : Value → Value → Bool
  | .list xs, .list ys => sameItems xs ys
  | .object fs, .object gs => fs.length == gs.length && sameFields fs gs
  | .null, .null => true
  | .str s, .str t => s == t
  | .moment m, .moment n => m == n
  | a, b => match a.number?, b.number? with
    | some m, some n => m.same n
    | _, _ => false

def sameItems : List Value → List Value → Bool
  | [], [] => true
  | x :: xs, y :: ys => same x y && sameItems xs ys
  | _, _ => false

def sameFields : List (String × Value) → List (String × Value) → Bool
  | [], _ => true
  | (k, v) :: fs, gs => (match field? k gs with
    | some w => same v w
    | none => false) && sameFields fs gs

end

mutual

/-- Whether a value comes before another: numbers by size, texts by code points, lists
item by item. -/
def less : Value → Value → Except Fault Bool
  | .str s, .str t => .ok (s < t)
  | .list xs, .list ys => lessItems xs ys
  | a, b => match a.number?, b.number? with
    | some m, some n => .ok (m.less n)
    | _, _ => .error .unsuitable

def lessItems : List Value → List Value → Except Fault Bool
  | [], ys => .ok (!ys.isEmpty)
  | _ :: _, [] => .ok false
  | x :: xs, y :: ys => if same x y then lessItems xs ys else less x y

end

end SchemaAtlas.Value
