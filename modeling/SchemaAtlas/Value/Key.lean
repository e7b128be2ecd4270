import SchemaAtlas.Value.Basic
import SchemaAtlas.Number.Rounding

/-! # Values as keys

Values are told apart by their keys. Numbers are one key when they are equal, whatever
their kind, and the fields of an object may stand in any order.
-/
namespace SchemaAtlas.Value

def insertField (name : String) (v : Value) : List (String × Value) → List (String × Value)
  | [] => [(name, v)]
  | (k, w) :: rest =>
    if name ≤ k then (name, v) :: (k, w) :: rest else (k, w) :: insertField name v rest

mutual

/-- The normal form of a value as a key: equal numbers have one key, whatever their kind. -/
def key : Value → Value
  | .bool b => .int (if b then 1 else 0)
  | .float x => match Number.toInt? x with
    | some n => .int n
    | none => .float x
  | .list xs => .list (keyItems xs)
  | .object fs => .object (keyFields fs)
  | v => v

def keyItems : List Value → List Value
  | [] => []
  | v :: vs => key v :: keyItems vs

def keyFields : List (String × Value) → List (String × Value)
  | [] => []
  | (k, v) :: fs => insertField k (key v) (keyFields fs)

end

/-- Whether a value is floating point but not a number. Such a value does not equal itself. -/
def isNaN : Value → Bool
  | .float x => x.isNaN
  | _ => false

@[simp] theorem key_str (s : String) : (Value.str s).key = .str s := rfl

@[simp] theorem key_null : Value.null.key = .null := rfl

end SchemaAtlas.Value
