import SchemaAtlas.Value.Moment

/-! # Untyped values

The values that diagram documents and settings files hold. Numbers keep apart
exact integers and floating point; an object keeps its fields in the order written.
Two values are the same key when they are equal as numbers, or equal part by part.
-/
namespace SchemaAtlas

/-- A value of a document. Points in time come from settings files only. -/
inductive Value where
  | null
  | bool (b : Bool)
  | int (n : Int)
  | float (x : Float)
  | str (s : String)
  | list (items : List Value)
  | object (fields : List (String × Value))
  | moment (m : Moment)
  deriving Inhabited

namespace Value

mutual

def decEq : (a b : Value) → Decidable (a = b)
  | .null, b => match b with
    | .null => isTrue rfl
    | .bool _ | .int _ | .float _ | .str _ | .list _ | .object _ | .moment _ => isFalse nofun
  | .bool x, b => match b with
    | .bool y => if h : x = y then isTrue (h ▸ rfl) else isFalse (by rintro ⟨⟩; exact h rfl)
    | .null | .int _ | .float _ | .str _ | .list _ | .object _ | .moment _ => isFalse nofun
  | .int x, b => match b with
    | .int y => if h : x = y then isTrue (h ▸ rfl) else isFalse (by rintro ⟨⟩; exact h rfl)
    | .null | .bool _ | .float _ | .str _ | .list _ | .object _ | .moment _ => isFalse nofun
  | .float x, b => match b with
    | .float y => if h : x = y then isTrue (h ▸ rfl) else isFalse (by rintro ⟨⟩; exact h rfl)
    | .null | .bool _ | .int _ | .str _ | .list _ | .object _ | .moment _ => isFalse nofun
  | .str x, b => match b with
    | .str y => if h : x = y then isTrue (h ▸ rfl) else isFalse (by rintro ⟨⟩; exact h rfl)
    | .null | .bool _ | .int _ | .float _ | .list _ | .object _ | .moment _ => isFalse nofun
  | .list x, b => match b with
    | .list y => match decEqItems x y with
      | isTrue h => isTrue (h ▸ rfl)
      | isFalse h => isFalse (by rintro ⟨⟩; exact h rfl)
    | .null | .bool _ | .int _ | .float _ | .str _ | .object _ | .moment _ => isFalse nofun
  | .object x, b => match b with
    | .object y => match decEqFields x y with
      | isTrue h => isTrue (h ▸ rfl)
      | isFalse h => isFalse (by rintro ⟨⟩; exact h rfl)
    | .null | .bool _ | .int _ | .float _ | .str _ | .list _ | .moment _ => isFalse nofun
  | .moment x, b => match b with
    | .moment y => if h : x = y then isTrue (h ▸ rfl) else isFalse (by rintro ⟨⟩; exact h rfl)
    | .null | .bool _ | .int _ | .float _ | .str _ | .list _ | .object _ => isFalse nofun

def decEqItems : (a b : List Value) → Decidable (a = b)
  | [], [] => isTrue rfl
  | [], _ :: _ => isFalse nofun
  | _ :: _, [] => isFalse nofun
  | x :: xs, y :: ys => match decEq x y, decEqItems xs ys with
    | isTrue h, isTrue hs => isTrue (h ▸ hs ▸ rfl)
    | isFalse h, _ => isFalse (by rintro ⟨⟩; exact h rfl)
    | _, isFalse h => isFalse (by rintro ⟨⟩; exact h rfl)

def decEqFields : (a b : List (String × Value)) → Decidable (a = b)
  | [], [] => isTrue rfl
  | [], _ :: _ => isFalse nofun
  | _ :: _, [] => isFalse nofun
  | (k, x) :: xs, (l, y) :: ys =>
    if hk : k = l then
      match decEq x y, decEqFields xs ys with
      | isTrue h, isTrue hs => isTrue (hk ▸ h ▸ hs ▸ rfl)
      | isFalse h, _ => isFalse (by rintro ⟨⟩; exact h rfl)
      | _, isFalse h => isFalse (by rintro ⟨⟩; exact h rfl)
    else isFalse (by rintro ⟨⟩; exact hk rfl)

end

instance : DecidableEq Value := decEq

instance : Coe String Value := ⟨.str⟩

inductive Kind where
  | null | bool | int | float | str | list | object | moment (shape : MomentShape)
  deriving DecidableEq, Repr

def kind : Value → Kind
  | .null => .null
  | .bool _ => .bool
  | .int _ => .int
  | .float _ => .float
  | .str _ => .str
  | .list _ => .list
  | .object _ => .object
  | .moment m => .moment m.shape

def Kind.name : Kind → String
  | .null => "NoneType"
  | .bool => "bool"
  | .int => "int"
  | .float => "float"
  | .str => "str"
  | .list => "list"
  | .object => "dict"
  | .moment shape => shape.name

/-- Everything counts as true but null, false, zero and what is empty. -/
def truthy : Value → Bool
  | .null => false
  | .bool b => b
  | .int n => n != 0
  | .float x => x != 0
  | .str s => s != ""
  | .list xs => !xs.isEmpty
  | .object fs => !fs.isEmpty
  | .moment _ => true

def orEmpty (v : Value) : Value :=
  if v.truthy then v else .str ""

mutual

def depth : Value → Nat
  | .list vs => depthItems vs + 1
  | .object fs => depthFields fs + 1
  | _ => 0

def depthItems : List Value → Nat
  | [] => 0
  | v :: vs => max (depth v) (depthItems vs)

def depthFields : List (String × Value) → Nat
  | [] => 0
  | (_, v) :: fs => max (depth v) (depthFields fs)

end

/-- Lists and objects cannot serve as keys. -/
def isScalar : Value → Bool
  | .list _ | .object _ => false
  | _ => true

def field? (name : String) : List (String × Value) → Option Value
  | [] => none
  | (k, v) :: rest => if k = name then some v else field? name rest

/-- Sets a field: the last value counts, at the place where the name came first. -/
def setField (name : String) (v : Value) : List (String × Value) → List (String × Value)
  | [] => [(name, v)]
  | (k, w) :: rest => if k = name then (name, v) :: rest else (k, w) :: setField name v rest

@[simp] theorem truthy_str (s : String) : (Value.str s).truthy = (s != "") := rfl

@[simp] theorem orEmpty_str (s : String) : (Value.str s).orEmpty = .str s := by
  by_cases h : s = "" <;> simp [orEmpty, h]

@[simp] theorem orEmpty_orEmpty (v : Value) : v.orEmpty.orEmpty = v.orEmpty := by
  by_cases h : v.truthy = true <;> simp [orEmpty, h]

end Value

end SchemaAtlas
