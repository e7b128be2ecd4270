import SchemaAtlas.Value.Basic
import SchemaAtlas.Number.Decimal
import SchemaAtlas.Text.Cursor
import SchemaAtlas.Text.Printable

/-! # Showing values

The text of a value where a label or a message takes it up. A text stands for itself;
inside lists and objects it is shown in quotes, with double quotes only if it holds a
single quote and no double one. Points in time are shown in full inside lists and objects.
-/
namespace SchemaAtlas.Value

def hexText (width n : Nat) : List Char :=
  let ds := Nat.toDigits 16 n
  List.replicate (width - ds.length) '0' ++ ds

def shownChar (q c : Char) : List Char :=
  if c = q ∨ c = '\\' then ['\\', c]
  else if c = '\n' then ['\\', 'n']
  else if c = '\r' then ['\\', 'r']
  else if c = '\t' then ['\\', 't']
  else if Text.isPrintable c then [c]
  else if c.toNat < 0x100 then '\\' :: 'x' :: hexText 2 c.toNat
  else if c.toNat < 0x10000 then '\\' :: 'u' :: hexText 4 c.toNat
  else '\\' :: 'U' :: hexText 8 c.toNat

def quoted (s : String) : String :=
  let cs := s.toList
  let q := if cs.contains '\'' && !cs.contains '"' then '"' else '\''
  .ofList (q :: (cs.flatMap (shownChar q) ++ [q]))

mutual

def shown : Value → String
  | .null => "None"
  | .bool b => if b then "True" else "False"
  | .int n => toString n
  | .float x => Number.text x
  | .str s => quoted s
  | .moment m => m.shown
  | .list [] => "[]"
  | .list (v :: vs) => "[" ++ shown v ++ shownItems vs ++ "]"
  | .object [] => "\x7b\x7d"
  | .object ((k, v) :: fs) =>
    "\x7b" ++ quoted k ++ ": " ++ shown v ++ shownFields fs ++ "\x7d"

def shownItems : List Value → String
  | [] => ""
  | v :: vs => ", " ++ shown v ++ shownItems vs

def shownFields : List (String × Value) → String
  | [] => ""
  | (k, v) :: fs => ", " ++ quoted k ++ ": " ++ shown v ++ shownFields fs

end

mutual

/-- Whether no integer in a value has more digits than may be written. -/
def isWritable : Value → Bool
  | .int n => n.natAbs < Nat.pow 10 Text.maxDigits
  | .list vs => areWritable vs
  | .object fs => haveWritable fs
  | _ => true

def areWritable : List Value → Bool
  | [] => true
  | v :: vs => isWritable v && areWritable vs

def haveWritable : List (String × Value) → Bool
  | [] => true
  | (_, v) :: fs => isWritable v && haveWritable fs

end

def text : Value → String
  | .str s => s
  | .moment m => m.text
  | v => shown v

@[simp] theorem text_str (s : String) : (Value.str s).text = s := rfl

end SchemaAtlas.Value
