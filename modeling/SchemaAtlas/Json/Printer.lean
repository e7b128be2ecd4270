import SchemaAtlas.Value.Basic
import SchemaAtlas.Number.Decimal

/-! # Writing JSON

Two forms of the same document: on one line, and indented by two blanks a level with
every item and field on a line of its own. Everything outside printable ASCII is escaped,
characters beyond the basic plane as a pair of surrogates.
-/
namespace SchemaAtlas.Json

def hexWord (n : Nat) : List Char :=
  [n / 4096 % 16, n / 256 % 16, n / 16 % 16, n % 16].map Nat.digitChar

def escaped (c : Char) : List Char :=
  if c = '"' then ['\\', '"']
  else if c = '\\' then ['\\', '\\']
  else if c = '\n' then ['\\', 'n']
  else if c = '\r' then ['\\', 'r']
  else if c = '\t' then ['\\', 't']
  else if c = '\x0c' then ['\\', 'f']
  else if c = '\x08' then ['\\', 'b']
  else if ' ' ≤ c ∧ c ≤ '~' then [c]
  else if c.toNat < 0x10000 then '\\' :: 'u' :: hexWord c.toNat
  else
    let n := c.toNat - 0x10000
    '\\' :: 'u' :: hexWord (0xd800 + n / 0x400) ++ '\\' :: 'u' :: hexWord (0xdc00 + n % 0x400)

def quoted (s : String) : String :=
  .ofList ('"' :: (s.toList.flatMap escaped ++ ['"']))

def floatText (x : Float) : String :=
  if x.isNaN then "NaN"
  else if Number.isFinite x then Number.text x
  else if Number.isNegative x then "-Infinity" else "Infinity"

def atom : Value → String
  | .null => "null"
  | .bool b => if b then "true" else "false"
  | .int n => toString n
  | .float x => floatText x
  | .str s => quoted s
  | .moment m => quoted m.text
  | .list _ => "[]"
  | .object _ => "\x7b\x7d"

mutual

def compact : Value → String
  | .list (v :: vs) => "[" ++ compact v ++ compactItems vs ++ "]"
  | .object ((k, v) :: fs) =>
    "\x7b" ++ quoted k ++ ": " ++ compact v ++ compactFields fs ++ "\x7d"
  | v => atom v

def compactItems : List Value → String
  | [] => ""
  | v :: vs => ", " ++ compact v ++ compactItems vs

def compactFields : List (String × Value) → String
  | [] => ""
  | (k, v) :: fs => ", " ++ quoted k ++ ": " ++ compact v ++ compactFields fs

end

def newLine (level : Nat) : String :=
  .ofList ('\n' :: List.replicate (2 * level) ' ')

mutual

def indented (level : Nat) : Value → String
  | .list (v :: vs) =>
    "[" ++ newLine (level + 1) ++ indented (level + 1) v ++ indentedItems level vs
  | .object ((k, v) :: fs) =>
    "\x7b" ++ newLine (level + 1) ++ quoted k ++ ": " ++ indented (level + 1) v ++
      indentedFields level fs
  | v => atom v

def indentedItems (level : Nat) : List Value → String
  | [] => newLine level ++ "]"
  | v :: vs => "," ++ newLine (level + 1) ++ indented (level + 1) v ++ indentedItems level vs

def indentedFields (level : Nat) : List (String × Value) → String
  | [] => newLine level ++ "\x7d"
  | (k, v) :: fs =>
    "," ++ newLine (level + 1) ++ quoted k ++ ": " ++ indented (level + 1) v ++
      indentedFields level fs

end

def pretty (v : Value) : String :=
  indented 0 v

end SchemaAtlas.Json
