/-! # Cursors

A place in a text while it is read: how many characters lie behind, and those ahead.
-/
namespace SchemaAtlas.Text

structure Cursor where
  offset : Nat
  rest : List Char

namespace Cursor

def skip (c : Cursor) (n : Nat) : Cursor :=
  ⟨c.offset + n, c.rest.drop n⟩

def skipWhile (c : Cursor) (p : Char → Bool) : Cursor :=
  c.skip (c.rest.takeWhile p).length

def next? (c : Cursor) : Option Char :=
  c.rest.head?

def at? (c : Cursor) (word : String) : Bool :=
  word.toList.isPrefixOf c.rest

end Cursor

/-- Line and column of an offset, both counted from one. -/
def place (text : List Char) (offset : Nat) : Nat × Nat :=
  let before := text.take offset
  (before.count '\n' + 1, (before.reverse.takeWhile (· ≠ '\n')).length + 1)

def hexDigit? (c : Char) : Option Nat :=
  if '0' ≤ c ∧ c ≤ '9' then some (c.toNat - '0'.toNat)
  else if 'a' ≤ c ∧ c ≤ 'f' then some (c.toNat - 'a'.toNat + 10)
  else if 'A' ≤ c ∧ c ≤ 'F' then some (c.toNat - 'A'.toNat + 10)
  else none

/-- The number that digits write in a base; characters that are no digits are passed over. -/
def ofDigits (base : Nat) (ds : List Char) : Nat :=
  ds.foldl (fun n c => match hexDigit? c with | some d => base * n + d | none => n) 0

def maxDigits : Nat := 4300

/-- What is said about an integer with too many digits, with the number of its digits if it
has been written. -/
def tooManyDigitsMessage (count? : Option Nat) : String :=
  let count := match count? with
    | some n => s!": value has {n} digits"
    | none => ""
  s!"Exceeds the limit ({maxDigits} digits) for integer string conversion{count}; " ++
    "use sys.set_int_max_str_digits() to increase the limit"

end SchemaAtlas.Text
