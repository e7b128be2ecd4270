import SchemaAtlas.Text.Cursor
import SchemaAtlas.Text.Utf8

/-! # Percent signs

A percent sign with two hexadecimal digits stands for a byte. The bytes of a run of ASCII
characters are read as UTF-8.
-/
namespace SchemaAtlas.Text

def percentByte? (h l : Char) : Option UInt8 := do
  return .ofNat (16 * (← hexDigit? h) + (← hexDigit? l))

def percentBytes : List Char → List UInt8
  | '%' :: h :: l :: rest =>
    match percentByte? h l with
    | some b => b :: percentBytes rest
    | none => 37 :: percentBytes (h :: l :: rest)
  | c :: rest => .ofNat c.toNat :: percentBytes rest
  | [] => []

def percentRun (s : List Char) : List Char :=
  decodeLossy (s.length + 1) (percentBytes s)

/-- A text with percent signs after a run of ASCII characters, which comes in reverse. -/
def percentFrom (run : List Char) : List Char → List Char
  | [] => percentRun run.reverse
  | c :: rest =>
    if c.toNat < 128 then percentFrom (c :: run) rest
    else percentRun run.reverse ++ c :: percentFrom [] rest

def percentText (s : List Char) : List Char :=
  percentFrom [] s

end SchemaAtlas.Text
