/-! # UTF-8

Decoding of bytes as UTF-8. A lead byte fixes how many bytes follow and which range the
first of them has to lie in, so overlong forms and surrogates are refused. The first
sequence that is not well formed is reported with its bytes.
-/
namespace SchemaAtlas.Text

inductive Utf8Problem where
  | invalidStart
  | invalidContinuation
  | unexpectedEnd
  deriving DecidableEq, Repr

structure Utf8Error where
  problem : Utf8Problem
  start : Nat
  size : Nat
  byte : Nat
  deriving DecidableEq, Repr

/-- What follows a lead byte: how many bytes, the range of the first, and the lead's bits. -/
structure Lead where
  following : Nat
  low : Nat
  high : Nat
  bits : Nat

def lead? (b : Nat) : Option Lead :=
  if b < 0x80 then some ⟨0, 0x80, 0xbf, b⟩
  else if b < 0xc2 then none
  else if b < 0xe0 then some ⟨1, 0x80, 0xbf, b - 0xc0⟩
  else if b = 0xe0 then some ⟨2, 0xa0, 0xbf, 0⟩
  else if b = 0xed then some ⟨2, 0x80, 0x9f, 13⟩
  else if b < 0xf0 then some ⟨2, 0x80, 0xbf, b - 0xe0⟩
  else if b = 0xf0 then some ⟨3, 0x90, 0xbf, 0⟩
  else if b < 0xf4 then some ⟨3, 0x80, 0xbf, b - 0xf0⟩
  else if b = 0xf4 then some ⟨3, 0x80, 0x8f, 4⟩
  else none

/-- Reading state: the bytes still due, the range of the next, the bits so far, and
where the sequence began. -/
structure Pending where
  due : Nat
  low : Nat
  high : Nat
  bits : Nat
  start : Nat
  first : Nat

/-- Decodes the bytes from position `i` on, in the middle of a sequence or between two. -/
def decodeFrom (i : Nat) : Option Pending → List UInt8 → Except Utf8Error (List Char)
  | none, [] => .ok []
  | some p, [] => .error ⟨.unexpectedEnd, p.start, i - p.start, p.first⟩
  | none, b :: rest =>
    match lead? b.toNat with
    | none => .error ⟨.invalidStart, i, 1, b.toNat⟩
    | some ⟨0, _, _, bits⟩ => do
      return Char.ofNat bits :: (← decodeFrom (i + 1) none rest)
    | some l =>
      let pending := ⟨l.following, l.low, l.high, l.bits, i, b.toNat⟩
      decodeFrom (i + 1) (some pending) rest
  | some p, b :: rest =>
    let n := b.toNat
    if p.low ≤ n ∧ n ≤ p.high then
      let bits := p.bits * 64 + (n - 0x80)
      if p.due = 1 then do
        return Char.ofNat bits :: (← decodeFrom (i + 1) none rest)
      else decodeFrom (i + 1) (some ⟨p.due - 1, 0x80, 0xbf, bits, p.start, p.first⟩) rest
    else .error ⟨.invalidContinuation, p.start, i - p.start, p.first⟩

def decodeUtf8 (bytes : List UInt8) : Except Utf8Error (List Char) :=
  decodeFrom 0 none bytes

/-- The text that bytes encode, with a replacement for each sequence that is not well formed. -/
def decodeLossy : (bound : Nat) → List UInt8 → List Char
  | 0, _ => []
  | bound + 1, bytes =>
    match decodeUtf8 bytes with
    | .ok s => s
    | .error e =>
      (decodeUtf8 (bytes.take e.start)).toOption.getD [] ++
        '\ufffd' :: decodeLossy bound (bytes.drop (e.start + e.size))

/-- A text with every kind of line end written as a line feed. -/
def unifyLineEnds : List Char → List Char
  | '\r' :: '\n' :: rest => '\n' :: unifyLineEnds rest
  | '\r' :: rest => '\n' :: unifyLineEnds rest
  | c :: rest => c :: unifyLineEnds rest
  | [] => []

def hexByte (n : Nat) : String :=
  .ofList [Nat.digitChar (n / 16), Nat.digitChar (n % 16)]

def Utf8Problem.message : Utf8Problem → String
  | .invalidStart => "invalid start byte"
  | .invalidContinuation => "invalid continuation byte"
  | .unexpectedEnd => "unexpected end of data"

def Utf8Error.message (e : Utf8Error) : String :=
  if e.size = 1 then
    s!"'utf-8' codec can't decode byte 0x{hexByte e.byte} in position {e.start}: " ++
      e.problem.message
  else
    s!"'utf-8' codec can't decode bytes in position {e.start}-{e.start + e.size - 1}: " ++
      e.problem.message

end SchemaAtlas.Text
