import SchemaAtlas.Value.Basic
import SchemaAtlas.Number.Decimal
import SchemaAtlas.Text.Cursor

/-! # Reading JSON

A reader of JSON texts that reports the first place where the text is not JSON.
Numbers without fraction and exponent are exact integers; `NaN` and the infinities are
accepted. Of several fields with one name the last counts.

A string can escape half of a surrogate pair by itself, which is no character. A text with such a
half in it is read to its end like any other, but no value is made of it.
-/
namespace SchemaAtlas.Json
open Text (Cursor hexDigit? maxDigits ofDigits place)

inductive Problem where
  | expectingValue
  | expectingName
  | expectingColon
  | expectingComma
  | unterminatedString
  | controlCharacter
  | invalidEscape
  | invalidCodeEscape
  | extraData
  | byteOrderMark
  | tooManyDigits (count : Nat)
  | tooDeep
  deriving DecidableEq, Repr

structure SyntaxError where
  problem : Problem
  line : Nat
  column : Nat
  offset : Nat
  deriving DecidableEq, Repr

def Problem.message : Problem → String
  | .expectingValue => "Expecting value"
  | .expectingName => "Expecting property name enclosed in double quotes"
  | .expectingColon => "Expecting ':' delimiter"
  | .expectingComma => "Expecting ',' delimiter"
  | .unterminatedString => "Unterminated string starting at"
  | .controlCharacter => "Invalid control character at"
  | .invalidEscape => "Invalid \\escape"
  | .invalidCodeEscape => "Invalid \\uXXXX escape"
  | .extraData => "Extra data"
  | .byteOrderMark => "Unexpected UTF-8 BOM (decode using utf-8-sig)"
  | .tooManyDigits n => Text.tooManyDigitsMessage (some n)
  | .tooDeep => "Nested too deeply"

def SyntaxError.message (e : SyntaxError) : String :=
  match e.problem with
  | .tooManyDigits n => (Problem.tooManyDigits n).message
  | p => s!"{p.message}: line {e.line} column {e.column} (char {e.offset})"

abbrev Attempt := Except (Problem × Nat)

def isSpace (c : Char) : Bool :=
  c = ' ' || c = '\t' || c = '\n' || c = '\r'

def skipSpace (c : Cursor) : Cursor :=
  c.skipWhile isSpace

def hexCode? (ds : List Char) : Option Nat :=
  if ds.length = 4 then ds.foldlM (fun n c => (hexDigit? c).map (16 * n + ·)) 0 else none

def escape? : Char → Option Char
  | '"' => some '"'
  | '\\' => some '\\'
  | '/' => some '/'
  | 'b' => some '\x08'
  | 'f' => some '\x0c'
  | 'n' => some '\n'
  | 'r' => some '\r'
  | 't' => some '\t'
  | _ => none

/-- A code escape whose `u` stands at `offset`: the code, and how many characters
after the `u` belong to it. A pair of surrogates is one code. -/
def codeEscape (offset : Nat) (rest : List Char) : Attempt (Nat × Nat) :=
  if rest.length ≤ 4 then .error (.invalidCodeEscape, offset)
  else match hexCode? (rest.take 4) with
    | none => .error (.invalidCodeEscape, offset)
    | some high =>
      let more := rest.drop 4
      if 0xd800 ≤ high ∧ high < 0xdc00 ∧ 6 < more.length ∧ more.take 2 = ['\\', 'u'] then
        match hexCode? ((more.drop 2).take 4) with
        | none => .error (.invalidCodeEscape, offset + 6)
        | some low =>
          if 0xdc00 ≤ low ∧ low < 0xe000 then
            .ok (0x10000 + (high - 0xd800) * 0x400 + (low - 0xdc00), 10)
          else .ok (high, 4)
      else .ok (high, 4)

/-- The character with a code. Half of a surrogate pair is none. -/
def charOfCode? (n : Nat) : Option Char :=
  if n.isValidChar then some (.ofNat n) else none

/-- The characters of a string up to its closing quote, if they are all characters; `start` is
where it opened. -/
def stringBody (start : Nat) : Nat → Cursor → Attempt (Option (List Char) × Cursor)
  | 0, _ => .error (.unterminatedString, start)
  | fuel + 1, ⟨offset, rest⟩ =>
    match rest with
    | [] => .error (.unterminatedString, start)
    | '"' :: rest => .ok (some [], ⟨offset + 1, rest⟩)
    | ['\\'] => .error (.unterminatedString, start)
    | '\\' :: 'u' :: rest => do
      let (code, size) ← codeEscape (offset + 1) rest
      let (tail, after) ← stringBody start fuel (Cursor.skip ⟨offset + 2, rest⟩ size)
      return ((charOfCode? code).bind fun c => tail.map (c :: ·), after)
    | '\\' :: c :: rest =>
      match escape? c with
      | none => .error (.invalidEscape, offset)
      | some e => do
        let (tail, after) ← stringBody start fuel ⟨offset + 2, rest⟩
        return (tail.map (e :: ·), after)
    | c :: rest =>
      if c.toNat < 0x20 then .error (.controlCharacter, offset)
      else do
        let (tail, after) ← stringBody start fuel ⟨offset + 1, rest⟩
        return (tail.map (c :: ·), after)

def string (c : Cursor) : Attempt (Option String × Cursor) := do
  let (cs, after) ← stringBody (c.offset - 1) (c.rest.length + 1) c
  return (cs.map .ofList, after)

def leadingDigits (s : List Char) : List Char :=
  s.takeWhile Char.isDigit

/-- The digits of an exponent with its sign, and how many characters they take. -/
def exponent? : List Char → Option (Int × Nat)
  | e :: rest =>
    if e = 'e' ∨ e = 'E' then
      let (negative, signs, ds) := match rest with
        | '-' :: more => (true, 1, leadingDigits more)
        | '+' :: more => (false, 1, leadingDigits more)
        | more => (false, 0, leadingDigits more)
      if ds.isEmpty then none
      else
        let n : Int := ofDigits 10 ds
        some (if negative then -n else n, 1 + signs + ds.length)
    else none
  | [] => none

def number (c : Cursor) : Attempt (Value × Cursor) :=
  let negative := c.rest.head? = some '-'
  let sign := if negative then 1 else 0
  let body := c.rest.drop sign
  let whole := match body with
    | '0' :: _ => ['0']
    | _ => leadingDigits body
  if whole.isEmpty then .error (.expectingValue, c.offset)
  else
    let afterWhole := body.drop whole.length
    let fraction := match afterWhole with
      | '.' :: more => leadingDigits more
      | _ => []
    let fractionSize := if fraction.isEmpty then 0 else fraction.length + 1
    let exponent := exponent? (afterWhole.drop fractionSize)
    let size := sign + whole.length + fractionSize + (exponent.map (·.2)).getD 0
    if fraction.isEmpty ∧ exponent.isNone then
      if maxDigits < whole.length then .error (.tooManyDigits whole.length, c.offset)
      else
        let n : Int := ofDigits 10 whole
        .ok (.int (if negative then -n else n), c.skip size)
    else
      let d : Number.Decimal :=
        ⟨ofDigits 10 (whole ++ fraction), (exponent.map (·.1)).getD 0 - fraction.length⟩
      .ok (.float (d.toFloat negative), c.skip size)

def words : List (List Char × Value) :=
  [("null".toList, .null), ("true".toList, .bool true), ("false".toList, .bool false),
    ("NaN".toList, .float Number.nan), ("Infinity".toList, .float (Number.infinity false)),
    ("-Infinity".toList, .float (Number.infinity true))]

def word? (c : Cursor) : Option (Value × Cursor) :=
  (words.find? fun (w, _) => w.isPrefixOf c.rest).map fun (w, v) => (v, c.skip w.length)

mutual

/-- The value at the beginning of a text, in which lists and objects may nest some levels. -/
def value : Nat → (levels : Nat) → Cursor → Attempt (Option Value × Cursor)
  | 0, _, c => .error (.expectingValue, c.offset)
  | fuel + 1, levels, c =>
    match c.rest with
    | '"' :: _ => do
      let (s, after) ← string (c.skip 1)
      return (s.map .str, after)
    | '{' :: _ => match levels with
      | 0 => .error (.tooDeep, c.offset)
      | levels + 1 =>
        let c := skipSpace (c.skip 1)
        if c.rest.head? = some '\x7d' then .ok (some (.object []), c.skip 1)
        else fields fuel levels (some []) c
    | '[' :: _ => match levels with
      | 0 => .error (.tooDeep, c.offset)
      | levels + 1 =>
        let c := skipSpace (c.skip 1)
        if c.rest.head? = some ']' then .ok (some (.list []), c.skip 1)
        else items fuel levels (some []) c
    | _ => match word? c with
      | some (v, after) => .ok (some v, after)
      | none => do
        let (v, after) ← number c
        return (some v, after)

/-- The items of a list, after those read (the last first). -/
def items : Nat → (levels : Nat) → Option (List Value) → Cursor → Attempt (Option Value × Cursor)
  | 0, _, _, c => .error (.expectingValue, c.offset)
  | fuel + 1, levels, read, c => do
    let (v, after) ← value fuel levels c
    let c := skipSpace after
    let read := v.bind fun v => read.map (v :: ·)
    match c.rest with
    | ']' :: _ => return (read.map fun vs => .list vs.reverse, c.skip 1)
    | ',' :: _ => items fuel levels read (skipSpace (c.skip 1))
    | _ => throw (.expectingComma, c.offset)

def fields : Nat → (levels : Nat) → Option (List (String × Value)) → Cursor →
    Attempt (Option Value × Cursor)
  | 0, _, _, c => .error (.expectingName, c.offset)
  | fuel + 1, levels, read, c => do
    if c.rest.head? ≠ some '"' then throw (.expectingName, c.offset)
    let (name, after) ← string (c.skip 1)
    let c := skipSpace after
    if c.rest.head? ≠ some ':' then throw (.expectingColon, c.offset)
    let (v, after) ← value fuel levels (skipSpace (c.skip 1))
    let c := skipSpace after
    let read := name.bind fun name => v.bind fun v => read.map (Value.setField name v)
    match c.rest with
    | '\x7d' :: _ => return (read.map .object, c.skip 1)
    | ',' :: _ => fields fuel levels read (skipSpace (c.skip 1))
    | _ => throw (.expectingComma, c.offset)

end

def document (levels : Nat) (text : List Char) : Attempt (Option Value) := do
  if text.head? = some '\ufeff' then throw (.byteOrderMark, 0)
  let (v, after) ← value (2 * text.length + 2) levels (skipSpace ⟨0, text⟩)
  let c := skipSpace after
  if c.rest.isEmpty then return v else throw (.extraData, c.offset)

/-- Reads a JSON text, in which lists and objects may nest some levels. There is no value if a
string in it has half of a surrogate pair. -/
def read (levels : Nat) (text : List Char) : Except SyntaxError (Option Value) :=
  match document levels text with
  | .ok v => .ok v
  | .error (problem, offset) =>
    let (line, column) := place text offset
    .error ⟨problem, line, column, offset⟩

end SchemaAtlas.Json
