import SchemaAtlas.Number.Numeral
import SchemaAtlas.Text.Utf8

/-! # Tokens of constants

The parameters of an action are written as constants: numbers, texts, bytes, and collections of
them in brackets. Line ends count only outside brackets, and a line begins without blanks. Only
what a constant can hold is a token; anything else makes the text no constant.
-/
namespace SchemaAtlas.Terminal

inductive ConstantToken where
  /-- A number, whether it is imaginary, and whether it is a whole number that is too large for
  floating point. -/
  | number (isImaginary isHuge : Bool)
  | text (isBytes : Bool)
  /-- A name of a single value. -/
  | single
  /-- The name of the constructor of sets. -/
  | setName
  | mark (c : Char)
  | lineEnd
  deriving DecidableEq, Repr

namespace Constant

def isNamePart (c : Char) : Bool :=
  c.isAlphanum || c = '_' || 128 ≤ c.toNat

/-- What follows digits with single underscores before them; the first has been read or not. -/
def afterDigits (isDigit : Char → Bool) : List Char → Option (List Char)
  | [] => some []
  | c :: rest =>
    if c = '_' then
      match rest with
      | d :: rest => if isDigit d then afterDigits isDigit rest else none
      | [] => none
    else if isDigit c then afterDigits isDigit rest else some (c :: rest)

def afterExponent (s : List Char) : Option (List Char) :=
  match s with
  | [] => some s
  | e :: rest =>
    if e = 'e' || e = 'E' then
      let (_, ds) := Number.splitSign rest
      if ds.head?.any Char.isDigit then afterDigits Char.isDigit ds else none
    else some s

/-- What follows the fraction and the exponent of a number, as far as there are any. -/
def afterFraction (s : List Char) : Option (List Char) :=
  match s with
  | '.' :: rest => (if rest.head? = some '_' then none else afterDigits Char.isDigit rest).bind
      afterExponent
  | _ => afterExponent s

def hugeNumber : Nat := Nat.pow 2 1024 - Nat.pow 2 970

def wholeToken (base : Nat) (s : List Char) : Option ConstantToken :=
  let ds := s.filter (· ≠ '_')
  if base = 10 && Text.maxDigits < ds.length && !ds.all (· = '0') then none
  else some (.number false (hugeNumber ≤ Text.ofDigits base ds))

def basedNumber (base : Nat) (isDigit : Char → Bool) (s : List Char) :
    Option (ConstantToken × List Char) := do
  let first := if s.head? = some '_' then s.drop 1 else s
  if !first.head?.any isDigit then none
  let rest ← afterDigits isDigit first
  return (← wholeToken base (s.take (s.length - rest.length)), rest)

/-- A decimal number. Whole numbers do not begin with a zero unless they are zero. -/
def decimalNumber (s : List Char) : Option (ConstantToken × List Char) := do
  let afterWhole ← if s.head? = some '.' then some s else afterDigits Char.isDigit s
  let rest ← afterFraction afterWhole
  let whole := s.take (s.length - afterWhole.length)
  if rest.head? = some 'j' || rest.head? = some 'J' then
    return (.number true false, rest.drop 1)
  else if rest.length < afterWhole.length then return (.number false false, rest)
  else if whole.head? = some '0' && !whole.all (fun c => c = '0' || c = '_') then none
  else return (← wholeToken 10 whole, rest)

def numberAhead (s : List Char) : Option (ConstantToken × List Char) := do
  let hex (c : Char) := (Text.hexDigit? c).isSome
  let (token, rest) ← match s with
    | '0' :: b :: more =>
      if b = 'x' || b = 'X' then basedNumber 16 hex more
      else if b = 'o' || b = 'O' then basedNumber 8 (fun c => '0' ≤ c && c ≤ '7') more
      else if b = 'b' || b = 'B' then basedNumber 2 (fun c => c = '0' || c = '1') more
      else decimalNumber s
    | _ => decimalNumber s
  if rest.head?.any isNamePart then none else some (token, rest)

def escapeSize? (isBytes : Bool) (c : Char) : Option Nat :=
  if c = 'x' then some 2
  else if isBytes then none
  else if c = 'u' then some 4
  else if c = 'U' then some 8
  else none

/-- Whether the name of a character, after the letter for it, is closed. -/
def hasCharacterName (s : List Char) : Bool :=
  match s with
  | '\x7b' :: rest =>
    let name := rest.takeWhile fun c => c.isAlphanum || c = ' ' || c = '-'
    !name.isEmpty && (rest.drop name.length).head? = some '\x7d'
  | _ => false

def hasGoodEscapes (isBytes : Bool) : List Char → Bool
  | '\\' :: c :: rest =>
    let good := match escapeSize? isBytes c with
      | some size =>
        let ds := rest.take size
        ds.length = size && ds.all (fun d => (Text.hexDigit? d).isSome) &&
          Text.ofDigits 16 ds ≤ 0x10ffff
      | none => c ≠ 'N' || isBytes || hasCharacterName rest
    good && hasGoodEscapes isBytes rest
  | _ :: rest => hasGoodEscapes isBytes rest
  | [] => true

/-- The body of a text in quotes, which is closed by as many quotes as it was opened with, and
what follows it. `seen` counts the quotes just read. -/
def bodyAhead (q : Char) (count : Nat) : (seen : Nat) → List Char →
    Option (List Char × List Char)
  | _, [] => none
  | seen, c :: rest =>
    if c = q then
      if seen + 1 = count then some ([], rest)
      else (bodyAhead q count (seen + 1) rest).map fun (s, after) => (c :: s, after)
    else if c = '\n' && count = 1 then none
    else if c = '\\' then
      match rest with
      | d :: rest => (bodyAhead q count 0 rest).map fun (s, after) => (c :: d :: s, after)
      | [] => none
    else (bodyAhead q count 0 rest).map fun (s, after) => (c :: s, after)

def textAhead (isRaw isBytes : Bool) (q : Char) (s : List Char) :
    Option (ConstantToken × List Char) := do
  let opening := (s.takeWhile (· = q)).length
  if opening = 2 then return (.text isBytes, s.drop 2)
  let count := if opening < 3 then 1 else 3
  let (body, rest) ← bodyAhead q count 0 (s.drop count)
  if isBytes && !body.all (·.toNat < 128) then none
  if !isRaw && !hasGoodEscapes isBytes body then none
  return (.text isBytes, rest)

/-- The letters before the quotes of a text: whether backslashes stand for themselves, and
whether it is bytes. -/
def textKind? (letters : List Char) : Option (Bool × Bool) :=
  match String.ofList (letters.map Char.toLower) with
  | "" | "u" => some (false, false)
  | "r" => some (true, false)
  | "b" => some (false, true)
  | "br" | "rb" => some (true, true)
  | _ => none

def variants : List (String × Char) :=
  [("sſˢₛｓ𝐬𝑠𝒔𝓈𝓼𝔰𝕤𝖘𝗌𝘀𝘴𝙨𝚜", 's'), ("eᵉₑℯⅇｅ𝐞𝑒𝒆𝓮𝔢𝕖𝖊𝖾𝗲𝘦𝙚𝚎", 'e'),
    ("tᵗₜｔ𝐭𝑡𝒕𝓉𝓽𝔱𝕥𝖙𝗍𝘁𝘵𝙩𝚝", 't')]

def plainLetter (c : Char) : Char :=
  ((variants.find? fun v => v.1.toList.contains c).map (·.2)).getD c

def nameToken? (name : List Char) : Option ConstantToken :=
  if ["None", "True", "False"].contains (String.ofList name) then some .single
  else if name.map plainLetter = "set".toList then some .setName
  else none

def tokenAhead : List Char → Option (ConstantToken × List Char)
  | [] => none
  | c :: rest =>
    let s := c :: rest
    if c.isDigit || (c = '.' && rest.head?.any Char.isDigit) then numberAhead s
    else if "...".toList.isPrefixOf s then some (.single, s.drop 3)
    else if isNamePart c then
      let name := s.takeWhile isNamePart
      let after := s.drop name.length
      match after.head? with
      | some q =>
        if q = '\'' || q = '"' then do
          let (isRaw, isBytes) ← textKind? name
          textAhead isRaw isBytes q after
        else do return (← nameToken? name, after)
      | none => do return (← nameToken? name, after)
    else if c = '\'' || c = '"' then textAhead false false c s
    else if (c = '+' || c = '-' || c = ':') && rest.head?.any (fun d => d = '=' || d = '>') then
      none
    else if "()\x7b\x7d,:+-".toList.contains c then some (.mark c, rest)
    else none

def maxBrackets : Nat := 200

def depthAfter (depth : Nat) : ConstantToken → Nat
  | .mark c =>
    if c = '(' || c = '\x7b' then depth + 1
    else if c = ')' || c = '\x7d' then depth - 1
    else depth
  | _ => depth

/-- The tokens of a text in some brackets. `blanks` counts the blanks at the beginning of a line;
it is nothing after the first token of the line. -/
def tokensFrom : (bound depth : Nat) → (blanks? : Option Nat) → List Char →
    Option (List ConstantToken)
  | 0, _, _, _ => none
  | _, _, _, [] => some []
  | bound + 1, depth, blanks?, c :: rest =>
    if c = '\n' then
      if depth = 0 && blanks?.isNone then (tokensFrom bound 0 (some 0) rest).map (.lineEnd :: ·)
      else tokensFrom bound depth (if depth = 0 then some 0 else none) rest
    else if c = ' ' || c = '\t' then tokensFrom bound depth (blanks?.map (· + 1)) rest
    else if c = '\x0c' then tokensFrom bound depth (blanks?.map fun _ => 0) rest
    else if c = '#' then tokensFrom bound depth blanks? (rest.dropWhile (· ≠ '\n'))
    else if c = '\\' then
      match rest with
      | '\n' :: d :: rest => tokensFrom bound depth blanks? (d :: rest)
      | _ => none
    else if blanks?.any (0 < ·) then none
    else do
      let (token, after) ← tokenAhead (c :: rest)
      let depth := depthAfter depth token
      if maxBrackets < depth then none
      else return token :: (← tokensFrom bound depth none after)

def tokens (s : List Char) : Option (List ConstantToken) :=
  if s.contains '\x00' then none
  else
    let s := Text.unifyLineEnds s
    tokensFrom (s.length + 1) 0 (some 0) (s.dropWhile fun c => c = ' ' || c = '\t')

end Constant

end SchemaAtlas.Terminal
