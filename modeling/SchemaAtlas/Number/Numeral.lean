import SchemaAtlas.Text.Blank
import SchemaAtlas.Text.Digit
import SchemaAtlas.Value.Display

/-! # Numerals

Numbers written as plain texts. Digits may come from any script, and single underscores may stand
between them. ASCII white space around a numeral does not count.
-/
namespace SchemaAtlas.Number

inductive NumeralError where
  | notWhole (s : List Char)
  | notDecimal (s : List Char)
  | tooManyDigits (count : Nat)
  deriving DecidableEq, Repr

def maxShown : Nat := 200

def NumeralError.message : NumeralError → String
  | .notWhole s =>
    "invalid literal for int() with base 10: " ++
      .ofList ((Value.quoted (.ofList s)).toList.take maxShown)
  | .notDecimal s => "could not convert string to float: " ++ Value.quoted (.ofList s)
  | .tooManyDigits n => Text.tooManyDigitsMessage (some n)

/-- A character of a numeral with ASCII digits and blanks; a question mark if it is neither. -/
def plainChar (c : Char) : Char :=
  if c.toNat < 127 then c
  else if Text.isBlank c then ' '
  else match Text.decimalDigit? c with
    | some n => Nat.digitChar n
    | none => '?'

def isSpace (c : Char) : Bool :=
  c = ' ' || (9 ≤ c.toNat && c.toNat ≤ 13)

def plainNumeral (s : List Char) : List Char :=
  (((s.map plainChar).dropWhile isSpace).reverse.dropWhile isSpace).reverse

def joinDigits? (afterDigit : Bool) : List Char → Option (List Char)
  | [] => some []
  | c :: rest =>
    if c = '_' then
      if afterDigit && rest.head?.any Char.isDigit then joinDigits? false rest else none
    else (joinDigits? c.isDigit rest).map (c :: ·)

def splitSign : List Char → Bool × List Char
  | '-' :: rest => (true, rest)
  | '+' :: rest => (false, rest)
  | s => (false, s)

def wholeNumber (s : List Char) : Except NumeralError Int :=
  let (negative, digits) := splitSign (plainNumeral s)
  match joinDigits? false digits with
  | none => .error (.notWhole s)
  | some ds =>
    if ds.isEmpty || !ds.all Char.isDigit then .error (.notWhole s)
    else if Text.maxDigits < ds.length then .error (.tooManyDigits ds.length)
    else
      let n : Int := Text.ofDigits 10 ds
      .ok (if negative then -n else n)

def namedNumbers : List String := ["inf", "infinity", "nan"]

/-- Whether some characters are the exponent of a number, or there is none. -/
def isExponent : List Char → Bool
  | [] => true
  | e :: rest =>
    let (_, ds) := splitSign rest
    (e = 'e' || e = 'E') && !ds.isEmpty && ds.all Char.isDigit

def isUnsignedDecimal (s : List Char) : Bool :=
  let whole := s.takeWhile Char.isDigit
  let rest := s.drop whole.length
  let fraction := if rest.head? = some '.' then (rest.drop 1).takeWhile Char.isDigit else []
  let rest := if rest.head? = some '.' then rest.drop (fraction.length + 1) else rest
  namedNumbers.contains (.ofList (s.map Char.toLower)) ||
    (!(whole ++ fraction).isEmpty && isExponent rest)

def isDecimal (s : List Char) : Bool :=
  (joinDigits? false (plainNumeral s)).any fun t => isUnsignedDecimal (splitSign t).2

end SchemaAtlas.Number
