import SchemaAtlas.Value.Display
import SchemaAtlas.Text.Cursor

/-! # Faults of settings files

What can be wrong with a TOML text, the place where it is found, and the words for it.
-/
namespace SchemaAtlas.Toml

inductive Problem where
  | invalidStatement
  | expectedNewline
  | expected (closing : String)
  | invalidCharacter (c : Char)
  | illegalCharacter (c : Char)
  | declaredTwice (key : List String)
  | immutable (key : List String)
  | redefined (key : List String)
  | overwrite
  | unclosedHeader
  | unclosedArrayHeader
  | expectedEquals
  | invalidKey
  | unclosedArray
  | unclosedTable
  | duplicateKey (name : String)
  | invalidEscape
  | invalidHex
  | notScalar
  | unterminatedString
  | invalidMoment
  | invalidValue
  | tooManyDigits (count : Nat)
  | tooDeep
  deriving DecidableEq, Repr

def shownKey : List String → String
  | [k] => "(" ++ Value.quoted k ++ ",)"
  | ks => "(" ++ ", ".intercalate (ks.map Value.quoted) ++ ")"

def shownChar (c : Char) : String :=
  Value.quoted (String.singleton c)

def Problem.message : Problem → String
  | .invalidStatement => "Invalid statement"
  | .expectedNewline => "Expected newline or end of document after a statement"
  | .expected closing => "Expected " ++ Value.quoted closing
  | .invalidCharacter c => "Found invalid character " ++ shownChar c
  | .illegalCharacter c => "Illegal character " ++ shownChar c
  | .declaredTwice key => "Cannot declare " ++ shownKey key ++ " twice"
  | .immutable key => "Cannot mutate immutable namespace " ++ shownKey key
  | .redefined key => "Cannot redefine namespace " ++ shownKey key
  | .overwrite => "Cannot overwrite a value"
  | .unclosedHeader => "Expected ']' at the end of a table declaration"
  | .unclosedArrayHeader => "Expected ']]' at the end of an array declaration"
  | .expectedEquals => "Expected '=' after a key in a key/value pair"
  | .invalidKey => "Invalid initial character for a key part"
  | .unclosedArray => "Unclosed array"
  | .unclosedTable => "Unclosed inline table"
  | .duplicateKey name => "Duplicate inline table key " ++ Value.quoted name
  | .invalidEscape => "Unescaped '\\' in a string"
  | .invalidHex => "Invalid hex value"
  | .notScalar => "Escaped character is not a Unicode scalar value"
  | .unterminatedString => "Unterminated string"
  | .invalidMoment => "Invalid date or datetime"
  | .invalidValue => "Invalid value"
  | .tooManyDigits n => Text.tooManyDigitsMessage (some n)
  | .tooDeep => "Nested too deeply"

/-- A text that is not TOML: what is wrong, and at which line and column. No place is
given past the last character. -/
structure SyntaxError where
  problem : Problem
  place? : Option (Nat × Nat)
  deriving DecidableEq, Repr

def SyntaxError.message (e : SyntaxError) : String :=
  match e.problem, e.place? with
  | .tooManyDigits n, _ => (Problem.tooManyDigits n).message
  | p, none => p.message ++ " (at end of document)"
  | p, some (line, column) => s!"{p.message} (at line {line}, column {column})"

end SchemaAtlas.Toml
