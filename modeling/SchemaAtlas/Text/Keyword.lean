import SchemaAtlas.Text.Blank
import SchemaAtlas.Text.Word

/-! # Keywords in any letter case

Keywords are written in capital letters and read in any case. Besides its two
ASCII forms, a letter may stand as one of the few other characters that fold to it:
the dotless and the dotted `i`, the long `s` and the kelvin sign.
-/
namespace SchemaAtlas.Text

/-- The capital letter that a character stands for when case is ignored. -/
def caseless (c : Char) : Char :=
  if c = 'ı' ∨ c = 'İ' then 'I'
  else if c = 'ſ' then 'S'
  else if c = '\u212a' then 'K'
  else c.toUpper

/-- The text after a keyword, or nothing if the text does not begin with it. -/
def keyword? : List Char → List Char → Option (List Char)
  | [], s => some s
  | _ :: _, [] => none
  | k :: kw, c :: s => if caseless c = k then keyword? kw s else none

/-- The text after several keywords with blanks between each two. -/
def phrase? : List (List Char) → List Char → Option (List Char)
  | [], s => some s
  | [kw], s => keyword? kw s
  | kw :: more, s => do phrase? more (← afterBlanks? (← keyword? kw s))

/-- Whether a word cannot continue into this text. -/
def wordEnds : List Char → Bool
  | [] => true
  | c :: _ => !isWord c

/-- The first answer of `read` over the suffixes of a text, the longest first. -/
def search (read : List Char → Option α) : List Char → Option α
  | [] => read []
  | c :: rest => match read (c :: rest) with
    | some a => some a
    | none => search read rest

/-- Like `search`, for a phrase that must not continue the word before it. -/
def searchWord (read : List Char → Option α) : Bool → List Char → Option α
  | _, [] => none
  | inWord, c :: rest =>
    match if inWord then none else read (c :: rest) with
    | some a => some a
    | none => searchWord read (isWord c) rest

end SchemaAtlas.Text
