import SchemaAtlas.Sql.Scan

/-! # Splitting at delimiters

A text is cut at the delimiters that stand outside quotes and parentheses. The parts keep
their blanks; a blank part after the last cut is dropped.
-/
namespace SchemaAtlas.Sql

/-- Cuts a walk at some of its tokens: the parts before the cuts, and what remains. -/
def cut (isCut : Token → Bool) : List Token → List (List Char) × List Char
  | [] => ([], [])
  | t :: rest =>
    let (parts, tail) := cut isCut rest
    if isCut t then ([] :: parts, tail)
    else match parts with
      | [] => ([], t.char :: tail)
      | p :: parts => ((t.char :: p) :: parts, tail)

/-- The parts of a cut; the last one counts only if it is not blank. -/
def partsOf (c : List (List Char) × List Char) : List (List Char) :=
  if Text.allBlank c.2 then c.1 else c.1 ++ [c.2]

/-- Whether a token is the delimiter outside quotes and parentheses. -/
def Token.delimits (d : Char) (t : Token) : Bool :=
  t.char = d && t.isTopLevel

def splitAt (d : Char) (text : List Char) : List (List Char) :=
  partsOf (cut (Token.delimits d) (tokens text))

/-- The parts of a text between delimiters given as a text; only a single character can
be met. -/
def split (text delimiter : List Char) : List (List Char) :=
  match delimiter with
  | [d] => splitAt d text
  | _ => partsOf ([], text)

end SchemaAtlas.Sql
