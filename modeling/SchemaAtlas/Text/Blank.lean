/-! # Blank characters

The white space that separates words: the ASCII separators, the information
separators, and the spaces and line separators of Unicode. Stripping removes
it from both ends of a text; the first word ends where it begins.
-/
namespace SchemaAtlas.Text

def blanks : List Char :=
  ['\t', '\n', '\x0b', '\x0c', '\r', '\x1c', '\x1d', '\x1e', '\x1f', ' ', '\x85', '\xa0',
    '\u1680', '\u2000', '\u2001', '\u2002', '\u2003', '\u2004', '\u2005', '\u2006', '\u2007',
    '\u2008', '\u2009', '\u200a', '\u2028', '\u2029', '\u202f', '\u205f', '\u3000']

def isBlank (c : Char) : Bool :=
  blanks.contains c

def stripStart (s : List Char) : List Char :=
  s.dropWhile isBlank

def stripEnd (s : List Char) : List Char :=
  (s.reverse.dropWhile isBlank).reverse

def strip (s : List Char) : List Char :=
  stripEnd (stripStart s)

def allBlank (s : List Char) : Bool :=
  s.all isBlank

/-- The first word of a text and what follows the blanks after it. -/
def firstWord (s : List Char) : List Char × List Char :=
  let s := stripStart s
  (s.takeWhile (!isBlank ·), stripStart (s.dropWhile (!isBlank ·)))

/-- The text after a non-empty run of blanks, or nothing if there is none. -/
def afterBlanks? : List Char → Option (List Char)
  | [] => none
  | c :: rest => if isBlank c then some (stripStart rest) else none

theorem stripStart_of_not_blank {c : Char} (h : isBlank c = false) (s : List Char) :
    stripStart (c :: s) = c :: s := by
  simp [stripStart, h]

theorem stripStart_of_blank {c : Char} (h : isBlank c = true) (s : List Char) :
    stripStart (c :: s) = stripStart s := by
  simp [stripStart, h]

end SchemaAtlas.Text
