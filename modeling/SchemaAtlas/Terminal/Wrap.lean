import SchemaAtlas.Terminal.Line
import SchemaAtlas.Text.Blank

/-! # Lines on a terminal

Breaking a text into lines of a width. Lines break between words; a word that fits on no line
is folded over several, or cut and marked with an ellipsis.
-/
namespace SchemaAtlas.Terminal

def placesFrom (c : Char) (i : Nat) : List Char → List Nat
  | [] => []
  | d :: rest => if d = c then i :: placesFrom c (i + 1) rest else placesFrom c (i + 1) rest

def textLines (l : Line) : List Line :=
  match placesFrom '\n' 0 l.chars with
  | [] => [l]
  | feeds =>
    List.zipWith l.slice (0 :: feeds.map (· + 1)) (feeds ++ [l.size])

/-- Parts of a line one after the other with blanks for the tabs at their ends, each up to the
next of the tab stops, which stand eight cells apart. -/
def joinParts (used : Nat) (done : Line) : List Line → Line
  | [] => done
  | part :: rest =>
    let blank := part.withChars (part.chars.map fun c => if c = '\t' then ' ' else c)
    let used := used + blank.cells
    let more := if part.chars.getLast? = some '\t' then (8 - used % 8) % 8 else 0
    joinParts (used + more) (done.append (blank.extend more)) rest

def expandTabs (l : Line) : Line :=
  match placesFrom '\t' 0 l.chars with
  | [] => l
  | tabs => joinParts 0 ⟨[], []⟩ (l.cutAt (tabs.map (· + 1)))

/-- The words of a text, each with the blanks after it, after those read. Blanks at the
beginning belong to the first word. -/
def lineWordsFrom (word : List Char) (done : Bool) : List Char → List (List Char)
  | [] => if word.isEmpty then [] else [word.reverse]
  | c :: rest =>
    let blank := Text.isBlank c
    if done && !blank then word.reverse :: lineWordsFrom [c] false rest
    else lineWordsFrom (c :: word) (blank && (done || word.any (!Text.isBlank ·))) rest

def lineWords (s : List Char) : List (List Char) :=
  lineWordsFrom [] false s

inductive Overflow where
  | fold
  | ellipsis
  deriving DecidableEq, Repr

/-- How lines are filled so far: the places where the text is cut, the last one first, how many
characters have been read, and the cells that the last line takes. -/
structure Filling where
  cuts : List Nat := []
  read : Nat := 0
  used : Nat := 0

def Filling.begin (f : Filling) (s : List Char) : Filling :=
  ⟨if f.read = 0 then f.cuts else f.read :: f.cuts, f.read + s.length, cells s⟩

def Filling.fold (f : Filling) (word : List Char) : (sizes : List Nat) → Filling
  | [] => { f with read := f.read + word.length }
  | n :: sizes => Filling.fold (f.begin (word.take n)) (word.drop n) sizes

def Filling.addWord (overflow : Overflow) (width : Nat) (f : Filling) (word : List Char) :
    Filling :=
  let size := cells (Text.stripEnd word)
  if f.used + size ≤ width then ⟨f.cuts, f.read + word.length, f.used + cells word⟩
  else if width < size then
    match overflow with
    | .fold => f.fold word (foldedSizes width word)
    | .ellipsis => f.begin word
  else if f.used = 0 then { f with read := f.read + word.length }
  else f.begin word

def lineCuts (overflow : Overflow) (width : Nat) (s : List Char) : List Nat :=
  ((lineWords s).foldl (Filling.addWord overflow width) {}).cuts.reverse

def trimEnd (width : Nat) (l : Line) : Line :=
  let blanks := l.size - (Text.stripEnd l.chars).length
  l.withChars (l.chars.take (l.size - min blanks (l.size - width)))

def truncate (overflow : Overflow) (width : Nat) (l : Line) : Line :=
  if l.cells ≤ width then l
  else match overflow with
    | .fold => l.withChars (setCells width l.chars)
    | .ellipsis => l.withChars (setCells (width - 1) l.chars ++ ['…'])

def wrapped (overflow : Overflow) (width : Nat) (text : Line) : List Line :=
  (textLines text).flatMap fun line =>
    let line := expandTabs line
    (line.cutAt (lineCuts overflow width line.chars)).map fun line =>
      truncate overflow width (trimEnd width line)

end SchemaAtlas.Terminal
