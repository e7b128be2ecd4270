import SchemaAtlas.Text.Case
import SchemaAtlas.Text.Pieces

/-! # Paths

Names of files with slashes between their parts. Empty parts and single dots say nothing and are
left out, so a path has one normal form; a pair of dots leads to the directory above. The suffix
of a name begins at its last dot, unless that is its first or last character.
-/
namespace SchemaAtlas.Command

/-- A path: what it begins with, which is empty for a path from the working directory, and its
parts. -/
structure Path where
  root : List Char
  parts : List (List Char)
  deriving DecidableEq, Repr

namespace Path

/-- The slashes at the beginning of a path: one or exactly two. -/
def rootOf (s : List Char) : List Char :=
  match (s.takeWhile (· = '/')).length with
  | 0 => []
  | 2 => ['/', '/']
  | _ => ['/']

def ofText (s : List Char) : Path :=
  ⟨rootOf s, (Text.pieces '/' s).filter fun part => !part.isEmpty && part ≠ ['.']⟩

def ofName (name : String) : Path :=
  ofText name.toList

def text (p : Path) : String :=
  match p.root ++ ['/'].intercalate p.parts with
  | [] => "."
  | s => .ofList s

def name (p : Path) : List Char :=
  p.parts.getLastD []

/-- The part of a name before its suffix, and the suffix with its dot. -/
def splitSuffix (name : List Char) : List Char × List Char :=
  let suffix := (name.reverse.takeWhile (· ≠ '.')).reverse
  let before := name.take (name.length - suffix.length - 1)
  if suffix.isEmpty || before.isEmpty then (name, []) else (before, '.' :: suffix)

def suffix (p : Path) : String :=
  .ofList (Text.lower (splitSuffix p.name).2)

def stem (p : Path) : String :=
  .ofList (splitSuffix p.name).1

def maxPartSize : Nat := 255

def maxSize : Nat := 4095

/-- Parts after others without pairs of dots, which take back the part before them; nothing if
they lead above the directory that the path begins in. -/
def resolveFrom (done : List (List Char)) : List (List Char) → Option (List (List Char))
  | [] => some done.reverse
  | part :: rest =>
    if part = ['.', '.'] then
      match done with
      | _ :: done => resolveFrom done rest
      | [] => none
    else resolveFrom (part :: done) rest

/-- The parts of a path from the working directory without pairs of dots, if it does not leave
the directory. -/
def resolved? (p : Path) : Option (List (List Char)) :=
  if p.root.isEmpty then resolveFrom [] p.parts else none

end Path

end SchemaAtlas.Command
