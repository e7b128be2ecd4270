import SchemaAtlas.Terminal.Cluster

/-! # Lines with styles

A line of text and the spans of it that styles are about. The terminal measures and cuts a line
segment by segment, from each end of a span to the next.
-/
namespace SchemaAtlas.Terminal

structure Span where
  start : Nat
  stop : Nat
  style : List Char
  deriving DecidableEq, Repr

structure Line where
  chars : List Char
  spans : List Span := []
  deriving DecidableEq, Repr

namespace Line

def size (l : Line) : Nat :=
  l.chars.length

def cells (l : Line) : Nat :=
  Terminal.cells l.chars

/-- A part of a line. Of spans there remains what lies in it, unless that is nothing. -/
def slice (l : Line) (start stop : Nat) : Line :=
  ⟨(l.chars.take stop).drop start,
    l.spans.filterMap fun s =>
      let first := s.start - start
      let last := min s.stop stop - start
      if first < last then some ⟨first, last, s.style⟩ else none⟩

def slicesFrom (l : Line) (start : Nat) : (cuts : List Nat) → List Line
  | [] => [l.slice start l.size]
  | cut :: cuts => l.slice start cut :: slicesFrom l cut cuts

/-- A line cut at some places; it stays as it is if there are none. -/
def cutAt (l : Line) (cuts : List Nat) : List Line :=
  if cuts.isEmpty then [l] else l.slicesFrom 0 cuts

def append (a b : Line) : Line :=
  ⟨a.chars ++ b.chars,
    a.spans ++ b.spans.map fun s => ⟨a.size + s.start, a.size + s.stop, s.style⟩⟩

/-- A line with other characters. If there are fewer, spans end with them, and those that begin
past the end are dropped. -/
def withChars (l : Line) (s : List Char) : Line :=
  let n := s.length
  ⟨s, if l.size ≤ n then l.spans
    else (l.spans.filter (·.start < n)).map fun span => { span with stop := min span.stop n }⟩

/-- A line with some more blanks, which belong to the spans that end with it. -/
def extend (l : Line) (blanks : Nat) : Line :=
  ⟨l.chars ++ List.replicate blanks ' ',
    l.spans.map fun s => if l.size ≤ s.stop then { s with stop := s.stop + blanks } else s⟩

def padTo (l : Line) (width : Nat) : Line :=
  { l with chars := padRight width l.chars }

/-- The segments of a line from a place on, the next ends of spans being in order. -/
def segmentsFrom (start : Nat) (s : List Char) : (ends : List Nat) → List (List Char)
  | [] => [s]
  | stop :: ends => s.take (stop - start) :: segmentsFrom stop (s.drop (stop - start)) ends

def segments (l : Line) : List (List Char) :=
  segmentsFrom 0 l.chars ((l.spans.flatMap fun s => [s.start, s.stop]).mergeSort (· ≤ ·))

end Line

def segmentCells (ss : List (List Char)) : Nat :=
  ss.foldl (fun n s => n + cells s) 0

def cutSegments (width : Nat) : List (List Char) → List (List Char)
  | [] => []
  | s :: rest =>
    if cells s < width then s :: cutSegments (width - cells s) rest else [setCells width s]

def fitSegments (width : Nat) (ss : List (List Char)) : List (List Char) :=
  let n := segmentCells ss
  if n < width then ss ++ [List.replicate (width - n) ' ']
  else if n = width then ss
  else cutSegments width ss

end SchemaAtlas.Terminal
