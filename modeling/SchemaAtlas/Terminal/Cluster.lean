import SchemaAtlas.Terminal.CellWidth

/-! # Clusters of characters

Characters of a text that stay together when it is cut: characters that take no cells go with the
one before them, and a joiner brings the next character in. Only the first cluster of a text can
take no cells.
-/
namespace SchemaAtlas.Terminal

/-- Characters that stay together: how many there are, and the cells that they take. -/
structure Cluster where
  size : Nat
  cells : Nat
  deriving DecidableEq, Repr

def Cluster.add (k : Cluster) (more : Nat) : Cluster :=
  ⟨k.size + 1, k.cells + more⟩

/-- The clusters of the rest of a text after a cluster that may still grow and the last
character that took cells and has not been widened. -/
def clustersFrom (open? : Option Cluster) (last? : Option Char) : List Char → List Cluster
  | [] => open?.toList
  | c :: rest =>
    let n := charCells c
    match open? with
    | none => clustersFrom (some ⟨1, n⟩) (if n = 0 then none else some c) rest
    | some k =>
      if c = '\u200d' then
        match rest with
        | [] => [k.add 0]
        | _ :: rest => clustersFrom (some ((k.add 0).add 0)) last? rest
      else if c = '\ufe0f' && last?.any (Text.inRanges widenedBounds) then
        clustersFrom (some (k.add 1)) none rest
      else if n = 0 then clustersFrom (some (k.add 0)) last? rest
      else k :: clustersFrom (some ⟨1, n⟩) (some c) rest

def clusters (s : List Char) : List Cluster :=
  clustersFrom none none s

/-- How many characters of some clusters fit into some cells, and whether a cell is left over
because a cluster is cut through. -/
def fitting : (width : Nat) → List Cluster → Nat × Bool
  | 0, _ => (0, false)
  | _, [] => (0, false)
  | width + 1, k :: rest =>
    if k.cells ≤ width + 1 then
      let (size, half) := fitting (width + 1 - k.cells) rest
      (k.size + size, half)
    else (0, true)

def padRight (width : Nat) (s : List Char) : List Char :=
  s ++ List.replicate (width - cells s) ' '

/-- A text filled up with blanks on both sides; the odd blank goes to the right. -/
def padBoth (width : Nat) (s : List Char) : List Char :=
  padRight width (List.replicate ((width - cells s) / 2) ' ' ++ s)

/-- A text that is cut or filled up to some cells; half of a cluster that is cut through becomes
a blank. -/
def setCells (width : Nat) (s : List Char) : List Char :=
  if cells s ≤ width then padRight width s
  else
    let (size, half) := fitting width (clusters s)
    s.take size ++ if half then [' '] else []

/-- The sizes of the parts of a text that each fit into a width, after some characters and the
cells that they take. -/
def foldedFrom (width size used : Nat) : List Cluster → List Nat
  | [] => if used = 0 then [] else [size]
  | k :: rest =>
    if width < used + k.cells then size :: foldedFrom width k.size k.cells rest
    else foldedFrom width (size + k.size) (used + k.cells) rest

def foldedSizes (width : Nat) (s : List Char) : List Nat :=
  foldedFrom width 0 0 (clusters s)

def charCount : List Cluster → Nat
  | [] => 0
  | k :: rest => k.size + charCount rest

theorem charCount_clustersFrom (open? : Option Cluster) (last? : Option Char) (s : List Char) :
    charCount (clustersFrom open? last? s) = charCount open?.toList + s.length := by
  fun_induction clustersFrom open? last? s <;> simp_all [charCount, Cluster.add] <;> omega

theorem charCount_clusters (s : List Char) : charCount (clusters s) = s.length := by
  simp [clusters, charCount_clustersFrom, charCount]

end SchemaAtlas.Terminal
