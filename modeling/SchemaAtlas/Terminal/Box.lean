import SchemaAtlas.Terminal.Markup
import SchemaAtlas.Terminal.Wrap

/-! # Boxed tables

A title over a table of marked up texts in a box. Every column is as wide as its longest line
with a blank on either side, as long as the box fits into the width of the terminal; else the
widest columns give way. The title is centred over the box.
-/
namespace SchemaAtlas.Terminal

structure Box where
  title : String
  headers : List String
  rows : List (List String)

def isLineBreak (c : Char) : Bool :=
  [0x0a, 0x1c, 0x1d, 0x1e, 0x85, 0x2028, 0x2029].contains c.toNat

def textWidth (s : List Char) : Nat :=
  let lines := Text.pieces '\n' (s.map fun c => if isLineBreak c then '\n' else c)
  (lines.map cells).foldl max 0

/-- The widths of the columns of some rows, with the blanks on either side. -/
def columnWidths (most : Nat) (headers : List (List Char)) (rows : List (List (List Char))) :
    List Nat :=
  let width (cell : List Char) := min most (textWidth cell + 2)
  rows.foldl (fun ws row => List.zipWith (fun w cell => max w (width cell)) ws row)
    (headers.map width)

def roundedQuotient (n d : Nat) : Nat :=
  let q := n / d
  let rest := 2 * (n % d)
  if rest < d ∨ (rest = d ∧ q % 2 = 0) then q else q + 1

/-- Takes an excess evenly from the columns that may give some, from none more than its most. -/
def shareExcess (excess : Nat) : List (Nat × Nat) → List Nat
  | [] => []
  | (width, most) :: rest =>
    let sharers := ((width, most) :: rest).countP (0 < ·.2)
    let share := if most = 0 then 0 else min most (roundedQuotient excess sharers)
    (width - share) :: shareExcess (excess - share) rest

def excessOver (most : Nat) (ws : List Nat) : Nat :=
  ws.foldl (· + ·) 0 - most

/-- Makes the widest columns narrower until nothing is left over, in a number of rounds. -/
def narrow (most : Nat) : (rounds : Nat) → List Nat → List Nat
  | 0, ws => ws
  | rounds + 1, ws =>
    let excess := excessOver most ws
    let widest := ws.foldl max 0
    let next := (ws.filter (· ≠ widest)).foldl max 0
    if excess = 0 then ws
    else narrow most rounds <| shareExcess excess <| ws.map fun w =>
      (w, if w = widest then min excess (widest - next) else 0)

def fittedWidths (most : Nat) (ws : List Nat) : List Nat :=
  let ws := narrow most ws.length ws
  shareExcess (excessOver most ws) (ws.map fun w => (w, w))

def rule (left fill between right : Char) (widths : List Nat) : List Char :=
  left :: ((widths.map fun w => List.replicate w fill).intersperse [between]).flatten ++
    [right]

/-- A line of a cell with a blank on either side. It is filled up as a whole and then fitted three
times: without the blanks, with them, and into the row. -/
def cellLine (width : Nat) (line : Line) : List Char :=
  let inner := fitSegments (width - 2) (line.padTo (width - 2)).segments
  (fitSegments width (fitSegments width ([' '] :: inner ++ [[' ']]))).flatten

def barred (bar : Char) (widths : List Nat) (cells : List Line) : List Char :=
  bar :: ((List.zipWith cellLine widths cells).intersperse [bar]).flatten ++ [bar]

def rowCells (widths : List Nat) (row : List Line) : List (List Line) :=
  List.zipWith (fun w cell => wrapped .ellipsis (w - 2) cell) widths row

def rowLines (bar : Char) (widths : List Nat) (cells : List (List Line)) : List (List Char) :=
  let height := (cells.map List.length).foldl max 1
  (List.range height).map fun i => barred bar widths (cells.map fun ls => ls.getD i ⟨[], []⟩)

def boxLines (widths : List Nat) (title : List Char) (headers : List (List Line))
    (rows : List (List (List Line))) : List (List Char) :=
  let top := rule '┏' '━' '┳' '┓' widths
  padBoth top.length title ::
    top ::
    rowLines '┃' widths headers ++
    rule '┡' '━' '╇' '┩' widths ::
    rows.flatMap (rowLines '│' widths) ++
    [rule '└' '─' '┴' '┘' widths]

/-- Fails with the first error in the texts of some rows, which are read column by column. -/
def checkColumns (rows : List (List (Except MarkupError Line))) : (columns : Nat) →
    Except MarkupError Unit
  | 0 => .ok ()
  | columns + 1 => do
    (rows.filterMap List.head?).forM fun cell => discard cell
    checkColumns (rows.map (List.drop 1)) columns

/-- The text of a box on a terminal of a width. All texts are read before any style is. -/
def Box.text (b : Box) (width : Nat) : Except MarkupError String := do
  let read := (b.headers :: b.rows).map fun row => row.map fun s => marked s.toList
  checkColumns read b.headers.length
  let rows ← read.mapM fun row => row.mapM id
  let most := width - (b.headers.length + 1)
  let texts := rows.map fun row => row.map Line.chars
  let widths := fittedWidths most (columnWidths most (texts.headD []) (texts.drop 1))
  let cells := rows.map (rowCells widths)
  cells.forM fun row => row.forM fun cell => cell.forM Line.check
  let lines := boxLines widths b.title.toList (cells.headD []) (cells.drop 1)
  return .ofList (lines.flatMap fun line => line ++ ['\n'])

end SchemaAtlas.Terminal
