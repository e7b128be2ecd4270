import SchemaAtlas.Terminal.Constant.Shape
import SchemaAtlas.Terminal.Emoji
import SchemaAtlas.Terminal.Line
import SchemaAtlas.Terminal.Style
import SchemaAtlas.Text.Word

/-! # Marked up text

Text with tags in brackets. A tag opens a style and a tag with a slash closes one, the last
opened if it names none; styles left open end with the text. A backslash before a tag makes it
plain text. What is shown is the text between the tags, with emoji for their codes and without
characters that would move the cursor.
-/
namespace SchemaAtlas.Terminal

inductive Piece where
  | plain (s : List Char)
  | tag (s : List Char)

def beginsTag (c : Char) : Bool :=
  ('a' ≤ c && c ≤ 'z') || c = '#' || c = '/' || c = '@'

/-- The tag whose opening bracket has just been read: everything up to the closing bracket,
without another opening one. -/
def tagAhead? (s : List Char) : Option (List Char) :=
  let body := s.takeWhile fun c => c ≠ '[' && c ≠ ']'
  if body.head?.any beginsTag && (s.drop body.length).head? = some ']' then some body else none

def plainPiece (s : List Char) : List Piece :=
  if s.isEmpty then [] else [.plain s]

/-- A tag after some backslashes: each two stand for one, and an odd one makes it plain. -/
def tagPieces (slashes : Nat) (tag : List Char) : List Piece :=
  plainPiece (List.replicate (slashes / 2) '\\') ++
    if slashes % 2 = 1 then [.plain ('[' :: tag ++ [']'])] else [.tag tag]

/-- The pieces of the rest of a text, after the plain text just read (the last character
first), the backslashes after it, and some characters that are passed over. -/
def piecesFrom (read : List Char) (slashes : Nat) : (passed : Nat) → List Char → List Piece
  | _, [] => plainPiece (read.reverse ++ List.replicate slashes '\\')
  | passed + 1, _ :: rest => piecesFrom read slashes passed rest
  | 0, c :: rest =>
    if c = '\\' then piecesFrom read (slashes + 1) 0 rest
    else
      let all := c :: (List.replicate slashes '\\' ++ read)
      if c ≠ '[' then piecesFrom all 0 0 rest
      else match tagAhead? rest with
        | none => piecesFrom all 0 0 rest
        | some tag =>
          plainPiece read.reverse ++ tagPieces slashes tag ++
            piecesFrom [] 0 (tag.length + 1) rest

def markupPieces (s : List Char) : List Piece :=
  piecesFrom [] 0 0 s

def unescaped : List Char → List Char
  | '\\' :: '[' :: rest => '[' :: unescaped rest
  | c :: rest => c :: unescaped rest
  | [] => []

/-- A style that has been opened: where it begins, the normal form of its name, and its
parameters. -/
structure OpenTag where
  start : Nat
  name : List Char
  parameters? : Option (List Char)

def OpenTag.isAction (t : OpenTag) : Bool :=
  t.name.head? = some '@'

/-- The span of a tag that is closed. Its parameters belong to its style; an action has none. -/
def OpenTag.closedAt (t : OpenTag) (stop : Nat) : Span :=
  ⟨t.start, stop, if t.isAction then [] else t.name ++ (t.parameters?.map (' ' :: ·)).getD []⟩

def splitTag (tag : List Char) : List Char × Option (List Char) :=
  let name := tag.takeWhile (· ≠ '=')
  (name, if name.length < tag.length then some (tag.drop (name.length + 1)) else none)

/-- Whether the parameters of an action can be read: they are the name of an action, with or
without constants in brackets, or constants. -/
def isReadable (parameters : List Char) : Bool :=
  let s := Text.strip parameters
  let name := s.takeWhile fun c => Text.isWord c || c = '.'
  let rest := s.drop name.length
  if rest.isEmpty then true
  else if rest.head? = some '(' && rest.getLast? = some ')' && !rest.contains '\n' then
    Constant.isConstant rest
  else Constant.isConstant s

/-- Marked up text while it is read: what it shows so far, the spans of the tags that have been
closed and the tags that are open, the last first. -/
structure Marking where
  chars : List Char := []
  closed : List Span := []
  opened : List OpenTag := []

/-- Which of the open tags a name closes: the last of that name, or the last of all if there is no
name. -/
def Marking.place? (m : Marking) (name : List Char) : Except MarkupError (Option Nat) := do
  if name.isEmpty then return if m.opened.isEmpty then none else some 0
  let name ← normalName name
  return m.opened.findIdx? fun o => o.name = name

def Marking.close (m : Marking) (name tag : List Char) : Except MarkupError Marking := do
  let unopened : MarkupError := .notOpen (.ofList ('[' :: tag ++ [']']))
  match ← m.place? name with
  | none => throw unopened
  | some i => match m.opened[i]? with
    | none => throw unopened
    | some found =>
      let parameters := found.parameters?.getD []
      if found.isAction && !isReadable parameters then
        throw (.badParameters (.ofList parameters))
      return ⟨m.chars, found.closedAt m.chars.length :: m.closed, m.opened.eraseIdx i⟩

def isCursorControl (c : Char) : Bool :=
  [7, 8, 11, 12, 13].contains c.toNat

def plainText (s : List Char) : List Char :=
  (withEmoji (unescaped s)).filter (!isCursorControl ·)

def Marking.step (m : Marking) : Piece → Except MarkupError Marking
  | .plain s => .ok { m with chars := m.chars ++ plainText s }
  | .tag tag =>
    match splitTag tag with
    | ('/' :: name, _) => m.close (Text.strip name) tag
    | (name, parameters?) => do
      let opening : OpenTag := ⟨m.chars.length, ← normalName name, parameters?⟩
      return { m with opened := opening :: m.opened }

/-- The text with all tags closed. Spans come in the order of their beginnings, and of those that
begin together the one that is closed last comes first. -/
def Marking.line (m : Marking) : Line :=
  let left := m.opened.reverse.map (·.closedAt m.chars.length)
  ⟨m.chars, (left ++ m.closed).mergeSort fun a b => a.start ≤ b.start⟩

def marked (s : List Char) : Except MarkupError Line := do
  return ((← (markupPieces s).foldlM Marking.step {}).line)

def Line.check (l : Line) : Except MarkupError Unit :=
  l.spans.forM fun s => discard (namedStyle? s.style)

end SchemaAtlas.Terminal
