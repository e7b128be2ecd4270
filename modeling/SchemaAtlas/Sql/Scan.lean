import SchemaAtlas.Fault
import SchemaAtlas.Text.Blank

/-! # Scanning SQL text

A walk over a text that keeps track of one open quote and of the parenthesis depth. Inside
quotes a backslash takes the next character with it, and parentheses do not count. The walk
never fails: unbalanced text just leaves it in whatever state it has reached.
-/
namespace SchemaAtlas.Sql

def isQuote (c : Char) : Bool :=
  c = '\'' || c = '"' || c = '`'

/-- Where a walk stands: the open quote, whether a backslash precedes, the depth. -/
structure State where
  quote : Option Char := none
  escaped : Bool := false
  depth : Int := 0
  deriving DecidableEq, Repr

def State.initial : State := ⟨none, false, 0⟩

namespace State

def stepQuoted (s : State) (q c : Char) : State :=
  if s.escaped then { s with escaped := false }
  else if c = '\\' then { s with escaped := true }
  else if c = q then { s with quote := none }
  else s

def stepPlain (s : State) (c : Char) : State :=
  if isQuote c then { s with quote := some c }
  else if c = '(' then { s with depth := s.depth + 1 }
  else if c = ')' then { s with depth := s.depth - 1 }
  else s

def step (s : State) (c : Char) : State :=
  match s.quote with
  | some q => s.stepQuoted q c
  | none => s.stepPlain c

/-- Whether a character that comes next belongs to a literal, its quotes included. -/
def quotes (s : State) (c : Char) : Bool :=
  s.quote.isSome || isQuote c

def run (s : State) (text : List Char) : State :=
  text.foldl step s

/-- Whether a text may end here: no quote is open and no parenthesis is due. -/
def isClosed (s : State) : Bool :=
  s.quote.isNone && s.depth = 0

@[simp] theorem run_nil (s : State) : s.run [] = s := rfl

@[simp] theorem run_cons (s : State) (c : Char) (text : List Char) :
    s.run (c :: text) = (s.step c).run text := rfl

theorem run_append (s : State) (t u : List Char) : s.run (t ++ u) = (s.run t).run u :=
  List.foldl_append

end State

/-- A character with what the walk knows after reading it. -/
structure Token where
  index : Int
  char : Char
  quoted : Bool
  depth : Int
  deriving DecidableEq, Repr

/-- The tokens of a text, numbered from `index`. -/
def tokensFrom (s : State) (index : Int) : List Char → List Token
  | [] => []
  | c :: rest =>
    ⟨index, c, s.quotes c, (s.step c).depth⟩ :: tokensFrom (s.step c) (index + 1) rest

def tokens (text : List Char) : List Token :=
  tokensFrom .initial 0 text

/-- The tokens of a text from a position on. A negative position counts from the end; the
walk then goes on from the beginning. -/
def scan (text : List Char) (start : Int) : Except Fault (List Token) :=
  match start with
  | .ofNat n => .ok (tokensFrom .initial n (text.drop n))
  | .negSucc n =>
    if n < text.length then
      .ok (tokensFrom .initial start (text.drop (text.length - (n + 1)) ++ text))
    else .error .outOfRange

@[simp] theorem tokensFrom_nil (s : State) (i : Int) : tokensFrom s i [] = [] := rfl

@[simp] theorem tokensFrom_cons (s : State) (i : Int) (c : Char) (rest : List Char) :
    tokensFrom s i (c :: rest) =
      ⟨i, c, s.quotes c, (s.step c).depth⟩ :: tokensFrom (s.step c) (i + 1) rest := rfl

theorem tokensFrom_append (s : State) (i : Int) (t u : List Char) :
    tokensFrom s i (t ++ u) = tokensFrom s i t ++ tokensFrom (s.run t) (i + t.length) u := by
  induction t generalizing s i with
  | nil => simp
  | cons c t ih => simp [ih, Int.add_assoc, Int.add_comm 1]

theorem tokensFrom_map_char (s : State) (i : Int) (t : List Char) :
    (tokensFrom s i t).map Token.char = t := by
  induction t generalizing s i with
  | nil => rfl
  | cons c t ih => simp [ih]

/-- A token outside quotes and outside all parentheses. -/
def Token.isTopLevel (t : Token) : Bool :=
  !t.quoted && t.depth = 0

def Token.closes (t : Token) : Bool :=
  t.char = ')' && t.isTopLevel

def matchingParen (text : List Char) (start : Int) : Except Fault (Option Int) := do
  return ((← scan text start).find? Token.closes).map Token.index

/-- How many characters lie before the parenthesis that closes the one opened first. -/
def closing? (text : List Char) : Option Nat :=
  (tokens text).findIdx? Token.closes

/-- The length of the leading word, whose parentheses and literals may hold blanks. -/
def typeEnd (text : List Char) : Nat :=
  (tokens text).findIdx fun t => t.isTopLevel && Text.isBlank t.char

end SchemaAtlas.Sql
