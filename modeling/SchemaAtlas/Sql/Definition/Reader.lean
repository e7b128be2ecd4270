import SchemaAtlas.Sql.Definition.Lexeme

/-! # Reading a definition

A definition is read token by token. Something that is wrong with what has been read is a
complaint, told when the next token is passed; a token that cannot stand where it stands is told
before, and so is one that is none. Later complaints take the place of earlier ones.
-/
namespace SchemaAtlas.Sql.Definition

structure Progress where
  lexemes : List Lexeme
  complaint : Option DefinitionError := none
  /-- Whether there was a parameter. -/
  hasParameter : Bool := false
  /-- The names of databases that stood before tables, the last first. -/
  databases : List (List Char) := []

abbrev Reader := StateT Progress (Except DefinitionError)

def misplaced (t : Lexeme) : DefinitionError :=
  if t.written.isEmpty then .incomplete else .misplaced t.written

namespace Reader

def peek : Reader Lexeme := do
  return ((← get).lexemes.head?).getD ⟨.finish, [], []⟩

def complain (e : DefinitionError) : Reader Unit :=
  modify fun p => { p with complaint := some e }

def complainFirst (e : DefinitionError) : Reader Unit :=
  modify fun p => { p with complaint := p.complaint.or (some e) }

def complainOf (e : Option DefinitionError) : Reader Unit :=
  e.forM complain

def isComplaining : Reader Bool := do
  return (← get).complaint.isSome

/-- Passes the next token. What was wrong before it is told. -/
def pass : Reader Lexeme := do
  let p ← get
  if let some e := p.complaint then throw e
  match p.lexemes with
  | [] => throw .incomplete
  | t :: rest =>
    if let some next := rest.head? then
      if next.kind = .illegal then throw (.unrecognized next.written)
    set { p with lexemes := rest }
    return t

def refuse : Reader α := do
  throw (misplaced (← peek))

def expect (fits : Lexeme → Bool) : Reader Lexeme := do
  if fits (← peek) then pass else refuse

def accept (fits : Lexeme → Bool) : Reader Bool := do
  if fits (← peek) then
    let _ ← pass
    return true
  else return false

def acceptWord (word : String) : Reader Bool :=
  accept (·.is word)

def acceptMark (mark : String) : Reader Bool :=
  accept (·.isMark mark)

def expectWords : List String → Reader Unit
  | [] => return ()
  | word :: rest => do
    let _ ← expect (·.is word)
    expectWords rest

def expectOneOf (words : List String) : Reader String := do
  return capital (← expect (·.isOneOf words)).written

def expectMark (mark : String) : Reader Unit := do
  let _ ← expect (·.isMark mark)

def name : Reader Lexeme :=
  expect Lexeme.isName

def inBrackets (item : Reader α) : Reader α := do
  expectMark "("
  let a ← item
  expectMark ")"
  return a

def after? (word : String) (item : Reader α) : Reader (Option α) := do
  if ← acceptWord word then return some (← item) else return none

def whileMore (step : α → Reader (Option α)) : (bound : Nat) → α → Reader α
  | 0, a => return a
  | bound + 1, a => do
    match ← step a with
    | some a => whileMore step bound a
    | none => return a

def left : Reader Nat := do
  return (← get).lexemes.length

/-- Goes on as long as there is more. Every step passes a token. -/
def repeatFrom (a : α) (step : α → Reader (Option α)) : Reader α := do
  whileMore step (← left) a

def commaSeparated (item : Reader α) : Reader (List α) := do
  let first ← item
  let others ← repeatFrom [] fun read => do
    if ← acceptMark "," then return some ((← item) :: read) else return none
  return first :: others.reverse

def names : Reader (List Lexeme) :=
  commaSeparated name

def qualifiedName : Reader (Option Lexeme × Lexeme) := do
  let first ← name
  if ← acceptMark "." then return (some first, ← name) else return (none, first)

def tableName : Reader Unit := do
  let (database?, _) ← qualifiedName
  if let some database := database? then
    modify fun p => { p with databases := database.name :: p.databases }

end Reader

end SchemaAtlas.Sql.Definition
