import SchemaAtlas.Fault
import SchemaAtlas.Terminal.Wrap

/-! # The console

What a command writes while it works: results to the output, everything else to the messages.
A command that meets bad input says so and stops; faults that it does not expect end it.
-/
namespace SchemaAtlas.Command

structure Console where
  output : List String := []
  messages : List String := []

/-- Why a command stops early: it has told what is wrong, or it met an unexpected fault. -/
inductive Stop where
  | refused
  | fault (f : Fault)
  deriving DecidableEq, Repr

abbrev Task := ExceptT Stop (StateM Console)

def emit (text : String) : Task Unit :=
  modify fun c => { c with output := c.output ++ [text] }

/-- Goes on with an answer; a fault ends the command. -/
def orStop (answer : Except Fault α) : Task α :=
  match answer with
  | .ok a => pure a
  | .error f => throw (.fault f)

def terminalWidth : Nat := 4000

def messageText (mark message : String) : Except Terminal.MarkupError String := do
  let before : Terminal.Line := ⟨mark.toList ++ [' '], []⟩
  let text := before.append (← Terminal.marked message.toList)
  let lines := Terminal.wrapped .fold terminalWidth text
  lines.forM Terminal.Line.check
  return .ofList (lines.flatMap fun line => line.chars ++ ['\n'])

def tell (mark message : String) : Task Unit := do
  let text ← orStop ((messageText mark message).mapError .badMarkup)
  modify fun c => { c with messages := c.messages ++ [text] }

def inform (message : String) : Task Unit := tell "i" message

def succeed (message : String) : Task Unit := tell "✓" message

def refuse (message : String) : Task α := do
  tell "Error:" message
  throw .refused

end SchemaAtlas.Command
