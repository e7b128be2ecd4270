import SchemaAtlas.Command.Path
import SchemaAtlas.Fault
import SchemaAtlas.Text.Percent

/-! # Databases and their options

The path of a database may go on with options after a question mark: names and values with equals
signs between them and ampersands between the pairs. Percent signs stand for bytes. Some options
are about the connection, and their values have to be of a certain kind; an option may ask for
the path to be read as a location, which takes up all the others.
-/
namespace SchemaAtlas.Command

/-- The options after a path: their names in order, each with all of its values. -/
abbrev Query := List (List Char × List (List Char))

def Query.add (q : Query) (name value : List Char) : Query :=
  if q.any (·.1 = name) then
    q.map fun (n, values) => (n, if n = name then values ++ [value] else values)
  else q ++ [(name, [value])]

def Query.values? (q : Query) (name : String) : Option (List (List Char)) :=
  (q.find? (·.1 = name.toList)).map (·.2)

/-- A name or a value as it is meant: a plus sign stands for a blank. -/
def queryText (s : List Char) : List Char :=
  Text.percentText (s.map fun c => if c = '+' then ' ' else c)

/-- The options that a text writes. Those without a value are left out. -/
def Query.ofText (s : List Char) : Query :=
  (Text.pieces '&' s).foldl
    (fun q pair =>
      let name := pair.takeWhile (· ≠ '=')
      let value := pair.drop (name.length + 1)
      if value.isEmpty then q else q.add (queryText name) (queryText value))
    []

structure DatabaseRequest where
  name : List Char
  query : Query

def readOnly : List Char := "?mode=ro".toList

/-- The database that a path asks for. The options end with their line. -/
def DatabaseRequest.ofPath (p : Path) : DatabaseRequest :=
  let s := p.text.toList ++ readOnly
  let name := s.takeWhile (· ≠ '?')
  ⟨Text.percentText name, .ofText ((s.drop (name.length + 1)).takeWhile (· ≠ '\n'))⟩

inductive OptionKind where
  | switch
  | decimal
  | text
  | whole
  deriving DecidableEq, Repr

def connectionOptions : List (String × OptionKind) :=
  [("uri", .switch), ("timeout", .decimal), ("isolation_level", .text),
    ("detect_types", .whole), ("check_same_thread", .switch), ("cached_statements", .whole)]

def onWords : List String := ["true", "yes", "on", "y", "t", "1"]

def offWords : List String := ["false", "no", "off", "n", "f", "0"]

def switchValue (s : List Char) : Except Fault Bool :=
  let word := String.ofList (Text.lower (Text.strip s))
  if onWords.contains word then .ok true
  else if offWords.contains word then .ok false
  else .error (.notSwitch word)

/-- Checks the values of an option. Several are no number. -/
def OptionKind.check (kind : OptionKind) (values : List (List Char)) : Except Fault Unit :=
  match kind, values with
  | .text, _ => .ok ()
  | .switch, [v] => discard (switchValue v)
  | .switch, _ => .ok ()
  | .decimal, [v] =>
    if Number.isDecimal v then .ok () else .error (.badNumeral (.notDecimal v))
  | .whole, [v] => discard ((Number.wholeNumber v).mapError Fault.badNumeral)
  | _, _ => .error .unsuitable

def isMachineInteger (n : Int) : Bool :=
  -0x80000000 ≤ n && n < 0x80000000

def Query.checkSize (q : Query) (name : String) : Except Fault Unit :=
  match q.values? name with
  | some [v] => match Number.wholeNumber v with
    | .ok n => if isMachineInteger n then .ok () else .error .overflow
    | .error _ => .ok ()
  | _ => .ok ()

def Query.check (q : Query) : Except Fault Unit := do
  for (name, kind) in connectionOptions do
    match q.values? name with
    | some values => kind.check values
    | none => pure ()
  q.checkSize "detect_types"
  if (q.values? "isolation_level").any (1 < ·.length) then throw .badIsolation
  q.checkSize "cached_statements"

def Query.asksForLocation (q : Query) : Bool :=
  match q.values? "uri" with
  | some [v] => (switchValue v).toOption.getD false
  | some _ => true
  | none => false

def shownValues : List (List Char) → String
  | [v] => .ofList v
  | values => "(" ++ ", ".intercalate (values.map fun v => Value.quoted (.ofList v)) ++ ")"

def extensionOptions : List (List Char) := ["plugin".toList, "plugins".toList]

def Query.locationText (q : Query) : List Char :=
  let others := q.filter fun (name, _) =>
    !(connectionOptions.any fun (n, _) => n.toList = name) && !extensionOptions.contains name
  let sorted := others.mergeSort fun a b => !decide (String.ofList b.1 < String.ofList a.1)
  let pairs := sorted.map fun (name, values) =>
    name ++ '=' :: (shownValues values).toList
  if pairs.isEmpty then [] else '?' :: ['&'].intercalate pairs

end SchemaAtlas.Command
