import SchemaAtlas.Json.Reader
import SchemaAtlas.Toml.Error
import SchemaAtlas.Terminal.Markup
import SchemaAtlas.Text.Utf8

/-! # Faults

Everything that an operation can refuse, by cause, with the words that tell about it.
-/
namespace SchemaAtlas

inductive Fault where
  | missingField (name : String)
  | notAnObject (kind : Value.Kind)
  | notText
  | notATable
  /-- A value does not support what was to be done with it. -/
  | unsuitable
  /-- A value stands where something else is called for. -/
  | expected (what : String) (kind : Value.Kind)
  | outOfRange
  | overflow
  | unknownTable (id : String)
  | tableExists (id : String)
  | unknownColumn (id : String)
  | unknownCardinality (shown : String)
  | unknownDirection (direction : String)
  | tooManyDigits
  | unknownSample (id : String)
  | nullNode
  /-- A cycle between tables was not detected. -/
  | cycleLeft
  /-- A setting that layouts do not have, or the settings themselves as a setting. -/
  | unknownSetting (name : String)
  | settingsNotATable (kind : Value.Kind)
  | invalidSettings (file : String) (reason : String)
  | notJson (e : Json.SyntaxError)
  | notToml (e : Toml.SyntaxError)
  | notUtf8 (e : Text.Utf8Error)
  /-- Text that cannot be shown because its tags are wrong. -/
  | badMarkup (e : Terminal.MarkupError)
  /-- A part of a path is longer than names of files can be. -/
  | nameTooLong
  | notSwitch (word : String)
  | badNumeral (e : Number.NumeralError)
  /-- An option about transactions that does not exist. -/
  | badIsolation
  | nullByte
  /-- A text with half of a surrogate pair in it. -/
  | halfCharacter
  | nestedTooDeep
  deriving DecidableEq, Repr

def Fault.isTooDeep : Fault → Bool
  | .notJson e => e.problem = .tooDeep
  | .notToml e => e.problem = .tooDeep
  | _ => false

def Fault.message : Fault → String
  | .missingField name => Value.quoted name
  | .notAnObject kind => "'" ++ kind.name ++ "' object has no attribute 'get'"
  | .notText => "a text is needed here"
  | .notATable => "a table is needed here"
  | .unsuitable => "a value of another kind is needed here"
  | .expected what kind => "Expected " ++ what ++ ", got " ++ kind.name
  | .outOfRange => "string index out of range"
  | .overflow => "int too large to convert to float"
  | .unknownTable id => "Unknown table: " ++ id
  | .tableExists id => "Table already exists: " ++ id
  | .unknownColumn id => "Unknown column: " ++ id
  | .unknownCardinality shown => shown ++ " is not a valid Cardinality"
  | .unknownDirection direction => "Unknown layout direction: " ++ direction
  | .tooManyDigits => Text.tooManyDigitsMessage none
  | .unknownSample id => "Unknown sample: " ++ id
  | .nullNode => "None cannot be a node"
  | .cycleLeft => "a cycle keeps the tables from being ranked"
  | .unknownSetting name =>
    "LayoutConfig.__init__() got " ++
      (if name = "self" then "multiple values for argument"
        else "an unexpected keyword argument") ++
      " '" ++ name ++ "'"
  | .settingsNotATable kind =>
    "diagram.layout.LayoutConfig() argument after ** must be a mapping, not " ++ kind.name
  | .invalidSettings file reason => "Invalid layout settings in " ++ file ++ ": " ++ reason
  | .notJson e => e.message
  | .notToml e => e.message
  | .notUtf8 e => e.message
  | .badMarkup e => e.message
  | .nameTooLong => "a name is too long"
  | .notSwitch word => "String is not true/false: " ++ Value.quoted word
  | .badNumeral e => e.message
  | .badIsolation =>
    "isolation_level string must be '', 'DEFERRED', 'IMMEDIATE', or 'EXCLUSIVE'"
  | .nullByte => "embedded null byte"
  | .halfCharacter => "surrogates not allowed"
  | .nestedTooDeep => "maximum recursion depth exceeded"

end SchemaAtlas
