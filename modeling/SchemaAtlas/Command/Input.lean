import SchemaAtlas.Command.Console
import SchemaAtlas.Command.File
import SchemaAtlas.Layout.Settings

/-! # What commands read

Files of the kinds that commands take, the settings that the options call for, and diagram
documents.
-/
namespace SchemaAtlas.Command
open Schema (Graph)
open Layout (Settings)

def scriptSuffixes : List String := [".ddl", ".sql", ".txt"]

def diagramSuffixes : List String := [".json"]

def databaseSuffixes : List String := [".db", ".sqlite", ".sqlite3"]

/-- The content of a file, which has to exist and to have one of some suffixes. -/
def openFile (files : Files) (p : Path) (suffixes : List String) : Task Content :=
  match files.target p with
  | .file content =>
    if suffixes.contains p.suffix then pure content
    else refuse ("File has invalid extension, expected one of: " ++ ", ".intercalate suffixes)
  | .nameTooLong => throw (.fault .nameTooLong)
  | .directory | .missing | .notADirectory => refuse ("File does not exist: " ++ p.text)

def refuseSettings (reason : String) : Task α :=
  refuse ("Invalid layout configuration: " ++ reason)

structure Options where
  direction : Option String := none
  config : Option String := none

def Target.problem : Target → String
  | .directory => "[Errno 21] Is a directory"
  | .notADirectory => "[Errno 20] Not a directory"
  | .nameTooLong => "[Errno 36] File name too long"
  | .missing | .file _ => "[Errno 2] No such file or directory"

/-- The settings of a file, or the usual ones if none is named. -/
def readSettings (host : Host) (files : Files) : Option String → Task (Settings Value)
  | none => pure .usual
  | some name =>
    let p := Path.ofName name
    match files.target p with
    | .file content => match Settings.ofFile host.openable p.text content.textBytes with
      | .ok s => pure s
      | .error f => if f.isTooDeep then throw (.fault f) else refuseSettings f.message
    | target =>
      if name.toList.contains '\x00' then refuseSettings "embedded null byte"
      else refuseSettings (target.problem ++ ": " ++ Value.quoted p.text)

def Options.settings (o : Options) (host : Host) (files : Files) : Task (Settings Value) := do
  let s ← readSettings host files o.config
  match o.direction with
  | none | some "" => pure s
  | some d => match s.withDirection (.str d) with
    | .ok s => pure s
    | .error f => refuseSettings f.message

def isDocumentFault : Fault → Bool
  | .notJson e => match e.problem with
    | .tooManyDigits _ | .tooDeep => false
    | _ => true
  | .missingField _ | .notAnObject _ => true
  | _ => false

/-- The graph of a diagram document. There is none if a string has half of a surrogate pair. -/
def graphOfText (host : Host) (text : String) : Except Fault Graph := do
  match ← (Json.read host.readable text.toList).mapError .notJson with
  | some document => Graph.ofDocument document
  | none => throw .halfCharacter

def readDiagram (host : Host) (files : Files) (p : Path) : Task Graph := do
  let content ← openFile files p diagramSuffixes
  match content.text.bind (graphOfText host) with
  | .ok g => pure g
  | .error f =>
    if isDocumentFault f then
      refuse ("Invalid diagram file " ++ p.text ++ ": " ++ f.message)
    else throw (.fault f)

end SchemaAtlas.Command
