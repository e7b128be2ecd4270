import SchemaAtlas.Command.DatabaseLocation
import SchemaAtlas.Command.Host
import SchemaAtlas.Sql.DatabaseFile.Creation

/-! # Files

The files that commands read: bytes, or databases given by their list of contents. Directories
are those on the way to a file, and what lies outside the working directory is not seen.
-/
namespace SchemaAtlas.Command

inductive Content where
  | bytes (bytes : List UInt8)
  | database (entries : List Sql.Entry)

abbrev Files := List (String × Content)

inductive Target where
  | file (content : Content)
  | directory
  | missing
  /-- A part of the path that is not the last is a file. -/
  | notADirectory
  | nameTooLong

def Files.file? (files : Files) (place : List (List Char)) : Option Content :=
  files.findSome? fun (name, content) =>
    if (Path.ofName name).parts = place then some content else none

def Files.isDirectory (files : Files) (place : List (List Char)) : Bool :=
  place.isEmpty || files.any fun (name, _) =>
    let parts := (Path.ofName name).parts
    place.isPrefixOf parts && place.length < parts.length

/-- What parts lead to from a directory, which is given by its place or lies outside. -/
def Files.walk (files : Files) : (here : Option (List (List Char))) → List (List Char) → Target
  | _, [] => .directory
  | here, part :: rest =>
    if part = ['.', '.'] then
      match here with
      | some (_ :: _) => walk files (here.map List.dropLast) rest
      | _ => walk files none rest
    else if Path.maxPartSize < (String.ofList part).utf8ByteSize then .nameTooLong
    else match here with
      | none => .missing
      | some place =>
        let place := place ++ [part]
        match files.file? place with
        | some content => if rest.isEmpty then .file content else .notADirectory
        | none => if files.isDirectory place then walk files (some place) rest else .missing

def Files.target (files : Files) (p : Path) : Target :=
  if Path.maxSize < p.text.utf8ByteSize then .nameTooLong
  else if p.text.toList.contains '\x00' then .missing
  else files.walk (if p.root.isEmpty then some [] else none) p.parts

/-- The bytes of a file as a text. The first page of a database holds numbers that are no text, so
what follows it does not matter. -/
def Content.textBytes : Content → List UInt8
  | .bytes bs => bs
  | .database entries => Sql.DatabaseFile.firstPage entries

def Content.text (content : Content) : Except Fault String := do
  let text ← (Text.decodeUtf8 content.textBytes).mapError .notUtf8
  return .ofList (Text.unifyLineEnds text)

/-- The list of contents of a database, which may be open only to read it. -/
def Content.entries (isReadOnly : Bool) : Content → Except Sql.DatabaseError (List Sql.Entry)
  | .bytes bs => Sql.DatabaseFile.entries bs isReadOnly
  | .database entries => .ok entries

inductive SourceError where
  | fault (f : Fault)
  | noPlace (e : LocationError)
  | database (e : Sql.DatabaseError)

/-- Whether a file can be created in the place of a path. Outside the working directory this is
so in the directories on the way to it. -/
def Files.canCreate (files : Files) (p : Path) : Bool :=
  match p.resolved? with
  | some place => files.isDirectory place.dropLast
  | none =>
    let above := p.parts.foldl (fun ps part => if part = ['.', '.'] then ps.drop 1 else part :: ps) []
    above.length = 1

/-- The list of contents of the database at a place, which is empty if it is created. -/
def Files.entriesAt (host : Host) (files : Files) :
    DatabaseLocation → Except Sql.DatabaseError (List Sql.Entry)
  | .memory => .ok []
  | .file p isCreated isReadOnly =>
    let target : Target := match p.resolved? with
      | some place => files.walk (some []) place
      | none => .missing
    if host.databasePath < p.text.utf8ByteSize then .error .cannotOpen
    else match target with
      | .file content => content.entries isReadOnly
      | .missing => if isCreated && files.canCreate p then .ok [] else .error .cannotOpen
      | .directory | .notADirectory | .nameTooLong => .error .cannotOpen

def Files.entries (host : Host) (files : Files) (p : Path) :
    Except SourceError (List Sql.Entry) := do
  let place ← (DatabaseRequest.ofPath p).location.mapError .fault
  let place ← place.mapError .noPlace
  (files.entriesAt host place).mapError .database

end SchemaAtlas.Command
