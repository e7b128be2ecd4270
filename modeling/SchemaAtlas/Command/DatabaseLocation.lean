import SchemaAtlas.Command.DatabaseQuery

/-! # Where databases lie

A database lies in a file or is kept in memory. A location begins with a word for files; it may
name a host, which has to be this one, and options that tell how the file is opened. An option is
known only if its value is.
-/
namespace SchemaAtlas.Command

inductive DatabaseLocation where
  | memory
  /-- A file, whether it is created if there is none, and whether it is only read. -/
  | file (path : Path) (isCreated isReadOnly : Bool)

inductive LocationError where
  | unknownExtension (name : String)
  | otherHost (name : String)
  | unknownMode (option value : String)
  | forbiddenMode (value : String)
  | unknownSystem (name : String)
  /-- What would be said has bytes in it that are no text. -/
  | unspeakable (e : Text.Utf8Error)
  deriving DecidableEq, Repr

def LocationError.message : LocationError → String
  | .unknownExtension name => "Can't load plugin: sqlalchemy.plugins:" ++ name
  | .otherHost name => "invalid uri authority: " ++ name
  | .unknownMode option value => "no such " ++ option ++ " mode: " ++ value
  | .forbiddenMode value => "access mode not allowed: " ++ value
  | .unknownSystem name => "no such vfs: " ++ name
  | .unspeakable e => e.message

/-- The bytes of a part of a location; a null byte ends it. -/
def locationBytes : List Char → List UInt8
  | '%' :: h :: l :: rest =>
    match Text.percentByte? h l with
    | some b => if b = 0 then [] else b :: locationBytes rest
    | none => 37 :: locationBytes (h :: l :: rest)
  | c :: rest => (String.singleton c).toUTF8.toList ++ locationBytes rest
  | [] => []

structure Access where
  reads : Bool
  writes : Bool
  creates : Bool
  isMemory : Bool
  deriving DecidableEq, Repr

def accessModes : List (String × Access) :=
  [("ro", ⟨true, false, false, false⟩), ("rw", ⟨false, true, false, false⟩),
    ("rwc", ⟨false, true, true, false⟩), ("memory", ⟨false, false, false, true⟩)]

def Access.rank (a : Access) : Nat :=
  (if a.reads then 1 else 0) + (if a.writes then 2 else 0) + (if a.creates then 4 else 0)

def Access.limit (a : Access) : Nat :=
  a.rank + if a.isMemory then 128 else 0

def cacheModes : List String := ["shared", "private"]

def fileSystems : List String := ["unix", "unix-none", "unix-dotfile", "unix-excl", "memdb"]

/-- How a file is opened: the access, and the system that keeps it. -/
structure Opening where
  access : Access := ⟨false, true, true, false⟩
  system : List UInt8 := "unix".toUTF8.toList

def spoken (make : String → LocationError) (bytes : List UInt8) : LocationError :=
  match Text.decodeUtf8 bytes with
  | .ok s => make (.ofList s)
  | .error e => .unspeakable e

def asName (bytes : List UInt8) : String :=
  .ofList ((Text.decodeUtf8 bytes).toOption.getD ['?'])

def Opening.take (o : Opening) (name value : List UInt8) : Except LocationError Opening :=
  match asName name with
  | "vfs" => .ok { o with system := value }
  | "cache" =>
    if cacheModes.contains (asName value) then .ok o
    else .error (spoken (.unknownMode "cache") value)
  | "mode" => match accessModes.lookup (asName value) with
    | none => .error (spoken (.unknownMode "access") value)
    | some a =>
      if o.access.limit < a.rank then .error (.forbiddenMode (asName value))
      else .ok { o with access := a }
  | _ => .ok o

/-- The options after the question mark of a location. Those without a name are left out. -/
def openingOf (s : List Char) : Except LocationError Opening :=
  (Text.pieces '&' s).foldlM
    (fun o pair =>
      let name := pair.takeWhile (· ≠ '=')
      let bytes := locationBytes name
      if bytes.isEmpty then .ok o
      else o.take bytes (locationBytes (pair.drop (name.length + 1))))
    {}

/-- The name that bytes write. Where they are no text there are null characters, which names of
files cannot have. -/
def nameText (bytes : List UInt8) : List Char :=
  match Text.decodeUtf8 bytes with
  | .ok s => s
  | .error _ => (Text.decodeLossy (bytes.length + 1) bytes).map fun c =>
    if c = '\ufffd' then '\x00' else c

def DatabaseLocation.named (name : List Char) (isCreated isReadOnly : Bool) :
    DatabaseLocation :=
  if name.isEmpty || name = ":memory:".toList then .memory
  else .file (.ofText name) isCreated isReadOnly

def splitHost : List Char → List Char × List Char
  | '/' :: '/' :: rest => (rest.takeWhile (· ≠ '/'), rest.dropWhile (· ≠ '/'))
  | s => ([], s)

def DatabaseLocation.ofUri (s : List Char) : Except LocationError DatabaseLocation := do
  let (host, rest) := splitHost s
  if !host.isEmpty && host ≠ "localhost".toList then throw (.otherHost (.ofList host))
  let s := rest.takeWhile (· ≠ '#')
  let name := s.takeWhile (· ≠ '?')
  let o ← openingOf (s.drop (name.length + 1))
  if !fileSystems.contains (asName o.system) then throw (spoken .unknownSystem o.system)
  if o.access.isMemory || asName o.system = "memdb" then return .memory
  return .named (nameText (locationBytes name)) o.access.creates o.access.reads

def filePrefix : List Char := "file:".toList

/-- Whether there is a null character in a name, or in the path that it writes if it is one. -/
def hasNull (isPath : Bool) (name : List Char) : Bool :=
  let p := Path.ofText name
  if isPath then (p.resolved?.getD p.parts).any (·.contains '\x00') else name.contains '\x00'

def DatabaseRequest.location (r : DatabaseRequest) :
    Except Fault (Except LocationError DatabaseLocation) := do
  if let some (name :: _) := r.query.values? "plugin" then
    return .error (.unknownExtension (.ofList name))
  r.query.check
  let asks := r.query.asksForLocation
  let name := if asks then r.name ++ r.query.locationText else r.name
  if hasNull (!asks) name then throw .nullByte
  if asks && filePrefix.isPrefixOf name then
    return DatabaseLocation.ofUri (name.drop filePrefix.length)
  return .ok (.named name true false)

end SchemaAtlas.Command
