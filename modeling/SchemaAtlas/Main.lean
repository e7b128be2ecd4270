import SchemaAtlas.Command.Request

/-! # The command line

`parse FILE`, `generate FILE`, `layout FILE`, `samples [ID]` and `sqlite FILE`, with the options
`--fmt`, `--direction` and `--config`. The format may also stand after the file or the sample.
-/
namespace SchemaAtlas.Command

structure Arguments where
  plain : List String := []
  format : Option String := none
  options : Options := {}

def Arguments.read (a : Arguments) : List String → Arguments
  | "--fmt" :: v :: rest => Arguments.read { a with format := some v } rest
  | "--direction" :: v :: rest =>
    Arguments.read { a with options := { a.options with direction := some v } } rest
  | "--config" :: v :: rest =>
    Arguments.read { a with options := { a.options with config := some v } } rest
  | v :: rest => Arguments.read { a with plain := a.plain ++ [v] } rest
  | [] => a

def request? (args : List String) : Option Request :=
  let a := Arguments.read {} args
  match a.plain with
  | "parse" :: file :: more =>
    some (.parse file (a.format.getD (more.headD "json")) a.options)
  | ["generate", file] => some (.generate file)
  | ["layout", file] => some (.layout file a.options)
  | "samples" :: more =>
    some (.samples more.head? (a.format.getD ((more.drop 1).headD "table")))
  | "sqlite" :: file :: more =>
    some (.sqlite file (a.format.getD (more.headD "json")) a.options)
  | _ => none

def Request.fileNames : Request → List String
  | .parse file _ options | .sqlite file _ options | .layout file options =>
    file :: options.config.toList
  | .generate file => [file]
  | .samples _ _ => []

def loadFiles (names : List String) : IO Files := do
  let mut files := []
  for name in names do
    try
      let bytes ← IO.FS.readBinFile name
      files := files ++ [(name, Content.bytes bytes.toList)]
    catch _ => pure ()
  return files

def usage : String :=
  "usage: parse FILE [FORMAT] | generate FILE | layout FILE | samples [ID [FORMAT]] | " ++
    "sqlite FILE [FORMAT]\noptions: --fmt FORMAT, --direction LR|RL|TB|BT, --config FILE"

/-- The machine at hand, which has room for much more than documents need. -/
def thisHost : Host where
  readable := 1000
  writable := 1000
  showable := 1000
  openable := 1000
  databasePath := 400
  background _ := ""

end SchemaAtlas.Command

open SchemaAtlas.Command in
/-- Runs one command and tells by the exit code whether it went well. -/
def main (args : List String) : IO UInt32 := do
  match request? args with
  | none =>
    IO.eprintln usage
    return 1
  | some request =>
    let outcome := request.run thisHost (← loadFiles request.fileNames)
    IO.eprint outcome.messages
    IO.print outcome.output
    match outcome.stop with
    | none => return 0
    | some .refused => return 1
    | some (.fault f) =>
      IO.eprintln f.message
      return 1
