/-! # Hosts

What commands meet where they run: how deep lists and objects may nest before the machine gives up
on them, how long paths may become, and what is said about where errors of databases are explained.
-/
namespace SchemaAtlas.Command

structure Host where
  /-- How deep a document may nest that is read. -/
  readable : Nat
  /-- How deep a document may nest that is written. -/
  writable : Nat
  /-- How deep a value may nest that is shown in a script. -/
  showable : Nat
  /-- How much may be open around a value of a settings file. -/
  openable : Nat
  /-- The most bytes that the path of a database may take from the working directory on. -/
  databasePath : Nat
  /-- What a report says about where an error with a code is explained. -/
  background : (code : String) → String

end SchemaAtlas.Command
