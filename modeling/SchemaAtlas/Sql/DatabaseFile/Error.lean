import SchemaAtlas.Sql.Definition.Error
import SchemaAtlas.Text.Utf8

/-! # Errors of a database file

Why a file cannot be read as a database.
-/
namespace SchemaAtlas.Sql

inductive DatabaseError where
  | notADatabase
  | malformed
  | unsupportedFormat
  /-- An entry of the list of contents is wrong. -/
  | badEntry (name : String) (reason : DefinitionError)
  /-- A definition is not a text in its encoding; it is shown as far as it is ASCII. -/
  | undecodable (shown : String)
  /-- What would be said about an entry has bytes in it that are no text. -/
  | unspeakable (e : Text.Utf8Error)
  | cannotOpen
  deriving DecidableEq, Repr

end SchemaAtlas.Sql
