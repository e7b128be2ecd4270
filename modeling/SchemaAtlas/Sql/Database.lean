/-! # Database files

What a database file lists of its contents, and the script of its tables. Entries whose name
begins with the reserved word and at least one more character belong to the database itself.
-/
namespace SchemaAtlas.Sql

/-- An entry of the list of contents. Some entries have no definition. -/
structure Entry where
  type : String
  name : String
  sql : Option String
  deriving DecidableEq, Repr

/-- Whether a text matches a pattern in which `%` stands for any text and `_` for any one
character; the case of ASCII letters does not count. -/
def isLike : List Char → List Char → Bool
  | [], s => s.isEmpty
  | p :: ps, s =>
    if p = '%' then anyTail (isLike ps) s
    else match s with
      | [] => false
      | c :: rest => (p = '_' || p.toLower = c.toLower) && isLike ps rest
where
  /-- Whether some end of a text is accepted. -/
  anyTail (accepts : List Char → Bool) : List Char → Bool
    | [] => accepts []
    | s@(_ :: rest) => accepts s || anyTail accepts rest

def reservedPattern : List Char := "sqlite_%".toList

def Entry.definition? (e : Entry) : Option String :=
  if e.type = "table" && !isLike reservedPattern e.name.toList then e.sql else none

def databaseScript (entries : List Entry) : String :=
  String.join ((entries.filterMap Entry.definition?).map fun sql => sql ++ ";\n\n")

end SchemaAtlas.Sql
