import SchemaAtlas.Sql.Scan

/-! # Removing comments

Block comments and the line comments that begin with `--` or `#` are removed where they stand
outside literals. A line comment leaves its line end; a block comment that is never closed
reaches to the end of the text.
-/
namespace SchemaAtlas.Sql

inductive Region where
  | code
  /-- Inside the quotes `q`; a backslash may precede. -/
  | literal (q : Char) (escaped : Bool)
  | lineComment
  /-- Inside a block comment; a star may precede. -/
  | blockComment (star : Bool)
  deriving DecidableEq, Repr

def Region.afterLiteral (q : Char) (escaped : Bool) (c : Char) : Region :=
  if escaped then .literal q false
  else if c = '\\' then .literal q true
  else if c = q then .code
  else .literal q false

def Region.afterCode (c : Char) : Region :=
  if isQuote c then .literal c false else .code

def stripFrom : Region → List Char → List Char
  | _, [] => []
  | .literal q escaped, c :: rest => c :: stripFrom (.afterLiteral q escaped c) rest
  | .blockComment star, c :: rest =>
    stripFrom (if star && c = '/' then .code else .blockComment (c = '*')) rest
  | .lineComment, c :: rest =>
    if c = '\n' then c :: stripFrom .code rest else stripFrom .lineComment rest
  | .code, '/' :: '*' :: rest => stripFrom (.blockComment false) rest
  | .code, '-' :: '-' :: rest => stripFrom .lineComment rest
  | .code, c :: rest =>
    if c = '#' then stripFrom .lineComment rest else c :: stripFrom (.afterCode c) rest

def stripComments (sql : List Char) : List Char :=
  stripFrom .code sql

end SchemaAtlas.Sql
