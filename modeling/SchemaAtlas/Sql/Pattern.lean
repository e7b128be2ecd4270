import SchemaAtlas.Sql.Literal
import SchemaAtlas.Text.Keyword

/-! # Patterns of statements

The word patterns by which the parts of a statement are recognised. Each reads at the
beginning of a text and gives what it has found, mostly with the text after it; some are
looked for anywhere in a text.
-/
namespace SchemaAtlas.Sql
open Text

def dropOne (cs : List Char) : List Char → List Char
  | c :: rest => if cs.contains c then rest else c :: rest
  | [] => []

/-- A name inside optional quotes or brackets, which need not match. -/
def identifier? (s : List Char) : Option (List Char × List Char) :=
  let s := dropOne ['`', '"', '['] s
  match s.takeWhile isWord with
  | [] => none
  | name => some (name, dropOne ['`', '"', ']'] (s.dropWhile isWord))

def after? (c : Char) : List Char → Option (List Char)
  | d :: rest => if d = c then some rest else none
  | [] => none

def ifNotExists? (s : List Char) : Option (List Char) := do
  afterBlanks? (← phrase? ["IF".toList, "NOT".toList, "EXISTS".toList] s)

/-- The name in the header of a statement that creates a table. `IF NOT EXISTS` may stand
before it, unless no name follows: then its first word is the name. -/
def tableHeader? (s : List Char) : Option (List Char × List Char) := do
  let s ← afterBlanks? (← phrase? ["CREATE".toList, "TABLE".toList] s)
  ((ifNotExists? s).bind identifier?).or (identifier? s)

/-- A name in parentheses with blanks anywhere. -/
def parenthesized? (s : List Char) : Option (List Char × List Char) := do
  let (name, s) ← identifier? (stripStart (← after? '(' (stripStart s)))
  return (name, ← after? ')' (stripStart s))

/-- A reference: the column, the table referred to, and its column. -/
def reference? (s : List Char) : Option (List Char × List Char × List Char) := do
  let s ← phrase? ["FOREIGN".toList, "KEY".toList] s
  let (column, s) ← parenthesized? s
  let s ← keyword? "REFERENCES".toList (stripStart s)
  let (table, s) ← identifier? (stripStart s)
  let (referenced, _) ← parenthesized? s
  return (column, table, referenced)

/-- The text between the parentheses of a primary key, which holds no line feed. -/
def primaryKeyList? (s : List Char) : Option (List Char) := do
  let s ← phrase? ["PRIMARY".toList, "KEY".toList] s
  let s ← after? '(' (stripStart s)
  let names := s.takeWhile (fun c => c ≠ ')' && c ≠ '\n')
  let _ ← after? ')' (s.drop names.length)
  return names

/-- The literal of a table comment, between whose keyword and literal an equals sign may
stand. -/
def tableComment? (s : List Char) : Option (List Char) := do
  let s := stripStart (← keyword? "COMMENT".toList s)
  let s := stripStart (dropOne ['='] s)
  return (← literal? s).1

def columnComment? (s : List Char) : Option (List Char) := do
  return (← literal? (← afterBlanks? (← keyword? "COMMENT".toList s))).1

/-- Whether a phrase comes first, as whole words. -/
def startsWith (words : List (List Char)) (s : List Char) : Bool :=
  match phrase? words s with
  | some rest => wordEnds rest
  | none => false

def isIndexClause (s : List Char) : Bool :=
  startsWith ["KEY".toList] s || startsWith ["INDEX".toList] s ||
    startsWith ["UNIQUE".toList] s || startsWith ["FULLTEXT".toList] s

def isPrimaryKeyClause (s : List Char) : Bool :=
  startsWith ["PRIMARY".toList, "KEY".toList] s

def isConstraintClause (s : List Char) : Bool :=
  startsWith ["CONSTRAINT".toList] s || startsWith ["FOREIGN".toList, "KEY".toList] s

def mentionsPrimaryKey (s : List Char) : Bool :=
  (search (phrase? ["PRIMARY".toList, "KEY".toList]) s).isSome

/-- Whether `NOT NULL` stands anywhere in a text, as whole words. -/
def mentionsNotNull (s : List Char) : Bool :=
  (searchWord (fun s => do
    let rest ← phrase? ["NOT".toList, "NULL".toList] s
    guard (wordEnds rest)) false s).isSome

/-- The content of the first literal that a pattern finds, without its escapes. -/
def commentText (pattern : List Char → Option (List Char)) (s : List Char) : List Char :=
  match search pattern s with
  | some raw => unescape raw
  | none => []

def bareName (s : List Char) : List Char :=
  s.filter fun c => c ∉ ['`', '"', '[', ']']

end SchemaAtlas.Sql
