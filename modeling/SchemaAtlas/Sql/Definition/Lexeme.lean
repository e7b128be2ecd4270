import SchemaAtlas.Sql.Definition.Error

/-! # Tokens of a definition

The tokens that a definition is written with: words, names in quotes, texts, numbers, parameters
and marks, each with what separates it from the token before. A few words are keywords only
between certain tokens; everywhere else they are names.
-/
namespace SchemaAtlas.Sql.Definition

inductive Lexeme.Kind where
  | word
  /-- A word that is a keyword because of the tokens around it. -/
  | keyword
  | quoted
  | text
  | integer
  | real
  | blob
  | parameter
  | mark
  /-- The end of a statement; nothing is written where the definition ends without it. -/
  | separator
  | illegal
  /-- What follows when nothing follows. -/
  | finish
  deriving DecidableEq, Repr

/-- A token as it is written, and what separates it from the one before. -/
structure Lexeme where
  kind : Lexeme.Kind
  gap : List Char
  written : List Char
  deriving DecidableEq, Repr

def isWordPart (c : Char) : Bool :=
  c.isAlphanum || c = '_' || c = '$' || 128 ≤ c.toNat

def isSpace (c : Char) : Bool :=
  c = ' ' || c = '\t' || c = '\n' || c = '\x0c' || c = '\r'

def isHexDigit (c : Char) : Bool :=
  c.isDigit || ('a' ≤ c && c ≤ 'f') || ('A' ≤ c && c ≤ 'F')

/-- How much of a text is a comment between slashes and stars, after its beginning. -/
def commentSize : List Char → Nat
  | '*' :: '/' :: _ => 2
  | _ :: rest => commentSize rest + 1
  | [] => 0

/-- How much of a text is a space or a comment at its beginning. -/
def gapSize : List Char → Nat
  | [] => 0
  | c :: rest =>
    if isSpace c then (rest.takeWhile fun c => isSpace c || c = '\x0b').length + 1
    else if c = '\ufeff' then 1
    else match c, rest with
      | '-', '-' :: more => (more.takeWhile (· ≠ '\n')).length + 2
      | '/', '*' :: more => if more.isEmpty then 0 else commentSize more + 2
      | _, _ => 0

/-- How much of a text lies before the end of a quotation, that end included. The quotation mark
is written twice where it is meant. -/
def quotationSize? (q : Char) : List Char → Option Nat
  | [] => none
  | c :: rest =>
    if c ≠ q then (quotationSize? q rest).map (· + 1)
    else match rest with
      | d :: more => if d = q then (quotationSize? q more).map (· + 2) else some 1
      | [] => some 1

def exponentRun : List Char → List Char
  | e :: rest =>
    if e ≠ 'e' && e ≠ 'E' then []
    else match rest with
      | c :: more =>
        if c.isDigit then e :: rest.takeWhile Char.isDigit
        else if (c = '+' || c = '-') && more.head?.any Char.isDigit then
          e :: c :: more.takeWhile Char.isDigit
        else []
      | [] => []
  | [] => []

/-- The kind and the size of the decimal number at the beginning of a text. It cannot go on as a
word. -/
def decimal (s : List Char) : Lexeme.Kind × Nat :=
  let whole := s.takeWhile Char.isDigit
  let rest := s.drop whole.length
  let fraction :=
    if rest.head? = some '.' then '.' :: (rest.drop 1).takeWhile Char.isDigit else []
  let exponent := exponentRun (rest.drop fraction.length)
  let size := whole.length + fraction.length + exponent.length
  let more := (s.drop size).takeWhile isWordPart
  if !more.isEmpty then (.illegal, size + more.length)
  else (if fraction.isEmpty && exponent.isEmpty then .integer else .real, size)

def number (s : List Char) : Lexeme.Kind × Nat :=
  match s with
  | '0' :: x :: rest =>
    let digits := rest.takeWhile isHexDigit
    if (x = 'x' || x = 'X') && !digits.isEmpty then (.integer, digits.length + 2) else decimal s
  | _ => decimal s

/-- The kind and the size of a parameter with a name, after the mark that begins it. A name can
have an index in brackets. -/
def parameterName (named : Bool) : List Char → Lexeme.Kind × Nat
  | [] => (if named then .parameter else .illegal, 0)
  | ':' :: ':' :: rest => after 2 (parameterName named rest)
  | c :: rest =>
    if isWordPart c then after 1 (parameterName true rest)
    else if c = '(' && named then
      let inner := rest.takeWhile fun c => c ≠ ')' && !isSpace c && c ≠ '\x0b'
      if rest[inner.length]? = some ')' then (.parameter, inner.length + 2)
      else (.illegal, inner.length + 1)
    else (if named then .parameter else .illegal, 0)
where
  /-- A size with something before it. -/
  after (n : Nat) : Lexeme.Kind × Nat → Lexeme.Kind × Nat
    | (kind, size) => (kind, n + size)

def blob (s : List Char) : Lexeme.Kind × Nat :=
  let digits := s.takeWhile isHexDigit
  if s[digits.length]? = some '\'' && digits.length % 2 = 0 then (.blob, digits.length + 1)
  else
    let inner := s.takeWhile (· ≠ '\'')
    (.illegal, min s.length (inner.length + 1))

def longMarks : List (List Char) :=
  ["->>", "->", "==", "<=", "<>", "<<", ">=", ">>", "!=", "||"].map String.toList

def marks : List Char := "(),.+-*/%=<>&|~".toList

def markAhead (s : List Char) : Lexeme.Kind × Nat :=
  match longMarks.find? (·.isPrefixOf s) with
  | some mark => (.mark, mark.length)
  | none => (if s.head?.any marks.contains then .mark else .illegal, 1)

def tokenAhead : List Char → Lexeme.Kind × Nat
  | [] => (.finish, 0)
  | c :: rest =>
    let s := c :: rest
    if c.isDigit || c = '.' && rest.head?.any Char.isDigit then number s
    else if (c = 'x' || c = 'X') && rest.head? = some '\'' then
      let (kind, size) := blob (rest.drop 1)
      (kind, size + 2)
    else if c = '$' || c = '@' || c = ':' || c = '#' then
      let (kind, size) := parameterName false rest
      (kind, size + 1)
    else if isWordPart c then (.word, (s.takeWhile isWordPart).length)
    else if c = '?' then (.parameter, (rest.takeWhile Char.isDigit).length + 1)
    else if c = '"' || c = '\x60' || c = '\'' then
      match quotationSize? c rest with
      | some size => (if c = '\'' then .text else .quoted, size + 1)
      | none => (.illegal, s.length)
    else if c = '[' then
      let inner := rest.takeWhile (· ≠ ']')
      if inner.length < rest.length then (.quoted, inner.length + 2) else (.illegal, s.length)
    else if c = ';' then (.separator, 1)
    else markAhead s

/-- The tokens of a text, the last of them what follows when nothing follows. A statement that is
not ended ends there. -/
def lexemesFrom (gap : List Char) (ended : Bool) : (bound : Nat) → List Char → List Lexeme
  | 0, _ => []
  | bound + 1, s =>
    let space := gapSize s
    if space ≠ 0 then lexemesFrom (gap ++ s.take space) ended bound (s.drop space)
    else
      let (kind, size) := tokenAhead s
      if kind = .finish then
        (if ended then [] else [⟨.separator, gap, []⟩]) ++ [⟨.finish, gap, []⟩]
      else
        ⟨kind, gap, s.take size⟩ :: lexemesFrom [] (kind = .separator) bound (s.drop size)

def capital (s : List Char) : String :=
  .ofList (s.map Char.toUpper)

def reservedWords : List String :=
  ["ADD", "ALL", "ALTER", "AND", "AS", "AUTOINCREMENT", "BETWEEN", "CASE", "CHECK", "COLLATE",
    "COMMIT", "CONSTRAINT", "CREATE", "DEFAULT", "DEFERRABLE", "DELETE", "DISTINCT", "DROP",
    "ELSE", "ESCAPE", "EXCEPT", "EXISTS", "FOREIGN", "FROM", "GROUP", "HAVING", "IN", "INDEX",
    "INSERT", "INTERSECT", "INTO", "IS", "ISNULL", "JOIN", "LIMIT", "NOT", "NOTHING", "NOTNULL",
    "NULL", "ON", "OR", "ORDER", "PRIMARY", "REFERENCES", "RETURNING", "SELECT", "SET", "TABLE",
    "THEN", "TO", "TRANSACTION", "UNION", "UNIQUE", "UPDATE", "USING", "VALUES", "WHEN", "WHERE"]

def joinWords : List String :=
  ["CROSS", "FULL", "INNER", "LEFT", "NATURAL", "OUTER", "RIGHT"]

def contextualWords : List String := ["OVER", "FILTER", "WINDOW"]

def Lexeme.isMark (t : Lexeme) (mark : String) : Bool :=
  t.kind = .mark && t.written = mark.toList

/-- Whether a token can be read as a name where the next keywords are looked for. -/
def Lexeme.isNameLike (t : Lexeme) : Bool :=
  match t.kind with
  | .word =>
    let word := capital t.written
    !reservedWords.contains word && word ≠ "INDEXED" && word ≠ "FILTER"
  | .quoted | .text => true
  | _ => false

/-- Whether a word is a keyword between the token before it and those after it. -/
def isKeywordThere (word : String) (before : Option Lexeme) (after : List Lexeme) : Bool :=
  let closed := before.any (·.isMark ")")
  match after with
  | t :: more =>
    if word = "WINDOW" then
      t.isNameLike && more.head?.any fun t => t.kind = .word && capital t.written = "AS"
    else if word = "OVER" then closed && (t.isMark "(" || t.isNameLike)
    else closed && t.isMark "("
  | [] => false

/-- The tokens with the keywords found that depend on the tokens around them. -/
def findKeywords (before : Option Lexeme) : List Lexeme → List Lexeme
  | [] => []
  | t :: rest =>
    let word := capital t.written
    let found := t.kind = .word && contextualWords.contains word &&
      isKeywordThere word before rest
    let t := if found then { t with kind := .keyword } else t
    t :: findKeywords (some t) rest

def lexemes (s : List Char) : List Lexeme :=
  findKeywords none (lexemesFrom [] false (s.length + 1) s)

def Lexeme.is (t : Lexeme) (word : String) : Bool :=
  (t.kind = .keyword || t.kind = .word && !contextualWords.contains word) &&
    capital t.written = word

def Lexeme.isOneOf (t : Lexeme) (words : List String) : Bool :=
  words.any t.is

/-- Whether a token can name a column or a function without a text in quotes. -/
def Lexeme.isIdentifier (t : Lexeme) : Bool :=
  t.kind = .quoted || t.kind = .word && !reservedWords.contains (capital t.written)

def Lexeme.isName (t : Lexeme) : Bool :=
  t.isIdentifier || t.kind = .text

def Lexeme.isJoinWord (t : Lexeme) : Bool :=
  t.kind = .word && joinWords.contains (capital t.written)

/-- Whether a token can be a name where the words of a join go on with the query. -/
def Lexeme.isAlias (t : Lexeme) : Bool :=
  t.isName && !t.isJoinWord && !(t.kind = .word && t.is "INDEXED")

/-- What is written between quotation marks, up to the first that is not written twice. -/
def unquoted (q : Char) : List Char → List Char
  | [] => []
  | c :: rest =>
    if c ≠ q then c :: unquoted q rest
    else match rest with
      | d :: more => if d = q then q :: unquoted q more else []
      | [] => []

def nameOf : List Char → List Char
  | [] => []
  | c :: rest =>
    if c = '[' then unquoted ']' rest
    else if c = '"' || c = '\x60' || c = '\'' then unquoted c rest
    else c :: rest

def Lexeme.name (t : Lexeme) : List Char := nameOf t.written

def sameName (s t : List Char) : Bool :=
  s.map Char.toLower = t.map Char.toLower

end SchemaAtlas.Sql.Definition
