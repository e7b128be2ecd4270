import SchemaAtlas.Proofs.Sql.Identifiers
import SchemaAtlas.Proofs.Sql.Quoting
import SchemaAtlas.Proofs.Sql.TypeToken
import SchemaAtlas.Sql.Table

/-! # A grammar of table definitions

What a table definition states, apart from how it is written, the texts in which it can be
written, and the table that it defines. Identifiers may be quoted or not, keywords may be spelled
in any case, and any blanks may stand between the parts.
-/
namespace SchemaAtlas.Sql
open Text

inductive Modifier where
  | primaryKey
  | required
  | comment (text : List Char)
  deriving DecidableEq

structure ColumnSpec where
  name : List Char
  type : List Char
  modifiers : List Modifier := []
  deriving DecidableEq

inductive ClauseSpec where
  | column (c : ColumnSpec)
  | primaryKey (names : List (List Char))
  | foreignKey (own table referenced : List Char)
  | index
  deriving DecidableEq

structure TableSpec where
  name : List Char
  clauses : List ClauseSpec
  comment : Option (List Char) := none
  deriving DecidableEq

/-! Names are words, types are read as one word, and the comment of a column mentions neither
a primary key nor a constraint against null. -/

def notNullWords : List (List Char) :=
  ["NOT".toList, "NULL".toList]

def referenceWords : List (List Char) :=
  ["FOREIGN".toList, "KEY".toList]

def indexWords : List (List Char) :=
  ["KEY".toList, "INDEX".toList, "UNIQUE".toList, "FULLTEXT".toList]

/-- The words that a bare name of a column must not be. -/
def reservedWords : List (List Char) :=
  indexWords ++ ["CONSTRAINT".toList, "PRIMARY".toList, "FOREIGN".toList]

def Modifier.IsProper : Modifier → Prop
  | .comment s =>
    search (phrase? primaryKeyWords) s = none ∧ search (phrase? notNullWords) s = none
  | _ => True

structure ColumnSpec.IsProper (c : ColumnSpec) : Prop where
  name : IsName c.name
  type : IsTypeWord c.type
  modifiers : ∀ m ∈ c.modifiers, m.IsProper

def ClauseSpec.IsProper : ClauseSpec → Prop
  | .column c => c.IsProper
  | .primaryKey names => ∀ n ∈ names, IsName n
  | .foreignKey own table referenced => IsName own ∧ IsName table ∧ IsName referenced
  | .index => True

structure TableSpec.IsProper (t : TableSpec) : Prop where
  name : IsName t.name
  clauses : ∀ c ∈ t.clauses, c.IsProper

instance : (m : Modifier) → Decidable m.IsProper
  | .comment _ => inferInstanceAs (Decidable (_ ∧ _))
  | .primaryKey | .required => .isTrue trivial

instance (c : ColumnSpec) : Decidable c.IsProper :=
  decidable_of_iff (IsName c.name ∧ IsTypeWord c.type ∧ ∀ m ∈ c.modifiers, m.IsProper)
    ⟨fun ⟨hname, htype, hmodifiers⟩ => ⟨hname, htype, hmodifiers⟩,
    fun h => ⟨h.name, h.type, h.modifiers⟩⟩

instance : (c : ClauseSpec) → Decidable c.IsProper
  | .column c => inferInstanceAs (Decidable c.IsProper)
  | .primaryKey names => inferInstanceAs (Decidable (∀ n ∈ names, IsName n))
  | .foreignKey _ _ _ => inferInstanceAs (Decidable (_ ∧ _ ∧ _))
  | .index => .isTrue trivial

instance (t : TableSpec) : Decidable t.IsProper :=
  decidable_of_iff (IsName t.name ∧ ∀ c ∈ t.clauses, c.IsProper)
    ⟨fun ⟨hname, hclauses⟩ => ⟨hname, hclauses⟩, fun h => ⟨h.name, h.clauses⟩⟩

/-! How the parts are written. -/

def literalText (s : List Char) : List Char :=
  '\'' :: (quoteLiteral s ++ ['\''])

inductive Modifier.Renders : Modifier → List Char → Prop
  | primaryKey {w : List Char} (hw : IsPhrase primaryKeyWords w) : Renders .primaryKey w
  | required {w : List Char} (hw : IsPhrase notNullWords w) : Renders .required w
  | comment {s w b : List Char} (hw : IsSpelling "COMMENT".toList w) (hb : IsGap b) :
      Renders (.comment s) (w ++ (b ++ literalText s))

/-- Modifiers, each with the blanks before it. -/
inductive RendersModifiers : List Modifier → List Char → Prop
  | nil : RendersModifiers [] []
  | cons {m : Modifier} {ms : List Modifier} {b w u : List Char} (hb : IsGap b)
      (hw : m.Renders w) (hu : RendersModifiers ms u) : RendersModifiers (m :: ms) (b ++ (w ++ u))

inductive ColumnSpec.Renders (c : ColumnSpec) : List Char → Prop
  | mk {q : Quoting} {b u : List Char} (hq : q = .bare → c.name.map caseless ∉ reservedWords)
      (hb : IsGap b) (hu : RendersModifiers c.modifiers u) :
      Renders c (q.wrap c.name ++ (b ++ (c.type ++ u)))

/-- A name with blanks around it, but no line feed. -/
inductive RendersName (n : List Char) : List Char → Prop
  | mk {b b' : List Char} {q : Quoting} (hb : allBlank b = true) (hl : '\n' ∉ b)
      (hb' : allBlank b' = true) (hl' : '\n' ∉ b') : RendersName n (b ++ (q.wrap n ++ b'))

/-- Names with commas between them. -/
inductive RendersNames : List (List Char) → List Char → Prop
  | last {n p : List Char} (hp : RendersName n p) : RendersNames [n] p
  | cons {n p u : List Char} {ns : List (List Char)} (hp : RendersName n p)
      (hu : RendersNames ns u) : RendersNames (n :: ns) (p ++ ',' :: u)

/-- A name in parentheses. -/
inductive RendersParens (n : List Char) : List Char → Prop
  | mk {b b' : List Char} {q : Quoting} (hb : allBlank b = true) (hb' : allBlank b' = true) :
      RendersParens n ('(' :: (b ++ (q.wrap n ++ (b' ++ [')']))))

inductive RendersReference (own table referenced : List Char) : List Char → Prop
  | mk {w b₁ p b₂ r b₃ b₄ p' : List Char} {q : Quoting} (hw : IsPhrase referenceWords w)
      (hb₁ : allBlank b₁ = true) (hp : RendersParens own p) (hb₂ : allBlank b₂ = true)
      (hr : IsSpelling "REFERENCES".toList r) (hb₃ : allBlank b₃ = true)
      (hb₄ : allBlank b₄ = true) (hp' : RendersParens referenced p') :
      RendersReference own table referenced
        (w ++ (b₁ ++ (p ++ (b₂ ++ (r ++ (b₃ ++ (q.wrap table ++ (b₄ ++ p'))))))))

/-- A clause without the blanks around it. An index may be given by any text that the walk
passes over as a whole. -/
inductive ClauseSpec.Renders : ClauseSpec → List Char → Prop
  | column {c : ColumnSpec} {u : List Char} (hu : c.Renders u) : Renders (.column c) u
  | primaryKey {names : List (List Char)} {w b v : List Char} (hw : IsPhrase primaryKeyWords w)
      (hb : allBlank b = true) (hv : RendersNames names v) :
      Renders (.primaryKey names) (w ++ (b ++ '(' :: (v ++ [')'])))
  | foreignKey {own table referenced u : List Char}
      (hu : RendersReference own table referenced u) :
      Renders (.foreignKey own table referenced) u
  | constraint {own table referenced w b n b' u : List Char} {q : Quoting}
      (hw : IsSpelling "CONSTRAINT".toList w) (hb : IsGap b) (hn : IsName n) (hb' : IsGap b')
      (hu : RendersReference own table referenced u) :
      Renders (.foreignKey own table referenced) (w ++ (b ++ (q.wrap n ++ (b' ++ u))))
  | index {kw w v : List Char} (hk : kw ∈ indexWords) (hw : IsSpelling kw w)
      (hv : IsSegment (· = ',') v) (hend : wordEnds v = true) (hlast : endsSolid (w ++ v) = true) :
      Renders .index (w ++ v)

/-- Clauses with commas between them. -/
inductive RendersBody : List ClauseSpec → List Char → Prop
  | nil {b : List Char} (hb : allBlank b = true) : RendersBody [] b
  | last {c : ClauseSpec} {b u b' : List Char} (hb : allBlank b = true) (hu : c.Renders u)
      (hb' : allBlank b' = true) : RendersBody [c] (b ++ (u ++ b'))
  | cons {c : ClauseSpec} {cs : List ClauseSpec} {b u b' v : List Char} (hb : allBlank b = true)
      (hu : c.Renders u) (hb' : allBlank b' = true) (hcs : cs ≠ []) (hv : RendersBody cs v) :
      RendersBody (c :: cs) (b ++ (u ++ b') ++ ',' :: v)

/-- The comment of a table, with or without an equals sign. -/
inductive RendersOptions : Option (List Char) → List Char → Prop
  | none : RendersOptions none []
  | some {s b w b₁ e b₂ : List Char} (hb : allBlank b = true)
      (hw : IsSpelling "COMMENT".toList w) (hb₁ : allBlank b₁ = true) (he : e = [] ∨ e = ['='])
      (hb₂ : allBlank b₂ = true) :
      RendersOptions (some s) (b ++ (w ++ (b₁ ++ (e ++ (b₂ ++ literalText s)))))

/-- What may stand before the name of a table. -/
inductive RendersCondition : List Char → Prop
  | nil : RendersCondition []
  | ifNotExists {w b : List Char} (hw : IsPhrase ["IF".toList, "NOT".toList, "EXISTS".toList] w)
      (hb : IsGap b) : RendersCondition (w ++ b)

inductive TableSpec.Renders (t : TableSpec) : List Char → Prop
  | mk {b w b₁ x b₂ body options b₃ : List Char} {q : Quoting} (hb : allBlank b = true)
      (hw : IsPhrase ["CREATE".toList, "TABLE".toList] w) (hb₁ : IsGap b₁)
      (hx : RendersCondition x) (hb₂ : allBlank b₂ = true) (hbody : RendersBody t.clauses body)
      (ho : RendersOptions t.comment options) (hb₃ : allBlank b₃ = true) :
      Renders t (b ++ (w ++ (b₁ ++ (x ++ (q.wrap t.name ++
        (b₂ ++ '(' :: (body ++ ')' :: options))))) ++ b₃))

/-! What is defined. -/

def Modifier.comment? : Modifier → Option (List Char)
  | .comment s => some s
  | _ => none

/-- What a column states of itself. -/
def ColumnSpec.alone (c : ColumnSpec) : ColumnDef where
  name := .ofList c.name
  type := .ofList (upper c.type)
  isPrimary := c.modifiers.contains .primaryKey
  isForeign := false
  comment := .ofList ((c.modifiers.findSome? Modifier.comment?).getD [])
  nullable := !c.modifiers.contains .required

namespace TableSpec

def columns (t : TableSpec) : List ColumnSpec :=
  t.clauses.filterMap fun | .column c => some c | _ => none

/-- The names in the constraints on the primary key. -/
def keyNames (t : TableSpec) : List (List Char) :=
  t.clauses.flatMap fun | .primaryKey names => names | _ => []

def foreignKeys (t : TableSpec) : List ForeignKey :=
  t.clauses.filterMap fun
    | .foreignKey own table referenced =>
      some ⟨.ofList t.name, .ofList own, .ofList table, .ofList referenced⟩
    | _ => none

/-- The table that is defined. A column is part of the primary key if it says so or if a
constraint names it. -/
def meaning (t : TableSpec) : TableDef where
  name := .ofList t.name
  columns := t.columns.map fun c =>
    { c.alone with
      isPrimary := c.modifiers.contains .primaryKey || t.keyNames.contains c.name
      isForeign := (t.foreignKeys.map ForeignKey.column).contains (.ofList c.name) }
  comment := .ofList (t.comment.getD [])
  foreignKeys := t.foreignKeys

end TableSpec

end SchemaAtlas.Sql
