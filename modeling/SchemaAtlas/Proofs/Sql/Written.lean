import SchemaAtlas.Proofs.Faults
import SchemaAtlas.Proofs.Sql.Quoting
import SchemaAtlas.Proofs.Sql.TypeToken
import SchemaAtlas.Proofs.Text.Word
import SchemaAtlas.Sql.Writer

/-! # The text of a written table

Tables whose names are words, whose types are type tokens and whose comments are texts can
always be written. The written statement is given here as a text made of its parts; the parts
are quiet, so neither the removal of comments nor any split cuts into one of them.
-/
namespace SchemaAtlas.Sql
open Schema (Column Table)

/-- A column that can be written and read again. -/
structure IsWritableColumn (c : Column) : Prop where
  name : ∃ n, c.name = .str n ∧ Text.IsName n.toList
  type : ∃ y, c.type = .str y ∧ IsTypeToken y.toList
  comment : ∃ s, c.comment = .str s

/-- A table that can be written and read again. -/
structure IsWritable (t : Table) : Prop where
  label : ∃ l, t.label = .str l ∧ Text.IsName l.toList
  comment : ∃ s, t.comment = .str s
  columns : ∀ c ∈ t.columns, IsWritableColumn c
  names : (t.columns.map Column.name).Nodup

/-- A name between backticks. -/
def quotedName (name : Value) : List Char :=
  '`' :: (name.text.toList ++ ['`'])

/-- The text after the type of a column. -/
def commentSuffix (s : List Char) : List Char :=
  if s = [] then [] else ' ' :: commentClause s

def columnText (c : Column) : List Char :=
  "  ".toList ++ (quotedName c.name ++
    ' ' :: (c.type.text.toList ++ commentSuffix c.comment.text.toList))

/-- The names of the primary key, between parentheses. -/
def keyNames (keys : List Column) : List Char :=
  ", ".toList.intercalate (keys.map fun c => quotedName c.name)

def keyLine (keys : List Column) : List Char :=
  "  PRIMARY KEY ".toList ++ '(' :: (keyNames keys ++ [')'])

/-- The text of the primary key, if there is one. -/
def keyText (t : Table) : List (List Char) :=
  match t.primaryKeys with
  | [] => []
  | keys => [keyLine keys]

/-- The texts of the clauses of a table: its columns, then the primary key. -/
def clauseTexts (t : Table) : List (List Char) :=
  t.columns.map columnText ++ keyText t

/-- The text between the parentheses of a statement. -/
def bodyText (t : Table) : List Char :=
  '\n' :: (",\n".toList.intercalate (clauseTexts t) ++ ['\n'])

/-- The text after the parentheses of a statement. -/
def optionsText (s : List Char) : List Char :=
  if s = [] then [] else " COMMENT=".toList ++ '\'' :: (quoteLiteral s ++ ['\''])

/-- The statement that creates a table, without the semicolon. -/
def statementText (t : Table) : List Char :=
  "CREATE TABLE ".toList ++ (quotedName t.label ++
    ' ' :: ('(' :: (bodyText t ++ ')' :: optionsText t.comment.text.toList)))

theorem columnLine_of_comment {c : Column} {s : String} (hs : c.comment = .str s) :
    columnLine c = .ok (if s = "" then "  " ++ backticked c.name ++ " " ++ c.type.text
      else "  " ++ backticked c.name ++ " " ++ c.type.text ++
        " COMMENT '" ++ escapeLiteral s ++ "'") := by
  rw [columnLine, hs]
  by_cases he : s = ""
  · rw [if_pos he, he]
    rfl
  · rw [if_neg he, Value.truthy_str, if_pos (by simpa using he)]
    rfl

theorem toList_backticked (v : Value) : (backticked v).toList = quotedName v := by
  rw [backticked, quotedName, String.toList_append, String.toList_append]
  rfl

theorem toList_escapeLiteral (s : String) : (escapeLiteral s).toList = quoteLiteral s.toList :=
  String.toList_ofList

theorem columnLine_eq {c : Column} (h : IsWritableColumn c) :
    columnLine c = .ok (String.ofList (columnText c)) := by
  obtain ⟨s, hs⟩ := h.comment
  rw [columnLine_of_comment hs, Except.ok.injEq, ← String.toList_inj,
    @String.toList_ofList (columnText c), columnText, commentSuffix, hs, Value.text_str]
  by_cases he : s = ""
  · have hnil : s.toList = [] := by rw [he, String.toList_empty]
    rw [if_pos he, if_pos hnil]
    simp only [String.toList_append, toList_backticked, List.append_assoc, List.append_nil]
    rfl
  · have hne : s.toList ≠ [] := by
      rw [← String.toList_empty]
      exact mt String.toList_inj.mp he
    have hspace : " ".toList = [' '] := rfl
    have hcomment : " COMMENT '".toList = ' ' :: "COMMENT '".toList := by decide
    have hquote : "'".toList = ['\''] := rfl
    rw [if_neg he, if_neg hne]
    unfold commentClause
    simp only [String.toList_append, toList_backticked, toList_escapeLiteral, hspace, hcomment,
      hquote, List.append_assoc, List.cons_append, List.nil_append]

theorem primaryKeyLine_eq (t : Table) :
    (primaryKeyLine t).map String.toList = keyText t := by
  have hnames : ∀ keys : List Column, (", ".intercalate (keys.map fun c =>
      backticked c.name)).toList = keyNames keys := by
    intro keys
    rw [String.toList_intercalate, List.map_map, keyNames]
    exact congrArg _ (List.map_congr_left fun c _ => toList_backticked c.name)
  unfold primaryKeyLine keyText
  cases t.primaryKeys with
  | nil => rfl
  | cons c cs =>
    dsimp only
    rw [List.map_singleton, String.toList_append, String.toList_append, hnames]
    rfl

theorem writeTable_of_comment {t : Table} {s : String} {lines : List String}
    (hs : t.comment = .str s) (hl : t.columns.mapM columnLine = .ok lines) :
    writeTable t = .ok ("CREATE TABLE " ++ backticked t.label ++ " (\n" ++
      ",\n".intercalate (lines ++ primaryKeyLine t) ++ "\n)" ++
      (if (escapeLiteral s).isEmpty then "" else " COMMENT='" ++ escapeLiteral s ++ "'") ++
      ";\n\n") := by
  rw [writeTable, hl, hs]
  rfl

theorem toList_options (s : String) :
    (if (escapeLiteral s).isEmpty then "" else " COMMENT='" ++ escapeLiteral s ++ "'").toList =
      optionsText s.toList := by
  have hempty : (escapeLiteral s).isEmpty = true ↔ s.toList = [] := by
    rw [String.isEmpty_iff, ← String.toList_inj, String.toList_empty, toList_escapeLiteral,
      quoteLiteral_eq_nil]
  rw [optionsText]
  by_cases he : s.toList = []
  · rw [if_pos (hempty.mpr he), if_pos he]
    rfl
  · rw [if_neg (mt hempty.mp he), if_neg he, String.toList_append, String.toList_append,
      toList_escapeLiteral, List.append_assoc]
    rfl

/-- A table that can be written is written. -/
theorem writeTable_eq {t : Table} (h : IsWritable t) :
    writeTable t = .ok (String.ofList (statementText t ++ ";\n\n".toList)) := by
  obtain ⟨s, hs⟩ := h.comment
  have hcolumns := mapM_eq_ok fun c hc => columnLine_eq (h.columns c hc)
  rw [writeTable_of_comment hs hcolumns, Except.ok.injEq, ← String.toList_inj,
    @String.toList_ofList (statementText t ++ _)]
  unfold statementText bodyText
  rw [hs, Value.text_str]
  have hlines : ((t.columns.map fun c => String.ofList (columnText c)) ++ primaryKeyLine t).map
      String.toList = clauseTexts t := by
    simp only [clauseTexts, List.map_append, primaryKeyLine_eq, List.map_map, Function.comp_def,
      String.toList_ofList]
  have hopen : " (\n".toList = [' ', '(', '\n'] := rfl
  have hclose : "\n)".toList = ['\n', ')'] := rfl
  simp only [String.toList_append, toList_options, toList_backticked, String.toList_intercalate,
    hlines, hopen, hclose, List.append_assoc, List.cons_append, List.nil_append]

end SchemaAtlas.Sql
