import SchemaAtlas.Proofs.Sql.RereadClauses
import Mathlib.Data.List.Nodup

/-! # Written statements are read back

The statement of a table defines that table. The columns of its primary key are known by their
names, which no two columns share.
-/
namespace SchemaAtlas.Sql
open Text
open Schema (Column Table)

/-- The definition that is read of a written column and of the primary key together. -/
def readKeyColumn (c : Column) : ColumnDef :=
  { readColumn c with isPrimary := (readColumn c).isPrimary || c.isPrimary }

/-- The definition that is read of a written table. -/
def readTable (t : Table) : TableDef where
  name := t.label.text
  columns := t.columns.map readKeyColumn
  comment := t.comment.text
  foreignKeys := []

theorem commentText_optionsText (s : List Char) :
    commentText tableComment? (optionsText s) = s := by
  unfold optionsText
  split
  · next h =>
    rw [h]
    rfl
  · have hlead : Introduces tableComment? ("COMMENT".toList ++ ([] ++ (['='] ++ []))) :=
      .table (by decide) rfl (.inr rfl) rfl
    have hread : tableComment? ("COMMENT=".toList ++ '\'' :: (quoteLiteral s ++ ['\''])) =
        some (quoteLiteral s) := hlead.read_quoteLiteral s []
    have hskip : tableComment? (" COMMENT=".toList ++ '\'' :: (quoteLiteral s ++ ['\''])) = none :=
      rfl
    have hsearch : search tableComment? (" COMMENT=".toList ++ '\'' :: (quoteLiteral s ++ ['\''])) =
        some (quoteLiteral s) := by
      have hcons : " COMMENT=".toList ++ '\'' :: (quoteLiteral s ++ ['\'']) =
          ' ' :: ("COMMENT=".toList ++ '\'' :: (quoteLiteral s ++ ['\''])) := rfl
      rw [hcons] at hskip ⊢
      rw [search, hskip]
      exact search_of_eq_some hread
    rw [commentText, hsearch]
    exact unescape_quoteLiteral s

/-- In a table with distinct column names, exactly the columns of the primary key have a name
that the primary key has. -/
theorem contains_primaryNames {t : Table} (h : IsWritable t) {c : Column} (hc : c ∈ t.columns) :
    (t.primaryKeys.map fun d => d.name.text).contains c.name.text = c.isPrimary := by
  rw [Bool.eq_iff_iff, List.contains_iff_mem]
  constructor
  · intro hm
    obtain ⟨d, hd, hname⟩ := List.mem_map.mp hm
    obtain ⟨hdt, hprimary⟩ := List.mem_filter.mp hd
    obtain ⟨m, hm, _⟩ := (h.columns d hdt).name
    obtain ⟨n, hn, _⟩ := (h.columns c hc).name
    have heq : d.name = c.name := by
      rw [hm, hn, Value.text_str, Value.text_str] at hname
      rw [hm, hn, hname]
    -- Two columns of one name would be taken for one another here.
    rwa [← List.inj_on_of_nodup_map h.names hdt hc heq]
  · intro hp
    exact List.mem_map.mpr ⟨c, List.mem_filter.mpr ⟨hc, hp⟩, rfl⟩

theorem readClauses_foreignKeys (t : Table) (name : String) :
    (readClauses t).filterMap (Clause.foreignKey? name) = [] := by
  apply List.filterMap_eq_nil_iff.mpr
  intro k hk
  rcases List.mem_append.mp hk with hk | hk
  · obtain ⟨c, _, rfl⟩ := List.mem_map.mp hk
    rfl
  · split at hk
    · cases hk
    · rw [List.mem_singleton.mp hk]
      rfl

theorem readClauses_primaryNames (t : Table) :
    (readClauses t).flatMap Clause.primaryNames = t.primaryKeys.map fun d => d.name.text := by
  rw [readClauses, List.flatMap_append, List.flatMap_map]
  cases t.primaryKeys <;> simp [Clause.primaryNames]

theorem readClauses_columns (t : Table) :
    (readClauses t).filterMap Clause.column? = t.columns.map readColumn := by
  rw [readClauses, List.filterMap_append, List.filterMap_map]
  cases t.primaryKeys <;> simp [Clause.column?, Function.comp_def]

theorem ofClauses_readClauses {t : Table} (h : IsWritable t) :
    TableDef.ofClauses t.label.text (readClauses t) (optionsText t.comment.text.toList) =
      readTable t := by
  have hkeys : (t.columns.map readColumn).map (ColumnDef.withKeys
      (t.primaryKeys.map fun d => d.name.text) []) = (readTable t).columns := by
    rw [List.map_map, readTable]
    refine List.map_congr_left fun c hc => ?_
    have hcontains : (t.primaryKeys.map fun d => d.name.text).contains (readColumn c).name =
        c.isPrimary := contains_primaryNames h hc
    rw [Function.comp_apply, ColumnDef.withKeys, hcontains]
    rfl
  unfold TableDef.ofClauses
  simp only [readClauses_foreignKeys, readClauses_primaryNames, readClauses_columns, List.map_nil,
    hkeys, commentText_optionsText, String.ofList_toList]
  rfl

theorem identifier?_quotedName {v : Value} {n : String} (hv : v = .str n) (hn : IsName n.toList)
    (rest : List Char) : identifier? (quotedName v ++ rest) = some (n.toList, rest) := by
  have hback : isWord '`' = false := by decide
  have hquoted : dropOne ['`', '"', '['] (quotedName v ++ rest) = n.toList ++ '`' :: rest := by
    rw [hv, quotedName, Value.text_str, List.cons_append, List.append_assoc]
    rfl
  have htake : (n.toList ++ '`' :: rest).takeWhile isWord = n.toList := by
    rw [List.takeWhile_append_of_pos hn.word, List.takeWhile_cons_of_neg (by simp [hback]),
      List.append_nil]
  have hdrop : (n.toList ++ '`' :: rest).dropWhile isWord = '`' :: rest := by
    rw [List.dropWhile_append_of_pos hn.word, List.dropWhile_cons_of_neg (by simp [hback])]
  obtain ⟨c, u, hcons⟩ := List.exists_cons_of_ne_nil hn.ne_nil
  rw [identifier?, hquoted, htake, hdrop]
  rw [hcons]
  rfl

theorem tableHeader?_statementText {t : Table} {l : String} (hl : t.label = .str l)
    (hlabel : IsName l.toList) (rest : List Char) :
    tableHeader? ("CREATE TABLE ".toList ++ (quotedName t.label ++ rest)) =
      some (l.toList, rest) := by
  have hphrase : phrase? ["CREATE".toList, "TABLE".toList]
      ("CREATE TABLE ".toList ++ (quotedName t.label ++ rest)) =
        some (' ' :: (quotedName t.label ++ rest)) := rfl
  have hblank : afterBlanks? (' ' :: (quotedName t.label ++ rest)) =
      some (quotedName t.label ++ rest) := rfl
  -- A label may begin like a keyword, but the backtick before it keeps it from being one.
  have hexists : ifNotExists? (quotedName t.label ++ rest) = none := rfl
  unfold tableHeader?
  rw [hphrase]
  simp only [Option.bind_eq_bind, Option.bind_some, hblank, hexists, Option.bind_none,
    Option.none_or]
  exact identifier?_quotedName hl hlabel rest

theorem optionsText_last (s : List Char) :
    ∃ d, (')' :: optionsText s).getLast? = some d ∧ isBlank d = false := by
  unfold optionsText
  split
  · exact ⟨')', rfl, by decide⟩
  · refine ⟨'\'', ?_, by decide⟩
    rw [← List.cons_append, ← List.cons_append, ← List.append_assoc, List.getLast?_concat]

theorem statementText_strip (t : Table) : strip (statementText t) = statementText t := by
  have hlast : ∃ d, (statementText t).getLast? = some d ∧ isBlank d = false := by
    obtain ⟨d, hlast, hd⟩ := optionsText_last t.comment.text.toList
    have hsplit : statementText t = ("CREATE TABLE ".toList ++ (quotedName t.label ++
        ' ' :: '(' :: bodyText t)) ++ ')' :: optionsText t.comment.text.toList := by
      unfold statementText
      simp only [List.append_assoc, List.cons_append]
    rw [hsplit]
    exact ⟨d, List.mem_getLast?_append_of_mem_getLast? hlast, hd⟩
  obtain ⟨d, hlast, hd⟩ := hlast
  exact strip_eq_self rfl hlast (by decide) hd

theorem sections?_statementText {t : Table} (h : IsWritable t) {b : List Char}
    (hb : allBlank b = true) :
    sections? (b ++ statementText t) =
      some (t.label.text, .ok (bodyText t, optionsText t.comment.text.toList)) := by
  obtain ⟨l, hl, hlabel⟩ := h.label
  have hheader := tableHeader?_statementText hl hlabel
    (' ' :: '(' :: (bodyText t ++ ')' :: optionsText t.comment.text.toList))
  have hstrip : strip (b ++ statementText t) = statementText t := by
    rw [strip_blank_append hb, statementText_strip]
  have hread : tableHeader? (strip (b ++ statementText t)) =
      some (l.toList, ' ' :: '(' :: (bodyText t ++ ')' :: optionsText t.comment.text.toList)) := by
    rw [hstrip]
    exact hheader
  rw [sections?_of_header hread rfl (bodyText_quiet h).toIsSegment, hl, Value.text_str,
    String.ofList_toList]

/-- The statement that is written for a table defines that table. -/
theorem tableStatement_statementText {t : Table} (h : IsWritable t) {b : List Char}
    (hb : allBlank b = true) : (tableStatement (b ++ statementText t)).1 = some (readTable t) := by
  rw [tableStatement, sections?_statementText h hb]
  dsimp only
  rw [map_clause_bodyText h, ofClauses_readClauses h]

end SchemaAtlas.Sql
