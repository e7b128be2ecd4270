import SchemaAtlas.Proofs.Sql.Intact
import SchemaAtlas.Proofs.Text.Blank
import SchemaAtlas.Proofs.Text.Pieces
import SchemaAtlas.Sql.Table
import Mathlib.Data.List.Basic

/-! # Written clauses are read back

The clauses of a written table give its columns and its primary key. The name of a column is
its first word, and the type ends at the first blank outside of literals and parentheses; all
that follows is the comment.
-/
namespace SchemaAtlas.Sql
open Text
open Schema (Column Table)

/-- The text after the type of a column, without the blank before it. -/
def modifiersText (s : List Char) : List Char :=
  if s = [] then [] else commentClause s

/-- The definition that is read of a written column, if its name is not in the primary key. -/
def readColumn (c : Column) : ColumnDef where
  name := c.name.text
  type := c.type.text
  isPrimary := mentionsPrimaryKey (modifiersText c.comment.text.toList)
  isForeign := false
  comment := c.comment.text
  nullable := !mentionsNotNull (modifiersText c.comment.text.toList)

theorem commentClause_last (s : List Char) : (commentClause s).getLast? = some '\'' := by
  unfold commentClause
  rw [← List.append_assoc, List.getLast?_concat]

theorem commentClause_strip (s : List Char) : strip (commentClause s) = commentClause s :=
  strip_eq_self rfl (commentClause_last s) (by decide) (by decide)

theorem modifiersText_strip (s : List Char) : strip (commentSuffix s) = modifiersText s := by
  unfold commentSuffix modifiersText
  split
  · rfl
  · have hblank : allBlank [' '] = true := by decide
    have h := strip_blank_append hblank (commentClause s)
    rw [commentClause_strip] at h
    exact h

theorem commentText_modifiersText (s : List Char) :
    commentText columnComment? (modifiersText s) = s := by
  unfold modifiersText
  split
  · next h =>
    rw [h]
    rfl
  · exact commentText_commentClause s

theorem typeEnd_commentSuffix {type : List Char} (h : IsTypeToken type) (s : List Char) :
    typeEnd (type ++ commentSuffix s) = type.length := by
  have hsegment : IsSegment isBlank type := by
    refine h.quiet.toIsSegment.mono fun c hc => ?_
    rw [endsType, Bool.or_eq_false_iff] at hc
    exact hc.1
  unfold commentSuffix
  split
  · rw [List.append_nil, typeEnd_segment hsegment]
  · exact typeEnd_append hsegment rfl (by decide) _

theorem quotedName_not_blank {v : Value} {n : String} (hv : v = .str n) (hn : IsName n.toList) :
    ∀ c ∈ quotedName v, isBlank c = false := by
  intro c hc
  rw [hv, quotedName, Value.text_str] at hc
  rcases List.mem_cons.mp hc with rfl | hc
  · decide
  · rcases List.mem_append.mp hc with hc | hc
    · exact isBlank_of_isWord (hn.word c hc)
    · rw [List.mem_singleton.mp hc]
      decide

theorem bareName_quotedName {v : Value} {n : String} (hv : v = .str n) (hn : IsName n.toList) :
    bareName (quotedName v) = n.toList := by
  have hkeep : ∀ c ∈ n.toList, decide (c ∉ ['`', '"', '[', ']']) = true := by
    intro c hc
    have hback := ne_of_isWord (hn.word c hc) (show isWord '`' = false by decide)
    have hdouble := ne_of_isWord (hn.word c hc) (show isWord '"' = false by decide)
    have hleft := ne_of_isWord (hn.word c hc) (show isWord '[' = false by decide)
    have hright := ne_of_isWord (hn.word c hc) (show isWord ']' = false by decide)
    simp [hback, hdouble, hleft, hright]
  rw [hv, bareName, quotedName, Value.text_str, List.filter_cons_of_neg (by decide),
    List.filter_append, List.filter_eq_self.mpr hkeep, List.filter_cons_of_neg (by decide),
    List.filter_nil, List.append_nil]

/-- The text of a column without the blanks before it. -/
def columnCore (c : Column) : List Char :=
  quotedName c.name ++ ' ' :: (c.type.text.toList ++ commentSuffix c.comment.text.toList)

theorem columnCore_last {c : Column} (h : IsWritableColumn c) :
    ∃ d, (columnCore c).getLast? = some d ∧ isBlank d = false := by
  obtain ⟨y, hy, htype⟩ := h.type
  obtain ⟨d, hlast, hd⟩ := htype.word.last_not_blank
  have hsplit : columnCore c =
      (quotedName c.name ++ [' ']) ++ (c.type.text.toList ++ commentSuffix c.comment.text.toList) :=
    (List.append_assoc _ [' '] _).symm
  rw [hsplit]
  unfold commentSuffix
  split
  · refine ⟨d, List.mem_getLast?_append_of_mem_getLast? ?_, hd⟩
    rw [List.append_nil, hy, Value.text_str]
    exact hlast
  · have hclause : '\'' ∈ ([' '] ++ commentClause c.comment.text.toList).getLast? :=
      List.mem_getLast?_append_of_mem_getLast? (commentClause_last _)
    refine ⟨'\'', List.mem_getLast?_append_of_mem_getLast? ?_, by decide⟩
    exact List.mem_getLast?_append_of_mem_getLast? hclause

theorem columnText_strip {c : Column} (h : IsWritableColumn c) :
    strip (columnText c) = columnCore c := by
  obtain ⟨d, hlast, hd⟩ := columnCore_last h
  have hself : strip (columnCore c) = columnCore c := strip_eq_self rfl hlast (by decide) hd
  have hindent : columnText c = "  ".toList ++ columnCore c := rfl
  rw [hindent, strip_blank_append (by decide), hself]

theorem column?_columnCore {c : Column} (h : IsWritableColumn c) :
    column? (columnCore c) = some (readColumn c) := by
  obtain ⟨n, hn, hname⟩ := h.name
  obtain ⟨y, hy, htype⟩ := h.type
  obtain ⟨s, hs⟩ := h.comment
  obtain ⟨d, hlast, hd⟩ := columnCore_last h
  have hself : strip (columnCore c) = columnCore c := strip_eq_self rfl hlast (by decide) hd
  obtain ⟨e, u, htypeText, he⟩ := htype.word.head_not_blank
  have hword : firstWord (columnCore c) =
      (quotedName c.name, y.toList ++ commentSuffix s.toList) := by
    have hsolid : startsSolid (e :: u ++ commentSuffix s.toList) = true := by
      rw [List.cons_append, startsSolid, he]
      rfl
    have hgap : IsGap [' '] := by decide
    rw [columnCore, hy, hs, Value.text_str, Value.text_str, htypeText]
    exact firstWord_append (quotedName_not_blank hn hname) (List.cons_ne_nil _ _) hgap hsolid
  have hend := typeEnd_commentSuffix htype s.toList
  have hempty : ((quotedName c.name).isEmpty || (y.toList ++ commentSuffix s.toList).isEmpty) =
      false := by
    rw [htypeText]
    rfl
  have hnot : ((quotedName c.name).isEmpty || (y.toList ++ commentSuffix s.toList).isEmpty) ≠
      true := by rw [hempty]; decide
  rw [column?, hself, hword]
  dsimp only
  rw [if_neg hnot, hend, List.take_left, List.drop_left, modifiersText_strip,
    bareName_quotedName hn hname, htype.upper, commentText_modifiersText]
  simp [readColumn, hn, hy, hs]

theorem clause_columnText {c : Column} (h : IsWritableColumn c) :
    clause (columnText c) = .column (readColumn c) := by
  have hempty : (columnCore c).isEmpty = false := rfl
  have hindex : isIndexClause (columnCore c) = false := rfl
  have hprimary : isPrimaryKeyClause (columnCore c) = false := rfl
  have hconstraint : isConstraintClause (columnCore c) = false := rfl
  rw [clause, columnText_strip h]
  simp only [hempty, hindex, hprimary, hconstraint, column?_columnCore h, Bool.false_eq_true,
    if_false]

/-- The text of the primary key without the blanks before it. -/
def keyCore (keys : List Column) : List Char :=
  "PRIMARY KEY ".toList ++ '(' :: (keyNames keys ++ [')'])

theorem keyCore_strip (keys : List Column) : strip (keyCore keys) = keyCore keys := by
  have hlast : (keyCore keys).getLast? = some ')' := by
    unfold keyCore
    rw [← List.cons_append, ← List.append_assoc, List.getLast?_concat]
  exact strip_eq_self rfl hlast (by decide) (by decide)

theorem notMem_quotedName {v : Value} {n : String} (hv : v = .str n) (hn : IsName n.toList)
    {d : Char} (hd : isWord d = false) (hq : d ≠ '`') : d ∉ quotedName v := by
  rw [hv, quotedName, Value.text_str]
  simp [hq, hn.notMem hd]

theorem notMem_intercalate {d : Char} {sep : List Char} (hsep : d ∉ sep) {us : List (List Char)}
    (h : ∀ u ∈ us, d ∉ u) : d ∉ sep.intercalate us := by
  induction us with
  | nil => exact List.not_mem_nil
  | cons u us ih =>
    have hu := h u List.mem_cons_self
    have hus := ih fun v hv => h v (List.mem_cons_of_mem _ hv)
    cases us with
    | nil => rwa [List.intercalate_singleton]
    | cons v us =>
      rw [List.intercalate_cons_cons]
      simp only [List.mem_append, not_or]
      exact ⟨⟨hu, hsep⟩, hus⟩

theorem notMem_keyNames {keys : List Column} (h : ∀ c ∈ keys, IsWritableColumn c) {d : Char}
    (hd : isWord d = false) (hq : d ≠ '`') (hsep : d ∉ ", ".toList) : d ∉ keyNames keys := by
  apply notMem_intercalate hsep
  intro u hu
  obtain ⟨c, hc, rfl⟩ := List.mem_map.mp hu
  obtain ⟨n, hn, hname⟩ := (h c hc).name
  exact notMem_quotedName hn hname hd hq

theorem primaryKeyList?_eq_some {s w names rest : List Char}
    (hphrase : phrase? ["PRIMARY".toList, "KEY".toList] s = some w)
    (hopen : after? '(' (stripStart w) = some (names ++ ')' :: rest))
    (hparen : ')' ∉ names) (hline : '\n' ∉ names) : primaryKeyList? s = some names := by
  have hkeep : ∀ c ∈ names, (decide (c ≠ ')') && decide (c ≠ '\n')) = true := by
    intro c hc
    have hne : c ≠ ')' := fun he => hparen (he ▸ hc)
    have hne' : c ≠ '\n' := fun he => hline (he ▸ hc)
    simp [hne, hne']
  have htake : (names ++ ')' :: rest).takeWhile (fun c => c ≠ ')' && c ≠ '\n') = names := by
    rw [List.takeWhile_append_of_pos hkeep, List.takeWhile_cons_of_neg (by decide),
      List.append_nil]
  have hclose : after? ')' (')' :: rest) = some rest := rfl
  rw [primaryKeyList?, hphrase]
  simp only [Option.bind_eq_bind, Option.bind_some, hopen, htake, List.drop_left, hclose]
  rfl

theorem primaryKeyList?_keyCore {keys : List Column} (h : ∀ c ∈ keys, IsWritableColumn c) :
    primaryKeyList? (keyCore keys) = some (keyNames keys) := by
  have hphrase : phrase? ["PRIMARY".toList, "KEY".toList] (keyCore keys) =
      some (' ' :: '(' :: (keyNames keys ++ [')'])) := rfl
  exact primaryKeyList?_eq_some hphrase rfl (notMem_keyNames h (by decide) (by decide) (by decide))
    (notMem_keyNames h (by decide) (by decide) (by decide))

theorem strip_quotedName (v : Value) : strip (quotedName v) = quotedName v := by
  have hlast : (quotedName v).getLast? = some '`' := by
    rw [quotedName, ← List.cons_append, List.getLast?_concat]
  exact strip_eq_self rfl hlast (by decide) (by decide)

theorem primaryKeyNames_keyCore {keys : List Column} (hne : keys ≠ [])
    (h : ∀ c ∈ keys, IsWritableColumn c) :
    primaryKeyNames (keyCore keys) = keys.map fun c => c.name.text := by
  have hcomma : ∀ u ∈ keys.map (fun c => quotedName c.name), ',' ∉ u := by
    intro u hu
    obtain ⟨c, hc, rfl⟩ := List.mem_map.mp hu
    obtain ⟨n, hn, hname⟩ := (h c hc).name
    exact notMem_quotedName hn hname (by decide) (by decide)
  have hpieces : (pieces ',' (keyNames keys)).map strip =
      (keys.map fun c => quotedName c.name).map strip :=
    map_strip_pieces_intercalate (by decide) (by decide) (by simpa using hne) hcomma
  have hbare : ∀ c ∈ keys,
      String.ofList (bareName (strip (quotedName c.name))) = c.name.text := by
    intro c hc
    obtain ⟨n, hn, hname⟩ := (h c hc).name
    rw [strip_quotedName, bareName_quotedName hn hname, hn, Value.text_str,
      String.ofList_toList]
  have hread : (pieces ',' (keyNames keys)).map (fun n => String.ofList (bareName (strip n))) =
      ((pieces ',' (keyNames keys)).map strip).map (fun n => String.ofList (bareName n)) := by
    rw [List.map_map]
    rfl
  rw [primaryKeyNames, search_of_eq_some (primaryKeyList?_keyCore h)]
  dsimp only
  rw [hread, hpieces, List.map_map, List.map_map]
  exact List.map_congr_left hbare

theorem keyLine_strip (keys : List Column) : strip (keyLine keys) = keyCore keys := by
  have hindent : keyLine keys = "  ".toList ++ keyCore keys := rfl
  rw [hindent, strip_blank_append (by decide), keyCore_strip]

theorem clause_keyLine {keys : List Column} (hne : keys ≠ [])
    (h : ∀ c ∈ keys, IsWritableColumn c) :
    clause (keyLine keys) = .primaryKey (keys.map fun c => c.name.text) := by
  have hempty : (keyCore keys).isEmpty = false := rfl
  have hindex : isIndexClause (keyCore keys) = false := rfl
  have hprimary : isPrimaryKeyClause (keyCore keys) = true := rfl
  rw [clause, keyLine_strip]
  simp only [hempty, hindex, hprimary, primaryKeyNames_keyCore hne h, Bool.false_eq_true,
    if_false, if_true]

/-- The clauses that are read of a written table. -/
def readClauses (t : Table) : List Clause :=
  t.columns.map (fun c => .column (readColumn c)) ++
    match t.primaryKeys with
    | [] => []
    | keys => [.primaryKey (keys.map fun c => c.name.text)]

theorem map_clause_clauseTexts {t : Table} (h : IsWritable t) :
    (clauseTexts t).map clause = readClauses t := by
  have hcolumns : (t.columns.map columnText).map clause =
      t.columns.map fun c => .column (readColumn c) := by
    rw [List.map_map]
    exact List.map_congr_left fun c hc => clause_columnText (h.columns c hc)
  have hkeys := h.primaryKeys
  rw [clauseTexts, readClauses, List.map_append, hcolumns, keyText]
  cases hk : t.primaryKeys with
  | nil => rfl
  | cons c cs =>
    rw [hk] at hkeys
    dsimp only
    rw [List.map_singleton, clause_keyLine (List.cons_ne_nil c cs) hkeys]

theorem strip_clauseTexts {t : Table} (h : IsWritable t) :
    ∀ u ∈ clauseTexts t, strip u ≠ [] := by
  intro u hu
  rcases List.mem_append.mp hu with hu | hu
  · obtain ⟨c, hc, rfl⟩ := List.mem_map.mp hu
    rw [columnText_strip (h.columns c hc)]
    exact List.cons_ne_nil _ _
  · unfold keyText at hu
    cases hk : t.primaryKeys with
    | nil => simp [hk] at hu
    | cons c cs =>
      rw [hk] at hu
      rw [List.mem_singleton.mp hu, keyLine_strip]
      exact List.cons_ne_nil _ _

/-- A clause is read without the blanks around it. -/
theorem clause_congr {u v : List Char} (h : strip u = strip v) : clause u = clause v := by
  rw [clause, clause, h]

/-- Lines of a body are split where they have been put together. -/
theorem map_clause_splitAt {us : List (List Char)} (hq : ∀ u ∈ us, IsQuiet (· = ',') u)
    (hs : ∀ u ∈ us, strip u ≠ []) :
    (splitAt ',' ('\n' :: ([',', '\n'].intercalate us ++ ['\n']))).map clause =
      us.map clause := by
  induction us with
  | nil => decide
  | cons u us ih =>
    have hline : IsQuiet (· = ',') ('\n' :: u) := .cons rfl rfl (hq u List.mem_cons_self)
    have hrest := ih (fun v hv => hq v (List.mem_cons_of_mem _ hv))
      fun v hv => hs v (List.mem_cons_of_mem _ hv)
    have hblank : allBlank ['\n'] = true := by decide
    have hstrip : strip ('\n' :: u) = strip u := strip_blank_append hblank u
    cases us with
    | nil =>
      have hlast : IsQuiet (· = ',') ('\n' :: u ++ ['\n']) :=
        hline.append (.cons rfl rfl (.nil _)) rfl
      have hstripLast : strip ('\n' :: u ++ ['\n']) = strip u := by
        rw [strip_append_blank hblank, hstrip]
      have hnot : allBlank ('\n' :: u ++ ['\n']) ≠ true := by
        intro hall
        apply hs u List.mem_cons_self
        rw [← hstripLast, strip_of_allBlank hall]
      rw [List.intercalate_singleton, ← List.cons_append, splitAt_segment hlast.toIsSegment,
        if_neg hnot, List.map_singleton, List.map_singleton, clause_congr hstripLast]
    | cons v us =>
      -- The line feed after a comma belongs to the next line, so what is left of the body has
      -- the shape of a body again.
      have hjoin : '\n' :: ([',', '\n'].intercalate (u :: v :: us) ++ ['\n']) =
          ('\n' :: u) ++ ',' :: '\n' :: ([',', '\n'].intercalate (v :: us) ++ ['\n']) := by
        rw [List.intercalate_cons_cons]
        simp only [List.append_assoc, List.cons_append, List.nil_append]
      rw [hjoin, splitAt_segment_append rfl hline.toIsSegment, List.map_cons, hrest,
        clause_congr hstrip]
      rfl

theorem map_clause_bodyText {t : Table} (h : IsWritable t) :
    (splitAt ',' (bodyText t)).map clause = readClauses t := by
  rw [← map_clause_clauseTexts h]
  exact map_clause_splitAt (clauseTexts_quiet h) (strip_clauseTexts h)

end SchemaAtlas.Sql
