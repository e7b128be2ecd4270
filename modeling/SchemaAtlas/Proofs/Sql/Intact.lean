import SchemaAtlas.Proofs.Sql.Written

/-! # Written statements stay in one piece

Every part of a written statement is quiet: a column as far as commas go, a statement as far
as semicolons go. What a comment says does not matter, for it stands in a literal.
-/
namespace SchemaAtlas.Sql
open Schema (Column Table)

theorem quotedName_quiet (stop : Char → Bool) {v : Value} {n : String} (hv : v = .str n)
    (hn : Text.IsName n.toList) : IsQuiet stop (quotedName v) := by
  rw [hv]
  exact .literal rfl (isContent_of_notMem (hn.notMem (by decide)) (hn.notMem (by decide)))

theorem commentSuffix_quiet (s : List Char) : IsQuiet (· = ',') (commentSuffix s) := by
  unfold commentSuffix
  split
  · exact .nil _
  · have hword : IsQuiet (· = ',') "COMMENT ".toList := .plain (by decide)
    have hlit : IsQuiet (· = ',') ('\'' :: (quoteLiteral s ++ ['\''])) :=
      .literal rfl (isContent_quoteLiteral s)
    exact .cons rfl rfl (hword.append hlit rfl)

theorem columnText_quiet {c : Column} (h : IsWritableColumn c) :
    IsQuiet (· = ',') (columnText c) := by
  obtain ⟨n, hn, hname⟩ := h.name
  obtain ⟨y, hy, htype⟩ := h.type
  have hquoted : IsQuiet (· = ',') (quotedName c.name) := quotedName_quiet _ hn hname
  have htoken : IsQuiet (· = ',') c.type.text.toList := by
    rw [hy]
    refine htype.quiet.mono fun d hd => ?_
    rw [endsType, Bool.or_eq_false_iff] at hd
    exact hd.2
  have hsuffix := commentSuffix_quiet c.comment.text.toList
  have hmark : completesNoMark (commentSuffix c.comment.text.toList) = true := by
    unfold commentSuffix
    split <;> rfl
  exact .cons rfl rfl (.cons rfl rfl
    (hquoted.append (.cons rfl rfl (htoken.append hsuffix hmark)) rfl))

/-- Quiet texts stay so when they are put together with commas. -/
theorem quiet_intercalate {stop : Char → Bool} {e : Char} (he : isPlain e = true)
    (hcomma : stop ',' = false) (hes : stop e = false) {us : List (List Char)}
    (h : ∀ u ∈ us, IsQuiet stop u) : IsQuiet stop ([',', e].intercalate us) := by
  induction us with
  | nil => exact .nil _
  | cons u us ih =>
    have hu := h u List.mem_cons_self
    have hrest := ih fun v hv => h v (List.mem_cons_of_mem _ hv)
    cases us with
    | nil => rwa [List.intercalate_singleton]
    | cons v us =>
      rw [List.intercalate_cons_cons, List.append_assoc]
      exact hu.append (.cons rfl hcomma (.cons he hes hrest)) rfl

theorem keyNames_quiet {keys : List Column} (h : ∀ c ∈ keys, IsWritableColumn c) :
    IsQuiet (fun _ => false) (keyNames keys) := by
  apply quiet_intercalate rfl rfl rfl
  intro u hu
  obtain ⟨c, hc, rfl⟩ := List.mem_map.mp hu
  obtain ⟨n, hn, hname⟩ := (h c hc).name
  exact quotedName_quiet _ hn hname

theorem IsWritable.primaryKeys {t : Table} (h : IsWritable t) :
    ∀ c ∈ t.primaryKeys, IsWritableColumn c :=
  fun c hc => h.columns c (List.mem_filter.mp hc).1

theorem keyText_quiet {t : Table} (h : IsWritable t) :
    ∀ u ∈ keyText t, IsQuiet (· = ',') u := by
  intro u hu
  unfold keyText at hu
  have hkeys := keyNames_quiet h.primaryKeys
  cases hk : t.primaryKeys with
  | nil => simp [hk] at hu
  | cons c cs =>
    rw [hk] at hu hkeys
    rw [List.mem_singleton.mp hu]
    exact (IsQuiet.plain (by decide)).append (.parens rfl hkeys) rfl

theorem clauseTexts_quiet {t : Table} (h : IsWritable t) :
    ∀ u ∈ clauseTexts t, IsQuiet (· = ',') u := by
  intro u hu
  rcases List.mem_append.mp hu with hu | hu
  · obtain ⟨c, hc, rfl⟩ := List.mem_map.mp hu
    exact columnText_quiet (h.columns c hc)
  · exact keyText_quiet h u hu

theorem bodyText_quiet {t : Table} (h : IsWritable t) :
    IsQuiet (fun _ => false) (bodyText t) := by
  have hlines : IsQuiet (fun _ => false) (",\n".toList.intercalate (clauseTexts t)) :=
    quiet_intercalate rfl rfl rfl fun u hu => (clauseTexts_quiet h u hu).mono fun _ _ => rfl
  exact .cons rfl rfl (hlines.append (.plain (by decide)) rfl)

theorem optionsText_quiet (s : List Char) : IsQuiet (· = ';') (optionsText s) := by
  unfold optionsText
  split
  · exact .nil _
  · exact (IsQuiet.plain (by decide)).append (.literal rfl (isContent_quoteLiteral s)) rfl

/-- A written statement ends at its semicolon and not before. -/
theorem statementText_quiet {t : Table} (h : IsWritable t) :
    IsQuiet (· = ';') (statementText t) := by
  obtain ⟨l, hl, hlabel⟩ := h.label
  have hheader : IsQuiet (· = ';') "CREATE TABLE ".toList := .plain (by decide)
  have hquoted : IsQuiet (· = ';') (quotedName t.label) := quotedName_quiet _ hl hlabel
  have hbody : IsQuiet (· = ';') ('(' :: (bodyText t ++ [')'])) := .parens rfl (bodyText_quiet h)
  have hoptions := optionsText_quiet t.comment.text.toList
  have hmark : completesNoMark (optionsText t.comment.text.toList) = true := by
    unfold optionsText
    split <;> rfl
  have hrest : IsQuiet (· = ';')
      (' ' :: ('(' :: (bodyText t ++ [')']) ++ optionsText t.comment.text.toList)) :=
    .cons rfl rfl (hbody.append hoptions hmark)
  have hstatement := hheader.append (hquoted.append hrest rfl) rfl
  unfold statementText
  simpa only [List.cons_append, List.append_assoc, List.nil_append] using hstatement

end SchemaAtlas.Sql
