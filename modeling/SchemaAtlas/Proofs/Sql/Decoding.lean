import SchemaAtlas.Proofs.Sql.Quiet
import SchemaAtlas.Proofs.Sql.QuotedPattern

/-! # Quoted texts for all readers

Three readers meet a quoted text: the pattern for comments takes its content, the walk passes over
it as one literal, and the removal of comments copies it. They agree on where it ends, whatever it
holds and whatever comes after it.
-/
namespace SchemaAtlas.Sql
open Text

/-! Quoting goes over a text twice. -/

/-- The text with a backslash before each `c`. -/
def escapeEach (c : Char) (s : List Char) : List Char :=
  s.flatMap fun d => if d = c then ['\\', d] else [d]

/-- Backslashes come first, so those that are put before quotes are not escaped themselves. -/
theorem quoteLiteral_eq_escapeEach (s : List Char) :
    quoteLiteral s = escapeEach '\'' (escapeEach '\\' s) := by
  rw [escapeEach, escapeEach, List.flatMap_assoc, quoteLiteral]
  refine List.flatMap_congr fun c _ => ?_
  by_cases hb : c = '\\'
  · subst hb
    rfl
  · by_cases hq : c = '\'' <;> simp [hb, hq]

/-! The walk finds a literal in its place. -/

/-- A literal inside a text: the walk is outside of literals before the character at `start`, inside
after it, and outside again after the one at `stop`. -/
structure IsLiteralAt (text : List Char) (start stop : Nat) : Prop where
  lt : start < stop
  lt_length : stop < text.length
  isOutside : (State.initial.run (text.take start)).quote = none
  isOpen : ∀ i, start ≤ i → i < stop → (State.initial.run (text.take (i + 1))).quote.isSome = true
  isClosed : (State.initial.run (text.take (stop + 1))).quote = none

/-- After a text that leads the walk back to where it began, a literal is closed as if it came
first. -/
theorem isLiteralAt_append_iff {lead : List Char} (hlead : State.initial.run lead = .initial)
    {q : Char} (hq : isQuote q = true) {s : List Char} {e : Nat} :
    IsLiteralAt (lead ++ q :: s) lead.length (lead.length + e) ↔ ClosesAt (q :: s) e := by
  have hshift : ∀ i, State.initial.run ((lead ++ q :: s).take (lead.length + i)) =
      State.initial.run ((q :: s).take i) := by
    intro i
    rw [List.take_length_add_append, State.run_append, hlead]
  have hlength : (lead ++ q :: s).length = lead.length + (q :: s).length := List.length_append
  constructor
  · rintro ⟨_, hlt, _, hopen, hclosed⟩
    rw [Nat.add_assoc, hshift] at hclosed
    refine ⟨by omega, fun i hi => ?_, hclosed⟩
    have hi := hopen (lead.length + i) (by omega) (by omega)
    rwa [Nat.add_assoc, hshift] at hi
  · intro h
    obtain ⟨body, _, _, _, rfl⟩ := (closesAt_iff hq).mp h
    obtain ⟨hlt, hopen, hclosed⟩ := h
    refine ⟨by omega, by omega, ?_, fun i hi hlast => ?_, ?_⟩
    · rw [List.take_left, hlead]
      rfl
    · obtain ⟨j, rfl⟩ := Nat.exists_eq_add_of_le hi
      rw [Nat.add_assoc, hshift]
      exact hopen j (by omega)
    · rw [Nat.add_assoc, hshift]
      exact hclosed

section Literal
variable {q : Char} {content : List Char} (hq : isQuote q = true)
  (hcontent : isContent q content = true)
include hq hcontent

theorem literal_marks : (tokens (q :: (content ++ [q]))).map (fun t => (t.char, t.quoted)) =
    (q :: (content ++ [q])).map fun c => (c, true) := by
  have hchars : (tokens (q :: (content ++ [q]))).map Token.char = q :: (content ++ [q]) :=
    tokensFrom_map_char ..
  conv_rhs => rw [← hchars, List.map_map]
  refine List.map_congr_left fun t ht => ?_
  rw [(literal_tokens hq hcontent t ht).1]
  rfl

/-! The removal of comments copies a literal, and goes on after it in code. -/

theorem opensComment_literal : opensComment (tokens (q :: content)) = false := by
  refine opensComment_of_quoted fun t ht => (literal_tokens hq hcontent t ?_).1
  rw [← List.cons_append, tokens, tokensFrom_append]
  exact List.mem_append_left _ ht

theorem read_literal (rest : List Char) :
    stripFrom .code (q :: (content ++ q :: rest)) = q :: (content ++ q :: stripFrom .code rest) ∧
      regionAfter .code (q :: (content ++ q :: rest)) = regionAfter .code rest := by
  have hback := ne_backslash_of_isQuote hq
  -- What follows the literal may complete a mark, but the closing quote begins none.
  have hmark : completesNoMark (q :: rest) = true := by
    simp only [isQuote, Bool.or_eq_true, decide_eq_true_eq] at hq
    rcases hq with (rfl | rfl) | rfl <;> rfl
  have hrun : State.initial.run (q :: content) = ⟨some q, false, 0⟩ := by
    rw [State.run_cons, State.step_initial_quote hq, (run_content hcontent 0).1]
  obtain ⟨hstrip, hregion⟩ :=
    stripFrom_of_uncommented State.isSettled_initial 0 (opensComment_literal hq hcontent)
  change stripFrom .code (q :: content) = _ at hstrip
  change regionAfter .code (q :: content) = _ at hregion
  have hinside : regionAfter .code (q :: content) = .literal q false := by
    rw [hregion, hrun]
    rfl
  have hclose : Region.afterLiteral q false q = .code := by simp [Region.afterLiteral, hback]
  rw [← List.cons_append, stripFrom_append _ _ hmark, regionAfter_append _ _ hmark, hstrip, hinside,
    stripFrom, regionAfter, hclose]
  exact ⟨rfl, rfl⟩

end Literal

/-! The literal of a comment. -/

section Comment
variable (s rest : List Char)

theorem isSegment_commentKeyword : IsSegment (fun _ => false) "COMMENT ".toList :=
  (IsQuiet.plain (by decide)).toIsSegment

theorem length_commentClause : (commentClause s).length = (quoteLiteral s).length + 10 := by
  have hlead : "COMMENT ".toList.length = 8 := by decide
  rw [commentClause_eq, List.length_append, hlead, List.length_cons, List.length_append,
    List.length_singleton]
  omega

theorem isLiteralAt_commentClause {stop : Nat} :
    IsLiteralAt (commentClause s ++ rest) 8 stop ↔ stop = (quoteLiteral s).length + 9 := by
  have hcloses : ClosesAt ('\'' :: (quoteLiteral s ++ '\'' :: rest))
      ((quoteLiteral s).length + 1) :=
    (closesAt_iff rfl).mpr ⟨_, rest, isContent_quoteLiteral s, rfl, rfl⟩
  have hiff : ∀ e, IsLiteralAt (commentClause s ++ rest) 8 (8 + e) ↔
      ClosesAt ('\'' :: (quoteLiteral s ++ '\'' :: rest)) e := by
    intro e
    rw [commentClause_append]
    exact isLiteralAt_append_iff isSegment_commentKeyword.run rfl
  constructor
  · intro h
    obtain ⟨e, rfl⟩ := Nat.exists_eq_add_of_lt h.lt
    have he := hcloses.unique ((hiff (e + 1)).mp h)
    omega
  · rintro rfl
    have hstop : (quoteLiteral s).length + 9 = 8 + ((quoteLiteral s).length + 1) := by omega
    rw [hstop, hiff]
    exact hcloses

theorem scan_commentClause : ∃ ts us, scan (commentClause s ++ rest) 0 = .ok (ts ++ us) ∧
    scan (commentClause s ++ rest) ((quoteLiteral s).length + 10 : Nat) = .ok us ∧
    ts.map (fun t => (t.char, t.quoted)) = "COMMENT ".toList.map (fun c => (c, false)) ++
      ('\'' :: (quoteLiteral s ++ ['\''])).map fun c => (c, true) := by
  have hcontent := isContent_quoteLiteral s
  have hsegment : IsSegment (fun _ => false) (commentClause s) := by
    rw [commentClause_eq]
    exact isSegment_commentKeyword.append (.literal rfl hcontent)
  obtain ⟨hall, hrest⟩ := hsegment.scan_append rest
  rw [length_commentClause] at hall hrest
  refine ⟨_, _, hall, hrest, ?_⟩
  have hkeyword : (tokens "COMMENT ".toList).map (fun t => (t.char, t.quoted)) =
      "COMMENT ".toList.map fun c => (c, false) := by decide
  rw [commentClause_eq, tokens_append isSegment_commentKeyword.run, List.map_append, hkeyword,
    List.map_map, ← literal_marks rfl hcontent]
  rfl

theorem read_commentClause :
    stripComments (commentClause s ++ rest) = commentClause s ++ stripComments rest ∧
      regionAfter .code (commentClause s ++ rest) = regionAfter .code rest := by
  obtain ⟨hstrip, hregion⟩ := read_literal rfl (isContent_quoteLiteral s) rest
  have hkeyword : stripFrom .code "COMMENT ".toList = "COMMENT ".toList ∧
      regionAfter .code "COMMENT ".toList = .code := by decide
  rw [stripComments, commentClause_append, stripFrom_append _ _ rfl, regionAfter_append _ _ rfl,
    hkeyword.1, hkeyword.2, hstrip, hregion, commentClause_append]
  exact ⟨rfl, rfl⟩

/-- How the readers of literals take a text that is quoted in the clause of a comment. The literal
stands after the keyword and a space, so it begins at 8. -/
structure IsDecoded : Prop where
  /-- Quoting escapes backslashes, then quotes. -/
  written : quoteLiteral s = escapeEach '\'' (escapeEach '\\' s)
  content : commentText columnComment? (commentClause s ++ rest) = s
  /-- The quote that opens the literal is closed by the one after the content, and by no other. -/
  closes : ∀ stop, IsLiteralAt (commentClause s ++ rest) 8 stop ↔
    stop = (quoteLiteral s).length + 9
  /-- All of the literal is scanned as quoted, and what comes after it as if it were alone. -/
  scanned : ∃ ts us, scan (commentClause s ++ rest) 0 = .ok (ts ++ us) ∧
    scan (commentClause s ++ rest) ((quoteLiteral s).length + 10 : Nat) = .ok us ∧
    ts.map (fun t => (t.char, t.quoted)) = "COMMENT ".toList.map (fun c => (c, false)) ++
      ('\'' :: (quoteLiteral s ++ ['\''])).map fun c => (c, true)
  copied : stripComments (commentClause s ++ rest) = commentClause s ++ stripComments rest
  /-- Right after the literal the removal of comments is in code, whatever comes next. -/
  outside : regionAfter .code (commentClause s) = .code ∧
    regionAfter .code (commentClause s ++ rest) = regionAfter .code rest

/-- What quoting has written is taken back by all readers, whatever text comes after it. -/
theorem commentClause_isDecoded : IsDecoded s rest := by
  obtain ⟨hstrip, hregion⟩ := read_commentClause s rest
  have hend : regionAfter .code (commentClause s) = .code := by
    have h := (read_commentClause s []).2
    rwa [List.append_nil] at h
  exact ⟨quoteLiteral_eq_escapeEach s, commentText_commentClause_append s rest,
    fun _ => isLiteralAt_commentClause s rest, scan_commentClause s rest, hstrip, hend, hregion⟩

end Comment

/-- A quote after a backslash, a line feed and marks of comments stay in the literal, and the quote
that follows it opens another. -/
example : commentText columnComment? (commentClause "\\'\n--/*".toList ++ "'#".toList) =
      "\\'\n--/*".toList ∧
    stripComments (commentClause "\\'\n--/*".toList ++ "'#".toList) =
      commentClause "\\'\n--/*".toList ++ "'#".toList := by
  decide

end SchemaAtlas.Sql
