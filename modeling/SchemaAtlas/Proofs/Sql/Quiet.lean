import SchemaAtlas.Proofs.Sql.Boundaries
import SchemaAtlas.Proofs.Sql.Regions

/-! # Quiet texts

A text without comment marks outside its literals passes through the removal of comments as it
is: there the two readings of quotes agree. A quiet text is such a text that is a segment
besides, so that nothing that is done to a script before its statements are read touches it.
-/
namespace SchemaAtlas.Sql

/-- Whether a comment mark stands outside quotes. -/
def opensComment : List Token → Bool
  | [] => false
  | t :: rest =>
    !t.quoted && (t.char = '#' || startsMark t.char (rest.map Token.char)) || opensComment rest

/-- The region in which the walk over a text believes itself to be. -/
def Region.ofState (s : State) : Region :=
  match s.quote with
  | some q => .literal q s.escaped
  | none => .code

theorem Region.ofState_step_literal {s : State} {q : Char} (hq : s.quote = some q) (c : Char) :
    afterLiteral q s.escaped c = ofState (s.step c) := by
  rcases s with ⟨quote, escaped, depth⟩
  simp only at hq
  subst hq
  by_cases he : escaped = true <;> by_cases hb : c = '\\' <;> by_cases hc : c = q <;>
    simp_all [afterLiteral, ofState, State.step, State.stepQuoted]

theorem Region.ofState_step_code {s : State} (hs : s.IsSettled) (hq : s.quote = none) (c : Char) :
    afterCode c = ofState (s.step c) := by
  have he := hs hq
  rcases s with ⟨quote, escaped, depth⟩
  simp only at hq he
  subst hq he
  simp only [afterCode, State.step, State.stepPlain]
  split_ifs <;> rfl

/-- A quote is no part of a comment mark. -/
theorem noMark_of_isQuote {c : Char} (hc : isQuote c = true) (u : List Char) :
    c ≠ '#' ∧ startsMark c u = false := by
  simp only [isQuote, Bool.or_eq_true, decide_eq_true_eq] at hc
  rcases hc with (rfl | rfl) | rfl <;> exact ⟨by decide, rfl⟩

/-- Where no comment is opened, nothing is removed, and the removal of comments ends in the
literal in which the walk ends. -/
theorem stripFrom_of_uncommented {s : State} (hs : s.IsSettled) (i : Int) {u : List Char}
    (h : opensComment (tokensFrom s i u) = false) :
    stripFrom (.ofState s) u = u ∧ regionAfter (.ofState s) u = .ofState (s.run u) := by
  induction u generalizing s i with
  | nil => cases hr : Region.ofState s <;> simp [stripFrom, regionAfter, hr]
  | cons c u ih =>
    rw [tokensFrom_cons, opensComment, Bool.or_eq_false_iff, tokensFrom_map_char] at h
    obtain ⟨hmark, hrest⟩ := h
    obtain ⟨hstrip, hregion⟩ := ih (hs.step c) (i + 1) hrest
    cases hq : s.quote with
    | some q =>
      have hr : Region.ofState s = .literal q s.escaped := by rw [Region.ofState, hq]
      rw [hr, stripFrom, regionAfter, Region.ofState_step_literal hq, hstrip, hregion]
      exact ⟨rfl, rfl⟩
    | none =>
      have hr : Region.ofState s = .code := by rw [Region.ofState, hq]
      -- A quote counts as quoted, so nothing is known of it but that it is no mark.
      have hno : c ≠ '#' ∧ startsMark c u = false := by
        cases hc : isQuote c with
        | true => exact noMark_of_isQuote hc u
        | false => simpa [State.quotes, hq, hc] using hmark
      rw [hr, stripFrom_code_cons hno.2, regionAfter_code_cons hno.2, if_neg hno.1, if_neg hno.1,
        Region.ofState_step_code hs hq, hstrip, hregion]
      exact ⟨rfl, rfl⟩

/-- A segment that the removal of comments copies and leaves again. -/
structure IsQuiet (stop : Char → Bool) (u : List Char) : Prop extends IsSegment stop u where
  verbatim : stripFrom .code u = u
  region : regionAfter .code u = .code

theorem IsSegment.quiet {stop : Char → Bool} {u : List Char} (hu : IsSegment stop u)
    (h : opensComment (tokens u) = false) : IsQuiet stop u := by
  obtain ⟨hstrip, hregion⟩ := stripFrom_of_uncommented State.isSettled_initial 0 h
  refine ⟨hu, hstrip, ?_⟩
  rw [hu.run] at hregion
  exact hregion

theorem IsQuiet.nil (stop : Char → Bool) : IsQuiet stop [] :=
  (IsSegment.nil stop).quiet rfl

theorem IsQuiet.append {stop : Char → Bool} {u v : List Char} (hu : IsQuiet stop u)
    (hv : IsQuiet stop v) (h : completesNoMark v = true) : IsQuiet stop (u ++ v) := by
  refine ⟨hu.toIsSegment.append hv.toIsSegment, ?_, ?_⟩
  · rw [stripFrom_append _ _ h, hu.verbatim, hu.region, hv.verbatim]
  · rw [regionAfter_append _ _ h, hu.region, hv.region]

theorem IsQuiet.mono {stop stop' : Char → Bool} {u : List Char} (hu : IsQuiet stop u)
    (h : ∀ c, stop c = false → stop' c = false) : IsQuiet stop' u :=
  ⟨hu.toIsSegment.mono h, hu.verbatim, hu.region⟩

/-- Whether a character has no meaning outside of literals. -/
def isPlain (c : Char) : Bool :=
  !isQuote c && c ∉ ['(', ')', '#', '/', '-']

theorem step_of_isPlain {c : Char} (h : isPlain c = true) : State.initial.step c = .initial := by
  simp only [isPlain, Bool.and_eq_true, Bool.not_eq_true', List.mem_cons, not_or,
    decide_eq_true_eq] at h
  simp [State.step, State.stepPlain, State.initial, h.1, h.2.1, h.2.2.1]

theorem opensComment_of_isPlain {s : State} {i : Int} {u : List Char}
    (h : ∀ c ∈ u, isPlain c = true) : opensComment (tokensFrom s i u) = false := by
  induction u generalizing s i with
  | nil => rfl
  | cons c u ih =>
    have hc := h c List.mem_cons_self
    simp only [isPlain, Bool.and_eq_true, List.mem_cons, not_or, decide_eq_true_eq] at hc
    rw [tokensFrom_cons, opensComment, ih fun d hd => h d (List.mem_cons_of_mem _ hd)]
    simp [startsMark, hc]

theorem opensComment_of_quoted {ts : List Token} (h : ∀ t ∈ ts, t.quoted = true) :
    opensComment ts = false := by
  induction ts with
  | nil => rfl
  | cons t ts ih =>
    rw [opensComment, h t List.mem_cons_self, ih fun u hu => h u (List.mem_cons_of_mem _ hu)]
    rfl

theorem IsQuiet.plain {stop : Char → Bool} {u : List Char}
    (h : (u.all fun c => isPlain c && !stop c) = true) : IsQuiet stop u := by
  have hu : ∀ c ∈ u, isPlain c = true ∧ stop c = false := by simpa using h
  refine IsSegment.quiet (IsSegment.plain fun c hc => ?_)
    (opensComment_of_isPlain fun c hc => (hu c hc).1)
  exact ⟨step_of_isPlain (hu c hc).1, (hu c hc).2⟩

/-- A plain character opens no comment, whatever follows. -/
theorem startsMark_of_isPlain {c : Char} (h : isPlain c = true) (u : List Char) :
    c ≠ '#' ∧ startsMark c u = false := by
  simp only [isPlain, Bool.and_eq_true, List.mem_cons, not_or, decide_eq_true_eq] at h
  exact ⟨h.2.2.2.1, by simp [startsMark, h]⟩

theorem afterCode_of_isPlain {c : Char} (h : isPlain c = true) :
    Region.afterCode c = .code := by
  simp only [isPlain, Bool.and_eq_true, Bool.not_eq_true'] at h
  rw [Region.afterCode, h.1]
  rfl

theorem IsQuiet.cons {stop : Char → Bool} {c : Char} {u : List Char} (hc : isPlain c = true)
    (hs : stop c = false) (hu : IsQuiet stop u) : IsQuiet stop (c :: u) := by
  obtain ⟨hhash, hmark⟩ := startsMark_of_isPlain hc u
  have hone : IsSegment stop [c] := by
    apply IsSegment.plain
    intro d hd
    rw [List.mem_singleton.mp hd]
    exact ⟨step_of_isPlain hc, hs⟩
  refine ⟨hone.append hu.toIsSegment, ?_, ?_⟩
  · rw [stripFrom_code_cons hmark, if_neg hhash, afterCode_of_isPlain hc, hu.verbatim]
  · rw [regionAfter_code_cons hmark, if_neg hhash, afterCode_of_isPlain hc, hu.region]

theorem IsQuiet.literal {stop : Char → Bool} {q : Char} {u : List Char} (hq : isQuote q = true)
    (h : isContent q u = true) : IsQuiet stop (q :: (u ++ [q])) :=
  (IsSegment.literal hq h).quiet (opensComment_of_quoted fun t ht => (literal_tokens hq h t ht).1)

theorem IsQuiet.parens {stop inner : Char → Bool} (hs : stop ')' = false) {u : List Char}
    (hu : IsQuiet inner u) : IsQuiet stop ('(' :: (u ++ [')'])) := by
  have hopen : startsMark '(' (u ++ [')']) = false := rfl
  refine ⟨.parens hs hu.toIsSegment, ?_, ?_⟩
  · rw [stripFrom_code_cons hopen, if_neg (by decide)]
    change '(' :: stripFrom .code (u ++ [')']) = _
    rw [stripFrom_append _ _ rfl, hu.verbatim, hu.region]
    rfl
  · rw [regionAfter_code_cons hopen, if_neg (by decide)]
    change regionAfter .code (u ++ [')']) = _
    rw [regionAfter_append _ _ rfl, hu.region]
    rfl

end SchemaAtlas.Sql
