import SchemaAtlas.Proofs.Sql.RespacedWalks
import SchemaAtlas.Proofs.Sql.Splitting
import SchemaAtlas.Proofs.Sql.TableNames

/-! # The body of a table is scanned twice

The walk that looks for the closing parenthesis of a body goes over the body inside of parentheses,
and the one that cuts the body into clauses begins anew. They see the same literals and the same
nesting, one level apart. So the commas between clauses are those that the first walk has met right
inside the parentheses, and no clause leaves a literal or a parenthesis open.
-/
namespace SchemaAtlas.Sql
open Text

/-! Tokens between two places. -/

theorem tokensFrom_index (s : State) (i : Int) (u : List Char) :
    ∀ t ∈ tokensFrom s i u, i ≤ t.index ∧ t.index < i + u.length := by
  induction u generalizing s i with
  | nil => exact fun _ ht => absurd ht List.not_mem_nil
  | cons c u ih =>
    intro t ht
    rw [List.length_cons]
    rcases List.mem_cons.mp ht with rfl | ht
    · exact ⟨Int.le_refl i, by dsimp only; omega⟩
    · have hrest := ih (s.step c) (i + 1) t ht
      omega

/-- The tokens after one place and before another. -/
def tokensBetween (start stop : Nat) (ts : List Token) : List Token :=
  ts.filter fun t => start < t.index ∧ t.index < stop

section Between
variable {start stop : Nat} {ts : List Token}

theorem tokensBetween_append (us : List Token) : tokensBetween start stop (ts ++ us) =
    tokensBetween start stop ts ++ tokensBetween start stop us :=
  List.filter_append ..

theorem tokensBetween_cons {t : Token} (h : ¬ (start < t.index ∧ t.index < stop)) :
    tokensBetween start stop (t :: ts) = tokensBetween start stop ts :=
  List.filter_cons_of_neg (mt of_decide_eq_true h)

theorem tokensBetween_eq_self (h : ∀ t ∈ ts, start < t.index ∧ t.index < stop) :
    tokensBetween start stop ts = ts :=
  List.filter_eq_self.mpr fun t ht => decide_eq_true (h t ht)

theorem tokensBetween_eq_nil (h : ∀ t ∈ ts, ¬ (start < t.index ∧ t.index < stop)) :
    tokensBetween start stop ts = [] :=
  List.filter_eq_nil_iff.mpr fun t ht => mt of_decide_eq_true (h t ht)

end Between

theorem shift_neg_shift (j k : Int) (ts : List Token) :
    (ts.map (Token.shift j k)).map (Token.shift (-j) (-k)) = ts := by
  have hundo : Token.shift (-j) (-k) ∘ Token.shift j k = id := by
    funext t
    simp only [Function.comp_apply, Token.shift, Int.add_neg_cancel_right, id]
  rw [List.map_map, hundo, List.map_id]

section Body
variable {stop : Char → Bool} {body : List Char} (hbody : IsSegment stop body)
  (lead rest : List Char)
include hbody

/-- Between the parentheses the scan of the whole text finds the tokens of the body, further on and
one level deeper. -/
theorem scan_between : ∃ ts,
    scan (lead ++ '(' :: (body ++ ')' :: rest)) lead.length = .ok ts ∧
      tokensBetween lead.length (lead.length + body.length + 1) ts =
        (tokens body).map (Token.shift (lead.length + 1) 1) := by
  refine ⟨_, scan_append lead _, ?_⟩
  have hinside : ∀ t ∈ (tokens body).map (Token.shift (lead.length + 1) 1),
      lead.length < t.index ∧ t.index < (lead.length + body.length + 1 : Nat) := by
    intro t ht
    obtain ⟨a, ha, rfl⟩ := List.mem_map.mp ht
    have hindex := tokensFrom_index .initial 0 body a ha
    simp only [Token.shift]
    omega
  have hafter : ∀ t ∈ tokensFrom .initial ((lead.length : Int) + 1 + body.length + 1) rest,
      ¬ (lead.length < t.index ∧ t.index < (lead.length + body.length + 1 : Nat)) := by
    intro t ht
    have hindex := tokensFrom_index _ _ _ t ht
    omega
  rw [tokensFrom_parens hbody, tokensBetween_cons (by dsimp only; omega), tokensBetween_append,
    tokensBetween_eq_self hinside, tokensBetween_cons (by dsimp only; omega),
    tokensBetween_eq_nil hafter, List.append_nil]

theorem matchingParen_paren :
    matchingParen (lead ++ '(' :: (body ++ ')' :: rest)) lead.length =
      .ok (some (lead.length + body.length + 1 : Nat)) := by
  rw [matchingParen_eq, List.drop_left, closing?_parens hbody]
  have hindex : (lead.length : Int) + (body.length + 1 : Nat) =
      (lead.length + body.length + 1 : Nat) := by omega
  exact congrArg (fun i => Except.ok (some i)) hindex

end Body

/-! Cutting a body takes it apart into segments. -/

/-- A walk that meets a delimiter outside quotes and parentheses is back where it began. -/
theorem State.eq_initial_of_delimits {d : Char} (hd : initial.step d = initial) {s : State}
    (hs : s.IsSettled) {i : Int}
    (h : Token.delimits d ⟨i, d, s.quotes d, (s.step d).depth⟩ = true) : s = initial := by
  have hstep := step_of_delimits hs h
  have hquote : s.quote = none := by
    simp only [Token.delimits, Token.isTopLevel, quotes, Bool.and_eq_true, Bool.not_eq_true',
      Bool.or_eq_false_iff, Option.isSome_eq_false_iff, Option.isNone_iff_eq_none] at h
    exact h.2.1.1
  have hlift : s = initial.lift s.depth := by
    obtain ⟨quote, escaped, depth⟩ := s
    obtain rfl : quote = none := hquote
    obtain rfl : escaped = false := hs rfl
    simp [lift, initial]
  rw [hlift, step_lift, hd] at hstep
  exact hlift.trans hstep

theorem IsUncut.segment {d : Char} {u : List Char} (h : IsUncut d u) {stop : Char → Bool}
    (hu : IsSegment stop u) : IsSegment (· = d) u := by
  refine ⟨hu.run, hu.nonneg, fun t ht htop => ?_⟩
  have huncut := h t ht
  rwa [Token.delimits, htop, Bool.and_true] at huncut

theorem IsCut.isSegment {d : Char} (hd : State.initial.step d = .initial) {text tail : List Char}
    {segments : List (List Char)} (h : IsCut d text segments tail) {stop : Char → Bool}
    (htext : IsSegment stop text) :
    (∀ u ∈ segments, IsSegment (· = d) u) ∧ IsSegment (· = d) tail := by
  induction h with
  | tail hu => exact ⟨fun _ hv => absurd hv List.not_mem_nil, hu.segment htext⟩
  | segment hu hdelimits _ ih =>
    have hrun := State.eq_initial_of_delimits hd (State.isSettled_initial.run _) hdelimits
    obtain ⟨hfirst, hrest⟩ := htext.parts hrun
    obtain ⟨hsegments, htail⟩ := ih (IsSegment.parts (u := [d]) hd hrest).2
    exact ⟨List.forall_mem_cons.mpr ⟨hu.segment hfirst, hsegments⟩, htail⟩

/-- One level deeper the delimiters are those at depth one. -/
theorem IsCut.positions_deeper {d : Char} {text tail : List Char} {segments : List (List Char)}
    (h : IsCut d text segments tail) (n : Nat) :
    (((tokens text).map (Token.shift n 1)).filter fun t =>
      t.char = d ∧ t.quoted = false ∧ t.depth = 1).map Token.index =
        (cutPositions n segments).map Nat.cast := by
  have hsame : (fun t : Token => decide (t.char = d ∧ t.quoted = false ∧ t.depth = 1)) ∘
      Token.shift n 1 = Token.delimits d ∘ Token.shift n 0 := by
    funext t
    have hdepth : t.depth + 1 = 1 ↔ t.depth = 0 := by omega
    cases hq : t.quoted <;>
      simp [Token.delimits, Token.isTopLevel, Token.shift, hq, hdepth]
  rw [← h.positions n, tokensFrom_initial, List.filter_map, List.filter_map, List.map_map,
    List.map_map, hsame]
  rfl

theorem mem_partsOf {segments : List (List Char)} {tail part : List Char}
    (h : part ∈ partsOf (segments, tail)) : part ∈ segments ∨ part = tail := by
  rw [partsOf] at h
  split at h
  · exact .inl h
  · simpa using h

/-! The body of a table. -/

/-- The body that a scan finds in a text between the parentheses at `start` and `stop`, and what is
found when it is scanned again on its own. -/
structure IsRescanned (text body : List Char) (start stop : Nat) (ts : List Token) : Prop where
  opening : text[start]? = some '('
  closing : matchingParen text start = .ok (some (stop : Int))
  between : body = (text.take stop).drop (start + 1)
  scanned : scan text start = .ok ts
  rescanned : scan body 0 =
    .ok ((tokensBetween start stop ts).map (Token.shift (-(start + 1)) (-1)))
  ends : State.initial.run body = .initial
  nonneg : ∀ t ∈ tokens body, 0 ≤ t.depth
  /-- The body is cut at the commas that the first scan has met right inside the parentheses. -/
  cuts : ∃ segments tail, split body [','] = partsOf (segments, tail) ∧
    body = segments.flatMap (· ++ [',']) ++ tail ∧
    ((tokensBetween start stop ts).filter fun t =>
      t.char = ',' ∧ t.quoted = false ∧ t.depth = 1).map Token.index =
        (cutPositions (start + 1) segments).map Nat.cast
  clauses : ∀ part ∈ split body [','], IsBalanced (strip part) ∧ IsSegment (· = ',') (strip part)

theorem exists_isRescanned {body : List Char} (hbody : IsBalanced body) (lead rest : List Char) :
    ∃ ts, IsRescanned (lead ++ '(' :: (body ++ ')' :: rest)) body lead.length
      (lead.length + body.length + 1) ts := by
  obtain ⟨ts, hscan, hts⟩ := scan_between hbody.segment lead rest
  obtain ⟨segments, tail, hcut⟩ := exists_isCut ',' body
  have hsplit : split body [','] = partsOf (segments, tail) := by
    change partsOf (cut (Token.delimits ',') (tokens body)) = _
    rw [hcut.cut_eq]
  have hbetween : body = ((lead ++ '(' :: (body ++ ')' :: rest)).take
      (lead.length + body.length + 1)).drop (lead.length + 1) := by
    rw [Nat.add_assoc, List.take_length_add_append, List.take_succ_cons, List.take_left,
      List.drop_length_add_append, List.drop_succ_cons, List.drop_zero]
  obtain ⟨hsegments, htail⟩ := hcut.isSegment rfl hbody.segment
  refine ⟨ts, by simp, matchingParen_paren hbody.segment lead rest, hbetween, hscan, ?_,
    hbody.segment.run, hbody.segment.nonneg, ⟨segments, tail, hsplit, hcut.text_eq, ?_⟩, ?_⟩
  · rw [hts, shift_neg_shift]
    rfl
  · rw [hts]
    exact hcut.positions_deeper (lead.length + 1)
  · intro part hpart
    rw [hsplit] at hpart
    have hsegment : IsSegment (· = ',') (strip part) := by
      rcases mem_partsOf hpart with hmem | rfl
      · exact (hsegments part hmem).strip
      · exact htail.strip
    exact ⟨hsegment.balanced, hsegment⟩

namespace StatementParts

/-- Where the parenthesis before the body stands. -/
def bodyStart (p : StatementParts) : Nat :=
  (p.preamble ++ p.written).length

/-- Where the parenthesis after the body stands. -/
def bodyEnd (p : StatementParts) : Nat :=
  p.bodyStart + p.body.length + 1

end StatementParts

/-- The scan that has found the body of a table and the scan of the body alone agree, token by token,
one level apart. The body leaves no literal and no parenthesis open, and closes none that it has not
opened; it is cut at the commas right inside its parentheses, and the same holds of each clause. -/
theorem tableStatement_isRescanned {statement : List Char} {d : TableDef}
    (h : (tableStatement statement).1 = some d) :
    ∃ p : StatementParts, p.IsReadFrom statement ∧ d = p.meaning ∧
      ∃ ts, IsRescanned (strip statement) p.body p.bodyStart p.bodyEnd ts := by
  obtain ⟨p, hp, rfl⟩ := StatementParts.exists_isReadFrom h
  refine ⟨p, hp, rfl, ?_⟩
  have htext : strip statement =
      (p.preamble ++ p.written) ++ '(' :: (p.body ++ ')' :: p.options) := by
    rw [hp.text, StatementParts.text, StatementParts.definition, List.append_assoc]
  rw [htext]
  exact exists_isRescanned hp.body _ _

/-- Commas and parentheses in literals and in a type, a blank clause, and commas in the options. -/
def tariffs : List Char :=
  "\n CREATE TABLE t (a ENUM(',', '('), b INT COMMENT 'x\\'),', ) OPTIONS (u, v)".toList

theorem tableStatement_isRescanned_tariffs : ∃ d, (tableStatement tariffs).1 = some d ∧
    d.columns.map ColumnDef.name = ["a", "b"] ∧
    ∃ p : StatementParts, p.IsReadFrom tariffs ∧ d = p.meaning ∧
      ∃ ts, IsRescanned (strip tariffs) p.body p.bodyStart p.bodyEnd ts := by
  have hread : (tableStatement tariffs).1.map (fun d => d.columns.map ColumnDef.name) =
      some ["a", "b"] := by
    decide +kernel
  obtain ⟨d, hd, hnames⟩ := Option.map_eq_some_iff.mp hread
  exact ⟨d, hd, hnames, tableStatement_isRescanned hd⟩

end SchemaAtlas.Sql
