import SchemaAtlas.Proofs.Sql.GrammarColumns
import SchemaAtlas.Proofs.Sql.Respacing

/-! # Walks over other blanks

A literal is the same whatever blanks surround it, so a comment is too where the keyword that it
begins with stands outside literals. A clause is cut from its neighbours in the same places.
-/
namespace SchemaAtlas.Sql
open Text

/-- Texts that are equal but for their runs of blanks outside literals. -/
abbrev State.Respaced : State → List Char → List Char → Prop :=
  Text.Respaced State.step fun s => s.quote = none

theorem State.isAtRest {s : State} (hs : s.quote = none) :
    IsAtRest State.step (fun s => s.quote = none) s := by
  have hstay : ∀ c, isQuote c = false → c ≠ '(' → c ≠ ')' → s.step c = s := by
    intro c hq ho hc
    rw [step, hs]
    simp [stepPlain, hq, ho, hc]
  refine ⟨hs, fun c hc => ?_, fun c hc => ?_⟩
  · have hquote : isQuote c = false := by
      cases hq : isQuote c with
      | false => rfl
      | true => rw [not_isBlank_of_isQuote hq] at hc; cases hc
    refine hstay c hquote ?_ ?_
    · rintro rfl
      exact absurd hc (by decide)
    · rintro rfl
      exact absurd hc (by decide)
  · have hne : ∀ d, caseless d ∉ letters → c ≠ d := by
      rintro d hd rfl
      exact hd hc
    refine hstay c ?_ (hne _ (by decide)) (hne _ (by decide))
    rw [isQuote, decide_eq_false (hne _ (by decide)), decide_eq_false (hne _ (by decide)),
      decide_eq_false (hne _ (by decide))]
    rfl

/-! The text of a comment. -/

section Literal
variable {u v : List Char}

theorem State.Respaced.of_quoted {s : State} {q c : Char} (hs : s.quote = some q)
    (h : s.Respaced (c :: u) v) : ∃ v', v = c :: v' ∧ (s.step c).Respaced u v' := by
  have hno : ¬ s.quote = none := by rw [hs]; exact Option.some_ne_none q
  rcases h.head_eq hno with ⟨hnil, _⟩ | ⟨d, u', v', hu, rfl, h⟩
  · cases hnil
  · cases hu
    exact ⟨v', rfl, h⟩

/-- Inside a literal nothing differs, so both close it in the same place. -/
theorem literalBody?_respaced {q : Char} (hq : q ≠ '\\') {depth : Int}
    (h : State.Respaced ⟨some q, false, depth⟩ u v) :
    (literalBody? q u).map Prod.fst = (literalBody? q v).map Prod.fst := by
  have hback : State.step ⟨some q, false, depth⟩ '\\' = ⟨some q, true, depth⟩ := by
    simp [State.step, State.stepQuoted]
  have htaken : ∀ c, State.step ⟨some q, true, depth⟩ c = ⟨some q, false, depth⟩ := by
    intro c
    simp [State.step, State.stepQuoted]
  fun_induction literalBody? q u generalizing v with
  | case1 =>
    rcases h.head_eq (Option.some_ne_none q) with ⟨_, rfl⟩ | ⟨_, _, _, hnil, _⟩
    · rfl
    · cases hnil
  | case2 rest =>
    obtain ⟨v, rfl, hv⟩ := h.of_quoted rfl
    rw [hback] at hv
    obtain ⟨w, rfl, _⟩ := hv.of_quoted rfl
    rw [literalBody?, if_pos rfl]
  | case3 c rest hc ih =>
    obtain ⟨v, rfl, hv⟩ := h.of_quoted rfl
    rw [hback] at hv
    obtain ⟨w, rfl, hw⟩ := hv.of_quoted rfl
    rw [htaken] at hw
    have hbody := congrArg (Option.map fun body => '\\' :: c :: body) (ih hw)
    rw [Option.map_map, Option.map_map] at hbody
    rw [literalBody?, if_neg hc, Option.map_map, Option.map_map]
    exact hbody
  | case4 rest hno =>
    obtain ⟨v, rfl, _⟩ := h.of_quoted rfl
    rw [literalBody?, if_pos rfl]
    · rfl
    · rintro _ _ rfl _
      exact hq rfl
  | case5 rest hno hne =>
    obtain ⟨v, rfl, hv⟩ := h.of_quoted rfl
    rw [hback] at hv
    cases rest with
    | nil =>
      rcases hv.head_eq (Option.some_ne_none q) with ⟨_, rfl⟩ | ⟨_, _, _, hnil, _⟩
      · rw [literalBody?, if_neg hne, if_pos rfl]
        exact hno
      · cases hnil
    | cons c rest => exact absurd rfl (hno c rest rfl)
  | case6 c rest hno hne hb ih =>
    obtain ⟨v, rfl, hv⟩ := h.of_quoted rfl
    have hstep : State.step ⟨some q, false, depth⟩ c = ⟨some q, false, depth⟩ := by
      simp [State.step, State.stepQuoted, hb, hne]
    rw [hstep] at hv
    have hbody := congrArg (Option.map fun body => c :: body) (ih hv)
    rw [Option.map_map, Option.map_map] at hbody
    rw [literalBody?, if_neg hne, if_neg hb, Option.map_map, Option.map_map]
    · exact hbody
    · rintro _ _ rfl _
      exact hb rfl

theorem literal?_of_ne {c : Char} (hs : c ≠ '\'') (hd : c ≠ '"') (u : List Char) :
    literal? (c :: u) = none := by
  unfold literal?
  split
  · next h => exact absurd (List.cons.inj h).1 hs
  · next h => exact absurd (List.cons.inj h).1 hd
  · rfl

theorem literal?_respaced {s : State} (hs : s.quote = none) (he : s.escaped = false)
    (h : s.Respaced u v) : Option.Rel (fun a b => a.1 = b.1) (literal? u) (literal? v) := by
  have hrest := State.isAtRest hs
  have hstep : ∀ q, isQuote q = true → s.step q = ⟨some q, false, s.depth⟩ := by
    intro q hq
    rw [State.step, hs]
    simp [State.stepPlain, hq, he]
  cases h with
  | nil => exact .none
  | cons c h =>
    by_cases hsingle : c = '\''
    · subst hsingle
      rw [hstep '\'' (by decide)] at h
      exact rel_of_map_eq (literalBody?_respaced (by decide) h)
    · by_cases hdouble : c = '"'
      · subst hdouble
        rw [hstep '"' (by decide)] at h
        exact rel_of_map_eq (literalBody?_respaced (by decide) h)
      · rw [literal?_of_ne hsingle hdouble, literal?_of_ne hsingle hdouble]
        exact .none
  | gap _ hb hb' _ =>
    have hnone : ∀ {b : List Char} (w : List Char), IsGap b → literal? (b ++ w) = none := by
      intro b w hb
      obtain ⟨c, b, rfl⟩ := List.exists_cons_of_ne_nil hb.ne_nil
      have hno : ∀ d, isBlank d = false → c ≠ d := by
        rintro d hd rfl
        exact notMem_of_allBlank hb.blank hd List.mem_cons_self
      exact literal?_of_ne (hno _ (by decide)) (hno _ (by decide)) _
    rw [hnone _ hb, hnone _ hb']
    exact .none

theorem columnComment?_respaced {s : State} (hs : s.quote = none) (he : s.escaped = false)
    (h : s.Respaced u v) : columnComment? u = columnComment? v := by
  have hrest := State.isAtRest hs
  refine eq_of_rel (rel_bind (h.keyword? hrest (by decide)) fun w x hwx => ?_)
  refine rel_bind (hwx.afterBlanks? hrest) fun w x hwx => ?_
  exact rel_bind (literal?_respaced hs he hwx) fun _ _ h => .some h

theorem tableComment?_respaced {s : State} (hs : s.quote = none) (he : s.escaped = false)
    (h : s.Respaced u v) : tableComment? u = tableComment? v := by
  have hrest := State.isAtRest hs
  have hequals : ∀ c ∈ ['='], isBlank c = false ∧ s.step c = s := by
    refine List.forall_mem_singleton.mpr ⟨by decide, ?_⟩
    rw [State.step, hs]
    rfl
  refine eq_of_rel (rel_bind (h.keyword? hrest (by decide)) fun w x hwx => ?_)
  have hafter := (dropOne_respaced hequals (hwx.stripStart hrest)).stripStart hrest
  exact rel_bind (literal?_respaced hs he hafter) fun _ _ h => .some h

end Literal

/-- Whether what a search finds, if anything, begins outside literals. -/
def findsOutside {α : Type} (read : List Char → Option α) : State → List Char → Bool
  | _, [] => true
  | s, c :: rest =>
    if (read (c :: rest)).isSome then s.quote.isNone else findsOutside read (s.step c) rest

section Search
variable {α : Type} {read : List Char → Option α} {k : Char} (hk : NeedsHead k read)
  (hblank : isBlank k = false)
include hk hblank

theorem findsOutside_gap {s : State} (hs : s.quote = none) {b : List Char}
    (hb : allBlank b = true) (u : List Char) :
    findsOutside read s (b ++ u) = findsOutside read s u := by
  induction b with
  | nil => rfl
  | cons c b ih =>
    obtain ⟨hc, hb⟩ := List.forall_mem_cons.mp (List.all_eq_true.mp hb)
    have hnone : read (c :: (b ++ u)) = none :=
      hk c _ (caseless_ne_of_allBlank (b := [c]) (by simp [allBlank, hc]) hblank c
        List.mem_cons_self)
    rw [List.cons_append, findsOutside, hnone, (State.isAtRest hs).blank c hc]
    exact ih (List.all_eq_true.mpr hb)

theorem search_respaced
    (hread : ∀ (s : State) u v, s.quote = none → s.escaped = false → s.Respaced u v →
      read u = read v)
    {s : State} (hs : s.IsSettled) {u v : List Char} (h : s.Respaced u v)
    (hu : findsOutside read s u = true) (hv : findsOutside read s v = true) :
    search read u = search read v := by
  induction h with
  | nil s => rfl
  | @cons s c u v h ih =>
    rw [findsOutside] at hu hv
    have hsame : read (c :: u) = read (c :: v) := by
      cases hq : s.quote with
      | none => exact hread s _ _ hq (hs hq) (.cons c h)
      | some q =>
        -- Inside literals nothing is found in either text.
        have hno : ∀ {o : Option α} {b : Bool}, (if o.isSome then s.quote.isNone else b) = true →
            o = none := by
          intro o b hif
          cases o with
          | none => rfl
          | some a => rw [hq] at hif; cases hif
        rw [hno hu, hno hv]
    rw [search, search, hsame]
    rw [hsame] at hu
    cases hr : read (c :: v) with
    | some a => rfl
    | none =>
      rw [hr] at hu hv
      exact ih (hs.step c) hu hv
  | gap hq hb hb' h ih =>
    rw [findsOutside_gap hk hblank hq hb.blank] at hu
    rw [findsOutside_gap hk hblank hq hb'.blank] at hv
    rw [search_skip hk (caseless_ne_of_allBlank hb.blank hblank),
      search_skip hk (caseless_ne_of_allBlank hb'.blank hblank)]
    exact ih hs hu hv

end Search

/-! Where texts are cut. -/

/-- The state after a blank. -/
def State.afterBlank (s : State) : State :=
  ⟨s.quote, s.escaped && s.quote.isNone, s.depth⟩

section Blanks
variable {s : State} (hs : ∀ q, s.quote = some q → isQuote q = true)
include hs

theorem State.step_of_isBlank {c : Char} (hc : isBlank c = true) : s.step c = s.afterBlank := by
  cases hq : s.quote with
  | none =>
    rw [(State.isAtRest hq).blank c hc, afterBlank, hq, Option.isNone_none, Bool.and_true, ← hq]
  | some q =>
    have hne : c ≠ '\\' := by
      rintro rfl
      exact absurd hc (by decide)
    have hopen : c ≠ q := by
      rintro rfl
      rw [not_isBlank_of_isQuote (hs c hq)] at hc
      cases hc
    obtain ⟨_, escaped, depth⟩ := s
    cases hq
    cases escaped with
    | true => rfl
    | false => simp [step, stepQuoted, afterBlank, hne, hopen]

theorem State.run_blank {b : List Char} (hb : allBlank b = true) :
    s.afterBlank.run b = s.afterBlank := by
  induction b with
  | nil => rfl
  | cons c b ih =>
    obtain ⟨hc, hb⟩ := List.forall_mem_cons.mp (List.all_eq_true.mp hb)
    have hstay : s.afterBlank.step c = s.afterBlank := by
      rw [step_of_isBlank (s := s.afterBlank) hs hc, afterBlank, afterBlank, Bool.and_assoc,
        Bool.and_self]
    rw [run_cons, hstay]
    exact ih (List.all_eq_true.mpr hb)

theorem State.run_gap {b : List Char} (hb : IsGap b) : s.run b = s.afterBlank := by
  obtain ⟨c, b, rfl⟩ := List.exists_cons_of_ne_nil hb.ne_nil
  obtain ⟨hc, hrest⟩ := List.forall_mem_cons.mp (List.all_eq_true.mp hb.blank)
  rw [run_cons, step_of_isBlank hs hc, run_blank hs (List.all_eq_true.mpr hrest)]

theorem tokensFrom_blank {b : List Char} (hb : allBlank b = true) (i : Int) :
    ∀ t ∈ tokensFrom s i b, t.depth = s.depth ∧ isBlank t.char = true := by
  induction b generalizing s i with
  | nil => simp
  | cons c b ih =>
    obtain ⟨hc, hb⟩ := List.forall_mem_cons.mp (List.all_eq_true.mp hb)
    have hrest := ih (s := s.afterBlank) hs (List.all_eq_true.mpr hb) (i + 1)
    rw [tokensFrom_cons, State.step_of_isBlank hs hc]
    exact List.forall_mem_cons.mpr ⟨⟨rfl, hc⟩, hrest⟩

end Blanks

/-- A token inside all parentheses, and not one where a text is cut. -/
def Token.IsInside (stop : Char → Bool) (t : Token) : Prop :=
  0 ≤ t.depth ∧ (t.isTopLevel = true → stop t.char = false)

theorem isSegment_iff {stop : Char → Bool} {u : List Char} :
    IsSegment stop u ↔ State.initial.run u = .initial ∧ ∀ t ∈ tokens u, t.IsInside stop :=
  ⟨fun h => ⟨h.run, fun t ht => ⟨h.nonneg t ht, h.avoids t ht⟩⟩,
    fun ⟨hrun, htokens⟩ => ⟨hrun, fun t ht => (htokens t ht).1, fun t ht => (htokens t ht).2⟩⟩

section Segment
variable {stop : Char → Bool} (hstop : ∀ c, isBlank c = true → stop c = false)
include hstop

/-- Other blanks lead the walk to the same state, by tokens that are inside as they were. -/
theorem run_eq_of_respaced {σ : Type} {step : σ → Char → σ} {isFree : σ → Prop} {x : σ}
    {u v : List Char} (h : Respaced step isFree x u v) {s : State}
    (hs : ∀ q, s.quote = some q → isQuote q = true) (i j : Int) :
    s.run u = s.run v ∧
      ((∀ t ∈ tokensFrom s i u, t.IsInside stop) → ∀ t ∈ tokensFrom s j v, t.IsInside stop) := by
  induction h generalizing s i j with
  | nil => exact ⟨rfl, fun h => h⟩
  | cons c _ ih =>
    obtain ⟨hrun, htokens⟩ := ih (State.isQuote_step hs c) (i + 1) (j + 1)
    rw [State.run_cons, State.run_cons, tokensFrom_cons, tokensFrom_cons]
    refine ⟨hrun, fun h => ?_⟩
    obtain ⟨hfirst, hrest⟩ := List.forall_mem_cons.mp h
    exact List.forall_mem_cons.mpr ⟨hfirst, htokens hrest⟩
  | @gap _ b b' u v _ hb hb' _ ih =>
    obtain ⟨hrun, htokens⟩ := ih (s := s.afterBlank) hs (i + b.length) (j + b'.length)
    rw [State.run_append, State.run_append, tokensFrom_append, tokensFrom_append,
      State.run_gap hs hb, State.run_gap hs hb']
    refine ⟨hrun, fun h => ?_⟩
    obtain ⟨hgap, hrest⟩ := List.forall_mem_append.mp h
    -- A gap is not empty, so its first token tells of the depth for both gaps.
    have hdepth : 0 ≤ s.depth := by
      obtain ⟨c, b, rfl⟩ := List.exists_cons_of_ne_nil hb.ne_nil
      rw [← (tokensFrom_blank hs hb.blank i _ List.mem_cons_self).1]
      exact (hgap _ List.mem_cons_self).1
    refine List.forall_mem_append.mpr ⟨fun t ht => ?_, htokens hrest⟩
    obtain ⟨ht, hc⟩ := tokensFrom_blank hs hb'.blank j t ht
    exact ⟨ht ▸ hdepth, fun _ => hstop _ hc⟩

theorem IsSegment.alike {u v : List Char} (hu : IsSegment stop u) (h : Alike u v) :
    IsSegment stop v := by
  rw [isSegment_iff] at hu ⊢
  have hinitial : ∀ q, State.initial.quote = some q → isQuote q = true := fun q hq => by cases hq
  obtain ⟨hrun, htokens⟩ := run_eq_of_respaced hstop h hinitial 0 0
  exact ⟨hrun ▸ hu.1, htokens hu.2⟩

end Segment

theorem IsSegment.of_append_blank {stop : Char → Bool} {b u : List Char} (hb : allBlank b = true)
    (h : IsSegment stop (u ++ b)) : IsSegment stop u := by
  have hinitial : ∀ q, State.initial.quote = some q → isQuote q = true := fun q hq => by cases hq
  have hs := State.isQuote_run hinitial u
  rw [isSegment_iff, State.run_append, tokens, tokensFrom_append, List.forall_mem_append] at h
  obtain ⟨hrun, hfirst, _⟩ := h
  refine isSegment_iff.mpr ⟨?_, hfirst⟩
  rcases eq_or_ne b [] with rfl | hne
  · exact hrun
  · rw [State.run_gap hs ⟨hne, hb⟩] at hrun
    generalize State.initial.run u = s at hrun
    obtain ⟨quote, escaped, depth⟩ := s
    cases quote with
    | none => rwa [State.afterBlank, Option.isNone_none, Bool.and_true] at hrun
    | some q => cases hrun

/-- The blanks around a clause do not belong to any literal in it. -/
theorem IsSegment.strip {u : List Char} (hu : IsSegment (· = ',') u) :
    IsSegment (· = ',') (strip u) := by
  obtain ⟨b, b', hb, hb', hsplit⟩ := exists_blank_strip u
  rw [hsplit] at hu
  exact (hu.parts (isSegment_blank hb).run).2.of_append_blank hb'

/-- Clauses with other blanks are cut alike. -/
theorem IsSegment.respaced {u v : List Char} (hu : IsSegment (· = ',') u)
    (h : Alike (Text.strip u) (Text.strip v)) : IsSegment (· = ',') v := by
  have hcomma : ∀ c, isBlank c = true → decide (c = ',') = false := by
    intro c hc
    refine decide_eq_false ?_
    rintro rfl
    exact absurd hc (by decide)
  obtain ⟨a, a', ha, ha', hsplit⟩ := exists_blank_strip v
  rw [hsplit]
  exact (isSegment_blank ha).append ((hu.strip.alike hcomma h).append (isSegment_blank ha'))

end SchemaAtlas.Sql
