import SchemaAtlas.Proofs.Sql.GrammarColumns
import SchemaAtlas.Proofs.Sql.RereadClauses

/-! # Clauses are read in every rendering

Every clause is read as what it states, and the body of a statement as the clauses that stand
between its commas.
-/
namespace SchemaAtlas.Sql
open Text

theorem startsWith_of_phrase? {kws : List (List Char)} {s rest : List Char}
    (h : phrase? kws s = some rest) (hr : wordEnds rest = true) : startsWith kws s = true := by
  rw [startsWith, h]
  exact hr

theorem startsWith_of_keyword?_eq_none {kw s : List Char} (h : keyword? kw s = none)
    (kws : List (List Char)) : startsWith (kw :: kws) s = false := by
  have hnone : phrase? (kw :: kws) s = none := by
    cases kws with
    | nil => exact h
    | cons kw' kws =>
      change (keyword? kw s).bind _ = none
      rw [h]
      rfl
  rw [startsWith, hnone]

/-- What begins with another keyword declares no index. -/
theorem isIndexClause_eq_false (kw : List Char)
    (hk : ∀ i ∈ indexWords, ¬ i <+: kw ∧ ¬ kw <+: i) {s : List Char}
    (h : ∀ i, ¬ i <+: kw → ¬ kw <+: i → keyword? i s = none) : isIndexClause s = false := by
  have hno : ∀ i ∈ indexWords, startsWith [i] s = false := fun i hi =>
    startsWith_of_keyword?_eq_none (h i (hk i hi).1 (hk i hi).2) []
  rw [isIndexClause, hno _ (by decide), hno _ (by decide), hno _ (by decide), hno _ (by decide)]
  rfl

/-! The primary key. -/

namespace RendersName

variable {n p : List Char} (hn : IsName n) (h : RendersName n p)
include hn h

theorem strip_eq : ∃ q : Quoting, strip p = q.wrap n := by
  obtain @⟨b, b', q, hb, hl, hb', hl'⟩ := h
  refine ⟨q, ?_⟩
  rw [strip_blank_append hb, strip_append_blank hb',
    strip_of_solid (startsSolid_wrap hn q) (endsSolid_wrap hn q)]

theorem notMem {d : Char} (hd : d ∈ [',', ')', '\n']) : d ∉ p := by
  obtain @⟨b, b', q, hb, hl, hb', hl'⟩ := h
  have hmarks : [',', ')', '\n'].all (fun d => isWord d = false ∧ d ∉ ['`', '"', '[', ']'] ∧
      (isBlank d = false ∨ d = '\n')) = true := by decide +kernel
  obtain ⟨hword, hquote, hblank⟩ := of_decide_eq_true (List.all_eq_true.mp hmarks d hd)
  have hout : ∀ {b : List Char}, allBlank b = true → '\n' ∉ b → d ∉ b := by
    intro b hb hl
    rcases hblank with hblank | rfl
    · exact notMem_of_allBlank hb hblank
    · exact hl
  simp only [List.mem_append, not_or]
  exact ⟨hout hb hl, notMem_wrap hn q hword hquote, hout hb' hl'⟩

theorem segment : IsSegment (· = ',') p := by
  obtain @⟨b, b', q, hb, hl, hb', hl'⟩ := h
  exact (isSegment_blank hb).append ((isSegment_identifier hn q).append (isSegment_blank hb'))

end RendersName

namespace RendersNames

variable {ns : List (List Char)} {v : List Char} (hn : ∀ n ∈ ns, IsName n)
  (h : RendersNames ns v)
include hn h

theorem notMem {d : Char} (hd : d ∈ [')', '\n']) : d ∉ v := by
  have hmem : d ∈ [',', ')', '\n'] := List.mem_cons_of_mem _ hd
  have hcomma : d ≠ ',' := by
    rintro rfl
    exact absurd hd (by decide)
  induction h with
  | last hp => exact hp.notMem (hn _ List.mem_cons_self) hmem
  | cons hp hu ih =>
    simp only [List.mem_append, List.mem_cons, not_or]
    exact ⟨hp.notMem (hn _ List.mem_cons_self) hmem, hcomma,
      ih fun n hm => hn n (List.mem_cons_of_mem _ hm)⟩

/-- The names are what stands between the commas. -/
theorem map_pieces :
    (pieces ',' v).map (fun p => String.ofList (bareName (strip p))) = ns.map String.ofList := by
  induction h with
  | @last n p hp =>
    have hname := hn n List.mem_cons_self
    obtain ⟨q, hq⟩ := hp.strip_eq hname
    rw [pieces_of_notMem (hp.notMem hname (by decide)), List.map_singleton, hq,
      bareName_wrap hname, List.map_singleton]
  | @cons n p u ns hp hu ih =>
    have hname := hn n List.mem_cons_self
    obtain ⟨q, hq⟩ := hp.strip_eq hname
    rw [pieces_append_cons (hp.notMem hname (by decide)), List.map_cons, hq, bareName_wrap hname,
      ih fun n hm => hn n (List.mem_cons_of_mem _ hm), List.map_cons]

/-- Nothing but the commas is a stop. -/
theorem segment : IsSegment (fun _ => false) v := by
  induction h with
  | last hp => exact (hp.segment (hn _ List.mem_cons_self)).mono fun _ _ => rfl
  | cons hp hu ih =>
    exact isSegment_append_comma (hp.segment (hn _ List.mem_cons_self))
      (ih fun n hm => hn n (List.mem_cons_of_mem _ hm))

end RendersNames

section PrimaryKey
variable {names : List (List Char)} {w b v : List Char} (hn : ∀ n ∈ names, IsName n)
  (hw : IsPhrase primaryKeyWords w) (hb : allBlank b = true) (hv : RendersNames names v)
include hn hw hb hv

theorem isClauseText_primaryKey : IsClauseText (w ++ (b ++ '(' :: (v ++ [')']))) where
  starts := startsSolid_append (hw.startsSolid (by decide)) _
  ends := endsSolid_append _ (endsSolid_append _ (endsSolid_cons _ (endsSolid_append _ (by decide))))
  segment := (isSegment_phrase hw).append ((isSegment_blank hb).append
    (IsSegment.parens (by decide) (hv.segment hn)))

theorem primaryKeyList?_of_renders :
    primaryKeyList? (w ++ (b ++ '(' :: (v ++ [')']))) = some v := by
  have hopen : after? '(' (stripStart (b ++ '(' :: (v ++ [')']))) = some (v ++ [')']) := by
    rw [stripStart_blank_append hb]
    rfl
  have hphrase := hw.phrase? (by decide) (b ++ '(' :: (v ++ [')']))
  exact primaryKeyList?_eq_some hphrase hopen (hv.notMem hn (by decide)) (hv.notMem hn (by decide))

theorem clause_primaryKey : clause (w ++ (b ++ '(' :: (v ++ [')']))) =
    .primaryKey (names.map String.ofList) := by
  have htext := isClauseText_primaryKey hn hw hb hv
  have hindex : isIndexClause (w ++ (b ++ '(' :: (v ++ [')']))) = false :=
    isIndexClause_eq_false "PRIMARY".toList (by decide)
      fun i hi hi' => hw.keyword?_eq_none hi hi' _
  have hprimary : isPrimaryKeyClause (w ++ (b ++ '(' :: (v ++ [')']))) = true :=
    startsWith_of_phrase? (hw.phrase? (by decide) _)
      (wordEnds_of_separates (separates_append hb rfl))
  have hnames : primaryKeyNames (w ++ (b ++ '(' :: (v ++ [')']))) = names.map String.ofList := by
    rw [primaryKeyNames, search_of_eq_some (primaryKeyList?_of_renders hn hw hb hv)]
    exact hv.map_pieces hn
  rw [clause, htext.strip, htext.isEmpty, hindex, hprimary, hnames]
  rfl

end PrimaryKey

/-! Foreign keys. -/

theorem parenthesized?_of_renders {n p b : List Char} (hn : IsName n) (hb : allBlank b = true)
    (h : RendersParens n p) (rest : List Char) :
    parenthesized? (b ++ (p ++ rest)) = some (n, rest) := by
  obtain @⟨b₁, b₂, q, hb₁, hb₂⟩ := h
  have hopen : after? '(' (stripStart (b ++ ('(' :: (b₁ ++ (q.wrap n ++ (b₂ ++ [')']))) ++ rest))) =
      some (b₁ ++ (q.wrap n ++ (b₂ ++ ')' :: rest))) := by
    rw [stripStart_blank_append hb]
    simp [stripStart_of_not_blank (show isBlank '(' = false by decide), after?]
  have hname := identifier?_wrap hn q (separates_append hb₂ (show separates (')' :: rest) = true from rfl))
  have hclose : after? ')' (stripStart (b₂ ++ ')' :: rest)) = some rest := by
    rw [stripStart_blank_append hb₂]
    rfl
  rw [parenthesized?, hopen]
  simp only [Option.bind_eq_bind, Option.bind_some, stripStart_append hb₁ (startsSolid_wrap hn q),
    hname, hclose]
  rfl

theorem isSegment_parens {n p : List Char} (hn : IsName n) (h : RendersParens n p) :
    IsSegment (· = ',') p := by
  obtain @⟨b₁, b₂, q, hb₁, hb₂⟩ := h
  have hinner := (isSegment_blank hb₁).append
    ((isSegment_identifier hn q).append (isSegment_blank hb₂))
  have hparens : IsSegment (· = ',') ('(' :: (b₁ ++ (q.wrap n ++ b₂) ++ [')'])) :=
    .parens (by decide) hinner
  simpa using hparens

theorem RendersParens.ends {n p : List Char} (h : RendersParens n p) : endsSolid p = true := by
  obtain ⟨hb₁, hb₂⟩ := h
  exact endsSolid_cons _ (endsSolid_append _ (endsSolid_append _ (endsSolid_append _ (by decide))))

theorem RendersParens.separates {n p : List Char} (h : RendersParens n p) (rest : List Char) :
    separates (p ++ rest) = true := by
  obtain ⟨hb₁, hb₂⟩ := h
  rfl

theorem needsHead_reference? : NeedsHead 'F' reference? := by
  intro c s hc
  have hphrase : phrase? ["FOREIGN".toList, "KEY".toList] (c :: s) = none :=
    needsHead_phrase? c s hc
  rw [reference?, hphrase]
  rfl

namespace RendersReference

variable {own table referenced u : List Char} (h : RendersReference own table referenced u)
include h

theorem head : ∃ w v, IsPhrase referenceWords w ∧ separates v = true ∧ u = w ++ v := by
  obtain ⟨hw, hb₁, hp, hb₂, hkw, hb₃, hb₄, hp'⟩ := h
  exact ⟨_, _, hw, separates_append hb₁ (hp.separates _), rfl⟩

theorem startsSolid : startsSolid u = true := by
  obtain ⟨w, v, hw, _, rfl⟩ := h.head
  exact startsSolid_append (hw.startsSolid (by decide)) v

theorem keyword?_eq_none {kw : List Char} (hne : ¬ kw <+: "FOREIGN".toList)
    (hne' : ¬ "FOREIGN".toList <+: kw) : keyword? kw u = none := by
  obtain ⟨w, v, hw, _, rfl⟩ := h.head
  exact hw.keyword?_eq_none hne hne' v

end RendersReference

section Reference
variable {own table referenced u : List Char} (ho : IsName own) (ht : IsName table)
  (hr : IsName referenced) (h : RendersReference own table referenced u)
include ho ht hr h

theorem reference?_of_renders : reference? u = some (own, table, referenced) := by
  obtain @⟨w, b₁, p, b₂, r, b₃, b₄, p', q, hw, hb₁, hp, hb₂, hkw, hb₃, hb₄, hp'⟩ := h
  have hphrase := hw.phrase? (by decide)
    (b₁ ++ (p ++ (b₂ ++ (r ++ (b₃ ++ (q.wrap table ++ (b₄ ++ p')))))))
  rw [referenceWords] at hphrase
  have hown := parenthesized?_of_renders ho hb₁ hp
    (b₂ ++ (r ++ (b₃ ++ (q.wrap table ++ (b₄ ++ p')))))
  have hword := hkw.keyword? (b₃ ++ (q.wrap table ++ (b₄ ++ p')))
  have htable := identifier?_wrap ht q
    (separates_append hb₄ (List.append_nil p' ▸ hp'.separates []))
  have hreferenced := parenthesized?_of_renders hr hb₄ hp' []
  rw [List.append_nil] at hreferenced
  rw [reference?, hphrase]
  simp only [Option.bind_eq_bind, Option.bind_some, hown,
    stripStart_append hb₂ (hkw.startsSolid (by decide)), hword,
    stripStart_append hb₃ (startsSolid_wrap ht q), htable, hreferenced]
  rfl

theorem isClauseText_reference : IsClauseText u := by
  have hstarts := h.startsSolid
  obtain ⟨hw, hb₁, hp, hb₂, hkw, hb₃, hb₄, hp'⟩ := h
  refine ⟨hstarts, ?_, ?_⟩
  · exact endsSolid_append _ (endsSolid_append _ (endsSolid_append _ (endsSolid_append _
      (endsSolid_append _ (endsSolid_append _ (endsSolid_append _ (endsSolid_append _ hp'.ends)))))))
  · exact (isSegment_phrase hw).append ((isSegment_blank hb₁).append
      ((isSegment_parens ho hp).append ((isSegment_blank hb₂).append
        ((isSegment_letters hkw.letters).append ((isSegment_blank hb₃).append
          ((isSegment_identifier ht _).append ((isSegment_blank hb₄).append
            (isSegment_parens hr hp'))))))))

theorem clause_reference :
    clause u = .foreignKey (.ofList own) (.ofList table) (.ofList referenced) := by
  have htext := isClauseText_reference ho ht hr h
  have hindex : isIndexClause u = false :=
    isIndexClause_eq_false "FOREIGN".toList (by decide) fun i => h.keyword?_eq_none
  have hprimary : isPrimaryKeyClause u = false :=
    startsWith_of_keyword?_eq_none (h.keyword?_eq_none (by decide) (by decide)) _
  have hconstraint : isConstraintClause u = true := by
    obtain ⟨w, v, hw, hv, rfl⟩ := h.head
    rw [isConstraintClause, Bool.or_eq_true]
    exact .inr (startsWith_of_phrase? (hw.phrase? (by decide) v) (wordEnds_of_separates hv))
  rw [clause, htext.strip, htext.isEmpty, hindex, hprimary, hconstraint,
    search_of_eq_some (reference?_of_renders ho ht hr h)]
  rfl

omit ho ht hr in
/-- Although the name of a constraint may end like the keyword of a foreign key, the key is not
looked for there. -/
theorem phrase?_name_reference {v b : List Char} (hv : ∀ c ∈ v, isWord c = true) (q : Quoting)
    (hb : IsGap b) : phrase? ["FOREIGN".toList, "KEY".toList] (v ++ (q.closing ++ (b ++ u))) =
      none := by
  refine Option.eq_none_iff_forall_ne_some.mpr fun x hx => ?_
  have hout : ∀ c ∈ (q.closing ++ (b ++ u)).head?, caseless c ∉ letters := by
    cases q with
    | bare => exact caseless_of_separates (separates_gap hb u)
    | _ =>
      intro c hc
      cases hc
      decide
  obtain ⟨s, hgap, hkey⟩ := phrase?_of_name hv (by decide) hout hx
  cases q with
  | bare =>
    have hblank := afterBlanks?_append hb h.startsSolid []
    rw [List.append_nil] at hblank
    have hs : s = u := Option.some.inj (hgap.symm.trans hblank)
    have hnone := h.keyword?_eq_none (show ¬ "KEY".toList <+: "FOREIGN".toList by decide)
      (by decide)
    rw [hs] at hkey
    change keyword? "KEY".toList u = some x at hkey
    rw [hnone] at hkey
    cases hkey
  | _ => cases hgap

omit ho ht hr in
theorem search_name_reference {v b : List Char} (hv : ∀ c ∈ v, isWord c = true) (q : Quoting)
    (hb : IsGap b) : search reference? (v ++ (q.closing ++ (b ++ u))) = search reference? u := by
  induction v with
  | nil =>
    have hclosing : q.closing.all (fun c => caseless c ≠ 'F') = true := by cases q <;> decide
    rw [List.nil_append, search_skip needsHead_reference? (by simpa using hclosing),
      search_skip needsHead_reference? (caseless_ne_of_allBlank hb.blank (by decide))]
  | cons c v ih =>
    have hnone : reference? (c :: (v ++ (q.closing ++ (b ++ u)))) = none := by
      rw [reference?, ← List.cons_append, phrase?_name_reference h hv q hb]
      rfl
    rw [List.cons_append, search, hnone]
    exact ih fun d hd => hv d (List.mem_cons_of_mem _ hd)

section Constraint
variable {w b n b' : List Char} {q : Quoting} (hw : IsSpelling "CONSTRAINT".toList w)
  (hb : IsGap b) (hn : IsName n) (hb' : IsGap b')
include hw hb hn hb'

theorem isClauseText_constraint : IsClauseText (w ++ (b ++ (q.wrap n ++ (b' ++ u)))) := by
  have htext := isClauseText_reference ho ht hr h
  refine ⟨startsSolid_append (hw.startsSolid (by decide)) _, ?_, ?_⟩
  · exact endsSolid_append _ (endsSolid_append _ (endsSolid_append _ (endsSolid_append _
      htext.ends)))
  · exact (isSegment_letters hw.letters).append ((isSegment_blank hb.blank).append
      ((isSegment_identifier hn q).append ((isSegment_blank hb'.blank).append htext.segment)))

theorem clause_constraint : clause (w ++ (b ++ (q.wrap n ++ (b' ++ u)))) =
    .foreignKey (.ofList own) (.ofList table) (.ofList referenced) := by
  have htext := isClauseText_constraint ho ht hr h hw hb hn hb' (q := q)
  have hindex : isIndexClause (w ++ (b ++ (q.wrap n ++ (b' ++ u)))) = false :=
    isIndexClause_eq_false "CONSTRAINT".toList (by decide)
      fun i hi hi' => hw.keyword?_eq_none hi hi' _
  have hprimary : isPrimaryKeyClause (w ++ (b ++ (q.wrap n ++ (b' ++ u)))) = false :=
    startsWith_of_keyword?_eq_none (hw.keyword?_eq_none (by decide) (by decide) _) _
  have hconstraint : isConstraintClause (w ++ (b ++ (q.wrap n ++ (b' ++ u)))) = true := by
    rw [isConstraintClause, Bool.or_eq_true]
    exact .inl (startsWith_of_phrase? (hw.keyword? _) (wordEnds_of_separates (separates_gap hb _)))
  have hopening : q.opening.all (fun c => caseless c ≠ 'F') = true := by cases q <;> decide
  have hsearch : search reference? (w ++ (b ++ (q.wrap n ++ (b' ++ u)))) =
      some (own, table, referenced) := by
    rw [search_skip needsHead_reference? (hw.caseless_ne (by decide)),
      search_skip needsHead_reference? (caseless_ne_of_allBlank hb.blank (by decide)),
      Quoting.wrap, List.append_assoc, search_skip needsHead_reference? (by simpa using hopening),
      List.append_assoc, search_name_reference h hn.word q hb',
      search_of_eq_some (reference?_of_renders ho ht hr h)]
  rw [clause, htext.strip, htext.isEmpty, hindex, hprimary, hconstraint, hsearch]
  rfl

end Constraint

end Reference

/-! Every clause. -/

/-- The clause that is read of what a clause states. -/
def ClauseSpec.read : ClauseSpec → Clause
  | .column c => .column c.alone
  | .primaryKey names => .primaryKey (names.map String.ofList)
  | .foreignKey own table referenced =>
    .foreignKey (.ofList own) (.ofList table) (.ofList referenced)
  | .index => .index

theorem isIndexClause_of_renders {kw w v : List Char} (hk : kw ∈ indexWords)
    (hw : IsSpelling kw w) (hend : wordEnds v = true) : isIndexClause (w ++ v) = true := by
  have hstarts : startsWith [kw] (w ++ v) = true := startsWith_of_phrase? (hw.keyword? v) hend
  simp only [indexWords, List.mem_cons, List.not_mem_nil, or_false] at hk
  rw [isIndexClause]
  rcases hk with rfl | rfl | rfl | rfl <;> simp only [hstarts, Bool.or_true, Bool.true_or]

namespace ClauseSpec.Renders

variable {c : ClauseSpec} {u : List Char} (hp : c.IsProper) (h : c.Renders u)
include hp h

theorem isClauseText : IsClauseText u := by
  cases h with
  | column hu => exact hu.isClauseText hp
  | primaryKey hw hb hv => exact isClauseText_primaryKey hp hw hb hv
  | foreignKey hu => exact isClauseText_reference hp.1 hp.2.1 hp.2.2 hu
  | constraint hw hb hn hb' hu =>
    exact isClauseText_constraint hp.1 hp.2.1 hp.2.2 hu hw hb hn hb'
  | index hk hw hv hend hlast =>
    have hne : ∀ kw ∈ indexWords, kw ≠ [] := by decide
    exact ⟨startsSolid_append (hw.startsSolid (hne _ hk)) _, hlast,
      (isSegment_letters hw.letters).append hv⟩

theorem clause_eq : clause u = c.read := by
  have htext := isClauseText hp h
  cases h with
  | column hu => exact clause_column hp hu
  | primaryKey hw hb hv => exact clause_primaryKey hp hw hb hv
  | foreignKey hu => exact clause_reference hp.1 hp.2.1 hp.2.2 hu
  | constraint hw hb hn hb' hu =>
    exact clause_constraint hp.1 hp.2.1 hp.2.2 hu hw hb hn hb'
  | index hk hw hv hend hlast =>
    rw [clause, htext.strip, htext.isEmpty, isIndexClause_of_renders hk hw hend]
    rfl

/-! With blanks around the clause. -/

variable {b b' : List Char} (hb : allBlank b = true) (hb' : allBlank b' = true)
include hb hb'

theorem strip_padded : strip (b ++ (u ++ b')) = u := by
  rw [strip_blank_append hb, strip_append_blank hb', (isClauseText hp h).strip]

theorem segment_padded : IsSegment (· = ',') (b ++ (u ++ b')) :=
  (isSegment_blank hb).append ((isClauseText hp h).segment.append (isSegment_blank hb'))

theorem clause_padded : clause (b ++ (u ++ b')) = c.read := by
  have hstrip : strip (b ++ (u ++ b')) = strip u :=
    (strip_padded hp h hb hb').trans (isClauseText hp h).strip.symm
  rw [clause_congr hstrip, clause_eq hp h]

end ClauseSpec.Renders

/-! The body of a statement. -/

namespace RendersBody

variable {cs : List ClauseSpec} {v : List Char} (hp : ∀ c ∈ cs, c.IsProper)
  (h : RendersBody cs v)
include hp h

theorem segment : IsSegment (fun _ => false) v := by
  induction h with
  | nil hb => exact (isSegment_blank hb).mono fun _ _ => rfl
  | last hb hu hb' =>
    exact (hu.segment_padded (hp _ List.mem_cons_self) hb hb').mono fun _ _ => rfl
  | cons hb hu hb' hcs hv ih =>
    exact isSegment_append_comma (hu.segment_padded (hp _ List.mem_cons_self) hb hb')
      (ih fun c hm => hp c (List.mem_cons_of_mem _ hm))

theorem map_clause : (splitAt ',' v).map clause = cs.map ClauseSpec.read := by
  induction h with
  | nil hb => rw [splitAt_segment (isSegment_blank hb), if_pos hb]; rfl
  | @last c b u b' hb hu hb' =>
    have hc := hp c List.mem_cons_self
    have hnot : allBlank (b ++ (u ++ b')) ≠ true := by
      intro hall
      have hempty := (hu.isClauseText hc).isEmpty
      rw [← hu.strip_padded hc hb hb', strip_of_allBlank hall] at hempty
      cases hempty
    rw [splitAt_segment (hu.segment_padded hc hb hb'), if_neg hnot, List.map_singleton,
      hu.clause_padded hc hb hb', List.map_singleton]
  | @cons c cs b u b' v hb hu hb' hcs hv ih =>
    have hc := hp c List.mem_cons_self
    rw [splitAt_segment_append rfl (hu.segment_padded hc hb hb'), List.map_cons,
      hu.clause_padded hc hb hb', ih fun c hm => hp c (List.mem_cons_of_mem _ hm), List.map_cons]

end RendersBody

end SchemaAtlas.Sql
