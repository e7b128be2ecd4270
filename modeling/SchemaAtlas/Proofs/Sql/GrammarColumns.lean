import SchemaAtlas.Proofs.Sql.Grammar

/-! # Columns are read in every rendering

The modifiers of a column are found wherever they stand among the others, and nothing else is
taken for one of them. A bare name that is not reserved is not taken for the beginning of
another kind of clause.
-/
namespace SchemaAtlas.Sql
open Text

/-! The walk passes over every part of a clause. -/

theorem isSegment_blank {b : List Char} (hb : allBlank b = true) : IsSegment (· = ',') b := by
  refine IsSegment.plain fun c hc => ?_
  have hblank := List.all_eq_true.mp hb c hc
  refine ⟨step_initial_of_isBlank hblank, decide_eq_false ?_⟩
  rintro rfl
  exact absurd hblank (by decide)

theorem isSegment_append_comma {u v : List Char} (hu : IsSegment (· = ',') u)
    (hv : IsSegment (fun _ => false) v) : IsSegment (fun _ => false) (u ++ ',' :: v) := by
  have hfirst : IsSegment (fun _ => false) u := hu.mono fun _ _ => rfl
  have hcomma : IsSegment (fun _ => false) [','] :=
    IsSegment.plain (List.forall_mem_singleton.mpr ⟨rfl, rfl⟩)
  exact hfirst.append (hcomma.append hv)

theorem isSegment_letters {w : List Char} (hw : w ⊆ letters) : IsSegment (· = ',') w := by
  refine IsSegment.plain fun c hc => ?_
  have hword := isWord_of_mem_letters (hw hc)
  exact ⟨step_initial_of_isWord hword, decide_eq_false (ne_of_isWord hword (by decide +kernel))⟩

theorem isSegment_phrase {kws : List (List Char)} {w : List Char} (h : IsPhrase kws w) :
    IsSegment (· = ',') w := by
  induction h with
  | last hw => exact isSegment_letters hw.letters
  | cons hw hb hu ih =>
    exact (isSegment_letters hw.letters).append ((isSegment_blank hb.blank).append ih)

theorem isSegment_literalText (s : List Char) : IsSegment (· = ',') (literalText s) :=
  IsSegment.literal (by decide) (isContent_quoteLiteral s)

theorem isSegment_identifier {name : List Char} (hn : IsName name) (q : Quoting) :
    IsSegment (· = ',') (q.wrap name) :=
  isSegment_wrap hn q (fun c hc => decide_eq_false (ne_of_isWord hc (by decide +kernel)))
    (by decide) (by decide)

theorem endsSolid_literalText (s : List Char) : endsSolid (literalText s) = true :=
  endsSolid_cons _ (endsSolid_append _ (by decide))

/-- A clause as it stands between commas, without the blanks around it. -/
structure IsClauseText (u : List Char) : Prop where
  starts : startsSolid u = true
  ends : endsSolid u = true
  segment : IsSegment (· = ',') u

theorem IsClauseText.isEmpty {u : List Char} (h : IsClauseText u) : u.isEmpty = false := by
  cases u with
  | nil => exact absurd h.starts (by decide)
  | cons c u => rfl

theorem IsClauseText.strip {u : List Char} (h : IsClauseText u) : strip u = u :=
  strip_of_solid h.starts h.ends

/-! Modifiers. -/

namespace Modifier.Renders

variable {m : Modifier} {w : List Char}

theorem startsSolid (h : m.Renders w) : startsSolid w = true := by
  cases h with
  | primaryKey hw => exact hw.startsSolid (by decide)
  | required hw => exact hw.startsSolid (by decide)
  | comment hw hb => exact startsSolid_append (hw.startsSolid (by decide)) _

theorem endsSolid (h : m.Renders w) : endsSolid w = true := by
  cases h with
  | primaryKey hw => exact hw.endsSolid (by decide)
  | required hw => exact hw.endsSolid (by decide)
  | comment hw hb => exact endsSolid_append _ (endsSolid_append _ (endsSolid_literalText _))

theorem segment (h : m.Renders w) : IsSegment (· = ',') w := by
  cases h with
  | primaryKey hw => exact isSegment_phrase hw
  | required hw => exact isSegment_phrase hw
  | comment hw hb =>
    exact (isSegment_letters hw.letters).append
      ((isSegment_blank hb.blank).append (isSegment_literalText _))

end Modifier.Renders

/-- What is looked for where a column may not be null. -/
def notNull? (s : List Char) : Option Unit := do
  let rest ← phrase? notNullWords s
  guard (wordEnds rest)

theorem mentionsNotNull_eq (s : List Char) :
    mentionsNotNull s = (searchWord notNull? false s).isSome := rfl

theorem notNull?_eq_none {s : List Char} (h : phrase? notNullWords s = none) :
    notNull? s = none := by
  rw [notNull?, h]
  rfl

theorem needsHead_notNullWords : NeedsHead 'N' (phrase? notNullWords) :=
  needsHead_phrase?

theorem needsHead_notNull? : NeedsHead 'N' notNull? := fun c s hc =>
  notNull?_eq_none (needsHead_notNullWords c s hc)

theorem needsHead_columnComment? : NeedsHead 'C' columnComment? := by
  intro c s hc
  have hword : keyword? "COMMENT".toList (c :: s) = none := if_neg hc
  rw [columnComment?, hword]
  rfl

/-- Up to its text a comment has no other letters than those of its keyword. -/
theorem caseless_ne_comment {w b : List Char} (hw : IsSpelling "COMMENT".toList w)
    (hb : IsGap b) {k : Char} (hk : k ∉ "COMMENT".toList) (hblank : isBlank k = false)
    (hquote : k ≠ '\'') : ∀ c ∈ w ++ (b ++ ['\'']), caseless c ≠ k := by
  have hopening : ∀ c ∈ ['\''], caseless c ≠ k := List.forall_mem_singleton.mpr hquote.symm
  exact List.forall_mem_append.mpr ⟨hw.caseless_ne hk, List.forall_mem_append.mpr
    ⟨caseless_ne_of_allBlank hb.blank hblank, hopening⟩⟩

theorem columnComment?_comment {s w b : List Char} (hw : IsSpelling "COMMENT".toList w)
    (hb : IsGap b) (rest : List Char) :
    columnComment? (w ++ (b ++ literalText s) ++ rest) = some (quoteLiteral s) := by
  have hsplit : w ++ (b ++ literalText s) ++ rest =
      (w ++ b) ++ '\'' :: (quoteLiteral s ++ '\'' :: rest) := by
    simp [literalText]
  rw [hsplit]
  exact (Introduces.column hw hb).read_quoteLiteral s rest

/-- The keyword of a comment has an `N`, but only inside of a word. -/
theorem searchWord_comment {s w b : List Char} (hw : IsSpelling "COMMENT".toList w)
    (hb : IsGap b) (hs : search (phrase? notNullWords) s = none) (rest : List Char) :
    ∃ inWord, searchWord notNull? false (w ++ (b ++ literalText s) ++ rest) =
      searchWord notNull? inWord rest := by
  obtain ⟨hcapitals, hletters⟩ := hw
  cases w with
  | nil => exact absurd hcapitals (by decide)
  | cons c w =>
    have hupper : c.toUpper = 'C' := (List.cons.inj hcapitals).1
    have hmem := hletters List.mem_cons_self
    have hc : caseless c ≠ 'N' := by
      rw [caseless_of_mem_letters hmem, hupper]
      decide
    have hword : ∀ d ∈ w, isWord d = true := fun d hd =>
      isWord_of_mem_letters (hletters (List.mem_cons_of_mem _ hd))
    have hsplit : c :: w ++ (b ++ literalText s) ++ rest =
        c :: (w ++ (b ++ '\'' :: (quoteLiteral s ++ '\'' :: rest))) := by
      simp [literalText]
    rw [hsplit, searchWord_cons _ (needsHead_notNull? c _ hc), isWord_of_mem_letters hmem,
      searchWord_word hword, searchWord_gap needsHead_notNull? (by decide) hb,
      searchWord_cons _ (needsHead_notNull? _ _ (by decide))]
    exact searchWord_quoteLiteral needsHead_notNullWords (by decide) (by decide)
      (fun _ => notNull?_eq_none) hs _ rest

namespace RendersModifiers

variable {ms : List Modifier} {u : List Char}

theorem separates (h : RendersModifiers ms u) : separates u = true := by
  cases h with
  | nil => rfl
  | cons hb hw hu => exact separates_gap hb _

theorem segment (h : RendersModifiers ms u) : IsSegment (· = ',') u := by
  induction h with
  | nil => exact .nil _
  | cons hb hw hu ih => exact (isSegment_blank hb.blank).append (hw.segment.append ih)

theorem endsSolid_append (h : RendersModifiers ms u) {p : List Char} (hp : endsSolid p = true) :
    endsSolid (p ++ u) = true := by
  induction h generalizing p with
  | nil => rwa [List.append_nil]
  | @cons m ms b w u hb hw hu ih =>
    have hw' : endsSolid (p ++ (b ++ w)) = true :=
      Text.endsSolid_append _ (Text.endsSolid_append _ hw.endsSolid)
    have hall := ih hw'
    simpa using hall

/-- The modifiers without the blanks before the first of them. -/
theorem strip_eq (h : RendersModifiers ms u) : ∃ b, allBlank b = true ∧ u = b ++ strip u := by
  cases h with
  | nil => exact ⟨[], rfl, rfl⟩
  | @cons m ms b w u hb hw hu =>
    refine ⟨b, hb.blank, ?_⟩
    rw [strip_blank_append hb.blank,
      strip_of_solid (startsSolid_append hw.startsSolid u) (hu.endsSolid_append hw.endsSolid)]

theorem search_comment (h : RendersModifiers ms u) :
    search columnComment? u = (ms.findSome? Modifier.comment?).map quoteLiteral := by
  induction h with
  | nil => rfl
  | @cons m ms b w u hb hw hu ih =>
    rw [search_skip needsHead_columnComment? (caseless_ne_of_allBlank hb.blank (by decide))]
    cases hw with
    | primaryKey hw =>
      rw [search_skip needsHead_columnComment? (hw.caseless_ne (by decide) (by decide)), ih]
      rfl
    | required hw =>
      rw [search_skip needsHead_columnComment? (hw.caseless_ne (by decide) (by decide)), ih]
      rfl
    | comment hw hb' =>
      rw [search_of_eq_some (columnComment?_comment hw hb' u)]
      rfl

variable (hp : ∀ m ∈ ms, m.IsProper)
include hp

theorem search_primaryKey (h : RendersModifiers ms u) :
    (search (phrase? primaryKeyWords) u).isSome = ms.contains .primaryKey := by
  induction h with
  | nil => rfl
  | @cons m ms b w u hb hw hu ih =>
    have hrest := ih fun m hm => hp m (List.mem_cons_of_mem _ hm)
    rw [search_skip needsHead_primaryKey (caseless_ne_of_allBlank hb.blank (by decide)),
      List.contains_cons]
    cases hw with
    | primaryKey hw => rw [search_of_eq_some (hw.phrase? (by decide) u)]; rfl
    | required hw =>
      rw [search_skip needsHead_primaryKey (hw.caseless_ne (by decide) (by decide)), hrest]
      rfl
    | @comment s w b' hw hb' =>
      have hskip := search_skip needsHead_primaryKey
        (caseless_ne_comment hw hb' (by decide) (by decide) (by decide))
        (quoteLiteral s ++ '\'' :: u)
      rw [search_quoteLiteral needsHead_primaryKey (by decide) (by decide)
        (hp _ List.mem_cons_self).1] at hskip
      have hsplit : w ++ (b' ++ literalText s) ++ u =
          w ++ (b' ++ ['\'']) ++ (quoteLiteral s ++ '\'' :: u) := by
        simp [literalText]
      rw [hsplit, hskip, hrest]
      rfl

theorem searchWord_notNull (h : RendersModifiers ms u) (inWord : Bool) :
    (searchWord notNull? inWord u).isSome = ms.contains .required := by
  induction h generalizing inWord with
  | nil => rfl
  | @cons m ms b w u hb hw hu ih =>
    have hrest := ih fun m hm => hp m (List.mem_cons_of_mem _ hm)
    rw [searchWord_gap needsHead_notNull? (by decide) hb, List.contains_cons]
    cases hw with
    | required hw =>
      have hread : notNull? (w ++ u) = some () := by
        rw [notNull?, hw.phrase? (by decide)]
        change guard (wordEnds u = true) = some ()
        rw [wordEnds_of_separates hu.separates]
        rfl
      obtain ⟨c, w', hcons⟩ := List.exists_cons_of_ne_nil
        (show w ≠ [] by rintro rfl; exact absurd (hw.startsSolid (by decide)) (by decide))
      rw [hcons, List.cons_append] at hread ⊢
      rw [searchWord_of_eq_some hread]
      rfl
    | primaryKey hw =>
      obtain ⟨inWord', hskip⟩ := searchWord_skip needsHead_notNull?
        (hw.caseless_ne (by decide) (by decide)) false u
      rw [hskip, hrest]
      rfl
    | comment hw hb' =>
      obtain ⟨inWord', hskip⟩ := searchWord_comment hw hb' (hp _ List.mem_cons_self).2 u
      rw [hskip, hrest]
      rfl

end RendersModifiers

/-! Columns. -/

theorem typeEnd_word {type m : List Char} (ht : IsTypeWord type)
    (hm : ∀ c ∈ m.head?, isBlank c = true) : typeEnd (type ++ m) = type.length := by
  have hsegment : IsSegment isBlank type := by
    refine ht.segment.mono fun c hc => ?_
    rw [endsType, Bool.or_eq_false_iff] at hc
    exact hc.1
  cases m with
  | nil => rw [List.append_nil, typeEnd_segment hsegment]
  | cons c m =>
    have hc : isBlank c = true := hm c rfl
    exact typeEnd_append hsegment (step_initial_of_isBlank hc) hc m

theorem typeEnd_modifiers {type u : List Char} {ms : List Modifier} (ht : IsTypeWord type)
    (hu : RendersModifiers ms u) : typeEnd (type ++ u) = type.length := by
  refine typeEnd_word ht fun c hc => ?_
  cases hu with
  | nil => cases hc
  | cons hb hw hu =>
    obtain ⟨d, b, rfl⟩ := List.exists_cons_of_ne_nil hb.ne_nil
    cases hc
    exact List.all_eq_true.mp hb.blank c List.mem_cons_self

theorem IsTypeWord.startsSolid {type : List Char} (h : IsTypeWord type) :
    startsSolid type = true := by
  obtain ⟨c, u, rfl, hc⟩ := h.head_not_blank
  rw [Text.startsSolid, hc]
  rfl

theorem IsTypeWord.endsSolid {type : List Char} (h : IsTypeWord type) :
    endsSolid type = true := by
  obtain ⟨c, hlast, hc⟩ := h.last_not_blank
  obtain ⟨w, rfl⟩ := List.getLast?_eq_some_iff.mp hlast
  refine Text.endsSolid_append w ?_
  rw [Text.endsSolid, List.reverse_singleton, Text.startsSolid, hc]
  rfl

theorem commentText_modifiers {ms : List Modifier} {u : List Char} (h : RendersModifiers ms u) :
    commentText columnComment? u = (ms.findSome? Modifier.comment?).getD [] := by
  rw [commentText, h.search_comment]
  cases ms.findSome? Modifier.comment? with
  | none => rfl
  | some s => exact unescape_quoteLiteral s

section Column
variable {c : ColumnSpec} {u : List Char} (hp : c.IsProper) (h : c.Renders u)
include hp h

theorem ColumnSpec.Renders.isClauseText : IsClauseText u := by
  obtain ⟨hq, hb, hu⟩ := h
  have htype : IsSegment (· = ',') c.type := by
    refine hp.type.segment.mono fun d hd => ?_
    rw [endsType, Bool.or_eq_false_iff] at hd
    exact hd.2
  refine ⟨startsSolid_append (startsSolid_wrap hp.name _) _, ?_, ?_⟩
  · exact endsSolid_append _ (endsSolid_append _ (hu.endsSolid_append hp.type.endsSolid))
  · exact (isSegment_identifier hp.name _).append
      ((isSegment_blank hb.blank).append (htype.append hu.segment))

theorem column?_of_renders : column? u = some c.alone := by
  have hstrip := (h.isClauseText hp).strip
  obtain @⟨q, b, u, hq, hb, hu⟩ := h
  have hword := firstWord_append (wrap_not_blank hp.name q) (wrap_ne_nil hp.name q) hb
    (startsSolid_append hp.type.startsSolid u)
  -- What is searched is the modifiers without the blanks before them, which makes no difference.
  obtain ⟨b', hb', hsplit⟩ := hu.strip_eq
  have hkey : mentionsPrimaryKey (strip u) = c.modifiers.contains .primaryKey := by
    have hskip := search_skip needsHead_primaryKey (caseless_ne_of_allBlank hb' (by decide))
      (strip u)
    rw [← hsplit] at hskip
    rw [mentionsPrimaryKey, ← hu.search_primaryKey hp.modifiers, hskip]
    rfl
  have hcomment : commentText columnComment? (strip u) =
      (c.modifiers.findSome? Modifier.comment?).getD [] := by
    have hskip := search_skip needsHead_columnComment? (caseless_ne_of_allBlank hb' (by decide))
      (strip u)
    rw [← hsplit] at hskip
    rw [← commentText_modifiers hu, commentText, commentText, hskip]
  have hnull : mentionsNotNull (strip u) = c.modifiers.contains .required := by
    have hskip := searchWord_blank needsHead_notNull? (by decide) hb' (strip u)
    rw [← hsplit] at hskip
    rw [mentionsNotNull_eq, ← hu.searchWord_notNull hp.modifiers false, hskip]
  have hempty : ((q.wrap c.name).isEmpty || (c.type ++ u).isEmpty) = false := by
    simp [wrap_ne_nil hp.name q, hp.type.ne_nil]
  rw [column?, hstrip, hword]
  dsimp only
  rw [hempty, if_neg Bool.false_ne_true, typeEnd_modifiers hp.type hu, List.take_left,
    List.drop_left, hkey, hcomment, hnull, bareName_wrap hp.name]
  rfl

end Column

/-! A name that is not reserved is not taken for the beginning of another clause. -/

theorem wordEnds_of_afterBlanks? {s u : List Char} (h : afterBlanks? s = some u) :
    wordEnds s = true := by
  cases s with
  | nil => rfl
  | cons c s =>
    rw [afterBlanks?] at h
    split at h
    · next hc => exact wordEnds_of_separates (isSeparator_of_isBlank hc)
    · cases h

theorem startsWith_bare {kw name rest : List Char} {kws : List (List Char)} (hn : IsName name)
    (hkw : kw ⊆ letters) (hrest : separates rest = true)
    (hne : name.map caseless ≠ kw) : startsWith (kw :: kws) (name ++ rest) = false := by
  rw [startsWith]
  cases hp : phrase? (kw :: kws) (name ++ rest) with
  | none => rfl
  | some r =>
    cases kws with
    | nil =>
      cases hr : wordEnds r with
      | false => exact hr
      | true => exact absurd (startsWith_name hn hkw hrest hp hr) hne
    | cons kw' kws =>
      obtain ⟨v, hv, hp⟩ := Option.bind_eq_some_iff.mp hp
      obtain ⟨v', hv', _⟩ := Option.bind_eq_some_iff.mp hp
      exact absurd (startsWith_name hn hkw hrest hv (wordEnds_of_afterBlanks? hv')) hne

theorem startsWith_wrap {q : Quoting} {name rest : List Char} (hn : IsName name)
    (hq : q = .bare → name.map caseless ∉ reservedWords) (hrest : separates rest = true)
    {kw : List Char} (hkw : kw ∈ reservedWords) (kws : List (List Char)) :
    startsWith (kw :: kws) (q.wrap name ++ rest) = false := by
  have hletters : ∀ kw ∈ reservedWords, kw ≠ [] ∧ kw ⊆ letters := by decide
  obtain ⟨hne, hall⟩ := hletters kw hkw
  obtain ⟨k, kw, rfl⟩ := List.exists_cons_of_ne_nil hne
  have hk := hall List.mem_cons_self
  have hquoted : ∀ d s, caseless d ∉ letters →
      startsWith ((k :: kw) :: kws) (d :: s) = false := by
    intro d s hd
    rw [startsWith, needsHead_phrase? d s fun he => hd (he ▸ hk)]
  cases q with
  | bare =>
    rw [Quoting.wrap_bare]
    exact startsWith_bare hn hall hrest fun he => hq rfl (he ▸ hkw)
  | _ => exact hquoted _ _ (by decide)

/-- A column is read in every rendering. -/
theorem clause_column {c : ColumnSpec} {u : List Char} (hp : c.IsProper) (h : c.Renders u) :
    clause u = .column c.alone := by
  have htext := h.isClauseText hp
  have hcolumn := column?_of_renders hp h
  have hno : ∀ kw ∈ reservedWords, ∀ kws, startsWith (kw :: kws) u = false := by
    obtain ⟨hq, hb, hu⟩ := h
    exact fun kw hkw => startsWith_wrap hp.name hq (separates_gap hb _) hkw
  rw [clause, htext.strip, htext.isEmpty, isIndexClause, isPrimaryKeyClause, isConstraintClause,
    hno _ (by decide), hno _ (by decide), hno _ (by decide), hno _ (by decide),
    hno _ (by decide), hno _ (by decide), hno _ (by decide), hcolumn]
  rfl

end SchemaAtlas.Sql
