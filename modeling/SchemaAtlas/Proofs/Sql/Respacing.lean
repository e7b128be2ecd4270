import SchemaAtlas.Proofs.Sql.ClauseOrder
import SchemaAtlas.Proofs.Text.Respacing

/-! # Readers and other blanks

Each reader of a clause or of the beginning of a statement finds the same in texts that are alike,
and leaves texts that are alike. The one for the names in a primary key does so as long as these
names stand on one line.
-/
namespace SchemaAtlas.Sql
open Text

/-- A text without blanks. -/
def IsSolid (s : List Char) : Prop :=
  ∀ c ∈ s, isBlank c = false

instance (s : List Char) : Decidable (IsSolid s) :=
  decidable_of_iff ((s.all fun c => !isBlank c) = true) (by simp [IsSolid])

/-! What is read at the beginning of texts that are alike. -/

section Walk
variable {σ : Type} {step : σ → Char → σ} {isFree : σ → Prop} {s : σ} {u v : List Char}

theorem dropOne_respaced {cs : List Char} (hcs : ∀ c ∈ cs, isBlank c = false ∧ step s c = s)
    (h : Respaced step isFree s u v) : Respaced step isFree s (dropOne cs u) (dropOne cs v) := by
  cases h with
  | nil => exact .nil s
  | cons c h =>
    rw [dropOne, dropOne]
    split
    · next hc =>
      rw [(hcs c (List.contains_iff_mem.mp hc)).2] at h
      exact h
    · exact .cons c h
  | gap hs hb hb' h =>
    have hkeep : ∀ {b : List Char} (w : List Char), IsGap b → dropOne cs (b ++ w) = b ++ w := by
      intro b w hb
      obtain ⟨c, b, rfl⟩ := List.exists_cons_of_ne_nil hb.ne_nil
      refine dropOne_of_notMem (fun hm => ?_) _
      have hc := List.all_eq_true.mp hb.blank c List.mem_cons_self
      rw [(hcs c hm).1] at hc
      cases hc
    rw [hkeep _ hb, hkeep _ hb']
    exact .gap hs hb hb' h

end Walk

/-- The same is read, and what is left is alike. -/
def ReadsAlike {α : Type} (a b : α × List Char) : Prop :=
  a.1 = b.1 ∧ Alike a.2 b.2

section Alike
variable {u v : List Char} (h : Alike u v)
include h

theorem after?_alike {d : Char} (hd : isBlank d = false) :
    Option.Rel Alike (after? d u) (after? d v) := by
  cases h with
  | nil => exact .none
  | cons c h =>
    rw [after?, after?]
    split
    · exact .some h
    · exact .none
  | gap _ hb hb' h =>
    have hnone : ∀ {b : List Char} (w : List Char), IsGap b → after? d (b ++ w) = none := by
      intro b w hb
      obtain ⟨c, b, rfl⟩ := List.exists_cons_of_ne_nil hb.ne_nil
      refine if_neg ?_
      rintro rfl
      exact notMem_of_allBlank hb.blank hd List.mem_cons_self
    rw [hnone _ hb, hnone _ hb']
    exact .none

theorem identifier?_alike :
    Option.Rel ReadsAlike (identifier? u) (identifier? v) := by
  have hmarks : ∀ {cs w x : List Char}, IsSolid cs → Alike w x →
      Alike (dropOne cs w) (dropOne cs x) := fun hcs h =>
    dropOne_respaced (fun c hc => ⟨hcs c hc, rfl⟩) h
  have hword : ∀ c, isBlank c = true → isWord c = false := fun c hc =>
    isWord_of_isSeparator (isSeparator_of_isBlank hc)
  have hopen : IsSolid ['`', '"', '['] := by decide
  have hclose : IsSolid ['`', '"', ']'] := by decide
  have hopened := hmarks hopen h
  have hname := hopened.takeWhile_eq hword
  have hrest := hmarks hclose (hopened.dropWhile (.inl hword))
  rw [identifier?, identifier?]
  simp only [hname]
  split
  · exact .none
  · exact .some ⟨rfl, hrest⟩

theorem parenthesized?_alike :
    Option.Rel ReadsAlike (parenthesized? u) (parenthesized? v) := by
  have hstart : ∀ {w x : List Char}, Alike w x → Alike (stripStart w) (stripStart x) := fun h =>
    h.stripStart isAtRest_unit
  refine rel_bind (after?_alike (hstart h) (by decide)) fun w x hwx => ?_
  refine rel_bind (identifier?_alike (hstart hwx)) ?_
  rintro ⟨name, w⟩ ⟨name', x⟩ ⟨rfl, hwx⟩
  refine rel_bind (after?_alike (hstart hwx) (by decide)) fun w x hwx => ?_
  exact .some ⟨rfl, hwx⟩

theorem reference?_alike : Option.Rel (· = ·) (reference? u) (reference? v) := by
  have hstart : ∀ {w x : List Char}, Alike w x → Alike (stripStart w) (stripStart x) := fun h =>
    h.stripStart isAtRest_unit
  refine rel_bind (h.phrase? isAtRest_unit (by decide)) fun w x hwx => ?_
  refine rel_bind (parenthesized?_alike hwx) ?_
  rintro ⟨column, w⟩ ⟨column', x⟩ ⟨rfl, hwx⟩
  refine rel_bind ((hstart hwx).keyword? isAtRest_unit (by decide)) fun w x hwx => ?_
  refine rel_bind (identifier?_alike (hstart hwx)) ?_
  rintro ⟨table, w⟩ ⟨table', x⟩ ⟨rfl, hwx⟩
  refine rel_bind (parenthesized?_alike hwx) ?_
  rintro ⟨referenced, w⟩ ⟨referenced', x⟩ ⟨rfl, hwx⟩
  exact .some rfl

theorem search_reference?_alike : search reference? u = search reference? v :=
  eq_of_rel (h.search needsHead_reference? (by decide) fun _ _ h => reference?_alike h)

theorem tableHeader?_alike : Option.Rel ReadsAlike (tableHeader? u) (tableHeader? v) := by
  refine rel_bind (h.phrase? isAtRest_unit (by decide)) fun w x hwx => ?_
  refine rel_bind (hwx.afterBlanks? isAtRest_unit) fun w x hwx => ?_
  refine rel_or (rel_bind ?_ fun w x hwx => identifier?_alike hwx) (identifier?_alike hwx)
  refine rel_bind (hwx.phrase? isAtRest_unit (by decide)) fun w x hwx => ?_
  exact hwx.afterBlanks? isAtRest_unit

theorem startsWith_alike {kws : List (List Char)} (hkws : ∀ kw ∈ kws, kw ⊆ letters) :
    startsWith kws u = startsWith kws v := by
  have hrest := h.phrase? isAtRest_unit hkws
  rw [startsWith, startsWith]
  generalize phrase? kws u = a, phrase? kws v = b at hrest ⊢
  cases hrest with
  | none => rfl
  | some h => exact h.wordEnds_eq

theorem isIndexClause_alike : isIndexClause u = isIndexClause v := by
  rw [isIndexClause, isIndexClause, startsWith_alike h (by decide), startsWith_alike h (by decide),
    startsWith_alike h (by decide), startsWith_alike h (by decide)]

theorem isPrimaryKeyClause_alike : isPrimaryKeyClause u = isPrimaryKeyClause v :=
  startsWith_alike h (by decide)

theorem isConstraintClause_alike : isConstraintClause u = isConstraintClause v := by
  rw [isConstraintClause, isConstraintClause, startsWith_alike h (by decide),
    startsWith_alike h (by decide)]

theorem mentionsPrimaryKey_alike : mentionsPrimaryKey u = mentionsPrimaryKey v :=
  isSome_of_rel (h.search needsHead_phrase? (by decide) fun _ _ h =>
    h.phrase? isAtRest_unit (by decide))

theorem mentionsNotNull_alike : mentionsNotNull u = mentionsNotNull v := by
  refine isSome_of_rel (R := (· = ·)) (h.searchWord needsHead_notNull? (by decide) ?_ false)
  intro u v h
  refine rel_bind (h.phrase? isAtRest_unit (by decide)) fun w x hwx => ?_
  rw [hwx.wordEnds_eq]
  cases wordEnds x with
  | false => exact .none
  | true => exact .some rfl

end Alike

/-! The names in a primary key. -/

/-- The text between the parentheses of a primary key, whatever lines it stands on. -/
def keyList? (s : List Char) : Option (List Char) := do
  let s ← phrase? ["PRIMARY".toList, "KEY".toList] s
  let s ← after? '(' (stripStart s)
  let _ ← after? ')' (s.dropWhile (· ≠ ')'))
  return s.takeWhile (· ≠ ')')

/-- Whether the names in the first primary key that is found stand on one line. -/
def keysOnOneLine (s : List Char) : Bool :=
  (search keyList? s).all fun names => '\n' ∉ names

theorem after?_of_notMem {d : Char} {s : List Char} (h : d ∉ s) : after? d s = none := by
  cases s with
  | nil => rfl
  | cons c s =>
    refine if_neg ?_
    rintro rfl
    exact h List.mem_cons_self

theorem primaryKeyList?_eq_keyList? {s : List Char}
    (h : ∀ names, keyList? s = some names → '\n' ∉ names) : primaryKeyList? s = keyList? s := by
  rw [keyList?] at h ⊢
  cases hphrase : phrase? ["PRIMARY".toList, "KEY".toList] s with
  | none =>
    rw [primaryKeyList?, hphrase]
    rfl
  | some w =>
    cases hopen : after? '(' (stripStart w) with
    | none =>
      rw [primaryKeyList?, hphrase]
      simp only [Option.bind_eq_bind, Option.bind_some, hopen, Option.bind_none]
    | some x =>
      simp only [hphrase, Option.bind_eq_bind, Option.bind_some, hopen] at h ⊢
      by_cases hparen : ')' ∈ x
      · obtain ⟨names, rest, rfl, hnames⟩ := List.eq_append_cons_of_mem hparen
        rw [dropWhile_ne_append hnames, takeWhile_ne_append hnames] at h ⊢
        exact primaryKeyList?_eq_some hphrase hopen hnames (h _ rfl)
      · -- Without a closing parenthesis neither finds any names.
        rw [dropWhile_ne_eq_nil hparen, primaryKeyList?, hphrase]
        simp only [Option.bind_eq_bind, Option.bind_some, hopen]
        rw [after?_of_notMem fun hm => hparen (List.mem_of_mem_drop hm)]
        rfl

theorem needsHead_keyList? : NeedsHead 'P' keyList? := by
  intro c s hc
  have hphrase : phrase? ["PRIMARY".toList, "KEY".toList] (c :: s) = none :=
    needsHead_phrase? c s hc
  rw [keyList?, hphrase]
  rfl

theorem search_primaryKeyList? {s : List Char} (h : keysOnOneLine s = true) :
    search primaryKeyList? s = search keyList? s := by
  induction s with
  | nil => rfl
  | cons c s ih =>
    rw [keysOnOneLine, search] at h
    have hhere : primaryKeyList? (c :: s) = keyList? (c :: s) := by
      refine primaryKeyList?_eq_keyList? fun names hnames => ?_
      rw [hnames] at h
      simpa using h
    rw [search, search, hhere]
    cases hkeys : keyList? (c :: s) with
    | some names => rfl
    | none =>
      rw [hkeys] at h
      exact ih h

theorem keyList?_alike {u v : List Char} (h : Alike u v) :
    Option.Rel Alike (keyList? u) (keyList? v) := by
  have hparen : ∀ c, isBlank c = true → decide (c ≠ ')') = true := by
    intro c hc
    refine decide_eq_true ?_
    rintro rfl
    exact absurd hc (by decide)
  refine rel_bind (h.phrase? isAtRest_unit (by decide)) fun w x hwx => ?_
  refine rel_bind (after?_alike (hwx.stripStart isAtRest_unit) (by decide)) fun w x hwx => ?_
  refine rel_bind (after?_alike (hwx.dropWhile (.inr hparen)) (by decide)) fun _ _ _ => ?_
  exact .some (hwx.takeWhile hparen)

theorem isSolid_of_bareName {s : List Char} (h : IsSolid (bareName s)) : IsSolid s := by
  have hmarks : IsSolid ['`', '"', '[', ']'] := by decide
  intro c hc
  by_cases hmark : c ∈ ['`', '"', '[', ']']
  · exact hmarks c hmark
  · exact h c (List.mem_filter.mpr ⟨hc, decide_eq_true hmark⟩)

theorem exists_of_forall₂ {α β : Type} {R : α → β → Prop} {l : List α} {m : List β}
    (h : List.Forall₂ R l m) {a : α} (ha : a ∈ l) : ∃ b ∈ m, R a b := by
  induction h with
  | nil => cases ha
  | cons hab _ ih =>
    rcases List.mem_cons.mp ha with rfl | ha
    · exact ⟨_, List.mem_cons_self, hab⟩
    · obtain ⟨b, hb, hr⟩ := ih ha
      exact ⟨b, List.mem_cons_of_mem _ hb, hr⟩

/-- Names with blanks in them apart, alike texts name the same columns. -/
theorem mem_primaryKeyNames_alike {u v : List Char} (h : Alike u v)
    (hu : keysOnOneLine u = true) (hv : keysOnOneLine v = true) {n : String}
    (hn : IsSolid n.toList) (hmem : n ∈ primaryKeyNames u) : n ∈ primaryKeyNames v := by
  have hlists := h.search needsHead_keyList? (by decide) fun _ _ h => keyList?_alike h
  rw [← search_primaryKeyList? hu, ← search_primaryKeyList? hv] at hlists
  rw [primaryKeyNames] at hmem ⊢
  generalize search primaryKeyList? u = a, search primaryKeyList? v = b at hlists hmem ⊢
  cases hlists with
  | none => exact hmem
  | some hnames =>
    obtain ⟨p, hp, rfl⟩ := List.mem_map.mp hmem
    obtain ⟨q, hq, hpq⟩ := exists_of_forall₂ (hnames.pieces (by decide)) hp
    have hsolid : IsSolid (strip p) := isSolid_of_bareName (by simpa using hn)
    have hstrip : strip p = strip q := (hpq.strip isAtRest_unit).eq_of_solid hsolid
    rw [hstrip]
    exact List.mem_map.mpr ⟨q, hq, rfl⟩

end SchemaAtlas.Sql
