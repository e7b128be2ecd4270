import SchemaAtlas.Proofs.Text.Pieces
import SchemaAtlas.Proofs.Text.Spelling
import Mathlib.Data.List.Forall2

/-! # Texts with other blanks

Where blanks keep two words apart, it does not matter which and how many they are. Two texts that
differ in nothing else are read alike: what is read from both is the same, and what is left of both
again differs in nothing else. A walk over the texts may say where their blanks are free to differ.
-/
namespace SchemaAtlas.Text

theorem rel_bind {α β γ δ : Type} {R : α → β → Prop} {S : γ → δ → Prop} {a : Option α}
    {b : Option β} {f : α → Option γ} {g : β → Option δ} (h : Option.Rel R a b)
    (hf : ∀ x y, R x y → Option.Rel S (f x) (g y)) : Option.Rel S (a.bind f) (b.bind g) := by
  cases h with
  | none => exact .none
  | some h => exact hf _ _ h

theorem rel_or {α β : Type} {R : α → β → Prop} {a a' : Option α} {b b' : Option β}
    (h : Option.Rel R a b) (h' : Option.Rel R a' b') : Option.Rel R (a.or a') (b.or b') := by
  cases h with
  | none => exact h'
  | some h => exact .some h

theorem eq_of_rel {α : Type} {a b : Option α} (h : Option.Rel (· = ·) a b) : a = b := by
  cases h with
  | none => rfl
  | some h => rw [h]

theorem rel_of_map_eq {α β : Type} {f : α → β} {a b : Option α} (h : a.map f = b.map f) :
    Option.Rel (fun x y => f x = f y) a b := by
  cases a with
  | none =>
    cases b with
    | none => exact .none
    | some y => cases h
  | some x =>
    cases b with
    | none => cases h
    | some y => exact .some (Option.some.inj h)

theorem isSome_of_rel {α : Type} {R : α → α → Prop} {a b : Option α} (h : Option.Rel R a b) :
    a.isSome = b.isSome := by
  cases h <;> rfl

/-! Where blanks are stripped. -/

theorem stripEnd_append (b u : List Char) :
    stripEnd (b ++ u) = if allBlank u then stripEnd b else b ++ stripEnd u := by
  have hempty : (u.reverse.dropWhile isBlank).isEmpty = allBlank u := by
    rw [Bool.eq_iff_iff, List.isEmpty_iff, List.dropWhile_eq_nil_iff, allBlank, List.all_eq_true]
    simp only [List.mem_reverse]
  rw [stripEnd, List.reverse_append, List.dropWhile_append, hempty]
  split
  · rfl
  · rw [List.reverse_append, List.reverse_reverse, stripEnd]

theorem stripEnd_of_allBlank {b : List Char} (hb : allBlank b = true) : stripEnd b = [] := by
  have h := stripEnd_append_blank hb []
  rwa [List.nil_append] at h

theorem exists_blank_stripEnd (u : List Char) : ∃ b, allBlank b = true ∧ u = stripEnd u ++ b := by
  refine ⟨(u.reverse.takeWhile isBlank).reverse, ?_, ?_⟩
  · rw [allBlank, List.all_reverse]
    exact List.all_takeWhile
  · rw [stripEnd, ← List.reverse_append, List.takeWhile_append_dropWhile, List.reverse_reverse]

theorem exists_blank_strip (u : List Char) :
    ∃ b b', allBlank b = true ∧ allBlank b' = true ∧ u = b ++ (strip u ++ b') := by
  obtain ⟨b, hb, hend⟩ := exists_blank_stripEnd (stripStart u)
  refine ⟨u.takeWhile isBlank, b, List.all_takeWhile, hb, ?_⟩
  rw [strip, ← hend, stripStart, List.takeWhile_append_dropWhile]

theorem strip_stripEnd (u : List Char) : strip (stripEnd u) = strip u := by
  obtain ⟨b, hb, hsplit⟩ := exists_blank_stripEnd u
  have hstrip := strip_append_blank hb (stripEnd u)
  rw [← hsplit] at hstrip
  exact hstrip.symm

theorem head?_stripEnd {m : List Char} (hm : ∀ c ∈ m.head?, isBlank c = true) :
    ∀ c ∈ (stripEnd m).head?, isBlank c = true := by
  cases m with
  | nil => exact hm
  | cons c m =>
    have happend := stripEnd_append [c] m
    rw [List.singleton_append] at happend
    intro d hd
    rw [happend] at hd
    split at hd
    · rw [stripEnd_of_allBlank (by simpa [allBlank] using hm)] at hd
      cases hd
    · cases hd
      exact hm c rfl

theorem afterBlanks?_gap {b : List Char} (hb : IsGap b) (u : List Char) :
    afterBlanks? (b ++ u) = some (stripStart u) := by
  have hstrip := stripStart_blank_append hb.blank u
  obtain ⟨c, b, rfl⟩ := List.exists_cons_of_ne_nil hb.ne_nil
  have hc := List.all_eq_true.mp hb.blank c List.mem_cons_self
  rw [List.cons_append, stripStart_of_blank hc] at hstrip
  rw [List.cons_append, afterBlanks?, if_pos hc, hstrip]

section Walk
variable {σ : Type} (step : σ → Char → σ) (isFree : σ → Prop)

/-- Texts that are equal but for the runs of blanks that a walk meets where they are free. -/
inductive Respaced : σ → List Char → List Char → Prop
  | nil (s : σ) : Respaced s [] []
  | cons {s : σ} (c : Char) {u v : List Char} (h : Respaced (step s c) u v) :
      Respaced s (c :: u) (c :: v)
  | gap {s : σ} {b b' u v : List Char} (hs : isFree s) (hb : IsGap b) (hb' : IsGap b')
      (h : Respaced s u v) : Respaced s (b ++ u) (b' ++ v)

/-- Blanks are free, and neither they nor letters lead the walk away. -/
structure IsAtRest (s : σ) : Prop where
  free : isFree s
  blank : ∀ c, isBlank c = true → step s c = s
  letter : ∀ c, caseless c ∈ letters → step s c = s

/-- Texts that are equal but for their runs of blanks, wherever they stand. -/
abbrev Alike : List Char → List Char → Prop :=
  Respaced (fun (_ : Unit) _ => ()) (fun _ => True) ()

theorem isAtRest_unit : IsAtRest (fun (_ : Unit) _ => ()) (fun _ => True) () :=
  ⟨trivial, fun _ _ => rfl, fun _ _ => rfl⟩

namespace Respaced

variable {step isFree} {s : σ} {u v : List Char}

theorem refl (s : σ) (u : List Char) : Respaced step isFree s u u := by
  induction u generalizing s with
  | nil => exact .nil s
  | cons c u ih => exact .cons c (ih _)

/-- Where blanks are not free, the texts begin with the same character. -/
theorem head_eq (h : Respaced step isFree s u v) (hs : ¬ isFree s) :
    (u = [] ∧ v = []) ∨
      ∃ c u' v', u = c :: u' ∧ v = c :: v' ∧ Respaced step isFree (step s c) u' v' := by
  cases h with
  | nil => exact .inl ⟨rfl, rfl⟩
  | cons c h => exact .inr ⟨c, _, _, rfl, rfl, h⟩
  | gap hs' _ _ _ => exact absurd hs' hs

theorem symm (h : Respaced step isFree s u v) : Respaced step isFree s v u := by
  induction h with
  | nil s => exact .nil s
  | cons c _ ih => exact .cons c ih
  | gap hs hb hb' _ ih => exact .gap hs hb' hb ih

theorem alike (h : Respaced step isFree s u v) : Alike u v := by
  induction h with
  | nil s => exact .nil ()
  | cons c _ ih => exact .cons c ih
  | gap _ hb hb' _ ih => exact .gap trivial hb hb' ih

theorem allBlank_eq (h : Respaced step isFree s u v) : allBlank u = allBlank v := by
  induction h with
  | nil s => rfl
  | cons c _ ih =>
    rw [allBlank, allBlank, List.all_cons, List.all_cons]
    exact congrArg (isBlank c && ·) ih
  | gap _ hb hb' _ ih =>
    rw [allBlank, allBlank, List.all_append, List.all_append]
    exact congrArg₂ (· && ·) (hb.blank.trans hb'.blank.symm) ih

theorem stripStart (hs : IsAtRest step isFree s) (h : Respaced step isFree s u v) :
    Respaced step isFree s (stripStart u) (stripStart v) := by
  induction h with
  | nil s => exact .nil s
  | cons c h ih =>
    cases hc : isBlank c with
    | true =>
      rw [hs.blank c hc] at ih
      rw [stripStart_of_blank hc, stripStart_of_blank hc]
      exact ih hs
    | false =>
      rw [stripStart_of_not_blank hc, stripStart_of_not_blank hc]
      exact .cons c h
  | gap _ hb hb' _ ih =>
    rw [stripStart_blank_append hb.blank, stripStart_blank_append hb'.blank]
    exact ih hs

theorem stripEnd (h : Respaced step isFree s u v) :
    Respaced step isFree s (stripEnd u) (stripEnd v) := by
  induction h with
  | nil s => exact .nil s
  | @cons s c u v h ih =>
    have hu := stripEnd_append [c] u
    have hv := stripEnd_append [c] v
    rw [← h.allBlank_eq] at hv
    rw [List.singleton_append] at hu hv
    rw [hu, hv]
    split
    · exact .refl s _
    · exact .cons c ih
  | @gap s b b' u v hs hb hb' h ih =>
    -- The gaps go if nothing but blanks follows, and stay if anything else does.
    rw [stripEnd_append, stripEnd_append, ← h.allBlank_eq]
    split
    · rw [stripEnd_of_allBlank hb.blank, stripEnd_of_allBlank hb'.blank]
      exact .nil s
    · exact .gap hs hb hb' ih

theorem strip (hs : IsAtRest step isFree s) (h : Respaced step isFree s u v) :
    Respaced step isFree s (strip u) (strip v) :=
  (h.stripStart hs).stripEnd

theorem afterBlanks? (hs : IsAtRest step isFree s) (h : Respaced step isFree s u v) :
    Option.Rel (Respaced step isFree s) (afterBlanks? u) (afterBlanks? v) := by
  cases h with
  | nil => exact .none
  | cons c h =>
    rw [Text.afterBlanks?, Text.afterBlanks?]
    split
    · next hc =>
      rw [hs.blank c hc] at h
      exact .some (h.stripStart hs)
    · exact .none
  | gap _ hb hb' h =>
    rw [afterBlanks?_gap hb, afterBlanks?_gap hb']
    exact .some (h.stripStart hs)

theorem keyword? (hs : IsAtRest step isFree s) {kw : List Char} (hkw : kw ⊆ letters)
    (h : Respaced step isFree s u v) :
    Option.Rel (Respaced step isFree s) (keyword? kw u) (keyword? kw v) := by
  induction kw generalizing u v with
  | nil => exact .some h
  | cons k kw ih =>
    obtain ⟨hk, hkw⟩ := List.cons_subset.mp hkw
    cases h with
    | nil => exact .none
    | cons c h =>
      rw [Text.keyword?, Text.keyword?]
      split
      · next hc =>
        rw [hs.letter c (hc ▸ hk)] at h
        exact ih hkw h
      · exact .none
    | gap _ hb hb' h =>
      have hsolid := isBlank_of_isWord (isWord_of_mem_letters hk)
      have hnone : ∀ {b : List Char} (w : List Char), IsGap b →
          Text.keyword? (k :: kw) (b ++ w) = none := by
        intro b w hb
        obtain ⟨c, b, rfl⟩ := List.exists_cons_of_ne_nil hb.ne_nil
        exact if_neg (caseless_ne_of_allBlank hb.blank hsolid c List.mem_cons_self)
      rw [hnone _ hb, hnone _ hb']
      exact .none

theorem phrase? (hs : IsAtRest step isFree s) {kws : List (List Char)}
    (hkws : ∀ kw ∈ kws, kw ⊆ letters) (h : Respaced step isFree s u v) :
    Option.Rel (Respaced step isFree s) (phrase? kws u) (phrase? kws v) := by
  induction kws generalizing u v with
  | nil => exact .some h
  | cons kw kws ih =>
    obtain ⟨hkw, hmore⟩ := List.forall_mem_cons.mp hkws
    cases kws with
    | nil => exact h.keyword? hs hkw
    | cons kw' kws =>
      refine rel_bind (h.keyword? hs hkw) fun x y hxy => ?_
      exact rel_bind (hxy.afterBlanks? hs) fun x y hxy => ih hmore hxy

theorem append_left (w : List Char) (h : Respaced step isFree (w.foldl step s) u v) :
    Respaced step isFree s (w ++ u) (w ++ v) := by
  induction w generalizing s with
  | nil => exact h
  | cons c w ih => exact .cons c (ih h)

/-- A text without blanks is all that is written there. -/
theorem eq_of_solid (h : Respaced step isFree s u v) (hu : ∀ c ∈ u, isBlank c = false) :
    u = v := by
  induction h with
  | nil s => rfl
  | cons c _ ih => rw [ih fun d hd => hu d (List.mem_cons_of_mem _ hd)]
  | gap _ hb _ _ _ =>
    obtain ⟨c, b, rfl⟩ := List.exists_cons_of_ne_nil hb.ne_nil
    have hc := hu c (List.mem_append_left _ List.mem_cons_self)
    rw [List.all_eq_true.mp hb.blank c List.mem_cons_self] at hc
    cases hc

theorem isEmpty_eq (h : Respaced step isFree s u v) : u.isEmpty = v.isEmpty := by
  have hgap : ∀ {b : List Char} (w : List Char), IsGap b → (b ++ w).isEmpty = false := by
    intro b w hb
    exact List.isEmpty_eq_false_iff.mpr (List.append_ne_nil_of_left_ne_nil hb.ne_nil w)
  cases h with
  | nil => rfl
  | cons c h => rfl
  | gap _ hb hb' h => rw [hgap _ hb, hgap _ hb']

theorem head?_blank (h : Respaced step isFree s u v) (hu : ∀ c ∈ u.head?, isBlank c = true) :
    ∀ c ∈ v.head?, isBlank c = true := by
  cases h with
  | nil => exact hu
  | cons c h => exact hu
  | gap _ hb hb' h =>
    intro c hc
    obtain ⟨d, b, rfl⟩ := List.exists_cons_of_ne_nil hb'.ne_nil
    cases hc
    exact List.all_eq_true.mp hb'.blank c List.mem_cons_self

theorem mem_iff (h : Respaced step isFree s u v) {d : Char} (hd : isBlank d = false) :
    d ∈ u ↔ d ∈ v := by
  induction h with
  | nil s => exact Iff.rfl
  | cons c _ ih => rw [List.mem_cons, List.mem_cons, ih]
  | gap _ hb hb' _ ih =>
    rw [List.mem_append, List.mem_append, ih, iff_false_intro (notMem_of_allBlank hb.blank hd),
      iff_false_intro (notMem_of_allBlank hb'.blank hd)]

theorem wordEnds_eq (h : Respaced step isFree s u v) : wordEnds u = wordEnds v := by
  cases h with
  | nil => rfl
  | cons c h => rfl
  | gap _ hb hb' h =>
    rw [wordEnds_of_separates (separates_gap hb _), wordEnds_of_separates (separates_gap hb' _)]

section Alike
variable (h : Respaced step isFree s u v) {p : Char → Bool}
include h

/-- Up to a blank the texts are the same. -/
theorem takeWhile_eq (hp : ∀ c, isBlank c = true → p c = false) :
    u.takeWhile p = v.takeWhile p := by
  induction h with
  | nil s => rfl
  | cons c _ ih => rw [List.takeWhile_cons, List.takeWhile_cons, ih]
  | gap _ hb hb' _ _ =>
    have hnil : ∀ {b : List Char} (w : List Char), IsGap b → (b ++ w).takeWhile p = [] := by
      intro b w hb
      obtain ⟨c, b, rfl⟩ := List.exists_cons_of_ne_nil hb.ne_nil
      have hc := hp c (List.all_eq_true.mp hb.blank c List.mem_cons_self)
      exact List.takeWhile_cons_of_neg (by simp [hc])
    rw [hnil _ hb, hnil _ hb']

theorem dropWhile
    (hp : (∀ c, isBlank c = true → p c = false) ∨ ∀ c, isBlank c = true → p c = true) :
    Alike (u.dropWhile p) (v.dropWhile p) := by
  induction h with
  | nil s => exact .nil ()
  | cons c h ih =>
    rw [List.dropWhile_cons, List.dropWhile_cons]
    split
    · exact ih
    · exact .cons c h.alike
  | @gap s b b' u v _ hb hb' h ih =>
    rcases hp with hp | hp
    · have hwhole : ∀ {b : List Char} (w : List Char), IsGap b → (b ++ w).dropWhile p = b ++ w := by
        intro b w hb
        obtain ⟨c, b, rfl⟩ := List.exists_cons_of_ne_nil hb.ne_nil
        have hc := hp c (List.all_eq_true.mp hb.blank c List.mem_cons_self)
        exact List.dropWhile_cons_of_neg (by simp [hc])
      rw [hwhole _ hb, hwhole _ hb']
      exact .gap trivial hb hb' h.alike
    · have hpass : ∀ {b : List Char}, IsGap b → ∀ c ∈ b, p c = true := fun hb c hc =>
        hp c (List.all_eq_true.mp hb.blank c hc)
      rw [List.dropWhile_append_of_pos (hpass hb), List.dropWhile_append_of_pos (hpass hb')]
      exact ih

theorem takeWhile (hp : ∀ c, isBlank c = true → p c = true) :
    Alike (u.takeWhile p) (v.takeWhile p) := by
  induction h with
  | nil s => exact .nil ()
  | cons c h ih =>
    rw [List.takeWhile_cons, List.takeWhile_cons]
    split
    · exact .cons c ih
    · exact .nil ()
  | gap _ hb hb' h ih =>
    have hpass : ∀ {b : List Char}, IsGap b → ∀ c ∈ b, p c = true := fun hb c hc =>
      hp c (List.all_eq_true.mp hb.blank c hc)
    rw [List.takeWhile_append_of_pos (hpass hb), List.takeWhile_append_of_pos (hpass hb')]
    exact .gap trivial hb hb' ih

theorem firstWord_snd : Alike (firstWord u).2 (firstWord v).2 := by
  have hp : ∀ c, isBlank c = true → (!isBlank c) = false := fun c hc => by rw [hc]; rfl
  exact ((h.alike.stripStart isAtRest_unit).dropWhile (.inl hp)).stripStart isAtRest_unit

section Search
variable {α : Type} {R : α → α → Prop} {read : List Char → Option α} {k : Char}
  (hk : NeedsHead k read) (hblank : isBlank k = false)
  (hread : ∀ u v, Alike u v → Option.Rel R (read u) (read v))
include hk hblank hread

theorem search : Option.Rel R (search read u) (search read v) := by
  induction h with
  | nil s => exact hread [] [] (.nil ())
  | @cons s c u v h ih =>
    have hhere := hread (c :: u) (c :: v) (.cons c h.alike)
    rw [Text.search, Text.search]
    generalize read (c :: u) = a, read (c :: v) = b at hhere ⊢
    cases hhere with
    | none => exact ih
    | some hr => exact .some hr
  | gap _ hb hb' _ ih =>
    rw [search_skip hk (caseless_ne_of_allBlank hb.blank hblank),
      search_skip hk (caseless_ne_of_allBlank hb'.blank hblank)]
    exact ih

theorem searchWord (inWord : Bool) :
    Option.Rel R (searchWord read inWord u) (searchWord read inWord v) := by
  induction h generalizing inWord with
  | nil s => exact .none
  | @cons s c u v h ih =>
    have hhere := hread (c :: u) (c :: v) (.cons c h.alike)
    rw [Text.searchWord, Text.searchWord]
    generalize read (c :: u) = a, read (c :: v) = b at hhere ⊢
    cases inWord with
    | true => exact ih _
    | false =>
      cases hhere with
      | none => exact ih _
      | some hr => exact .some hr
  | gap _ hb hb' _ ih =>
    rw [searchWord_gap hk hblank hb, searchWord_gap hk hblank hb']
    exact ih _

end Search

omit h in
theorem pieces_append {b : List Char} {d : Char} (hd : d ∉ b) {u p : List Char}
    {more : List (List Char)} (hu : pieces d u = p :: more) :
    pieces d (b ++ u) = (b ++ p) :: more := by
  induction b with
  | nil => exact hu
  | cons c b ih =>
    obtain ⟨hne, hb⟩ := not_or.mp (List.mem_cons.not.mp hd)
    rw [List.cons_append, pieces, if_neg (Ne.symm hne), ih hb]
    rfl

theorem pieces {d : Char} (hd : isBlank d = false) :
    List.Forall₂ Alike (pieces d u) (pieces d v) := by
  induction h with
  | nil s => exact .cons (.nil ()) .nil
  | @cons s c u v _ ih =>
    rw [Text.pieces, Text.pieces]
    split
    · exact .cons (.nil ()) ih
    · obtain ⟨p, more, hu⟩ := List.exists_cons_of_ne_nil (pieces_ne_nil d u)
      obtain ⟨q, others, hv⟩ := List.exists_cons_of_ne_nil (pieces_ne_nil d v)
      rw [hu, hv] at ih ⊢
      obtain ⟨hfirst, hmore⟩ := List.forall₂_cons.mp ih
      exact .cons (.cons c hfirst) hmore
  | @gap s b b' u v _ hb hb' _ ih =>
    obtain ⟨p, more, hu⟩ := List.exists_cons_of_ne_nil (pieces_ne_nil d u)
    obtain ⟨q, others, hv⟩ := List.exists_cons_of_ne_nil (pieces_ne_nil d v)
    rw [pieces_append (notMem_of_allBlank hb.blank hd) hu,
      pieces_append (notMem_of_allBlank hb'.blank hd) hv]
    rw [hu, hv] at ih
    obtain ⟨hfirst, hmore⟩ := List.forall₂_cons.mp ih
    exact .cons (.gap trivial hb hb' hfirst) hmore

end Alike

end Respaced

end Walk

end SchemaAtlas.Text
