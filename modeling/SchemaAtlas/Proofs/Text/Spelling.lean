import SchemaAtlas.Proofs.Text.Blank
import SchemaAtlas.Proofs.Text.Keyword
import SchemaAtlas.Proofs.Text.Word

/-! # Spelled keywords

A keyword may be spelled in any mixture of ASCII cases, and any blanks may stand between two of
them. Every spelling is read as its keyword and as no other. A search passes over a text that
has no character with which its pattern could begin.
-/
namespace SchemaAtlas.Text

def letters : List Char :=
  "ABCDEFGHIJKLMNOPQRSTUVWXYZabcdefghijklmnopqrstuvwxyz".toList

/-- A keyword in small and capital letters. -/
structure IsSpelling (kw w : List Char) : Prop where
  capitals : w.map Char.toUpper = kw
  letters : w ⊆ letters

instance (kw w : List Char) : Decidable (IsSpelling kw w) :=
  decidable_of_iff (w.map Char.toUpper = kw ∧ w ⊆ letters)
    ⟨fun h => ⟨h.1, h.2⟩, fun h => ⟨h.capitals, h.letters⟩⟩

/-- Blanks that keep two words apart. -/
structure IsGap (b : List Char) : Prop where
  ne_nil : b ≠ []
  blank : allBlank b = true

instance (b : List Char) : Decidable (IsGap b) :=
  decidable_of_iff (b ≠ [] ∧ allBlank b = true)
    ⟨fun h => ⟨h.1, h.2⟩, fun h => ⟨h.ne_nil, h.blank⟩⟩

/-- Keywords with blanks between each two. -/
inductive IsPhrase : List (List Char) → List Char → Prop
  | last {kw w : List Char} (hw : IsSpelling kw w) : IsPhrase [kw] w
  | cons {kw w b u : List Char} {kws : List (List Char)} (hw : IsSpelling kw w) (hb : IsGap b)
      (hu : IsPhrase kws u) : IsPhrase (kw :: kws) (w ++ (b ++ u))

theorem caseless_of_mem_letters {c : Char} (h : c ∈ letters) : caseless c = c.toUpper := by
  have hall : letters.all (fun c => caseless c = c.toUpper) = true := by decide
  simpa using List.all_eq_true.mp hall c h

theorem isWord_of_mem_letters {c : Char} (h : c ∈ letters) : isWord c = true := by
  have hall : letters.all isWord = true := by decide +kernel
  exact List.all_eq_true.mp hall c h

/-- A character that ends every word and is no quote. -/
def isSeparator (c : Char) : Bool :=
  isBlank c || c = '(' || c = ')'

/-- Whether a text is nothing or begins with a separator. -/
def separates : List Char → Bool
  | [] => true
  | c :: _ => isSeparator c

theorem separator_cases {c : Char} (h : isSeparator c = true) : c ∈ '(' :: ')' :: blanks := by
  simp only [isSeparator, Bool.or_eq_true, decide_eq_true_eq] at h
  rcases h with (h | rfl) | rfl
  · exact List.mem_cons_of_mem _ (List.mem_cons_of_mem _ (List.contains_iff_mem.mp h))
  · simp
  · simp

theorem caseless_of_isSeparator {c : Char} (h : isSeparator c = true) : caseless c = c := by
  have hall : ('(' :: ')' :: blanks).all (fun c => caseless c = c) = true := by decide
  simpa using List.all_eq_true.mp hall c (separator_cases h)

theorem isWord_of_isSeparator {c : Char} (h : isSeparator c = true) : isWord c = false := by
  have hall : ('(' :: ')' :: blanks).all (fun c => !isWord c) = true := by decide +kernel
  simpa using List.all_eq_true.mp hall c (separator_cases h)

theorem isSeparator_of_isBlank {c : Char} (h : isBlank c = true) : isSeparator c = true := by
  rw [isSeparator, h]
  rfl

theorem separates_append {b : List Char} (hb : allBlank b = true) {u : List Char}
    (hu : separates u = true) : separates (b ++ u) = true := by
  cases b with
  | nil => exact hu
  | cons c b => exact isSeparator_of_isBlank (List.all_eq_true.mp hb c List.mem_cons_self)

theorem separates_gap {b : List Char} (hb : IsGap b) (u : List Char) :
    separates (b ++ u) = true := by
  obtain ⟨c, b, rfl⟩ := List.exists_cons_of_ne_nil hb.ne_nil
  exact isSeparator_of_isBlank (List.all_eq_true.mp hb.blank c List.mem_cons_self)

theorem wordEnds_of_separates {u : List Char} (h : separates u = true) : wordEnds u = true := by
  cases u with
  | nil => rfl
  | cons c u =>
    rw [wordEnds, isWord_of_isSeparator h]
    rfl

/-! Where a text begins and ends with other characters than blanks. -/

def startsSolid : List Char → Bool
  | [] => false
  | c :: _ => !isBlank c

def endsSolid (u : List Char) : Bool :=
  startsSolid u.reverse

theorem startsSolid_append {u : List Char} (h : startsSolid u = true) (v : List Char) :
    startsSolid (u ++ v) = true := by
  cases u with
  | nil => cases h
  | cons c u => exact h

theorem endsSolid_append (u : List Char) {v : List Char} (h : endsSolid v = true) :
    endsSolid (u ++ v) = true := by
  rw [endsSolid, List.reverse_append]
  exact startsSolid_append h _

theorem endsSolid_cons (c : Char) {v : List Char} (h : endsSolid v = true) :
    endsSolid (c :: v) = true :=
  endsSolid_append [c] h

theorem stripStart_of_startsSolid {u : List Char} (h : startsSolid u = true) :
    stripStart u = u := by
  cases u with
  | nil => rfl
  | cons c u => exact stripStart_of_not_blank (by simpa [startsSolid] using h) u

theorem strip_of_solid {u : List Char} (hs : startsSolid u = true) (he : endsSolid u = true) :
    strip u = u := by
  have hend : u.reverse.dropWhile isBlank = u.reverse := stripStart_of_startsSolid he
  rw [strip, stripStart_of_startsSolid hs, stripEnd, hend, List.reverse_reverse]

theorem stripStart_append {b : List Char} (hb : allBlank b = true) {u : List Char}
    (hu : startsSolid u = true) (v : List Char) : stripStart (b ++ (u ++ v)) = u ++ v := by
  rw [stripStart_blank_append hb, stripStart_of_startsSolid (startsSolid_append hu v)]

theorem afterBlanks?_append {b : List Char} (hb : IsGap b) {u : List Char}
    (hu : startsSolid u = true) (v : List Char) : afterBlanks? (b ++ (u ++ v)) = some (u ++ v) := by
  have hstrip := stripStart_append hb.blank hu v
  obtain ⟨hne, hblank⟩ := hb
  obtain ⟨c, b, rfl⟩ := List.exists_cons_of_ne_nil hne
  have hc := List.all_eq_true.mp hblank c List.mem_cons_self
  rw [List.cons_append, stripStart_of_blank hc] at hstrip
  rw [List.cons_append, afterBlanks?, if_pos hc, hstrip]

/-- The first word of a text is cut off together with the blanks after it. -/
theorem firstWord_append {w b v : List Char} (hw : ∀ c ∈ w, isBlank c = false) (hne : w ≠ [])
    (hb : IsGap b) (hv : startsSolid v = true) : firstWord (w ++ (b ++ v)) = (w, v) := by
  have hstart : stripStart (w ++ (b ++ v)) = w ++ (b ++ v) := by
    obtain ⟨c, u, rfl⟩ := List.exists_cons_of_ne_nil hne
    exact stripStart_of_not_blank (hw c List.mem_cons_self) _
  have hnot : ∀ c ∈ w, (!isBlank c) = true := by simpa using hw
  obtain ⟨d, b', rfl⟩ := List.exists_cons_of_ne_nil hb.ne_nil
  have hd : isBlank d = true := List.all_eq_true.mp hb.blank d List.mem_cons_self
  rw [firstWord, hstart, List.takeWhile_append_of_pos hnot, List.dropWhile_append_of_pos hnot,
    List.cons_append, List.takeWhile_cons_of_neg (by simp [hd]),
    List.dropWhile_cons_of_neg (by simp [hd]), List.append_nil, ← List.cons_append,
    stripStart_blank_append hb.blank, stripStart_of_startsSolid hv]

/-! A keyword is read from each of its spellings. -/

theorem IsSpelling.keyword? {kw w : List Char} (h : IsSpelling kw w) (rest : List Char) :
    keyword? kw (w ++ rest) = some rest := by
  obtain ⟨rfl, hletters⟩ := h
  induction w with
  | nil => rfl
  | cons c w ih =>
    have hc := caseless_of_mem_letters (hletters List.mem_cons_self)
    rw [List.map_cons, List.cons_append, Text.keyword?, if_pos hc]
    exact ih (List.cons_subset.mp hletters).2

/-- Of two keywords neither of which begins with the other, none is read as the other. -/
theorem IsSpelling.keyword?_eq_none {kw kw' w : List Char} (h : IsSpelling kw' w)
    (hne : ¬ kw <+: kw') (hne' : ¬ kw' <+: kw) (rest : List Char) :
    Text.keyword? kw (w ++ rest) = none := by
  obtain ⟨rfl, hletters⟩ := h
  induction w generalizing kw with
  | nil => exact absurd List.nil_prefix hne'
  | cons c w ih =>
    cases kw with
    | nil => exact absurd List.nil_prefix hne
    | cons k kw =>
      have hc := caseless_of_mem_letters (hletters List.mem_cons_self)
      rw [List.map_cons, List.cons_prefix_cons] at hne hne'
      rw [List.cons_append, Text.keyword?, hc]
      split
      · next hk =>
        exact ih (List.cons_subset.mp hletters).2
          (fun hp => hne ⟨hk.symm, hp⟩) fun hp => hne' ⟨hk, hp⟩
      · rfl

theorem IsSpelling.startsSolid {kw w : List Char} (h : IsSpelling kw w) (hk : kw ≠ []) :
    startsSolid w = true := by
  cases w with
  | nil => exact absurd h.capitals.symm hk
  | cons c w =>
    have hc := isBlank_of_isWord (isWord_of_mem_letters (h.letters List.mem_cons_self))
    rw [Text.startsSolid, hc]
    rfl

theorem IsSpelling.endsSolid {kw w : List Char} (h : IsSpelling kw w) (hk : kw ≠ []) :
    endsSolid w = true := by
  cases hw : w.reverse with
  | nil => exact absurd (by rw [← h.capitals, List.reverse_eq_nil_iff.mp hw, List.map_nil]) hk
  | cons c u =>
    have hmem : c ∈ w := List.mem_reverse.mp (hw ▸ List.mem_cons_self)
    have hc := isBlank_of_isWord (isWord_of_mem_letters (h.letters hmem))
    rw [Text.endsSolid, hw, Text.startsSolid, hc]
    rfl

theorem IsSpelling.caseless_ne {kw w : List Char} (h : IsSpelling kw w) {k : Char} (hk : k ∉ kw) :
    ∀ c ∈ w, caseless c ≠ k := by
  rintro c hc rfl
  apply hk
  rw [← h.capitals, caseless_of_mem_letters (h.letters hc)]
  exact List.mem_map_of_mem hc

theorem notMem_of_allBlank {b : List Char} (hb : allBlank b = true) {d : Char}
    (hd : isBlank d = false) : d ∉ b := by
  intro hm
  rw [List.all_eq_true.mp hb d hm] at hd
  cases hd

theorem caseless_ne_of_allBlank {b : List Char} (hb : allBlank b = true) {k : Char}
    (hk : isBlank k = false) : ∀ c ∈ b, caseless c ≠ k := by
  intro c hc hck
  have hblank := List.all_eq_true.mp hb c hc
  rw [caseless_of_isSeparator (isSeparator_of_isBlank hblank)] at hck
  rw [← hck, hblank] at hk
  cases hk

namespace IsPhrase

variable {kws : List (List Char)} {w : List Char}

theorem startsSolid (h : IsPhrase kws w) (hk : [] ∉ kws) : startsSolid w = true := by
  cases h with
  | last hw => exact hw.startsSolid fun he => hk (he ▸ List.mem_cons_self)
  | cons hw hb hu => exact startsSolid_append (hw.startsSolid fun he => hk (he ▸ List.mem_cons_self)) _

theorem endsSolid (h : IsPhrase kws w) (hk : [] ∉ kws) : endsSolid w = true := by
  induction h with
  | last hw => exact hw.endsSolid fun he => hk (he ▸ List.mem_cons_self)
  | cons hw hb hu ih =>
    exact endsSolid_append _ (endsSolid_append _ (ih fun hm => hk (List.mem_cons_of_mem _ hm)))

theorem phrase? (h : IsPhrase kws w) (hk : [] ∉ kws) (rest : List Char) :
    phrase? kws (w ++ rest) = some rest := by
  induction h with
  | last hw => exact hw.keyword? rest
  | @cons kw w b u kws hw hb hu ih =>
    have hk' : [] ∉ kws := fun hm => hk (List.mem_cons_of_mem _ hm)
    obtain ⟨kw', more, rfl⟩ : ∃ kw' more, kws = kw' :: more := by cases hu <;> exact ⟨_, _, rfl⟩
    have hword := hw.keyword? (b ++ (u ++ rest))
    have hgap := afterBlanks?_append hb (hu.startsSolid hk') rest
    rw [List.append_assoc, List.append_assoc]
    change (Text.keyword? kw _ >>= fun s => afterBlanks? s >>= Text.phrase? (kw' :: more)) = _
    rw [hword]
    change (afterBlanks? _ >>= Text.phrase? (kw' :: more)) = _
    rw [hgap]
    exact ih hk'

theorem keyword?_eq_none {kw kw' : List Char} (h : IsPhrase (kw' :: kws) w)
    (hne : ¬ kw <+: kw') (hne' : ¬ kw' <+: kw) (rest : List Char) :
    keyword? kw (w ++ rest) = none := by
  cases h with
  | last hw => exact hw.keyword?_eq_none hne hne' rest
  | cons hw hb hu =>
    rw [List.append_assoc]
    exact hw.keyword?_eq_none hne hne' _

theorem caseless_ne (h : IsPhrase kws w) {k : Char} (hk : ∀ kw ∈ kws, k ∉ kw)
    (hblank : isBlank k = false) : ∀ c ∈ w, caseless c ≠ k := by
  induction h with
  | last hw => exact hw.caseless_ne (hk _ List.mem_cons_self)
  | cons hw hb hu ih =>
    have hfirst := hw.caseless_ne (hk _ List.mem_cons_self)
    have hgap := caseless_ne_of_allBlank hb.blank hblank
    have hmore := ih fun kw hm => hk kw (List.mem_cons_of_mem _ hm)
    exact List.forall_mem_append.mpr ⟨hfirst, List.forall_mem_append.mpr ⟨hgap, hmore⟩⟩

end IsPhrase

theorem caseless_of_separates {rest : List Char} (h : separates rest = true) :
    ∀ c ∈ rest.head?, caseless c ∉ letters := by
  intro c hc
  cases rest with
  | nil => cases hc
  | cons d rest =>
    cases hc
    rw [caseless_of_isSeparator h]
    intro hm
    have hword := isWord_of_mem_letters hm
    rw [isWord_of_isSeparator h] at hword
    cases hword

/-- A keyword that is read from a text and what follows is read from the text alone, if what
follows does not begin with a letter. -/
theorem keyword?_append {kw name rest r : List Char} (hkw : kw ⊆ letters)
    (hrest : ∀ c ∈ rest.head?, caseless c ∉ letters) (h : keyword? kw (name ++ rest) = some r) :
    ∃ u v, name = u ++ v ∧ u.map caseless = kw ∧ r = v ++ rest := by
  induction name generalizing kw with
  | nil =>
    cases kw with
    | nil => exact ⟨[], [], rfl, rfl, (Option.some.inj h).symm⟩
    | cons k kw =>
      cases rest with
      | nil => cases h
      | cons c rest =>
        have hc : caseless c ≠ k := fun he => hrest c rfl (he ▸ hkw List.mem_cons_self)
        rw [List.nil_append, keyword?, if_neg hc] at h
        cases h
  | cons c name ih =>
    cases kw with
    | nil => exact ⟨[], c :: name, rfl, rfl, (Option.some.inj h).symm⟩
    | cons k kw =>
      rw [List.cons_append, keyword?] at h
      split at h
      · next hc =>
        obtain ⟨u, v, rfl, hu, rfl⟩ := ih (List.cons_subset.mp hkw).2 h
        exact ⟨c :: u, v, rfl, by rw [List.map_cons, hc, hu], rfl⟩
      · cases h

/-- Only the whole of a name can be read as one word. -/
theorem startsWith_name {kw name rest r : List Char} (hn : IsName name)
    (hkw : kw ⊆ letters) (hrest : separates rest = true)
    (h : keyword? kw (name ++ rest) = some r) (hr : wordEnds r = true) :
    name.map caseless = kw := by
  obtain ⟨u, v, rfl, hu, rfl⟩ := keyword?_append hkw (caseless_of_separates hrest) h
  cases v with
  | nil => rwa [List.append_nil]
  | cons c v =>
    have hc := hn.word c (List.mem_append_right _ List.mem_cons_self)
    rw [List.cons_append, wordEnds, hc] at hr
    cases hr

/-- The first of several words is the whole of a name, if any of it, so the others are read after
the name. -/
theorem phrase?_of_name {kw kw' name rest x : List Char} {kws : List (List Char)}
    (hn : ∀ c ∈ name, isWord c = true) (hkw : kw ⊆ letters)
    (hrest : ∀ c ∈ rest.head?, caseless c ∉ letters)
    (h : phrase? (kw :: kw' :: kws) (name ++ rest) = some x) :
    ∃ s, afterBlanks? rest = some s ∧ phrase? (kw' :: kws) s = some x := by
  obtain ⟨r, hfirst, h⟩ := Option.bind_eq_some_iff.mp h
  obtain ⟨s, hgap, hnext⟩ := Option.bind_eq_some_iff.mp h
  obtain ⟨u, v, rfl, _, rfl⟩ := keyword?_append hkw hrest hfirst
  cases v with
  | nil => exact ⟨s, hgap, hnext⟩
  | cons c v =>
    have hc := isBlank_of_isWord (hn c (List.mem_append_right _ List.mem_cons_self))
    rw [List.cons_append, afterBlanks?, hc] at hgap
    cases hgap

/-! A search passes over what its pattern cannot begin with. -/

section Skip
variable {α : Type} {read : List Char → Option α} {k : Char}

/-- Whether only text that begins with a letter in any case can be read. -/
def NeedsHead (k : Char) (read : List Char → Option α) : Prop :=
  ∀ c s, caseless c ≠ k → read (c :: s) = none

theorem search_skip (hr : NeedsHead k read) {p : List Char} (hp : ∀ c ∈ p, caseless c ≠ k)
    (s : List Char) : search read (p ++ s) = search read s := by
  induction p with
  | nil => rfl
  | cons c p ih =>
    rw [List.cons_append, search, hr c _ (hp c List.mem_cons_self)]
    exact ih fun d hd => hp d (List.mem_cons_of_mem _ hd)

theorem searchWord_skip (hr : NeedsHead k read) {p : List Char} (hp : ∀ c ∈ p, caseless c ≠ k)
    (inWord : Bool) (s : List Char) :
    ∃ inWord', searchWord read inWord (p ++ s) = searchWord read inWord' s := by
  induction p generalizing inWord with
  | nil => exact ⟨inWord, rfl⟩
  | cons c p ih =>
    rw [List.cons_append, searchWord_cons inWord (hr c _ (hp c List.mem_cons_self))]
    exact ih (fun d hd => hp d (List.mem_cons_of_mem _ hd)) _

theorem searchWord_blank (hr : NeedsHead k read) (hk : isBlank k = false) {b : List Char}
    (hb : allBlank b = true) (s : List Char) :
    searchWord read false (b ++ s) = searchWord read false s := by
  induction b with
  | nil => rfl
  | cons c b ih =>
    have hc := List.all_eq_true.mp hb c List.mem_cons_self
    rw [List.cons_append,
      searchWord_cons _ (hr c _ (caseless_ne_of_allBlank hb hk c List.mem_cons_self)),
      isWord_of_isSeparator (isSeparator_of_isBlank hc)]
    exact ih (List.all_eq_true.mpr fun d hd => List.all_eq_true.mp hb d (List.mem_cons_of_mem _ hd))

theorem searchWord_gap (hr : NeedsHead k read) (hk : isBlank k = false) {b : List Char}
    (hb : IsGap b) (inWord : Bool) (s : List Char) :
    searchWord read inWord (b ++ s) = searchWord read false s := by
  have hblank := searchWord_blank hr hk hb.blank s
  obtain ⟨c, b, rfl⟩ := List.exists_cons_of_ne_nil hb.ne_nil
  have hc := caseless_ne_of_allBlank hb.blank hk c List.mem_cons_self
  rw [List.cons_append, searchWord_cons _ (hr c _ hc)] at hblank ⊢
  exact hblank

/-- Inside a word nothing is found. -/
theorem searchWord_word {p : List Char} (hp : ∀ c ∈ p, isWord c = true) (s : List Char) :
    searchWord read true (p ++ s) = searchWord read true s := by
  induction p with
  | nil => rfl
  | cons c p ih =>
    rw [List.cons_append, searchWord, if_pos rfl, hp c List.mem_cons_self]
    exact ih fun d hd => hp d (List.mem_cons_of_mem _ hd)

end Skip

theorem needsHead_phrase? {k : Char} {kw : List Char} {kws : List (List Char)} :
    NeedsHead k (phrase? ((k :: kw) :: kws)) := by
  intro c s hc
  cases kws with
  | nil => rw [phrase?, keyword?, if_neg hc]
  | cons kw' kws =>
    change (keyword? (k :: kw) (c :: s)).bind _ = none
    rw [keyword?, if_neg hc]
    rfl

end SchemaAtlas.Text
