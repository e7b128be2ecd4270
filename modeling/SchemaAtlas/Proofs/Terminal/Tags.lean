import Mathlib.Data.List.InsertIdx
import Mathlib.Data.List.TakeWhile
import SchemaAtlas.Proofs.Terminal.Markings

/-! # Texts with the same tags

Which tags a text has is a matter of its brackets and of the backslashes before them, and which
styles it shows is a matter of its tags. What stands between them only says where they apply.
-/
namespace SchemaAtlas.Terminal

/-- The tag that a piece is. -/
def Piece.tag? : Piece → Option (List Char)
  | .plain _ => none
  | .tag s => some s

def tagsFrom (read : List Char) (slashes passed : Nat) (s : List Char) : List (List Char) :=
  (piecesFrom read slashes passed s).filterMap Piece.tag?

def tags (s : List Char) : List (List Char) :=
  (markupPieces s).filterMap Piece.tag?

section Tags

variable {s t : List Char}

theorem filterMap_tag?_plainPiece (s : List Char) : (plainPiece s).filterMap Piece.tag? = [] := by
  unfold plainPiece
  split <;> rfl

theorem tagsFrom_nil (read : List Char) (slashes passed : Nat) :
    tagsFrom read slashes passed [] = [] := by
  rw [tagsFrom, piecesFrom, filterMap_tag?_plainPiece]

theorem tagsFrom_of_not_mem (h : '[' ∉ s) (read : List Char) (slashes passed : Nat) :
    tagsFrom read slashes passed s = [] := by
  refine List.filterMap_eq_nil_iff.mpr fun p hp => ?_
  obtain ⟨_, rfl⟩ := isPlain_of_mem_piecesFrom h read slashes passed p hp
  rfl

/-- The plain text before a tag does not matter for it. -/
theorem tagsFrom_read (read : List Char) (slashes passed : Nat) (s : List Char) :
    tagsFrom read slashes passed s = tagsFrom [] slashes passed s := by
  induction s generalizing read slashes passed with
  | nil => rw [tagsFrom_nil, tagsFrom_nil]
  | cons c rest ih =>
    cases passed with
    | succ passed => exact ih read slashes passed
    | zero =>
      have hall (more : List Char) : tagsFrom more 0 0 rest = tagsFrom [] 0 0 rest := ih more 0 0
      unfold tagsFrom piecesFrom
      split
      · exact ih read _ _
      · split
        · exact (hall _).trans (hall _).symm
        · split
          · exact (hall _).trans (hall _).symm
          · simp only [List.filterMap_append, filterMap_tag?_plainPiece]

theorem tagsFrom_append_left (hopen : '[' ∉ t) (hslash : '\\' ∉ t) (read s : List Char) :
    tagsFrom read 0 0 (t ++ s) = tagsFrom [] 0 0 s := by
  induction t generalizing read with
  | nil => exact tagsFrom_read read 0 0 s
  | cons c t ih =>
    obtain ⟨hc, hopen⟩ := not_or.mp (mt List.mem_cons.mpr hopen)
    obtain ⟨hc', hslash⟩ := not_or.mp (mt List.mem_cons.mpr hslash)
    rw [← ih hopen hslash (c :: (List.replicate 0 '\\' ++ read)), List.cons_append, tagsFrom,
      piecesFrom, if_neg (Ne.symm hc'), if_pos (Ne.symm hc), tagsFrom]

theorem tagAhead?_append (hopen : '[' ∉ t) (hclose : ']' ∉ t) (s : List Char) :
    tagAhead? (s ++ t) = tagAhead? s := by
  have hinside : t.takeWhile (fun c => c ≠ '[' && c ≠ ']') = t := by
    refine List.takeWhile_eq_self_iff.mpr fun c hc => ?_
    have hc' : c ≠ '[' ∧ c ≠ ']' :=
      ⟨fun h => hopen (h ▸ hc), fun h => hclose (h ▸ hc)⟩
    simpa using hc'
  unfold tagAhead?
  dsimp only
  rw [List.takeWhile_append]
  split
  · next hall =>
    have hs : s.takeWhile (fun c => c ≠ '[' && c ≠ ']') = s :=
      (List.takeWhile_prefix _).eq_of_length hall
    rw [hinside, hs, List.drop_length, List.drop_length]
    simp
  · next hsome =>
    have hlt : (s.takeWhile fun c => c ≠ '[' && c ≠ ']').length < s.length :=
      Nat.lt_of_le_of_ne (List.takeWhile_prefix _).length_le hsome
    rw [List.drop_append_of_le_length (Nat.le_of_lt hlt), List.head?_append_of_ne_nil]
    simpa using hlt

theorem tagsFrom_append_right (hopen : '[' ∉ t) (hclose : ']' ∉ t) (read : List Char)
    (slashes passed : Nat) (s : List Char) :
    tagsFrom read slashes passed (s ++ t) = tagsFrom read slashes passed s := by
  induction s generalizing read slashes passed with
  | nil => rw [List.nil_append, tagsFrom_of_not_mem hopen, tagsFrom_nil]
  | cons c rest ih =>
    cases passed with
    | succ passed => exact ih read slashes passed
    | zero =>
      rw [List.cons_append]
      unfold tagsFrom piecesFrom
      rw [tagAhead?_append hopen hclose]
      split
      · exact ih read _ _
      · split
        · exact ih _ 0 0
        · split
          · exact ih _ 0 0
          · simp only [List.filterMap_append]
            exact congrArg _ (ih [] 0 _)

/-- A text has the tags of the part of it outside of which there are no brackets. -/
theorem tags_append {before after : List Char} (hbefore : '[' ∉ before) (hslash : '\\' ∉ before)
    (hopen : '[' ∉ after) (hclose : ']' ∉ after) (s : List Char) :
    tags (before ++ (s ++ after)) = tags s :=
  (tagsFrom_append_left hbefore hslash [] _).trans (tagsFrom_append_right hopen hclose [] 0 0 s)

end Tags

def OpenTag.style (t : OpenTag) : List Char :=
  (t.closedAt 0).style

/-- What a tag says, wherever it has been opened. -/
def OpenTag.label (t : OpenTag) : List Char × Option (List Char) :=
  (t.name, t.parameters?)

theorem OpenTag.style_eq_of_label {t u : OpenTag} (h : t.label = u.label) : t.style = u.style := by
  obtain ⟨start, name, parameters?⟩ := t
  obtain ⟨start', name', parameters'?⟩ := u
  obtain ⟨rfl, rfl⟩ := Prod.mk.inj h
  rfl

namespace Marking

/-- Markings with the same tags, wherever they apply. -/
structure Alike (m n : Marking) : Prop where
  closed : m.closed.map Span.style = n.closed.map Span.style
  opened : m.opened.map OpenTag.label = n.opened.map OpenTag.label

def stepTag (m : Marking) (tag : List Char) : Except MarkupError Marking :=
  m.step (.tag tag)

namespace Alike

variable {m n m' n' : Marking}

theorem refl (m : Marking) : m.Alike m :=
  ⟨rfl, rfl⟩

theorem symm (h : m.Alike n) : n.Alike m :=
  ⟨h.closed.symm, h.opened.symm⟩

theorem withChars (h : m.Alike n) (chars : List Char) : ({ m with chars } : Marking).Alike n :=
  ⟨h.closed, h.opened⟩

theorem place?_eq (h : m.Alike n) (name : List Char) : m.place? name = n.place? name := by
  have hempty : m.opened.isEmpty = n.opened.isEmpty := by
    rw [← List.isEmpty_map (f := OpenTag.label), h.opened, List.isEmpty_map]
  have hfind (name : List Char) : (m.opened.findIdx? fun o => o.name = name) =
      n.opened.findIdx? fun o => o.name = name := by
    have hlabels := congrArg (List.findIdx? fun l => l.1 = name) h.opened
    rwa [List.findIdx?_map, List.findIdx?_map] at hlabels
  unfold place?
  rw [hempty]
  simp only [hfind]

theorem close (h : m.Alike n) {name tag : List Char} (hm : m.close name tag = .ok m') :
    ∃ n', n.close name tag = .ok n' ∧ m'.Alike n' := by
  obtain ⟨i, found, hplace, hfound, hgood, rfl⟩ := close_eq_ok.mp hm
  have hlabel : n.opened[i]?.map OpenTag.label = some found.label := by
    rw [← List.getElem?_map, ← h.opened, List.getElem?_map, hfound, Option.map_some]
  obtain ⟨other, hother, hsame⟩ := Option.map_eq_some_iff.mp hlabel
  obtain ⟨hname, hparameters⟩ := Prod.mk.inj hsame
  have hgood' : (other.isAction && !isReadable (other.parameters?.getD [])) = false := by
    rw [OpenTag.isAction, hname, hparameters]
    exact hgood
  rw [h.place?_eq] at hplace
  refine ⟨_, close_eq_ok.mpr ⟨i, other, hplace, hother, hgood', rfl⟩, ?_, ?_⟩
  · have hstyle : found.style = other.style := OpenTag.style_eq_of_label hsame.symm
    exact congrArg₂ List.cons hstyle h.closed
  · rw [← List.eraseIdx_map, h.opened, List.eraseIdx_map]

theorem stepTag (h : m.Alike n) {tag : List Char} (hm : m.stepTag tag = .ok m') :
    ∃ n', n.stepTag tag = .ok n' ∧ m'.Alike n' := by
  unfold Marking.stepTag Marking.step at hm ⊢
  dsimp only at hm ⊢
  split at hm
  · exact h.close hm
  · next name parameters? _ =>
    obtain ⟨opened, hopened, hm⟩ := bind_eq_ok.mp hm
    obtain rfl := Except.ok.inj hm
    rw [hopened, ok_bind]
    exact ⟨_, rfl, h.closed, congrArg₂ List.cons rfl h.opened⟩

/-- Reading a text opens and closes what its tags do. -/
theorem tags (h : m.Alike n) {pieces : List Piece} (hm : pieces.foldlM step m = .ok m') :
    ∃ n', (pieces.filterMap Piece.tag?).foldlM Marking.stepTag n = .ok n' ∧ m'.Alike n' := by
  induction pieces generalizing m n with
  | nil =>
    obtain rfl := Except.ok.inj hm
    exact ⟨n, rfl, h⟩
  | cons p pieces ih =>
    rw [List.foldlM_cons] at hm
    obtain ⟨m₁, hm₁, hrest⟩ := bind_eq_ok.mp hm
    cases p with
    | plain s =>
      obtain rfl := Except.ok.inj hm₁
      exact ih (h.withChars _) hrest
    | tag tag =>
      obtain ⟨n₁, hn₁, h₁⟩ := h.stepTag hm₁
      obtain ⟨n', hn', h'⟩ := ih h₁ hrest
      refine ⟨n', ?_, h'⟩
      change (tag :: pieces.filterMap Piece.tag?).foldlM Marking.stepTag n = .ok n'
      rw [List.foldlM_cons, hn₁, ok_bind, hn']

theorem of_tags (h : n.Alike m) {pieces : List Piece}
    (hn : (pieces.filterMap Piece.tag?).foldlM Marking.stepTag n = .ok n') :
    ∃ m', pieces.foldlM step m = .ok m' ∧ n'.Alike m' := by
  induction pieces generalizing m n with
  | nil =>
    obtain rfl := Except.ok.inj hn
    exact ⟨m, rfl, h⟩
  | cons p pieces ih =>
    rw [List.foldlM_cons]
    cases p with
    | plain s => exact ih (h.symm.withChars _).symm hn
    | tag tag =>
      change (tag :: pieces.filterMap Piece.tag?).foldlM Marking.stepTag n = .ok n' at hn
      rw [List.foldlM_cons] at hn
      obtain ⟨n₁, hn₁, hrest⟩ := bind_eq_ok.mp hn
      obtain ⟨m₁, hm₁, h₁⟩ := h.stepTag hn₁
      obtain ⟨m', hm', h'⟩ := ih h₁ hrest
      refine ⟨m', ?_, h'⟩
      change (m.stepTag tag >>= fun m => pieces.foldlM step m) = .ok m'
      rw [hm₁, ok_bind, hm']

end Alike

theorem styledBy_line {m : Marking} {p : List Char → Prop} : m.line.StyledBy p ↔
    (∀ style ∈ m.closed.map Span.style, p style) ∧ ∀ t ∈ m.opened, p t.style := by
  simp only [Line.StyledBy, line, List.mem_mergeSort, List.mem_append, List.mem_map,
    List.mem_reverse]
  constructor
  · intro h
    refine ⟨?_, fun t ht => ?_⟩
    · rintro style ⟨s, hs, rfl⟩
      exact h s (.inr hs)
    · exact h (t.closedAt m.chars.length) (.inl ⟨t, ht, rfl⟩)
  · rintro ⟨hclosed, hopened⟩ s (⟨t, ht, rfl⟩ | hs)
    · exact hopened t ht
    · exact hclosed s.style ⟨s, hs, rfl⟩

theorem Alike.styledBy_line {m n : Marking} {p : List Char → Prop} (h : m.Alike n)
    (hm : m.line.StyledBy p) : n.line.StyledBy p := by
  obtain ⟨hclosed, hopened⟩ := Marking.styledBy_line.mp hm
  refine Marking.styledBy_line.mpr ⟨h.closed ▸ hclosed, fun t ht => ?_⟩
  have hlabel : t.label ∈ m.opened.map OpenTag.label := h.opened ▸ List.mem_map_of_mem ht
  obtain ⟨u, hu, hut⟩ := List.mem_map.mp hlabel
  exact OpenTag.style_eq_of_label hut ▸ hopened u hu

end Marking

/-- Texts with the same tags show the same styles. -/
theorem marked_of_tags {s t : List Char} {l : Line} {p : List Char → Prop} (h : tags s = tags t)
    (hs : marked s = .ok l) (hl : l.StyledBy p) : ∃ l', marked t = .ok l' ∧ l'.StyledBy p := by
  obtain ⟨m, hm, hline⟩ := bind_eq_ok.mp hs
  obtain rfl := Except.ok.inj hline
  obtain ⟨m', hm', h'⟩ := (Marking.Alike.refl {}).tags hm
  change (tags s).foldlM Marking.stepTag {} = .ok m' at hm'
  rw [h] at hm'
  obtain ⟨n, hn, hmn⟩ := (Marking.Alike.refl {}).of_tags hm'
  refine ⟨n.line, ?_, hmn.styledBy_line (h'.styledBy_line hl)⟩
  rw [marked, hn, ok_bind]
  rfl

end SchemaAtlas.Terminal
