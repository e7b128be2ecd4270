import SchemaAtlas.Proofs.Faults
import SchemaAtlas.Terminal.Markup
import SchemaAtlas.Terminal.Wrap

/-! # Styles of lines

Breaking a line puts no style on what was without it: the lines of a text have styles of the text
only, so they can be shown if the text could be shown as one line.
-/
namespace SchemaAtlas.Terminal

/-- All styles of a line are of some kind. -/
def Line.StyledBy (p : List Char → Prop) (l : Line) : Prop :=
  ∀ s ∈ l.spans, p s.style

namespace Line.StyledBy

variable {p q : List Char → Prop} {l : Line}

theorem mono (h : l.StyledBy p) (hpq : ∀ style, p style → q style) : l.StyledBy q :=
  fun s hs => hpq s.style (h s hs)

theorem slice (h : l.StyledBy p) (start stop : Nat) : (l.slice start stop).StyledBy p := by
  intro s hs
  obtain ⟨t, ht, hts⟩ := List.mem_filterMap.mp hs
  dsimp only at hts
  split at hts
  · obtain rfl := Option.some.inj hts
    exact h t ht
  · cases hts

theorem slicesFrom (h : l.StyledBy p) (start : Nat) (cuts : List Nat) :
    ∀ m ∈ l.slicesFrom start cuts, m.StyledBy p := by
  induction cuts generalizing start with
  | nil => simpa [Line.slicesFrom] using h.slice _ _
  | cons cut cuts ih =>
    intro m hm
    rcases List.mem_cons.mp hm with rfl | hm
    · exact h.slice _ _
    · exact ih cut m hm

theorem cutAt (h : l.StyledBy p) (cuts : List Nat) : ∀ m ∈ l.cutAt cuts, m.StyledBy p := by
  unfold Line.cutAt
  split
  · simpa using h
  · exact h.slicesFrom 0 cuts

theorem append {m : Line} (h : l.StyledBy p) (hm : m.StyledBy p) : (l.append m).StyledBy p := by
  intro s hs
  rcases List.mem_append.mp hs with hs | hs
  · exact h s hs
  · obtain ⟨t, ht, rfl⟩ := List.mem_map.mp hs
    exact hm t ht

theorem withChars (h : l.StyledBy p) (s : List Char) : (l.withChars s).StyledBy p := by
  intro t ht
  unfold Line.withChars at ht
  dsimp only at ht
  split at ht
  · exact h t ht
  · obtain ⟨u, hu, rfl⟩ := List.mem_map.mp ht
    exact h u (List.mem_filter.mp hu).1

theorem extend (h : l.StyledBy p) (blanks : Nat) : (l.extend blanks).StyledBy p := by
  intro s hs
  obtain ⟨t, ht, rfl⟩ := List.mem_map.mp hs
  split <;> exact h t ht

theorem joinParts (h : l.StyledBy p) (used : Nat) {parts : List Line}
    (hp : ∀ m ∈ parts, m.StyledBy p) : (joinParts used l parts).StyledBy p := by
  induction parts generalizing used l with
  | nil => exact h
  | cons part rest ih =>
    have hpart := hp part List.mem_cons_self
    exact ih (h.append ((hpart.withChars _).extend _)) _
      fun m hm => hp m (List.mem_cons_of_mem _ hm)

theorem expandTabs (h : l.StyledBy p) : (expandTabs l).StyledBy p := by
  unfold Terminal.expandTabs
  split
  · exact h
  · have hnone : (⟨[], []⟩ : Line).StyledBy p := by simp [StyledBy]
    exact hnone.joinParts 0 (h.cutAt _)

theorem textLines (h : l.StyledBy p) : ∀ m ∈ textLines l, m.StyledBy p := by
  unfold Terminal.textLines
  split
  · simpa using h
  · intro m hm
    rw [← List.map_uncurry_zip_eq_zipWith] at hm
    obtain ⟨p, _, rfl⟩ := List.mem_map.mp hm
    exact h.slice _ _

theorem truncate (h : l.StyledBy p) (overflow : Overflow) (width : Nat) :
    (truncate overflow width l).StyledBy p := by
  unfold Terminal.truncate
  split
  · exact h
  · cases overflow <;> exact h.withChars _

theorem wrapped (h : l.StyledBy p) (overflow : Overflow) (width : Nat) :
    ∀ m ∈ wrapped overflow width l, m.StyledBy p := by
  intro m hm
  obtain ⟨line, hline, hm⟩ := List.mem_flatMap.mp hm
  obtain ⟨part, hpart, rfl⟩ := List.mem_map.mp hm
  have hstyled := (h.textLines line hline).expandTabs.cutAt _ part hpart
  exact (hstyled.withChars _).truncate overflow width

end Line.StyledBy

/-- A text that can be read as the name of a style. -/
def IsStyleName (name : List Char) : Prop :=
  ∃ style?, namedStyle? name = .ok style?

theorem Line.check_eq_ok {l : Line} : l.check = .ok () ↔ l.StyledBy IsStyleName := by
  rw [check, forM_eq_ok]
  refine forall₂_congr fun s _ => ?_
  cases h : namedStyle? s.style with
  | ok style => simp [IsStyleName, h, discard, Functor.discard, Functor.mapConst, Except.map]
  | error e => simp [IsStyleName, h, discard, Functor.discard, Functor.mapConst, Except.map]

end SchemaAtlas.Terminal
