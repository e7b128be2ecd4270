import SchemaAtlas.Proofs.Layout.Exact
import Mathlib.Tactic.Ring

/-! # Where bands put the centres

Every node lies within the band of its layer, bands keep their distance, and so do the nodes
of a layer among each other. A layer reaches equally far to both sides of the common line.
-/
namespace SchemaAtlas.Layout

variable {s : Settings ℚ} {size : Value → Pair ℚ}

theorem map_fst_stacked (line cursor : ℚ) (layer : List Value) :
    (stacked s size line cursor layer).map (·.1) = layer := by
  induction layer generalizing cursor with
  | nil => rfl
  | cons u rest ih => rw [stacked, List.map_cons, ih]

theorem line_of_mem_stacked {line cursor : ℚ} {layer : List Value} {p : Spot ℚ}
    (h : p ∈ stacked s size line cursor layer) : p.2.x = line := by
  induction layer generalizing cursor with
  | nil => exact absurd h List.not_mem_nil
  | cons u rest ih =>
    rcases List.mem_cons.mp h with rfl | h
    · rfl
    · exact ih h

theorem extent_singleton (u : Value) : extent s size [u] = (size u).y := by
  simp [extent]

theorem extent_cons_cons (u v : Value) (rest : List Value) :
    extent s size (u :: v :: rest) = (size u).y + s.nodeSep + extent s size (v :: rest) := by
  simp only [extent, List.map_cons, List.sum_cons, List.length_cons]
  push_cast
  ring

/-- The first node of a stack begins and the last one ends where the stack does. -/
theorem ends_of_stacked (s : Settings ℚ) (size : Value → Pair ℚ) (line cursor : ℚ) (u : Value) (rest : List Value) :
    (∃ p ∈ stacked s size line cursor (u :: rest), p.2.y - (size p.1).y / 2 = cursor) ∧
      ∃ p ∈ stacked s size line cursor (u :: rest),
        p.2.y + (size p.1).y / 2 = cursor + extent s size (u :: rest) := by
  refine ⟨⟨_, List.mem_cons_self, by simp⟩, ?_⟩
  induction rest generalizing u cursor with
  | nil =>
    refine ⟨_, List.mem_cons_self, ?_⟩
    rw [extent_singleton]
    ring
  | cons v rest ih =>
    obtain ⟨p, hp, hend⟩ := ih (cursor + ((size u).y + s.nodeSep)) v
    refine ⟨p, List.mem_cons_of_mem _ hp, ?_⟩
    rw [hend, extent_cons_cons]
    ring

section Stack
variable (hsep : 0 ≤ s.nodeSep) (hy : ∀ u, 0 ≤ (size u).y)
include hsep hy

theorem extent_nonneg (u : Value) (rest : List Value) : 0 ≤ extent s size (u :: rest) := by
  induction rest generalizing u with
  | nil =>
    rw [extent_singleton]
    exact hy u
  | cons v rest ih =>
    have hu := hy u
    have hv := ih v
    rw [extent_cons_cons]
    linarith

theorem bounds_of_mem_stacked {line cursor : ℚ} {layer : List Value} {p : Spot ℚ}
    (h : p ∈ stacked s size line cursor layer) :
    cursor ≤ p.2.y - (size p.1).y / 2 ∧
      p.2.y + (size p.1).y / 2 ≤ cursor + extent s size layer := by
  induction layer generalizing cursor with
  | nil => exact absurd h List.not_mem_nil
  | cons u rest ih =>
    have hu := hy u
    cases rest with
    | nil =>
      rw [List.mem_singleton.mp h, extent_singleton]
      constructor <;> dsimp only <;> linarith
    | cons v rest =>
      have hrest := extent_nonneg hsep hy v rest
      rw [extent_cons_cons]
      rcases List.mem_cons.mp h with rfl | h
      · constructor <;> dsimp only <;> linarith
      · obtain ⟨hlow, hhigh⟩ := ih h
        constructor <;> linarith

theorem pairwise_stacked (line cursor : ℚ) (layer : List Value) :
    (stacked s size line cursor layer).Pairwise fun p q =>
      p.2.y + (size p.1).y / 2 + s.nodeSep ≤ q.2.y - (size q.1).y / 2 := by
  induction layer generalizing cursor with
  | nil => exact List.Pairwise.nil
  | cons u rest ih =>
    refine List.pairwise_cons.mpr ⟨fun q hq => ?_, ih _⟩
    have hlow := (bounds_of_mem_stacked hsep hy hq).1
    dsimp only
    linarith

end Stack

theorem le_foldl_max {α : Type} [LinearOrder α] {x y : α} {l : List α} (h : y = x ∨ y ∈ l) :
    y ≤ l.foldl max x := by
  induction l generalizing x y with
  | nil => exact (h.resolve_right List.not_mem_nil).le
  | cons z l ih =>
    have hstart : max x z ≤ l.foldl max (max x z) := ih (.inl rfl)
    rcases h with rfl | h
    · exact (le_max_left _ _).trans hstart
    · rcases List.mem_cons.mp h with rfl | h
      · exact (le_max_right _ _).trans hstart
      · exact ih (.inr h)

theorem le_depth (size : Value → Pair ℚ) {layer : List Value} {u : Value} (h : u ∈ layer) :
    (size u).x ≤ depth size layer := by
  cases layer with
  | nil => exact absurd h List.not_mem_nil
  | cons v rest =>
    refine le_foldl_max ?_
    rcases List.mem_cons.mp h with rfl | h
    · exact .inl rfl
    · exact .inr (List.mem_map_of_mem h)

theorem map_fst_band (s : Settings ℚ) (size : Value → Pair ℚ) (start : ℚ) (layer : List Value) :
    (band s size start layer).map (·.1) = layer :=
  map_fst_stacked _ _ layer

theorem map_fst_bands (s : Settings ℚ) (size : Value → Pair ℚ) (start : ℚ) (layers : List (List Value)) :
    (bands s size start layers).map (·.1) = layers.flatten := by
  induction layers generalizing start with
  | nil => rfl
  | cons layer rest ih =>
    rw [bands, List.map_append, ih, map_fst_band, List.flatten_cons]

theorem fst_mem_of_mem_band {start : ℚ} {layer : List Value} {p : Spot ℚ}
    (h : p ∈ band s size start layer) : p.1 ∈ layer := by
  rw [← map_fst_band s size start layer]
  exact List.mem_map_of_mem h

theorem exists_mem_band (s : Settings ℚ) (size : Value → Pair ℚ) (start : ℚ) {layer : List Value} {u : Value} (h : u ∈ layer) :
    ∃ c, (u, c) ∈ band s size start layer := by
  rw [← map_fst_band s size start layer] at h
  obtain ⟨⟨v, c⟩, hp, rfl⟩ := List.mem_map.mp h
  exact ⟨c, hp⟩

theorem exists_band (s : Settings ℚ) (size : Value → Pair ℚ) (start : ℚ) {layers : List (List Value)} {layer : List Value}
    (h : layer ∈ layers) :
    ∃ start', ∀ p ∈ band s size start' layer, p ∈ bands s size start layers := by
  induction layers generalizing start with
  | nil => exact absurd h List.not_mem_nil
  | cons first rest ih =>
    rcases List.mem_cons.mp h with rfl | h
    · exact ⟨start, fun p hp => List.mem_append_left _ hp⟩
    · obtain ⟨start', hsub⟩ := ih (nextBand s size start first) h
      exact ⟨start', fun p hp => List.mem_append_right _ (hsub p hp)⟩

section Bands
variable (hsep : 0 ≤ s.rankSep) (hx : ∀ u, 0 ≤ (size u).x)
include hsep hx

theorem le_nextBand (start : ℚ) (layer : List Value) : start ≤ nextBand s size start layer := by
  cases layer with
  | nil => exact le_rfl
  | cons u rest =>
    have hdepth := (hx u).trans (le_depth size (List.mem_cons_self (a := u) (l := rest)))
    rw [nextBand]
    linarith

omit hsep hx in
theorem bounds_of_mem_band {start : ℚ} {layer : List Value} {p : Spot ℚ}
    (h : p ∈ band s size start layer) :
    start ≤ p.2.x - (size p.1).x / 2 ∧
      p.2.x + (size p.1).x / 2 + s.rankSep ≤ nextBand s size start layer := by
  have hmem := fst_mem_of_mem_band h
  have hdepth := le_depth size hmem
  have hline := line_of_mem_stacked h
  cases layer with
  | nil => exact absurd hmem List.not_mem_nil
  | cons u rest =>
    rw [nextBand, hline]
    constructor <;> linarith

theorem le_of_mem_bands {start : ℚ} {layers : List (List Value)} {p : Spot ℚ}
    (h : p ∈ bands s size start layers) : start ≤ p.2.x - (size p.1).x / 2 := by
  induction layers generalizing start with
  | nil => exact absurd h List.not_mem_nil
  | cons layer rest ih =>
    rcases List.mem_append.mp h with h | h
    · exact (bounds_of_mem_band h).1
    · exact (le_nextBand hsep hx start layer).trans (ih h)

/-- The bands keep the gap between them. -/
theorem pairwise_bands {centre : Value → Pair ℚ} {start : ℚ} {layers : List (List Value)}
    (hc : ∀ p ∈ bands s size start layers, centre p.1 = p.2) :
    layers.Pairwise fun A B => ∀ u ∈ A, ∀ v ∈ B,
      (centre u).x + (size u).x / 2 + s.rankSep ≤ (centre v).x - (size v).x / 2 := by
  induction layers generalizing start with
  | nil => exact List.Pairwise.nil
  | cons layer rest ih =>
    have hrest : ∀ p ∈ bands s size (nextBand s size start layer) rest, centre p.1 = p.2 :=
      fun p hp => hc p (List.mem_append_right _ hp)
    refine List.pairwise_cons.mpr ⟨fun B hB u hu v hv => ?_, ih hrest⟩
    obtain ⟨c, hp⟩ := exists_mem_band s size start hu
    obtain ⟨start', hsub⟩ := exists_band s size (nextBand s size start layer) hB
    obtain ⟨d, hq⟩ := exists_mem_band s size start' hv
    rw [hc _ (List.mem_append_left _ hp), hrest _ (hsub _ hq)]
    exact (bounds_of_mem_band hp).2.trans (le_of_mem_bands hsep hx (hsub _ hq))

end Bands

section Layer
variable (hsep : 0 ≤ s.nodeSep) (hy : ∀ u, 0 ≤ (size u).y) {centre : Value → Pair ℚ} {start : ℚ}
  {layers : List (List Value)} (hc : ∀ p ∈ bands s size start layers, centre p.1 = p.2)
include hsep hy hc

theorem pairwise_layer {layer : List Value} (h : layer ∈ layers) :
    layer.Pairwise fun u v =>
      (centre u).y + (size u).y / 2 + s.nodeSep ≤ (centre v).y - (size v).y / 2 := by
  obtain ⟨start', hsub⟩ := exists_band s size start h
  have hband := pairwise_stacked hsep hy (start' + depth size layer / 2)
    (-extent s size layer / 2) layer
  rw [← map_fst_band s size start' layer]
  refine List.pairwise_map.mpr (hband.imp_of_mem fun hp hq hpq => ?_)
  rwa [hc _ (hsub _ hp), hc _ (hsub _ hq)]

/-- A layer reaches as far above the common line as below. -/
theorem centred_layer {layer : List Value} (h : layer ∈ layers) (hne : layer ≠ []) :
    ∃ reach, (∀ u ∈ layer, -reach ≤ (centre u).y - (size u).y / 2 ∧
        (centre u).y + (size u).y / 2 ≤ reach) ∧
      (∃ u ∈ layer, (centre u).y - (size u).y / 2 = -reach) ∧
      ∃ u ∈ layer, (centre u).y + (size u).y / 2 = reach := by
  obtain ⟨start', hsub⟩ := exists_band s size start h
  refine ⟨extent s size layer / 2, fun u hu => ?_, ?_, ?_⟩
  · obtain ⟨c, hp⟩ := exists_mem_band s size start' hu
    obtain ⟨hlow, hhigh⟩ := bounds_of_mem_stacked hsep hy hp
    rw [hc _ (hsub _ hp)]
    constructor <;> linarith
  all_goals
    obtain ⟨u, rest, rfl⟩ := List.exists_cons_of_ne_nil hne
    obtain ⟨⟨p, hp, hlow⟩, q, hq, hhigh⟩ := ends_of_stacked s size
      (start' + depth size (u :: rest) / 2) (-extent s size (u :: rest) / 2) u rest
  · refine ⟨p.1, fst_mem_of_mem_band hp, ?_⟩
    rw [hc _ (hsub _ hp), hlow]
    ring
  · refine ⟨q.1, fst_mem_of_mem_band hq, ?_⟩
    rw [hc _ (hsub _ hq), hhigh]
    ring

end Layer

end SchemaAtlas.Layout
