import SchemaAtlas.Proofs.Layout.Bands
import SchemaAtlas.Proofs.Layout.Boxes

/-! # How tables lie

Laid out exactly, no two tables overlap: those of one rank keep the gap between tables, those
of different ranks the gap between ranks, and all ranks are centred on one line. A table with a
relationship to another comes first in reading order, unless the relationship is part of a
cycle; but even then the two have different ranks.
-/
namespace SchemaAtlas.Layout
open Schema (Graph Table Relationship)

/-- No gap and no size is negative, and layers are sorted a whole number of times. -/
structure Settings.IsNonnegative (s : Settings ℚ) : Prop where
  rankSep : 0 ≤ s.rankSep
  nodeSep : 0 ≤ s.nodeSep
  nodeWidth : 0 ≤ s.nodeWidth
  headerHeight : 0 ≤ s.headerHeight
  rowHeight : 0 ≤ s.rowHeight
  sweeps : ∃ n : ℕ, s.sweeps = n

theorem Settings.IsNonnegative.exactSize {s : Settings ℚ} (hs : s.IsNonnegative) (t : Table) :
    0 ≤ (s.exactSize t).x ∧ 0 ≤ (s.exactSize t).y := by
  refine ⟨hs.nodeWidth, ?_⟩
  have hrows : 0 ≤ s.rowHeight * visibleRows t := mul_nonneg hs.rowHeight (Nat.cast_nonneg _)
  exact add_nonneg hs.headerHeight hrows

theorem mem_of_lastSpot? {α : Type} {spots : List (Spot α)} {u : Value} {p : Pair α}
    (h : lastSpot? spots u = some p) : (u, p) ∈ spots := by
  obtain ⟨q, hq, rfl⟩ := Option.map_eq_some_iff.mp h
  have hu : q.1 = u := by simpa using List.find?_some hq
  exact hu ▸ List.mem_reverse.mp (List.mem_of_find?_eq_some hq)

theorem lastSpot?_of_mem {spots : List (Spot ℚ)} (hn : (spots.map (·.1)).Nodup) {u : Value}
    {p : Pair ℚ} (h : (u, p) ∈ spots) : lastSpot? spots u = some p := by
  have hsome : (lastSpot? spots u).isSome := by
    rw [lastSpot?, Option.isSome_map, List.find?_isSome]
    exact ⟨(u, p), List.mem_reverse.mpr h, by simp⟩
  obtain ⟨q, hq⟩ := Option.isSome_iff_exists.mp hsome
  have hsame := List.inj_on_of_nodup_map hn (mem_of_lastSpot? hq) h rfl
  rw [hq, (Prod.mk.inj hsame).2]

theorem Settings.IsNonnegative.axialSize {s : Settings ℚ} (hs : s.IsNonnegative) (g : Graph)
    (u : Value) : 0 ≤ (axialSize s g u).x ∧ 0 ≤ (axialSize s g u).y := by
  have hsize : 0 ≤ (sizeOf s g u).x ∧ 0 ≤ (sizeOf s g u).y := by
    rw [sizeOf]
    cases hp : lastSpot? (g.tables.map fun t => (t.key, s.exactSize t)) u with
    | none => exact ⟨le_rfl, le_rfl⟩
    | some p =>
      obtain ⟨t, _, ht⟩ := List.mem_map.mp (mem_of_lastSpot? hp)
      rw [Option.getD_some, ← (Prod.mk.inj ht).2]
      exact hs.exactSize t
  rw [Layout.axialSize, Pair.turn]
  split
  · exact hsize
  · exact hsize.symm

theorem foldl_min_le {x y : ℚ} {l : List ℚ} (h : y = x ∨ y ∈ l) : l.foldl min x ≤ y :=
  le_foldl_max (α := ℚᵒᵈ) h

theorem foldl_min_mem (x : ℚ) (l : List ℚ) : l.foldl min x = x ∨ l.foldl min x ∈ l := by
  induction l generalizing x with
  | nil => exact .inl rfl
  | cons z l ih =>
    rw [List.foldl_cons]
    rcases ih (min x z) with h | h
    · rw [h]
      rcases min_choice x z with hx | hz
      · exact .inl hx
      · rw [hz]
        exact .inr List.mem_cons_self
    · exact .inr (List.mem_cons_of_mem _ h)

/-- The least coordinates are those of some spots and at most those of all. -/
theorem exactLeast_spec {spots : List (Spot ℚ)} (hne : spots ≠ []) :
    ((∀ p ∈ spots, (exactLeast spots).x ≤ p.2.x) ∧ ∃ p ∈ spots, p.2.x = (exactLeast spots).x) ∧
      (∀ p ∈ spots, (exactLeast spots).y ≤ p.2.y) ∧
        ∃ p ∈ spots, p.2.y = (exactLeast spots).y := by
  obtain ⟨q, rest, rfl⟩ := List.exists_cons_of_ne_nil hne
  have hleast : ∀ f : Pair ℚ → ℚ,
      (∀ p ∈ q :: rest, ((rest.map (·.2)).map f).foldl min (f q.2) ≤ f p.2) ∧
        ∃ p ∈ q :: rest, f p.2 = ((rest.map (·.2)).map f).foldl min (f q.2) := by
    intro f
    constructor
    · intro p hp
      refine foldl_min_le ?_
      rcases List.mem_cons.mp hp with rfl | hp
      · exact .inl rfl
      · exact .inr (List.mem_map_of_mem (List.mem_map_of_mem hp))
    · rcases foldl_min_mem (f q.2) ((rest.map (·.2)).map f) with h | h
      · exact ⟨q, List.mem_cons_self, h.symm⟩
      · obtain ⟨_, hc, hf⟩ := List.mem_map.mp h
        obtain ⟨p, hp, rfl⟩ := List.mem_map.mp hc
        exact ⟨p, List.mem_cons_of_mem _ hp, hf⟩
  exact ⟨hleast Pair.x, hleast Pair.y⟩

theorem or_of_pairwise {α : Type} {R : α → α → Prop} {l : List α} (h : l.Pairwise R) {a b : α}
    (ha : a ∈ l) (hb : b ∈ l) (hne : a ≠ b) : R a b ∨ R b a := by
  have hor : l.Pairwise fun a b => R a b ∨ R b a := h.imp Or.inl
  have hsymm : Std.Symm fun a b => R a b ∨ R b a := ⟨fun _ _ => Or.symm⟩
  exact hor.forall ha hb hne

/-- What laying a graph out gives its tables: the rank and the box of each. -/
structure IsLayout (s : Settings ℚ) (g : Graph) (rank : Table → Nat) (box : Table → Box) :
    Prop where
  ranks : ∃ ranks, ranksOf g (acyclicGraphOf g) = .ok ranks ∧
    ∀ t ∈ g.tables, rank t = ranks.of t.key
  sizes : ∀ t ∈ g.tables, s.nodeSize t = .ok (box t).size
  corners : place s g = .ok (g.tables.map fun t => (box t).corner)

/-- Tables with ranks and boxes keep their distance, are centred by rank on one line and begin
at the origin. -/
structure IsArranged (s : Settings ℚ) (tables : List Table) (rank : Table → Nat)
    (box : Table → Box) : Prop where
  disjoint : ∀ t ∈ tables, ∀ u ∈ tables, t ≠ u → ∀ p, ¬ ((box t).Interior p ∧ (box u).Interior p)
  beside : ∀ t ∈ tables, ∀ u ∈ tables, t ≠ u → rank t = rank u →
    (box t).crossEnd s.direction + s.nodeSep ≤ (box u).crossStart s.direction ∨
      (box u).crossEnd s.direction + s.nodeSep ≤ (box t).crossStart s.direction
  precedes : ∀ t ∈ tables, ∀ u ∈ tables, rank t < rank u →
    (box t).Precedes s.direction s.rankSep (box u)
  centred : ∃ line, ∀ t ∈ tables, ∃ reach,
    Spans s.direction ((tables.filter fun u => rank u = rank t).map box) (line - reach)
      (line + reach)
  leastX : tables ≠ [] → IsLeast ((fun t => (box t).corner.x) '' {t | t ∈ tables}) 0
  leastY : tables ≠ [] → IsLeast ((fun t => (box t).corner.y) '' {t | t ∈ tables}) 0

def centreOf (s : Settings ℚ) (g : Graph) (u : Value) : Pair ℚ :=
  (lastSpot? (exactCentres s g) u).getD ⟨0, 0⟩

def tableBox (s : Settings ℚ) (g : Graph) (t : Table) : Box :=
  boxAt s.direction (exactLeast (exactCorners s g)) (s.exactSize t) (centreOf s g t.key)

/-- The line along which the layers are centred. -/
def commonLine (s : Settings ℚ) (g : Graph) : ℚ :=
  -((exactLeast (exactCorners s g)).turn s.direction.isHorizontal).y

section Tables
variable {s : Settings ℚ} {g : Graph} (hid : ∀ t ∈ g.tables, IsNodeId t.id)
include hid

theorem isLayered_exactLayers (s : Settings ℚ) :
    Digraph.IsLayered (acyclicGraphOf g).nodes (exactRanks g).of (exactLayers s g) :=
  (isMinimalCut_acyclicGraphOf hid).acyclic.isLayered _ _ _

theorem nodup_exactCentres (s : Settings ℚ) : ((exactCentres s g).map (·.1)).Nodup := by
  rw [exactCentres, map_fst_bands]
  exact (isLayered_exactLayers hid s).nodup_flatten

theorem centreOf_fst (p : Spot ℚ) (h : p ∈ exactCentres s g) : centreOf s g p.1 = p.2 := by
  rw [centreOf, lastSpot?_of_mem (nodup_exactCentres hid s) (p := p.2) h]
  rfl

theorem mem_nodes_iff {u : Value} :
    u ∈ (acyclicGraphOf g).nodes ↔ ∃ t ∈ g.tables, t.key = u := by
  rw [(isMinimalCut_acyclicGraphOf hid).nodes]
  exact List.mem_eraseDups.trans List.mem_map

theorem mem_exactCentres {t : Table} (ht : t ∈ g.tables) :
    (t.key, centreOf s g t.key) ∈ exactCentres s g := by
  have hmem : t.key ∈ (exactCentres s g).map (·.1) := by
    rw [exactCentres, map_fst_bands]
    exact (isLayered_exactLayers hid s).mem_flatten.mpr ((mem_nodes_iff hid).mpr ⟨t, ht, rfl⟩)
  obtain ⟨p, hp, hk⟩ := List.mem_map.mp hmem
  rw [← hk, centreOf_fst hid p hp]
  exact hp

theorem rank_lt_length {t : Table} (ht : t ∈ g.tables) :
    (exactRanks g).of t.key < (exactLayers s g).length :=
  (isLayered_exactLayers hid s).lt_length _ ((mem_nodes_iff hid).mpr ⟨t, ht, rfl⟩)

/-- A layer holds the tables of its rank. -/
theorem mem_layer_iff {i : Nat} (hi : i < (exactLayers s g).length) {u : Value} :
    u ∈ (exactLayers s g)[i] ↔ ∃ t ∈ g.tables, (exactRanks g).of t.key = i ∧ t.key = u := by
  rw [(isLayered_exactLayers hid s).mem, mem_nodes_iff hid]
  constructor
  · rintro ⟨⟨t, ht, rfl⟩, hrank⟩
    exact ⟨t, ht, hrank, rfl⟩
  · rintro ⟨t, ht, hrank, rfl⟩
    exact ⟨⟨t, ht, rfl⟩, hrank⟩

variable (hd : g.tableKeys.Nodup)
include hd

omit hid in
theorem sizeOf_key {t : Table} (ht : t ∈ g.tables) : sizeOf s g t.key = s.exactSize t := by
  have hn : ((g.tables.map fun t => (t.key, s.exactSize t)).map (·.1)).Nodup := by
    rw [List.map_map]
    exact hd
  rw [sizeOf, lastSpot?_of_mem hn (List.mem_map_of_mem (f := fun t => (t.key, s.exactSize t)) ht)]
  rfl

theorem mem_exactCorners {t : Table} (ht : t ∈ g.tables) :
    (t.key, exactCorner s.direction (s.exactSize t) (centreOf s g t.key)) ∈ exactCorners s g := by
  refine List.mem_map.mpr ⟨_, mem_exactCentres hid ht, ?_⟩
  rw [sizeOf_key hd ht]

theorem exists_of_mem_exactCorners {p : Spot ℚ} (h : p ∈ exactCorners s g) :
    ∃ t ∈ g.tables, p.2 = exactCorner s.direction (s.exactSize t) (centreOf s g t.key) := by
  obtain ⟨q, hq, rfl⟩ := List.mem_map.mp h
  have hmem : q.1 ∈ (exactLayers s g).flatten := by
    rw [← map_fst_bands s (axialSize s g) 0]
    exact List.mem_map_of_mem hq
  obtain ⟨t, ht, hk⟩ := (mem_nodes_iff hid).mp ((isLayered_exactLayers hid s).mem_flatten.mp hmem)
  refine ⟨t, ht, ?_⟩
  rw [hk, centreOf_fst hid q hq, ← hk, sizeOf_key hd ht]

theorem tableBox_eq {t : Table} (ht : t ∈ g.tables) :
    tableBox s g t = ⟨exactPosition s g t, s.exactSize t⟩ := by
  have hn : ((exactCorners s g).map (·.1)).Nodup := by
    rw [exactCorners, List.map_map]
    exact nodup_exactCentres hid s
  rw [exactPosition, lastSpot?_of_mem hn (mem_exactCorners hid hd ht)]
  rfl

omit hid in
theorem crossStart_tableBox {t : Table} (ht : t ∈ g.tables) :
    (tableBox s g t).crossStart s.direction =
      (centreOf s g t.key).y - (axialSize s g t.key).y / 2 + commonLine s g := by
  rw [tableBox, crossStart_boxAt, axialSize, sizeOf_key hd ht, commonLine]
  ring

omit hid in
theorem crossEnd_tableBox {t : Table} (ht : t ∈ g.tables) :
    (tableBox s g t).crossEnd s.direction =
      (centreOf s g t.key).y + (axialSize s g t.key).y / 2 + commonLine s g := by
  rw [tableBox, crossEnd_boxAt, axialSize, sizeOf_key hd ht, commonLine]
  ring

theorem place_eq_tableBox (hsweeps : s.sweeps.den = 1) :
    place s g = .ok (g.tables.map fun t => (tableBox s g t).corner) := by
  rw [place_eq hid s hsweeps]
  refine congrArg Except.ok (List.map_congr_left fun t ht => ?_)
  rw [tableBox_eq hid hd ht]

theorem isLeast_corner (hne : g.tables ≠ []) :
    IsLeast ((fun t => (tableBox s g t).corner.x) '' {t | t ∈ g.tables}) 0 ∧
      IsLeast ((fun t => (tableBox s g t).corner.y) '' {t | t ∈ g.tables}) 0 := by
  obtain ⟨t, ht⟩ := List.exists_mem_of_ne_nil _ hne
  have hspots : exactCorners s g ≠ [] := List.ne_nil_of_mem (mem_exactCorners hid hd ht)
  obtain ⟨⟨hx, p, hp, hpx⟩, hy, q, hq, hqy⟩ := exactLeast_spec hspots
  refine ⟨⟨?_, ?_⟩, ?_, ?_⟩
  · obtain ⟨t, ht, hcorner⟩ := exists_of_mem_exactCorners hid hd hp
    exact ⟨t, ht, sub_eq_zero.mpr (hcorner ▸ hpx)⟩
  · rintro _ ⟨t, ht, rfl⟩
    exact sub_nonneg.mpr (hx _ (mem_exactCorners hid hd ht))
  · obtain ⟨t, ht, hcorner⟩ := exists_of_mem_exactCorners hid hd hq
    exact ⟨t, ht, sub_eq_zero.mpr (hcorner ▸ hqy)⟩
  · rintro _ ⟨t, ht, rfl⟩
    exact sub_nonneg.mpr (hy _ (mem_exactCorners hid hd ht))

variable (hs : s.IsNonnegative)
include hs

/-- Tables of larger rank come later in the order of reading. -/
theorem precedes_of_rank_lt {t u : Table} (ht : t ∈ g.tables) (hu : u ∈ g.tables)
    (h : (exactRanks g).of t.key < (exactRanks g).of u.key) :
    (tableBox s g t).Precedes s.direction s.rankSep (tableBox s g u) := by
  have hbands := pairwise_bands hs.rankSep (fun u => (hs.axialSize g u).1) (centreOf_fst hid)
  have hlt := rank_lt_length (s := s) hid ht
  have hlu := rank_lt_length (s := s) hid hu
  have hgap := List.pairwise_iff_getElem.mp hbands _ _ hlt hlu h
    _ ((mem_layer_iff hid hlt).mpr ⟨t, ht, rfl, rfl⟩)
    _ ((mem_layer_iff hid hlu).mpr ⟨u, hu, rfl, rfl⟩)
  rw [axialSize, axialSize, sizeOf_key hd ht, sizeOf_key hd hu] at hgap
  exact precedes_boxAt _ _ hgap

theorem beside_of_rank_eq {t u : Table} (ht : t ∈ g.tables) (hu : u ∈ g.tables) (hne : t ≠ u)
    (h : (exactRanks g).of t.key = (exactRanks g).of u.key) :
    (tableBox s g t).crossEnd s.direction + s.nodeSep ≤ (tableBox s g u).crossStart s.direction ∨
      (tableBox s g u).crossEnd s.direction + s.nodeSep ≤
        (tableBox s g t).crossStart s.direction := by
  have hlt := rank_lt_length (s := s) hid ht
  have hlayer := pairwise_layer hs.nodeSep (fun u => (hs.axialSize g u).2) (centreOf_fst hid)
    (List.getElem_mem hlt)
  have hkey : t.key ≠ u.key := fun hk => hne (List.inj_on_of_nodup_map hd ht hu hk)
  have hgap := or_of_pairwise hlayer ((mem_layer_iff hid hlt).mpr ⟨t, ht, rfl, rfl⟩)
    ((mem_layer_iff hid hlt).mpr ⟨u, hu, h.symm, rfl⟩) hkey
  rw [crossStart_tableBox hd ht, crossStart_tableBox hd hu, crossEnd_tableBox hd ht,
    crossEnd_tableBox hd hu]
  rcases hgap with hgap | hgap
  · left
    linarith
  · right
    linarith

theorem spans_of_rank {t : Table} (ht : t ∈ g.tables) :
    ∃ reach, Spans s.direction
      ((g.tables.filter fun u => (exactRanks g).of u.key = (exactRanks g).of t.key).map
        (tableBox s g))
      (commonLine s g - reach) (commonLine s g + reach) := by
  have hlt := rank_lt_length (s := s) hid ht
  have hmem := fun v => mem_layer_iff hid hlt (u := v)
  obtain ⟨reach, hbound, ⟨v, hv, hlow⟩, w, hw, hhigh⟩ := centred_layer hs.nodeSep
    (fun u => (hs.axialSize g u).2) (centreOf_fst hid) (List.getElem_mem hlt)
    (List.ne_nil_of_mem ((hmem _).mpr ⟨t, ht, rfl, rfl⟩))
  have hbox : ∀ u ∈ g.tables, (exactRanks g).of u.key = (exactRanks g).of t.key →
      tableBox s g u ∈ (g.tables.filter fun u =>
        (exactRanks g).of u.key = (exactRanks g).of t.key).map (tableBox s g) :=
    fun u hu hrank => List.mem_map_of_mem (List.mem_filter.mpr ⟨hu, decide_eq_true hrank⟩)
  refine ⟨reach, fun b hb => ?_, ?_, ?_⟩
  · obtain ⟨u, hu, rfl⟩ := List.mem_map.mp hb
    obtain ⟨hu, hrank⟩ := List.mem_filter.mp hu
    obtain ⟨hstart, hend⟩ := hbound u.key ((hmem _).mpr ⟨u, hu, of_decide_eq_true hrank, rfl⟩)
    rw [crossStart_tableBox hd hu, crossEnd_tableBox hd hu]
    constructor <;> linarith
  · obtain ⟨u, hu, hrank, rfl⟩ := (hmem v).mp hv
    refine ⟨_, hbox u hu hrank, ?_⟩
    rw [crossStart_tableBox hd hu, hlow]
    ring
  · obtain ⟨u, hu, hrank, rfl⟩ := (hmem w).mp hw
    refine ⟨_, hbox u hu hrank, ?_⟩
    rw [crossEnd_tableBox hd hu, hhigh]
    ring

theorem isLayout_tableBox : IsLayout s g (fun t => (exactRanks g).of t.key) (tableBox s g) where
  ranks := ⟨_, ranksOf_eq hid, fun _ _ => rfl⟩
  sizes t _ := nodeSize_eq s t
  corners := by
    obtain ⟨n, hn⟩ := hs.sweeps
    exact place_eq_tableBox hid hd (by rw [hn]; exact Rat.den_natCast n)

theorem isArranged_tableBox :
    IsArranged s g.tables (fun t => (exactRanks g).of t.key) (tableBox s g) where
  disjoint t ht u hu hne p := by
    rcases Nat.lt_trichotomy ((exactRanks g).of t.key) ((exactRanks g).of u.key) with h | h | h
    · exact (precedes_of_rank_lt hid hd hs ht hu h).not_interior hs.rankSep p
    · rcases beside_of_rank_eq hid hd hs ht hu hne h with h | h
      · exact Box.not_interior_of_cross hs.nodeSep h p
      · exact fun hp => Box.not_interior_of_cross hs.nodeSep h p hp.symm
    · exact fun hp => (precedes_of_rank_lt hid hd hs hu ht h).not_interior hs.rankSep p hp.symm
  beside t ht u hu hne h := beside_of_rank_eq hid hd hs ht hu hne h
  precedes t ht u hu h := precedes_of_rank_lt hid hd hs ht hu h
  centred := ⟨commonLine s g, fun t ht => spans_of_rank hid hd hs ht⟩
  leastX hne := (isLeast_corner hid hd hne).1
  leastY hne := (isLeast_corner hid hd hne).2

omit hd hs in
/-- Two tables with a relationship have different ranks, in its order unless it is part of a
cycle. -/
theorem rank_ne_of_mem_edges {e : Value × Value} (he : e ∈ (graphOf g).edges) (hne : e.1 ≠ e.2) :
    (exactRanks g).of e.1 ≠ (exactRanks g).of e.2 ∧
      (¬ (graphOf g).Reaches e.2 e.1 → (exactRanks g).of e.1 < (exactRanks g).of e.2) := by
  have hcut := isMinimalCut_acyclicGraphOf hid
  have hkept : e ∈ (acyclicGraphOf g).edges → (exactRanks g).of e.1 < (exactRanks g).of e.2 :=
    hcut.acyclic.ranks_lt _
  refine ⟨?_, fun hcycle => hkept (hcut.mem_of_not_reaches he hcycle)⟩
  by_cases hmem : e ∈ (acyclicGraphOf g).edges
  · exact (hkept hmem).ne
  · exact (hcut.acyclic.ranks_lt_of_reaches _ (hcut.minimal e he hmem hne) hne.symm).ne'

end Tables

theorem mem_edges_graphOf {g : Graph} {r : Relationship} (hr : r ∈ g.relationships)
    {t u : Table} (ht : t ∈ g.tables) (hu : u ∈ g.tables) (hsource : r.source.key = t.key)
    (htarget : r.target.key = u.key) : (t.key, u.key) ∈ (graphOf g).edges := by
  refine List.mem_eraseDups.mpr (List.mem_filter.mpr ⟨?_, ?_⟩)
  · rw [← hsource, ← htarget]
    exact List.mem_map_of_mem (f := fun r : Relationship => (r.source.key, r.target.key)) hr
  · have htk : t.key ∈ g.tableKeys := List.mem_map_of_mem ht
    have huk : u.key ∈ g.tableKeys := List.mem_map_of_mem hu
    simp [htk, huk]

/-- Tables with a relationship lie in different ranks, the one it starts from first in reading
order unless it is part of a cycle. -/
theorem place_relationship (s : Settings ℚ) (g : Graph) (hs : s.IsNonnegative)
    (hd : g.tableKeys.Nodup) (hid : ∀ t ∈ g.tables, IsNodeId t.id) :
    ∃ rank box, IsLayout s g rank box ∧
      ∀ r ∈ g.relationships, ∀ t ∈ g.tables, ∀ u ∈ g.tables,
        r.source.key = t.key → r.target.key = u.key → t ≠ u →
          rank t ≠ rank u ∧
            ((box t).Precedes s.direction s.rankSep (box u) ∨
              (box u).Precedes s.direction s.rankSep (box t)) ∧
            (¬ (graphOf g).Reaches u.key t.key →
              (box t).Precedes s.direction s.rankSep (box u)) := by
  refine ⟨_, _, isLayout_tableBox hid hd hs, fun r hr t ht u hu hsource htarget hne => ?_⟩
  have hkey : t.key ≠ u.key := fun hk => hne (List.inj_on_of_nodup_map hd ht hu hk)
  obtain ⟨hranks, hlt⟩ := rank_ne_of_mem_edges hid
    (mem_edges_graphOf hr ht hu hsource htarget) hkey
  refine ⟨hranks, ?_, fun hcycle => precedes_of_rank_lt hid hd hs ht hu (hlt hcycle)⟩
  rcases Nat.lt_or_gt_of_ne hranks with h | h
  · exact .inl (precedes_of_rank_lt hid hd hs ht hu h)
  · exact .inr (precedes_of_rank_lt hid hd hs hu ht h)

/-- Gaps and sizes of fractions. -/
def fractions : Settings ℚ where
  direction := .bottomToTop
  rankSep := 1 / 3
  nodeSep := 1 / 7
  nodeWidth := 2
  headerHeight := 5 / 2
  rowHeight := 3 / 4
  sweeps := 3

theorem isNonnegative_fractions : fractions.IsNonnegative := by
  refine ⟨?_, ?_, ?_, ?_, ?_, 3, ?_⟩ <;> norm_num [fractions]

theorem isNodeId_ring : ∀ t ∈ ring.tables, IsNodeId t.id := by
  intro t ht
  obtain ⟨label, _, rfl⟩ := List.mem_map.mp ht
  exact isNodeId_str _

theorem place_relationship_ring :
    fractions.IsNonnegative ∧ ring.tableKeys.Nodup ∧ (∀ t ∈ ring.tables, IsNodeId t.id) ∧
      ∃ rank box, IsLayout fractions ring rank box ∧
        rank (labelled "b") ≠ rank (labelled "a") ∧
          (box (labelled "c")).Precedes .bottomToTop (1 / 3) (box (labelled "d")) := by
  have hd : ring.tableKeys.Nodup := by decide
  have hlast : ¬ (graphOf ring).Reaches (labelled "d").key (labelled "c").key := by
    intro hr
    rcases Relation.ReflTransGen.cases_head hr with heq | ⟨v, he, _⟩
    · exact absurd heq (by decide)
    · have hno : ∀ e ∈ (graphOf ring).edges, e.1 ≠ (labelled "d").key := by decide
      exact hno _ he rfl
  obtain ⟨rank, box, hlayout, h⟩ :=
    place_relationship fractions ring isNonnegative_fractions hd isNodeId_ring
  obtain ⟨hback, _, _⟩ := h (between "b" "a") (by decide) (labelled "b") (by decide)
    (labelled "a") (by decide) rfl rfl (by decide)
  obtain ⟨_, _, hfirst⟩ := h (between "c" "d") (by decide) (labelled "c") (by decide)
    (labelled "d") (by decide) rfl rfl (by decide)
  exact ⟨isNonnegative_fractions, hd, isNodeId_ring, rank, box, hlayout, hback, hfirst hlast⟩

/-- Laying out tables gives them room. -/
theorem place_isArranged (s : Settings ℚ) (g : Graph) (hs : s.IsNonnegative)
    (hd : g.tableKeys.Nodup) (hid : ∀ t ∈ g.tables, IsNodeId t.id) :
    ∃ rank box, IsLayout s g rank box ∧ IsArranged s g.tables rank box :=
  ⟨_, _, isLayout_tableBox hid hd hs, isArranged_tableBox hid hd hs⟩

theorem place_isArranged_ring :
    fractions.IsNonnegative ∧ ring.tableKeys.Nodup ∧ (∀ t ∈ ring.tables, IsNodeId t.id) ∧
      ∃ rank box, IsLayout fractions ring rank box ∧
        IsArranged fractions ring.tables rank box := by
  have hd : ring.tableKeys.Nodup := by decide
  exact ⟨isNonnegative_fractions, hd, isNodeId_ring,
    place_isArranged fractions ring isNonnegative_fractions hd isNodeId_ring⟩

example : place fractions ring =
    .ok [⟨0, 17 / 2⟩, ⟨15 / 14, 17 / 3⟩, ⟨15 / 14, 17 / 6⟩, ⟨15 / 14, 0⟩, ⟨15 / 7, 17 / 2⟩] := by
  cbv

end SchemaAtlas.Layout
