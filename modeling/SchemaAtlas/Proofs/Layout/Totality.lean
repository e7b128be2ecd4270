import SchemaAtlas.Proofs.Layout.Placement
import SchemaAtlas.Proofs.Schema.Soundness
import SchemaAtlas.Proofs.Value.Amounts

/-! # Layouts that succeed

Where the settings are integers, every graph can be laid out whose tables have ids of nodes.
Lengths are added up exactly and halved once, positions are floating point from the first on. So
nothing but an astronomical number of rows or tables is in the way.
-/
namespace SchemaAtlas.Layout
open Schema (Graph Table)

/-- Settings whose amounts are integers of at most some size. -/
structure Settings.IsWhole (s : Settings Value) (size : Nat) : Prop where
  rankSep : s.rankSep.IsWhole size
  nodeSep : s.nodeSep.IsWhole size
  nodeWidth : s.nodeWidth.IsWhole size
  headerHeight : s.headerHeight.IsWhole size
  rowHeight : s.rowHeight.IsWhole size
  sweeps : ∃ n, Quantity.count s.sweeps = .ok n

theorem Settings.isWhole_usual : Settings.usual.IsWhole 240 where
  rankSep := Value.isWhole_int (by decide)
  nodeSep := Value.isWhole_int (by decide)
  nodeWidth := Value.isWhole_int (by decide)
  headerHeight := Value.isWhole_int (by decide)
  rowHeight := Value.isWhole_int (by decide)
  sweeps := ⟨4, rfl⟩

/-- Both parts of a pair have a property. -/
def Pair.Both {α : Type} (p : Pair α) (q : α → Prop) : Prop :=
  q p.x ∧ q p.y

theorem Pair.Both.turn {α : Type} {p : Pair α} {q : α → Prop} (h : p.Both q) (horizontal : Bool) :
    (p.turn horizontal).Both q := by
  cases horizontal
  · exact h.symm
  · exact h

section Steps

variable {s : Settings Value} {size : Nat} {fault : Fault → Prop}

theorem ends_nodeSize (hs : s.IsWhole size) {t : Table} {rows : Nat}
    (h : t.columns.length ≤ rows) :
    Ends (s.nodeSize t) fault fun p => p.Both (Value.IsWhole (size + size * rows)) := by
  have hrows : (visibleRows t : Int).natAbs ≤ rows := by
    rw [Int.natAbs_natCast, visibleRows]
    split
    · exact h
    · exact Nat.zero_le rows
  unfold Settings.nodeSize
  refine (hs.rowHeight.mulInt hrows).bind fun below hbelow => ?_
  refine (hs.headerHeight.add hbelow).bind fun height hheight => ?_
  exact ⟨hs.nodeWidth.mono (Nat.le_add_right size _), hheight⟩

variable {layer : List (Spot Value)} {start depth cursor : Value}

theorem ends_stack (hsep : s.nodeSep.IsWhole size) (hlimit : size + size < 2 ^ 200)
    (hlayer : ∀ p ∈ layer, p.2.Both (Value.IsWhole size)) (hstart : start.IsFloat)
    (hdepth : depth.IsWhole size) (hcursor : cursor.IsFloat) :
    Ends (stack s start depth cursor layer) fault fun spots =>
      ∀ p ∈ spots, p.2.Both Value.IsFloat := by
  have hsize : size < 2 ^ 200 := by omega
  induction layer generalizing cursor with
  | nil => exact fun p hp => absurd hp List.not_mem_nil
  | cons p rest ih =>
    obtain ⟨hp, hrest⟩ := List.forall_mem_cons.mp hlayer
    rw [stack]
    refine (hdepth.half hsize).bind fun middle hmiddle => ?_
    refine (hstart.add hmiddle).bind fun primary hprimary => ?_
    refine (hp.2.half hsize).bind fun reach hreach => ?_
    refine (hcursor.add hreach).bind fun secondary hsecondary => ?_
    refine (hp.2.add hsep).bind fun advance hadvance => ?_
    refine (hcursor.add_whole hadvance hlimit).bind fun next hnext => ?_
    refine (ih hrest hnext).bind fun spots hspots => ?_
    exact List.forall_mem_cons.mpr ⟨⟨hprimary, hsecondary⟩, hspots⟩

theorem ends_stackStart (hsep : s.nodeSep.IsWhole size)
    (hlimit : (2 * layer.length + 1) * size < 2 ^ 200)
    (hlayer : ∀ p ∈ layer, p.2.Both (Value.IsWhole size)) :
    Ends (stackStart s layer) fault Value.IsFloat := by
  have hlengths : ∀ v ∈ layer.map (·.2.y), v.IsWhole size := by
    intro v hv
    obtain ⟨p, hp, rfl⟩ := List.mem_map.mp hv
    exact (hlayer p hp).2
  have hgaps : ((layer.length : Int) - 1).natAbs ≤ layer.length + 1 := by omega
  have hsum : layer.length * size + size * (layer.length + 1) = (2 * layer.length + 1) * size := by
    ring
  unfold stackStart
  refine (Quantity.ends_sum hlengths).bind fun lengths hl => ?_
  refine (hsep.mulInt hgaps).bind fun gaps hg => ?_
  rw [List.length_map] at hl
  refine (hl.add hg).bind fun total htotal => ?_
  refine htotal.neg.bind fun opposite hopposite => ?_
  exact hopposite.half (hsum ▸ hlimit)

theorem ends_bandCentres (hrank : s.rankSep.IsWhole size) (hsep : s.nodeSep.IsWhole size)
    (hlimit : (2 * layer.length + 1) * size < 2 ^ 200)
    (hlayer : ∀ p ∈ layer, p.2.Both (Value.IsWhole size)) (hstart : start.IsFloat) :
    Ends (bandCentres s start layer) fault fun band =>
      (∀ p ∈ band.1, p.2.Both Value.IsFloat) ∧ band.2.IsFloat := by
  cases layer with
  | nil => exact ⟨fun p hp => absurd hp List.not_mem_nil, hstart⟩
  | cons first rest =>
    obtain ⟨hfirst, hrest⟩ := List.forall_mem_cons.mp hlayer
    have hdepths : ∀ v ∈ rest.map (·.2.x), v.IsWhole size := by
      intro v hv
      obtain ⟨p, hp, rfl⟩ := List.mem_map.mp hv
      exact (hrest p hp).1
    have hdouble : size + size < 2 ^ 200 := by
      rw [List.length_cons] at hlimit
      nlinarith
    rw [bandCentres]
    refine (Quantity.ends_largest hfirst.1 hdepths).bind fun depth hdepth => ?_
    refine (ends_stackStart hsep hlimit hlayer).bind fun cursor hcursor => ?_
    refine (ends_stack hsep hdouble hlayer hstart hdepth hcursor).bind fun placed hplaced => ?_
    refine (hdepth.add hrank).bind fun advance hadvance => ?_
    exact (hstart.add_whole hadvance hdouble).bind fun next hnext => ⟨hplaced, hnext⟩

theorem ends_centres (hrank : s.rankSep.IsWhole size) (hsep : s.nodeSep.IsWhole size)
    {layers : List (List (Spot Value))}
    (hlimit : ∀ layer ∈ layers, (2 * layer.length + 1) * size < 2 ^ 200)
    (hlayers : ∀ layer ∈ layers, ∀ p ∈ layer, p.2.Both (Value.IsWhole size))
    (hstart : start.IsFloat) :
    Ends (centres s start layers) fault fun spots => ∀ p ∈ spots, p.2.Both Value.IsFloat := by
  induction layers generalizing start with
  | nil => exact fun p hp => absurd hp List.not_mem_nil
  | cons layer rest ih =>
    obtain ⟨hlimit, hlimits⟩ := List.forall_mem_cons.mp hlimit
    obtain ⟨hlayer, hrest⟩ := List.forall_mem_cons.mp hlayers
    rw [centres]
    refine (ends_bandCentres hrank hsep hlimit hlayer hstart).bind fun band hband => ?_
    refine (ih hlimits hrest hband.2).bind fun spots hspots => ?_
    exact List.forall_mem_append.mpr ⟨hband.1, hspots⟩

theorem ends_sub_half {area centre : Pair Value} (hsize : size < 2 ^ 200)
    (harea : area.Both (Value.IsWhole size)) (hcentre : centre.Both Value.IsFloat) :
    Ends (do return ⟨← Quantity.sub centre.x (← Quantity.half area.x),
      ← Quantity.sub centre.y (← Quantity.half area.y)⟩ : Except Fault (Pair Value)) fault
      (·.Both Value.IsFloat) := by
  refine (harea.1.half hsize).bind fun width hwidth => ?_
  refine (hcentre.1.sub hwidth).bind fun x hx => ?_
  refine (harea.2.half hsize).bind fun height hheight => ?_
  exact (hcentre.2.sub hheight).bind fun y hy => ⟨hx, hy⟩

theorem ends_corner (direction : Direction) {area centre : Pair Value} (hsize : size < 2 ^ 200)
    (harea : area.Both (Value.IsWhole size)) (hcentre : centre.Both Value.IsFloat) :
    Ends (corner direction area centre) fault (·.Both Value.IsFloat) := by
  have hturned : ∀ primary : Value, primary.IsFloat →
      (Pair.turn direction.isHorizontal ⟨primary, centre.y⟩).Both Value.IsFloat := by
    intro primary hprimary
    have hboth : (⟨primary, centre.y⟩ : Pair Value).Both Value.IsFloat := ⟨hprimary, hcentre.2⟩
    exact hboth.turn _
  unfold corner
  dsimp only
  split
  · exact hcentre.1.neg.bind fun primary hprimary =>
      ends_sub_half hsize harea (hturned primary hprimary)
  · exact ends_sub_half hsize harea (hturned centre.x hcentre.1)

theorem ends_leastCorner {spots : List (Spot Value)} (h : ∀ p ∈ spots, p.2.Both Value.IsFloat) :
    Ends (leastCorner spots) fault (·.Both Value.IsFloat) := by
  cases spots with
  | nil => exact ⟨Value.isFloat_float 0, Value.isFloat_float 0⟩
  | cons p rest =>
    obtain ⟨hp, hrest⟩ := List.forall_mem_cons.mp h
    have hparts : ∀ part : Pair Value → Value, (∀ p ∈ rest, (part p.2).IsFloat) →
        ∀ v ∈ (rest.map (·.2)).map part, v.IsFloat := by
      intro part hpart v hv
      obtain ⟨_, hw, rfl⟩ := List.mem_map.mp hv
      obtain ⟨q, hq, rfl⟩ := List.mem_map.mp hw
      exact hpart q hq
    have hxs := hparts Pair.x fun q hq => (hrest q hq).1
    have hys := hparts Pair.y fun q hq => (hrest q hq).2
    refine (Quantity.ends_smallest hp.1 hxs).bind fun x hx => ?_
    exact (Quantity.ends_smallest hp.2 hys).bind fun y hy => ⟨hx, hy⟩

theorem both_lastSpot? {spots : List (Spot Value)} {q : Value → Prop}
    (h : ∀ p ∈ spots, p.2.Both q) {default : Pair Value} (hdefault : default.Both q)
    (node : Value) : ((lastSpot? spots node).getD default).Both q := by
  cases hlast : lastSpot? spots node with
  | none => exact hdefault
  | some p => exact h _ (mem_of_lastSpot? hlast)

theorem ends_sizes {tables : List Table} {rows : Nat} (hs : s.IsWhole size)
    (hrows : ∀ t ∈ tables, t.columns.length ≤ rows) :
    Ends (tables.mapM fun t => do return (t.key, ← s.nodeSize t)) fault
      fun sizes : List (Spot Value) =>
        ∀ p ∈ sizes, p.2.Both (Value.IsWhole (size + size * rows)) :=
  Ends.mapM fun t ht => (ends_nodeSize hs (hrows t ht)).bind fun _ h => h

variable {sizeOf : Value → Pair Value} (hsizeOf : ∀ u, (sizeOf u).Both (Value.IsWhole size))
include hsizeOf

theorem ends_centres_layers (hrank : s.rankSep.IsWhole size) (hsep : s.nodeSep.IsWhole size)
    {layers : List (List Value)}
    (hlimit : ∀ layer ∈ layers, (2 * layer.length + 1) * size < 2 ^ 200) (horizontal : Bool) :
    Ends (centres s Quantity.origin
      (layers.map fun layer => layer.map fun u => (u, (sizeOf u).turn horizontal))) fault
      fun spots => ∀ p ∈ spots, p.2.Both Value.IsFloat := by
  refine ends_centres hrank hsep ?_ ?_ (Value.isFloat_float 0)
  · intro spots hspots
    obtain ⟨layer, hlayer, rfl⟩ := List.mem_map.mp hspots
    rw [List.length_map]
    exact hlimit layer hlayer
  · intro spots hspots p hp
    obtain ⟨layer, _, rfl⟩ := List.mem_map.mp hspots
    obtain ⟨u, _, rfl⟩ := List.mem_map.mp hp
    exact (hsizeOf u).turn horizontal

theorem ends_corners (hsize : size < 2 ^ 200) (direction : Direction) {spots : List (Spot Value)}
    (h : ∀ p ∈ spots, p.2.Both Value.IsFloat) :
    Ends (spots.mapM fun (node, centre) => do
        return (node, ← corner direction (sizeOf node) centre))
      fault fun corners : List (Spot Value) => ∀ p ∈ corners, p.2.Both Value.IsFloat :=
  Ends.mapM fun p hp => (ends_corner direction hsize (hsizeOf p.1) (h p hp)).bind fun _ h => h

end Steps

/-- Spots that have been found can be given relative to each other. -/
theorem ends_positions {fault : Fault → Prop} {corners : List (Spot Value)} {least : Pair Value}
    (hcorners : ∀ p ∈ corners, p.2.Both Value.IsFloat) (hleast : least.Both Value.IsFloat)
    (tables : List Table) :
    Ends (tables.mapM fun t => do
      let p := (lastSpot? corners t.key).getD ⟨Quantity.origin, Quantity.origin⟩
      return ⟨← Quantity.sub p.x least.x, ← Quantity.sub p.y least.y⟩) fault
      fun positions : List (Pair Value) => ∀ p ∈ positions, p.Both Value.IsFloat := by
  refine Ends.mapM fun t _ => ?_
  have horigin : (⟨.float 0, .float 0⟩ : Pair Value).Both Value.IsFloat :=
    ⟨Value.isFloat_float 0, Value.isFloat_float 0⟩
  have hcorner := both_lastSpot? hcorners horigin t.key
  refine (hcorner.1.sub hleast.1).bind fun x hx => ?_
  exact (hcorner.2.sub hleast.2).bind fun y hy => ⟨hx, hy⟩

section Place

variable {g : Graph} (hid : ∀ t ∈ g.tables, IsNodeId t.id)
include hid

/-- No layer holds more nodes than there are tables. -/
theorem length_layer_le {order : Value → Nat} {count : Int} {layer : List Value}
    (h : layer ∈ (acyclicGraphOf g).layers ((acyclicGraphOf g).ranks order) order count) :
    layer.length ≤ g.tables.length := by
  have hlayered := (isMinimalCut_acyclicGraphOf hid).acyclic.isLayered order order count
  have hnodup : layer.Nodup := (List.nodup_flatten.mp hlayered.nodup_flatten).1 layer h
  have hsub : layer ⊆ g.tableKeys := by
    intro u hu
    obtain ⟨t, ht, rfl⟩ := (mem_nodes_iff hid).mp
      (hlayered.mem_flatten.mp (List.mem_flatten.mpr ⟨layer, h, hu⟩))
    exact Schema.key_mem_tableKeys ht
  have hle := (List.subperm_of_subset hnodup hsub).length_le
  rwa [Graph.tableKeys, List.length_map] at hle

/-- The positions of all tables of a graph are floating point. -/
theorem exists_place {s : Settings Value} {size rows : Nat} (hs : s.IsWhole size)
    (hrows : ∀ t ∈ g.tables, t.columns.length ≤ rows)
    (hlimit : (2 * g.tables.length + 1) * (size + size * rows) < 2 ^ 200) :
    ∃ positions, place s g = .ok positions ∧ ∀ p ∈ positions, p.Both Value.IsFloat := by
  obtain ⟨n, hcount⟩ := hs.sweeps
  have hcheck : g.checkIds = .ok () :=
    if_pos (List.all_eq_true.mpr fun t ht => (hid t ht).scalar)
  have hnull : g.tableKeys.contains .null = false := by
    simpa [Graph.tableKeys, Table.key] using fun t ht => (hid t ht).notNull
  have hrank := hs.rankSep.mono (Nat.le_add_right size (size * rows))
  have hsep := hs.nodeSep.mono (Nat.le_add_right size (size * rows))
  have hlimits : ∀ layer ∈ (acyclicGraphOf g).layers (exactRanks g) (lastIndex g.tableKeys) n,
      (2 * layer.length + 1) * (size + size * rows) < 2 ^ 200 := by
    intro layer hlayer
    have hle := length_layer_le hid hlayer
    exact lt_of_le_of_lt (Nat.mul_le_mul_right _ (by omega)) hlimit
  have hsize : size + size * rows < 2 ^ 200 :=
    lt_of_le_of_lt (Nat.le_mul_of_pos_left _ (Nat.succ_pos _)) hlimit
  obtain ⟨sizes, hsizes, hwhole⟩ := (ends_sizes hs hrows).exists_eq_ok
  have hzero : (⟨.int 0, .int 0⟩ : Pair Value).Both (Value.IsWhole (size + size * rows)) :=
    ⟨Value.isWhole_int (Nat.zero_le _), Value.isWhole_int (Nat.zero_le _)⟩
  have hsizeOf := both_lastSpot? hwhole hzero
  rw [place]
  simp only [hcheck, hsizes, hnull, ok_bind, ranksOf_eq hid, hcount]
  rw [if_neg Bool.false_ne_true]
  refine Ends.exists_eq_ok ?_
  refine (ends_centres_layers hsizeOf hrank hsep hlimits _).bind fun spots hspots => ?_
  refine (ends_corners hsizeOf hsize s.direction hspots).bind fun corners hcorners => ?_
  refine (ends_leastCorner hcorners).bind fun least hleast => ?_
  exact ends_positions hcorners hleast g.tables

theorem exists_layout_usual (hrows : ∀ t ∈ g.tables, t.columns.length < 2 ^ 64)
    (htables : g.tables.length < 2 ^ 64) : ∃ g', layout g .usual = .ok g' := by
  have hrows : ∀ t ∈ g.tables, t.columns.length ≤ 2 ^ 64 := fun t ht => (hrows t ht).le
  have hlimit : (2 * g.tables.length + 1) * (240 + 240 * 2 ^ 64) < 2 ^ 200 := by omega
  obtain ⟨positions, hplace, _⟩ := exists_place hid Settings.isWhole_usual hrows hlimit
  exact ⟨moveTables g positions, by rw [layout, hplace]; rfl⟩

end Place

end SchemaAtlas.Layout
