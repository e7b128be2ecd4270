import SchemaAtlas.Layout.Layers
import SchemaAtlas.Proofs.Layout.Ranks

/-! # What layers hold

However often layers are sorted, each holds exactly the nodes of its rank, each once.
-/
namespace SchemaAtlas.Layout.Digraph

variable {α : Type}

/-- Every one of some nodes is in the layer of its rank, and nothing else is. -/
structure IsLayered (us : List α) (rank : α → Nat) (layers : List (List α)) : Prop where
  lt_length : ∀ u ∈ us, rank u < layers.length
  mem : ∀ i (h : i < layers.length) u, u ∈ layers[i] ↔ u ∈ us ∧ rank u = i
  nodup : ∀ i (h : i < layers.length), layers[i].Nodup

theorem IsLayered.mem_flatten {us : List α} {rank : α → Nat} {layers : List (List α)}
    (h : IsLayered us rank layers) {u : α} : u ∈ layers.flatten ↔ u ∈ us := by
  rw [List.mem_flatten]
  constructor
  · rintro ⟨layer, hl, hu⟩
    obtain ⟨i, hi, rfl⟩ := List.mem_iff_getElem.mp hl
    exact ((h.mem i hi u).mp hu).1
  · intro hu
    have hi := h.lt_length u hu
    exact ⟨layers[rank u], List.getElem_mem hi, (h.mem _ hi u).mpr ⟨hu, rfl⟩⟩

theorem IsLayered.nodup_flatten {us : List α} {rank : α → Nat} {layers : List (List α)}
    (h : IsLayered us rank layers) : layers.flatten.Nodup := by
  refine List.nodup_flatten.mpr ⟨fun layer hl => ?_, ?_⟩
  · obtain ⟨i, hi, rfl⟩ := List.mem_iff_getElem.mp hl
    exact h.nodup i hi
  · refine List.pairwise_iff_getElem.mpr fun i j hi hj hlt u hui huj => ?_
    have hrank := ((h.mem i hi u).mp hui).2.symm.trans ((h.mem j hj u).mp huj).2
    omega

variable [DecidableEq α]

theorem IsLayered.resort {us : List α} {rank : α → Nat} {layers : List (List α)}
    (h : IsLayered us rank layers) (neighbours : α → List α) (i : Nat) :
    IsLayered us rank (resort neighbours layers i) := by
  have hlen : (Digraph.resort neighbours layers i).length = layers.length :=
    List.length_modify _ _ _
  have hperm : ∀ j (hj : j < (Digraph.resort neighbours layers i).length)
      (hj' : j < layers.length), (Digraph.resort neighbours layers i)[j].Perm layers[j] := by
    intro j hj hj'
    simp only [Digraph.resort, List.getElem_modify]
    split
    · exact sortLayer_perm _ _ _
    · exact List.Perm.refl _
  refine ⟨fun u hu => hlen ▸ h.lt_length u hu, fun j hj u => ?_, fun j hj => ?_⟩
  · rw [(hperm j hj (hlen ▸ hj)).mem_iff]
    exact h.mem j _ u
  · exact (hperm j hj (hlen ▸ hj)).nodup_iff.mpr (h.nodup j _)

theorem IsLayered.foldl_resort {us : List α} {rank : α → Nat} {layers : List (List α)}
    (h : IsLayered us rank layers) (neighbours : α → List α) (is : List Nat) :
    IsLayered us rank (is.foldl (Digraph.resort neighbours) layers) := by
  induction is generalizing layers with
  | nil => exact h
  | cons i is ih => exact ih (h.resort neighbours i)

theorem IsLayered.sweep {us : List α} {rank : α → Nat} {layers : List (List α)}
    (h : IsLayered us rank layers) (g : Digraph α) (downward : Bool) :
    IsLayered us rank (g.sweep downward layers) := by
  rw [Digraph.sweep]
  split <;> exact h.foldl_resort _ _

theorem IsLayered.sweeps {us : List α} {rank : α → Nat} {layers : List (List α)}
    (h : IsLayered us rank layers) (g : Digraph α) (count : Nat) :
    IsLayered us rank (g.sweeps layers count) := by
  induction count with
  | zero => exact h
  | succ count ih =>
    rw [Digraph.sweeps, List.range_succ, List.foldl_concat]
    exact ih.sweep g _

theorem isLayered_initialLayers {ranks : Ranks α} (hn : (ranks.map (·.1)).Nodup)
    (order : α → Nat) :
    IsLayered (ranks.map (·.1)) ranks.of (initialLayers ranks order) := by
  have hperm := List.mergeSort_perm (ranks.map (·.1)) fun u v => order u ≤ order v
  refine ⟨fun u hu => ?_, fun i hi u => ?_, fun i hi => ?_⟩
  · obtain ⟨p, hp, rfl⟩ := List.mem_map.mp hu
    simpa [initialLayers, Ranks.of_eq_of_mem hn hp] using lt_foldl_max Prod.snd hp
  · simp [initialLayers, hperm.mem_iff]
  · simpa [initialLayers] using (hperm.nodup_iff.mpr hn).filter _

/-- The layers of a graph without cycles hold its nodes by rank. -/
theorem IsAcyclic.isLayered {g : Digraph α} (ha : g.IsAcyclic) (order order' : α → Nat)
    (count : Int) :
    IsLayered g.nodes (g.ranks order).of (g.layers (g.ranks order) order' count) := by
  have hkeys := ha.map_fst_ranks order
  have h :=
    (isLayered_initialLayers (hkeys.nodup_iff.mpr g.nodup_nodes) order').sweeps g count.toNat
  exact ⟨fun u hu => h.lt_length u (hkeys.mem_iff.mpr hu),
    fun i hi u => by rw [← hkeys.mem_iff]; exact h.mem i hi u, h.nodup⟩

end SchemaAtlas.Layout.Digraph
