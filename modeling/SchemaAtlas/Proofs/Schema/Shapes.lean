import SchemaAtlas.Proofs.Endings
import SchemaAtlas.Schema.Document

/-! # Documents of the right shape

Loading goes through the parts of a document and asks objects for their fields. Where the parts are
lists and what has to be an object is one, nothing can go wrong but that a field is missing, or that
something other than an object is asked for a field that may be missing.
-/
namespace SchemaAtlas.Value

def IsObject (v : Value) : Prop :=
  ∃ fields, v = .object fields

/-- What a value has in a field, if it has the field, is as asked for. -/
def FieldIs (v : Value) (name : String) (p : Value → Prop) : Prop :=
  ∀ w, v.get? name = .ok (some w) → p w

/-- A value has parts, and all of them are as asked for. -/
def PartsAre (v : Value) (p : Value → Prop) : Prop :=
  ∃ ps, v.parts = .ok ps ∧ ∀ q ∈ ps, p q

theorem partsAre_nil (p : Value → Prop) : (Value.list []).PartsAre p :=
  ⟨[], rfl, by simp⟩

theorem fieldIs_nil (name : String) (p : Value → Prop) : (Value.object []).FieldIs name p := by
  intro w h
  cases h

variable {v : Value} {name : String} {default : Value} {p : Value → Prop}

theorem get?_of_not_isObject (h : ¬ v.IsObject) (name : String) :
    v.get? name = .error (.notAnObject v.kind) := by
  cases v with
  | object fields => exact absurd ⟨fields, rfl⟩ h
  | _ => rfl

theorem isObject_of_need {w : Value} (h : v.need name = .ok w) : v.IsObject := by
  cases v with
  | object fields => exact ⟨fields, rfl⟩
  | _ => cases h

/-- What a field that may be missing is taken for tells what it is. -/
theorem fieldIs_of_getD {w : Value} (h : v.getD name default = .ok w) (hw : p w) :
    v.FieldIs name p := by
  intro u hu
  rw [getD, hu] at h
  cases h
  exact hw

end SchemaAtlas.Value

namespace SchemaAtlas.Schema

/-- The fields that parts of a document cannot do without. -/
def neededFields : List String :=
  ["id", "name", "source", "target"]

/-- A fault that lies in a document: a field is missing, or has been asked of what is no object. -/
def IsShapeFault (f : Fault) : Prop :=
  (∃ name ∈ neededFields, f = .missingField name) ∨ ∃ kind, f = .notAnObject kind

/-- A node whose columns are objects, if it has any. -/
def IsNode (v : Value) : Prop :=
  v.FieldIs "data" (·.FieldIs "columns" (·.PartsAre Value.IsObject))

/-- An object whose kind can be looked up, if it has one. -/
structure IsEdge (v : Value) : Prop where
  object : v.IsObject
  kind : v.FieldIs "data" (·.FieldIs "kind" fun k => k.isScalar = true)

/-- Nodes and edges, if there are any, one after the other. -/
structure IsDocument (d : Value) : Prop where
  nodes : d.FieldIs "nodes" (·.PartsAre IsNode)
  edges : d.FieldIs "edges" (·.PartsAre IsEdge)

section Ends

variable {v : Value} {name : String} {default : Value} {p : Value → Prop}

theorem ends_getD (h : v.FieldIs name p) (hdefault : p default) :
    Ends (v.getD name default) IsShapeFault p := by
  by_cases hv : v.IsObject
  · obtain ⟨fields, rfl⟩ := hv
    cases hfound : Value.field? name fields with
    | none =>
      rw [Value.getD, Value.get?, hfound]
      exact hdefault
    | some w =>
      rw [Value.getD, Value.get?, hfound]
      exact h w (by rw [Value.get?, hfound])
  · rw [Value.getD, Value.get?_of_not_isObject hv]
    exact .inr ⟨v.kind, rfl⟩

theorem ends_getD_any : Ends (v.getD name default) IsShapeFault fun _ => True :=
  ends_getD (fun _ _ => trivial) trivial

theorem ends_need (hv : v.IsObject) (hname : name ∈ neededFields) :
    Ends (v.need name) IsShapeFault fun _ => True := by
  obtain ⟨fields, rfl⟩ := hv
  rw [Value.need]
  cases hfound : Value.field? name fields with
  | none => exact .inl ⟨name, hname, rfl⟩
  | some w => exact trivial

theorem ends_parts (h : v.PartsAre p) :
    Ends v.parts IsShapeFault fun ps => ∀ q ∈ ps, p q := by
  obtain ⟨ps, hps, hp⟩ := h
  rw [hps]
  exact hp

theorem Column.ends_ofValue (h : v.IsObject) :
    Ends (Column.ofValue v) IsShapeFault fun _ => True := by
  unfold Column.ofValue
  iterate 2 refine (ends_need h (by decide)).bind fun _ _ => ?_
  iterate 6 refine ends_getD_any.bind fun _ _ => ?_
  exact trivial

theorem Table.ends_ofValue (h : IsNode v) : Ends (Table.ofValue v) IsShapeFault fun _ => True := by
  by_cases hv : v.IsObject
  · unfold Table.ofValue
    refine (ends_getD h (Value.fieldIs_nil _ _)).bind fun data hdata => ?_
    refine ends_getD_any.bind fun position _ => ?_
    refine (ends_need hv (by decide)).bind fun _ _ => ?_
    refine ends_getD_any.bind fun _ _ => ?_
    refine (ends_getD hdata (Value.partsAre_nil _)).bind fun columns hcolumns => ?_
    refine (ends_parts hcolumns).bind fun parts hparts => ?_
    refine (Ends.mapM fun c hc => Column.ends_ofValue (hparts c hc)).bind fun _ _ => ?_
    iterate 6 refine ends_getD_any.bind fun _ _ => ?_
    exact trivial
  · rw [Table.ofValue, Value.getD, Value.get?_of_not_isObject hv]
    exact .inr ⟨v.kind, rfl⟩

theorem Kind.ends_ofEdge (h : IsEdge v) : Ends (Kind.ofEdge v) IsShapeFault fun _ => True := by
  have hlook : ∀ k : Value, k.isScalar = true →
      Ends (Kind.ofValue? k) IsShapeFault fun _ => True := by
    intro k hk
    cases k with
    | list _ => cases hk
    | object _ => cases hk
    | _ => exact trivial
  unfold Kind.ofEdge
  refine (ends_getD h.kind (Value.fieldIs_nil _ _)).bind fun data hdata => ?_
  refine (ends_getD hdata rfl).bind fun k hk => ?_
  refine (hlook k hk).bind fun found _ => ?_
  cases found with
  | some kind => exact trivial
  | none =>
    refine ends_getD_any.bind fun style _ => ?_
    refine ends_getD_any.bind fun dashes _ => ?_
    split
    · exact trivial
    · refine ends_getD_any.bind fun label _ => ?_
      split <;> exact trivial

theorem Relationship.ends_ofValue (h : IsEdge v) :
    Ends (Relationship.ofValue v) IsShapeFault fun _ => True := by
  unfold Relationship.ofValue
  iterate 3 refine (ends_need h.object (by decide)).bind fun _ _ => ?_
  iterate 3 refine ends_getD_any.bind fun _ _ => ?_
  exact (Kind.ends_ofEdge h).bind fun _ _ => trivial

/-- A document of the right shape is loaded, or the fault lies in the document. -/
theorem Graph.ends_ofDocument (h : IsDocument v) :
    Ends (Graph.ofDocument v) IsShapeFault fun _ => True := by
  unfold Graph.ofDocument
  refine (ends_getD h.nodes (Value.partsAre_nil _)).bind fun nodes hnodes => ?_
  refine (ends_parts hnodes).bind fun nodes hnodes => ?_
  refine (Ends.mapM fun n hn => Table.ends_ofValue (hnodes n hn)).bind fun _ _ => ?_
  refine (ends_getD h.edges (Value.partsAre_nil _)).bind fun edges hedges => ?_
  refine (ends_parts hedges).bind fun edges hedges => ?_
  exact (Ends.mapM fun e he => Relationship.ends_ofValue (hedges e he)).bind fun _ _ => trivial

end Ends

/-! What has been loaded was of the right shape. -/

section Loaded

variable {v : Value}

theorem isNode_of_ofValue {t : Table} (h : Table.ofValue v = .ok t) : IsNode v := by
  unfold Table.ofValue at h
  obtain ⟨data, hdata, h⟩ := bind_eq_ok.mp h
  obtain ⟨position, _, h⟩ := bind_eq_ok.mp h
  obtain ⟨id, _, h⟩ := bind_eq_ok.mp h
  obtain ⟨label, _, h⟩ := bind_eq_ok.mp h
  obtain ⟨columns, hcolumns, h⟩ := bind_eq_ok.mp h
  obtain ⟨parts, hparts, h⟩ := bind_eq_ok.mp h
  obtain ⟨loaded, hloaded, _⟩ := bind_eq_ok.mp h
  have hobjects : columns.PartsAre Value.IsObject := by
    refine ⟨parts, hparts, fun c hc => ?_⟩
    obtain ⟨column, hcolumn⟩ := exists_mapM_eq_ok.mp ⟨loaded, hloaded⟩ c hc
    obtain ⟨id, hid, _⟩ := bind_eq_ok.mp hcolumn
    exact Value.isObject_of_need hid
  exact Value.fieldIs_of_getD hdata (Value.fieldIs_of_getD hcolumns hobjects)

theorem isEdge_of_ofValue {r : Relationship} (h : Relationship.ofValue v = .ok r) : IsEdge v := by
  unfold Relationship.ofValue at h
  obtain ⟨id, hid, h⟩ := bind_eq_ok.mp h
  obtain ⟨source, _, h⟩ := bind_eq_ok.mp h
  obtain ⟨target, _, h⟩ := bind_eq_ok.mp h
  obtain ⟨sourceHandle, _, h⟩ := bind_eq_ok.mp h
  obtain ⟨targetHandle, _, h⟩ := bind_eq_ok.mp h
  obtain ⟨label, _, h⟩ := bind_eq_ok.mp h
  obtain ⟨kind, hkind, _⟩ := bind_eq_ok.mp h
  obtain ⟨data, hdata, hkind⟩ := bind_eq_ok.mp hkind
  obtain ⟨k, hk, hkind⟩ := bind_eq_ok.mp hkind
  obtain ⟨found, hfound, _⟩ := bind_eq_ok.mp hkind
  have hscalar : k.isScalar = true := by
    cases k with
    | list _ => cases hfound
    | object _ => cases hfound
    | _ => rfl
  exact ⟨Value.isObject_of_need hid,
    Value.fieldIs_of_getD hdata (Value.fieldIs_of_getD hk hscalar)⟩

theorem isDocument_of_ofDocument {g : Graph} (h : Graph.ofDocument v = .ok g) : IsDocument v := by
  unfold Graph.ofDocument at h
  obtain ⟨nodes, hnodes, h⟩ := bind_eq_ok.mp h
  obtain ⟨nodeParts, hnodeParts, h⟩ := bind_eq_ok.mp h
  obtain ⟨tables, htables, h⟩ := bind_eq_ok.mp h
  obtain ⟨edges, hedges, h⟩ := bind_eq_ok.mp h
  obtain ⟨edgeParts, hedgeParts, h⟩ := bind_eq_ok.mp h
  obtain ⟨relationships, hrelationships, _⟩ := bind_eq_ok.mp h
  refine ⟨Value.fieldIs_of_getD hnodes ⟨nodeParts, hnodeParts, fun n hn => ?_⟩,
    Value.fieldIs_of_getD hedges ⟨edgeParts, hedgeParts, fun e he => ?_⟩⟩
  · obtain ⟨t, ht⟩ := exists_mapM_eq_ok.mp ⟨tables, htables⟩ n hn
    exact isNode_of_ofValue ht
  · obtain ⟨r, hr⟩ := exists_mapM_eq_ok.mp ⟨relationships, hrelationships⟩ e he
    exact isEdge_of_ofValue hr

end Loaded

end SchemaAtlas.Schema
