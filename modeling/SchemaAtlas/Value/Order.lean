import SchemaAtlas.Value.Arithmetic
import SchemaAtlas.Value.Key

/-! # Values in order

Sorting of values by size or by code points. Values of different kinds have no order, so
they cannot be sorted together.
-/
namespace SchemaAtlas.Value

def distinct : (seen : List Value) → List Value → List Value
  | _, [] => []
  | seen, v :: vs =>
    if seen.contains v.key then distinct seen vs else v :: distinct (v.key :: seen) vs

def haveOrder (vs : List Value) : Bool :=
  vs.length ≤ 1 || vs.all (fun v => v.number?.isSome) || vs.all fun v => v.kind = .str

def inOrder (a b : Value) : Bool :=
  match less b a with
  | .ok later => !later
  | .error _ => true

def sortDistinct (vs : List Value) : Except Fault (List Value) :=
  let ds := distinct [] vs
  if haveOrder ds then .ok (ds.mergeSort inOrder) else .error .unsuitable

theorem sortDistinct_perm {vs sorted : List Value} (h : sortDistinct vs = .ok sorted) :
    sorted.Perm (distinct [] vs) := by
  simp only [sortDistinct] at h
  split at h
  · cases h; exact List.mergeSort_perm _ _
  · cases h

end SchemaAtlas.Value
