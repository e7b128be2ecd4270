import SchemaAtlas.Json.Printer
import Mathlib.Data.List.Basic

/-! # Line ends of printed documents

A line of a printed document ends with a line feed, and strings escape their line ends. So there
is no carriage return in it, whatever the document holds.
-/
namespace SchemaAtlas.Json

/-- A text without carriage returns. -/
def HasNoReturn (s : List Char) : Prop :=
  '\r' ∉ s

instance (s : List Char) : Decidable (HasNoReturn s) :=
  inferInstanceAs (Decidable ('\r' ∉ s))

theorem hasNoReturn_of_isDigit {s : List Char} (h : ∀ c ∈ s, c.isDigit = true) : HasNoReturn s := by
  intro hm
  have hdigit := h '\r' hm
  cases hdigit

namespace HasNoReturn

variable {s t : List Char}

theorem append (hs : HasNoReturn s) (ht : HasNoReturn t) : HasNoReturn (s ++ t) := by
  intro hm
  rcases List.mem_append.mp hm with hm | hm
  · exact hs hm
  · exact ht hm

theorem cons {c : Char} (hc : c ≠ '\r') (hs : HasNoReturn s) : HasNoReturn (c :: s) := by
  intro hm
  rcases List.mem_cons.mp hm with hm | hm
  · exact hc hm.symm
  · exact hs hm

theorem subset (hs : HasNoReturn s) (h : t ⊆ s) : HasNoReturn t :=
  fun hm => hs (h hm)

theorem replicate {c : Char} (hc : c ≠ '\r') (n : Nat) : HasNoReturn (List.replicate n c) := by
  intro hm
  exact hc (List.eq_of_mem_replicate hm).symm

theorem ite {p : Prop} [Decidable p] (hs : HasNoReturn s) (ht : HasNoReturn t) :
    HasNoReturn (if p then s else t) := by
  split
  · exact hs
  · exact ht

end HasNoReturn

/-! Numbers are written with digits and a few other characters. -/

theorem hasNoReturn_digitsOf (n : Nat) : HasNoReturn (Number.digitsOf n) :=
  hasNoReturn_of_isDigit fun _ hc => Nat.isDigit_of_mem_toDigits (by decide) (by decide) hc

theorem hasNoReturn_toString_nat (n : Nat) : HasNoReturn (toString n).toList := by
  rw [Nat.toString_eq_ofList_toDigits, String.toList_ofList]
  exact hasNoReturn_digitsOf n

theorem hasNoReturn_toString_int (n : Int) : HasNoReturn (toString n).toList := by
  cases n with
  | ofNat m => exact hasNoReturn_toString_nat m
  | negSucc m =>
    change HasNoReturn ("-" ++ toString (m + 1)).toList
    rw [String.toList_append]
    exact .append (by decide) (hasNoReturn_toString_nat (m + 1))

theorem hasNoReturn_exponentText (e : Int) : HasNoReturn (Number.exponentText e) := by
  have hdigits := hasNoReturn_digitsOf e.natAbs
  unfold Number.exponentText
  refine .cons (by decide) (.cons (by split <;> decide) ?_)
  exact .ite (.cons (by decide) hdigits) hdigits

theorem trimZeros_subset (ds : List Char) : Number.trimZeros ds ⊆ ds := by
  intro c hc
  have hmem := (List.dropWhile_sublist _).subset (List.mem_reverse.mp hc)
  exact List.mem_reverse.mp hmem

theorem hasNoReturn_decimal (d : Number.Decimal) : HasNoReturn d.text := by
  have hdigits := (hasNoReturn_digitsOf d.digits).subset (trimZeros_subset _)
  unfold Number.Decimal.text
  dsimp only
  split
  · exact .cons (by decide) (.cons (by decide) (.append (.replicate (by decide) _) hdigits))
  split
  · refine .append ?_ (.cons (by decide) (.ite (by decide) ?_))
    · exact .append (hdigits.subset (List.take_subset _ _)) (.replicate (by decide) _)
    · exact hdigits.subset (List.drop_subset _ _)
  · split
    · decide
    · next c heq =>
      rw [heq] at hdigits
      exact hdigits.append (hasNoReturn_exponentText _)
    · next c rest _ heq =>
      rw [heq] at hdigits
      have hc : c ≠ '\r' := by
        rintro rfl
        exact hdigits List.mem_cons_self
      have hrest := hdigits.subset (List.subset_cons_self c rest)
      exact .cons hc (.cons (by decide) (hrest.append (hasNoReturn_exponentText _)))

theorem hasNoReturn_number (x : Float) : HasNoReturn (Number.text x).toList := by
  unfold Number.text
  split
  · decide
  · rw [String.toList_ofList]
    refine .append (.ite (by decide) (by decide)) (.ite (by decide) (.ite (by decide) ?_))
    exact hasNoReturn_decimal _

theorem hasNoReturn_floatText (x : Float) : HasNoReturn (floatText x).toList := by
  unfold floatText
  split
  · decide
  split
  · exact hasNoReturn_number x
  · split <;> decide

/-! Strings escape what is not printable. -/

theorem hasNoReturn_hexWord (n : Nat) : HasNoReturn (hexWord n) := by
  have hdigit : ∀ m < 16, Nat.digitChar m ≠ '\r' := by decide
  intro hm
  obtain ⟨m, hmem, hchar⟩ := List.mem_map.mp hm
  refine hdigit m ?_ hchar
  simp only [List.mem_cons, List.not_mem_nil, or_false] at hmem
  omega

theorem hasNoReturn_escaped (c : Char) : HasNoReturn (escaped c) := by
  unfold escaped
  iterate 7 refine .ite (by decide) ?_
  split
  · next h =>
    refine .cons ?_ (by decide)
    rintro rfl
    exact absurd h (by decide)
  · have hword (n : Nat) : HasNoReturn ('\\' :: 'u' :: hexWord n) :=
      .cons (by decide) (.cons (by decide) (hasNoReturn_hexWord n))
    exact .ite (hword _) ((hword _).append (hword _))

theorem hasNoReturn_quoted (s : String) : HasNoReturn (quoted s).toList := by
  rw [quoted, String.toList_ofList]
  refine .cons (by decide) (.append ?_ (by decide))
  intro hm
  obtain ⟨c, _, hc⟩ := List.mem_flatMap.mp hm
  exact hasNoReturn_escaped c hc

theorem hasNoReturn_atom (v : Value) : HasNoReturn (atom v).toList := by
  cases v with
  | null => decide
  | bool b => cases b <;> decide
  | int n => exact hasNoReturn_toString_int n
  | float x => exact hasNoReturn_floatText x
  | str s => exact hasNoReturn_quoted s
  | moment m => exact hasNoReturn_quoted m.text
  | list _ => exact (by decide : HasNoReturn "[]".toList)
  | object _ => exact (by decide : HasNoReturn "\x7b\x7d".toList)

theorem hasNoReturn_newLine (level : Nat) : HasNoReturn (newLine level).toList := by
  rw [newLine, String.toList_ofList]
  exact .cons (by decide) (.replicate (by decide) _)

mutual

theorem hasNoReturn_indented (level : Nat) : (v : Value) → HasNoReturn (indented level v).toList
  | .list (v :: vs) => by
    simp only [indented, String.toList_append]
    exact .append (.append (.append (by decide) (hasNoReturn_newLine _))
      (hasNoReturn_indented _ v)) (hasNoReturn_items level vs)
  | .object ((k, v) :: fs) => by
    simp only [indented, String.toList_append]
    exact .append (.append (.append (.append (.append (by decide) (hasNoReturn_newLine _))
      (hasNoReturn_quoted k)) (by decide)) (hasNoReturn_indented _ v)) (hasNoReturn_fields level fs)
  | .list [] => hasNoReturn_atom _
  | .object [] => hasNoReturn_atom _
  | .null => hasNoReturn_atom _
  | .bool _ => hasNoReturn_atom _
  | .int _ => hasNoReturn_atom _
  | .float _ => hasNoReturn_atom _
  | .str _ => hasNoReturn_atom _
  | .moment _ => hasNoReturn_atom _

theorem hasNoReturn_items (level : Nat) :
    (vs : List Value) → HasNoReturn (indentedItems level vs).toList
  | [] => by
    rw [indentedItems, String.toList_append]
    exact .append (hasNoReturn_newLine _) (by decide)
  | v :: vs => by
    simp only [indentedItems, String.toList_append]
    exact .append (.append (.append (by decide) (hasNoReturn_newLine _))
      (hasNoReturn_indented _ v)) (hasNoReturn_items level vs)

theorem hasNoReturn_fields (level : Nat) :
    (fs : List (String × Value)) → HasNoReturn (indentedFields level fs).toList
  | [] => by
    rw [indentedFields, String.toList_append]
    exact .append (hasNoReturn_newLine _) (by decide)
  | (k, v) :: fs => by
    simp only [indentedFields, String.toList_append]
    exact .append (.append (.append (.append (.append (by decide) (hasNoReturn_newLine _))
      (hasNoReturn_quoted k)) (by decide)) (hasNoReturn_indented _ v)) (hasNoReturn_fields level fs)

end

theorem hasNoReturn_pretty (v : Value) : HasNoReturn (pretty v).toList :=
  hasNoReturn_indented 0 v

end SchemaAtlas.Json
