import SchemaAtlas.Proofs.Faults

/-! # How computations end

What holds of the answer of a computation, or of its fault if it has none. Where no fault is
possible there is an answer.
-/
namespace SchemaAtlas

variable {ε α β : Type}

/-- A computation ends with an answer or with a fault of some kind. -/
def Ends (x : Except ε α) (fault : ε → Prop) (answer : α → Prop) : Prop :=
  match x with
  | .ok a => answer a
  | .error e => fault e

namespace Ends

variable {fault : ε → Prop} {p q : α → Prop} {r : β → Prop} {x : Except ε α}

theorem mono (h : Ends x fault p) (hpq : ∀ a, p a → q a) : Ends x fault q := by
  cases x with
  | error e => exact h
  | ok a => exact hpq a h

theorem bind {f : α → Except ε β} (h : Ends x fault p) (hf : ∀ a, p a → Ends (f a) fault r) :
    Ends (x >>= f) fault r := by
  cases x with
  | error e => exact h
  | ok a => exact hf a h

theorem exists_eq_ok (h : Ends x (fun _ => False) p) : ∃ a, x = .ok a ∧ p a := by
  cases x with
  | error e => exact h.elim
  | ok a => exact ⟨a, rfl, h⟩

theorem mapM {f : α → Except ε β} {xs : List α} (h : ∀ a ∈ xs, Ends (f a) fault r) :
    Ends (xs.mapM f) fault fun ys => ∀ b ∈ ys, r b := by
  induction xs with
  | nil => exact fun b hb => absurd hb List.not_mem_nil
  | cons a xs ih =>
    rw [List.mapM_cons]
    refine (h a List.mem_cons_self).bind fun b hb => ?_
    refine (ih fun c hc => h c (List.mem_cons_of_mem _ hc)).bind fun bs hbs => ?_
    exact List.forall_mem_cons.mpr ⟨hb, hbs⟩

theorem foldlM {f : α → β → Except ε α} {ys : List β} {a : α} (ha : p a)
    (h : ∀ a, p a → ∀ b ∈ ys, Ends (f a b) fault p) : Ends (ys.foldlM f a) fault p := by
  induction ys generalizing a with
  | nil => exact ha
  | cons b ys ih =>
    rw [List.foldlM_cons]
    refine (h a ha b List.mem_cons_self).bind fun c hc => ?_
    exact ih hc fun d hd e he => h d hd e (List.mem_cons_of_mem _ he)

end Ends

end SchemaAtlas
