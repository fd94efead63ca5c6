import Mathlib.Data.List.Basic

/-!
# Computations that can fail

When a computation has succeeded, in terms of its parts. Proofs about readers and other partial
functions take their computations apart with these lemmas. `FailsOnly` says how a computation can
fail, and is likewise shown part by part.
-/

namespace Except

variable {ε ε' α β : Type}

@[simp] lemma ok_bind (a : α) (f : α → Except ε β) : (Except.ok a >>= f) = f a := rfl

/-- A chain of two computations succeeds if both do. -/
lemma bind_eq_ok_iff {x : Except ε α} {f : α → Except ε β} {b : β} :
    (x >>= f) = .ok b ↔ ∃ a, x = .ok a ∧ f a = .ok b := by
  cases x with
  | error e =>
    constructor
    · intro h
      cases h
    · rintro ⟨a, h, -⟩
      cases h
  | ok a =>
    constructor
    · intro h
      exact ⟨a, rfl, h⟩
    · rintro ⟨a', h, hf⟩
      cases h
      exact hf

lemma map_eq_ok_iff {x : Except ε α} {f : α → β} {b : β} :
    x.map f = .ok b ↔ ∃ a, x = .ok a ∧ f a = b := by
  cases x <;> simp [Except.map]

lemma mapError_eq_ok_iff {x : Except ε α} {f : ε → ε'} {a : α} :
    x.mapError f = .ok a ↔ x = .ok a := by
  cases x <;> simp [Except.mapError]

lemma toOption_mapError (x : Except ε α) (f : ε → ε') :
    (x.mapError f).toOption = x.toOption := by
  cases x <;> rfl

lemma eq_ok_of_toOption {x : Except ε α} {a : α} (h : x.toOption = some a) : x = .ok a := by
  cases x with
  | error e => cases h
  | ok a' =>
    cases h
    rfl

/-- A computation that succeeds for every entry succeeds for the list. -/
lemma mapM_eq_ok {xs : List α} {f : α → Except ε β} {g : α → β} (h : ∀ x ∈ xs, f x = .ok (g x)) :
    xs.mapM f = .ok (xs.map g) := by
  induction xs with
  | nil => rfl
  | cons x xs ih =>
    rw [List.forall_mem_cons] at h
    rw [List.mapM_cons, h.1, ok_bind, ih h.2]
    rfl

/-- A computation succeeds for a list if it does for every entry. -/
lemma exists_mapM_eq_ok_iff {xs : List α} {f : α → Except ε β} :
    (∃ ys, xs.mapM f = .ok ys) ↔ ∀ x ∈ xs, ∃ y, f x = .ok y := by
  induction xs with
  | nil => exact ⟨fun _ => nofun, fun _ => ⟨[], rfl⟩⟩
  | cons x xs ih =>
    rw [List.forall_mem_cons, ← ih, List.mapM_cons]
    constructor
    · rintro ⟨ys, h⟩
      obtain ⟨y, hy, h⟩ := bind_eq_ok_iff.mp h
      obtain ⟨ys', hys, -⟩ := bind_eq_ok_iff.mp h
      exact ⟨⟨y, hy⟩, ys', hys⟩
    · rintro ⟨⟨y, hy⟩, ys, hys⟩
      exact ⟨y :: ys, by rw [hy, ok_bind, hys]; rfl⟩

/-- A computation that does not succeed fails. -/
lemma exists_eq_error_iff {x : Except ε α} : (∃ e, x = .error e) ↔ ¬ ∃ a, x = .ok a := by
  cases x <;> simp

/-! ### Kinds of failure -/

/-- If the computation fails, then with an error that satisfies `P`. -/
def FailsOnly (P : ε → Prop) (x : Except ε α) : Prop :=
  ∀ e, x = .error e → P e

namespace FailsOnly

variable {P : ε → Prop} {x : Except ε α}

lemma ok (a : α) : (Except.ok a).FailsOnly P :=
  nofun

lemma error {e : ε} (h : P e) : (Except.error e : Except ε α).FailsOnly P := by
  intro e' he
  cases he
  exact h

lemma bind {f : α → Except ε β} (hx : x.FailsOnly P) (hf : ∀ a, (f a).FailsOnly P) :
    (x >>= f).FailsOnly P := by
  cases x with
  | error e => exact error (hx e rfl)
  | ok a => exact hf a

lemma map (hx : x.FailsOnly P) (f : α → β) : (x.map f).FailsOnly P := by
  cases x with
  | error e => exact error (hx e rfl)
  | ok a => exact ok (f a)

lemma mapError {Q : ε' → Prop} {f : ε → ε'} (hx : x.FailsOnly P) (hf : ∀ e, P e → Q (f e)) :
    (x.mapError f).FailsOnly Q := by
  cases x with
  | error e => exact error (hf e (hx e rfl))
  | ok a => exact ok a

lemma of_mapError {Q : ε' → Prop} {f : ε → ε'} (hf : ∀ e, Q (f e)) (x : Except ε α) :
    (x.mapError f).FailsOnly Q := by
  cases x with
  | error e => exact error (hf e)
  | ok a => exact ok a

lemma ite {p : Prop} [Decidable p] {y : Except ε α} (hx : x.FailsOnly P) (hy : y.FailsOnly P) :
    (if p then x else y).FailsOnly P := by
  split
  · exact hx
  · exact hy

end FailsOnly

end Except
