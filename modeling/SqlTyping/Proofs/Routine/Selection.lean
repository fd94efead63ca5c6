import SqlTyping.Proofs.Routine.Sifting
import SqlTyping.Routine.Signature

/-!
# Selecting candidates

Selection exchanges entries that are dropped with entries from the end, so it does not keep the
order. What it returns are the entries that satisfy the condition (`select_perm_filter`), and it
looks at them through the condition alone (`select_map`). In particular the order of the entries
only affects the order of the result (`select_perm`).

Candidates can be told by their indexes, which are then sifted in place of them. Passes for several
conditions keep the indexes whose candidates satisfy all of them (`passes_keep_exactly`).
-/

namespace SqlTyping

section Select

variable {α : Type} {p : α → Bool} {xs ys : List α}

/-- The entries that are selected are those that sifting keeps. -/
lemma select_eq_sift (p : α → Bool) (xs : List α) : select p xs = (sift p xs).1 := by
  rw [select, Sieve.kept_pass, Sieve.kept_start]

lemma select_map {β : Type} (f : β → α) (p : α → Bool) (xs : List β) :
    select p (xs.map f) = (select (fun x => p (f x)) xs).map f := by
  rw [select_eq_sift, sift_map, select_eq_sift]

/-- The entries that are selected are those that satisfy the condition. -/
lemma select_perm_filter (p : α → Bool) (xs : List α) : (select p xs).Perm (xs.filter p) := by
  have hperm := (sift_perm p xs).filter p
  obtain ⟨hkept, hdropped⟩ := of_mem_sift p xs
  rw [List.filter_append, List.filter_eq_self.mpr hkept,
    List.filter_eq_nil_iff.mpr (by simpa using hdropped), List.append_nil] at hperm
  rw [select_eq_sift]
  exact hperm

lemma mem_select {x : α} : x ∈ select p xs ↔ x ∈ xs ∧ p x = true := by
  rw [(select_perm_filter p xs).mem_iff, List.mem_filter]

/-- Selecting from the same entries in another order gives the same entries. -/
lemma select_perm (h : xs.Perm ys) : (select p xs).Perm (select p ys) :=
  ((select_perm_filter p xs).trans (h.filter p)).trans (select_perm_filter p ys).symm

end Select

namespace Sieve

variable {α : Type}

/-- A pass selects from the live entries. -/
lemma kept_pass_eq_select (p : α → Bool) (s : Sieve α) : (s.pass p).kept = select p s.kept := by
  rw [kept_pass, select_eq_sift]

/-- Passes for several conditions, one after the other. -/
def passes (ps : List (α → Bool)) (s : Sieve α) : Sieve α :=
  ps.foldl (fun s p => s.pass p) s

lemma row_passes_perm (ps : List (α → Bool)) (s : Sieve α) :
    (s.passes ps).row.toList.Perm s.row.toList := by
  induction ps generalizing s with
  | nil => exact .refl _
  | cons p ps ih => exact (ih (s.pass p)).trans (s.row_pass_perm p)

/-- What several passes keep satisfies all conditions. -/
lemma kept_passes_perm (ps : List (α → Bool)) (s : Sieve α) :
    (s.passes ps).kept.Perm (s.kept.filter fun x => ps.all fun p => p x) := by
  induction ps generalizing s with
  | nil => simp [passes]
  | cons p ps ih =>
    have hrest := ih (s.pass p)
    have hfirst := (select_perm_filter p s.kept).filter fun x => ps.all fun p => p x
    rw [kept_pass_eq_select] at hrest
    rw [List.filter_filter] at hfirst
    refine (hrest.trans hfirst).trans (.of_eq (List.filter_congr fun x _ => ?_))
    rw [List.all_cons, Bool.and_comm]

/-- A condition on overloads as one on their indexes. -/
def byIndex (overloads : List Signature) (condition : Signature → Bool)
    (i : Fin overloads.length) : Bool :=
  condition (overloads.get i)

/-- Sifting indexes of overloads in place. A pass ends after as many turns as there are indexes, and
leaves the row as `sift` does. What it keeps stands in front of the row and is, up to the order,
what satisfies the condition, and the row is a rearrangement of what it was; the overloads of the
indexes are those that `select` takes. Passes for several conditions keep the indexes whose
overloads satisfy all of them. -/
theorem passes_keep_exactly (overloads : List Signature)
    (indexes : Array (Fin overloads.length)) :
    (∀ condition : Signature → Bool,
      let p := byIndex overloads condition
      let s := (start indexes).pass p
      (∀ n, ((turn p)^[n] (start indexes)).IsDone ↔ indexes.size ≤ n) ∧ s.IsDone ∧
        s.row.toList = (sift p indexes.toList).1 ++ (sift p indexes.toList).2 ∧
        s.kept <+: s.row.toList ∧ s.kept.Perm (indexes.toList.filter p) ∧
        s.row.toList.Perm indexes.toList ∧
        s.kept.map overloads.get = select condition (indexes.toList.map overloads.get)) ∧
    ∀ conditions : List (Signature → Bool),
      let s := (start indexes).passes (conditions.map (byIndex overloads))
      s.kept <+: s.row.toList ∧
        s.kept.Perm (indexes.toList.filter fun i => conditions.all fun c => c (overloads.get i)) ∧
        s.row.toList.Perm indexes.toList := by
  have hstart := kept_start indexes
  constructor
  · intro condition p s
    have hkept : s.kept = select p indexes.toList := by rw [← hstart, ← kept_pass_eq_select]
    refine ⟨fun n => isDone_iterate_turn_iff p (start indexes) n, ?_, ?_, List.take_prefix _ _,
      hkept ▸ select_perm_filter p indexes.toList, row_pass_perm p _, ?_⟩
    · change ((start indexes).pass p).IsDone
      rw [pass_eq_iterate]
      exact (isDone_iterate_turn_iff p (start indexes) _).mpr (Nat.sub_le _ _)
    · have hrow := ((start indexes).splits_pass p).row
      have hback : (start indexes).row.toList.drop (start indexes).live = [] :=
        List.drop_of_length_le (Nat.le_refl _)
      rwa [hstart, hback, List.append_nil] at hrow
    · rw [hkept, select_map]
      rfl
  · intro conditions s
    refine ⟨List.take_prefix _ _, ?_, row_passes_perm _ _⟩
    have hperm := kept_passes_perm (conditions.map (byIndex overloads)) (start indexes)
    rw [hstart] at hperm
    refine hperm.trans (.of_eq (List.filter_congr fun i _ => ?_))
    rw [List.all_map]
    rfl

end Sieve

end SqlTyping
