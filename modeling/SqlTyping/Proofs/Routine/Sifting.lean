import Mathlib.Data.List.Perm.Basic
import Mathlib.Logic.Function.Iterate
import SqlTyping.Routine.Selection

/-!
# Sifting in place

A turn of a `Sieve` moves one of its marks towards the other, so there are as many turns as live
entries (`isDone_iterate_turn_iff`). What all turns together do to the live entries is told by
recursion on the list of them (`sift`): a whole pass leaves in front what `sift` keeps, and behind
that what it drops (`splits_pass`). Sifting neither loses nor repeats an entry (`sift_perm`), and it
divides the entries by the condition (`of_mem_sift`).
-/

namespace SqlTyping

/-! ## Sifting a list -/

/-- Moves the entries that satisfy `p` to the front: an entry that does not is exchanged with the
last entry that has not been looked at. The first part of the result holds the entries that satisfy
`p`, and the second part all others. -/
def sift {α : Type} (p : α → Bool) : List α → List α × List α
  | [] => ([], [])
  | x :: rest =>
    if p x then
      let (kept, dropped) := sift p rest
      (x :: kept, dropped)
    else
      match _h : rest.getLast? with
      | none => ([], [x])
      | some y =>
        let (kept, dropped) := sift p (y :: rest.dropLast)
        (kept, dropped ++ [x])
termination_by xs => xs.length
decreasing_by
  · simp
  · have : 0 < rest.length := List.length_pos_iff.mpr fun e => by simp [e] at _h
    simp only [List.length_cons, List.length_dropLast]
    omega

section Lists

variable {α : Type}

/-- All entries are there after sifting, those that were kept in front. -/
lemma sift_perm (p : α → Bool) (xs : List α) : ((sift p xs).1 ++ (sift p xs).2).Perm xs := by
  fun_induction sift p xs with
  | case1 => exact .nil
  | case2 x rest hx kept dropped hrest ih =>
    rw [hrest] at ih
    exact ih.cons x
  | case3 x rest hx hlast =>
    rw [List.getLast?_eq_none_iff.mp hlast]
    exact .refl _
  | case4 x rest hx y hlast kept dropped hrest ih =>
    rw [hrest] at ih
    -- The last entry `y` takes the place of `x`, which goes to the end.
    have hlast' : (y :: rest.dropLast).Perm rest := by
      have hsplit : rest.dropLast ++ [y] = rest := List.dropLast_append_getLast? y hlast
      have hperm := (List.perm_append_singleton y rest.dropLast).symm
      rwa [hsplit] at hperm
    rw [← List.append_assoc]
    exact (List.perm_append_singleton x _).trans ((ih.trans hlast').cons x)

/-- The entries that were kept satisfy the condition, and the others do not. -/
lemma of_mem_sift (p : α → Bool) (xs : List α) :
    (∀ x ∈ (sift p xs).1, p x = true) ∧ ∀ x ∈ (sift p xs).2, p x = false := by
  fun_induction sift p xs with
  | case1 => exact ⟨nofun, nofun⟩
  | case2 x rest hx kept dropped hrest ih =>
    rw [hrest] at ih
    exact ⟨List.forall_mem_cons.mpr ⟨hx, ih.1⟩, ih.2⟩
  | case3 x rest hx hlast => exact ⟨nofun, by simpa using hx⟩
  | case4 x rest hx y hlast kept dropped hrest ih =>
    rw [hrest] at ih
    refine ⟨ih.1, List.forall_mem_append.mpr ⟨ih.2, ?_⟩⟩
    simpa using hx

/-- Sifting looks at the entries through the condition alone. -/
lemma sift_map {β : Type} (f : β → α) (p : α → Bool) (xs : List β) :
    sift p (xs.map f) =
      ((sift (fun x => p (f x)) xs).1.map f, (sift (fun x => p (f x)) xs).2.map f) := by
  fun_induction sift (fun x => p (f x)) xs with
  | case1 => rw [List.map_nil, sift]
  | case2 x rest hx kept dropped hrest ih =>
    rw [hrest] at ih
    rw [List.map_cons, sift, if_pos hx, ih]
    rfl
  | case3 x rest hx hlast =>
    rw [List.getLast?_eq_none_iff.mp hlast]
    simp [sift, hx]
  | case4 x rest hx y hlast kept dropped hrest ih =>
    rw [hrest] at ih
    have hlast' : (rest.map f).getLast? = some (f y) := by rw [List.getLast?_map, hlast]; rfl
    rw [List.map_cons, sift, if_neg hx]
    split
    · next hnone =>
      rw [hlast'] at hnone
      cases hnone
    · next z hz =>
      rw [hlast'] at hz
      cases hz
      rw [← List.map_dropLast, ← List.map_cons, ih, List.map_append]
      rfl

end Lists

namespace Sieve

variable {α : Type}

/-! ## Turns -/

/-- The parts of a row: what is kept, what is still to be looked at, and what is dropped. -/
structure Splits (s : Sieve α) (front middle back : List α) : Prop where
  row : s.row.toList = front ++ (middle ++ back)
  next : s.next = front.length
  live : s.live = front.length + middle.length

variable {p : α → Bool} {s : Sieve α} {front middle back rest : List α} {x y : α}

/-- The entry that is looked at next. -/
lemma Splits.getElem_next (h : s.Splits front (x :: rest) back) (hnext : s.next < s.row.size) :
    s.row[s.next] = x := by
  have hget : s.row.toList[s.next]? = some x := by simp [h.row, h.next]
  rw [Array.getElem?_toList, Array.getElem?_eq_getElem hnext] at hget
  exact Option.some.inj hget

/-- An entry that satisfies the condition is kept where it is. -/
lemma Splits.turn_of_pos (h : s.Splits front (x :: rest) back) (hx : p x = true) :
    (s.turn p).Splits (front ++ [x]) rest back := by
  have hlt : s.next < s.live := by simp [h.next, h.live]
  have hturn : s.turn p = { s with next := s.next + 1, next_le := hlt } := by
    simp [turn, hlt, h.getElem_next, hx]
  rw [hturn]
  constructor
  · simp [h.row]
  · simp [h.next]
  · simp [h.live, Nat.add_comm, Nat.add_left_comm]

/-- Any other entry is exchanged with the last live one. -/
lemma Splits.turn_eq_swap (h : s.Splits front (x :: rest) back) (hx : p x = false)
    (hy : (x :: rest).getLast? = some y) :
    (s.turn p).next = s.next ∧ (s.turn p).live = s.live - 1 ∧
      (s.turn p).row.toList = (s.row.toList.set s.next y).set (s.live - 1) x := by
  have hlt : s.next < s.live := by simp [h.next, h.live]
  have hlast : s.live - 1 < s.row.size := by
    have := s.live_le
    omega
  have hget : s.row[s.live - 1] = y := by
    have hget : s.row.toList[s.live - 1]? = some y := by
      rw [List.getLast?_eq_getElem?] at hy
      rw [h.row, h.live, List.getElem?_append_right (by simp),
        List.getElem?_append_left (by simp), ← hy]
      congr 1
      simp
    rw [Array.getElem?_toList, Array.getElem?_eq_getElem hlast] at hget
    exact Option.some.inj hget
  simp [turn, hlt, h.getElem_next, hx, Array.toList_swap, hget]

/-- If it is the last live one itself, it is dropped where it is. -/
lemma Splits.turn_of_last (h : s.Splits front [x] back) (hx : p x = false) :
    (s.turn p).Splits front [] (x :: back) := by
  obtain ⟨hnext, hlive, hrow⟩ := h.turn_eq_swap hx rfl
  constructor
  · rw [hrow, h.row, h.next, h.live]
    simp
  · rw [hnext, h.next]
  · simp [hlive, h.live]

/-- Otherwise the last live entry takes its place, and is looked at next. -/
lemma Splits.turn_of_neg (h : s.Splits front (x :: (rest ++ [y])) back) (hx : p x = false) :
    (s.turn p).Splits front (y :: rest) (x :: back) := by
  obtain ⟨hnext, hlive, hrow⟩ := h.turn_eq_swap (y := y) hx (by simp [List.getLast?_cons])
  constructor
  · have hplace : front.length + (x :: (rest ++ [y])).length - 1 =
        front.length + (rest.length + 1) := by
      simp
    rw [hrow, h.row, h.next, h.live, hplace]
    simp [List.set_append_right]
  · rw [hnext, h.next]
  · simp [hlive, h.live]

/-- All turns together sift the entries that are to be looked at. -/
lemma Splits.iterate_turn (h : s.Splits front middle back) :
    ((turn p)^[middle.length] s).Splits (front ++ (sift p middle).1) []
      ((sift p middle).2 ++ back) := by
  fun_induction sift p middle generalizing s front back with
  | case1 => simpa using h
  | case2 x rest hx kept dropped hrest ih =>
    have ih := ih (h.turn_of_pos hx)
    rw [hrest] at ih
    simpa [Function.iterate_succ_apply] using ih
  | case3 x rest hx hlast =>
    rw [List.getLast?_eq_none_iff.mp hlast] at h ⊢
    simpa using h.turn_of_last (by simpa using hx)
  | case4 x rest hx y hlast kept dropped hrest ih =>
    have hsplit : rest.dropLast ++ [y] = rest := List.dropLast_append_getLast? y hlast
    rw [← hsplit] at h
    have ih := ih (h.turn_of_neg (by simpa using hx))
    rw [hrest] at ih
    rw [← hsplit]
    simpa [Function.iterate_succ_apply] using ih

/-- Whether every live entry has been looked at. -/
def IsDone (s : Sieve α) : Prop := s.next = s.live

/-- The turns come to an end when there were as many of them as entries to look at, and not
before. -/
lemma isDone_iterate_turn_iff (p : α → Bool) (s : Sieve α) (n : Nat) :
    ((turn p)^[n] s).IsDone ↔ s.live - s.next ≤ n := by
  have hremaining : ((turn p)^[n] s).live - ((turn p)^[n] s).next = s.live - s.next - n := by
    induction n generalizing s with
    | zero => rfl
    | succ n ih =>
      rw [Function.iterate_succ_apply, ih, remaining_turn]
      omega
  have hle := ((turn p)^[n] s).next_le
  unfold IsDone
  omega

/-! ## Passes -/

/-- Turns are taken as long as there are entries to look at. -/
lemma run_eq_iterate (p : α → Bool) (s : Sieve α) : s.run p = (turn p)^[s.live - s.next] s := by
  fun_induction run p s with
  | case1 s hlt ih =>
    have hturns : s.live - s.next = s.live - s.next - 1 + 1 := by omega
    rw [ih, remaining_turn, hturns, Function.iterate_succ_apply, Nat.add_sub_cancel]
  | case2 s hle =>
    have hnone : s.live - s.next = 0 := by omega
    rw [hnone, Function.iterate_zero_apply]

lemma pass_eq_iterate (p : α → Bool) (s : Sieve α) : s.pass p = (turn p)^[s.live] s.restart :=
  run_eq_iterate p s.restart

lemma kept_start (row : Array α) : (start row).kept = row.toList :=
  List.take_of_length_le (Nat.le_refl _)

lemma splits_restart (s : Sieve α) :
    s.restart.Splits [] s.kept (s.row.toList.drop s.live) := by
  have hle := s.live_le
  constructor
  · exact (List.take_append_drop s.live s.row.toList).symm
  · rfl
  · simp [restart, kept, hle]

lemma length_kept (s : Sieve α) : s.kept.length = s.live := by
  simpa [restart] using s.splits_restart.live.symm

/-- The parts of a row after a pass. -/
lemma splits_pass (p : α → Bool) (s : Sieve α) :
    (s.pass p).Splits (sift p s.kept).1 []
      ((sift p s.kept).2 ++ s.row.toList.drop s.live) := by
  have h := (s.splits_restart).iterate_turn (p := p)
  rwa [length_kept, ← pass_eq_iterate] at h

/-- A pass keeps what sifting keeps. -/
lemma kept_pass (p : α → Bool) (s : Sieve α) : (s.pass p).kept = (sift p s.kept).1 := by
  have h := s.splits_pass p
  rw [kept, h.row, h.live]
  simp

/-- A pass rearranges the row. -/
lemma row_pass_perm (p : α → Bool) (s : Sieve α) : (s.pass p).row.toList.Perm s.row.toList := by
  have hsift := (sift_perm p s.kept).append_right (s.row.toList.drop s.live)
  rw [(s.splits_pass p).row, List.nil_append, ← List.append_assoc]
  rwa [kept, List.take_append_drop] at hsift

end Sieve

end SqlTyping
