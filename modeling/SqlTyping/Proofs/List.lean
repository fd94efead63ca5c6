import Mathlib.Data.List.Forall2
import Mathlib.Data.List.Infix
import Mathlib.Data.List.Sort
import Mathlib.Data.List.TakeWhile

/-!
# Lists

Facts about lists in general: when filters, scans and images of them agree, where a list divides,
and what is found in lists that are ordered by a key. Proofs about catalogs, letters, settings and
operands share them.
-/

namespace List

section Entries

variable {α β : Type} {p q : α → Bool} {xs ys us vs : List α}

/-! ## Filters and scans -/

lemma filter_eq_filter_iff : xs.filter p = xs.filter q ↔ ∀ x ∈ xs, p x = q x := by
  constructor
  · intro h x hx
    have hmem : x ∈ xs.filter p ↔ x ∈ xs.filter q := by rw [h]
    rw [List.mem_filter, List.mem_filter, and_iff_right hx, and_iff_right hx] at hmem
    exact Bool.eq_iff_iff.mpr hmem
  · exact List.filter_congr

/-- The entries whose images are `true`, picked by the images beside them. -/
lemma map_fst_filter_snd_zip_map (xs : List α) (g : α → Bool) :
    ((xs.zip (xs.map g)).filter (·.2)).map (·.1) = xs.filter g := by
  induction xs with
  | nil => rfl
  | cons x xs ih =>
    rw [List.map_cons, List.zip_cons_cons, List.filter_cons, List.filter_cons]
    split
    · rw [List.map_cons, ih]
    · exact ih

/-- A list whose entries with a property come first is put together from its two parts. -/
lemma filter_append_filter_not (h : xs.Pairwise fun x y => q y = true → q x = true) :
    xs.filter q ++ xs.filter (fun x => !q x) = xs := by
  induction xs with
  | nil => rfl
  | cons x xs ih =>
    rw [List.pairwise_cons] at h
    cases hx : q x with
    | true => simpa [hx] using ih h.2
    | false =>
      have hnone : ∀ y ∈ xs, q y = false := by
        intro y hy
        by_contra hq
        rw [h.1 y hy (Bool.eq_true_of_not_eq_false hq)] at hx
        cases hx
      have hnot : xs.filter (fun x => !q x) = xs :=
        List.filter_eq_self.mpr fun y hy => by rw [hnone y hy]; rfl
      have hfilter : xs.filter q = [] :=
        List.filter_eq_nil_iff.mpr fun y hy => Bool.not_eq_true _ ▸ hnone y hy
      simp [hx, hnot, hfilter]

lemma takeWhile_eq_filter (h : xs.Pairwise fun x y => q y = true → q x = true) :
    xs.takeWhile q = xs.filter q := by
  have hrest : (xs.filter (fun x => !q x)).takeWhile q = [] := by
    rw [List.takeWhile_eq_nil_iff]
    intro hlength
    simpa using (List.mem_filter.mp (List.get_mem _ ⟨0, hlength⟩)).2
  calc xs.takeWhile q
      = (xs.filter q ++ xs.filter (fun x => !q x)).takeWhile q := by
        rw [filter_append_filter_not h]
    _ = xs.filter q := by
        rw [List.takeWhile_append_of_pos fun x hx => (List.mem_filter.mp hx).2, hrest,
          List.append_nil]

lemma dropWhile_eq_filter_not (h : xs.Pairwise fun x y => q y = true → q x = true) :
    xs.dropWhile q = xs.filter (fun x => !q x) := by
  have hparts : xs.takeWhile q ++ xs.dropWhile q = xs.filter q ++ xs.filter (fun x => !q x) := by
    rw [List.takeWhile_append_dropWhile, filter_append_filter_not h]
  rw [takeWhile_eq_filter h] at hparts
  exact List.append_cancel_left hparts

lemma find?_dropWhile (h : ∀ x, p x = true → q x = false) (xs : List α) :
    (xs.dropWhile p).find? q = xs.find? q := by
  induction xs with
  | nil => rfl
  | cons x xs ih =>
    rw [List.dropWhile_cons]
    split
    · next hp => rw [ih, List.find?_cons, h x hp]
    · rfl

lemma find?_takeWhile (h : xs.Pairwise fun x y => p x = false → p y = false)
    (hq : ∀ x, p x = false → q x = false) :
    (xs.takeWhile p).find? q = xs.find? q := by
  induction h with
  | nil => rfl
  | @cons x xs hlater _ ih =>
    rw [List.takeWhile_cons]
    split
    · rw [List.find?_cons, List.find?_cons, ih]
    · next hp =>
      have hp : p x = false := Bool.eq_false_iff.mpr hp
      have hnone : (x :: xs).find? q = none := by
        rw [List.find?_eq_none]
        intro y hy
        have hpy : p y = false := by
          rcases List.mem_cons.mp hy with rfl | hy
          · exact hp
          · exact hlater y hy hp
        rw [hq y hpy]
        exact Bool.false_ne_true
      exact hnone.symm

/-! ## Images -/

lemma map_eq_map_iff_forall₂ {f : α → β} :
    xs.map f = ys.map f ↔ List.Forall₂ (fun x y => f x = f y) xs ys := by
  rw [← List.forall₂_eq_eq_eq, List.forall₂_map_left_iff, List.forall₂_map_right_iff]

lemma forall₂_and_iff {R S : α → α → Prop} :
    List.Forall₂ (fun x y => R x y ∧ S x y) xs ys ↔
      List.Forall₂ R xs ys ∧ List.Forall₂ S xs ys := by
  simp only [List.forall₂_iff_zip]
  constructor
  · rintro ⟨hlength, hboth⟩
    exact ⟨⟨hlength, fun h => (hboth h).1⟩, hlength, fun h => (hboth h).2⟩
  · rintro ⟨⟨hlength, hR⟩, -, hS⟩
    exact ⟨hlength, fun h => ⟨hR h, hS h⟩⟩

lemma getElem?_take_eq_some_iff {n i : Nat} {x : α} :
    (xs.take n)[i]? = some x ↔ i < n ∧ xs[i]? = some x := by
  rw [List.getElem?_take, Option.ite_none_right_eq_some]

/-- A list is determined by its members and their images, if these are distinct. -/
lemma eq_of_perm_of_map_eq {f : α → β} (hperm : xs.Perm ys)
    (hinj : ∀ x ∈ xs, ∀ y ∈ xs, f x = f y → x = y) (h : xs.map f = ys.map f) : xs = ys := by
  refine List.ext_getElem hperm.length_eq fun i hi hi' => ?_
  have himage : f xs[i] = f ys[i] := by
    have hmap := congrArg (fun zs => zs[i]?) h
    simpa [hi, hi'] using hmap
  exact hinj _ (List.getElem_mem hi) _ (hperm.symm.subset (List.getElem_mem hi')) himage

/-! ## Parts -/

/-- Two lists are equal up to the first entry of another kind, and from there on. -/
lemma append_inj_of_forall (hxs : ∀ x ∈ xs, p x = true) (hys : ∀ y ∈ ys, p y = true)
    (hus : ∀ u ∈ us.head?, p u = false) (hvs : ∀ v ∈ vs.head?, p v = false)
    (h : xs ++ us = ys ++ vs) : xs = ys ∧ us = vs := by
  have htake : ∀ {xs us : List α}, (∀ x ∈ xs, p x = true) → (∀ u ∈ us.head?, p u = false) →
      (xs ++ us).takeWhile p = xs := by
    intro xs us hxs hus
    rw [List.takeWhile_append_of_pos hxs]
    cases us with
    | nil => simp
    | cons u us => simp [hus u rfl]
  have hfirst : xs = ys := by rw [← htake hxs hus, h, htake hys hvs]
  subst hfirst
  exact ⟨rfl, List.append_cancel_left h⟩

/-- There is only one place in a list at which something begins to hold that goes on to hold. -/
lemma eq_of_first_failure {fails : List α → Prop}
    (mono : ∀ {as bs : List α}, as <+: bs → fails as → fails bs) {as bs cs ds : List α} {a b : α}
    (heq : as ++ a :: cs = bs ++ b :: ds) (has : ¬ fails as) (hbs : ¬ fails bs)
    (ha : fails (as ++ [a])) (hb : fails (bs ++ [b])) : as = bs ∧ a = b := by
  -- If one part were shorter, there would be a failure within the other one.
  have longer : ∀ {as bs cs ds : List α} {a b : α}, as ++ a :: cs = bs ++ b :: ds →
      fails (as ++ [a]) → ¬ fails bs → ¬ as.length < bs.length := by
    intro as bs cs ds a b h hfails hnot hlt
    have hleft : as ++ [a] <+: as ++ a :: cs := ⟨cs, by simp⟩
    have hright : bs <+: as ++ a :: cs := ⟨b :: ds, h.symm⟩
    have hpre : as ++ [a] <+: bs :=
      List.prefix_of_prefix_length_le hleft hright (by simpa using Nat.succ_le_of_lt hlt)
    exact hnot (mono hpre hfails)
  have hlength : as.length = bs.length := by
    have := longer heq ha hbs
    have := longer heq.symm hb has
    omega
  obtain ⟨hpre, hrest⟩ := List.append_inj heq hlength
  cases hrest
  exact ⟨hpre, rfl⟩

/-! ## Ordered lists -/

variable [LinearOrder β]

/-- A scan from the first entry that is not below `k`, as long as entries are at `k`, finds all
entries at `k`. -/
lemma scan_eq_filter (f : α → β) (k : β) (hxs : xs.Pairwise fun x y => f x ≤ f y)
    (hp : ∀ x, p x = true ↔ f x < k) (hq : ∀ x, q x = true ↔ f x = k) :
    (xs.dropWhile p).takeWhile q = xs.filter q := by
  have hbelow : xs.Pairwise fun x y => p y = true → p x = true := by
    refine hxs.imp fun hle => ?_
    rw [hp, hp]
    exact hle.trans_lt
  have hat : (xs.filter fun x => !p x).Pairwise fun x y => q y = true → q x = true := by
    refine (hxs.filter _).imp_of_mem fun {x y} hx _ hle => ?_
    have hx : ¬ f x < k := by simpa [← hp] using (List.mem_filter.mp hx).2
    rw [hq, hq]
    intro hy
    exact le_antisymm (hy ▸ hle) (not_lt.mp hx)
  rw [dropWhile_eq_filter_not hbelow, takeWhile_eq_filter hat, List.filter_filter]
  refine List.filter_congr fun x _ => ?_
  cases hx : q x with
  | false => rfl
  | true =>
    have : p x = false := by
      rw [← Bool.not_eq_true, hp, (hq x).mp hx]
      exact lt_irrefl k
    rw [this]
    rfl

/-- A list that is ordered by a key is the concatenation of its groups. -/
lemma flatMap_filter_eq [BEq β] [LawfulBEq β] (f : α → β) {ks : List β}
    (hxs : xs.Pairwise fun x y => f x ≤ f y) (hks : ks.Pairwise (· < ·))
    (hmem : ∀ x ∈ xs, f x ∈ ks) : (ks.flatMap fun k => xs.filter (f · == k)) = xs := by
  induction ks generalizing xs with
  | nil =>
    cases xs with
    | nil => rfl
    | cons x xs => exact absurd (hmem x List.mem_cons_self) List.not_mem_nil
  | cons k ks ih =>
    rw [List.pairwise_cons] at hks
    -- `k` is the least key, so its group comes first
    have hfirst : xs.Pairwise fun x y => (f y == k) = true → (f x == k) = true := by
      refine hxs.imp_of_mem fun {x y} hx _ hle => ?_
      rw [beq_iff_eq, beq_iff_eq]
      intro hy
      obtain hk | hk := List.mem_cons.mp (hmem x hx)
      · exact hk
      · exact absurd (hy ▸ hle) (not_le.mpr (hks.1 _ hk))
    have hrest : (ks.flatMap fun k' => xs.filter (f · == k')) =
        xs.filter fun x => !(f x == k) := by
      rw [← ih (hxs.filter _) hks.2]
      · refine List.flatMap_congr fun k' hk' => ?_
        rw [List.filter_filter]
        refine List.filter_congr fun x _ => ?_
        by_cases hx : f x = k'
        · simp [hx, (hks.1 k' hk').ne']
        · simp [hx]
      · intro x hx
        obtain ⟨hx, hne⟩ := List.mem_filter.mp hx
        refine (List.mem_cons.mp (hmem x hx)).resolve_left fun hk => ?_
        simp [hk] at hne
    rw [List.flatMap_cons, hrest, filter_append_filter_not hfirst]

end Entries

/-! ## Repetitions -/

section Repetitions

variable {α : Type} [BEq α]

lemma eraseReps_loop_eq (a : α) (as acc : List α) :
    List.eraseRepsBy.loop (· == ·) a as acc =
      acc.reverse ++ List.eraseRepsBy.loop (· == ·) a as [] := by
  induction as generalizing a acc with
  | nil => simp [List.eraseRepsBy.loop]
  | cons b as ih =>
    rw [List.eraseRepsBy.loop, List.eraseRepsBy.loop]
    cases a == b with
    | true => exact ih a acc
    | false =>
      change List.eraseRepsBy.loop _ b as (a :: acc) =
        acc.reverse ++ List.eraseRepsBy.loop _ b as [a]
      rw [ih b (a :: acc), ih b [a]]
      simp

lemma eraseReps_cons_cons (a b : α) (as : List α) :
    (a :: b :: as).eraseReps =
      if a == b then (a :: as).eraseReps else a :: (b :: as).eraseReps := by
  change List.eraseRepsBy.loop (· == ·) a (b :: as) [] = _
  rw [List.eraseRepsBy.loop]
  cases a == b with
  | true => rfl
  | false => exact eraseReps_loop_eq b as [a]

variable [LawfulBEq α]

lemma mem_eraseReps {k : α} {as : List α} : k ∈ as.eraseReps ↔ k ∈ as := by
  cases as with
  | nil => rfl
  | cons a as =>
    induction as generalizing a with
    | nil => rfl
    | cons b as ih =>
      rw [eraseReps_cons_cons]
      split
      · next hab =>
        rw [ih, beq_iff_eq.mp hab]
        simp
      · rw [List.mem_cons, ih, List.mem_cons, List.mem_cons, List.mem_cons]

/-- An ordered list without repetitions is strictly ordered. -/
lemma pairwise_lt_eraseReps [LinearOrder α] {as : List α} (h : as.Pairwise (· ≤ ·)) :
    as.eraseReps.Pairwise (· < ·) := by
  cases as with
  | nil => exact List.Pairwise.nil
  | cons a as =>
    induction as generalizing a with
    | nil => exact List.pairwise_singleton _ a
    | cons b as ih =>
      rw [List.pairwise_cons, List.forall_mem_cons] at h
      obtain ⟨⟨hab, ha⟩, hbs⟩ := h
      rw [eraseReps_cons_cons]
      split
      · exact ih a (List.pairwise_cons.mpr ⟨ha, hbs.of_cons⟩)
      · next hne =>
        have hlt : a < b := lt_of_le_of_ne hab fun h => hne (beq_iff_eq.mpr h)
        refine List.pairwise_cons.mpr ⟨fun k hk => ?_, ih b hbs⟩
        obtain rfl | hk := List.mem_cons.mp (mem_eraseReps.mp hk)
        · exact hlt
        · exact hlt.trans_le (List.rel_of_pairwise_cons hbs hk)

end Repetitions

end List
