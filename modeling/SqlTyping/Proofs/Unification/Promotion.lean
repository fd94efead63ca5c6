import Mathlib.Data.Int.Order.Basic
import Mathlib.Data.List.Chain
import SqlTyping.Unification.Attributes

/-!
# Lengths that outgrow their family

The union of two types with lengths needs the larger one of the two lengths. While that is above the
ceiling of the family, `promote` takes the type to the next family of the chain, and what is still
too long at the top is cut. Along a chain the ranks go up by one and the ceilings grow, so that
every chain ends after three steps at the latest. The bound on the number of steps is therefore
never what ends the climb (`promote_eq_of_le`), and the climb ends at the first family that is large
enough, or else at the top (`promotes_promote`).

Since ceilings grow, a longer length climbs at least as far and keeps at least as much of itself,
also where it crosses into another family (`promote_mono`).
-/

namespace SqlTyping

/-! ## Chains of families -/

namespace Family

variable {f g : Family}

/-- The next family is one rank higher. -/
lemma rank_of_next? (h : f.next? = some g) : g.rank = f.rank + 1 := by
  cases f <;> cases h <;> rfl

/-- The next family has a higher ceiling. -/
lemma maxLength_lt_of_next? (h : f.next? = some g) : f.maxLength < g.maxLength := by
  cases f <;> cases h <;> decide

lemma rank_le_three (f : Family) : f.rank ≤ 3 := by
  cases f <;> decide

/-- A family of the highest rank is the top of its chain. -/
lemma next?_eq_none_of_le_rank (h : 3 ≤ f.rank) : f.next? = none := by
  rw [Option.eq_none_iff_forall_not_mem]
  intro g hg
  have hrank := rank_of_next? hg
  have hle := g.rank_le_three
  omega

end Family

/-! ## Single steps of the climb -/

section

variable {f g : Family} {m : Int}

/-- The climb ends at a family that is large enough or the top of its chain, or else goes on to the
next family. -/
lemma ends_or_exists_next? (f : Family) (m : Int) :
    (f.maxLength < m → f.next? = none) ∨ ∃ g, f.maxLength < m ∧ f.next? = some g := by
  cases hnext : f.next? with
  | none => exact .inl fun _ => rfl
  | some g =>
    rcases le_or_gt m f.maxLength with hle | hlt
    · exact .inl fun hlt => absurd hle (not_le.mpr hlt)
    · exact .inr ⟨g, hlt, rfl⟩

/-- Where the climb ends, the length is cut to the ceiling. -/
lemma promote_of_ends (steps : Nat) (h : f.maxLength < m → f.next? = none) :
    promote steps f m = (f, min m f.maxLength) := by
  cases steps with
  | zero => rfl
  | succ steps =>
    rw [promote]
    split_ifs with hle
    · rw [min_eq_left hle]
    · rw [h (not_le.mp hle), min_eq_right (not_le.mp hle).le]

/-- Elsewhere it goes on. -/
lemma promote_of_next? (steps : Nat) (hlt : f.maxLength < m) (h : f.next? = some g) :
    promote (steps + 1) f m = promote steps g m := by
  rw [promote, if_neg (not_le.mpr hlt), h]

/-- One more step changes nothing if there are steps enough to reach the highest rank. -/
lemma promote_succ {steps : Nat} (h : 3 ≤ f.rank + steps) :
    promote (steps + 1) f m = promote steps f m := by
  induction steps generalizing f with
  | zero =>
    have hends : f.maxLength < m → f.next? = none := fun _ => Family.next?_eq_none_of_le_rank h
    rw [promote_of_ends 1 hends, promote_of_ends 0 hends]
  | succ steps ih =>
    rcases ends_or_exists_next? f m with hends | ⟨g, hlt, hnext⟩
    · rw [promote_of_ends _ hends, promote_of_ends _ hends]
    · have hrank := Family.rank_of_next? hnext
      rw [promote_of_next? _ hlt hnext, promote_of_next? _ hlt hnext]
      exact ih (by omega)

/-- Three steps are enough in every chain. -/
lemma promote_eq_of_le (f : Family) (m : Int) {steps : Nat} (h : 3 ≤ steps) :
    promote steps f m = promote 3 f m := by
  induction steps, h using Nat.le_induction with
  | base => rfl
  | succ steps hle ih => rw [promote_succ (by omega), ih]

end

/-! ## Where the climb ends -/

/-- A length `m` takes the family `f` to the family and the length of `r`: the way up the chain
leads through families whose ceilings are all too low, and it is only left unfinished at the top,
where the length is cut. -/
structure Promotes (f : Family) (m : Int) (r : Family × Int) : Prop where
  path : ∃ below : List Family, (below ++ [r.1]).head? = some f ∧
    (below ++ [r.1]).IsChain (fun a b => a.next? = some b) ∧ ∀ a ∈ below, a.maxLength < m
  length : r.2 = min m r.1.maxLength
  top : r.1.maxLength < m → r.1.next? = none

namespace Promotes

variable {f g : Family} {m : Int} {r : Family × Int}

/-- The climb can end where the length fits, and at the top of a chain. -/
lemma here (h : f.maxLength < m → f.next? = none) : Promotes f m (f, min m f.maxLength) where
  path := ⟨[], rfl, List.isChain_singleton f, List.forall_mem_nil _⟩
  length := rfl
  top := h

/-- The climb from the next family continues one from a family that is too small. -/
lemma of_next? (hlt : f.maxLength < m) (hnext : f.next? = some g) (h : Promotes g m r) :
    Promotes f m r := by
  obtain ⟨below, hhead, hchain, hbelow⟩ := h.path
  refine ⟨⟨f :: below, rfl, ?_, ?_⟩, h.length, h.top⟩
  · rw [List.cons_append]
    refine hchain.cons ?_
    intro a ha
    rw [hhead] at ha
    cases ha
    exact hnext
  · exact List.forall_mem_cons.mpr ⟨hlt, hbelow⟩

end Promotes

/-- With steps enough to reach the highest rank, the climb ends at the first family that is large
enough, or at the top. -/
lemma promotes_promote {steps : Nat} {f : Family} (h : 3 ≤ f.rank + steps) (m : Int) :
    Promotes f m (promote steps f m) := by
  induction steps generalizing f with
  | zero => exact .here fun _ => Family.next?_eq_none_of_le_rank h
  | succ steps ih =>
    rcases ends_or_exists_next? f m with hends | ⟨g, hlt, hnext⟩
    · rw [promote_of_ends _ hends]
      exact .here hends
    · have hrank := Family.rank_of_next? hnext
      rw [promote_of_next? _ hlt hnext]
      exact .of_next? hlt hnext (ih (by omega))

/-! ## Longer lengths -/

/-- The climb leads upwards and keeps what fits at its beginning. -/
lemma le_promote (steps : Nat) (f : Family) (m : Int) :
    f.rank ≤ (promote steps f m).1.rank ∧ min m f.maxLength ≤ (promote steps f m).2 := by
  induction steps generalizing f with
  | zero => exact ⟨le_rfl, le_rfl⟩
  | succ steps ih =>
    rcases ends_or_exists_next? f m with hends | ⟨g, hlt, hnext⟩
    · rw [promote_of_ends _ hends]
      exact ⟨le_rfl, le_rfl⟩
    · have hrank := Family.rank_of_next? hnext
      have hceiling := Family.maxLength_lt_of_next? hnext
      obtain ⟨hup, hkeeps⟩ := ih g
      rw [promote_of_next? _ hlt hnext]
      exact ⟨by omega, by omega⟩

/-- A longer length climbs at least as far, and at least as much of it is kept. -/
lemma promote_mono {m n : Int} (h : m ≤ n) (steps : Nat) (f : Family) :
    (promote steps f m).1.rank ≤ (promote steps f n).1.rank ∧
      (promote steps f m).2 ≤ (promote steps f n).2 := by
  have hcut : min m f.maxLength ≤ min n f.maxLength := by omega
  induction steps generalizing f with
  | zero => exact ⟨le_rfl, hcut⟩
  | succ steps ih =>
    rcases ends_or_exists_next? f m with hends | ⟨g, hlt, hnext⟩
    -- The shorter length stays, and wherever the longer one goes, it keeps this much.
    · obtain ⟨hup, hkeeps⟩ := le_promote (steps + 1) f n
      rw [promote_of_ends _ hends]
      exact ⟨hup, hcut.trans hkeeps⟩
    · rw [promote_of_next? _ hlt hnext, promote_of_next? _ (hlt.trans_le h) hnext]
      exact ih g (by omega)

/-- The union of two lengths is found in the smallest family that is large enough. The families on
the way up to it have ceilings below the larger length, which is cut only at the top of the chain;
no number of further steps would lead elsewhere. The order of the two lengths does not matter, and
larger ones lead to no lower rank and no shorter length. -/
theorem lengthUnion_finds_smallest_family (f : Family) (l1 l2 : Int) :
    let m := max l1 l2
    let g := (lengthUnion f l1 l2).1
    (∃ below : List Family, (below ++ [g]).head? = some f ∧
      (below ++ [g]).IsChain (fun a b => a.next? = some b) ∧ ∀ a ∈ below, a.maxLength < m) ∧
    (lengthUnion f l1 l2).2 = min m g.maxLength ∧
    (g.maxLength < m → g.next? = none) ∧
    (∀ steps, 3 ≤ steps → promote steps f m = lengthUnion f l1 l2) ∧
    lengthUnion f l2 l1 = lengthUnion f l1 l2 ∧
    ∀ k1 k2, m ≤ max k1 k2 →
      g.rank ≤ (lengthUnion f k1 k2).1.rank ∧
        (lengthUnion f l1 l2).2 ≤ (lengthUnion f k1 k2).2 := by
  intro m g
  have hpromotes : Promotes f m (lengthUnion f l1 l2) := promotes_promote (by omega) m
  refine ⟨hpromotes.path, hpromotes.length, hpromotes.top, ?_, ?_, ?_⟩
  · intro steps hsteps
    exact promote_eq_of_le f m hsteps
  · rw [lengthUnion, max_comm, lengthUnion]
  · intro k1 k2 hle
    exact promote_mono hle 3 f

/-- A CHAR of 32680 characters is a LONG VARCHAR, two steps up, and one of 40000 is a CLOB. -/
theorem lengthUnion_finds_smallest_family_char :
    lengthUnion .char 10 32680 = (.longVarchar, 32680) ∧
      lengthUnion .char 32680 10 = lengthUnion .char 10 32680 ∧
      max 10 32680 ≤ max (40000 : Int) 1 ∧ lengthUnion .char 40000 1 = (.clob, 40000) ∧
      Family.longVarchar.rank ≤ Family.clob.rank :=
  have h := (lengthUnion_finds_smallest_family .char 10 32680).2.2.2.2
  ⟨rfl, h.1, by decide, rfl, (h.2 40000 1 (by decide)).1⟩

end SqlTyping
