import Mathlib.Order.Bounds.Basic
import SqlTyping.Conversion

/-!
# The order of implicit conversion

A family is below another one when its values can be taken there, either by widening or by reading
strings as datetime values. This is a partial order, and `Family.meet?` computes its joins: a family
is above `a` and `b` exactly when it is above their common family (`le_and_le_iff`), so that two
families without a common family have no upper bound at all.

The common family of any number of families is therefore their least upper bound, in whatever order
and grouping it is computed (`isLUB_union`, `not_bddAbove_union`). The distance of a widening is the
difference of two places on a scale, so that distances add up along a chain of widenings, and only
the widening of a family to itself has none (`distance?_trans`, `distance?_pos`). What later modules
need to know about single entries of the table is collected in the last section.
-/

namespace SqlTyping.Family

/-- The list of families is complete. -/
lemma mem_all (f : Family) : f ∈ all := by
  cases f <;> decide

/-- A statement about all families is decided by going through the list of them. -/
instance decidableForall (p : Family → Prop) [DecidablePred p] : Decidable (∀ f, p f) :=
  decidable_of_iff (∀ f ∈ all, p f) ⟨fun h f => h f f.mem_all, fun h f _ => h f⟩

/-! ## The order -/

/-- `a ≤ b` means that values of family `a` can be taken to family `b`. -/
instance : LE Family where
  le a b := a.widens b ∨ a.readsAs b

/-- The order of families is decidable. -/
instance decidableLE (a b : Family) : Decidable (a ≤ b) :=
  inferInstanceAs (Decidable (a.widens b = true ∨ a.readsAs b = true))

/-- The two ways in which values reach another family. -/
lemma le_iff {a b : Family} : a ≤ b ↔ a.widens b ∨ a.readsAs b :=
  Iff.rfl

/-- Implicit conversion is a partial order on the families. It composes, as a string that widens
first can still be read afterwards, and no two families convert to each other. -/
instance : PartialOrder Family where
  le_refl := by decide
  le_trans := by decide +kernel
  le_antisymm := by decide +kernel

/-! ## Common families are least upper bounds -/

/-- A family is above two others exactly when it is above their common family. -/
lemma le_and_le_iff (a b g : Family) :
    a ≤ g ∧ b ≤ g ↔ ∃ m, meet? a b = some m ∧ m.family ≤ g := by
  have table : ∀ a b g : Family, a ≤ g ∧ b ≤ g ↔
      ((meet? a b).any fun m => decide (m.family ≤ g)) = true := by
    decide +kernel
  rw [table a b g, Option.any_eq_true]
  simp only [decide_eq_true_eq]

/-- Both families are below their common family. -/
lemma le_of_meet? {a b : Family} {m : Meeting} (h : meet? a b = some m) :
    a ≤ m.family ∧ b ≤ m.family :=
  (le_and_le_iff a b m.family).mpr ⟨m, h, le_rfl⟩

/-- The common family of two least upper bounds is the least upper bound of the union. -/
lemma isLUB_union {s t : Set Family} {a b : Family} {m : Meeting} (hs : IsLUB s a)
    (ht : IsLUB t b) (h : meet? a b = some m) : IsLUB (s ∪ t) m.family := by
  rw [isLUB_iff_le_iff] at hs ht ⊢
  intro g
  rw [upperBounds_union, Set.mem_inter_iff, ← hs g, ← ht g, le_and_le_iff]
  constructor
  · intro hg
    exact ⟨m, h, hg⟩
  · rintro ⟨n, hn, hle⟩
    rw [h] at hn
    cases hn
    exact hle

/-- Two least upper bounds without a common family have nothing above both sets. -/
lemma not_bddAbove_union {s t : Set Family} {a b : Family} (hs : IsLUB s a) (ht : IsLUB t b)
    (h : meet? a b = none) : ¬ BddAbove (s ∪ t) := by
  rintro ⟨g, hg⟩
  rw [upperBounds_union] at hg
  have hle : a ≤ g ∧ b ≤ g := ⟨hs.2 hg.1, ht.2 hg.2⟩
  obtain ⟨n, hn, -⟩ := (le_and_le_iff a b g).mp hle
  rw [h] at hn
  cases hn

/-! ## Reading strings -/

/-- A meeting is deferred exactly when one of the two families is read as the common one. -/
lemma deferred_of_meet? {a b : Family} {m : Meeting} (h : meet? a b = some m) :
    m.deferred = (a.readsAs m.family || b.readsAs m.family) := by
  have table : ∀ a b : Family, ∀ m ∈ meet? a b,
      m.deferred = (a.readsAs m.family || b.readsAs m.family) := by
    decide +kernel
  exact table a b m h

/-- On the way from `a` over `b` to `c` strings are read in exactly one of the two steps. -/
lemma readsAs_iff_of_le {a b c : Family} (hab : a ≤ b) (hbc : b ≤ c) :
    a.readsAs c ↔ a.readsAs b ∨ b.readsAs c := by
  revert a b c
  decide +kernel

/-- No conversion both widens and reads strings. -/
lemma not_readsAs_of_widens {a b : Family} (h : a.widens b) : ¬ a.readsAs b := by
  revert a b
  decide +kernel

/-- Only CHAR and VARCHAR are read, and only as datetime values. -/
lemma readsAs_iff {a b : Family} :
    a.readsAs b ↔ (a = .char ∨ a = .varchar) ∧ b.isDatetime := by
  simp [readsAs]

/-- What reaches a datetime family by conversion from the character group is read from strings. -/
lemma readsAs_of_isCharacter {a b : Family} (hab : a ≤ b) (ha : a.isCharacter)
    (hb : b.isDatetime) : a.readsAs b := by
  revert a b
  decide +kernel

/-! ## Distances -/

section Distance

variable {a b c : Family} {m n : Nat}

/-- Widening composes: strings that are not read in either step are not read on the way. -/
lemma widens_trans (hab : a.widens b) (hbc : b.widens c) : a.widens c := by
  have hable : a ≤ b := Or.inl hab
  have hbcle : b ≤ c := Or.inl hbc
  rcases le_iff.mp (hable.trans hbcle) with hwidens | hreads
  · exact hwidens
  · rcases (readsAs_iff_of_le hable hbcle).mp hreads with hread | hread
    · exact absurd hread (not_readsAs_of_widens hab)
    · exact absurd hread (not_readsAs_of_widens hbc)

/-- Within a chain, families are placed by their rank. -/
lemma precedence_of_sameChain (h : sameChain a b = true) :
    a.precedence = a.rank ∧ b.precedence = b.rank := by
  have hgroup : a.group = b.group := of_decide_eq_true (Bool.and_eq_true_iff.mp h).1
  have hexact : a.group ≠ .approximateNumeric := by
    intro happrox
    rw [sameChain, happrox] at h
    exact Bool.false_ne_true (Bool.and_eq_true_iff.mp h).2
  exact ⟨if_neg hexact, if_neg (hgroup ▸ hexact)⟩

/-- Widening to another family leads upwards: to a higher rank in the same chain, or to DOUBLE. -/
lemma precedence_lt_of_widens (h : a.widens b) (hne : a ≠ b) : a.precedence < b.precedence := by
  have hmeet : meet? a b = some ⟨b, false⟩ := of_decide_eq_true h
  rw [meet?, if_neg hne] at hmeet
  split at hmeet
  · next hchain =>
    obtain ⟨ha, hb⟩ := precedence_of_sameChain hchain
    have hhigher : higher a b = b := congrArg Meeting.family (Option.some.inj hmeet)
    rw [ha, hb]
    by_contra hrank
    exact hne ((if_neg hrank).symm.trans hhigher)
  split at hmeet
  · next hnumeric =>
    have table : ∀ f : Family, f.isNumeric → f ≠ .double → f.precedence < precedence .double := by
      decide
    obtain rfl : .double = b := congrArg Meeting.family (Option.some.inj hmeet)
    exact table a (Bool.and_eq_true_iff.mp hnumeric).1 hne
  -- What remains would be read from strings.
  split at hmeet
  · cases hmeet
  · split at hmeet <;> cases hmeet

lemma precedence_le_of_widens (h : a.widens b) : a.precedence ≤ b.precedence := by
  by_cases hne : a = b
  · rw [hne]
  · exact (precedence_lt_of_widens h hne).le

lemma distance?_eq_some_iff :
    a.distance? b = some n ↔ a.widens b = true ∧ a.precedence + n = b.precedence := by
  unfold distance?
  split
  · next h =>
    have hle := precedence_le_of_widens h
    rw [Option.some.injEq, and_iff_right h]
    omega
  · next h => simp [h]

/-- Distances add up along a chain of widenings. -/
lemma distance?_trans (hab : a.distance? b = some m) (hbc : b.distance? c = some n) :
    a.distance? c = some (m + n) := by
  rw [distance?_eq_some_iff] at hab hbc ⊢
  exact ⟨widens_trans hab.1 hbc.1, by omega⟩

/-- The way to another family is not empty. -/
lemma distance?_pos (h : a.distance? b = some n) (hne : a ≠ b) : 0 < n := by
  obtain ⟨hwidens, hsum⟩ := distance?_eq_some_iff.mp h
  have hlt := precedence_lt_of_widens hwidens hne
  omega

end Distance

/-! ## Entries of the table -/

/-- The common family of two families is one of them, or DOUBLE. -/
lemma family_of_meet? {a b : Family} {m : Meeting} (h : meet? a b = some m) :
    m.family = a ∨ m.family = b ∨ m.family = .double := by
  have table : ∀ a b : Family, ∀ m ∈ meet? a b,
      m.family = a ∨ m.family = b ∨ m.family = .double := by
    decide +kernel
  exact table a b m h

/-- Below a family whose types have lengths, all types have lengths, and their ceilings are no
higher. -/
lemma maxLength_le_of_le {a b : Family} (h : a ≤ b) (hb : b.hasLength) :
    a.hasLength ∧ a.maxLength ≤ b.maxLength := by
  revert a b
  decide +kernel

/-- The families below DECIMAL are the exact numeric ones. -/
lemma le_decimal_iff (a : Family) : a ≤ .decimal ↔ a.group = .exactNumeric := by
  revert a
  decide

/-- Below a whole-number family there are only whole-number families, with no more digits. -/
lemma nominalPrecision_le_of_le {a b : Family} (h : a ≤ b) (hb : b < .decimal) :
    a < .decimal ∧ a.nominalPrecision ≤ b.nominalPrecision := by
  refine ⟨lt_of_le_of_lt h hb, ?_⟩
  have table : ∀ a b : Family, a ≤ b → b ≤ .decimal → b ≠ .decimal →
      a.nominalPrecision ≤ b.nominalPrecision := by
    decide +kernel
  exact table a b h hb.le hb.ne

end SqlTyping.Family
