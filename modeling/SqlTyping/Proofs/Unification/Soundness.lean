import SqlTyping.Proofs.Unification.Outcome

/-!
# Soundness of unification

Whatever type unification produces, every typed operand gets there in exactly one of two ways. It
widens, and then it also fits the length of the type; or it is a string that is read as a datetime
value. The operands of the second kind are found twice: while the types are merged, a flag tells
whether there are any, and afterwards their positions are collected among all strings. That both
agree is due to the order of the families: above a string, a datetime family is always reached by
reading it.
-/

namespace SqlTyping

open SqlType Merged

/-- Whether a type is for strings that are read as values of the other type, which is one of the
datetime types. -/
def SqlType.IsReadAs (t u : SqlType) : Prop :=
  (t.family = .char ∨ t.family = .varchar) ∧
    (u.family = .date ∨ u.family = .time ∨ u.family = .timestamp)

/-- Strings are read as `Family.readsAs` tells. -/
lemma SqlType.isReadAs_iff {t u : SqlType} : t.IsReadAs u ↔ t.family.readsAs u.family := by
  have table : ∀ f : Family, f.isDatetime ↔ f = .date ∨ f = .time ∨ f = .timestamp := by decide
  rw [IsReadAs, Family.readsAs_iff, table]

/-! ## Attributes of a union -/

namespace Merged.Unites

variable {maximum : Int} {ts : List SqlType} {x : Merged}

/-- A union is as long as each of its operands. -/
lemma length_le (h : Unites maximum ts x) {t : SqlType} (ht : t ∈ ts)
    (hlength : x.type.family.hasLength) : t.length ≤ x.type.length := by
  rcases h.type_eq with hone | ⟨-, hclosed⟩
  · rw [hone, List.mem_singleton] at ht
    rw [ht]
  · rw [hclosed, length_united_of_hasLength hlength]
    exact le_greatest ht

/-- A union is nullable if one of its operands is. -/
lemma nullable_iff (h : Unites maximum ts x) :
    x.type.nullable = true ↔ ∃ t ∈ ts, t.nullable = true := by
  rcases h.type_eq with hone | ⟨-, hclosed⟩
  · rw [hone]
    simp
  · rw [hclosed, nullable_united, List.any_eq_true]

end Merged.Unites

/-! ## Positions of strings -/

namespace UnionOutcome

variable {operands : List (Option SqlType)} {o : UnionOutcome}

/-- If strings are read, their positions are those of all operands from the character group. -/
lemma mem_deferredPositions {i : Nat} :
    i ∈ o.deferredPositions operands ↔
      o.deferred = true ∧ ∃ t, operands[i]? = some (some t) ∧ t.family.isCharacter := by
  unfold deferredPositions
  split
  · next hd =>
    simp only [List.mem_map, List.mem_filter, hd, true_and]
    constructor
    · rintro ⟨⟨operand, j⟩, ⟨hmem, hcharacter⟩, rfl⟩
      rw [List.mem_zipIdx_iff_getElem?] at hmem
      cases operand with
      | none => cases hcharacter
      | some t => exact ⟨t, hmem, hcharacter⟩
    · rintro ⟨t, hget, hcharacter⟩
      exact ⟨(some t, i), ⟨List.mem_zipIdx_iff_getElem?.mpr hget, hcharacter⟩, rfl⟩
  · next hd => simp [hd]

/-- The positions are listed in ascending order. -/
lemma pairwise_deferredPositions : (o.deferredPositions operands).Pairwise (· < ·) := by
  unfold deferredPositions
  split
  · have hsub := (List.filter_sublist (l := operands.zipIdx) (p := fun p =>
      (p.1.map fun t => t.family.isCharacter).getD false)).map Prod.snd
    refine List.Pairwise.sublist hsub ?_
    rw [List.zipIdx_map_snd]
    exact List.pairwise_lt_range' 1
  · exact List.Pairwise.nil

end UnionOutcome

/-- Where operands are merged, the positions of strings are those of the operands that are read. -/
lemma mem_deferredPositions_unified {maximum : Int} {operands : List (Option SqlType)} {x : Merged}
    {u : SqlType} {c : Bool} (hx : Unites maximum operands.reduceOption x)
    (hu : u.family = x.type.family) {i : Nat} :
    i ∈ (UnionOutcome.unified u x.deferred c).deferredPositions operands ↔
      ∃ t, operands[i]? = some (some t) ∧ t.IsReadAs u := by
  rw [UnionOutcome.mem_deferredPositions, UnionOutcome.deferred, hx.deferred_iff]
  have hmem : ∀ {t : SqlType}, operands[i]? = some (some t) → t ∈ operands.reduceOption :=
    fun hget => List.reduceOption_mem_iff.mpr (List.mem_of_getElem? hget)
  simp only [isReadAs_iff, hu]
  constructor
  · rintro ⟨⟨s, hs, hreads⟩, t, hget, hcharacter⟩
    have hdatetime := (Family.readsAs_iff.mp hreads).2
    exact ⟨t, hget, Family.readsAs_of_isCharacter (hx.le_family (hmem hget)) hcharacter hdatetime⟩
  · rintro ⟨t, hget, hreads⟩
    refine ⟨⟨t, hmem hget, hreads⟩, t, hget, ?_⟩
    rcases (Family.readsAs_iff.mp hreads).1 with hf | hf <;> rw [hf] <;> rfl

/-- Merging operands is deferred exactly when there is a position of a string that is read. -/
lemma deferred_iff_deferredPositions_ne_nil {maximum : Int} {operands : List (Option SqlType)}
    {x : Merged} {u : SqlType} {c : Bool} (hx : Unites maximum operands.reduceOption x)
    (hu : u.family = x.type.family) :
    x.deferred = true ↔ (UnionOutcome.unified u x.deferred c).deferredPositions operands ≠ [] := by
  constructor
  · intro hd
    obtain ⟨t, ht, hreads⟩ := hx.deferred_iff.mp hd
    obtain ⟨i, hget⟩ := List.mem_iff_getElem?.mp (List.reduceOption_mem_iff.mp ht)
    rw [← hu, ← isReadAs_iff] at hreads
    exact List.ne_nil_of_mem ((mem_deferredPositions_unified hx hu).mpr ⟨t, hget, hreads⟩)
  · intro hne
    obtain ⟨i, hi⟩ := List.exists_mem_of_ne_nil _ hne
    exact (UnionOutcome.mem_deferredPositions.mp hi).1

/-- The type that operands unify into is nullable exactly when some operand is untyped or nullable,
and its family is that of an operand or DOUBLE. Every typed operand either widens to it, within its
length, or is a string that is read as a datetime value, and never both. The positions of the
latter are listed in ascending order, and there are some exactly when the outcome is deferred. -/
theorem unify_sound {rules : UnionRules} {operands : List (Option SqlType)} {u : SqlType}
    {d c : Bool} (hwf : ∀ t, some t ∈ operands → t.WellFormed)
    (h : unify rules operands = .ok (.unified u d c)) :
    let positions := (UnionOutcome.unified u d c).deferredPositions operands
    (u.nullable = true ↔ none ∈ operands ∨ ∃ t, some t ∈ operands ∧ t.nullable = true) ∧
    ((∃ t, some t ∈ operands ∧ t.family = u.family) ∨ u.family = .double) ∧
    (∀ i t, operands[i]? = some (some t) →
      Xor (t.family.widens u.family ∧ (u.family.hasLength → t.length ≤ u.length))
        (t.IsReadAs u ∧ i ∈ positions)) ∧
    (positions.Pairwise (· < ·) ∧
      ∀ i, i ∈ positions ↔ ∃ t, operands[i]? = some (some t) ∧ t.IsReadAs u) ∧
    (d = true ↔ positions ≠ []) := by
  intro positions
  obtain ⟨x, hx, rfl, rfl, rfl⟩ := unites_of_unify hwf h
  have hfamily := family_typeAmong operands x
  refine ⟨?_, ?_, fun i t hget => ?_, ⟨UnionOutcome.pairwise_deferredPositions, fun i => ?_⟩, ?_⟩
  · simp only [nullable_typeAmong, hx.nullable_iff, List.reduceOption_mem_iff]
  · simpa only [hfamily, List.reduceOption_mem_iff] using hx.attained
  · have ht : t ∈ operands.reduceOption :=
      List.reduceOption_mem_iff.mpr (List.mem_of_getElem? hget)
    have hposition : i ∈ positions ↔ ∃ t, operands[i]? = some (some t) ∧ t.IsReadAs _ :=
      mem_deferredPositions_unified hx hfamily
    rw [isReadAs_iff, hfamily, length_typeAmong]
    rcases Family.le_iff.mp (hx.le_family ht) with hwidens | hreads
    · exact Or.inl ⟨⟨hwidens, hx.length_le ht⟩,
        fun hread => Family.not_readsAs_of_widens hwidens hread.1⟩
    · refine Or.inr ⟨⟨hreads, hposition.mpr ⟨t, hget, ?_⟩⟩,
        fun hwiden => Family.not_readsAs_of_widens hwiden.1 hreads⟩
      rwa [isReadAs_iff, hfamily]
  · exact mem_deferredPositions_unified hx hfamily
  · exact deferred_iff_deferredPositions_ne_nil hx hfamily

/-- Strings of two families are read as a date, around an untyped operand. -/
theorem unify_sound_date :
    let operands := [some ⟨.char, 0, 0, 10, false⟩, none, some (fixed .date),
      some ⟨.varchar, 0, 0, 40, false⟩]
    let o := UnionOutcome.unified (fixed .date) true false
    unify ⟨31, .reject⟩ operands = .ok o ∧
      (o.deferredPositions operands).Pairwise (· < ·) ∧ 3 ∈ o.deferredPositions operands := by
  intro operands o
  have hwf : ∀ t, some t ∈ operands → t.WellFormed := by simp +decide [operands]
  have hunify : unify ⟨31, .reject⟩ operands = .ok o := by
    set_option maxRecDepth 2000 in
    rfl
  obtain ⟨-, -, -, ⟨hascending, hmem⟩, -⟩ := unify_sound hwf hunify
  exact ⟨hunify, hascending, (hmem 3).mpr ⟨_, rfl, Or.inr rfl, Or.inl rfl⟩⟩

end SqlTyping
