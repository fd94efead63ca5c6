import SqlTyping.Proofs.Setting.Reachable
import SqlTyping.Proofs.TypeName
import SqlTyping.Proofs.Unification.Outcome

/-!
# Safety of unification

The attributes of a union are 32-bit numbers that wrap around, a length above the ceiling of a
family moves the union to another one, and a union whose attributes are out of range is a crash.
None of this ever happens to well-formed operands. The types that the walk over the operands has in
hand are well formed again, clamped ones included, so at every step the numbers are those of two
well-formed types (`unionInRange_of_meet?`), and the family of the outcome is found from the
families of the operands alone (`meetAll?_of_ofList?`).
-/

namespace SqlTyping

open SqlType Merged

/-! ## The family of a union -/

namespace Family

/-- The family in which `f` and the given families meet, one after the other. -/
def meetFrom? (f : Family) : List Family → Option Family
  | [] => some f
  | g :: gs => (f.meet? g).bind fun m => m.family.meetFrom? gs

/-- The family in which the given families meet, from left to right. -/
def meetAll? : List Family → Option Family
  | [] => none
  | f :: fs => f.meetFrom? fs

end Family

namespace Merged

variable {rules : UnionRules}

/-- Joining further operands to a group takes its family through their families. -/
lemma meetFrom?_of_extend? {x y : Merged} {us : List SqlType} (hx : x.type.WellFormed)
    (hus : ∀ u ∈ us, u.WellFormed) (h : x.extend? rules us = some y) :
    x.type.family.meetFrom? (us.map SqlType.family) = some y.type.family := by
  induction us generalizing x with
  | nil =>
    cases h
    rfl
  | cons u us ih =>
    obtain ⟨hu, hus⟩ := List.forall_mem_cons.mp hus
    obtain ⟨z, hz, hrest⟩ := Option.bind_eq_some_iff.mp h
    obtain ⟨t, d, c, hpair, rfl⟩ := join?_eq_some hz
    obtain ⟨m, hm, ht, hwf, -⟩ := pairUnion_joined hx hu hpair
    have hfamily : t.family = m.family := by rw [ht, family_united]
    rw [List.map_cons, Family.meetFrom?, Option.bind_eq_some_iff]
    refine ⟨m, hm, ?_⟩
    rw [← hfamily]
    exact ih hwf hus hrest

/-- The family of merged operands is the one in which their families meet. -/
lemma meetAll?_of_ofList? {x : Merged} {ts : List SqlType} (hts : ∀ t ∈ ts, t.WellFormed)
    (h : ofList? rules ts = some x) :
    Family.meetAll? (ts.map SqlType.family) = some x.type.family := by
  cases ts with
  | nil => cases h
  | cons t ts =>
    obtain ⟨ht, hts⟩ := List.forall_mem_cons.mp hts
    exact meetFrom?_of_extend? (x := single t) ht hts h

end Merged

/-! ## The numbers of a union -/

/-- Whether a number has at most 32 bits. -/
def Fits32 (n : Int) : Prop :=
  -0x80000000 ≤ n ∧ n < 0x80000000

/-- Whether the union of `a` and `b` in the family `f` is computed without an overflow, and without
a length that moves it to another family. -/
structure UnionInRange (f : Family) (a b : SqlType) : Prop where
  digits : f = .decimal →
    Fits32 (a.precision - a.scale) ∧ Fits32 (b.precision - b.scale) ∧
      Fits32 (max (a.precision - a.scale : Int) (b.precision - b.scale) +
        max (a.scale : Int) b.scale)
  length : f.hasLength → (lengthUnion f a.length b.length).1 = f

/-- The union of well-formed types that meet is in range. -/
lemma unionInRange_of_meet? {a b : SqlType} {m : Meeting} (ha : a.WellFormed) (hb : b.WellFormed)
    (hm : Family.meet? a.family b.family = some m) : UnionInRange m.family a b where
  digits hd := by
    obtain ⟨hale, hble⟩ := Family.le_of_meet? hm
    rw [hd] at hale hble
    obtain ⟨-, ha31, has⟩ := bounds_of_le_decimal ha hale
    obtain ⟨-, hb31, hbs⟩ := bounds_of_le_decimal hb hble
    unfold Fits32
    omega
  length hl := by
    obtain ⟨-, hal, hbl, -⟩ := max_length_of_meet? ha hb hm hl
    rw [lengthUnion_of_le hal hbl]

/-! ## Outcomes -/

/-- Whether the type of an outcome, if it has one, is well formed and has the family in which the
families of the operands meet. -/
def UnionOutcome.WellTyped (ts : List SqlType) (o : UnionOutcome) : Prop :=
  ∀ t, o.type? = some t →
    t.WellFormed ∧ Family.meetAll? (ts.map SqlType.family) = some t.family

section

variable {rules : UnionRules} {operands : List (Option SqlType)}

/-- Untyped operands leave the type of merged operands well formed. -/
lemma Merged.wellFormed_typeAmong {x : Merged} (hx : x.type.WellFormed) :
    (x.typeAmong operands).WellFormed := by
  rw [typeAmong]
  split
  · rwa [wellFormed_withNullable]
  · exact hx

/-- The unification of well-formed operands is well typed. -/
lemma wellTyped_of_unify (hwf : ∀ t, some t ∈ operands → t.WellFormed) {o : UnionOutcome}
    (h : unify rules operands = .ok o) : o.WellTyped operands.reduceOption := by
  intro t ht
  cases o with
  | untyped => cases ht
  | mismatch m => cases ht
  | unified u d c =>
    cases ht
    obtain ⟨x, hx, rfl, -⟩ := unify_eq_unified h
    have hts := wellFormed_reduceOption hwf
    refine ⟨wellFormed_typeAmong (unites_of_ofList? hts hx).wellFormed, ?_⟩
    rw [family_typeAmong]
    exact meetAll?_of_ofList? hts hx

/-- A pair of typed operands is unified like the list of the two. -/
lemma unifyTyped_eq_unify (a b : SqlType) :
    unifyTyped rules a b = unify rules [some a, some b] := by
  unfold unifyTyped unify unifyFrom unifyFrom
  dsimp only
  cases pairUnion rules a b <;> rfl

end

/-! ## Safety -/

/-- What is safe about the unification of a list of operands. -/
structure UnifiesSafely (rules : UnionRules) (operands : List (Option SqlType)) : Prop where
  /-- Unification has an outcome. -/
  unifies : ∃ o, unify rules operands = .ok o ∧ o.WellTyped operands.reduceOption
  /-- COALESCE has an outcome or an error, but it does not crash. -/
  coalesces : (∃ d, coalesce rules operands = .error (.error d)) ∨
    ∃ o, coalesce rules operands = .ok o ∧ o.WellTyped operands.reduceOption
  /-- Wherever an operand is united with the type of those before it, the union is in range. The
  type of those before it is known up to nullability, which takes no part in this. -/
  inRange : ∀ before t after u d c m, operands = before ++ some t :: after →
    unify rules before = .ok (.unified u d c) →
      Family.meet? u.family t.family = some m → UnionInRange m.family u t

/-- What is safe about the unification of a pair. -/
structure PairsSafely (rules : UnionRules) (a b : Option SqlType) : Prop where
  /-- A pair that is typed has an outcome. -/
  typed : ∀ t u, a = some t → b = some u →
    ∃ o, unifyPair rules a b = .ok o ∧ o.WellTyped [t, u]
  /-- A pair that is not typed is refused with an error. -/
  untyped : a = none ∨ b = none → ∃ d, unifyPair rules a b = .error (.error d)
  inRange : ∀ t u m, a = some t → b = some u → Family.meet? t.family u.family = some m →
    UnionInRange m.family t u

section

variable {rules : UnionRules}

/-- Unification of well-formed operands is safe if a type can have the maximum precision. -/
lemma unifiesSafely (h1 : 1 ≤ rules.maxPrecision) (h31 : rules.maxPrecision ≤ 31)
    {operands : List (Option SqlType)} (hwf : ∀ t, some t ∈ operands → t.WellFormed) :
    UnifiesSafely rules operands where
  unifies := by
    obtain ⟨o, ho, -⟩ := exists_unify_eq h1 h31 hwf
    exact ⟨o, ho, wellTyped_of_unify hwf ho⟩
  coalesces := (coalesce_ne_crash h1 h31 hwf).imp_right fun ⟨o, ho⟩ =>
    ⟨o, ho, wellTyped_of_unify hwf (coalesce_eq_ok_iff.mp ho).2.1⟩
  inRange := by
    rintro before t after u d c m rfl hu hm
    have hbefore : ∀ v, some v ∈ before → v.WellFormed :=
      fun v hv => hwf v (List.mem_append_left _ hv)
    have ht : t.WellFormed := hwf t (List.mem_append_right before List.mem_cons_self)
    exact unionInRange_of_meet? (wellTyped_of_unify hbefore hu u rfl).1 ht hm

/-- Unification of a well-formed pair is safe if a type can have the maximum precision. -/
lemma pairsSafely (h1 : 1 ≤ rules.maxPrecision) (h31 : rules.maxPrecision ≤ 31)
    {a b : Option SqlType} (ha : ∀ t ∈ a, t.WellFormed) (hb : ∀ t ∈ b, t.WellFormed) :
    PairsSafely rules a b where
  typed := by
    rintro t u rfl rfl
    have hwf : ∀ v, some v ∈ [some t, some u] → v.WellFormed := by
      simpa using And.intro (ha t rfl) (hb u rfl)
    obtain ⟨o, ho, -⟩ := exists_unify_eq h1 h31 hwf
    refine ⟨o, ?_, wellTyped_of_unify hwf ho⟩
    rw [unifyPair, unifyTyped_eq_unify, ho]
    rfl
  untyped := by
    rintro (rfl | rfl)
    · exact ⟨_, rfl⟩
    · cases a <;> exact ⟨_, rfl⟩
  inRange := by
    rintro t u m rfl rfl hm
    exact unionInRange_of_meet? (ha t rfl) (hb u rfl) hm

end

/-- Types that are built, read or given another nullability are well formed, and for well-formed
operands no way of unifying them crashes, overflows or leaves the well-formed types, whatever the
settings are. -/
theorem unification_safe :
    (∀ number precision scale length t,
      makeNumbered number precision scale length = .ok t → t.WellFormed) ∧
    (∀ source t, parse source = .ok t → t.WellFormed) ∧
    (∀ source t, parseRaw source = .ok t → t.WellFormed) ∧
    (∀ (t : SqlType) nullable, t.WellFormed → (t.withNullable nullable).WellFormed) ∧
    ∀ values, Engine.Reachable values →
      Fits32 (Engine.unionRules values).maxPrecision ∧
      (∀ operands : List (Option SqlType), (∀ t, some t ∈ operands → t.WellFormed) →
        UnifiesSafely (Engine.unionRules values) operands) ∧
      ∀ a b : Option SqlType, (∀ t ∈ a, t.WellFormed) → (∀ t ∈ b, t.WellFormed) →
        PairsSafely (Engine.unionRules values) a b := by
  refine ⟨?_, fun _ _ => wellFormed_of_parse, fun _ _ => wellFormed_of_parseRaw,
    fun _ _ => (wellFormed_withNullable _).mpr, ?_⟩
  · intro number precision scale length t h
    unfold makeNumbered at h
    split at h
    · exact (wellFormed_of_make h).1
    · cases h
  · intro values hvalues
    obtain ⟨h1, h31⟩ := Engine.maxPrecision_of_reachable hvalues
    refine ⟨?_, fun operands => unifiesSafely h1 h31, fun a b => pairsSafely h1 h31⟩
    unfold Fits32
    omega

/-- Where the largest precision is 1, a DECIMAL that is all decimal places and one that has none are
clamped to a single digit, and the clamped type is in range for the BIGINT that follows. -/
theorem unification_safe_narrow :
    let values := Engine.defaults.put Engine.maxPrecisionKey 1
    let before : List (Option SqlType) :=
      [some ⟨.decimal, 31, 31, 0, true⟩, none, some ⟨.decimal, 31, 0, 0, false⟩]
    let t : SqlType := ⟨.decimal, 1, 1, 0, true⟩
    unify (Engine.unionRules values) before = .ok (.unified t false true) ∧
      UnionInRange .decimal t (fixed .bigInt) := by
  intro values before t
  have hset : Engine.registry.set Engine.defaults Engine.maxPrecisionKey "1" = .ok values := rfl
  have hbefore : unify (Engine.unionRules values) before = .ok (.unified t false true) := by
    set_option maxRecDepth 2000 in
    rfl
  have hwf : ∀ u, some u ∈ before ++ [some (fixed .bigInt)] → u.WellFormed := by
    simp +decide [before]
  obtain ⟨-, -, -, -, hsettings⟩ := unification_safe
  obtain ⟨-, hunify, -⟩ := hsettings values (.set .defaults hset)
  exact ⟨hbefore, (hunify _ hwf).inRange before _ [] t _ _ ⟨.decimal, false⟩ rfl hbefore rfl⟩

end SqlTyping
