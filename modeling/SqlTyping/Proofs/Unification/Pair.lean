import SqlTyping.Proofs.WellFormed
import SqlTyping.Unification

/-!
# The union of two well-formed types

The type that well-formed types unify into has a closed form, `SqlType.united`: once the common
family is known, its attributes are the maxima of the attributes, and a DECIMAL is cut to the
maximum precision. For two types this is what `unionType` computes, with no 32-bit wrap-around, no
promotion of lengths and no attribute out of range on the way.

The closed form is stated for any number of types, because unions nest: a union among the operands
of a further union can be replaced by its own operands (`united_cons_united`). Clamping is no
obstacle to this. A clamped DECIMAL has used up the maximum precision, so that any digit it lost
would be lost in the further union too.
-/

namespace SqlTyping

/-! ## Maxima of attributes -/

namespace SqlType

/-- The number of digits in front of the point. -/
def digits (t : SqlType) : Nat :=
  t.precision - t.scale

/-- The greatest value of an attribute among some types. -/
def greatest (g : SqlType → Nat) (ts : List SqlType) : Nat :=
  ts.foldr (fun t n => max (g t) n) 0

section

variable {g : SqlType → Nat} {ts us : List SqlType} {t : SqlType}

@[simp] lemma greatest_nil : greatest g [] = 0 := rfl

@[simp] lemma greatest_cons :
    greatest g (t :: ts) = max (g t) (greatest g ts) := rfl

/-- The greatest value is the least bound of all values. -/
lemma greatest_le_iff {n : Nat} :
    greatest g ts ≤ n ↔ ∀ t ∈ ts, g t ≤ n := by
  induction ts with
  | nil => simp
  | cons t ts ih => simp [ih]

/-- No value is above the greatest one. -/
lemma le_greatest (h : t ∈ ts) : g t ≤ greatest g ts :=
  greatest_le_iff.mp le_rfl t h

@[simp] lemma greatest_append :
    greatest g (ts ++ us) = max (greatest g ts) (greatest g us) := by
  induction ts with
  | nil => simp
  | cons t ts ih => rw [List.cons_append, greatest_cons, greatest_cons, ih, max_assoc]

/-- Attributes that agree on all types have the same greatest value. -/
lemma greatest_congr {g' : SqlType → Nat} (h : ∀ t ∈ ts, g t = g' t) :
    greatest g ts = greatest g' ts := by
  induction ts with
  | nil => rfl
  | cons t ts ih =>
    obtain ⟨hfirst, hrest⟩ := List.forall_mem_cons.mp h
    rw [greatest_cons, greatest_cons, hfirst, ih hrest]

/-- The greatest value grows with the list. -/
lemma greatest_mono (h : ts ⊆ us) : greatest g ts ≤ greatest g us :=
  greatest_le_iff.mpr fun _ ht => le_greatest (h ht)

end

/-- The precision that a DECIMAL needs to hold the values of all the types. -/
def neededPrecision (ts : List SqlType) : Nat :=
  greatest digits ts + greatest scale ts

/-- The needed precision grows with the list. -/
lemma neededPrecision_mono {ts us : List SqlType} (h : ts ⊆ us) :
    neededPrecision ts ≤ neededPrecision us :=
  Nat.add_le_add (greatest_mono h) (greatest_mono h)

/-! ## The closed form -/

/-- The type of family `f` for the values of all the types, if a DECIMAL may have up to `maximum`
digits. -/
def united (maximum : Nat) (f : Family) (ts : List SqlType) : SqlType where
  family := f
  precision := if f = .decimal then min (neededPrecision ts) maximum else f.nominalPrecision
  scale := if f = .decimal then min (greatest scale ts) maximum else f.nominalScale
  length := if f.hasLength then greatest length ts else 0
  nullable := ts.any nullable

section

variable {maximum : Nat} {f : Family} {ts us : List SqlType}

@[simp] lemma family_united : (united maximum f ts).family = f := rfl

@[simp] lemma nullable_united : (united maximum f ts).nullable = ts.any nullable := rfl

@[simp] lemma precision_united_decimal :
    (united maximum .decimal ts).precision = min (neededPrecision ts) maximum := rfl

@[simp] lemma scale_united_decimal :
    (united maximum .decimal ts).scale = min (greatest scale ts) maximum := rfl

lemma precision_united_of_ne (hf : f ≠ .decimal) :
    (united maximum f ts).precision = f.nominalPrecision :=
  if_neg hf

lemma scale_united_of_ne (hf : f ≠ .decimal) : (united maximum f ts).scale = f.nominalScale :=
  if_neg hf

lemma length_united_of_hasLength (hf : f.hasLength) :
    (united maximum f ts).length = greatest length ts :=
  if_pos hf

lemma length_united_of_not_hasLength (hf : ¬ f.hasLength) : (united maximum f ts).length = 0 :=
  if_neg hf

/-- The closed form only depends on which types there are, not on their order or number. -/
lemma united_congr (h : ∀ t, t ∈ ts ↔ t ∈ us) :
    united maximum f ts = united maximum f us := by
  have hmax : ∀ g, greatest g ts = greatest g us := fun _ =>
    le_antisymm (greatest_mono fun t => (h t).mp) (greatest_mono fun t => (h t).mpr)
  have hany : ts.any nullable = us.any nullable := by
    rw [Bool.eq_iff_iff, List.any_eq_true, List.any_eq_true]
    simp only [h]
  unfold united neededPrecision
  rw [hmax digits, hmax scale, hmax length, hany]

/-- What the whole number families have in common. -/
lemma wholeNumber_nominal {f : Family} (h : f < .decimal) :
    ¬ f.hasLength ∧ 1 ≤ f.nominalPrecision ∧ f.nominalPrecision ≤ 31 ∧ f.nominalScale = 0 := by
  have table : ∀ f : Family, f ≤ .decimal → f ≠ .decimal →
      ¬ f.hasLength ∧ 1 ≤ f.nominalPrecision ∧ f.nominalPrecision ≤ 31 ∧ f.nominalScale = 0 := by
    decide
  exact table f h.le h.ne

/-- A well-formed whole number type has the precision of its family and no scale. -/
lemma precision_of_lt_decimal {t : SqlType} (h : t.WellFormed) (ht : t.family < .decimal) :
    t.precision = t.family.nominalPrecision ∧ t.scale = 0 := by
  obtain ⟨hl, -, -, hs⟩ := wholeNumber_nominal ht
  obtain ⟨hp, hscale, -⟩ := (wellFormed_iff_of_fixed ht.ne hl).mp h
  exact ⟨hp, hscale.trans hs⟩

/-- The attributes of a well-formed exact number type. -/
lemma bounds_of_le_decimal {t : SqlType} (h : t.WellFormed) (ht : t.family ≤ .decimal) :
    1 ≤ t.precision ∧ t.precision ≤ 31 ∧ t.scale ≤ t.precision := by
  rcases ht.lt_or_eq with hlt | heq
  · obtain ⟨-, h1, h31, -⟩ := wholeNumber_nominal hlt
    obtain ⟨hp, hs⟩ := precision_of_lt_decimal h hlt
    omega
  · obtain ⟨h1, h31, hs, -⟩ := (wellFormed_iff_of_decimal heq).mp h
    exact ⟨h1, h31, hs⟩

/-- Whole number types need the digits of the widest family among them. -/
lemma greatest_of_lt_decimal {ts : List SqlType} {f : Family} (hf : f < .decimal)
    (hts : ∀ t ∈ ts, t.WellFormed ∧ t.family ≤ f) (hattained : ∃ t ∈ ts, t.family = f) :
    greatest digits ts = f.nominalPrecision ∧ greatest scale ts = 0 := by
  have hdigits : ∀ t ∈ ts, t.digits = t.family.nominalPrecision ∧ t.scale = 0 := by
    intro t ht
    obtain ⟨hp, hs⟩ := precision_of_lt_decimal (hts t ht).1 (lt_of_le_of_lt (hts t ht).2 hf)
    exact ⟨by rw [digits, hp, hs, Nat.sub_zero], hs⟩
  constructor
  · apply le_antisymm
    · rw [greatest_le_iff]
      intro t ht
      rw [(hdigits t ht).1]
      exact (Family.nominalPrecision_le_of_le (hts t ht).2 hf).2
    · obtain ⟨t, ht, rfl⟩ := hattained
      rw [← (hdigits t ht).1]
      exact le_greatest ht
  · rw [← Nat.le_zero, greatest_le_iff]
    intro t ht
    rw [(hdigits t ht).2]

/-- A union of exact number types takes part in a further DECIMAL union like its operands, up to
what the maximum precision cuts off. -/
lemma united_decimal_attributes (maximum : Nat) {m : Family}
    (hts : ∀ t ∈ ts, t.WellFormed ∧ t.family ≤ m)
    (hattained : (∃ t ∈ ts, t.family = m) ∨ m = .double) (hm : m ≤ .decimal) (d s : Nat) :
    min (max (united maximum m ts).digits d + max (united maximum m ts).scale s) maximum =
        min (max (greatest digits ts) d + max (greatest scale ts) s) maximum ∧
      min (max (united maximum m ts).scale s) maximum =
        min (max (greatest scale ts) s) maximum := by
  rcases hm.lt_or_eq with hlt | rfl
  · have hne : m ≠ .double := by
      rintro rfl
      exact absurd hlt.le (by decide)
    obtain ⟨hd, hs⟩ := greatest_of_lt_decimal hlt hts (hattained.resolve_right hne)
    have hscale : (united maximum m ts).scale = 0 := by
      rw [scale_united_of_ne hlt.ne]
      exact (wholeNumber_nominal hlt).2.2.2
    have hdigits : (united maximum m ts).digits = m.nominalPrecision := by
      rw [digits, hscale, precision_united_of_ne hlt.ne, Nat.sub_zero]
    rw [hscale, hdigits, hd, hs]
    exact ⟨rfl, rfl⟩
  · -- A clamped union has all of the maximum precision in use, so nothing below it matters.
    rw [digits, precision_united_decimal, scale_united_decimal, neededPrecision]
    omega

/-- A union among the operands of a further union can be replaced by its own operands. -/
lemma united_cons_united {m : Family} (hts : ∀ t ∈ ts, t.WellFormed ∧ t.family ≤ m)
    (hattained : (∃ t ∈ ts, t.family = m) ∨ m = .double) (hm : m ≤ f) :
    united maximum f (united maximum m ts :: us) = united maximum f (ts ++ us) := by
  have hnullable : ((united maximum m ts :: us).any nullable) = (ts ++ us).any nullable := by
    rw [List.any_cons, List.any_append, nullable_united]
  by_cases hd : f = .decimal
  · subst hd
    obtain ⟨hp, hs⟩ := united_decimal_attributes maximum hts hattained hm
      (greatest digits us) (greatest scale us)
    ext
    · rfl
    · simpa [neededPrecision] using hp
    · simpa using hs
    · rfl
    · exact hnullable
  · ext
    · rfl
    · rw [precision_united_of_ne hd, precision_united_of_ne hd]
    · rw [scale_united_of_ne hd, scale_united_of_ne hd]
    · by_cases hl : f.hasLength
      · have hml : m.hasLength := (Family.maxLength_le_of_le hm hl).1
        rw [length_united_of_hasLength hl, length_united_of_hasLength hl, greatest_cons,
          greatest_append, length_united_of_hasLength hml]
      · rw [length_united_of_not_hasLength hl, length_united_of_not_hasLength hl]
    · exact hnullable

end

end SqlType

/-! ## Attributes of the union of two types -/

/-- Numbers of 32 bits are kept as they are. -/
lemma wrap32_of_bounds {n : Int} (h : -0x80000000 ≤ n) (h' : n < 0x80000000) : wrap32 n = n := by
  unfold wrap32
  omega

/-- The attributes of a DECIMAL union, for attributes that a type can have. -/
lemma decimalUnion_eq (maximum : Int) {p1 s1 p2 s2 : Nat} (h1 : s1 ≤ p1) (h1' : p1 ≤ 31)
    (h2 : s2 ≤ p2) (h2' : p2 ≤ 31) :
    decimalUnion maximum p1 s1 p2 s2 =
      ⟨min ↑(max (p1 - s1) (p2 - s2) + max s1 s2) maximum, min ↑(max s1 s2) maximum,
        decide (maximum < ↑(max (p1 - s1) (p2 - s2) + max s1 s2))⟩ := by
  have hd1 : wrap32 (p1 - s1 : Int) = ↑(p1 - s1) := by
    rw [wrap32_of_bounds] <;> omega
  have hd2 : wrap32 (p2 - s2 : Int) = ↑(p2 - s2) := by
    rw [wrap32_of_bounds] <;> omega
  have hscale : max (s1 : Int) s2 = ↑(max s1 s2) := by
    omega
  have hneeded : wrap32 (max ↑(p1 - s1) ↑(p2 - s2) + ↑(max s1 s2)) =
      ↑(max (p1 - s1) (p2 - s2) + max s1 s2) := by
    rw [wrap32_of_bounds] <;> omega
  unfold decimalUnion
  dsimp only
  rw [hd1, hd2, hscale, hneeded]
  by_cases h : maximum < ↑(max (p1 - s1) (p2 - s2) + max s1 s2)
  · rw [if_pos h, decide_eq_true h, min_eq_right h.le]
  · rw [if_neg h, decide_eq_false h, min_eq_left (not_lt.mp h), min_eq_left (by omega)]

/-- A length within the ceiling leaves the family as it is. -/
lemma lengthUnion_of_le {f : Family} {l1 l2 : Nat} (h1 : l1 ≤ f.maxLength) (h2 : l2 ≤ f.maxLength) :
    lengthUnion f l1 l2 = (f, ↑(max l1 l2)) := by
  have h : max (l1 : Int) l2 = ↑(max l1 l2) := by omega
  unfold lengthUnion promote
  rw [h, if_pos (by omega)]

/-! ## The type of the union of two types -/

section

open SqlType

variable {a b : SqlType} {m : Meeting}

/-- The union of exact numbers in DECIMAL. -/
lemma unionType_decimal (maximum : Int) (ha : a.WellFormed) (hb : b.WellFormed)
    (hale : a.family ≤ .decimal) (hble : b.family ≤ .decimal) :
    unionType maximum .decimal a b =
      (SqlType.make .decimal (min ↑(neededPrecision [a, b]) maximum)
        (min ↑(greatest scale [a, b]) maximum) 0).map fun t =>
          (t.withNullable (a.nullable || b.nullable),
            decide (maximum < ↑(neededPrecision [a, b]))) := by
  obtain ⟨-, ha31, has⟩ := bounds_of_le_decimal ha hale
  obtain ⟨-, hb31, hbs⟩ := bounds_of_le_decimal hb hble
  have hneeded : neededPrecision [a, b] =
      max (a.precision - a.scale) (b.precision - b.scale) + max a.scale b.scale := by
    simp [neededPrecision, digits]
  have hscale : greatest scale [a, b] = max a.scale b.scale := by
    simp
  unfold unionType
  rw [if_pos rfl, decimalUnion_eq maximum has ha31 hbs hb31, hneeded, hscale]
  dsimp only
  generalize SqlType.make .decimal _ _ 0 = r
  cases r <;> rfl

/-- Families with lengths have no nominal precision and scale. -/
lemma nominal_of_hasLength {f : Family} (hf : f.hasLength) :
    f.nominalPrecision = 0 ∧ f.nominalScale = 0 := by
  revert f
  decide

/-- Two types that meet in a long family are at most as long as its ceiling, and one of them has
that length. -/
lemma max_length_of_meet? (ha : a.WellFormed) (hb : b.WellFormed)
    (hm : Family.meet? a.family b.family = some m) (hl : m.family.hasLength) :
    1 ≤ max a.length b.length ∧ a.length ≤ m.family.maxLength ∧ b.length ≤ m.family.maxLength ∧
      (¬ m.family.declaresLength → max a.length b.length = m.family.maxLength) := by
  obtain ⟨hale, hble⟩ := Family.le_of_meet? hm
  obtain ⟨hal, hamax⟩ := Family.maxLength_le_of_le hale hl
  obtain ⟨hbl, hbmax⟩ := Family.maxLength_le_of_le hble hl
  obtain ⟨-, -, ha1, ha2, halong⟩ := (wellFormed_iff_of_hasLength hal).mp ha
  obtain ⟨-, -, hb1, hb2, hblong⟩ := (wellFormed_iff_of_hasLength hbl).mp hb
  refine ⟨by omega, by omega, by omega, fun hlong => ?_⟩
  rcases Family.family_of_meet? hm with h | h | h
  · rw [h] at hlong hbmax ⊢
    rw [← halong hlong] at hbmax ⊢
    omega
  · rw [h] at hlong hamax ⊢
    rw [← hblong hlong] at hamax ⊢
    omega
  · rw [h] at hl
    exact absurd hl (by decide)

/-- The union of types with lengths. -/
lemma unionType_length (maximum : Int) (ha : a.WellFormed) (hb : b.WellFormed)
    (hm : Family.meet? a.family b.family = some m) (hl : m.family.hasLength) :
    (united maximum.toNat m.family [a, b]).WellFormed ∧
      unionType maximum m.family a b = .ok (united maximum.toNat m.family [a, b], false) := by
  obtain ⟨hpos, hal, hbl, hlong⟩ := max_length_of_meet? ha hb hm hl
  have hnd := Family.ne_decimal_of_hasLength hl
  obtain ⟨hprecision, hscale⟩ := nominal_of_hasLength hl
  have hunited : united maximum.toNat m.family [a, b] =
      ⟨m.family, 0, 0, max a.length b.length, a.nullable || b.nullable⟩ := by
    ext
    · rfl
    · rw [precision_united_of_ne hnd, hprecision]
    · rw [scale_united_of_ne hnd, hscale]
    · simp [length_united_of_hasLength hl]
    · simp
  have hmake : SqlType.make m.family 0 0 ↑(max a.length b.length) =
      .ok ⟨m.family, 0, 0, max a.length b.length, true⟩ := by
    by_cases hd : m.family.declaresLength
    · rw [make_eq_ok_iff_of_declaresLength hd]
      exact ⟨by omega, by omega, by rw [Int.toNat_natCast]⟩
    · rw [make_eq_fixed hnd hd, fixed, hprecision, hscale, hlong hd]
  constructor
  · rw [hunited]
    exact (wellFormed_of_make hmake).1
  · unfold unionType
    rw [if_neg hnd, if_pos hl, lengthUnion_of_le hal hbl]
    dsimp only
    rw [hmake, hunited]
    rfl

/-- The union of types that declare no attributes. -/
lemma unionType_fixed (maximum : Int) {f : Family} (hd : f ≠ .decimal) (hl : ¬ f.hasLength) :
    (united maximum.toNat f [a, b]).WellFormed ∧
      unionType maximum f a b = .ok (united maximum.toNat f [a, b], false) := by
  have hnl : ¬ f.declaresLength := by
    simp [Family.declaresLength, hl]
  have hunited : united maximum.toNat f [a, b] =
      (fixed f).withNullable (a.nullable || b.nullable) := by
    ext
    · rfl
    · exact precision_united_of_ne hd
    · exact scale_united_of_ne hd
    · rw [length_united_of_not_hasLength hl]
      simpa [Family.hasLength, withNullable, fixed, eq_comm] using hl
    · simp [withNullable]
  constructor
  · rw [hunited, wellFormed_withNullable]
    exact wellFormed_fixed hd hnl
  · unfold unionType
    rw [if_neg hd, if_neg hl, make_eq_fixed hd hnl, hunited]
    rfl

/-- What `unionType` gives for types that meet in `m`: the closed form, which is well formed. -/
lemma unionType_eq_ok {maximum : Int} {t : SqlType} {c : Bool} (ha : a.WellFormed)
    (hb : b.WellFormed) (hm : Family.meet? a.family b.family = some m)
    (h : unionType maximum m.family a b = .ok (t, c)) :
    t = united maximum.toNat m.family [a, b] ∧ t.WellFormed ∧
      (c = true ↔ m.family = .decimal ∧ maximum < neededPrecision [a, b]) := by
  by_cases hd : m.family = .decimal
  · obtain ⟨hale, hble⟩ := Family.le_of_meet? hm
    rw [hd] at h hale hble ⊢
    rw [unionType_decimal maximum ha hb hale hble] at h
    cases hmake : SqlType.make .decimal (min ↑(neededPrecision [a, b]) maximum)
        (min ↑(greatest scale [a, b]) maximum) 0 with
    | error e =>
      rw [hmake] at h
      cases h
    | ok u =>
      rw [hmake] at h
      cases h
      have hu := (wellFormed_of_make hmake).1
      obtain ⟨hp1, -, hs0, -, rfl⟩ := make_decimal_eq_ok_iff.mp hmake
      refine ⟨?_, by simpa using hu, by simp⟩
      ext
      · rfl
      · simp only [withNullable, precision_united_decimal]
        omega
      · simp only [withNullable, scale_united_decimal]
        omega
      · rfl
      · simp [withNullable]
  · have hclosed : t = united maximum.toNat m.family [a, b] ∧ t.WellFormed ∧ c = false := by
      by_cases hl : m.family.hasLength
      · obtain ⟨hwf, heq⟩ := unionType_length maximum ha hb hm hl
        rw [heq] at h
        cases h
        exact ⟨rfl, hwf, rfl⟩
      · obtain ⟨hwf, heq⟩ := unionType_fixed (a := a) (b := b) maximum hd hl
        rw [heq] at h
        cases h
        exact ⟨rfl, hwf, rfl⟩
    obtain ⟨ht, hwf, rfl⟩ := hclosed
    exact ⟨ht, hwf, by simp [hd]⟩

/-- With a maximum precision that a type can have, the union of types that meet exists. -/
lemma unionType_total {maximum : Int} (h1 : 1 ≤ maximum) (h31 : maximum ≤ 31) (ha : a.WellFormed)
    (hb : b.WellFormed) (hm : Family.meet? a.family b.family = some m) :
    ∃ r, unionType maximum m.family a b = .ok r := by
  by_cases hd : m.family = .decimal
  · obtain ⟨hale, hble⟩ := Family.le_of_meet? hm
    rw [hd] at hale hble ⊢
    have hpos : 1 ≤ neededPrecision [a, b] := by
      obtain ⟨hp, -, hs⟩ := bounds_of_le_decimal ha hale
      simp only [neededPrecision, greatest_cons, greatest_nil, digits]
      omega
    have hscale : greatest scale [a, b] ≤ neededPrecision [a, b] := Nat.le_add_left _ _
    obtain ⟨u, hu⟩ : ∃ u, SqlType.make .decimal (min ↑(neededPrecision [a, b]) maximum)
        (min ↑(greatest scale [a, b]) maximum) 0 = .ok u :=
      ⟨_, make_decimal_eq_ok_iff.mpr ⟨by omega, by omega, by omega, by omega, rfl⟩⟩
    rw [unionType_decimal maximum ha hb hale hble, hu]
    exact ⟨_, rfl⟩
  · by_cases hl : m.family.hasLength
    · exact ⟨_, (unionType_length maximum ha hb hm hl).2⟩
    · exact ⟨_, (unionType_fixed maximum hd hl).2⟩

/-! ## The cases of the union of two types -/

variable {rules : UnionRules}

/-- Types that are joined meet in a family, and their union has the closed form. Under the policy
to reject, its precision was not clamped. -/
lemma pairUnion_joined {t : SqlType} {d c : Bool} (ha : a.WellFormed) (hb : b.WellFormed)
    (h : pairUnion rules a b = .joined t d c) :
    ∃ m, Family.meet? a.family b.family = some m ∧
      t = united rules.maxPrecision.toNat m.family [a, b] ∧ t.WellFormed ∧ d = m.deferred ∧
      (c = true ↔ m.family = .decimal ∧ rules.maxPrecision < neededPrecision [a, b]) ∧
      ¬ (c = true ∧ rules.policy = .reject) := by
  unfold pairUnion at h
  split at h
  · cases h
  · rename_i m hm
    split at h
    · cases h
    · rename_i u clamped hu
      obtain ⟨hclosed, hwf, hclamped⟩ := unionType_eq_ok ha hb hm hu
      split at h
      · cases h
      · rename_i hpolicy
        cases h
        exact ⟨m, hm, hclosed, hwf, rfl, hclamped, hpolicy⟩

/-- Types are refused when their families do not meet, or when a DECIMAL union is clamped under the
policy to reject. -/
lemma pairUnion_refused {reason : MismatchReason} (ha : a.WellFormed) (hb : b.WellFormed)
    (h : pairUnion rules a b = .refused reason) :
    (reason = .family ∧ Family.meet? a.family b.family = none) ∨
      (reason = .precision ∧ rules.policy = .reject ∧
        ∃ m, Family.meet? a.family b.family = some m ∧ m.family = .decimal ∧
          rules.maxPrecision < neededPrecision [a, b]) := by
  unfold pairUnion at h
  split at h
  · rename_i hm
    cases h
    exact Or.inl ⟨rfl, hm⟩
  · rename_i m hm
    split at h
    · cases h
    · rename_i u clamped hu
      obtain ⟨-, -, hclamped⟩ := unionType_eq_ok ha hb hm hu
      split at h
      · rename_i hpolicy
        cases h
        obtain ⟨hd, hlt⟩ := hclamped.mp hpolicy.1
        exact Or.inr ⟨rfl, hpolicy.2, m, hm, hd, hlt⟩
      · cases h

/-- With a maximum precision that a type can have, the attributes of a union are in range. -/
lemma pairUnion_ne_broken (h1 : 1 ≤ rules.maxPrecision) (h31 : rules.maxPrecision ≤ 31)
    (ha : a.WellFormed) (hb : b.WellFormed) (cause : AttributeError) :
    pairUnion rules a b ≠ .broken cause := by
  intro h
  unfold pairUnion at h
  split at h
  · cases h
  · rename_i m hm
    obtain ⟨⟨u, clamped⟩, hu⟩ := unionType_total h1 h31 ha hb hm
    rw [hu] at h
    dsimp only at h
    split at h <;> cases h

end

end SqlTyping
