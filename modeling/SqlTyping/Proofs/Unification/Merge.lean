import SqlTyping.Proofs.Unification.Pair

/-!
# Merging groups of operands

The union of many operands is computed by joining groups of them, two at a time. `Merged` is what is
known about a group: its type, and whether strings have to be read or a precision was clamped on the
way. `Merged.Unites` says what these have to be for a given list of operands, without reference to
the way in which they were joined: the family is the least upper bound of the families, the
attributes are those of the closed form `SqlType.united`, and the two flags are determined by the
operands as well.

The step lemma is `Unites.join`: joining two groups gives a group with the operands of both. Its
counterpart `obstructed_of_join?_eq_none` says why two groups cannot be joined. Everything about
whole lists follows from these two by induction.
-/

namespace SqlTyping

open SqlType

/-! ## Groups of operands -/

/-- What is known about a group of operands that have been united. -/
structure Merged where
  type : SqlType
  /-- Whether some operand is read from strings. -/
  deferred : Bool
  /-- Whether a precision was clamped. -/
  clamped : Bool

namespace Merged

/-- The group of a single operand. -/
def single (t : SqlType) : Merged :=
  ⟨t, false, false⟩

/-- The union of two groups. -/
def join? (rules : UnionRules) (x y : Merged) : Option Merged :=
  match pairUnion rules x.type y.type with
  | .joined t deferred clamped =>
    some ⟨t, x.deferred || y.deferred || deferred, x.clamped || y.clamped || clamped⟩
  | _ => none

/-- Groups are joined by uniting their types and collecting their flags. -/
lemma join?_eq_some {rules : UnionRules} {x y z : Merged} (h : x.join? rules y = some z) :
    ∃ t d c, pairUnion rules x.type y.type = .joined t d c ∧
      z = ⟨t, x.deferred || y.deferred || d, x.clamped || y.clamped || c⟩ := by
  unfold join? at h
  split at h
  · rename_i t d c hpair
    cases h
    exact ⟨t, d, c, hpair, rfl⟩
  · cases h

end Merged

/-- The families of some types. -/
def families (ts : List SqlType) : Set Family :=
  {f | ∃ t ∈ ts, t.family = f}

@[simp] lemma mem_families {ts : List SqlType} {f : Family} :
    f ∈ families ts ↔ ∃ t ∈ ts, t.family = f :=
  Iff.rfl

lemma families_singleton (t : SqlType) : families [t] = {t.family} := by
  ext f
  simp [eq_comm]

lemma families_append (ts us : List SqlType) :
    families (ts ++ us) = families ts ∪ families us := by
  ext f
  simp [or_and_right, exists_or]

/-- More types have more families. -/
lemma families_mono {ts us : List SqlType} (h : ts ⊆ us) : families ts ⊆ families us := by
  rintro f ⟨t, ht, rfl⟩
  exact ⟨t, h ht, rfl⟩

/-- The order of types does not matter for their families. -/
lemma families_perm {ts us : List SqlType} (h : ts.Perm us) : families ts = families us :=
  (families_mono h.subset).antisymm (families_mono h.symm.subset)

/-! ## What a group of operands is -/

/-- Whether a group is the union of the given operands, if a DECIMAL may have up to `maximum`
digits. -/
structure Merged.Unites (maximum : Int) (ts : List SqlType) (x : Merged) : Prop where
  operands : ∀ t ∈ ts, t.WellFormed
  wellFormed : x.type.WellFormed
  isLUB : IsLUB (families ts) x.type.family
  attained : (∃ t ∈ ts, t.family = x.type.family) ∨ x.type.family = .double
  deferred_iff : x.deferred = true ↔ ∃ t ∈ ts, t.family.readsAs x.type.family
  type_eq : ts = [x.type] ∨
    (2 ≤ ts.length ∧ x.type = united maximum.toNat x.type.family ts)
  clamped_iff : x.type.family = .decimal →
    (x.clamped = true ↔ 2 ≤ ts.length ∧ maximum < neededPrecision ts)
  clamped_family : x.clamped = true → x.type.family = .decimal ∨ x.type.family = .double

namespace Merged

/-- A single operand is a group by itself. -/
lemma unites_single (maximum : Int) {t : SqlType} (ht : t.WellFormed) :
    Unites maximum [t] (single t) where
  operands u hu := by
    rw [List.mem_singleton.mp hu]
    exact ht
  wellFormed := ht
  isLUB := by
    rw [families_singleton]
    exact isLUB_singleton
  attained := Or.inl ⟨t, List.mem_singleton_self t, rfl⟩
  deferred_iff := by
    have table : ∀ f : Family, f.readsAs f = false := by decide
    simp [single, table]
  type_eq := Or.inl rfl
  clamped_iff _ := by simp [single]
  clamped_family h := by cases h

namespace Unites

variable {maximum : Int} {ts us : List SqlType} {x y : Merged}

/-- Every operand reaches the family of the group. -/
lemma le_family (h : Unites maximum ts x) {t : SqlType} (ht : t ∈ ts) :
    t.family ≤ x.type.family :=
  h.isLUB.1 ⟨t, ht, rfl⟩

/-- A group has at least one operand. -/
lemma ne_nil (h : Unites maximum ts x) : ts ≠ [] := by
  rintro rfl
  have hbound : ∀ f : Family, x.type.family ≤ f := by
    intro f
    apply h.isLUB.2
    rintro g ⟨t, ht, -⟩
    cases ht
  have table : ∀ f : Family, f ≤ .boolean → ¬ f ≤ .blob := by decide
  exact table _ (hbound .boolean) (hbound .blob)

/-- A clamped group has a numeric family, and so has every group above it. -/
lemma family_of_clamped (h : Unites maximum ts x) (hc : x.clamped = true) {f : Family}
    (hf : x.type.family ≤ f) : f = .decimal ∨ f = .double := by
  have table : ∀ f : Family, (.decimal ≤ f → f = .decimal ∨ f = .double) ∧
      (.double ≤ f → f = .decimal ∨ f = .double) := by
    decide
  rcases h.clamped_family hc with hd | hd
  · rw [hd] at hf
    exact (table f).1 hf
  · rw [hd] at hf
    exact (table f).2 hf

/-- A string family of the group is the family of an operand that is read from strings. -/
lemma exists_readsAs (h : Unites maximum ts x) {f : Family} (hf : x.type.family.readsAs f) :
    ∃ t ∈ ts, t.family.readsAs f := by
  rcases h.attained with ⟨t, ht, hfam⟩ | hdouble
  · exact ⟨t, ht, by rw [hfam]; exact hf⟩
  · rw [hdouble, Family.readsAs_iff] at hf
    rcases hf.1 with hne | hne <;> cases hne

/-- A group of exact numbers that was not clamped has the digits and the scale of its operands. -/
lemma digits_eq (h : Unites maximum ts x) (hle : x.type.family ≤ .decimal)
    (hc : x.clamped = false) :
    x.type.digits = greatest digits ts ∧ x.type.scale = greatest scale ts := by
  rcases h.type_eq with hone | ⟨htwo, hclosed⟩
  · rw [hone]
    simp
  rcases hle.lt_or_eq with hlt | hd
  · have hattained : ∃ t ∈ ts, t.family = x.type.family := by
      refine h.attained.resolve_right fun hdouble => ?_
      rw [hdouble] at hlt
      exact absurd hlt.le (by decide)
    obtain ⟨hdigits, hscale⟩ := greatest_of_lt_decimal hlt
      (fun t ht => ⟨h.operands t ht, h.le_family ht⟩) hattained
    obtain ⟨hp, hs⟩ := precision_of_lt_decimal h.wellFormed hlt
    rw [hdigits, hscale, digits, hp, hs]
    exact ⟨Nat.sub_zero _, rfl⟩
  · have hfits : neededPrecision ts ≤ maximum := by
      have hnot := mt (h.clamped_iff hd).mpr (by simp [hc])
      simpa [htwo] using hnot
    rw [hd] at hclosed
    have hneeded : neededPrecision ts = greatest digits ts + greatest scale ts := rfl
    rw [digits, hclosed, precision_united_decimal, scale_united_decimal]
    omega

/-- A clamped group of exact numbers needs more than the maximum precision. -/
lemma lt_of_clamped (h : Unites maximum ts x) (hle : x.type.family ≤ .decimal)
    (hc : x.clamped = true) : maximum < neededPrecision ts := by
  rcases h.clamped_family hc with hd | hdouble
  · exact ((h.clamped_iff hd).mp hc).2
  · rw [hdouble] at hle
    exact absurd hle (by decide)

/-- In a further union a group can be replaced by its operands. -/
lemma united_cons (h : Unites maximum ts x) {f : Family} (hf : x.type.family ≤ f)
    (us : List SqlType) :
    united maximum.toNat f (x.type :: us) = united maximum.toNat f (ts ++ us) := by
  rcases h.type_eq with hone | ⟨-, hclosed⟩
  · rw [hone]
    rfl
  · rw [hclosed]
    exact united_cons_united (fun t ht => ⟨h.operands t ht, h.le_family ht⟩) h.attained hf

/-- When two groups of exact numbers are joined, the maximum precision is exceeded on the way
exactly when their operands together need more. -/
lemma exceeds_iff (hx : Unites maximum ts x) (hy : Unites maximum us y)
    (hxle : x.type.family ≤ .decimal) (hyle : y.type.family ≤ .decimal) :
    (x.clamped = true ∨ y.clamped = true) ∨ maximum < neededPrecision [x.type, y.type] ↔
      maximum < neededPrecision (ts ++ us) := by
  have hleft : neededPrecision ts ≤ neededPrecision (ts ++ us) :=
    neededPrecision_mono (List.subset_append_left ts us)
  have hright : neededPrecision us ≤ neededPrecision (ts ++ us) :=
    neededPrecision_mono (List.subset_append_right ts us)
  by_cases hxc : x.clamped = true
  · have := hx.lt_of_clamped hxle hxc
    exact iff_of_true (Or.inl (Or.inl hxc)) (by omega)
  by_cases hyc : y.clamped = true
  · have := hy.lt_of_clamped hyle hyc
    exact iff_of_true (Or.inl (Or.inr hyc)) (by omega)
  -- Neither group was clamped, so their types still have the digits and scales of all operands.
  obtain ⟨hxd, hxs⟩ := hx.digits_eq hxle (by simpa using hxc)
  obtain ⟨hyd, hys⟩ := hy.digits_eq hyle (by simpa using hyc)
  have hneeded : neededPrecision [x.type, y.type] = neededPrecision (ts ++ us) := by
    simp [neededPrecision, hxd, hxs, hyd, hys]
  simp [hxc, hyc, hneeded]

/-- In the union of two groups, strings are read within one of them or in the last step. -/
lemma exists_readsAs_append_iff (hx : Unites maximum ts x) (hy : Unites maximum us y) {f : Family}
    (hxle : x.type.family ≤ f) (hyle : y.type.family ≤ f) :
    (∃ t ∈ ts ++ us, t.family.readsAs f) ↔
      (x.deferred = true ∨ y.deferred = true) ∨
        (x.type.family.readsAs f || y.type.family.readsAs f) = true := by
  have side : ∀ {vs : List SqlType} {v : Merged}, Unites maximum vs v → v.type.family ≤ f →
      ((∃ t ∈ vs, t.family.readsAs f) ↔ v.deferred = true ∨ v.type.family.readsAs f) := by
    intro vs v hv hle
    rw [hv.deferred_iff]
    constructor
    · rintro ⟨t, ht, hreads⟩
      rcases (Family.readsAs_iff_of_le (hv.le_family ht) hle).mp hreads with h | h
      · exact Or.inl ⟨t, ht, h⟩
      · exact Or.inr h
    · rintro (⟨t, ht, hreads⟩ | hreads)
      · exact ⟨t, ht, (Family.readsAs_iff_of_le (hv.le_family ht) hle).mpr (Or.inl hreads)⟩
      · exact hv.exists_readsAs hreads
  simp only [List.mem_append, or_and_right, exists_or]
  rw [side hx hxle, side hy hyle, Bool.or_eq_true]
  tauto

/-- Joining the union of some operands with the union of others gives the union of all of them. -/
lemma join {rules : UnionRules} {z : Merged} (hx : Unites rules.maxPrecision ts x)
    (hy : Unites rules.maxPrecision us y) (h : x.join? rules y = some z) :
    Unites rules.maxPrecision (ts ++ us) z := by
  obtain ⟨t, d, c, hpair, rfl⟩ := join?_eq_some h
  obtain ⟨m, hm, ht, hwf, rfl, hc, -⟩ := pairUnion_joined hx.wellFormed hy.wellFormed hpair
  have hfamily : t.family = m.family := by rw [ht, family_united]
  obtain ⟨hxle, hyle⟩ := Family.le_of_meet? hm
  rw [← hfamily] at hxle hyle
  have htwo : 2 ≤ (ts ++ us).length := by
    have hpos := List.length_pos_iff.mpr hx.ne_nil
    have hpos' := List.length_pos_iff.mpr hy.ne_nil
    rw [List.length_append]
    omega
  refine ⟨?_, hwf, ?_, ?_, ?_, Or.inr ⟨htwo, ?_⟩, ?_, ?_⟩
  · intro u hu
    rcases List.mem_append.mp hu with hu | hu
    · exact hx.operands u hu
    · exact hy.operands u hu
  · rw [families_append, hfamily]
    exact Family.isLUB_union hx.isLUB hy.isLUB hm
  · rcases Family.family_of_meet? hm with hcase | hcase | hcase
    · refine hx.attained.imp ?_ fun hdouble => by rw [hfamily, hcase, hdouble]
      rintro ⟨u, hu, hufam⟩
      exact ⟨u, List.mem_append_left us hu, by rw [hufam, hfamily, hcase]⟩
    · refine hy.attained.imp ?_ fun hdouble => by rw [hfamily, hcase, hdouble]
      rintro ⟨u, hu, hufam⟩
      exact ⟨u, List.mem_append_right ts hu, by rw [hufam, hfamily, hcase]⟩
    · exact Or.inr (hfamily.trans hcase)
  · rw [exists_readsAs_append_iff hx hy hxle hyle, Family.deferred_of_meet? hm, ← hfamily]
    simp only [Bool.or_eq_true]
  · calc
      t = united rules.maxPrecision.toNat t.family (x.type :: [y.type]) := by rw [hfamily, ht]
      _ = united rules.maxPrecision.toNat t.family (ts ++ [y.type]) := hx.united_cons hxle _
      _ = united rules.maxPrecision.toNat t.family (y.type :: ts) :=
        united_congr fun u => by simp [or_comm]
      _ = united rules.maxPrecision.toNat t.family (us ++ ts) := hy.united_cons hyle _
      _ = united rules.maxPrecision.toNat t.family (ts ++ us) :=
        united_congr fun u => by simp [or_comm]
  · intro hd
    dsimp only at hd
    rw [hd] at hxle hyle
    rw [← exceeds_iff hx hy hxle hyle, and_iff_right htwo]
    simp [hc, ← hfamily, hd]
  · intro hclamped
    simp only [Bool.or_eq_true] at hclamped
    rcases hclamped with (hxc | hyc) | hzc
    · exact hx.family_of_clamped hxc hxle
    · exact hy.family_of_clamped hyc hyle
    · exact Or.inl (hfamily.trans (hc.mp hzc).1)

/-- A group is determined by its operands, in whatever order they come. -/
lemma unique (hx : Unites maximum ts x) (hy : Unites maximum us y) (hperm : ts.Perm us) :
    x.type = y.type ∧ x.deferred = y.deferred := by
  have hmem : ∀ t, t ∈ ts ↔ t ∈ us := fun t => hperm.mem_iff
  have hfamily : x.type.family = y.type.family := by
    have hlub := hx.isLUB
    rw [families_perm hperm] at hlub
    exact hlub.unique hy.isLUB
  have hlength := hperm.length_eq
  constructor
  · rcases hx.type_eq with hone | ⟨htwo, hclosed⟩
    · rcases hy.type_eq with hone' | ⟨htwo', -⟩
      · rw [hone, hone'] at hperm
        simpa using hperm
      · rw [hone, List.length_singleton] at hlength
        omega
    · rcases hy.type_eq with hone' | ⟨-, hclosed'⟩
      · rw [hone', List.length_singleton] at hlength
        omega
      · rw [hclosed, hclosed', hfamily]
        exact united_congr hmem
  · rw [Bool.eq_iff_iff, hx.deferred_iff, hy.deferred_iff, hfamily]
    simp only [hmem]

end Unites

/-! ## Why groups cannot be joined -/

/-- Whether the rules keep some operands from being united: no family is above all of theirs, or
their DECIMAL union would have to be clamped under the policy to reject. -/
def Obstructed (rules : UnionRules) (ts : List SqlType) : Prop :=
  ¬ BddAbove (families ts) ∨
    (rules.policy = .reject ∧ IsLUB (families ts) .decimal ∧
      rules.maxPrecision < neededPrecision ts)

/-- Groups that cannot be joined have operands that cannot be united. -/
lemma obstructed_of_join?_eq_none {rules : UnionRules} {ts us : List SqlType} {x y : Merged}
    (h1 : 1 ≤ rules.maxPrecision) (h31 : rules.maxPrecision ≤ 31)
    (hx : Unites rules.maxPrecision ts x) (hy : Unites rules.maxPrecision us y)
    (h : x.join? rules y = none) : Obstructed rules (ts ++ us) := by
  unfold Obstructed
  rw [families_append]
  cases hpair : pairUnion rules x.type y.type with
  | joined t d c =>
    rw [join?, hpair] at h
    cases h
  | broken cause =>
    exact absurd hpair (pairUnion_ne_broken h1 h31 hx.wellFormed hy.wellFormed cause)
  | refused reason =>
    rcases pairUnion_refused hx.wellFormed hy.wellFormed hpair with
      ⟨-, hm⟩ | ⟨-, hpolicy, m, hm, hd, hlt⟩
    · exact Or.inl (Family.not_bddAbove_union hx.isLUB hy.isLUB hm)
    · have hlub := Family.isLUB_union hx.isLUB hy.isLUB hm
      obtain ⟨hxle, hyle⟩ := Family.le_of_meet? hm
      rw [hd] at hlub hxle hyle
      exact Or.inr ⟨hpolicy, hlub, (hx.exceeds_iff hy hxle hyle).mp (Or.inr hlt)⟩

/-- A group that exists is not obstructed: its family is a bound, and under the policy to reject
nothing was clamped. -/
lemma Unites.not_obstructed {rules : UnionRules} {ts : List SqlType} {x : Merged}
    (hx : Unites rules.maxPrecision ts x) (htwo : 2 ≤ ts.length)
    (hreject : rules.policy = .reject → x.clamped = false) : ¬ Obstructed rules ts := by
  rintro (hunbounded | ⟨hpolicy, hlub, hlt⟩)
  · exact hunbounded ⟨_, hx.isLUB.1⟩
  · have hd : x.type.family = .decimal := hx.isLUB.unique hlub
    have hclamped : x.clamped = true := (hx.clamped_iff hd).mpr ⟨htwo, hlt⟩
    rw [hreject hpolicy] at hclamped
    cases hclamped

/-! ## Merging from left to right -/

/-- Joins further operands to a group, one after the other. -/
def extend? (rules : UnionRules) (x : Merged) : List SqlType → Option Merged
  | [] => some x
  | t :: ts => (x.join? rules (single t)).bind fun y => y.extend? rules ts

@[simp] lemma extend?_nil (rules : UnionRules) (x : Merged) : x.extend? rules [] = some x := rfl

lemma extend?_cons (rules : UnionRules) (x : Merged) (t : SqlType) (ts : List SqlType) :
    x.extend? rules (t :: ts) =
      (x.join? rules (single t)).bind fun y => y.extend? rules ts := rfl

/-- Operands can be joined in portions. -/
lemma extend?_append (rules : UnionRules) (x : Merged) (ts us : List SqlType) :
    x.extend? rules (ts ++ us) = (x.extend? rules ts).bind fun y => y.extend? rules us := by
  induction ts generalizing x with
  | nil => rfl
  | cons t ts ih =>
    rw [List.cons_append, extend?_cons, extend?_cons, Option.bind_assoc]
    exact Option.bind_congr fun y _ => ih y

/-- Joining further operands to a union gives the union of all of them. -/
lemma Unites.extend {rules : UnionRules} {ts us : List SqlType} {x y : Merged}
    (hx : Unites rules.maxPrecision ts x) (hus : ∀ u ∈ us, u.WellFormed)
    (h : x.extend? rules us = some y) : Unites rules.maxPrecision (ts ++ us) y := by
  induction us generalizing ts x with
  | nil =>
    cases h
    rwa [List.append_nil]
  | cons u us ih =>
    obtain ⟨z, hz, hrest⟩ := Option.bind_eq_some_iff.mp h
    have hstep := hx.join (unites_single _ (hus u List.mem_cons_self)) hz
    have hall := ih hstep (fun v hv => hus v (List.mem_cons_of_mem u hv)) hrest
    rwa [List.append_assoc] at hall

/-- If further operands cannot be joined to a union, some of the first ones are obstructed. -/
lemma Unites.exists_obstructed {rules : UnionRules} {ts us : List SqlType} {x : Merged}
    (h1 : 1 ≤ rules.maxPrecision) (h31 : rules.maxPrecision ≤ 31)
    (hx : Unites rules.maxPrecision ts x) (hus : ∀ u ∈ us, u.WellFormed)
    (h : x.extend? rules us = none) :
    ∃ vs, vs <+: us ∧ vs ≠ [] ∧ Obstructed rules (ts ++ vs) := by
  induction us generalizing ts x with
  | nil => cases h
  | cons u us ih =>
    have hu := unites_single rules.maxPrecision (hus u List.mem_cons_self)
    cases hz : x.join? rules (single u) with
    | none =>
      refine ⟨[u], List.prefix_append [u] us, List.cons_ne_nil u [], ?_⟩
      exact obstructed_of_join?_eq_none h1 h31 hx hu hz
    | some z =>
      rw [extend?_cons, hz] at h
      obtain ⟨vs, hpre, -, hobstructed⟩ :=
        ih (hx.join hu hz) (fun v hv => hus v (List.mem_cons_of_mem u hv)) h
      refine ⟨u :: vs, (List.prefix_cons_inj u).mpr hpre, List.cons_ne_nil u vs, ?_⟩
      rwa [List.append_assoc] at hobstructed

/-- The union of some operands, taken from left to right. -/
def ofList? (rules : UnionRules) : List SqlType → Option Merged
  | [] => none
  | t :: ts => (single t).extend? rules ts

/-- Merging a list goes on from any first part of it. -/
lemma ofList?_append (rules : UnionRules) {ts : List SqlType} (hts : ts ≠ []) (us : List SqlType) :
    ofList? rules (ts ++ us) = (ofList? rules ts).bind fun y => y.extend? rules us := by
  cases ts with
  | nil => exact absurd rfl hts
  | cons t ts => exact extend?_append rules (single t) ts us

/-- What merging a list gives is the union of its operands. -/
lemma unites_of_ofList? {rules : UnionRules} {ts : List SqlType} {x : Merged}
    (hts : ∀ t ∈ ts, t.WellFormed) (h : ofList? rules ts = some x) :
    Unites rules.maxPrecision ts x := by
  cases ts with
  | nil => cases h
  | cons t ts =>
    exact (unites_single _ (hts t List.mem_cons_self)).extend
      (fun u hu => hts u (List.mem_cons_of_mem t hu)) h

/-- Under the policy to reject nothing is ever clamped. -/
lemma Unites.clamped_of_reject {rules : UnionRules} (hpolicy : rules.policy = .reject)
    {ts us : List SqlType} {x y : Merged} (hx : Unites rules.maxPrecision ts x)
    (hc : x.clamped = false) (hus : ∀ u ∈ us, u.WellFormed) (h : x.extend? rules us = some y) :
    y.clamped = false := by
  induction us generalizing ts x with
  | nil =>
    cases h
    exact hc
  | cons u us ih =>
    obtain ⟨z, hz, hrest⟩ := Option.bind_eq_some_iff.mp h
    have hu := hus u List.mem_cons_self
    have hzc : z.clamped = false := by
      obtain ⟨t, d, c, hpair, rfl⟩ := join?_eq_some hz
      obtain ⟨-, -, -, -, -, -, hnot⟩ := pairUnion_joined hx.wellFormed hu hpair
      simpa [hc, single, hpolicy] using hnot
    exact ih (hx.join (unites_single _ hu) hz) hzc (fun v hv => hus v (List.mem_cons_of_mem u hv))
      hrest

/-- Merging a list fails exactly when some first part of it, of at least two operands, cannot be
united. -/
lemma ofList?_eq_none_iff {rules : UnionRules} {ts : List SqlType} (h1 : 1 ≤ rules.maxPrecision)
    (h31 : rules.maxPrecision ≤ 31) (hts : ∀ t ∈ ts, t.WellFormed) (hne : ts ≠ []) :
    ofList? rules ts = none ↔ ∃ vs, vs <+: ts ∧ 2 ≤ vs.length ∧ Obstructed rules vs := by
  constructor
  · intro h
    cases ts with
    | nil => exact absurd rfl hne
    | cons t ts =>
      obtain ⟨vs, hpre, hvs, hobstructed⟩ :=
        (unites_single _ (hts t List.mem_cons_self)).exists_obstructed h1 h31
          (fun u hu => hts u (List.mem_cons_of_mem t hu)) h
      refine ⟨t :: vs, (List.prefix_cons_inj t).mpr hpre, ?_, hobstructed⟩
      have hpos := List.length_pos_iff.mpr hvs
      rw [List.length_cons]
      omega
  · rintro ⟨vs, ⟨ws, rfl⟩, htwo, hobstructed⟩
    have hvs : ∀ v ∈ vs, v.WellFormed := fun v hv => hts v (List.mem_append_left ws hv)
    cases vs with
    | nil => simp at htwo
    | cons v vs =>
      rw [ofList?_append rules (List.cons_ne_nil v vs)]
      cases hx : ofList? rules (v :: vs) with
      | none => rfl
      | some x =>
        refine absurd hobstructed ((unites_of_ofList? hvs hx).not_obstructed htwo fun hpolicy => ?_)
        exact (unites_single _ (hvs v List.mem_cons_self)).clamped_of_reject hpolicy rfl
          (fun u hu => hvs u (List.mem_cons_of_mem v hu)) hx

end Merged

end SqlTyping
