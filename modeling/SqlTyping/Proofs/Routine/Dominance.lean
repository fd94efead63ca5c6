import Mathlib.Algebra.Order.BigOperators.Group.List
import Mathlib.Algebra.Order.Group.Nat
import SqlTyping.Proofs.Conversion
import SqlTyping.Proofs.Routine.Minimum

/-!
# Dominated candidates

A candidate dominates another one for a call if it is at least as specific at every parameter and
more specific at one of them: its representations cost no more, and for typed operands its families
widen to the families of the other. For untyped operands the families do not count.

Ranks compare sums over all parameters, and they compare representations first, so that in general a
candidate can make up for a distant parameter by a near one. Against a candidate that dominates it,
it cannot: neither sum is smaller, because distances add up along the widening from an operand over
the nearer parameter to the farther one, and one of the sums is greater, because no widening to
another family is free (`Dominates.key_lt`). A dominated candidate is therefore never the outcome of
a call, nor one of several.
-/

namespace SqlTyping

/-! ## Parameters -/

/-- The cost of a representation; one that is not assigned is never ranked. -/
def RepKind.cost (k : RepKind) : Nat :=
  k.rank?.getD 0

namespace Param

variable {p q : Param} {operand : Option SqlType}

/-- Whether a parameter is at least as specific for an operand as another parameter. -/
def NoWorse (p q : Param) (operand : Option SqlType) : Prop :=
  p.kind.cost ≤ q.kind.cost ∧ (operand.isSome → p.type.family.widens q.type.family)

/-- Whether a parameter differs from a worse one in its cost or, for a typed operand, in its
family. -/
def Differs (p q : Param) (operand : Option SqlType) : Prop :=
  p.kind.cost < q.kind.cost ∨ (operand.isSome ∧ p.type.family ≠ q.type.family)

instance (p q : Param) (operand : Option SqlType) : Decidable (p.NoWorse q operand) :=
  inferInstanceAs (Decidable (_ ∧ _))

instance (p q : Param) (operand : Option SqlType) : Decidable (p.Differs q operand) :=
  inferInstanceAs (Decidable (_ ∨ _))

/-- The way to the worse parameter leads over the better one. -/
lemma NoWorse.distance_eq {t : SqlType} (h : p.NoWorse q (some t))
    (haccepts : p.accepts t.family = true) :
    ∃ n, q.distance (some t) = p.distance (some t) + n ∧
      (p.type.family ≠ q.type.family → 0 < n) := by
  obtain ⟨m, hm⟩ : ∃ m, t.family.distance? p.type.family = some m := ⟨_, if_pos haccepts⟩
  obtain ⟨n, hn⟩ : ∃ n, p.type.family.distance? q.type.family = some n := ⟨_, if_pos (h.2 rfl)⟩
  refine ⟨n, ?_, Family.distance?_pos hn⟩
  rw [distance, distance, Family.distance?_trans hm hn, hm]
  rfl

/-- An operand does not travel farther to the better parameter. -/
lemma NoWorse.distance_le (h : p.NoWorse q operand) (haccepts : p.acceptsOperand operand = true) :
    p.distance operand ≤ q.distance operand := by
  cases operand with
  | none => exact le_rfl
  | some t =>
    obtain ⟨n, hn, -⟩ := h.distance_eq haccepts
    omega

/-- A typed operand travels farther to the worse parameter if the families differ. -/
lemma NoWorse.distance_lt (h : p.NoWorse q operand) (haccepts : p.acceptsOperand operand = true)
    (htyped : operand.isSome = true) (hne : p.type.family ≠ q.type.family) :
    p.distance operand < q.distance operand := by
  obtain ⟨t, rfl⟩ := Option.isSome_iff_exists.mp htyped
  obtain ⟨n, hn, hpos⟩ := h.distance_eq haccepts
  have hpos := hpos hne
  omega

end Param

/-! ## Candidates -/

namespace Signature

variable {a b : Signature} {operands : List (Option SqlType)}

/-- The parameters of two candidates side by side, with the operands for them. -/
def compared (a b : Signature) (operands : List (Option SqlType)) :
    List (Param × Param × Option SqlType) :=
  a.params.zip (b.params.zip operands)

/-- Whether a candidate is at least as specific as another one at every parameter, and more specific
at one of them. -/
def Dominates (a b : Signature) (operands : List (Option SqlType)) : Prop :=
  (∀ x ∈ a.compared b operands, x.1.NoWorse x.2.1 x.2.2) ∧
    ∃ x ∈ a.compared b operands, x.1.Differs x.2.1 x.2.2

instance (a b : Signature) (operands : List (Option SqlType)) :
    Decidable (a.Dominates b operands) :=
  inferInstanceAs (Decidable (_ ∧ _))

/-- The parameters of the first candidate and their operands. -/
lemma map_compared_left (hb : b.arity = operands.length) :
    (a.compared b operands).map (fun x => (x.1, x.2.2)) = a.params.zip operands := by
  have hsnd : (b.params.zip operands).map Prod.snd = operands := List.map_snd_zip hb.ge
  conv_rhs => rw [← hsnd, List.zip_map_right]
  rfl

/-- The parameters of the second candidate and their operands. -/
lemma map_compared_right (ha : a.arity = operands.length) (hb : b.arity = operands.length) :
    (a.compared b operands).map Prod.snd = b.params.zip operands := by
  refine List.map_snd_zip ?_
  rw [List.length_zip, ← arity, ← arity, ha, hb, Nat.min_self]

/-- The two sums of a candidate, over a list in which its parameters and operands occur. -/
lemma sums_eq {α : Type} {xs : List α} {f : α → Param × Option SqlType}
    (ha : a.arity = operands.length) (h : xs.map f = a.params.zip operands) :
    a.representationCost = (xs.map fun x => (f x).1.kind.cost).foldr (· + ·) 0 ∧
      a.wideningDistance operands =
        (xs.map fun x => (f x).1.distance (f x).2).foldr (· + ·) 0 := by
  have hparams : a.params = xs.map fun x => (f x).1 := by
    have hfst : (a.params.zip operands).map Prod.fst = a.params := List.map_fst_zip ha.le
    rw [← hfst, ← h, List.map_map]
    rfl
  have hzip : List.zipWith Param.distance a.params operands =
      xs.map fun x => (f x).1.distance (f x).2 := by
    rw [← List.map_uncurry_zip_eq_zipWith, ← h, List.map_map]
    rfl
  rw [representationCost, wideningDistance, hzip, hparams, List.map_map]
  exact ⟨rfl, rfl⟩

/-- A candidate that dominates another one has the better rank. -/
lemma Dominates.key_lt (h : a.Dominates b operands) (ha : a.arity = operands.length)
    (hb : b.arity = operands.length) (haccepts : a.AcceptsFrom 0 operands) :
    (a.costs operands).key < (b.costs operands).key := by
  obtain ⟨hall, y, hy, hdiffers⟩ := h
  have hleft := map_compared_left (a := a) hb
  have haccepted : ∀ x ∈ a.compared b operands, x.1.acceptsOperand x.2.2 = true := by
    intro x hx
    refine (acceptsFrom_zero_iff ha).mp haccepts (x.1, x.2.2) ?_
    rw [← hleft]
    exact List.mem_map_of_mem hx
  have hcost : ∀ x ∈ a.compared b operands, x.1.kind.cost ≤ x.2.1.kind.cost := fun x hx =>
    (hall x hx).1
  have hdistance : ∀ x ∈ a.compared b operands, x.1.distance x.2.2 ≤ x.2.1.distance x.2.2 :=
    fun x hx => (hall x hx).distance_le (haccepted x hx)
  obtain ⟨hcosta, hdista⟩ := sums_eq ha hleft
  obtain ⟨hcostb, hdistb⟩ := sums_eq hb (map_compared_right ha hb)
  have hcosts : a.representationCost ≤ b.representationCost := by
    rw [hcosta, hcostb]
    exact List.sum_le_sum hcost
  have hdistances : a.wideningDistance operands ≤ b.wideningDistance operands := by
    rw [hdista, hdistb]
    exact List.sum_le_sum hdistance
  -- The parameters that differ make one of the two sums greater.
  have hstrict : a.representationCost < b.representationCost ∨
      a.wideningDistance operands < b.wideningDistance operands := by
    rcases hdiffers with hlt | ⟨htyped, hne⟩
    · left
      rw [hcosta, hcostb]
      exact List.sum_lt_sum _ _ hcost ⟨y, hy, hlt⟩
    · right
      have hlt := (hall y hy).distance_lt (haccepted y hy) htyped hne
      rw [hdista, hdistb]
      exact List.sum_lt_sum _ _ hdistance ⟨y, hy, hlt⟩
  rw [Rank.key_lt_iff]
  simp only [costs]
  omega

end Signature

/-- A candidate that another one dominates is neither taken nor tied: if both apply to a call, it is
not the one that the call is resolved to, and not among those that make it ambiguous. -/
theorem resolve_never_takes_dominated {limit : Int} {name : String} {cs : List Signature}
    {operands : List (Option SqlType)} {context : ReturnContext} {o : CallOutcome}
    {a b : Signature} (h : resolve limit name cs operands context = .ok o) (hmem : a ∈ cs)
    (ha : a.Applies name operands context) (hb : b.Applies name operands context)
    (hdominates : a.Dominates b operands) : o.signature? ≠ some b ∧ b ∉ o.candidates := by
  have hresolves := resolvesTo_of_resolve h
  have hrank := hresolves.rank_le (mem_applicable.mpr ⟨hmem, ha⟩)
  have hlt := hdominates.key_lt ha.arity hb.arity ha.accepts
  have hnot : ¬ (o.signature? = some b ∨ b ∈ o.candidates) := by
    intro htaken
    rw [(hresolves.of_taken htaken).2] at hlt
    exact absurd hrank (not_le_of_gt hlt)
  exact not_or.mp hnot

/-- Of three candidates two are tied. The third one has the same representations, but a small number
has farther to go; that its other family is unrelated does not matter for an untyped operand. -/
theorem resolve_never_takes_dominated_untyped :
    let smallInt : SqlType := ⟨.smallInt, 5, 0, 0, true⟩
    let integer : SqlType := ⟨.integer, 10, 0, 0, true⟩
    let decimal : SqlType := ⟨.decimal, 9, 2, 0, true⟩
    let date : SqlType := ⟨.date, 0, 0, 0, true⟩
    let operands := [some smallInt, none]
    let near : Signature := ⟨"f", "near", [⟨"x", integer, .natural⟩, ⟨"y", integer, .any⟩], none⟩
    let tied : Signature := ⟨"F", "tied", [⟨"x", integer, .any⟩, ⟨"y", date, .natural⟩], none⟩
    let far : Signature := ⟨"f", "far", [⟨"x", decimal, .nullable⟩, ⟨"y", date, .any⟩], none⟩
    near.Dominates far operands ∧ far.Applies "f" operands {} ∧
      ∃ o, resolve 3 "f" [far, tied, near] operands {} = .ok o ∧ o.kindName = "ambiguous" ∧
        o.signature? ≠ some far ∧ far ∉ o.candidates := by
  intro smallInt integer decimal date operands near tied far
  have hdominates : near.Dominates far operands := by decide +kernel
  have hnear : near.Applies "f" operands {} := by decide +kernel
  have hfar : far.Applies "f" operands {} := by decide +kernel
  have hlimit : ([far, tied, near].length : Int) ≤ 3 := by decide
  have hkinds : ∀ s ∈ [far, tied, near], s.KindsAssigned := by decide
  have hseveral : 2 ≤ (bestCandidates [far, tied, near] "f" operands {}).length := by
    decide +kernel
  obtain ⟨o, ho⟩ := exists_resolve_eq_ok hlimit hkinds "f" operands {}
  obtain ⟨_, _, _, rfl⟩ := (resolvesTo_of_resolve ho).ambiguous_iff.mpr hseveral
  have hmem : near ∈ [far, tied, near] := by simp
  have hnever := resolve_never_takes_dominated ho hmem hnear hfar hdominates
  exact ⟨hdominates, hfar, _, ho, rfl, hnever⟩

end SqlTyping
