import SqlTyping.Proofs.Diagnostic
import SqlTyping.Proofs.TypeName
import SqlTyping.Proofs.Unification.Outcome

/-!
# The operand at which unification fails

A mismatch names an operand and the type of those before it. These operands unify, up to
nullability into the type that is named, and the operand alone is to blame: it does not pair with
any type that is equivalent to the named one, and whatever follows it makes no difference
(`unify_fails_at_first_mismatch`). Nullability can be left aside because it has no part in whether
two types unify (`pairUnion_withNullable_refused`).
-/

namespace SqlTyping

open SqlType Merged

/-! ## Nullability -/

namespace SqlType

/-- Equivalent types differ in nullability only. -/
lemma equivalent_iff {t u : SqlType} : t.equivalent u = true ↔ t = u.withNullable t.nullable := by
  unfold equivalent
  rw [beq_iff_eq]
  constructor
  · intro h
    have hback : (t.withNullable true).withNullable t.nullable =
        (u.withNullable true).withNullable t.nullable := by rw [h]
    exact hback
  · intro h
    rw [h]
    rfl

end SqlType

/-- Untyped operands leave the type of the merged ones equivalent. -/
lemma Merged.equivalent_typeAmong (operands : List (Option SqlType)) (x : Merged) :
    (x.typeAmong operands).equivalent x.type = true := by
  rw [equivalent_iff, typeAmong]
  split <;> rfl

/-- The nullability of a type has no effect on its unions but on their own nullability. -/
lemma unionType_withNullable (maximum : Int) (f : Family) (a b : SqlType) (n : Bool) :
    unionType maximum f (a.withNullable n) b =
      (unionType maximum f a b).map fun r => (r.1.withNullable (n || b.nullable), r.2) := by
  -- In every family the attributes are computed first, and nullability is set at the end.
  have last : ∀ (r : Except AttributeError SqlType) (k l c : Bool),
      (r >>= fun t => .ok (t.withNullable k, c)) =
        (r >>= fun t => .ok (t.withNullable l, c)).map fun r => (r.1.withNullable k, r.2) := by
    intro r k l c
    cases r <;> rfl
  unfold unionType
  split_ifs <;> exact last _ _ _ _

/-- Types that are refused are refused with either nullability. -/
lemma pairUnion_withNullable_refused {rules : UnionRules} {a b : SqlType} {reason : MismatchReason}
    (h : pairUnion rules a b = .refused reason) (n : Bool) :
    pairUnion rules (a.withNullable n) b = .refused reason := by
  have hfamily : (a.withNullable n).family = a.family := rfl
  unfold pairUnion at h ⊢
  rw [hfamily]
  cases hm : Family.meet? a.family b.family with
  | none =>
    rw [hm] at h
    exact h
  | some m =>
    rw [hm] at h
    dsimp only at h ⊢
    rw [unionType_withNullable]
    cases hu : unionType rules.maxPrecision m.family a b with
    | error cause =>
      rw [hu] at h
      cases h
    | ok r =>
      rw [hu] at h
      dsimp only [Except.map] at h ⊢
      split at h
      · next hreject =>
        rw [if_pos hreject]
        exact h
      · cases h

/-- Two types that are refused are a mismatch of the second one. -/
lemma unifyPair_of_refused {rules : UnionRules} {a b : SqlType} {reason : MismatchReason}
    (h : pairUnion rules a b = .refused reason) :
    unifyPair rules (some a) (some b) = .ok (.mismatch ⟨reason, 1, a, b⟩) := by
  rw [unifyPair, unifyTyped, h]
  rfl

/-! ## The message -/

/-- Spellings of types have no redaction marks. -/
lemma Text.mask_render (t : SqlType) : mask t.render = t.render := by
  refine mask_eq_self fun c hc => ?_
  have hspelling := TypeName.isSpellingChar_of_mem_render hc
  rw [isMark, Bool.or_eq_false_iff, beq_eq_false_iff_ne, beq_eq_false_iff_ne]
  constructor
  · rintro rfl
    exact absurd hspelling (by decide)
  · rintro rfl
    exact absurd hspelling (by decide)

/-- What stands in the message around the type that an operand does not fit. -/
def MismatchReason.phrase : MismatchReason → String × String
  | family => (" is not compatible with type ", "")
  | precision =>
    (" cannot be unified with type ", " without exceeding the maximum DECIMAL precision")

/-- The message of a mismatch names the operand by its position, and both types. -/
lemma Mismatch.message_report (m : Mismatch) :
    m.diagnostic.report.message =
      "operand " ++ toString (m.position + 1) ++ " of type " ++ m.operand.render ++
        m.reason.phrase.1 ++ m.before.render ++ m.reason.phrase.2 := by
  obtain ⟨reason, position, before, operand⟩ := m
  cases reason with
  | family =>
    change Text.mask ("operand " ++ toString (position + 1) ++ " of type " ++ operand.render ++
      " is not compatible with type " ++ before.render) = _
    simp only [Text.mask_append, Text.mask_toString, Text.mask_render, MismatchReason.phrase,
      String.append_empty]
    rfl
  | precision =>
    change Text.mask ("operand " ++ toString (position + 1) ++ " of type " ++ operand.render ++
      " cannot be unified with type " ++ before.render ++
        " without exceeding the maximum DECIMAL precision") = _
    simp only [Text.mask_append, Text.mask_toString, Text.mask_render, MismatchReason.phrase]
    rfl

/-! ## The cause of a failure -/

/-- If unification fails at an operand, then the operand is typed, and the operands before it unify
into a type that is equivalent to the one that the message names. No type that is equivalent to it
pairs with the operand, for the same reason, and with any other operands behind it the outcome
remains what it is, without flags. -/
theorem unify_fails_at_first_mismatch {rules : UnionRules} {operands : List (Option SqlType)}
    {m : Mismatch} (h : unify rules operands = .ok (.mismatch m)) :
    operands[m.position]? = some (some m.operand) ∧
    m.diagnostic.report.message =
      "operand " ++ toString (m.position + 1) ++ " of type " ++ m.operand.render ++
        m.reason.phrase.1 ++ m.before.render ++ m.reason.phrase.2 ∧
    (∃ u d c, unify rules (operands.take m.position) = .ok (.unified u d c) ∧
      u.equivalent m.before = true) ∧
    (∀ a : SqlType, a.equivalent m.before = true →
      unifyPair rules (some a) (some m.operand) = .ok (.mismatch ⟨m.reason, 1, a, m.operand⟩)) ∧
    (∀ further, unify rules (operands.take (m.position + 1) ++ further) = .ok (.mismatch m)) ∧
    (UnionOutcome.mismatch m).deferred = false ∧ (UnionOutcome.mismatch m).clamped = false := by
  obtain ⟨before, after, x, rfl, hx, hbefore, hposition, hpair⟩ := unify_eq_mismatch h
  have htake : (before ++ some m.operand :: after).take m.position = before := by
    rw [hposition, List.take_left]
  have htakeNext : ∀ further : List (Option SqlType),
      (before ++ some m.operand :: after).take (m.position + 1) ++ further =
        before ++ some m.operand :: further := by
    intro further
    rw [hposition, List.take_length_add_append]
    simp
  refine ⟨by simp [hposition], m.message_report, ?_, fun a ha => ?_, fun further => ?_, rfl, rfl⟩
  · refine ⟨x.typeAmong before, x.deferred, x.clamped, ?_, ?_⟩
    · rw [htake, unify_eq_of_ofList? hx]
    · rw [hbefore]
      exact x.equivalent_typeAmong before
  · rw [equivalent_iff.mp ha]
    exact unifyPair_of_refused (pairUnion_withNullable_refused hpair a.nullable)
  · rw [hbefore] at hpair
    rw [htakeNext, unify_eq_mismatch_of_refused hx hpair, ← hposition, ← hbefore]

/-- Behind two strings and an untyped operand, a large object is refused, and neither what stands in
front of it nor what could follow makes up for it. -/
theorem unify_fails_at_first_mismatch_blob :
    let before : List (Option SqlType) :=
      [some ⟨.char, 0, 0, 10, false⟩, none, some ⟨.varchar, 0, 0, 5, false⟩]
    let blob : SqlType := ⟨.blob, 0, 0, 10, true⟩
    let m : Mismatch := ⟨.family, 3, ⟨.varchar, 0, 0, 10, false⟩, blob⟩
    unify ⟨31, .defer⟩ (before ++ [some blob, some (fixed .boolean)]) = .ok (.mismatch m) ∧
      unify ⟨31, .defer⟩ (before ++ [some blob, some (fixed .date), none]) = .ok (.mismatch m) ∧
      m.diagnostic.report.message =
        "operand 4 of type BLOB(10) is not compatible with type VARCHAR(10) NOT NULL" ∧
      ∃ u d c, unify ⟨31, .defer⟩ before = .ok (.unified u d c) ∧ u.equivalent m.before = true := by
  intro before blob m
  have hunify : unify ⟨31, .defer⟩ (before ++ [some blob, some (fixed .boolean)]) =
      .ok (.mismatch m) := by
    set_option maxRecDepth 2000 in
    rfl
  obtain ⟨-, hmessage, hbefore, -, hfurther, -⟩ := unify_fails_at_first_mismatch hunify
  refine ⟨hunify, hfurther [some (fixed .date), none], ?_, hbefore⟩
  rw [hmessage]
  decide +kernel

end SqlTyping
