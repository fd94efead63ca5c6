import SqlTyping.Proofs.Routine.Applicable

/-!
# What a caller sees of an outcome

A caller sees the kind of an outcome, its rank and position, whether the result was to blame, the
spellings of the candidates and the report of its diagnostic. None of this depends on the order in
which the candidates were given, although an outcome holds the candidates themselves: those that are
spelled alike, because they differ in nothing but the names of their parameters for instance, may
change places among the tied ones. The report is built from the spellings and from the first
parameter at which not all tied candidates are the same, whichever of them comes first.
-/

namespace SqlTyping

/-- Outcomes that a caller cannot tell apart. -/
structure CallOutcome.LooksLike (o o' : CallOutcome) : Prop where
  kind : o.kindName = o'.kindName
  rank : o.rank = o'.rank
  position : o.position? = o'.position?
  returnIneligible : o.returnIneligible = o'.returnIneligible
  signature : o.signature?.map Signature.render = o'.signature?.map Signature.render
  candidates : o.candidates.map Signature.render = o'.candidates.map Signature.render
  /-- Code, message, detail, hint and position of the report are the same, for whatever spelling of
  the call. -/
  report : ∀ call, (o.diagnostic? call).map Diagnostic.report =
    (o'.diagnostic? call).map Diagnostic.report

/-- Answers to a call with `count` candidates that a caller cannot tell apart: outcomes that look
alike, or the same complaint that there are too many candidates. -/
def SameAnswer (count : Nat) (limit : Int) (x y : Except Abort CallOutcome) : Prop :=
  ((count : Int) ≤ limit ∧ ∃ o o', x = .ok o ∧ y = .ok o' ∧ o.LooksLike o') ∨
    (limit < count ∧ x = .error (.error (tooManyCandidates count limit)) ∧ y = x)

section

variable {o o' : CallOutcome} {x y : Except Abort CallOutcome} {count : Nat} {limit : Int}

/-- Candidates that are spelled alike look alike in any order. -/
lemma CallOutcome.Alike.looksLike (h : o.Alike o') : o.LooksLike o' := by
  have hreport : ∀ call, (o.diagnostic? call).map Diagnostic.report =
      (o'.diagnostic? call).map Diagnostic.report := by
    intro call
    rw [h.diagnostic? call]
  cases h with
  | refl => exact ⟨rfl, rfl, rfl, rfl, rfl, rfl, hreport⟩
  | ambiguous r p hperm hspelling => exact ⟨rfl, rfl, rfl, rfl, rfl, hspelling, hreport⟩

/-- Calls that end alike give the same answer, if there is an outcome up to the limit. -/
lemma SameCall.sameAnswer (h : SameCall x y) (hok : (count : Int) ≤ limit → ∃ o, x = .ok o)
    (hmany : limit < count → x = .error (.error (tooManyCandidates count limit))) :
    SameAnswer count limit x y := by
  rcases le_or_gt (count : Int) limit with hlimit | hlimit
  · obtain ⟨o, rfl⟩ := hok hlimit
    cases h with
    | ok halike => exact .inl ⟨hlimit, _, _, rfl, rfl, halike.looksLike⟩
  · have hx := hmany hlimit
    subst hx
    cases h with
    | error => exact .inr ⟨hlimit, rfl, rfl⟩

end

/-- Neither way of resolving a call depends on the order of the candidates, if their representations
are assigned. Candidates may be given twice and may have other names and numbers of parameters. -/
theorem resolution_independent_of_candidate_order {cs ds : List Signature} (hperm : cs.Perm ds)
    (hkinds : ∀ s ∈ cs, s.KindsAssigned) (limit : Int) (name : String) (context : ReturnContext) :
    (∀ operands, SameAnswer cs.length limit (resolve limit name cs operands context)
      (resolve limit name ds operands context)) ∧
    ∀ host operands, SameAnswer cs.length limit
      (resolveExplicit limit name cs host operands context)
      (resolveExplicit limit name ds host operands context) := by
  constructor
  · intro operands
    apply (resolve_sameCall hperm limit name operands context).sameAnswer
    · intro hlimit
      exact exists_resolve_eq_ok hlimit hkinds name operands context
    · intro hmany
      exact if_pos hmany
  · intro host operands
    apply (resolveExplicit_sameCall hperm limit name host operands context).sameAnswer
    · intro hlimit
      exact exists_resolveExplicit_eq_ok hlimit hkinds name host operands context
    · intro hmany
      exact if_pos hmany

/-- Of five candidates one is given twice, one is spelled like it, and one has another name. In both
orders the call is ambiguous, between the same spellings and at the same parameter. -/
theorem resolution_independent_of_candidate_order_spelled_alike :
    let integer : SqlType := ⟨.integer, 10, 0, 0, true⟩
    let double : SqlType := ⟨.double, 15, 0, 0, true⟩
    let a : Signature := ⟨"f", "a", [⟨"x", integer, .natural⟩, ⟨"y", double, .natural⟩], none⟩
    let a' : Signature :=
      ⟨"f", "b", [⟨"u", integer.withNullable false, .natural⟩, ⟨"v", double, .natural⟩], none⟩
    let b : Signature := ⟨"F", "b", [⟨"x", double, .natural⟩, ⟨"y", integer, .natural⟩], none⟩
    let g : Signature := ⟨"g", "g", [⟨"x", integer, .natural⟩, ⟨"y", integer, .natural⟩], none⟩
    let cs := [a, g, b, a', a]
    let operands := [some integer, some integer]
    cs.Perm cs.reverse ∧ (∀ s ∈ cs, s.KindsAssigned) ∧
      ∃ o o', resolve 5 "f" cs operands {} = .ok o ∧ resolve 5 "f" cs.reverse operands {} = .ok o' ∧
        o.kindName = "ambiguous" ∧ o.position? = o'.position? ∧
        o.candidates.map Signature.render = o'.candidates.map Signature.render := by
  intro integer double a a' b g cs operands
  have hperm : cs.Perm cs.reverse := cs.reverse_perm.symm
  have hkinds : ∀ s ∈ cs, s.KindsAssigned := by decide
  have hkind : (resolve 5 "f" cs operands {}).toOption.map CallOutcome.kindName =
      some "ambiguous" := by decide +kernel
  have hlimit : ¬ (5 : Int) < cs.length := by decide
  obtain ⟨-, o, o', ho, ho', hlooks⟩ :=
    ((resolution_independent_of_candidate_order hperm hkinds 5 "f" {}).1 operands).resolve_right
      fun hmany => hlimit hmany.1
  rw [ho] at hkind
  exact ⟨hperm, hkinds, o, o', ho, ho', Option.some.inj hkind, hlooks.position, hlooks.candidates⟩

end SqlTyping
