import Mathlib.Order.Bounds.Basic
import SqlTyping.Proofs.Routine.CandidateOrder

/-!
# Candidates that apply

A candidate applies to a call if it has the name and the number of parameters of the call, accepts
its operands, and returns what the context needs. Narrowing the candidates step by step leaves
those that apply, and it is they that are ranked (`resolve_cases`).

Two consequences are drawn here. Resolution crashes if a candidate that applies has a
representation that is not assigned, and otherwise it does not (`exists_resolve_eq_crash_iff`,
`exists_resolveExplicit_eq_crash_iff`). And the candidates of an ambiguous call are at least two of
those given, each listed as often as it was given, with the first parameter at which they differ
(`tied_of_resolve`, `tied_of_resolveExplicit`).
-/

namespace SqlTyping

/-! ## Operands -/

section Operands

variable {s : Signature} {cs ds : List Signature} {position : Nat}
  {operands : List (Option SqlType)}

/-- Whether the parameters from a position on accept the operands. -/
def Signature.AcceptsFrom (s : Signature) (position : Nat) (operands : List (Option SqlType)) :
    Prop :=
  ∀ (i : Nat) (t : SqlType), operands[i]? = some (some t) →
    ∃ p, s.params[position + i]? = some p ∧ p.accepts t.family = true

lemma Signature.acceptsFrom_nil : s.AcceptsFrom position [] := by
  intro i t hi
  cases hi

lemma Signature.acceptsFrom_untyped :
    s.AcceptsFrom position (none :: operands) ↔ s.AcceptsFrom (position + 1) operands := by
  constructor
  · intro h i t hi
    have hp := h (i + 1) t hi
    rwa [← Nat.add_assoc, Nat.add_right_comm] at hp
  · intro h i t hi
    cases i with
    | zero => cases hi
    | succ i =>
      have hp := h i t hi
      rwa [Nat.add_right_comm, Nat.add_assoc] at hp

lemma Signature.acceptsFrom_typed {t : SqlType} :
    s.AcceptsFrom position (some t :: operands) ↔
      s.acceptsAt position t = true ∧ s.AcceptsFrom (position + 1) operands := by
  have hfirst : s.acceptsAt position t = true ↔
      ∃ p, s.params[position]? = some p ∧ p.accepts t.family = true := by
    unfold acceptsAt
    cases s.params[position]? <;> simp
  rw [hfirst]
  constructor
  · intro h
    refine ⟨h 0 t rfl, fun i u hi => ?_⟩
    have hp := h (i + 1) u hi
    rwa [← Nat.add_assoc, Nat.add_right_comm] at hp
  · rintro ⟨hp, hrest⟩ i u hi
    cases i with
    | zero =>
      cases hi
      exact hp
    | succ i =>
      have hq := hrest i u hi
      rwa [Nat.add_right_comm, Nat.add_assoc] at hq

/-- What accepts all operands accepts the first ones. -/
lemma Signature.AcceptsFrom.of_take (h : s.AcceptsFrom position operands) (n : Nat) :
    s.AcceptsFrom position (operands.take n) := by
  intro i t hi
  exact h i t (List.getElem?_take_eq_some_iff.mp hi).2

/-- A candidate with as many parameters as there are operands accepts them if each parameter accepts
its own. -/
lemma Signature.acceptsFrom_zero_iff (harity : s.arity = operands.length) :
    s.AcceptsFrom 0 operands ↔ ∀ x ∈ s.params.zip operands, x.1.acceptsOperand x.2 = true := by
  constructor
  · rintro h ⟨p, operand⟩ hx
    obtain ⟨i, hi⟩ := List.mem_iff_getElem?.mp hx
    obtain ⟨hp, hoperand⟩ := List.getElem?_zip_eq_some.mp hi
    cases operand with
    | none => rfl
    | some t =>
      obtain ⟨q, hq, haccepts⟩ := h i t hoperand
      rw [Nat.zero_add, hp] at hq
      cases hq
      exact haccepts
  · intro h i t hi
    have hlt : i < s.params.length := by
      rw [← arity, harity]
      exact (List.getElem?_eq_some_iff.mp hi).1
    have hp : s.params[i]? = some s.params[i] := List.getElem?_eq_getElem hlt
    have hmem : (s.params[i], some t) ∈ s.params.zip operands :=
      List.mem_of_getElem? (List.getElem?_zip_eq_some.mpr ⟨hp, hi⟩)
    exact ⟨s.params[i], by rw [Nat.zero_add, hp], h _ hmem⟩

instance (s : Signature) (position : Nat) (operands : List (Option SqlType)) :
    Decidable (s.AcceptsFrom position operands) :=
  decidable_of_iff (∀ i < operands.length, ∀ t ∈ (operands[i]?).join,
      ∃ p ∈ s.params[position + i]?, p.accepts t.family = true) <| by
    constructor
    · intro h i t hi
      have hlt := (List.getElem?_eq_some_iff.mp hi).1
      obtain ⟨p, hp, haccepts⟩ := h i hlt t (Option.join_eq_some_iff.mpr hi)
      exact ⟨p, hp, haccepts⟩
    · intro h i _ t ht
      obtain ⟨p, hp, haccepts⟩ := h i t (Option.join_eq_some_iff.mp ht)
      exact ⟨p, hp, haccepts⟩

/-- The places up to which no candidate accepts the operands. -/
def refused (cs : List Signature) (position : Nat) (operands : List (Option SqlType)) : Set Nat :=
  {i | ∀ s ∈ cs, ¬ s.AcceptsFrom position (operands.take (i + 1))}

lemma refused_eq_of_perm (h : cs.Perm ds) (position : Nat) (operands : List (Option SqlType)) :
    refused cs position operands = refused ds position operands := by
  ext i
  exact forall_congr' fun s => imp_congr_left h.mem_iff

/-- If some candidate accepts the first operand, the first refusal is that of those that do. -/
lemma isLeast_refused_cons {o : Option SqlType} {i : Nat}
    (hfirst : ∃ s ∈ cs, s.AcceptsFrom position [o])
    (hrest : ∀ ops, (∃ s ∈ cs, s.AcceptsFrom position (o :: ops)) ↔
      ∃ s ∈ ds, s.AcceptsFrom (position + 1) ops)
    (h : IsLeast (refused ds (position + 1) operands) i) :
    IsLeast (refused cs position (o :: operands)) (i + 1) := by
  have hsucc : ∀ j, j + 1 ∈ refused cs position (o :: operands) ↔
      j ∈ refused ds (position + 1) operands := by
    intro j
    have hnone := not_congr (hrest (operands.take (j + 1)))
    push Not at hnone
    exact hnone
  refine ⟨(hsucc i).mpr h.1, fun j hj => ?_⟩
  cases j with
  | zero =>
    obtain ⟨s, hs, haccepts⟩ := hfirst
    exact absurd haccepts (hj s hs)
  | succ j => exact Nat.succ_le_succ (h.2 ((hsucc j).mp hj))

/-- Narrowing by the operands leaves the candidates that accept them, or ends at the first operand
up to which no candidate accepts them. -/
lemma acceptingFrom_spec (position : Nat) {cs : List Signature} (hne : cs ≠ [])
    (operands : List (Option SqlType)) :
    (∃ i, acceptingFrom position cs operands = .error (position + i) ∧
      IsLeast (refused cs position operands) i) ∨
    ∃ ds, acceptingFrom position cs operands = .ok ds ∧ ds ≠ [] ∧
      ds.Perm (cs.filter fun s => s.AcceptsFrom position operands) := by
  induction operands generalizing position cs with
  | nil =>
    refine .inr ⟨cs, rfl, hne, ?_⟩
    rw [List.filter_eq_self.mpr fun s _ => decide_eq_true Signature.acceptsFrom_nil]
  | cons operand operands ih =>
    cases operand with
    | none =>
      rcases ih (position + 1) hne with ⟨i, hi, hleast⟩ | ⟨ds, hds, hne', hperm⟩
      · obtain ⟨s, hs⟩ := List.exists_mem_of_ne_nil cs hne
        have hfirst : s.AcceptsFrom position [none] :=
          Signature.acceptsFrom_untyped.mpr Signature.acceptsFrom_nil
        refine .inl ⟨i + 1, ?_, isLeast_refused_cons ⟨s, hs, hfirst⟩ (fun ops => ?_) hleast⟩
        · rw [acceptingFrom, hi, Nat.add_assoc, Nat.add_comm 1 i]
        · simp only [Signature.acceptsFrom_untyped]
      · refine .inr ⟨ds, hds, hne', ?_⟩
        simpa only [Signature.acceptsFrom_untyped] using hperm
    | some t =>
      have hmem : ∀ s, s ∈ select (Signature.acceptsAt position t) cs ↔
          s ∈ cs ∧ s.acceptsAt position t = true := fun _ => mem_select
      have hkept := select_perm_filter (Signature.acceptsAt position t) cs
      rw [acceptingFrom]
      generalize select (Signature.acceptsAt position t) cs = kept at hmem hkept ⊢
      by_cases hempty : kept = []
      · refine .inl ⟨0, if_pos (List.isEmpty_iff.mpr hempty), fun s hs haccepts => ?_,
          fun _ _ => Nat.zero_le _⟩
        have hs := (hmem s).mpr ⟨hs, (Signature.acceptsFrom_typed.mp haccepts).1⟩
        rw [hempty] at hs
        cases hs
      rw [if_neg (List.isEmpty_iff.not.mpr hempty)]
      rcases ih (position + 1) hempty with ⟨i, hi, hleast⟩ | ⟨ds, hds, hne', hperm⟩
      · obtain ⟨s, hs⟩ := List.exists_mem_of_ne_nil kept hempty
        obtain ⟨hs, hfirst⟩ := (hmem s).mp hs
        have hfirst : s.AcceptsFrom position [some t] :=
          Signature.acceptsFrom_typed.mpr ⟨hfirst, Signature.acceptsFrom_nil⟩
        refine .inl ⟨i + 1, ?_, isLeast_refused_cons ⟨s, hs, hfirst⟩ (fun ops => ?_) hleast⟩
        · rw [hi, Nat.add_assoc, Nat.add_comm 1 i]
        · simp only [Signature.acceptsFrom_typed, hmem, and_assoc]
      · refine .inr ⟨ds, hds, hne', hperm.trans ?_⟩
        have hboth := hkept.filter fun s => s.AcceptsFrom (position + 1) operands
        rw [List.filter_filter] at hboth
        simpa only [Signature.acceptsFrom_typed, Bool.decide_and, Bool.decide_eq_true,
          Bool.and_comm] using hboth

end Operands

/-! ## Resolution by rank -/

/-- A candidate applies to a call. -/
structure Signature.Applies (s : Signature) (name : String) (operands : List (Option SqlType))
    (context : ReturnContext) : Prop where
  named : Text.equalFold s.name name = true
  arity : s.arity = operands.length
  accepts : s.AcceptsFrom 0 operands
  admitted : context.admits s.result = true

lemma Signature.applies_iff {s : Signature} {name : String} {operands : List (Option SqlType)}
    {context : ReturnContext} :
    s.Applies name operands context ↔ Text.equalFold s.name name = true ∧
      s.arity = operands.length ∧ s.AcceptsFrom 0 operands ∧ context.admits s.result = true :=
  ⟨fun h => ⟨h.named, h.arity, h.accepts, h.admitted⟩, fun h => ⟨h.1, h.2.1, h.2.2.1, h.2.2.2⟩⟩

instance (s : Signature) (name : String) (operands : List (Option SqlType))
    (context : ReturnContext) : Decidable (s.Applies name operands context) :=
  decidable_of_iff' _ Signature.applies_iff

/-- The candidates that apply to a call, as often as they are given. -/
def applicable (cs : List Signature) (name : String) (operands : List (Option SqlType))
    (context : ReturnContext) : List Signature :=
  cs.filter fun s => s.Applies name operands context

lemma mem_applicable {cs : List Signature} {name : String} {operands : List (Option SqlType)}
    {context : ReturnContext} {s : Signature} :
    s ∈ applicable cs name operands context ↔ s ∈ cs ∧ s.Applies name operands context := by
  rw [applicable, List.mem_filter, decide_eq_true_iff]

/-- The place at which a call is refused: the first operand up to which no candidate of its name
accepts the operands. If there is no candidate of its name, it is refused at no place. -/
def RefusedAt (cs : List Signature) (name : String) (operands : List (Option SqlType)) :
    Option Nat → Prop
  | none => cs.filter (Signature.isNamed name operands.length) = []
  | some i => cs.filter (Signature.isNamed name operands.length) ≠ [] ∧
      IsLeast (refused (cs.filter (Signature.isNamed name operands.length)) 0 operands) i

/-- No candidate applies to a call that is refused. -/
lemma RefusedAt.applicable_eq_nil {cs : List Signature} {name : String}
    {operands : List (Option SqlType)} {p : Option Nat} (h : RefusedAt cs name operands p)
    (context : ReturnContext) : applicable cs name operands context = [] := by
  rw [List.eq_nil_iff_forall_not_mem]
  intro s hs
  obtain ⟨hs, happlies⟩ := mem_applicable.mp hs
  have hnamed : s ∈ cs.filter (Signature.isNamed name operands.length) :=
    List.mem_filter.mpr ⟨hs, Signature.isNamed_iff.mpr ⟨happlies.named, happlies.arity⟩⟩
  cases p with
  | none =>
    have hnone : cs.filter (Signature.isNamed name operands.length) = [] := h
    rw [hnone] at hnamed
    cases hnamed
  | some i => exact h.2.1 s hnamed (happlies.accepts.of_take (i + 1))

section Resolve

variable {limit : Int} {name : String} {cs tied : List Signature}
  {operands : List (Option SqlType)} {context : ReturnContext} {r : Rank} {p : Option Nat}

/-- Either a call is refused at some place, or the outcome is that among the candidates that
apply. -/
lemma resolve_cases (hlimit : (cs.length : Int) ≤ limit) (name : String)
    (operands : List (Option SqlType)) (context : ReturnContext) :
    (∃ p, resolve limit name cs operands context = .ok (.unresolvable p) ∧
      RefusedAt cs name operands p) ∨
    ∃ xs, xs.Perm (applicable cs name operands context) ∧
      (∃ s ∈ cs, s.isNamed name operands.length = true ∧ s.AcceptsFrom 0 operands) ∧
      resolve limit name cs operands context =
        (rankedOutcome operands xs).mapError Abort.crash := by
  rw [resolve_of_le hlimit, resolveNamed]
  have hnamed := select_perm_filter (Signature.isNamed name operands.length) cs
  generalize select (Signature.isNamed name operands.length) cs = named at hnamed ⊢
  by_cases hempty : named = []
  · rw [hempty] at hnamed ⊢
    exact .inl ⟨none, rfl, List.nil_perm.mp hnamed⟩
  rw [if_neg (List.isEmpty_iff.not.mpr hempty)]
  rcases acceptingFrom_spec 0 hempty operands with ⟨i, hi, hleast⟩ | ⟨ds, hds, hne, hperm⟩
  · rw [Nat.zero_add] at hi
    simp only [hi]
    refine .inl ⟨some i, rfl, fun hnone => ?_, refused_eq_of_perm hnamed 0 operands ▸ hleast⟩
    rw [hnone] at hnamed
    exact hempty (List.perm_nil.mp hnamed)
  · simp only [hds]
    have haccepting := hperm.trans (hnamed.filter fun s => s.AcceptsFrom 0 operands)
    refine .inr ⟨_, ?_, ?_, rfl⟩
    · have hadmitted := (select_perm_filter (fun s => context.admits s.result) ds).trans
        (haccepting.filter fun s => context.admits s.result)
      rw [List.filter_filter, List.filter_filter] at hadmitted
      refine hadmitted.trans (.of_eq (List.filter_congr fun s _ => ?_))
      rw [Bool.eq_iff_iff, Bool.and_eq_true, Bool.and_eq_true, decide_eq_true_iff,
        decide_eq_true_iff, Signature.isNamed_iff, Signature.applies_iff]
      tauto
    · obtain ⟨s, hs⟩ := List.exists_mem_of_ne_nil ds hne
      have hs := haccepting.subset hs
      rw [List.mem_filter, List.mem_filter, decide_eq_true_iff] at hs
      exact ⟨s, hs.1.1, hs.1.2, hs.2⟩

/-- Resolving a call by rank crashes if a candidate that applies has a representation that is not
assigned. -/
lemma exists_resolve_eq_crash_iff :
    (∃ c, resolve limit name cs operands context = .error (.crash c)) ↔
      (cs.length : Int) ≤ limit ∧
        ∃ s ∈ cs, s.Applies name operands context ∧ ¬ s.KindsAssigned := by
  by_cases hlimit : (cs.length : Int) ≤ limit
  · simp only [hlimit, true_and]
    rcases resolve_cases hlimit name operands context with ⟨p, hp, hrefused⟩ | ⟨xs, hperm, -, hxs⟩
    · rw [hp]
      constructor
      · rintro ⟨c, hc⟩
        cases hc
      · rintro ⟨s, hs, happlies, -⟩
        have hmem := mem_applicable.mpr ⟨hs, happlies⟩
        rw [hrefused.applicable_eq_nil context] at hmem
        cases hmem
    · have hmem : ∀ s, s ∈ xs ↔ s ∈ cs ∧ s.Applies name operands context := fun s =>
        hperm.mem_iff.trans mem_applicable
      have harity : ∀ s ∈ xs, s.arity = operands.length := fun s hs => ((hmem s).mp hs).2.arity
      rw [hxs]
      constructor
      · rintro ⟨c, hc⟩
        by_contra hassigned
        push Not at hassigned
        have hkinds : ∀ s ∈ xs, s.KindsAssigned := fun s hs =>
          hassigned s ((hmem s).mp hs).1 ((hmem s).mp hs).2
        rw [rankedOutcome_eq hkinds] at hc
        cases hc
      · rintro ⟨s, hs, happlies, hkinds⟩
        have hnot : ¬ ∀ s ∈ xs, s.KindsAssigned := fun hall =>
          hkinds (hall s ((hmem s).mpr ⟨hs, happlies⟩))
        obtain ⟨c, hc⟩ := exists_rankedOutcome_eq_error harity hnot
        exact ⟨c, by rw [hc]; rfl⟩
  · have hmany : resolve limit name cs operands context =
        .error (.error (tooManyCandidates cs.length limit)) := if_pos (Int.not_le.mp hlimit)
    simp [hmany, hlimit]

/-- Within the limit, and if the representations of the candidates are assigned, a call has an
outcome. -/
lemma exists_resolve_eq_ok (hlimit : (cs.length : Int) ≤ limit)
    (hkinds : ∀ s ∈ cs, s.KindsAssigned) (name : String) (operands : List (Option SqlType))
    (context : ReturnContext) : ∃ o, resolve limit name cs operands context = .ok o := by
  rcases resolve_cases hlimit name operands context with ⟨p, hp, -⟩ | ⟨xs, hperm, -, hxs⟩
  · exact ⟨_, hp⟩
  · have hassigned : ∀ s ∈ xs, s.KindsAssigned := fun s hs =>
      hkinds s (mem_applicable.mp (hperm.subset hs)).1
    rw [hxs, rankedOutcome_eq hassigned]
    exact ⟨_, rfl⟩

/-- What the outcome of an ambiguous call says about its candidates. -/
structure Tied (cs tied : List Signature) (name : String) (arity : Nat) (p : Option Nat) :
    Prop where
  /-- The tied candidates are among those given. -/
  subperm : tied.Subperm cs
  several : 2 ≤ tied.length
  named : ∀ s ∈ tied, Text.equalFold s.name name = true
  arity : ∀ s ∈ tied, s.arity = arity
  assigned : ∀ s ∈ tied, s.KindsAssigned
  position : p = firstDifference tied

/-- Candidates that share a rank are ambiguous only if there are several. -/
lemma tied_of_tiedOutcome {xs : List Signature} {best : Rank} (hne : xs ≠ [])
    (h : tiedOutcome best xs = .ambiguous tied r p) :
    tied = sortBySpelling xs ∧ 2 ≤ xs.length ∧ p = firstDifference tied := by
  rcases xs with _ | ⟨s, _ | ⟨t, xs⟩⟩
  · exact absurd rfl hne
  · cases h
  · cases h
    exact ⟨rfl, Nat.le_add_left 2 xs.length, rfl⟩

/-- The best rank is that of some candidate. -/
lemma filter_bestRank_ne_nil (operands : List (Option SqlType)) (first : Signature)
    (rest : List Signature) : ((first :: rest).filter fun s =>
      s.fit operands = bestRank (first.fit operands) (rest.map (·.fit operands))) ≠ [] := by
  have hmem := (bestRank_spec (first.fit operands) (rest.map (·.fit operands))).1
  rw [← List.map_cons (f := fun s : Signature => s.fit operands)] at hmem
  obtain ⟨s, hs, hfit⟩ := List.mem_map.mp hmem
  exact List.ne_nil_of_mem (List.mem_filter.mpr ⟨hs, decide_eq_true hfit⟩)

/-- There is an outcome only within the limit on the number of candidates. -/
lemma length_le_of_resolve {o : CallOutcome}
    (h : resolve limit name cs operands context = .ok o) : (cs.length : Int) ≤ limit := by
  by_contra hmany
  rw [resolve, if_pos (Int.not_le.mp hmany)] at h
  cases h

/-- An outcome by rank is that among candidates that apply and can be ranked, if it is not that no
candidate accepts the operands. -/
lemma eq_bestOutcome_of_resolve {o : CallOutcome}
    (h : resolve limit name cs operands context = .ok o) :
    (∃ p, o = .unresolvable p) ∨
      ∃ xs, xs.Subperm cs ∧ (∀ s ∈ xs, s.Applies name operands context ∧ s.KindsAssigned) ∧
        o = bestOutcome operands xs := by
  rcases resolve_cases (length_le_of_resolve h) name operands context with
    ⟨q, hq, -⟩ | ⟨xs, hperm, -, hxs⟩
  · rw [hq] at h
    exact .inl ⟨q, (Except.ok.inj h).symm⟩
  · rw [hxs, Except.mapError_eq_ok_iff] at h
    have hsub : xs.Subperm cs := hperm.subperm.trans List.filter_sublist.subperm
    have happlies : ∀ s ∈ xs, s.Applies name operands context := fun s hs =>
      (mem_applicable.mp (hperm.subset hs)).2
    have hkinds := kindsAssigned_of_rankedOutcome (fun s hs => (happlies s hs).arity) h
    rw [rankedOutcome_eq hkinds] at h
    exact .inr ⟨xs, hsub, fun s hs => ⟨happlies s hs, hkinds s hs⟩, (Except.ok.inj h).symm⟩

/-- A call that is resolved by rank takes one of the candidates that apply. -/
lemma applies_of_resolve {s : Signature}
    (h : resolve limit name cs operands context = .ok (.resolved s r)) :
    s ∈ cs ∧ s.Applies name operands context := by
  rcases eq_bestOutcome_of_resolve h with ⟨q, hq⟩ | ⟨xs, hsub, hxs, hbest⟩
  · cases hq
  suffices hs : s ∈ xs from ⟨hsub.subset hs, (hxs s hs).1⟩
  cases xs with
  | nil => cases hbest
  | cons first rest =>
    rw [bestOutcome] at hbest
    generalize hdef : (first :: rest).filter _ = equals at hbest
    rcases equals with _ | ⟨t, _ | ⟨u, equals⟩⟩
    · cases hbest
    · cases hbest
      exact List.mem_of_mem_filter (hdef ▸ List.mem_cons_self)
    · cases hbest

/-- The candidates of a call that is ambiguous by rank. -/
lemma tied_of_resolve
    (h : resolve limit name cs operands context = .ok (.ambiguous tied r p)) :
    Tied cs tied name operands.length p := by
  rcases eq_bestOutcome_of_resolve h with ⟨q, hq⟩ | ⟨xs, hsub, hxs, hbest⟩
  · cases hq
  cases xs with
  | nil => cases hbest
  | cons first rest =>
    set best := bestRank (first.fit operands) (rest.map (·.fit operands)) with hdef
    have hne : ((first :: rest).filter fun s => s.fit operands = best) ≠ [] :=
      filter_bestRank_ne_nil operands first rest
    obtain ⟨rfl, hseveral, hp⟩ := tied_of_tiedOutcome hne hbest.symm
    have hperm := List.mergeSort_perm ((first :: rest).filter fun s => s.fit operands = best)
      fun a b => decide (a.render ≤ b.render)
    have hsorted : ∀ s ∈ sortBySpelling ((first :: rest).filter fun s => s.fit operands = best),
        s ∈ first :: rest := fun s hs => List.mem_of_mem_filter (hperm.subset hs)
    exact
      { subperm := (hperm.subperm.trans List.filter_sublist.subperm).trans hsub
        several := hperm.length_eq ▸ hseveral
        named := fun s hs => (hxs s (hsorted s hs)).1.named
        arity := fun s hs => (hxs s (hsorted s hs)).1.arity
        assigned := fun s hs => (hxs s (hsorted s hs)).2
        position := hp }

end Resolve

/-! ## Resolution by host signature -/

section Explicit

variable {limit : Int} {name : String} {cs tied : List Signature} {host : HostSignature}
  {operands : Option (List (Option SqlType))} {context : ReturnContext} {r : Rank}
  {p : Option Nat}

/-- Resolving a call by host signature crashes if comparing a candidate of its name with the host
types is stuck. -/
lemma exists_resolveExplicit_eq_crash_iff :
    (∃ c, resolveExplicit limit name cs host operands context = .error (.crash c)) ↔
      (cs.length : Int) ≤ limit ∧ miscounts host operands = false ∧
        ∃ s ∈ cs, Text.equalFold s.name name = true ∧ s.arity = host.length ∧
          HostStuck s.params host (operands.getD []) := by
  by_cases hlimit : (cs.length : Int) ≤ limit
  · rw [resolveExplicit_of_le hlimit]
    have hmem : ∀ s, s ∈ cs.filter (Signature.isNamed name host.length) ↔
        s ∈ cs ∧ Text.equalFold s.name name = true ∧ s.arity = host.length := fun s => by
      rw [List.mem_filter, Signature.isNamed_iff]
    constructor
    · rintro ⟨c, hc⟩
      have hcount : miscounts host operands = false := by
        by_contra hmiscount
        rw [resolveHosted, if_pos (Bool.not_eq_false _ ▸ hmiscount)] at hc
        cases hc
      refine ⟨hlimit, hcount, ?_⟩
      by_contra hfree
      push Not at hfree
      have hnot : ∀ s ∈ cs.filter (Signature.isNamed name host.length),
          ¬ HostStuck s.params host (operands.getD []) := by
        intro s hs
        obtain ⟨hs, hname, harity⟩ := (hmem s).mp hs
        exact hfree s hs hname harity
      rw [resolveHosted_eq hnot, hcount, if_neg Bool.false_ne_true] at hc
      split at hc <;> cases hc
    · rintro ⟨-, hcount, s, hs, hname, harity, hstuck⟩
      exact resolveHosted_of_hostStuck hcount ((hmem s).mpr ⟨hs, hname, harity⟩) hstuck context
  · have hmany : resolveExplicit limit name cs host operands context =
        .error (.error (tooManyCandidates cs.length limit)) := if_pos (Int.not_le.mp hlimit)
    simp [hmany, hlimit]

/-- The outcome by host signature within the limit, if the representations of the candidates are
assigned. -/
lemma resolveExplicit_eq (hlimit : (cs.length : Int) ≤ limit)
    (hkinds : ∀ s ∈ cs, s.KindsAssigned) (name : String) (host : HostSignature)
    (operands : Option (List (Option SqlType))) (context : ReturnContext) :
    resolveExplicit limit name cs host operands context =
      if miscounts host operands then .ok (.unresolvable none)
      else if (matching host operands (cs.filter (Signature.isNamed name host.length))).isEmpty then
        .ok (.unresolvable none)
      else .ok (explicitOutcome operands
        ((matching host operands (cs.filter (Signature.isNamed name host.length))).filter
          fun s => context.admits s.result)) := by
  rw [resolveExplicit_of_le hlimit, resolveHosted_eq]
  intro s hs
  exact (hkinds s (List.mem_of_mem_filter hs)).not_hostStuck host _

/-- Such a call has an outcome. -/
lemma exists_resolveExplicit_eq_ok (hlimit : (cs.length : Int) ≤ limit)
    (hkinds : ∀ s ∈ cs, s.KindsAssigned) (name : String) (host : HostSignature)
    (operands : Option (List (Option SqlType))) (context : ReturnContext) :
    ∃ o, resolveExplicit limit name cs host operands context = .ok o := by
  rw [resolveExplicit_eq hlimit hkinds]
  split
  · exact ⟨_, rfl⟩
  · split <;> exact ⟨_, rfl⟩

/-- An outcome by host signature is that among candidates with the name of the call and as many
parameters as it has host types, if it is not that there are none. -/
lemma eq_explicitOutcome_of_resolveExplicit {o : CallOutcome}
    (h : resolveExplicit limit name cs host operands context = .ok o) :
    o = .unresolvable none ∨ miscounts host operands = false ∧
      ∃ xs, xs.Sublist cs ∧ (∀ s ∈ xs, Text.equalFold s.name name = true ∧
        s.arity = host.length ∧ s.KindsAssigned) ∧ o = explicitOutcome operands xs := by
  have hlimit : (cs.length : Int) ≤ limit := by
    by_contra hmany
    rw [resolveExplicit, if_pos (Int.not_le.mp hmany)] at h
    cases h
  rw [resolveExplicit_of_le hlimit] at h
  by_cases hcount : miscounts host operands = true
  · rw [resolveHosted, if_pos hcount] at h
    exact .inl (Except.ok.inj h).symm
  rw [Bool.not_eq_true] at hcount
  have hnot : ∀ s ∈ cs.filter (Signature.isNamed name host.length),
      ¬ HostStuck s.params host (operands.getD []) := by
    intro s hs hstuck
    obtain ⟨c, hc⟩ := resolveHosted_of_hostStuck hcount hs hstuck context
    rw [hc] at h
    cases h
  rw [resolveHosted_eq hnot, hcount, if_neg Bool.false_ne_true] at h
  split at h
  · exact .inl (Except.ok.inj h).symm
  · refine .inr ⟨hcount, _, ?_, fun s hs => ?_, (Except.ok.inj h).symm⟩
    · exact (List.filter_sublist.trans List.filter_sublist).trans List.filter_sublist
    · obtain ⟨hnamed, hfits⟩ := List.mem_filter.mp (List.mem_of_mem_filter hs)
      obtain ⟨hname, harity⟩ := Signature.isNamed_iff.mp (List.mem_filter.mp hnamed).2
      exact ⟨hname, harity, Signature.kindsAssigned_of_fitsHost hfits⟩

/-- A call that is resolved by host signature takes a candidate with as many parameters as there
are host types, and as many operands if there are any. -/
lemma arity_of_resolveExplicit {s : Signature}
    (h : resolveExplicit limit name cs host operands context = .ok (.resolved s r)) :
    s.arity = host.length ∧ miscounts host operands = false := by
  rcases eq_explicitOutcome_of_resolveExplicit h with hnone | ⟨hcount, xs, -, hxs, hexplicit⟩
  · cases hnone
  rcases xs with _ | ⟨t, _ | ⟨u, xs⟩⟩
  · cases hexplicit
  · cases hexplicit
    exact ⟨(hxs s List.mem_cons_self).2.1, hcount⟩
  · cases hexplicit

/-- The candidates of a call that is ambiguous by host signature. -/
lemma tied_of_resolveExplicit
    (h : resolveExplicit limit name cs host operands context = .ok (.ambiguous tied r p)) :
    Tied cs tied name host.length p := by
  rcases eq_explicitOutcome_of_resolveExplicit h with hnone | ⟨-, xs, hsub, hxs, hexplicit⟩
  · cases hnone
  rcases xs with _ | ⟨s, _ | ⟨t, xs⟩⟩
  · cases hexplicit
  · cases hexplicit
  · cases hexplicit
    have hperm := List.mergeSort_perm (s :: t :: xs) fun a b => decide (a.render ≤ b.render)
    exact
      { subperm := hperm.subperm.trans hsub.subperm
        several := hperm.length_eq ▸ Nat.le_add_left 2 xs.length
        named := fun u hu => (hxs u (hperm.subset hu)).1
        arity := fun u hu => (hxs u (hperm.subset hu)).2.1
        assigned := fun u hu => (hxs u (hperm.subset hu)).2.2
        position := rfl }

end Explicit

end SqlTyping
