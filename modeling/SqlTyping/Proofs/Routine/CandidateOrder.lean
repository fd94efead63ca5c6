import SqlTyping.Proofs.Except
import SqlTyping.Proofs.List
import SqlTyping.Proofs.Routine.Selection
import SqlTyping.Routine.Resolution

/-!
# The order of candidates

Resolving a call does not depend on the order in which the candidates are given
(`resolve_sameCall`, `resolveExplicit_sameCall`). Selection changes the order, but not what is
selected. The best rank is a property of the ranks that occur. Candidates that are tied are sorted
by their spelling; those that are spelled alike may be exchanged, but the spellings are the same.
The first parameter at which they differ is the first one at which not all of them agree, whichever
of them comes first.

Candidates whose representations are assigned have ranks and host types. A candidate with another
representation makes resolution crash, if it gets as far as being ranked or bound, in whatever order
the candidates come.
-/

namespace SqlTyping

/-! ## Ranks -/

section Ranks

variable {r s t : Rank}

lemma Rank.better_iff : r.better s = true ↔ r.representation < s.representation ∨
    r.representation = s.representation ∧ r.distance < s.distance := by
  unfold better
  split
  · next h => simp [h]
  · next h => simp [h]

lemma Rank.not_better_iff : r.better s = false ↔ s.representation < r.representation ∨
    r.representation = s.representation ∧ s.distance ≤ r.distance := by
  rw [← Bool.not_eq_true, better_iff]
  omega

/-- Of two different ranks one is better. -/
lemma Rank.eq_of_not_better (h : r.better s = false) (h' : s.better r = false) : r = s := by
  rw [not_better_iff] at h h'
  rcases r with ⟨r₁, r₂⟩
  rcases s with ⟨s₁, s₂⟩
  simp only [Rank.mk.injEq] at h h' ⊢
  omega

lemma Rank.not_better_trans (h : s.better r = false) (h' : t.better s = false) :
    t.better r = false := by
  rw [not_better_iff] at h h' ⊢
  omega

/-- The best rank is one of those that are compared, and none of them is better. -/
lemma bestRank_spec (r : Rank) (rs : List Rank) :
    bestRank r rs ∈ r :: rs ∧ ∀ s ∈ r :: rs, s.better (bestRank r rs) = false := by
  induction rs generalizing r with
  | nil =>
    refine ⟨List.mem_cons_self, ?_⟩
    simp [bestRank, Rank.not_better_iff]
  | cons s rs ih =>
    rw [bestRank]
    split
    · next hs =>
      obtain ⟨hmem, hbest⟩ := ih s
      refine ⟨List.mem_cons_of_mem r hmem, List.forall_mem_cons.mpr ⟨?_, hbest⟩⟩
      have hr : r.better s = false := by
        rw [Rank.better_iff] at hs
        rw [Rank.not_better_iff]
        omega
      exact Rank.not_better_trans (hbest s List.mem_cons_self) hr
    · next hs =>
      rw [Bool.not_eq_true] at hs
      obtain ⟨hmem, hbest⟩ := ih r
      rw [List.forall_mem_cons] at hbest
      refine ⟨?_, ?_⟩
      · rcases List.mem_cons.mp hmem with h | h
        · exact List.mem_cons.mpr (Or.inl h)
        · exact List.mem_cons_of_mem r (List.mem_cons_of_mem s h)
      · exact List.forall_mem_cons.mpr ⟨hbest.1, List.forall_mem_cons.mpr
          ⟨Rank.not_better_trans hbest.1 hs, hbest.2⟩⟩

/-- The best rank does not depend on the order of the ranks. -/
lemma bestRank_eq_of_perm {rs ss : List Rank} (h : (r :: rs).Perm (s :: ss)) :
    bestRank r rs = bestRank s ss := by
  obtain ⟨hmem, hbest⟩ := bestRank_spec r rs
  obtain ⟨hmem', hbest'⟩ := bestRank_spec s ss
  exact Rank.eq_of_not_better (hbest' _ (h.subset hmem)) (hbest _ (h.symm.subset hmem'))

end Ranks

/-! ## Assigned representations -/

/-- Whether all parameters have a representation that is assigned. -/
def Signature.KindsAssigned (s : Signature) : Prop :=
  ∀ p ∈ s.params, p.kind ∈ RepKind.assigned

instance (s : Signature) : Decidable s.KindsAssigned :=
  inferInstanceAs (Decidable (∀ p ∈ s.params, _))

/-- The sum of the costs and distances that parameters have for their operands. -/
def fitOf : List (Param × Option SqlType) → Rank
  | [] => {}
  | (p, t) :: rest =>
    ⟨(p.kind.rank?.getD 0 : Nat) + (fitOf rest).representation,
      p.distance t + (fitOf rest).distance⟩

/-- The rank of a signature whose representations are assigned. -/
def Signature.fit (s : Signature) (operands : List (Option SqlType)) : Rank :=
  fitOf (s.params.zip operands)

lemma RepKind.rank?_of_assigned {k : RepKind} (h : k ∈ assigned) :
    k.rank? = some (k.rank?.getD 0) := by
  revert h
  cases k <;> simp [assigned, rank?]

lemma Signature.rank_eq_fit {s : Signature} (hs : s.KindsAssigned)
    (operands : List (Option SqlType)) : s.rank operands = .ok (s.fit operands) := by
  have hfrom : ∀ (zipped : List (Param × Option SqlType)) (position : Nat),
      (∀ a ∈ zipped, a.1.kind ∈ RepKind.assigned) →
        rankFrom s position zipped = .ok (fitOf zipped) := by
    intro zipped
    induction zipped with
    | nil => exact fun _ _ => rfl
    | cons a zipped ih =>
      intro position h
      rw [List.forall_mem_cons] at h
      rw [rankFrom, RepKind.rank?_of_assigned h.1]
      simp only [ih (position + 1) h.2, Except.ok_bind, fitOf]
  exact hfrom _ 0 fun a ha => hs a.1 (List.of_mem_zip ha).1

lemma RepKind.rank?_eq_none_iff {k : RepKind} : k.rank? = none ↔ k ∉ assigned := by
  cases k <;> simp [assigned, rank?]

/-- A signature with as many parameters as there are operands has a rank only if its
representations are assigned. -/
lemma Signature.kindsAssigned_of_rank {s : Signature} {operands : List (Option SqlType)} {r : Rank}
    (harity : s.arity = operands.length) (h : s.rank operands = .ok r) : s.KindsAssigned := by
  have hfrom : ∀ (zipped : List (Param × Option SqlType)) (position : Nat) (r : Rank),
      rankFrom s position zipped = .ok r → ∀ a ∈ zipped, a.1.kind ∈ RepKind.assigned := by
    intro zipped
    induction zipped with
    | nil => exact fun _ _ _ => List.forall_mem_nil _
    | cons a zipped ih =>
      intro position r hr
      rw [rankFrom] at hr
      split at hr
      · cases hr
      · next cost hcost =>
        obtain ⟨rest, hrest, -⟩ := Except.bind_eq_ok_iff.mp hr
        have ha : a.1.kind ∈ RepKind.assigned := by
          by_contra hnot
          rw [RepKind.rank?_eq_none_iff.mpr hnot] at hcost
          cases hcost
        exact List.forall_mem_cons.mpr ⟨ha, ih (position + 1) rest hrest⟩
  intro p hp
  obtain ⟨i, hi, rfl⟩ := List.mem_iff_getElem.mp hp
  have hlength : i < operands.length := harity ▸ hi
  have hmem : (s.params[i], operands[i]) ∈ s.params.zip operands := by
    rw [← List.getElem_zip (i := i) (h := by simpa using ⟨hi, hlength⟩)]
    exact List.getElem_mem _
  exact hfrom _ 0 r h _ hmem

/-- A parameter has a host type if its representation is assigned. -/
lemma Param.exists_hostType?_iff {p : Param} :
    (∃ t, p.hostType? = some t) ↔ p.kind ∈ RepKind.assigned := by
  unfold hostType?
  cases p.kind <;> simp [RepKind.assigned, Family.hostType?]

/-- Whether parameters have the given host types and accept the operands. -/
def fitsHost (ps : List Param) (host : HostSignature) (operands : List (Option SqlType)) : Bool :=
  (matchesHost ps host operands).toOption.getD false

/-- Whether comparing parameters with host types reaches one whose representation is not assigned:
those before it have the host types and accept their operands. -/
def HostStuck (ps : List Param) (host : HostSignature) (operands : List (Option SqlType)) : Prop :=
  ∃ (i : Nat) (p : Param), ps[i]? = some p ∧ p.kind ∉ RepKind.assigned ∧
    ∀ j < i, ∀ q : Param, ps[j]? = some q →
      q.hostType? = host[j]? ∧ q.acceptsOperand (operands[j]?.getD none) = true

/-- The comparison is never stuck at representations that are assigned. -/
lemma Signature.KindsAssigned.not_hostStuck {s : Signature} (hs : s.KindsAssigned)
    (host : HostSignature) (operands : List (Option SqlType)) :
    ¬ HostStuck s.params host operands := by
  rintro ⟨i, p, hp, hkind, -⟩
  exact hkind (hs p (List.mem_of_getElem? hp))

/-- The comparison is stuck at the first parameter, or passes it and is stuck later. -/
lemma hostStuck_cons_iff {p : Param} {ps : List Param} {host : HostSignature}
    {operands : List (Option SqlType)} :
    HostStuck (p :: ps) host operands ↔ p.kind ∉ RepKind.assigned ∨
      (p.hostType? = host.head? ∧ p.acceptsOperand (operands.head?.getD none) = true) ∧
        HostStuck ps host.tail operands.tail := by
  have hhost : ∀ j, host.tail[j]? = host[j + 1]? := fun j => List.getElem?_tail
  have hoperands : ∀ j, operands.tail[j]? = operands[j + 1]? := fun j => List.getElem?_tail
  constructor
  · rintro ⟨i, q, hq, hkind, hbefore⟩
    cases i with
    | zero =>
      cases hq
      exact .inl hkind
    | succ i =>
      have hfirst := hbefore 0 (Nat.succ_pos i) p rfl
      rw [← List.head?_eq_getElem?, ← List.head?_eq_getElem?] at hfirst
      refine .inr ⟨hfirst, i, q, hq, hkind, fun j hj r hr => ?_⟩
      rw [hhost, hoperands]
      exact hbefore (j + 1) (Nat.succ_lt_succ hj) r hr
  · rintro (hkind | ⟨hfirst, i, q, hq, hkind, hbefore⟩)
    · exact ⟨0, p, rfl, hkind, nofun⟩
    · refine ⟨i + 1, q, hq, hkind, fun j hj r hr => ?_⟩
      cases j with
      | zero =>
        cases hr
        rwa [← List.head?_eq_getElem?, ← List.head?_eq_getElem?]
      | succ j =>
        rw [← hhost, ← hoperands]
        exact hbefore j (Nat.lt_of_succ_lt_succ hj) r hr

/-- Comparing parameters with host types has a result unless it is stuck. -/
lemma matchesHost_eq {ps : List Param} {host : HostSignature} {operands : List (Option SqlType)}
    (h : ¬ HostStuck ps host operands) :
    matchesHost ps host operands = .ok (fitsHost ps host operands) := by
  have hok : ∃ b, matchesHost ps host operands = .ok b := by
    induction ps generalizing host operands with
    | nil => exact ⟨true, rfl⟩
    | cons p ps ih =>
      rw [hostStuck_cons_iff, not_or, not_not] at h
      obtain ⟨t, ht⟩ := Param.exists_hostType?_iff.mpr h.1
      rw [matchesHost, ht]
      dsimp only
      split_ifs with hhost haccepts
      · exact ⟨false, rfl⟩
      · exact ⟨false, rfl⟩
      · refine ih fun hstuck => h.2 ⟨⟨?_, by simpa using haccepts⟩, hstuck⟩
        rw [ht, not_not.mp hhost]
  obtain ⟨b, hb⟩ := hok
  rw [fitsHost, hb]
  rfl

/-- A comparison that is stuck crashes. -/
lemma HostStuck.matchesHost_eq {ps : List Param} {host : HostSignature}
    {operands : List (Option SqlType)} (h : HostStuck ps host operands) :
    matchesHost ps host operands = .error .outOfBounds := by
  induction ps generalizing host operands with
  | nil =>
    obtain ⟨i, p, hp, -⟩ := h
    cases hp
  | cons p ps ih =>
    rw [matchesHost]
    cases ht : p.hostType? with
    | none => rfl
    | some t =>
      have hkind : p.kind ∈ RepKind.assigned := Param.exists_hostType?_iff.mp ⟨t, ht⟩
      obtain hnot | ⟨⟨hhost, haccepts⟩, hstuck⟩ := hostStuck_cons_iff.mp h
      · exact absurd hkind hnot
      · rw [ht] at hhost
        simp only [← hhost, haccepts, ne_eq, not_true_eq_false, if_false, Bool.not_true,
          Bool.false_eq_true]
        exact ih hstuck

/-- Parameters that have host types have representations that are assigned. -/
lemma Signature.kindsAssigned_of_fitsHost {s : Signature} {host : HostSignature}
    {operands : List (Option SqlType)} (h : fitsHost s.params host operands = true) :
    s.KindsAssigned := by
  have hall : ∀ (ps : List Param) (host : HostSignature) (operands : List (Option SqlType)),
      matchesHost ps host operands = .ok true → ∀ p ∈ ps, p.kind ∈ RepKind.assigned := by
    intro ps
    induction ps with
    | nil => exact fun _ _ _ => List.forall_mem_nil _
    | cons p ps ih =>
      intro host operands hmatches
      rw [matchesHost] at hmatches
      split at hmatches
      · cases hmatches
      · next t ht =>
        split_ifs at hmatches
        · cases hmatches
        · cases hmatches
        · have hp : p.kind ∈ RepKind.assigned := Param.exists_hostType?_iff.mp ⟨t, ht⟩
          exact List.forall_mem_cons.mpr ⟨hp, ih _ _ hmatches⟩
  refine hall s.params host operands ?_
  unfold fitsHost at h
  cases hmatches : matchesHost s.params host operands with
  | error c =>
    rw [hmatches] at h
    cases h
  | ok b =>
    rw [hmatches] at h
    exact congrArg Except.ok h

/-! ## The first difference -/

section Difference

variable {cs ds : List Signature} {n : Nat}

/-- What parameters must share to agree. -/
def Param.essence (p : Param) : RepKind × SqlType :=
  (p.kind, p.type.withNullable true)

lemma Param.agrees_iff {p q : Param} : p.agrees q = true ↔ p.essence = q.essence := by
  simp [agrees, essence, SqlType.equivalent]

/-- Whether all candidates agree on the parameter at a position. -/
def AgreeAt (cs : List Signature) (i : Nat) : Prop :=
  ∀ c ∈ cs, ∀ d ∈ cs, (c.params[i]?).map Param.essence = (d.params[i]?).map Param.essence

instance (cs : List Signature) (i : Nat) : Decidable (AgreeAt cs i) :=
  inferInstanceAs (Decidable (∀ c ∈ cs, ∀ d ∈ cs, _))

/-- The candidates agree on a parameter if all others agree with the first one. -/
lemma agreeAt_cons_iff {c : Signature} {i : Nat} :
    AgreeAt (c :: cs) i ↔
      ∀ d ∈ cs, (c.params[i]?).map Param.essence = (d.params[i]?).map Param.essence := by
  constructor
  · exact fun h d hd => h c List.mem_cons_self d (List.mem_cons_of_mem c hd)
  · intro h
    have hall : ∀ d ∈ c :: cs,
        (c.params[i]?).map Param.essence = (d.params[i]?).map Param.essence :=
      List.forall_mem_cons.mpr ⟨rfl, h⟩
    exact fun d hd e he => (hall d hd).symm.trans (hall e he)

/-- The first difference is the first parameter on which the candidates do not all agree. -/
lemma firstDifference_eq (harity : ∀ c ∈ cs, c.arity = n) :
    firstDifference cs = (List.range n).find? fun i => !decide (AgreeAt cs i) := by
  cases cs with
  | nil => exact (List.find?_eq_none.mpr (by simp [AgreeAt])).symm
  | cons first others =>
    rw [List.forall_mem_cons] at harity
    -- The parameters before `position` have been passed.
    have hfrom : ∀ (rest : List Param) (position : Nat), first.params.drop position = rest →
        firstDifferenceFrom position others rest =
          (List.range' position rest.length).find? fun i =>
            !decide (AgreeAt (first :: others) i) := by
      intro rest
      induction rest with
      | nil => exact fun _ _ => rfl
      | cons p rest ih =>
        intro position hdrop
        have hp : first.params[position]? = some p := by
          rw [← List.head?_drop, hdrop]
          rfl
        have hrest : first.params.drop (position + 1) = rest := by
          rw [← List.tail_drop, hdrop]
          rfl
        have hcondition : (others.all fun c =>
            ((c.params[position]?).map (Param.agrees p)).getD false) =
              decide (AgreeAt (first :: others) position) := by
          rw [Bool.eq_iff_iff, List.all_eq_true, decide_eq_true_iff, agreeAt_cons_iff, hp]
          refine forall₂_congr fun d hd => ?_
          have hlt : position < d.params.length := by
            have hfirst := (List.getElem?_eq_some_iff.mp hp).1
            have := harity.2 d hd
            unfold Signature.arity at this harity
            omega
          rw [List.getElem?_eq_getElem hlt]
          simp [Param.agrees_iff]
        rw [firstDifferenceFrom, hcondition, List.length_cons, List.range'_succ,
          List.find?_cons]
        cases decide (AgreeAt (first :: others) position) with
        | true => simpa using ih (position + 1) hrest
        | false => rfl
    rw [firstDifference, hfrom first.params 0 rfl, List.range_eq_range', ← harity.1]
    rfl

lemma firstDifference_eq_of_perm (h : cs.Perm ds) (harity : ∀ c ∈ cs, c.arity = n) :
    firstDifference cs = firstDifference ds := by
  rw [firstDifference_eq harity, firstDifference_eq fun d hd => harity d (h.symm.subset hd)]
  congr 1
  funext i
  have hagree : AgreeAt cs i ↔ AgreeAt ds i :=
    ⟨fun hcs c hc d hd => hcs c (h.symm.subset hc) d (h.symm.subset hd),
      fun hds c hc d hd => hds c (h.subset hc) d (h.subset hd)⟩
  simp only [hagree]

end Difference

/-! ## Outcomes -/

/-- Outcomes that differ at most in the order of tied candidates that are spelled alike. -/
inductive CallOutcome.Alike : CallOutcome → CallOutcome → Prop where
  | refl (o : CallOutcome) : Alike o o
  | ambiguous {cs ds : List Signature} (r : Rank) (p : Option Nat) (hperm : cs.Perm ds)
      (hspelling : cs.map Signature.render = ds.map Signature.render) :
      Alike (.ambiguous cs r p) (.ambiguous ds r p)

section Alike

variable {o o' : CallOutcome}

lemma CallOutcome.Alike.diagnostic? (h : o.Alike o') (call : String) :
    o.diagnostic? call = o'.diagnostic? call := by
  cases h with
  | refl => rfl
  | ambiguous r p hperm hspelling => simp only [CallOutcome.diagnostic?, hspelling, position?]

end Alike

/-- Calls that end in the same error, or in outcomes that are alike, or both of which crash. -/
inductive SameCall : Except Abort CallOutcome → Except Abort CallOutcome → Prop where
  | error (d : Diagnostic) : SameCall (.error (.error d)) (.error (.error d))
  | ok {o o' : CallOutcome} (h : o.Alike o') : SameCall (.ok o) (.ok o')
  | crash (c c' : Crash) : SameCall (.error (.crash c)) (.error (.crash c'))

section Outcomes

variable {cs ds : List Signature} {n : Nat}

/-- Sorted candidates are in the order of their spelling. -/
lemma pairwise_sortBySpelling (cs : List Signature) :
    (sortBySpelling cs).Pairwise fun a b => a.render ≤ b.render := by
  have hpairwise : (sortBySpelling cs).Pairwise fun a b =>
      decide (a.render ≤ b.render) = true := by
    refine List.pairwise_mergeSort (fun a b c hab hbc => ?_) (fun a b => ?_) cs
    · rw [decide_eq_true_iff] at hab hbc ⊢
      exact String.le_trans hab hbc
    · rw [Bool.or_eq_true, decide_eq_true_iff, decide_eq_true_iff]
      exact String.le_total _ _
  exact hpairwise.imp of_decide_eq_true

/-- The spellings of sorted candidates do not depend on their order. -/
lemma render_sortBySpelling_of_perm (h : cs.Perm ds) :
    (sortBySpelling cs).map Signature.render = (sortBySpelling ds).map Signature.render := by
  have hperm : (sortBySpelling cs).Perm (sortBySpelling ds) :=
    ((List.mergeSort_perm cs _).trans h).trans (List.mergeSort_perm ds _).symm
  exact (hperm.map Signature.render).eq_of_pairwise
    (fun a b _ _ hab hba => String.le_antisymm hab hba)
    (List.pairwise_map.mpr (pairwise_sortBySpelling cs))
    (List.pairwise_map.mpr (pairwise_sortBySpelling ds))

/-- Tied candidates make the same call ambiguous in any order. -/
lemma ambiguous_alike (h : cs.Perm ds) (harity : ∀ s ∈ cs, s.arity = n) (r : Rank) :
    (CallOutcome.ambiguous (sortBySpelling cs) r (firstDifference (sortBySpelling cs))).Alike
      (.ambiguous (sortBySpelling ds) r (firstDifference (sortBySpelling ds))) := by
  have hperm : (sortBySpelling cs).Perm (sortBySpelling ds) :=
    ((List.mergeSort_perm cs _).trans h).trans (List.mergeSort_perm ds _).symm
  have hsorted : ∀ s ∈ sortBySpelling cs, s.arity = n := fun s hs =>
    harity s ((List.mergeSort_perm cs _).subset hs)
  rw [firstDifference_eq_of_perm hperm hsorted]
  exact .ambiguous r _ hperm (render_sortBySpelling_of_perm h)

lemma tiedOutcome_alike (h : cs.Perm ds) (harity : ∀ s ∈ cs, s.arity = n) (r : Rank) :
    (tiedOutcome r cs).Alike (tiedOutcome r ds) := by
  by_cases hone : ∃ s, cs = [s]
  · obtain ⟨s, rfl⟩ := hone
    rw [List.singleton_perm.mp h]
    exact .refl _
  · have hone' : ¬ ∃ s, ds = [s] := by
      rintro ⟨s, rfl⟩
      exact hone ⟨s, List.perm_singleton.mp h⟩
    have hnot : ∀ cs : List Signature, (¬ ∃ s, cs = [s]) → tiedOutcome r cs =
        .ambiguous (sortBySpelling cs) r (firstDifference (sortBySpelling cs)) := by
      intro cs hcs
      unfold tiedOutcome
      split
      · next s => exact absurd ⟨s, rfl⟩ hcs
      · rfl
    rw [hnot cs hone, hnot ds hone']
    exact ambiguous_alike h harity r

/-- The outcome among candidates that apply, if their representations are assigned. -/
def bestOutcome (operands : List (Option SqlType)) : List Signature → CallOutcome
  | [] => .ineligible
  | first :: rest =>
    let best := bestRank (first.fit operands) (rest.map (·.fit operands))
    tiedOutcome best ((first :: rest).filter fun s => s.fit operands = best)

lemma rankedOutcome_eq (hkinds : ∀ s ∈ cs, s.KindsAssigned) (operands : List (Option SqlType)) :
    rankedOutcome operands cs = .ok (bestOutcome operands cs) := by
  have hranked : (cs.mapM fun s => do return (s, ← s.rank operands) :
      Except Crash (List (Signature × Rank))) = .ok (cs.map fun s => (s, s.fit operands)) := by
    refine Except.mapM_eq_ok fun s hs => ?_
    rw [Signature.rank_eq_fit (hkinds s hs)]
    rfl
  have htied : ∀ best : Rank, ((cs.map fun s => (s, s.fit operands)).filter fun c =>
      c.2 = best).map (·.1) = cs.filter fun s => s.fit operands = best := by
    intro best
    rw [List.filter_map, List.map_map]
    exact List.map_id _
  rw [rankedOutcome, hranked, Except.ok_bind]
  cases cs with
  | nil => rfl
  | cons first rest =>
    have hranks : (rest.map fun s => (s, s.fit operands)).map (·.2) =
        rest.map (·.fit operands) := by
      rw [List.map_map]
      rfl
    simp only [List.map_cons] at htied ⊢
    simp only [htied, hranks, bestOutcome]

/-- Candidates have an outcome only if their representations are assigned. -/
lemma kindsAssigned_of_rankedOutcome {operands : List (Option SqlType)} {o : CallOutcome}
    (harity : ∀ s ∈ cs, s.arity = operands.length) (h : rankedOutcome operands cs = .ok o) :
    ∀ s ∈ cs, s.KindsAssigned := by
  obtain ⟨ranked, hranked, -⟩ := Except.bind_eq_ok_iff.mp h
  have hranks := Except.exists_mapM_eq_ok_iff.mp ⟨ranked, hranked⟩
  intro s hs
  obtain ⟨entry, hentry⟩ := hranks s hs
  obtain ⟨r, hr, -⟩ := Except.bind_eq_ok_iff.mp hentry
  exact Signature.kindsAssigned_of_rank (harity s hs) hr

/-- Candidates one of which has a representation that is not assigned have no outcome. -/
lemma exists_rankedOutcome_eq_error {operands : List (Option SqlType)}
    (harity : ∀ s ∈ cs, s.arity = operands.length) (h : ¬ ∀ s ∈ cs, s.KindsAssigned) :
    ∃ c, rankedOutcome operands cs = .error c :=
  Except.exists_eq_error_iff.mpr fun ⟨_, ho⟩ => h (kindsAssigned_of_rankedOutcome harity ho)

lemma bestOutcome_alike (h : cs.Perm ds) (harity : ∀ s ∈ cs, s.arity = n)
    (operands : List (Option SqlType)) :
    (bestOutcome operands cs).Alike (bestOutcome operands ds) := by
  cases cs with
  | nil =>
    rw [List.nil_perm.mp h]
    exact .refl _
  | cons c cs =>
    cases ds with
    | nil => exact absurd h.symm (List.nil_perm.not.mpr (List.cons_ne_nil c cs))
    | cons d ds =>
      have hbest : bestRank (c.fit operands) (cs.map (·.fit operands)) =
          bestRank (d.fit operands) (ds.map (·.fit operands)) := by
        have hranks := h.map fun s => s.fit operands
        exact bestRank_eq_of_perm hranks
      rw [bestOutcome, bestOutcome, hbest]
      exact tiedOutcome_alike (h.filter _)
        (fun s hs => harity s (List.mem_of_mem_filter hs)) _

/-! ## Resolution by rank -/

lemma mem_of_acceptingFrom {position : Nat} {operands : List (Option SqlType)}
    (h : acceptingFrom position cs operands = .ok ds) : ∀ s ∈ ds, s ∈ cs := by
  induction operands generalizing position cs with
  | nil =>
    cases h
    exact fun s hs => hs
  | cons t operands ih =>
    cases t with
    | none => exact ih h
    | some t =>
      rw [acceptingFrom] at h
      split at h
      · cases h
      · exact fun s hs => (mem_select.mp (ih h s hs)).1

/-- The candidates that accept the operands, and the operand that none of them accepts, do not
depend on the order. -/
lemma acceptingFrom_perm (h : cs.Perm ds) (position : Nat) (operands : List (Option SqlType)) :
    (∃ i, acceptingFrom position cs operands = .error i ∧
      acceptingFrom position ds operands = .error i) ∨
    ∃ cs' ds', acceptingFrom position cs operands = .ok cs' ∧
      acceptingFrom position ds operands = .ok ds' ∧ cs'.Perm ds' := by
  induction operands generalizing position cs ds with
  | nil => exact Or.inr ⟨cs, ds, rfl, rfl, h⟩
  | cons t operands ih =>
    cases t with
    | none => exact ih h (position + 1)
    | some t =>
      have hkept := select_perm (p := Signature.acceptsAt position t) h
      simp only [acceptingFrom, hkept.isEmpty_eq]
      split
      · exact Or.inl ⟨position, rfl, rfl⟩
      · exact ih hkept (position + 1)

lemma Signature.isNamed_iff {name : String} {arity : Nat} {s : Signature} :
    s.isNamed name arity = true ↔ Text.equalFold s.name name = true ∧ s.arity = arity := by
  rw [isNamed, Bool.and_eq_true, decide_eq_true_iff]

/-- Within the limit, only the candidates with the name of the call count. -/
lemma resolve_of_le {limit : Int} (h : (cs.length : Int) ≤ limit) (name : String)
    (operands : List (Option SqlType)) (context : ReturnContext) :
    resolve limit name cs operands context =
      resolveNamed operands context (select (Signature.isNamed name operands.length) cs) :=
  if_neg (Int.not_lt.mpr h)

lemma mem_select_isNamed {name : String} {arity : Nat} {s : Signature} :
    s ∈ select (Signature.isNamed name arity) cs ↔
      s ∈ cs ∧ Text.equalFold s.name name = true ∧ s.arity = arity := by
  rw [mem_select, Signature.isNamed_iff]

/-- Resolving among named candidates does not depend on their order. -/
lemma resolveNamed_sameCall {operands : List (Option SqlType)} (h : cs.Perm ds)
    (harity : ∀ s ∈ cs, s.arity = operands.length) (context : ReturnContext) :
    SameCall (resolveNamed operands context cs) (resolveNamed operands context ds) := by
  unfold resolveNamed
  rw [h.isEmpty_eq]
  split
  · exact .ok (.refl _)
  rcases acceptingFrom_perm h 0 operands with ⟨i, hcs, hds⟩ | ⟨cs', ds', hcs, hds, haccepting⟩
  · simp only [hcs, hds]
    exact .ok (.refl _)
  have hadmitted := select_perm (p := fun s => context.admits s.result) haccepting
  have harity' : ∀ s ∈ select (fun s => context.admits s.result) cs',
      s.arity = operands.length := fun s hs =>
    harity s (mem_of_acceptingFrom hcs s (mem_select.mp hs).1)
  simp only [hcs, hds]
  generalize select (fun s => context.admits s.result) cs' = xs at hadmitted harity' ⊢
  generalize select (fun s => context.admits s.result) ds' = ys at hadmitted ⊢
  by_cases hkinds : ∀ s ∈ xs, s.KindsAssigned
  · rw [rankedOutcome_eq hkinds, rankedOutcome_eq fun s hs => hkinds s (hadmitted.symm.subset hs)]
    exact .ok (bestOutcome_alike hadmitted harity' operands)
  · have hkinds' : ¬ ∀ s ∈ ys, s.KindsAssigned := fun hall =>
      hkinds fun s hs => hall s (hadmitted.subset hs)
    obtain ⟨c, hc⟩ := exists_rankedOutcome_eq_error harity' hkinds
    obtain ⟨c', hc'⟩ := exists_rankedOutcome_eq_error
      (fun s hs => harity' s (hadmitted.symm.subset hs)) hkinds'
    rw [hc, hc']
    exact .crash c c'

/-- Resolving a call by rank does not depend on the order of the candidates. -/
lemma resolve_sameCall (h : cs.Perm ds) (limit : Int) (name : String)
    (operands : List (Option SqlType)) (context : ReturnContext) :
    SameCall (resolve limit name cs operands context) (resolve limit name ds operands context) := by
  by_cases hlimit : (cs.length : Int) ≤ limit
  · rw [resolve_of_le hlimit, resolve_of_le (h.length_eq ▸ hlimit)]
    exact resolveNamed_sameCall (select_perm h) (fun s hs => (mem_select_isNamed.mp hs).2.2) context
  · unfold resolve
    rw [← h.length_eq, if_pos (Int.not_le.mp hlimit), if_pos (Int.not_le.mp hlimit)]
    exact .error _

/-! ## Resolution by host signature -/

/-- The outcome for candidates with the host signature that the context admits. -/
def explicitOutcome (operands : Option (List (Option SqlType))) : List Signature → CallOutcome
  | [] => .ineligible
  | [s] => .resolved s ((operands.map s.fit).getD {})
  | several => tiedOutcome {} several

lemma explicitOutcome_alike (h : cs.Perm ds) (harity : ∀ s ∈ cs, s.arity = n)
    (operands : Option (List (Option SqlType))) :
    (explicitOutcome operands cs).Alike (explicitOutcome operands ds) := by
  match cs, h with
  | [], h =>
    rw [List.nil_perm.mp h]
    exact .refl _
  | [s], h =>
    rw [List.singleton_perm.mp h]
    exact .refl _
  | s :: t :: cs, h =>
    match ds, h with
    | [], h => cases h.length_eq
    | [u], h => cases h.length_eq
    | u :: v :: ds, h => exact tiedOutcome_alike h harity {}

/-- Within the limit, only the candidates with the name of the call count. -/
lemma resolveExplicit_of_le {limit : Int} (h : (cs.length : Int) ≤ limit) (name : String)
    (host : HostSignature) (operands : Option (List (Option SqlType))) (context : ReturnContext) :
    resolveExplicit limit name cs host operands context =
      resolveHosted host operands context (cs.filter (Signature.isNamed name host.length)) :=
  if_neg (Int.not_lt.mpr h)

/-- The candidates that have the host types of a call and accept its operands. -/
def matching (host : HostSignature) (operands : Option (List (Option SqlType)))
    (cs : List Signature) : List Signature :=
  cs.filter fun s => fitsHost s.params host (operands.getD [])

/-- The outcome by host signature, if no comparison is stuck. -/
lemma resolveHosted_eq {host : HostSignature} {operands : Option (List (Option SqlType))}
    (h : ∀ s ∈ cs, ¬ HostStuck s.params host (operands.getD [])) (context : ReturnContext) :
    resolveHosted host operands context cs =
      if miscounts host operands then .ok (.unresolvable none)
      else if (matching host operands cs).isEmpty then .ok (.unresolvable none)
      else .ok (explicitOutcome operands
        ((matching host operands cs).filter fun s => context.admits s.result)) := by
  have hverdicts : (cs.mapM fun s => matchesHost s.params host (operands.getD [])) =
      .ok (cs.map fun s => fitsHost s.params host (operands.getD [])) :=
    Except.mapM_eq_ok fun s hs => matchesHost_eq (h s hs)
  rw [resolveHosted]
  split
  · rfl
  simp only [hverdicts, Except.mapError, Except.ok_bind, List.map_fst_filter_snd_zip_map,
    ← matching.eq_1]
  split
  · rfl
  have hassigned : ∀ s ∈ (matching host operands cs).filter fun s => context.admits s.result,
      s.KindsAssigned := fun s hs =>
    Signature.kindsAssigned_of_fitsHost (List.mem_filter.mp (List.mem_of_mem_filter hs)).2
  generalize ((matching host operands cs).filter fun s => context.admits s.result) = xs
    at hassigned ⊢
  rcases xs with _ | ⟨s, _ | ⟨t, xs⟩⟩
  · rfl
  · cases operands with
    | none => rfl
    | some ops =>
      simp only [Signature.rank_eq_fit (hassigned s List.mem_cons_self)]
      rfl
  · rfl

/-- A comparison that is stuck makes the call crash. -/
lemma resolveHosted_of_hostStuck {host : HostSignature}
    {operands : Option (List (Option SqlType))} (hcount : miscounts host operands = false)
    {s : Signature} (hs : s ∈ cs) (hstuck : HostStuck s.params host (operands.getD []))
    (context : ReturnContext) :
    ∃ c, resolveHosted host operands context cs = .error (.crash c) := by
  have hverdicts : ∃ c, (cs.mapM fun s => matchesHost s.params host (operands.getD [])) =
      .error c := by
    rw [Except.exists_eq_error_iff, Except.exists_mapM_eq_ok_iff]
    intro hall
    obtain ⟨b, hb⟩ := hall s hs
    rw [hstuck.matchesHost_eq] at hb
    cases hb
  obtain ⟨c, hc⟩ := hverdicts
  refine ⟨c, ?_⟩
  rw [resolveHosted, hcount, if_neg Bool.false_ne_true, hc]
  rfl

/-- Resolving among named candidates by host signature does not depend on their order. -/
lemma resolveHosted_sameCall {host : HostSignature} (h : cs.Perm ds)
    (harity : ∀ s ∈ cs, s.arity = host.length) (operands : Option (List (Option SqlType)))
    (context : ReturnContext) :
    SameCall (resolveHosted host operands context cs) (resolveHosted host operands context ds) := by
  by_cases hcount : miscounts host operands = true
  · rw [resolveHosted, resolveHosted, if_pos hcount, if_pos hcount]
    exact .ok (.refl _)
  by_cases hstuck : ∃ s ∈ cs, HostStuck s.params host (operands.getD [])
  · obtain ⟨s, hs, hstuck⟩ := hstuck
    rw [Bool.not_eq_true] at hcount
    obtain ⟨c, hc⟩ := resolveHosted_of_hostStuck hcount hs hstuck context
    obtain ⟨c', hc'⟩ := resolveHosted_of_hostStuck hcount (h.subset hs) hstuck context
    rw [hc, hc']
    exact .crash c c'
  · push Not at hstuck
    have hmatching : (matching host operands cs).Perm (matching host operands ds) := h.filter _
    rw [resolveHosted_eq hstuck, resolveHosted_eq fun s hs => hstuck s (h.symm.subset hs),
      if_neg hcount, if_neg hcount, hmatching.isEmpty_eq]
    split
    · exact .ok (.refl _)
    · refine .ok (explicitOutcome_alike (hmatching.filter _) (fun s hs => harity s ?_) operands)
      exact List.mem_of_mem_filter (List.mem_of_mem_filter hs)

/-- Resolving a call by host signature does not depend on the order of the candidates. -/
lemma resolveExplicit_sameCall (h : cs.Perm ds) (limit : Int) (name : String)
    (host : HostSignature) (operands : Option (List (Option SqlType)))
    (context : ReturnContext) :
    SameCall (resolveExplicit limit name cs host operands context)
      (resolveExplicit limit name ds host operands context) := by
  by_cases hlimit : (cs.length : Int) ≤ limit
  · rw [resolveExplicit_of_le hlimit, resolveExplicit_of_le (h.length_eq ▸ hlimit)]
    refine resolveHosted_sameCall (h.filter _) (fun s hs => ?_) operands context
    exact (Signature.isNamed_iff.mp (List.mem_filter.mp hs).2).2
  · unfold resolveExplicit
    rw [← h.length_eq, if_pos (Int.not_le.mp hlimit), if_pos (Int.not_le.mp hlimit)]
    exact .error _

end Outcomes

end SqlTyping
