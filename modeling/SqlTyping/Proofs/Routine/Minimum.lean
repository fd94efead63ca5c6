import Mathlib.Data.Prod.Lex
import SqlTyping.Proofs.Routine.Applicable

/-!
# The best candidates

Resolving a call by rank finds the candidates that apply and cost least. A candidate costs what the
representations of its parameters cost and, among candidates with equal representations, how far
the operands have to widen (`Signature.costs`). The two sums are compared like words in a dictionary
(`Rank.key`).

The candidates are narrowed step by step and the ranks are compared one after the other, with the
candidates in an order that the narrowing changes. The outcome is nevertheless described by the
list of the candidates alone (`ResolvesTo`): one best candidate is taken, several make the call
ambiguous, and if none applies the outcome tells what is missing. Candidates that are given twice
count twice.
-/

namespace SqlTyping

/-! ## Costs -/

/-- What the representations of all parameters cost. -/
def Signature.representationCost (s : Signature) : Nat :=
  (s.params.map fun p => p.kind.rank?.getD 0).foldr (· + ·) 0

/-- How far all operands have to widen; untyped operands have not. -/
def Signature.wideningDistance (s : Signature) (operands : List (Option SqlType)) : Nat :=
  (List.zipWith Param.distance s.params operands).foldr (· + ·) 0

/-- The rank of a candidate as a pair of sums. -/
def Signature.costs (s : Signature) (operands : List (Option SqlType)) : Rank :=
  ⟨s.representationCost, s.wideningDistance operands⟩

/-- A rank as a pair in the lexicographic order. -/
def Rank.key (r : Rank) : Lex (Int × Int) :=
  toLex (r.representation, r.distance)

section Costs

variable {r r' : Rank} {s : Signature} {operands : List (Option SqlType)}

lemma Rank.key_le_iff : r.key ≤ r'.key ↔ r'.better r = false := by
  have hle : r.key ≤ r'.key ↔ r.representation < r'.representation ∨
      r.representation = r'.representation ∧ r.distance ≤ r'.distance :=
    Prod.Lex.toLex_le_toLex
  rw [hle, Rank.not_better_iff]
  omega

lemma Rank.key_lt_iff : r.key < r'.key ↔ r.representation < r'.representation ∨
    r.representation = r'.representation ∧ r.distance < r'.distance :=
  Prod.Lex.toLex_lt_toLex

/-- The ranks that are computed parameter by parameter are the two sums. -/
lemma Signature.fit_eq_costs (harity : s.arity = operands.length) :
    s.fit operands = s.costs operands := by
  have hsums : ∀ (ps : List Param) (ops : List (Option SqlType)), ps.length = ops.length →
      fitOf (ps.zip ops) = ⟨((ps.map fun p => p.kind.rank?.getD 0).foldr (· + ·) 0 : Nat),
        ((List.zipWith Param.distance ps ops).foldr (· + ·) 0 : Nat)⟩ := by
    intro ps
    induction ps with
    | nil => exact fun _ _ => rfl
    | cons p ps ih =>
      intro ops hlength
      cases ops with
      | nil => cases hlength
      | cons o ops =>
        have hrest := ih ops (Nat.succ.inj hlength)
        simp only [List.zip_cons_cons, fitOf, hrest, List.map_cons, List.foldr_cons,
          List.zipWith_cons_cons, Int.natCast_add]
  exact hsums s.params operands harity

/-- A rank is the best one if no rank has a smaller key. -/
lemma eq_bestRank_iff {rs : List Rank} (hr : r' ∈ r :: rs) :
    r' = bestRank r rs ↔ ∀ t ∈ r :: rs, r'.key ≤ t.key := by
  obtain ⟨hmem, hbest⟩ := bestRank_spec r rs
  constructor
  · rintro rfl t ht
    exact Rank.key_le_iff.mpr (hbest t ht)
  · intro hleast
    have hfirst : (bestRank r rs).better r' = false := Rank.key_le_iff.mp (hleast _ hmem)
    exact Rank.eq_of_not_better (hbest r' hr) hfirst

end Costs

/-! ## Best candidates -/

/-- The candidates that apply to a call and cost least, as often as they are given. -/
def bestCandidates (cs : List Signature) (name : String) (operands : List (Option SqlType))
    (context : ReturnContext) : List Signature :=
  (applicable cs name operands context).filter fun s =>
    ∀ t ∈ applicable cs name operands context, (s.costs operands).key ≤ (t.costs operands).key

/-- What a list of candidates makes of a call. -/
structure ResolvesTo (cs : List Signature) (name : String) (operands : List (Option SqlType))
    (context : ReturnContext) (o : CallOutcome) : Prop where
  /-- A candidate is taken if it is the only best one. -/
  resolved_iff : ∀ s r, o = .resolved s r ↔
    bestCandidates cs name operands context = [s] ∧ s.costs operands = r
  /-- Several best candidates make the call ambiguous. -/
  ambiguous_iff : (∃ tied r p, o = .ambiguous tied r p) ↔
    2 ≤ (bestCandidates cs name operands context).length
  /-- The candidates of an ambiguous call are the best ones, in the order of their spelling. -/
  candidates : ∀ tied r p, o = .ambiguous tied r p →
    tied.Perm (bestCandidates cs name operands context) ∧
      (tied.Pairwise fun a b => a.render ≤ b.render) ∧ ∀ s ∈ tied, s.costs operands = r
  /-- A call cannot be resolved if no candidate applies. -/
  unresolvable_iff : o.kindName = "unresolvable" ↔ applicable cs name operands context = []
  /-- If no candidate applies, the result is to blame if some candidate applies but for its
  result. -/
  ineligible_iff : applicable cs name operands context = [] →
    (o.returnIneligible = true ↔ ∃ s ∈ cs, s.isNamed name operands.length = true ∧
      s.AcceptsFrom 0 operands ∧ context.admits s.result = false)
  /-- Otherwise an operand is to blame, unless no candidate has the name of the call. -/
  position : applicable cs name operands context = [] → o.returnIneligible = false →
    RefusedAt cs name operands o.position?

section Best

variable {cs xs : List Signature} {name : String} {operands : List (Option SqlType)}
  {context : ReturnContext}

/-- The candidates that apply and share the best rank are the best ones. -/
lemma exists_bestOutcome_eq (hperm : xs.Perm (applicable cs name operands context))
    (hne : xs ≠ []) :
    ∃ r ys, ys ≠ [] ∧ ys.Perm (bestCandidates cs name operands context) ∧
      (∀ s ∈ ys, s.costs operands = r) ∧ bestOutcome operands xs = tiedOutcome r ys := by
  cases xs with
  | nil => exact absurd rfl hne
  | cons first rest =>
    set best := bestRank (first.fit operands) (rest.map (·.fit operands)) with hbest
    have hcosts : ∀ s ∈ first :: rest, s.fit operands = s.costs operands := by
      intro s hs
      have happlies := (mem_applicable.mp (hperm.subset hs)).2
      exact Signature.fit_eq_costs happlies.arity
    -- Sharing the best rank is costing least.
    have hiff : ∀ s ∈ first :: rest, s.fit operands = best ↔
        ∀ t ∈ applicable cs name operands context,
          (s.costs operands).key ≤ (t.costs operands).key := by
      intro s hs
      have hmem : s.fit operands ∈ first.fit operands :: rest.map (·.fit operands) :=
        List.mem_map_of_mem (f := fun s : Signature => s.fit operands) hs
      rw [hbest, eq_bestRank_iff hmem, ← List.map_cons (f := fun s : Signature => s.fit operands),
        List.forall_mem_map]
      constructor
      · intro hleast t ht
        have ht := hperm.symm.subset ht
        rw [← hcosts s hs, ← hcosts t ht]
        exact hleast t ht
      · intro hleast t ht
        rw [hcosts s hs, hcosts t ht]
        exact hleast t (hperm.subset ht)
    refine ⟨best, (first :: rest).filter fun s => s.fit operands = best, ?_, ?_, ?_, rfl⟩
    · exact filter_bestRank_ne_nil operands first rest
    · have hsame : ((first :: rest).filter fun s => s.fit operands = best) =
          (first :: rest).filter fun s => ∀ t ∈ applicable cs name operands context,
            (s.costs operands).key ≤ (t.costs operands).key :=
        List.filter_congr fun s hs => decide_eq_decide.mpr (hiff s hs)
      rw [hsame]
      exact hperm.filter _
    · intro s hs
      obtain ⟨hs, hfit⟩ := List.mem_filter.mp hs
      rw [← hcosts s hs]
      exact of_decide_eq_true hfit

/-- A refused call is unresolvable, at the place of the refusal. -/
lemma resolvesTo_of_refusedAt {p : Option Nat} (h : RefusedAt cs name operands p) :
    ResolvesTo cs name operands context (.unresolvable p) := by
  have hnone := h.applicable_eq_nil context
  have hbest : bestCandidates cs name operands context = [] := by
    rw [bestCandidates, hnone]
    rfl
  have haccepts : ¬ ∃ s ∈ cs, s.isNamed name operands.length = true ∧
      s.AcceptsFrom 0 operands ∧ context.admits s.result = false := by
    rintro ⟨s, hs, hnamed, haccepts, -⟩
    have hmem : s ∈ cs.filter (Signature.isNamed name operands.length) :=
      List.mem_filter.mpr ⟨hs, hnamed⟩
    cases p with
    | none =>
      have hnil : cs.filter (Signature.isNamed name operands.length) = [] := h
      rw [hnil] at hmem
      cases hmem
    | some i => exact h.2.1 s hmem (haccepts.of_take (i + 1))
  exact
    { resolved_iff := by simp [hbest]
      ambiguous_iff := by simp [hbest]
      candidates := by simp
      unresolvable_iff := by simp [hnone, CallOutcome.kindName]
      ineligible_iff := fun _ => iff_of_false Bool.false_ne_true haccepts
      position := fun _ _ => h }

/-- Candidates that apply but for their result make a call ineligible. -/
lemma resolvesTo_ineligible (hnone : applicable cs name operands context = [])
    (h : ∃ s ∈ cs, s.isNamed name operands.length = true ∧ s.AcceptsFrom 0 operands) :
    ResolvesTo cs name operands context .ineligible := by
  have hbest : bestCandidates cs name operands context = [] := by
    rw [bestCandidates, hnone]
    rfl
  obtain ⟨s, hs, hnamed, haccepts⟩ := h
  have hadmits : context.admits s.result = false := by
    by_contra hadmits
    rw [Bool.not_eq_false] at hadmits
    obtain ⟨hname, harity⟩ := Signature.isNamed_iff.mp hnamed
    have hmem := mem_applicable.mpr ⟨hs, hname, harity, haccepts, hadmits⟩
    rw [hnone] at hmem
    cases hmem
  exact
    { resolved_iff := by simp [hbest]
      ambiguous_iff := by simp [hbest]
      candidates := by simp
      unresolvable_iff := by simp [hnone, CallOutcome.kindName]
      ineligible_iff := fun _ => iff_of_true rfl ⟨s, hs, hnamed, haccepts, hadmits⟩
      position := fun _ hfalse => absurd hfalse (by decide) }

/-- The best candidates decide a call to which some candidate applies. -/
lemma resolvesTo_tiedOutcome {r : Rank} {ys : List Signature} (hne : ys ≠ [])
    (hperm : ys.Perm (bestCandidates cs name operands context))
    (hcosts : ∀ s ∈ ys, s.costs operands = r) :
    ResolvesTo cs name operands context (tiedOutcome r ys) := by
  have happlicable : applicable cs name operands context ≠ [] := by
    obtain ⟨s, hs⟩ := List.exists_mem_of_ne_nil ys hne
    exact List.ne_nil_of_mem (List.mem_of_mem_filter (hperm.subset hs))
  rcases ys with _ | ⟨s, _ | ⟨t, ys⟩⟩
  · exact absurd rfl hne
  · have hbest : bestCandidates cs name operands context = [s] :=
      (List.singleton_perm.mp hperm).symm
    exact
      { resolved_iff := by
          intro t r'
          have hs := hcosts s List.mem_cons_self
          rw [hbest]
          simp only [tiedOutcome, CallOutcome.resolved.injEq, List.cons.injEq, and_true]
          constructor
          · rintro ⟨rfl, rfl⟩
            exact ⟨rfl, hs⟩
          · rintro ⟨rfl, rfl⟩
            exact ⟨rfl, hs.symm⟩
        ambiguous_iff := by simp [tiedOutcome, hbest]
        candidates := by simp [tiedOutcome]
        unresolvable_iff := by simp [tiedOutcome, CallOutcome.kindName, happlicable]
        ineligible_iff := fun hnone => absurd hnone happlicable
        position := fun hnone => absurd hnone happlicable }
  · have hlength : 2 ≤ (bestCandidates cs name operands context).length :=
      hperm.length_eq ▸ Nat.le_add_left 2 ys.length
    have hsorted := List.mergeSort_perm (s :: t :: ys) fun a b => decide (a.render ≤ b.render)
    exact
      { resolved_iff := by
          intro u r'
          refine iff_of_false nofun fun h => ?_
          rw [h.1] at hlength
          exact absurd hlength (by simp)
        ambiguous_iff := iff_of_true ⟨_, _, _, rfl⟩ hlength
        candidates := by
          rintro tied r' p ⟨⟩
          refine ⟨hsorted.trans hperm, pairwise_sortBySpelling _, fun u hu => ?_⟩
          exact hcosts u (hsorted.subset hu)
        unresolvable_iff := by simp [tiedOutcome, CallOutcome.kindName, happlicable]
        ineligible_iff := fun hnone => absurd hnone happlicable
        position := fun hnone => absurd hnone happlicable }

/-- Whatever the outcome of a call is, the list of the candidates determines it. -/
lemma resolvesTo_of_resolve {limit : Int} {o : CallOutcome}
    (h : resolve limit name cs operands context = .ok o) :
    ResolvesTo cs name operands context o := by
  rcases resolve_cases (length_le_of_resolve h) name operands context with
    ⟨p, hp, hrefused⟩ | ⟨xs, hperm, haccepts, hxs⟩
  · rw [hp] at h
    cases h
    exact resolvesTo_of_refusedAt hrefused
  · have harity : ∀ s ∈ xs, s.arity = operands.length := fun s hs =>
      (mem_applicable.mp (hperm.subset hs)).2.arity
    rw [hxs, Except.mapError_eq_ok_iff] at h
    rw [rankedOutcome_eq (kindsAssigned_of_rankedOutcome harity h)] at h
    cases h
    by_cases hempty : xs = []
    · rw [hempty] at hperm ⊢
      exact resolvesTo_ineligible (List.nil_perm.mp hperm) haccepts
    · obtain ⟨r, ys, hne, hys, hcosts, hbest⟩ := exists_bestOutcome_eq hperm hempty
      rw [hbest]
      exact resolvesTo_tiedOutcome hne hys hcosts

namespace ResolvesTo

variable {o : CallOutcome} {s : Signature}

/-- A candidate that is taken or tied is one of the best, and has the rank of the outcome. -/
lemma of_taken (h : ResolvesTo cs name operands context o)
    (hs : o.signature? = some s ∨ s ∈ o.candidates) :
    s ∈ bestCandidates cs name operands context ∧ s.costs operands = o.rank := by
  cases o with
  | resolved t r =>
    obtain rfl : t = s := by simpa [CallOutcome.signature?, CallOutcome.candidates] using hs
    obtain ⟨hbest, hcosts⟩ := (h.resolved_iff t r).mp rfl
    rw [hbest]
    exact ⟨List.mem_singleton_self t, hcosts⟩
  | ambiguous tied r p =>
    have hmem : s ∈ tied := by simpa [CallOutcome.signature?, CallOutcome.candidates] using hs
    obtain ⟨hperm, -, hcosts⟩ := h.candidates tied r p rfl
    exact ⟨hperm.subset hmem, hcosts s hmem⟩
  | unresolvable p => simp [CallOutcome.signature?, CallOutcome.candidates] at hs
  | ineligible => simp [CallOutcome.signature?, CallOutcome.candidates] at hs

/-- If a candidate applies, some candidate is taken or tied. -/
lemma exists_taken (h : ResolvesTo cs name operands context o)
    (hs : s ∈ applicable cs name operands context) :
    ∃ t, o.signature? = some t ∨ t ∈ o.candidates := by
  have hkind := mt h.unresolvable_iff.mp (List.ne_nil_of_mem hs)
  cases o with
  | resolved t r => exact ⟨t, Or.inl rfl⟩
  | ambiguous tied r p =>
    have hseveral := h.ambiguous_iff.mp ⟨tied, r, p, rfl⟩
    rw [← (h.candidates tied r p rfl).1.length_eq] at hseveral
    obtain ⟨t, ht⟩ := List.exists_mem_of_length_pos (Nat.zero_lt_of_lt hseveral)
    exact ⟨t, Or.inr ht⟩
  | unresolvable p => exact absurd rfl hkind
  | ineligible => exact absurd rfl hkind

/-- No candidate that applies costs less than the rank of the outcome. -/
lemma rank_le (h : ResolvesTo cs name operands context o)
    (hs : s ∈ applicable cs name operands context) : o.rank.key ≤ (s.costs operands).key := by
  obtain ⟨t, ht⟩ := h.exists_taken hs
  obtain ⟨hbest, hcosts⟩ := h.of_taken ht
  rw [← hcosts]
  exact of_decide_eq_true (List.mem_filter.mp hbest).2 s hs

end ResolvesTo

end Best

/-- Resolving a call by rank finds the best candidates. Within the limit on their number, and if
their representations are assigned, there is always an outcome, and it is the one that the list of
the candidates determines. -/
theorem resolve_finds_best_candidates {limit : Int} {cs : List Signature}
    (hlimit : (cs.length : Int) ≤ limit) (hkinds : ∀ s ∈ cs, s.KindsAssigned) (name : String)
    (operands : List (Option SqlType)) (context : ReturnContext) :
    ∃ o, resolve limit name cs operands context = .ok o ∧
      ResolvesTo cs name operands context o := by
  rcases resolve_cases hlimit name operands context with ⟨p, hp, hrefused⟩ |
    ⟨xs, hperm, haccepts, hxs⟩
  · exact ⟨_, hp, resolvesTo_of_refusedAt hrefused⟩
  have hassigned : ∀ s ∈ xs, s.KindsAssigned := fun s hs =>
    hkinds s (mem_applicable.mp (hperm.subset hs)).1
  rw [rankedOutcome_eq hassigned] at hxs
  refine ⟨bestOutcome operands xs, hxs, ?_⟩
  by_cases hempty : xs = []
  · rw [hempty] at hperm ⊢
    exact resolvesTo_ineligible (List.nil_perm.mp hperm) haccepts
  · obtain ⟨r, ys, hne, hys, hcosts, hbest⟩ := exists_bestOutcome_eq hperm hempty
    rw [hbest]
    exact resolvesTo_tiedOutcome hne hys hcosts

/-- A candidate that is given twice has the nearer types, but takes an operand in the representation
`any`. The candidate that is taken has its operands widened, and a third one has another name. -/
theorem resolve_finds_best_candidates_widened :
    let smallInt : SqlType := ⟨.smallInt, 5, 0, 0, true⟩
    let integer : SqlType := ⟨.integer, 10, 0, 0, true⟩
    let bigInt : SqlType := ⟨.bigInt, 19, 0, 0, true⟩
    let near : Signature := ⟨"F", "near", [⟨"x", integer, .any⟩, ⟨"y", integer, .natural⟩], none⟩
    let far : Signature := ⟨"f", "far", [⟨"x", bigInt, .nullable⟩, ⟨"y", bigInt, .natural⟩], none⟩
    let other : Signature := ⟨"g", "g", [⟨"x", smallInt, .natural⟩, ⟨"y", bigInt, .any⟩], none⟩
    let cs := [near, other, far, near]
    (cs.length : Int) ≤ 4 ∧ (∀ s ∈ cs, s.KindsAssigned) ∧
      resolve 4 "f" cs [some smallInt, none] {} = .ok (.resolved far ⟨2, 2⟩) := by
  intro smallInt integer bigInt near far other cs
  have hlimit : (cs.length : Int) ≤ 4 := by decide
  have hkinds : ∀ s ∈ cs, s.KindsAssigned := by decide
  obtain ⟨o, ho, hresolves⟩ :=
    resolve_finds_best_candidates hlimit hkinds "f" [some smallInt, none] {}
  have hbest : bestCandidates cs "f" [some smallInt, none] {} = [far] := by decide +kernel
  have hcosts : far.costs [some smallInt, none] = ⟨2, 2⟩ := by decide +kernel
  rw [(hresolves.resolved_iff far ⟨2, 2⟩).mpr ⟨hbest, hcosts⟩] at ho
  exact ⟨hlimit, hkinds, ho⟩

end SqlTyping
