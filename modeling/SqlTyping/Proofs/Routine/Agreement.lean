import SqlTyping.Proofs.Routine.Minimum

/-!
# Resolution by rank and by host signature

A call can be resolved in two ways. By rank, the candidates are narrowed operand by operand and
compared; by host signature, a single condition looks at the host types and the operands of each
candidate, and nothing is compared. Both choose among the same candidates: what a host signature
leaves are the candidates that apply to the call and are bound as these host types
(`resolveExplicit_cases`).

Different types can have the same host type, so that the host signature of the best candidate may
leave others beside it. The best candidate is then one of several, but it is never lost, and no
candidate that a host signature singles out is better than the best one.
-/

namespace SqlTyping

/-! ## Host signatures of candidates -/

section Host

variable {p : Param} {ps : List Param} {t : HostType} {host : HostSignature}
  {operand : Option SqlType} {operands : List (Option SqlType)} {s : Signature}

/-- Whether parameters are bound as the given host types. -/
def BoundAs (ps : List Param) (host : HostSignature) : Prop :=
  List.Forall₂ (fun p t => p.hostType? = some t) ps host

lemma boundAs_cons : BoundAs (p :: ps) (t :: host) ↔ p.hostType? = some t ∧ BoundAs ps host :=
  List.forall₂_cons

/-- A host signature lists the host types of all parameters. -/
lemma Signature.hostSignature?_eq_some_iff :
    s.hostSignature? = some host ↔ BoundAs s.params host := by
  have hmapM : ∀ (ps : List Param) (host : HostSignature),
      ps.mapM Param.hostType? = some host ↔ BoundAs ps host := by
    intro ps
    induction ps with
    | nil => simp [BoundAs, eq_comm]
    | cons p ps ih =>
      intro host
      simp only [List.mapM_cons, Option.bind_eq_bind, Option.bind_eq_some_iff, Option.pure_def,
        Option.some.injEq, ih, BoundAs, List.forall₂_cons_left_iff]
      constructor
      · rintro ⟨t, ht, ts, hts, rfl⟩
        exact ⟨t, ts, ht, hts, rfl⟩
      · rintro ⟨t, ts, ht, hts, rfl⟩
        exact ⟨t, ht, ts, hts, rfl⟩
  exact hmapM s.params host

/-- A candidate whose representations are assigned has a host signature. -/
lemma Signature.KindsAssigned.exists_hostSignature? (hs : s.KindsAssigned) :
    ∃ host, s.hostSignature? = some host := by
  have hall : ∀ ps : List Param, (∀ p ∈ ps, p.kind ∈ RepKind.assigned) →
      ∃ host, BoundAs ps host := by
    intro ps
    induction ps with
    | nil => exact fun _ => ⟨[], .nil⟩
    | cons p ps ih =>
      intro h
      rw [List.forall_mem_cons] at h
      obtain ⟨t, ht⟩ := Param.exists_hostType?_iff.mpr h.1
      obtain ⟨ts, hts⟩ := ih h.2
      exact ⟨t :: ts, .cons ht hts⟩
  obtain ⟨host, hhost⟩ := hall s.params hs
  exact ⟨host, hostSignature?_eq_some_iff.mpr hhost⟩

/-- The first parameter is compared with the first host type and the first operand. -/
lemma fitsHost_cons : fitsHost (p :: ps) (t :: host) (operand :: operands) = true ↔
    p.hostType? = some t ∧ p.acceptsOperand operand = true ∧ fitsHost ps host operands = true := by
  unfold fitsHost
  rw [matchesHost]
  cases hp : p.hostType? with
  | none => simp [Except.toOption]
  | some u =>
    by_cases hu : u = t
    · subst hu
      cases haccepts : p.acceptsOperand operand <;> simp [haccepts, Except.toOption]
    · have hne : ¬ t = u := fun h => hu h.symm
      simp [hu, hne, Except.toOption]

/-- A comparison with host types succeeds if the parameters are bound as these and each of them
accepts its operand. -/
lemma fitsHost_iff (hhost : host.length = ps.length) (hoperands : operands.length = ps.length) :
    fitsHost ps host operands = true ↔
      BoundAs ps host ∧ ∀ x ∈ ps.zip operands, x.1.acceptsOperand x.2 = true := by
  induction ps generalizing host operands with
  | nil =>
    rw [List.eq_nil_of_length_eq_zero hhost]
    simp [fitsHost, matchesHost, BoundAs, Except.toOption]
  | cons p ps ih =>
    obtain ⟨t, ts, rfl⟩ := List.exists_cons_of_length_eq_add_one hhost
    obtain ⟨operand, rest, rfl⟩ := List.exists_cons_of_length_eq_add_one hoperands
    rw [fitsHost_cons, ih (Nat.succ.inj hhost) (Nat.succ.inj hoperands), boundAs_cons,
      List.zip_cons_cons, List.forall_mem_cons]
    tauto

end Host

/-! ## The candidates of a host signature -/

/-- The candidates that apply to a call and are bound as the given host types. -/
def sharing (cs : List Signature) (name : String) (host : HostSignature)
    (operands : List (Option SqlType)) (context : ReturnContext) : List Signature :=
  (applicable cs name operands context).filter fun s => s.hostSignature? = some host

section Sharing

variable {limit : Int} {cs : List Signature} {name : String} {host : HostSignature}
  {operands : List (Option SqlType)} {context : ReturnContext} {s : Signature}

lemma mem_sharing : s ∈ sharing cs name host operands context ↔
    s ∈ applicable cs name operands context ∧ s.hostSignature? = some host := by
  rw [sharing, List.mem_filter, decide_eq_true_iff]

/-- Comparing with the host types and the operands, and then with the context, leaves the candidates
that apply and have these host types. -/
lemma filter_matching_eq_sharing (hcount : operands.length = host.length) :
    ((matching host (some operands) (cs.filter (Signature.isNamed name host.length))).filter
      fun s => context.admits s.result) = sharing cs name host operands context := by
  rw [matching, sharing, applicable, List.filter_filter, List.filter_filter, List.filter_filter]
  refine List.filter_congr fun s _ => ?_
  rw [Bool.eq_iff_iff]
  simp only [Bool.and_eq_true, decide_eq_true_iff, Signature.isNamed_iff, Option.getD_some,
    Signature.applies_iff, hcount]
  by_cases harity : s.arity = host.length
  · rw [fitsHost_iff harity.symm (hcount.trans harity.symm),
      Signature.acceptsFrom_zero_iff (harity.trans hcount.symm),
      Signature.hostSignature?_eq_some_iff]
    tauto
  · simp [harity]

/-- Resolving by host signature chooses among the candidates that apply and have these host
types. -/
lemma resolveExplicit_cases (hlimit : (cs.length : Int) ≤ limit)
    (hkinds : ∀ s ∈ cs, s.KindsAssigned) (name : String) (host : HostSignature)
    (operands : List (Option SqlType)) (context : ReturnContext) :
    (resolveExplicit limit name cs host (some operands) context = .ok (.unresolvable none) ∧
      sharing cs name host operands context = []) ∨
    resolveExplicit limit name cs host (some operands) context =
      .ok (explicitOutcome (some operands) (sharing cs name host operands context)) := by
  rw [resolveExplicit_eq hlimit hkinds]
  by_cases hcount : operands.length = host.length
  · have hmiscounts : miscounts host (some operands) = false := by simp [miscounts, hcount]
    rw [hmiscounts, if_neg Bool.false_ne_true, filter_matching_eq_sharing hcount]
    split
    · next hempty =>
      refine .inl ⟨rfl, ?_⟩
      rw [← filter_matching_eq_sharing hcount, List.isEmpty_iff.mp hempty, List.filter_nil]
    · exact .inr rfl
  · have hmiscounts : miscounts host (some operands) = true := by simp [miscounts, hcount]
    rw [if_pos hmiscounts]
    refine .inl ⟨rfl, List.eq_nil_iff_forall_not_mem.mpr fun s hs => hcount ?_⟩
    obtain ⟨hs, hhost⟩ := mem_sharing.mp hs
    have harity := (mem_applicable.mp hs).2.arity
    have hlength := (Signature.hostSignature?_eq_some_iff.mp hhost).length_eq
    rw [← harity, Signature.arity, hlength]

/-- A candidate that applies and has the host signature is chosen, or is one of several that apply
and have it. -/
lemma exists_resolveExplicit_of_mem (hlimit : (cs.length : Int) ≤ limit)
    (hkinds : ∀ s ∈ cs, s.KindsAssigned) (hs : s ∈ sharing cs name host operands context) :
    ∃ o, resolveExplicit limit name cs host (some operands) context = .ok o ∧
      (o = .resolved s (s.costs operands) ∨
        ∃ tied p, o = .ambiguous tied {} p ∧
          tied.Perm (sharing cs name host operands context)) := by
  have hexplicit := (resolveExplicit_cases hlimit hkinds name host operands context).resolve_left
    fun hnone => List.ne_nil_of_mem hs hnone.2
  refine ⟨_, hexplicit, ?_⟩
  have harity := (mem_applicable.mp (mem_sharing.mp hs).1).2.arity
  rcases hsharing : sharing cs name host operands context with _ | ⟨t, _ | ⟨u, ts⟩⟩
  · rw [hsharing] at hs
    cases hs
  · rw [hsharing, List.mem_singleton] at hs
    subst hs
    rw [explicitOutcome, ← Signature.fit_eq_costs harity]
    exact .inl rfl
  · exact .inr ⟨_, _, rfl, List.mergeSort_perm _ _⟩

/-- A candidate that a host signature singles out applies to the call. -/
lemma mem_applicable_of_resolveExplicit {r : Rank} (hlimit : (cs.length : Int) ≤ limit)
    (hkinds : ∀ s ∈ cs, s.KindsAssigned)
    (h : resolveExplicit limit name cs host (some operands) context = .ok (.resolved s r)) :
    s ∈ applicable cs name operands context ∧ r = s.costs operands := by
  rcases resolveExplicit_cases hlimit hkinds name host operands context with
    ⟨hnone, -⟩ | hexplicit
  · rw [hnone] at h
    cases h
  rw [hexplicit] at h
  rcases hsharing : sharing cs name host operands context with _ | ⟨t, _ | ⟨u, ts⟩⟩
  · rw [hsharing] at h
    cases h
  · rw [hsharing] at h
    cases h
    have hs : s ∈ sharing cs name host operands context := hsharing ▸ List.mem_cons_self
    have happlicable := (mem_sharing.mp hs).1
    exact ⟨happlicable, Signature.fit_eq_costs (mem_applicable.mp happlicable).2.arity⟩
  · rw [hsharing] at h
    cases h

end Sharing

/-- Resolving a call by rank and by host signature agree, within the limit on the number of
candidates and if their representations are assigned. If a candidate is taken by rank, its host
signature selects it with the same rank, or among several candidates that apply to the call and are
bound as the same host types. If any host signature singles out a candidate, the call is resolved or
ambiguous by rank as well, and its rank is no worse. -/
theorem resolve_agrees_with_host_signature {limit : Int} {cs : List Signature}
    (hlimit : (cs.length : Int) ≤ limit) (hkinds : ∀ s ∈ cs, s.KindsAssigned) (name : String)
    (operands : List (Option SqlType)) (context : ReturnContext) :
    ∃ o, resolve limit name cs operands context = .ok o ∧
      (∀ s r, o = .resolved s r → ∃ host o', s.hostSignature? = some host ∧
        resolveExplicit limit name cs host (some operands) context = .ok o' ∧
        (o' = .resolved s r ∨ ∃ tied r' p, o' = .ambiguous tied r' p ∧ s ∈ tied ∧
          ∀ t ∈ tied, t ∈ cs ∧ t.Applies name operands context ∧ t.hostSignature? = some host)) ∧
      ∀ host s r, resolveExplicit limit name cs host (some operands) context =
          .ok (.resolved s r) →
        o.kindName ≠ "unresolvable" ∧ r.better o.rank = false := by
  obtain ⟨o, ho⟩ := exists_resolve_eq_ok hlimit hkinds name operands context
  have hresolves := resolvesTo_of_resolve ho
  refine ⟨o, ho, fun s r htaken => ?_, fun host s r hexplicit => ?_⟩
  · subst htaken
    have hcosts : s.costs operands = r := (hresolves.of_taken (.inl rfl)).2
    obtain ⟨hmem, happlies⟩ := applies_of_resolve ho
    obtain ⟨host, hhost⟩ := (hkinds s hmem).exists_hostSignature?
    have hshared := mem_sharing.mpr ⟨mem_applicable.mpr ⟨hmem, happlies⟩, hhost⟩
    obtain ⟨o', ho', hone | ⟨tied, p, hseveral, hperm⟩⟩ :=
      exists_resolveExplicit_of_mem hlimit hkinds hshared
    · exact ⟨host, o', hhost, ho', .inl (hcosts ▸ hone)⟩
    · refine ⟨host, o', hhost, ho', .inr ⟨tied, {}, p, hseveral, hperm.symm.subset hshared, ?_⟩⟩
      intro t ht
      obtain ⟨ht, hthost⟩ := mem_sharing.mp (hperm.subset ht)
      obtain ⟨hmem, happlies⟩ := mem_applicable.mp ht
      exact ⟨hmem, happlies, hthost⟩
  · obtain ⟨happlicable, rfl⟩ := mem_applicable_of_resolveExplicit hlimit hkinds hexplicit
    refine ⟨mt hresolves.unresolvable_iff.mp (List.ne_nil_of_mem happlicable), ?_⟩
    exact Rank.key_le_iff.mp (hresolves.rank_le happlicable)

/-- A string goes to the candidate for CHAR, which has the nearer type. Its host signature does not
tell it from the candidate for VARCHAR; that of the candidate for any string does single out a
candidate, with a worse rank. -/
theorem resolve_agrees_with_host_signature_strings :
    let char : SqlType := ⟨.char, 0, 0, 8, true⟩
    let varchar : SqlType := ⟨.varchar, 0, 0, 20, true⟩
    let a : Signature := ⟨"f", "a", [⟨"x", char, .natural⟩], none⟩
    let b : Signature := ⟨"F", "b", [⟨"x", varchar, .natural⟩], none⟩
    let c : Signature := ⟨"f", "c", [⟨"x", varchar, .any⟩], none⟩
    let cs := [b, c, a]
    (cs.length : Int) ≤ 3 ∧ (∀ s ∈ cs, s.KindsAssigned) ∧
      resolve 3 "f" cs [some char] {} = .ok (.resolved a ⟨1, 0⟩) ∧
      resolveExplicit 3 "f" cs [.any] (some [some char]) {} = .ok (.resolved c ⟨2, 1⟩) ∧
      (∃ tied r p, resolveExplicit 3 "f" cs [.plain .string] (some [some char]) {} =
        .ok (.ambiguous tied r p) ∧ a ∈ tied) ∧ Rank.better ⟨2, 1⟩ ⟨1, 0⟩ = false := by
  intro char varchar a b c cs
  have hlimit : (cs.length : Int) ≤ 3 := by decide
  have hkinds : ∀ s ∈ cs, s.KindsAssigned := by decide
  have hranked : resolve 3 "f" cs [some char] {} = .ok (.resolved a ⟨1, 0⟩) :=
    Except.eq_ok_of_toOption (by decide +kernel)
  have hexplicit : resolveExplicit 3 "f" cs [.any] (some [some char]) {} =
      .ok (.resolved c ⟨2, 1⟩) := Except.eq_ok_of_toOption (by decide +kernel)
  obtain ⟨o, ho, htaken, hsingled⟩ :=
    resolve_agrees_with_host_signature hlimit hkinds "f" [some char] {}
  rw [hranked] at ho
  cases ho
  obtain ⟨host, o', hhost, ho', hagrees⟩ := htaken a ⟨1, 0⟩ rfl
  have hstring : a.hostSignature? = some [.plain .string] := rfl
  rw [hstring] at hhost
  cases hhost
  have hkind : (resolveExplicit 3 "f" cs [.plain .string] (some [some char]) {}).toOption.map
      CallOutcome.kindName = some "ambiguous" := by decide +kernel
  refine ⟨hlimit, hkinds, hranked, hexplicit, ?_, (hsingled [.any] c ⟨2, 1⟩ hexplicit).2⟩
  rcases hagrees with rfl | ⟨tied, r, p, rfl, hmem, -⟩
  · rw [ho'] at hkind
    exact absurd hkind (by decide)
  · exact ⟨tied, r, p, ho', hmem⟩

end SqlTyping
