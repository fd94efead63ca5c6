import SqlTyping.Proofs.Catalog.Ledger
import SqlTyping.Proofs.Statement.Decision

/-!
# Ambiguous calls

A call that is ambiguous names a parameter at which its candidates differ. For candidates of any
origin there need be none: a list may hold a signature twice. A catalog, though, refuses a signature
that clashes with a declared one, so two overloads that it finds for a call always differ in a
parameter. The catalog and the resolver look for differences each in their own way; both compare
what parameters have to share (`Param.essence`).
-/

namespace SqlTyping

/-! ## Candidates that do not clash -/

section Difference

variable {cs : List Signature} {n : Nat}

/-- Candidates differ first at a parameter: they agree on those before it, and two of them do not
agree on it. -/
structure DifferFirstAt (cs : List Signature) (i : Nat) : Prop where
  /-- Every candidate has the parameter. -/
  inRange : ∀ c ∈ cs, i < c.arity
  agree : ∀ j < i, ∀ c ∈ cs, ∀ d ∈ cs, ∃ p q, c.params[j]? = some p ∧ d.params[j]? = some q ∧
    p.kind = q.kind ∧ p.type.withNullable true = q.type.withNullable true
  differ : ∃ c ∈ cs, ∃ d ∈ cs, ∃ p q, c.params[i]? = some p ∧ d.params[i]? = some q ∧
    ¬ (p.kind = q.kind ∧ p.type.withNullable true = q.type.withNullable true)

/-- Whether two candidates share what matters at a parameter that both have. -/
lemma map_essence_eq_iff {c d : Signature} {i : Nat} (hc : i < c.arity) (hd : i < d.arity) :
    (c.params[i]?).map Param.essence = (d.params[i]?).map Param.essence ↔
      ∃ p q, c.params[i]? = some p ∧ d.params[i]? = some q ∧
        p.kind = q.kind ∧ p.type.withNullable true = q.type.withNullable true := by
  have hp : c.params[i]? = some c.params[i] := List.getElem?_eq_getElem hc
  have hq : d.params[i]? = some d.params[i] := List.getElem?_eq_getElem hd
  rw [hp, hq]
  simp [Param.essence]

/-- A position that is found as the first difference is one. -/
lemma differFirstAt_of_firstDifference (harity : ∀ c ∈ cs, c.arity = n) {i : Nat}
    (h : firstDifference cs = some i) : DifferFirstAt cs i := by
  rw [firstDifference_eq harity, List.find?_range_eq_some] at h
  obtain ⟨hdiffer, hrange, hbefore⟩ := h
  have hi : i < n := List.mem_range.mp hrange
  have hlt : ∀ {j}, j ≤ i → ∀ c ∈ cs, j < c.arity := fun hj c hc =>
    (harity c hc).symm ▸ Nat.lt_of_le_of_lt hj hi
  refine ⟨hlt (Nat.le_refl i), fun j hj c hc d hd => ?_, ?_⟩
  · have hagree : AgreeAt cs j := by simpa using hbefore j hj
    exact (map_essence_eq_iff (hlt hj.le c hc) (hlt hj.le d hd)).mp (hagree c hc d hd)
  · have hnot : ¬ AgreeAt cs i := by simpa using hdiffer
    unfold AgreeAt at hnot
    push Not at hnot
    obtain ⟨c, hc, d, hd, hne⟩ := hnot
    have hci := hlt (Nat.le_refl i) c hc
    have hdi := hlt (Nat.le_refl i) d hd
    rw [ne_eq, map_essence_eq_iff hci hdi] at hne
    refine ⟨c, hc, d, hd, c.params[i], d.params[i], List.getElem?_eq_getElem hci,
      List.getElem?_eq_getElem hdi, fun hsame => hne ?_⟩
    exact ⟨_, _, List.getElem?_eq_getElem hci, List.getElem?_eq_getElem hdi, hsame⟩

/-- Two candidates that do not share all parameters make for a first difference. -/
lemma exists_firstDifference (harity : ∀ c ∈ cs, c.arity = n) {a b : Signature} (ha : a ∈ cs)
    (hb : b ∈ cs) (hne : a.params.map Param.essence ≠ b.params.map Param.essence) :
    ∃ i, firstDifference cs = some i := by
  rw [firstDifference_eq harity, ← Option.isSome_iff_exists, List.find?_isSome]
  by_contra hall
  push Not at hall
  refine hne (List.ext_getElem? fun i => ?_)
  rw [List.getElem?_map, List.getElem?_map]
  by_cases hi : i < n
  · have hagree : AgreeAt cs i := by simpa using hall i (List.mem_range.mpr hi)
    exact hagree a ha b hb
  · have hlong : ∀ c ∈ cs, c.params[i]? = none := fun c hc =>
      List.getElem?_eq_none (by rw [← Signature.arity, harity c hc]; exact Nat.le_of_not_lt hi)
    rw [hlong a ha, hlong b hb]

end Difference

/-! ## Candidates of a catalog -/

lemma CallOutcome.exists_of_kindName_eq_ambiguous {o : CallOutcome}
    (h : o.kindName = "ambiguous") : ∃ cs r p, o = .ambiguous cs r p := by
  cases o with
  | ambiguous cs r p => exact ⟨cs, r, p, rfl⟩
  | _ => simp [kindName] at h

/-- Tied candidates do not clash either. -/
lemma Tied.pairwise_not_clash {cs tied : List Signature} {name : String} {arity : Nat}
    {p : Option Nat} (h : Tied cs tied name arity p)
    (hdistinct : cs.Pairwise fun a b => ¬ a.Clash b) :
    tied.Pairwise fun a b => ¬ a.Clash b := by
  obtain ⟨sublist, hperm, hsub⟩ := h.subperm
  exact (hperm.pairwise_iff fun hab hba => hab hba.symm).mp (hdistinct.sublist hsub)

namespace Site

variable {env : Environment} {name : String} {types : List (Option SqlType)}
  {context : ReturnContext} {host : Option HostSignature} {cs : List Signature} {r : Rank}
  {p : Option Nat}

/-- The candidates of an ambiguous call are overloads that the catalog finds. -/
lemma exists_tied_of_outcome (h : outcome env name types context host = .ok (.ambiguous cs r p)) :
    ∃ arity, Tied (env.catalog.lookup name types.length) cs name arity p := by
  cases host with
  | none => exact ⟨_, tied_of_resolve h⟩
  | some host => exact ⟨_, tied_of_resolveExplicit h⟩

end Site

/-- A call that is ambiguous against a published catalog has at least two candidates, and it names
the first parameter at which they differ. -/
theorem ambiguous_call_names_difference (calls : List Publication) {values : Values} {name : String}
    {types : List (Option SqlType)} {context : ReturnContext} {host : Option HostSignature}
    {cs : List Signature} {r : Rank} {position : Option Nat}
    (h : Site.outcome ⟨values, calls.foldl Catalog.after {}⟩ name types context host =
      .ok (.ambiguous cs r position)) :
    2 ≤ cs.length ∧ ∃ i, position = some i ∧ DifferFirstAt cs i := by
  obtain ⟨arity, htied⟩ := Site.exists_tied_of_outcome h
  obtain ⟨hnames, hdistinct⟩ := (Catalog.holds_published calls).lookup_distinct name types.length
  have hpairwise := htied.pairwise_not_clash hdistinct
  refine ⟨htied.several, ?_⟩
  -- Two of the candidates have the same name in upper case, so they differ in their parameters.
  obtain ⟨a, b, rest, rfl⟩ : ∃ a b rest, cs = a :: b :: rest := by
    match cs, htied.several with
    | a :: b :: rest, _ => exact ⟨a, b, rest, rfl⟩
  have ha : a ∈ a :: b :: rest := List.mem_cons_self
  have hb : b ∈ a :: b :: rest := List.mem_cons_of_mem a List.mem_cons_self
  have hsame : Text.upper a.name = Text.upper b.name :=
    (hnames a (htied.subperm.subset ha)).trans (hnames b (htied.subperm.subset hb)).symm
  have hne : a.params.map Param.essence ≠ b.params.map Param.essence := fun hparams =>
    List.rel_of_pairwise_cons hpairwise List.mem_cons_self ⟨hsame, hparams⟩
  obtain ⟨i, hi⟩ := exists_firstDifference htied.arity ha hb hne
  exact ⟨i, htied.position.trans hi, differFirstAt_of_firstDifference htied.arity hi⟩

/-- Three publications, of which the second one is refused for its first declaration. The two
overloads agree on the first parameter, where only nullability differs, and not on the other ones,
for which the operands are untyped. -/
theorem ambiguous_call_names_difference_second_parameter :
    let integer (nullable : Bool) : SqlType := ⟨.integer, 10, 0, 0, nullable⟩
    let a : Signature := ⟨"f", "a", [⟨"x", integer true, .natural⟩, ⟨"y", integer true, .nullable⟩,
      ⟨"z", integer true, .natural⟩], none⟩
    let b : Signature := ⟨"F", "b", [⟨"x", integer false, .natural⟩, ⟨"y", integer true, .natural⟩,
      ⟨"z", integer true, .nullable⟩], none⟩
    let calls : List Publication :=
      [.add [.ofSignature a], .add [.ofSignature a, .ofSignature b], .add [.ofSignature b]]
    let env : Environment := ⟨Engine.defaults, calls.foldl Catalog.after {}⟩
    ∃ cs r i, Site.outcome env "f" [some (integer true), none, none] {} none =
      .ok (.ambiguous cs r (some i)) ∧ 2 ≤ cs.length ∧ DifferFirstAt cs i := by
  intro integer a b calls env
  have hkind : (Site.outcome env "f" [some (integer true), none, none] {} none).toOption.map
      CallOutcome.kindName = some "ambiguous" := by decide +kernel
  obtain ⟨o, ho, hname⟩ := Option.map_eq_some_iff.mp hkind
  obtain ⟨cs, r, p, rfl⟩ := CallOutcome.exists_of_kindName_eq_ambiguous hname
  have houtcome := Except.eq_ok_of_toOption ho
  obtain ⟨hseveral, i, rfl, hdiffer⟩ := ambiguous_call_names_difference calls houtcome
  exact ⟨cs, r, i, houtcome, hseveral, hdiffer⟩

end SqlTyping
