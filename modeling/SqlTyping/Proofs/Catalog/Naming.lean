import Mathlib.Data.List.Pairwise
import SqlTyping.Proofs.Catalog.Ledger
import SqlTyping.Proofs.Routine.Applicable
import SqlTyping.Proofs.Routine.Spelling

/-!
# Names in a catalog and in a call

A catalog files routines under their names in upper case, while a call takes a routine if the names
fold to the same text. A lookup therefore leaves out routines whose names fold alike but for a sign,
and it finds some that the call does not take, with a dotless i (`lookup_eq_named_iff`). The latter
do no harm. As long as there are none of the former, a call has the same outcome with the routines
that the lookup finds as with all that were declared.
-/

namespace SqlTyping

/-! ## What a lookup finds -/

section Lookup

variable {c : Catalog} {declared : List Signature}

/-- A lookup finds the routines that a call by the name may take, exactly if signs and dotless i's
do not tell the names apart. -/
lemma Catalog.Indexes.lookup_eq_named_iff (h : c.Indexes declared) (name : String) (arity : Nat) :
    c.lookup name arity = declared.filter (Signature.isNamed name arity) ↔
      ∀ s ∈ declared, s.arity = arity → Text.Resembles s.name name →
        (Text.Shares Text.signs s.name name ↔ Text.Shares [Text.dotlessI] s.name name) := by
  rw [h.lookup, List.filter_eq_filter_iff]
  refine forall₂_congr fun s hs => ?_
  rw [Bool.eq_iff_iff, Signature.isNamed_iff, Bool.and_eq_true, beq_iff_eq, beq_iff_eq,
    Text.upper_eq_iff, Text.equalFold_iff]
  constructor
  · intro hiff harity hresembles
    simpa only [hresembles, harity, and_true, true_and] using hiff
  · intro hshares
    constructor
    · rintro ⟨⟨hresembles, hsigns⟩, harity⟩
      exact ⟨⟨hresembles, (hshares harity hresembles).mp hsigns⟩, harity⟩
    · rintro ⟨⟨hresembles, hdotless⟩, harity⟩
      exact ⟨⟨hresembles, (hshares harity hresembles).mpr hdotless⟩, harity⟩

/-- If names that fold alike have the same signs, a call takes as much of a lookup as of all
declared routines. -/
lemma Catalog.Indexes.filter_named_lookup (h : c.Indexes declared) {name : String} {arity : Nat}
    (hsigns : ∀ s ∈ declared, s.arity = arity → Text.equalFold s.name name = true →
      Text.Shares Text.signs s.name name) :
    (c.lookup name arity).filter (Signature.isNamed name arity) =
      declared.filter (Signature.isNamed name arity) := by
  rw [h.lookup, List.filter_filter, List.filter_eq_filter_iff]
  intro s hs
  rw [Bool.and_eq_left_iff_imp, Signature.isNamed_iff]
  rintro ⟨hfold, harity⟩
  have hupper : Text.upper s.name = Text.upper name :=
    Text.upper_eq_iff.mpr ⟨(Text.equalFold_iff.mp hfold).1, hsigns s hs harity hfold⟩
  rw [Bool.and_eq_true, beq_iff_eq, beq_iff_eq]
  exact ⟨hupper, harity⟩

end Lookup

/-! ## Outcomes -/

/-- Calls that are the same have the same outcome, if tied candidates are spelled differently. -/
lemma SameCall.eq_ok_iff {x y : Except Abort CallOutcome} (h : SameCall x y)
    (hspelling : ∀ o, x = .ok o → ∀ a ∈ o.candidates, ∀ b ∈ o.candidates,
      a.render = b.render → a = b) (o : CallOutcome) : x = .ok o ↔ y = .ok o := by
  cases h with
  | error d => exact Iff.rfl
  | crash c c' => constructor <;> (intro h; cases h)
  | ok halike => rw [halike.eq (hspelling _ rfl)]

section Outcomes

variable {limit : Int} {name : String} {cs : List Signature} {operands : List (Option SqlType)}
  {context : ReturnContext} {o : CallOutcome}

/-- Candidates of a call that do not clash are spelled differently. -/
lemma eq_of_render_eq (hnames : ∀ s ∈ cs, Text.upper s.name = Text.upper name)
    (hdistinct : cs.Pairwise fun a b => ¬ a.Clash b)
    (htypes : ∀ s ∈ cs, ∀ p ∈ s.params, p.type.WellFormed)
    (h : resolve limit name cs operands context = .ok o) :
    ∀ a ∈ o.candidates, ∀ b ∈ o.candidates, a.render = b.render → a = b := by
  intro a ha b hb hrender
  cases o with
  | ambiguous tied r p =>
    have htied := tied_of_resolve h
    have hreadable : ∀ s ∈ tied, s.Readable := fun s hs q hq =>
      ⟨htypes s (htied.subperm.subset hs) q hq, htied.assigned s hs q hq⟩
    have hname : a.name.toList.length = b.name.toList.length := by
      rw [Text.length_eq_of_equalFold (htied.named a ha),
        Text.length_eq_of_equalFold (htied.named b hb)]
    have harity : a.arity = b.arity := (htied.arity a ha).trans (htied.arity b hb).symm
    have hclash : a.Clash b :=
      ⟨(hnames a (htied.subperm.subset ha)).trans (hnames b (htied.subperm.subset hb)).symm,
        Signature.map_essence_eq_of_render_eq hname harity (hreadable a ha) (hreadable b hb)
          hrender⟩
    have : Std.Symm fun a b : Signature => ¬ a.Clash b := ⟨fun a b hab hba => hab hba.symm⟩
    by_contra hne
    exact hdistinct.forall (htied.subperm.subset ha) (htied.subperm.subset hb) hne hclash
  | _ => cases ha

end Outcomes

/-- What a lookup in a published catalog finds is what a call of the name may take, exactly if no
declared routine with a similar name has other signs or other dotless i's. Whenever names that fold
alike have the same signs, resolving a call by rank or by host signature has the same outcome with
the routines found as with all declared routines. -/
theorem lookup_agrees_with_resolver (calls : List Publication) (name : String) (arity : Nat) :
    let catalog := calls.foldl Catalog.after {}
    let declared := (calls.foldl Ledger.after {}).declared
    (catalog.lookup name arity = declared.filter (Signature.isNamed name arity) ↔
      ∀ s ∈ declared, s.arity = arity → Text.Resembles s.name name →
        (Text.Shares Text.signs s.name name ↔ Text.Shares [Text.dotlessI] s.name name)) ∧
    ∀ (limit : Int) (operands : List (Option SqlType)) (context : ReturnContext),
      declared.length ≤ limit → operands.length = arity →
      (∀ s ∈ declared, s.arity = arity → Text.equalFold s.name name = true →
        Text.Shares Text.signs s.name name) →
      SameCall (resolve limit name (catalog.lookup name arity) operands context)
          (resolve limit name declared operands context) ∧
        ((∀ s ∈ declared, ∀ p ∈ s.params, p.type.WellFormed) → ∀ o,
          resolve limit name (catalog.lookup name arity) operands context = .ok o ↔
            resolve limit name declared operands context = .ok o) ∧
        ∀ host,
          resolveExplicit limit name (catalog.lookup name arity) host (some operands) context =
            resolveExplicit limit name declared host (some operands) context := by
  intro catalog declared
  have hholds := Catalog.holds_published calls
  have hindexes : catalog.Indexes declared := hholds.indexes
  refine ⟨hindexes.lookup_eq_named_iff name arity, ?_⟩
  intro limit operands context hlimit harity hsigns
  subst harity
  have hsub : (catalog.lookup name operands.length).Sublist declared := by
    rw [hindexes.lookup]
    exact List.filter_sublist
  have hlookup : ((catalog.lookup name operands.length).length : Int) ≤ limit :=
    Int.le_trans (Int.ofNat_le.mpr hsub.length_le) hlimit
  have hnamed := hindexes.filter_named_lookup hsigns
  have hsame : SameCall (resolve limit name (catalog.lookup name operands.length) operands context)
      (resolve limit name declared operands context) := by
    have hperm := (select_perm_filter (Signature.isNamed name operands.length)
      (catalog.lookup name operands.length)).trans
        ((List.Perm.of_eq hnamed).trans (select_perm_filter _ declared).symm)
    rw [resolve_of_le hlookup, resolve_of_le hlimit]
    exact resolveNamed_sameCall hperm (fun s hs => (mem_select_isNamed.mp hs).2.2) context
  refine ⟨hsame, fun htypes => hsame.eq_ok_iff fun o ho => ?_, fun host => ?_⟩
  · obtain ⟨hnames, hdistinct⟩ := hholds.lookup_distinct name operands.length
    exact eq_of_render_eq hnames hdistinct (fun s hs => htypes s (hsub.subset hs)) ho
  · rw [resolveExplicit_of_le hlookup, resolveExplicit_of_le hlimit]
    by_cases hcount : miscounts host (some operands) = true
    · rw [resolveHosted, resolveHosted, if_pos hcount, if_pos hcount]
    · have hlength : operands.length = host.length := by simpa [miscounts] using hcount
      rw [← hlength, hnamed]

/-- Two overloads with letters beyond ASCII, called by their name in capital letters, among routines
of other names. -/
theorem lookup_agrees_with_resolver_capital :
    let varchar : SqlType := ⟨.varchar, 0, 0, 20, true⟩
    let integer : SqlType := ⟨.integer, 10, 0, 0, true⟩
    let a : Signature := ⟨"größe", "a", [⟨"x", varchar, .natural⟩], none⟩
    let b : Signature := ⟨"Größe", "b", [⟨"x", integer, .any⟩], none⟩
    let c : Signature := ⟨"\u212A", "c", [⟨"x", integer, .natural⟩], none⟩
    let calls : List Publication := [.add [.ofSignature c], .add [.ofSignature a, .ofSignature b]]
    let catalog := calls.foldl Catalog.after {}
    catalog.lookup "GRÖßE" 1 = [c, a, b].filter (Signature.isNamed "GRÖßE" 1) ∧
      resolve 3 "GRÖßE" (catalog.lookup "GRÖßE" 1) [some integer] {} =
        .ok (.resolved b ⟨2, 0⟩) := by
  intro varchar integer a b c calls catalog
  have hdeclared : (calls.foldl Ledger.after {}).declared = [c, a, b] := by decide +kernel
  obtain ⟨hlookup, hresolve⟩ := lookup_agrees_with_resolver calls "GRÖßE" 1
  rw [hdeclared] at hlookup hresolve
  have hsigns : ∀ s ∈ [c, a, b], s.arity = 1 → Text.equalFold s.name "GRÖßE" = true →
      Text.Shares Text.signs s.name "GRÖßE" := by decide +kernel
  have hshares : ∀ s ∈ [c, a, b], s.arity = 1 → Text.Resembles s.name "GRÖßE" →
      (Text.Shares Text.signs s.name "GRÖßE" ↔ Text.Shares [Text.dotlessI] s.name "GRÖßE") := by
    decide +kernel
  have htypes : ∀ s ∈ [c, a, b], ∀ p ∈ s.params, p.type.WellFormed := by decide +kernel
  have hall : resolve 3 "GRÖßE" [c, a, b] [some integer] {} = .ok (.resolved b ⟨2, 0⟩) :=
    Except.eq_ok_of_toOption (by decide +kernel)
  have hsame := (hresolve 3 [some integer] {} (by decide) rfl hsigns).2.1 htypes
  exact ⟨hlookup.mpr hshares, (hsame _).mpr hall⟩

/-- A catalog does not find a routine under the sign for kelvin whose name is the small k, although
the two fold alike. A call would take the routine. -/
theorem lookup_misses_folded_name :
    let k : Signature := ⟨"k", "", [], none⟩
    ∃ catalog, Catalog.add {} [.ofSignature k] = .ok catalog ∧ catalog.signatures = [k] ∧
      Text.equalFold k.name "\u212A" = true ∧ catalog.lookup "\u212A" 0 = [] ∧
      resolve 1 "\u212A" (catalog.lookup "\u212A" 0) [] {} = .ok (.unresolvable none) ∧
      resolve 1 "\u212A" [k] [] {} = .ok (.resolved k {}) := by
  intro k
  have hadd : Catalog.add {} [.ofSignature k] = .ok ⟨[⟨"K", 0, 0, k⟩], 1, 1⟩ :=
    Except.eq_ok_of_toOption (by decide +kernel)
  exact ⟨_, hadd, rfl, by decide +kernel, by decide +kernel,
    Except.eq_ok_of_toOption (by decide +kernel), Except.eq_ok_of_toOption (by decide +kernel)⟩

end SqlTyping
