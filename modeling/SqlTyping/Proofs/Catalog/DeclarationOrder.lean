import SqlTyping.Proofs.Catalog.Ledger
import SqlTyping.Proofs.Statement.Memo

/-!
# The order of declarations

Signatures no two of which clash can be declared in any order and in any batches. Two catalogs that
hold the same signatures give the same candidates for every call, in orders that differ; since the
decision of a call does not depend on the order of its candidates, every statement compiles alike
against both. Only the version, which counts the batches, may differ.
-/

namespace SqlTyping

namespace Catalog

variable {c c' : Catalog} {l l' : Ledger}

/-! ## Batches -/

/-- Publishes signatures in batches, one after the other. -/
def addBatches (c : Catalog) (batches : List (List Signature)) :
    Except DeclarationError Catalog :=
  batches.foldlM (fun c batch => c.add (batch.map Declaration.ofSignature)) c

/-- A batch of signatures that do not clash is published. -/
lemma Holds.exists_add (h : c.Holds l) {ss : List Signature} (hnames : ∀ s ∈ ss, s.name ≠ "")
    (hdistinct : (l.declared ++ ss).Pairwise fun a b => ¬ a.Clash b) :
    ∃ c', c.add (ss.map Declaration.ofSignature) = .ok c' ∧
      c'.Holds ⟨l.version + 1, l.declared ++ ss⟩ := by
  have hpublish : l.publish? (.add (ss.map Declaration.ofSignature)) =
      some ⟨l.version + 1, l.declared ++ ss⟩ := by
    rw [Ledger.publish?, Publication.signatures?, Declaration.mapM_signature_ofSignature hnames]
    exact if_pos hdistinct
  have hrel := h.publish? (.add (ss.map Declaration.ofSignature))
  rw [hpublish, Catalog.publish?] at hrel
  cases hadd : c.add (ss.map Declaration.ofSignature) with
  | error e =>
    rw [hadd] at hrel
    cases hrel
  | ok c' =>
    rw [hadd] at hrel
    cases hrel with
    | some hc' => exact ⟨c', rfl, hc'⟩

/-- All batches of signatures that do not clash are published. -/
lemma Holds.exists_addBatches (h : c.Holds l) {batches : List (List Signature)}
    (hnames : ∀ s ∈ batches.flatten, s.name ≠ "")
    (hdistinct : (l.declared ++ batches.flatten).Pairwise fun a b => ¬ a.Clash b) :
    ∃ c', c.addBatches batches = .ok c' ∧
      c'.Holds ⟨l.version + batches.length, l.declared ++ batches.flatten⟩ := by
  induction batches generalizing c l with
  | nil =>
    rw [List.flatten_nil, List.append_nil]
    exact ⟨c, rfl, h⟩
  | cons batch batches ih =>
    rw [List.flatten_cons, List.forall_mem_append] at hnames
    rw [List.flatten_cons, ← List.append_assoc] at hdistinct
    obtain ⟨c₁, hadd, hc₁⟩ := h.exists_add hnames.1 (List.pairwise_append.mp hdistinct).1
    obtain ⟨c', hrest, hc'⟩ := ih hc₁ hnames.2 hdistinct
    refine ⟨c', ?_, ?_⟩
    · rw [addBatches, List.foldlM_cons, hadd]
      exact hrest
    · rw [List.flatten_cons, ← List.append_assoc, List.length_cons, Nat.add_comm batches.length,
        ← Nat.add_assoc]
      exact hc'

/-! ## Catalogs with the same signatures -/

/-- Catalogs with the same signatures find the same candidates, in orders that may differ. -/
lemma Holds.lookup_perm (h : c.Holds l) (h' : c'.Holds l')
    (hperm : l.declared.Perm l'.declared) (name : String) (arity : Nat) :
    (c.lookup name arity).Perm (c'.lookup name arity) := by
  rw [h.indexes.lookup, h'.indexes.lookup]
  exact hperm.filter _

/-- A parsed statement compiles alike against catalogs with the same signatures. -/
lemma Holds.compile (h : c.Holds l) (h' : c'.Holds l') (hperm : l.declared.Perm l'.declared)
    (hkinds : ∀ s ∈ l.declared, s.KindsAssigned) {values : Values}
    (hvalues : Engine.Reachable values) {name text : String} {stmt : Statement}
    (hstmt : Statement.parse name text = .ok stmt) :
    (∃ r, stmt.compile ⟨values, c⟩ = .ok r ∧
        stmt.compile ⟨values, c'⟩ = .ok { r with version := c'.version }) ∨
      ∃ d, stmt.compile ⟨values, c⟩ = .error (.error d) ∧
        stmt.compile ⟨values, c'⟩ = .error (.error d) := by
  have hsites : ∀ s ∈ stmt.sites, s.WellFormed := fun s hs =>
    ((Statement.of_parse hstmt).2 s hs).1
  have hassigned : ∀ s ∈ c.signatures, s.KindsAssigned := fun s hs =>
    hkinds s (h.indexes.signatures_perm.mem_iff.mp hs)
  have hdecide : ∀ s : Site, s.decide ⟨values, c⟩ = s.decide ⟨values, c'⟩ :=
    Site.decide_congr rfl (h.lookup_perm h' hperm) hassigned
  rw [Statement.compile_eq hsites, Statement.compile_eq hsites, ← decideFrom_congr hdecide]
  cases hall : decideFrom ⟨values, c⟩ stmt.name 0 stmt.sites with
  | ok es => exact .inl ⟨_, rfl, rfl⟩
  | error a =>
    obtain ⟨i, s, d, -, -, -, rfl⟩ := exists_diagnostic_of_decideFrom hvalues hassigned hsites hall
    exact .inr ⟨_, rfl, rfl⟩

end Catalog

/-- The order of declarations and their division into batches never change a compilation: all
batches are published, and every statement either compiles to the same expressions or fails with the
same diagnostic. -/
theorem compile_independent_of_declaration_order {batches batches' : List (List Signature)}
    (horder : batches.flatten.Perm batches'.flatten)
    (hnames : ∀ s ∈ batches.flatten, s.name ≠ "")
    (hkinds : ∀ s ∈ batches.flatten, s.KindsAssigned)
    (hdistinct : batches.flatten.Pairwise fun a b => ¬ a.Clash b) :
    ∃ c c', Catalog.addBatches {} batches = .ok c ∧ Catalog.addBatches {} batches' = .ok c' ∧
      ∀ (values : Values) (name text : String) (stmt : Statement), Engine.Reachable values →
        Statement.parse name text = .ok stmt →
        (∃ r, stmt.compile ⟨values, c⟩ = .ok r ∧
            stmt.compile ⟨values, c'⟩ = .ok { r with version := c'.version }) ∨
          ∃ d, stmt.compile ⟨values, c⟩ = .error (.error d) ∧
            stmt.compile ⟨values, c'⟩ = .error (.error d) := by
  have hempty : Catalog.Holds {} {} := .empty rfl
  have hnames' : ∀ s ∈ batches'.flatten, s.name ≠ "" := fun s hs =>
    hnames s (horder.mem_iff.mpr hs)
  have hdistinct' : batches'.flatten.Pairwise fun a b => ¬ a.Clash b :=
    (horder.pairwise_iff fun hab hba => hab hba.symm).mp hdistinct
  obtain ⟨c, hadd, hc⟩ := hempty.exists_addBatches hnames hdistinct
  obtain ⟨c', hadd', hc'⟩ := hempty.exists_addBatches hnames' hdistinct'
  refine ⟨c, c', hadd, hadd', fun values name text stmt hvalues hstmt => ?_⟩
  exact hc.compile hc' horder hkinds hvalues hstmt

/-- Overloads of which a call with whole numbers ties two, declared at once and one by one in the
opposite order. -/
theorem compile_independent_of_declaration_order_tied :
    let integer : SqlType := ⟨.integer, 10, 0, 0, true⟩
    let double : SqlType := ⟨.double, 15, 0, 0, true⟩
    let a : Signature := ⟨"f", "a", [⟨"x", integer, .natural⟩, ⟨"y", double, .natural⟩], none⟩
    let b : Signature := ⟨"F", "b", [⟨"x", double, .natural⟩, ⟨"y", integer, .natural⟩], none⟩
    let u : Signature := ⟨"f", "u", [⟨"x", integer, .any⟩], none⟩
    let stmt : Statement := ⟨"q", [.call "F" [.typed integer] {} none,
      .call "f" [.typed integer, .typed integer] {} none]⟩
    [[a, b, u]].flatten.Perm [[u], [b], [a]].flatten ∧
      (∀ s ∈ [[a, b, u]].flatten, s.name ≠ "" ∧ s.KindsAssigned) ∧
      [[a, b, u]].flatten.Pairwise (fun s t => ¬ s.Clash t) ∧
      Statement.parse "q" "call F(integer)\ncall f(integer, integer)" = .ok stmt ∧
      ∃ c c', Catalog.addBatches {} [[a, b, u]] = .ok c ∧
        Catalog.addBatches {} [[u], [b], [a]] = .ok c' ∧
        ∃ d, stmt.compile ⟨Engine.defaults, c⟩ = .error (.error d) ∧
          stmt.compile ⟨Engine.defaults, c'⟩ = .error (.error d) := by
  intro integer double a b u stmt
  have horder : [[a, b, u]].flatten.Perm [[u], [b], [a]].flatten := List.reverse_perm [u, b, a]
  have hnames : ∀ s ∈ [[a, b, u]].flatten, s.name ≠ "" := by decide
  have hkinds : ∀ s ∈ [[a, b, u]].flatten, s.KindsAssigned := by decide
  have hdistinct : [[a, b, u]].flatten.Pairwise fun s t => ¬ s.Clash t := by decide +kernel
  have hstmt : Statement.parse "q" "call F(integer)\ncall f(integer, integer)" = .ok stmt :=
    Except.eq_ok_of_toOption (by decide +kernel)
  have hfails : (Catalog.addBatches {} [[a, b, u]]).toOption.bind
      (fun c => (stmt.compile ⟨Engine.defaults, c⟩).toOption) = none := by decide +kernel
  obtain ⟨c, c', hc, hc', hcompile⟩ :=
    compile_independent_of_declaration_order horder hnames hkinds hdistinct
  refine ⟨horder, fun s hs => ⟨hnames s hs, hkinds s hs⟩, hdistinct, hstmt, c, c', hc, hc', ?_⟩
  refine (hcompile Engine.defaults "q" _ stmt .defaults hstmt).resolve_left ?_
  rintro ⟨r, hr, -⟩
  rw [hc] at hfails
  change (stmt.compile ⟨Engine.defaults, c⟩).toOption = none at hfails
  rw [hr] at hfails
  cases hfails

end SqlTyping
