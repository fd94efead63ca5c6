import SqlTyping.Catalog.File
import SqlTyping.Proofs.Catalog.Index
import SqlTyping.Proofs.Except
import SqlTyping.Proofs.Routine.CandidateOrder

/-!
# The ledger of a catalog

What a catalog stands for is a version and the list of the signatures that were declared since all
routines were last replaced: a ledger. A publication succeeds if its declarations are complete and
no two signatures of the new ledger clash, and then the version goes up by one and the list is
extended or replaced. Otherwise nothing changes. After any publications, the index of a catalog
gives the answers that its ledger determines.
-/

namespace SqlTyping

/-! ## Clashes -/

/-- Two signatures clash if they have the same name in upper case and the same parameters,
nullability apart. -/
def Signature.Clash (a b : Signature) : Prop :=
  Text.upper a.name = Text.upper b.name ∧
    a.params.map Param.essence = b.params.map Param.essence

instance (a b : Signature) : Decidable (a.Clash b) :=
  inferInstanceAs (Decidable (_ ∧ _))

lemma Signature.Clash.arity_eq {a b : Signature} (h : a.Clash b) : a.arity = b.arity := by
  simpa [Signature.arity] using congrArg List.length h.2

lemma Signature.Clash.symm {a b : Signature} (h : a.Clash b) : b.Clash a :=
  ⟨h.1.symm, h.2.symm⟩

namespace Catalog

lemma all_agrees_iff {ps qs : List Param} (h : ps.length = qs.length) :
    ((ps.zip qs).all fun (p, q) => p.agrees q) = true ↔
      ps.map Param.essence = qs.map Param.essence := by
  induction ps generalizing qs with
  | nil =>
    cases qs with
    | nil => exact ⟨fun _ => rfl, fun _ => rfl⟩
    | cons q qs => cases h
  | cons p ps ih =>
    cases qs with
    | nil => cases h
    | cons q qs =>
      rw [List.zip_cons_cons, List.all_cons, Bool.and_eq_true, Param.agrees_iff,
        ih (Nat.succ.inj h), List.map_cons, List.map_cons, List.cons.injEq]

variable {c : Catalog} {declared : List Signature}

/-- A catalog refuses the signatures that clash with a declared one. -/
lemma Indexes.any_sameParams_iff (h : c.Indexes declared) (s : Signature) :
    (c.lookup s.name s.arity).any (sameParams · s) = true ↔ ∃ t ∈ declared, t.Clash s := by
  rw [h.lookup, List.any_eq_true]
  constructor
  · rintro ⟨t, ht, hsame⟩
    rw [List.mem_filter, Bool.and_eq_true, beq_iff_eq, beq_iff_eq] at ht
    obtain ⟨ht, hname, harity⟩ := ht
    exact ⟨t, ht, hname, (all_agrees_iff harity).mp hsame⟩
  · rintro ⟨t, ht, hclash⟩
    refine ⟨t, ?_, (all_agrees_iff hclash.arity_eq).mpr hclash.2⟩
    rw [List.mem_filter, Bool.and_eq_true, beq_iff_eq, beq_iff_eq]
    exact ⟨ht, hclash.1, hclash.arity_eq⟩

end Catalog

/-! ## Declarations of signatures -/

namespace Declaration

lemma typedParamsFrom_map (ps : List Param) (position : Nat) :
    typedParamsFrom position (ps.map fun p => ⟨p.name, some p.type, p.kind⟩) = .ok ps := by
  induction ps generalizing position with
  | nil => rfl
  | cons p ps ih =>
    rw [List.map_cons, typedParamsFrom, ih]
    rfl

lemma signature_ofSignature {s : Signature} (h : s.name ≠ "") :
    (ofSignature s).signature = .ok s := by
  have hname : (ofSignature s).name.isEmpty = false := by
    rw [← Bool.not_eq_true, String.isEmpty_iff]
    exact h
  rw [signature, hname, typed, ofSignature, typedParamsFrom_map]
  rfl

/-- Signatures with names are declared as they are. -/
lemma mapM_signature_ofSignature {ss : List Signature} (h : ∀ s ∈ ss, s.name ≠ "") :
    (ss.map ofSignature).mapM signature = .ok ss := by
  rw [List.mapM_map]
  refine (Except.mapM_eq_ok fun s hs => ?_).trans (congrArg _ (List.map_id ss))
  exact signature_ofSignature (h s hs)

end Declaration

namespace CatalogFile

lemma name_ne_empty_of_signature {position : Nat} {clause : RoutineClause} {s : Signature}
    (h : clause.signature position = .ok s) : s.name ≠ "" := by
  unfold RoutineClause.signature at h
  split at h
  · cases h
  · next hname =>
    obtain ⟨params, -, h⟩ := Except.bind_eq_ok_iff.mp h
    obtain ⟨result, -, h⟩ := Except.bind_eq_ok_iff.mp h
    cases h
    rwa [String.isEmpty_iff] at hname

lemma name_ne_empty_of_signaturesFrom {clauses : List RoutineClause} {position : Nat}
    {ss : List Signature} (h : signaturesFrom position clauses = .ok ss) :
    ∀ s ∈ ss, s.name ≠ "" := by
  induction clauses generalizing position ss with
  | nil =>
    cases h
    exact List.forall_mem_nil _
  | cons clause clauses ih =>
    obtain ⟨s, hs, h⟩ := Except.bind_eq_ok_iff.mp h
    obtain ⟨rest, hrest, h⟩ := Except.bind_eq_ok_iff.mp h
    cases h
    exact List.forall_mem_cons.mpr ⟨name_ne_empty_of_signature hs, ih hrest⟩

/-- The signatures of a file have names. -/
lemma name_ne_empty_of_parse {text : String} {ss : List Signature} (h : parse text = .ok ss) :
    ∀ s ∈ ss, s.name ≠ "" := by
  obtain ⟨clauses, -, h⟩ := Except.bind_eq_ok_iff.mp h
  exact name_ne_empty_of_signaturesFrom (Except.mapError_eq_ok_iff.mp h)

end CatalogFile

/-! ## Ledgers -/

/-- What a catalog stands for: its version and the signatures that were declared since all routines
were last replaced, in the order of their declaration. -/
structure Ledger where
  version : Nat := 0
  declared : List Signature := []

/-- A call that changes a catalog. -/
inductive Publication where
  | add (ds : List Declaration)
  | replace (ds : List Declaration)
  /-- The routines of a file are added. -/
  | load (text : String)

/-- The signatures of a publication, if all of them are complete. -/
def Publication.signatures? : Publication → Option (List Signature)
  | add ds => (ds.mapM Declaration.signature).toOption
  | replace ds => (ds.mapM Declaration.signature).toOption
  | load text => (CatalogFile.parse text).toOption

namespace Ledger

/-- The ledger with further signatures, unless two would clash. -/
def extend? (l : Ledger) (ss : List Signature) : Option Ledger :=
  if (l.declared ++ ss).Pairwise (fun a b => ¬ a.Clash b) then
    some ⟨l.version, l.declared ++ ss⟩
  else none

/-- The ledger that a publication extends: the next version, with what was declared before or, for
a replacement, with nothing. -/
def base (l : Ledger) : Publication → Ledger
  | .replace _ => ⟨l.version + 1, []⟩
  | _ => ⟨l.version + 1, l.declared⟩

/-- The ledger with a publication, if it succeeds. -/
def publish? (l : Ledger) (p : Publication) : Option Ledger :=
  p.signatures?.bind (l.base p).extend?

/-- The ledger after a publication has been tried. -/
def after (l : Ledger) (p : Publication) : Ledger :=
  (l.publish? p).getD l

end Ledger

namespace Catalog

/-- The catalog with a publication, if it succeeds. -/
def publish? (c : Catalog) : Publication → Option Catalog
  | .add ds => (c.add ds).toOption
  | .replace ds => (c.replace ds).toOption
  | .load text => (c.load text).toOption

/-- The catalog after a publication has been tried. -/
def after (c : Catalog) (p : Publication) : Catalog :=
  (c.publish? p).getD c

/-- The index of a catalog belongs to a ledger. -/
structure Holds (c : Catalog) (l : Ledger) : Prop where
  version : c.version = l.version
  indexes : c.Indexes l.declared
  distinct : l.declared.Pairwise fun a b => ¬ a.Clash b

lemma Holds.empty {v w : Nat} (h : v = w) : Holds { version := v } { version := w } :=
  ⟨h, .empty v, .nil⟩

variable {c : Catalog} {l : Ledger}

/-- Declaring a signature, in terms of the ledger. -/
lemma Holds.declare (h : c.Holds l) {d : Declaration} {s : Signature}
    (hd : d.signature = .ok s) :
    (∃ t ∈ l.declared, t.Clash s) ∧ c.declare d = .error (.duplicate s) ∨
      ∃ c', c.declare d = .ok c' ∧ c'.Holds ⟨l.version, l.declared ++ [s]⟩ := by
  have hclash := h.indexes.any_sameParams_iff s
  have hdeclare : c.declare d =
      if (c.lookup s.name s.arity).any (sameParams · s) then .error (.duplicate s)
      else
        .ok ⟨insertEntry (entryOf s c.nextSequence) c.entries, c.version, c.nextSequence + 1⟩ := by
    rw [Catalog.declare, hd]
    rfl
  rw [hdeclare]
  split
  · next hany => exact .inl ⟨hclash.mp hany, rfl⟩
  · next hany =>
    refine .inr ⟨_, rfl, h.version, h.indexes.insert s _, ?_⟩
    refine List.pairwise_append.mpr ⟨h.distinct, List.pairwise_singleton _ s, fun t ht u hu => ?_⟩
    rw [List.mem_singleton.mp hu]
    exact fun htu => hany (hclash.mpr ⟨t, ht, htu⟩)

/-- Declarations succeed exactly if they are complete and no two signatures clash. -/
lemma Holds.declareAll (h : c.Holds l) (ds : List Declaration) :
    Option.Rel Holds (c.declareAll ds).toOption
      ((ds.mapM Declaration.signature).toOption.bind l.extend?) := by
  induction ds generalizing c l with
  | nil =>
    have hextend : l.extend? [] = some l := by
      rw [Ledger.extend?, List.append_nil, if_pos h.distinct]
    change Option.Rel Holds (some c) (l.extend? [])
    rw [hextend]
    exact .some h
  | cons d ds ih =>
    rw [Catalog.declareAll, List.mapM_cons]
    cases hd : d.signature with
    | error e =>
      have hdeclare : c.declare d = .error e := by
        rw [Catalog.declare, hd]
        rfl
      rw [hdeclare]
      exact .none
    | ok s =>
      have hmapM : ((Except.ok s >>= fun s => ds.mapM Declaration.signature >>= fun ss =>
          pure (s :: ss)).toOption.bind l.extend?) =
          (ds.mapM Declaration.signature).toOption.bind fun ss => l.extend? (s :: ss) := by
        cases ds.mapM Declaration.signature <;> rfl
      rw [hmapM]
      obtain ⟨⟨t, ht, hts⟩, hdeclare⟩ | ⟨c', hdeclare, hc'⟩ := h.declare hd
      · have hrefused : ∀ ss, l.extend? (s :: ss) = none := by
          intro ss
          refine if_neg fun hdistinct => ?_
          exact (List.pairwise_append.mp hdistinct).2.2 t ht s List.mem_cons_self hts
        rw [hdeclare, Option.bind_eq_none_iff.mpr fun ss _ => hrefused ss]
        exact .none
      · have hextend : ∀ ss, l.extend? (s :: ss) =
            Ledger.extend? ⟨l.version, l.declared ++ [s]⟩ ss := by
          intro ss
          rw [Ledger.extend?, Ledger.extend?, List.append_assoc, List.singleton_append]
        rw [hdeclare, funext hextend]
        exact ih hc'

/-- A publication does to the catalog what it does to the ledger. -/
lemma Holds.publish? (h : c.Holds l) (p : Publication) :
    Option.Rel Holds (c.publish? p) (l.publish? p) := by
  have hnext : Holds { c with version := c.version + 1 } ⟨l.version + 1, l.declared⟩ :=
    ⟨congrArg (· + 1) h.version, ⟨h.indexes.perm, h.indexes.ordered, h.indexes.nextSequence⟩,
      h.distinct⟩
  cases p with
  | add ds => exact hnext.declareAll ds
  | replace ds => exact (Holds.empty (congrArg (· + 1) h.version)).declareAll ds
  | load text =>
    change Option.Rel Holds (c.load text).toOption ((CatalogFile.parse text).toOption.bind _)
    rw [load]
    cases hparse : CatalogFile.parse text with
    | error e => exact .none
    | ok ss =>
      have hnames := CatalogFile.name_ne_empty_of_parse hparse
      have hadd := hnext.declareAll (ss.map Declaration.ofSignature)
      rw [Declaration.mapM_signature_ofSignature hnames] at hadd
      change Option.Rel Holds ((c.add _).mapError _).toOption _
      rw [Except.toOption_mapError]
      exact hadd

lemma Holds.after (h : c.Holds l) (p : Publication) : (c.after p).Holds (l.after p) := by
  have hrel := h.publish? p
  rw [Catalog.after, Ledger.after]
  generalize c.publish? p = c' at hrel ⊢
  generalize l.publish? p = l' at hrel ⊢
  cases hrel with
  | some hpublished => exact hpublished
  | none => exact h

/-- A catalog holds the ledger of its publications. -/
lemma holds_foldl_after (h : c.Holds l) (calls : List Publication) :
    (calls.foldl Catalog.after c).Holds (calls.foldl Ledger.after l) := by
  induction calls generalizing c l with
  | nil => exact h
  | cons p calls ih => exact ih (h.after p)

lemma holds_published (calls : List Publication) :
    (calls.foldl Catalog.after {}).Holds (calls.foldl Ledger.after {}) :=
  holds_foldl_after (.empty rfl) calls

/-- The overloads that a catalog finds have the same name in upper case, and no two of them
clash. -/
lemma Holds.lookup_distinct (h : c.Holds l) (name : String) (arity : Nat) :
    (∀ s ∈ c.lookup name arity, Text.upper s.name = Text.upper name) ∧
      (c.lookup name arity).Pairwise fun a b => ¬ a.Clash b := by
  rw [h.indexes.lookup]
  refine ⟨fun s hs => ?_, h.distinct.sublist List.filter_sublist⟩
  have hs := (List.mem_filter.mp hs).2
  rw [Bool.and_eq_true, beq_iff_eq] at hs
  exact hs.1

/-- A catalog answers all questions as its ledger determines. -/
structure Shows (c : Catalog) (l : Ledger) : Prop where
  version : c.version = l.version
  size : c.size = l.declared.length
  lookup (name : String) (arity : Nat) : c.lookup name arity =
    l.declared.filter fun s => Text.upper s.name == Text.upper name && s.arity == arity
  overloads (name : String) (bound : Nat) (hbound : ∀ s ∈ l.declared, s.arity < bound) :
    c.overloads name = (List.range bound).flatMap (c.lookup name)
  names_ascending : c.names.Pairwise (· < ·)
  mem_names (name : String) : name ∈ c.names ↔ ∃ s ∈ l.declared, Text.upper s.name = name
  /-- A visit goes through the overloads of all names. -/
  visit_whole {ε : Type} (f : Nat → Signature → Option ε)
    (h : ∀ i s, (c.names.flatMap c.overloads)[i]? = some s → f i s = none) :
    visit f 0 c.signatures = (c.names.flatMap c.overloads, none)
  /-- It ends with the first failure. -/
  visit_until {ε : Type} (f : Nat → Signature → Option ε) (i : Nat) (s : Signature) (e : ε)
    (hi : (c.names.flatMap c.overloads)[i]? = some s) (hfails : f i s = some e)
    (hbefore : ∀ j < i, ∀ t, (c.names.flatMap c.overloads)[j]? = some t → f j t = none) :
    visit f 0 c.signatures = ((c.names.flatMap c.overloads).take (i + 1), some e)
  distinct : l.declared.Pairwise fun a b => ¬ a.Clash b

lemma Holds.shows (h : c.Holds l) : c.Shows l where
  version := h.version
  size := h.indexes.size
  lookup := h.indexes.lookup
  overloads name _ hbound := h.indexes.overloads name hbound
  names_ascending := h.indexes.names_ascending
  mem_names _ := h.indexes.mem_names
  visit_whole f hf := by
    rw [h.indexes.signatures]
    refine visit_of_forall fun i s hi => ?_
    rw [Nat.zero_add]
    exact hf i s hi
  visit_until f i s e hi hfails hbefore := by
    rw [h.indexes.signatures]
    refine visit_of_failure hi ((Nat.zero_add i).symm ▸ hfails) fun j hj t ht => ?_
    rw [Nat.zero_add]
    exact hbefore j hj t ht
  distinct := h.distinct

end Catalog

/-- After any publications, a catalog shows the ledger of those that succeeded, and the next one
succeeds for the catalog exactly if it does for the ledger. -/
theorem catalog_shows_ledger (calls : List Publication) :
    (calls.foldl Catalog.after {}).Shows (calls.foldl Ledger.after {}) ∧
      ∀ p, Option.Rel Catalog.Shows ((calls.foldl Catalog.after {}).publish? p)
        ((calls.foldl Ledger.after {}).publish? p) := by
  have hempty : Catalog.Holds {} {} := .empty rfl
  have hholds := Catalog.holds_foldl_after hempty calls
  refine ⟨hholds.shows, fun p => ?_⟩
  have hrel := hholds.publish? p
  generalize Catalog.publish? _ p = c' at hrel ⊢
  generalize Ledger.publish? _ p = l' at hrel ⊢
  cases hrel with
  | some hpublished => exact .some hpublished.shows
  | none => exact .none

end SqlTyping
