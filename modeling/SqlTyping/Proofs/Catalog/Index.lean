import Mathlib.Data.Prod.Lex
import Mathlib.Data.String.Basic
import SqlTyping.Catalog
import SqlTyping.Proofs.List
import SqlTyping.Proofs.Text.Case

/-!
# The index of a catalog

The index of a catalog holds what was declared (`Catalog.Indexes`): for every declared signature an
entry with the position of its declaration, in the order of the index. All questions to a catalog
are answered from the list of declarations. A lookup is a scan over a part of the index; as the
index is ordered, the scan finds all entries of its bin, and it finds them in the order of their
declaration.
-/

namespace SqlTyping

/-! ## Entries -/

namespace CatalogEntry

/-- The part of the index in which an entry stands. -/
def bin (e : CatalogEntry) : String ×ₗ Nat :=
  toLex (e.key, e.arity)

variable {a b e : CatalogEntry}

lemma bin_le_iff : a.bin ≤ b.bin ↔ a.key < b.key ∨ a.key = b.key ∧ a.arity ≤ b.arity :=
  Prod.Lex.le_iff

lemma bin_eq_iff : a.bin = b.bin ↔ a.key = b.key ∧ a.arity = b.arity := by
  simp [bin]

/-- Within a bin, entries are ordered by their declaration. -/
lemma before_iff :
    a.before b = true ↔ a.bin < b.bin ∨ a.bin = b.bin ∧ a.sequence < b.sequence := by
  rw [bin_eq_iff, bin, bin, Prod.Lex.toLex_lt_toLex, before]
  split_ifs with hkey harity
  · simp [hkey]
  · have hkey := not_not.mp hkey
    simp [hkey, harity]
  · have hkey := not_not.mp hkey
    have harity := not_not.mp harity
    simp [hkey, harity]

lemma bin_le_of_before (h : a.before b = true) : a.bin ≤ b.bin := by
  obtain hlt | ⟨heq, -⟩ := before_iff.mp h
  · exact hlt.le
  · exact heq.le

lemma before_trans (hab : a.before b = true) (hbe : b.before e = true) : a.before e = true := by
  rw [before_iff] at *
  obtain hab | ⟨hab, hab'⟩ := hab <;> obtain hbe | ⟨hbe, hbe'⟩ := hbe
  · exact .inl (hab.trans hbe)
  · exact .inl (hbe ▸ hab)
  · exact .inl (hab ▸ hbe)
  · exact .inr ⟨hab.trans hbe, hab'.trans hbe'⟩

lemma before_asymm (hab : a.before b = true) (hba : b.before a = true) : False := by
  have haa := before_iff.mp (before_trans hab hba)
  simp at haa

/-- An entry stands after the earlier entries of its bin, and otherwise where its bin is. -/
lemma before_of_not_before (hnew : a.sequence < e.sequence) (h : ¬ a.before e = true) :
    e.before a = true := by
  rw [before_iff, not_or, not_lt] at h
  refine before_iff.mpr (.inl (lt_of_le_of_ne h.1 fun heq => h.2 ⟨heq.symm, hnew⟩))

end CatalogEntry

namespace Catalog

lemma insertEntry_perm (e : CatalogEntry) (es : List CatalogEntry) :
    (insertEntry e es).Perm (e :: es) := by
  induction es with
  | nil => exact .refl _
  | cons f es ih =>
    rw [insertEntry]
    split
    · exact (ih.cons f).trans (.swap e f es)
    · exact .refl _

/-- The index stays ordered when the latest declaration is filed. -/
lemma pairwise_insertEntry {e : CatalogEntry} {es : List CatalogEntry}
    (hes : es.Pairwise (·.before ·)) (hnew : ∀ f ∈ es, f.sequence < e.sequence) :
    (insertEntry e es).Pairwise (·.before ·) := by
  induction es with
  | nil => exact List.pairwise_singleton _ e
  | cons f es ih =>
    rw [List.forall_mem_cons] at hnew
    rw [insertEntry]
    split
    · next hfe =>
      refine List.pairwise_cons.mpr ⟨fun g hg => ?_, ih hes.of_cons hnew.2⟩
      obtain rfl | hg := List.mem_cons.mp ((insertEntry_perm e es).mem_iff.mp hg)
      · exact hfe
      · exact List.rel_of_pairwise_cons hes hg
    · next hfe =>
      have hef := CatalogEntry.before_of_not_before hnew.1 hfe
      refine List.pairwise_cons.mpr ⟨List.forall_mem_cons.mpr ⟨hef, fun g hg => ?_⟩, hes⟩
      exact CatalogEntry.before_trans hef (List.rel_of_pairwise_cons hes hg)

/-! ## Visits -/

section Visits

variable {ε : Type} {f : Nat → Signature → Option ε} {count : Nat} {xs : List Signature}

/-- A visit without failures visits all signatures. -/
lemma visit_of_forall (h : ∀ i s, xs[i]? = some s → f (count + i) s = none) :
    visit f count xs = (xs, none) := by
  induction xs generalizing count with
  | nil => rfl
  | cons s xs ih =>
    have hfirst : f count s = none := h 0 s rfl
    have hrest : visit f (count + 1) xs = (xs, none) := by
      refine ih fun i t ht => ?_
      rw [Nat.add_assoc, Nat.add_comm 1 i]
      exact h (i + 1) t ht
    rw [visit, hfirst, hrest]

/-- A visit ends with the first signature at which it fails. -/
lemma visit_of_failure {i : Nat} {s : Signature} {e : ε} (hi : xs[i]? = some s)
    (hfails : f (count + i) s = some e)
    (hbefore : ∀ j < i, ∀ t, xs[j]? = some t → f (count + j) t = none) :
    visit f count xs = (xs.take (i + 1), some e) := by
  induction xs generalizing count i with
  | nil => cases hi
  | cons t xs ih =>
    cases i with
    | zero =>
      cases hi
      rw [Nat.add_zero] at hfails
      rw [visit, hfails]
      rfl
    | succ i =>
      have hfirst : f count t = none := hbefore 0 (Nat.succ_pos i) t rfl
      have hrest : visit f (count + 1) xs = (xs.take (i + 1), some e) := by
        refine ih hi ?_ fun j hj u hu => ?_
        · rwa [Nat.add_assoc, Nat.add_comm 1 i]
        · rw [Nat.add_assoc, Nat.add_comm 1 j]
          exact hbefore (j + 1) (Nat.succ_lt_succ hj) u hu
      rw [visit, hfirst, hrest]
      rfl

end Visits

/-! ## What a catalog indexes -/

/-- The entries of signatures in the order of their declaration. -/
def entriesOf (declared : List Signature) : List CatalogEntry :=
  declared.zipIdx.map fun (s, i) => entryOf s i

lemma entriesOf_append_singleton (declared : List Signature) (s : Signature) :
    entriesOf (declared ++ [s]) = entriesOf declared ++ [entryOf s declared.length] := by
  simp [entriesOf, List.zipIdx_append]

lemma sequence_lt_of_mem_entriesOf {declared : List Signature} {e : CatalogEntry}
    (he : e ∈ entriesOf declared) : e.sequence < declared.length := by
  obtain ⟨⟨s, i⟩, hs, rfl⟩ := List.mem_map.mp he
  exact List.snd_lt_of_mem_zipIdx hs

lemma pairwise_sequence_entriesOf (declared : List Signature) :
    (entriesOf declared).Pairwise fun a b => a.sequence < b.sequence := by
  have hindices : (declared.zipIdx.map (·.2)).Pairwise (· < ·) := by
    rw [List.zipIdx_map_snd]
    exact List.pairwise_lt_range'
  rw [entriesOf, List.pairwise_map]
  exact List.pairwise_map.mp hindices

/-- The declared signatures of the entries with a property. -/
lemma filter_entriesOf (declared : List Signature) {p : CatalogEntry → Bool}
    {q : Signature → Bool} (h : ∀ s i, p (entryOf s i) = q s) :
    ((entriesOf declared).filter p).map (·.signature) = declared.filter q := by
  conv_rhs => rw [← List.zipIdx_map_fst 0 declared]
  rw [entriesOf, List.filter_map, List.filter_map, List.map_map]
  congr 1
  exact List.filter_congr fun ⟨s, i⟩ _ => h s i

/-- A catalog indexes the signatures that were declared, in the order of their declaration. -/
structure Indexes (c : Catalog) (declared : List Signature) : Prop where
  perm : c.entries.Perm (entriesOf declared)
  ordered : c.entries.Pairwise (·.before ·)
  nextSequence : c.nextSequence = declared.length

namespace Indexes

variable {c : Catalog} {declared : List Signature}

lemma empty (version : Nat) : Indexes { version } [] where
  perm := .refl _
  ordered := .nil
  nextSequence := rfl

/-- Filing the entry of a further signature. -/
lemma insert (h : c.Indexes declared) (s : Signature) (version : Nat) :
    Indexes ⟨insertEntry (entryOf s c.nextSequence) c.entries, version, c.nextSequence + 1⟩
      (declared ++ [s]) where
  perm := by
    rw [entriesOf_append_singleton, h.nextSequence]
    exact (insertEntry_perm _ _).trans
      ((h.perm.cons _).trans (List.perm_append_singleton _ _).symm)
  ordered := by
    refine pairwise_insertEntry h.ordered fun f hf => ?_
    change f.sequence < c.nextSequence
    rw [h.nextSequence]
    exact sequence_lt_of_mem_entriesOf (h.perm.mem_iff.mp hf)
  nextSequence := by
    rw [List.length_append, h.nextSequence]
    rfl

lemma signatures_perm (h : c.Indexes declared) : c.signatures.Perm declared := by
  have hall := filter_entriesOf declared (p := fun _ => true) (q := fun _ => true) fun _ _ => rfl
  rw [List.filter_true, List.filter_true] at hall
  exact hall ▸ h.perm.map _

lemma size (h : c.Indexes declared) : c.size = declared.length := by
  rw [← h.signatures_perm.length_eq, Catalog.signatures, List.length_map, Catalog.size]

lemma ordered_bin (h : c.Indexes declared) : c.entries.Pairwise fun a b => a.bin ≤ b.bin :=
  h.ordered.imp CatalogEntry.bin_le_of_before

lemma ordered_key (h : c.Indexes declared) : c.entries.Pairwise fun a b => a.key ≤ b.key := by
  refine h.ordered_bin.imp fun hle => ?_
  obtain hlt | ⟨heq, -⟩ := CatalogEntry.bin_le_iff.mp hle
  · exact hlt.le
  · exact heq.le

/-- Within a bin, the order of the index is the order of declaration. -/
lemma filter_bin (h : c.Indexes declared) (k : String ×ₗ Nat) :
    c.entries.filter (·.bin == k) = (entriesOf declared).filter (·.bin == k) := by
  refine (h.perm.filter _).eq_of_pairwise
    (fun a b _ _ hab hba => (CatalogEntry.before_asymm hab hba).elim) (h.ordered.filter _) ?_
  refine ((pairwise_sequence_entriesOf declared).filter _).imp_of_mem fun ha hb hab => ?_
  have ha := beq_iff_eq.mp (List.mem_filter.mp ha).2
  have hb := beq_iff_eq.mp (List.mem_filter.mp hb).2
  exact CatalogEntry.before_iff.mpr (.inr ⟨ha.trans hb.symm, hab⟩)

/-! ### Questions to a catalog -/

lemma lookup_eq_filter_entries (h : c.Indexes declared) (name : String) (arity : Nat) :
    c.lookup name arity =
      (c.entries.filter (·.bin == toLex (foldName name, arity))).map (·.signature) := by
  rw [lookup]
  congr 1
  rw [List.scan_eq_filter CatalogEntry.bin (toLex (foldName name, arity)) h.ordered_bin]
  · refine List.filter_congr fun e _ => ?_
    rw [Bool.eq_iff_iff]
    simp [CatalogEntry.bin]
  · intro e
    simp [CatalogEntry.before_iff, CatalogEntry.bin]
  · intro e
    simp [CatalogEntry.bin]

/-- A lookup finds the declared signatures of its name and number of parameters. -/
lemma lookup (h : c.Indexes declared) (name : String) (arity : Nat) :
    c.lookup name arity =
      declared.filter fun s => Text.upper s.name == Text.upper name && s.arity == arity := by
  rw [h.lookup_eq_filter_entries, h.filter_bin]
  refine filter_entriesOf declared fun s i => ?_
  rw [Bool.eq_iff_iff]
  simp [CatalogEntry.bin, entryOf, foldName]

lemma overloads_eq_filter_entries (h : c.Indexes declared) (name : String) :
    c.overloads name = (c.entries.filter (·.key == foldName name)).map (·.signature) := by
  rw [overloads]
  congr 1
  rw [List.scan_eq_filter CatalogEntry.key (foldName name) h.ordered_key]
  · intro e
    simp [CatalogEntry.before_iff, CatalogEntry.bin, Prod.Lex.toLex_lt_toLex]
  · intro e
    simp

/-- The overloads of a name are its lookups, by ascending number of parameters. -/
lemma overloads (h : c.Indexes declared) (name : String) {bound : Nat}
    (hbound : ∀ s ∈ declared, s.arity < bound) :
    c.overloads name = (List.range bound).flatMap (c.lookup name) := by
  have hordered : (c.entries.filter (·.key == foldName name)).Pairwise
      fun a b => a.arity ≤ b.arity := by
    refine (h.ordered_bin.filter _).imp_of_mem fun ha hb hle => ?_
    have ha := beq_iff_eq.mp (List.mem_filter.mp ha).2
    have hb := beq_iff_eq.mp (List.mem_filter.mp hb).2
    obtain hlt | ⟨-, hle⟩ := CatalogEntry.bin_le_iff.mp hle
    · exact absurd (ha.trans hb.symm) hlt.ne
    · exact hle
  have hmem : ∀ e ∈ c.entries.filter (·.key == foldName name), e.arity ∈ List.range bound := by
    intro e he
    have he := h.perm.mem_iff.mp (List.mem_of_mem_filter he)
    obtain ⟨⟨s, i⟩, hs, rfl⟩ := List.mem_map.mp he
    exact List.mem_range.mpr (hbound s (List.fst_mem_of_mem_zipIdx hs))
  rw [h.overloads_eq_filter_entries,
    ← List.flatMap_filter_eq CatalogEntry.arity hordered List.pairwise_lt_range hmem,
    List.map_flatMap]
  refine List.flatMap_congr fun arity _ => ?_
  rw [h.lookup_eq_filter_entries, List.filter_filter]
  congr 1
  refine List.filter_congr fun e _ => ?_
  rw [Bool.eq_iff_iff]
  simp [CatalogEntry.bin, and_comm]

lemma names_ascending (h : c.Indexes declared) : c.names.Pairwise (· < ·) :=
  List.pairwise_lt_eraseReps (List.pairwise_map.mpr h.ordered_key)

lemma mem_names (h : c.Indexes declared) {name : String} :
    name ∈ c.names ↔ ∃ s ∈ declared, Text.upper s.name = name := by
  rw [names, List.mem_eraseReps, (h.perm.map _).mem_iff, entriesOf, List.map_map]
  have hkeys : declared.zipIdx.map ((·.key) ∘ fun (s, i) => entryOf s i) =
      declared.map fun s => Text.upper s.name := by
    conv_rhs => rw [← List.zipIdx_map_fst 0 declared, List.map_map]
    rfl
  rw [hkeys, List.mem_map]

/-- The signatures of the index are the overloads of its names. -/
lemma signatures (h : c.Indexes declared) : c.signatures = c.names.flatMap c.overloads := by
  have hmem : ∀ e ∈ c.entries, e.key ∈ c.names := fun e he =>
    List.mem_eraseReps.mpr (List.mem_map_of_mem he)
  rw [Catalog.signatures,
    ← List.flatMap_filter_eq CatalogEntry.key h.ordered_key h.names_ascending hmem,
    List.map_flatMap]
  refine List.flatMap_congr fun name hname => ?_
  obtain ⟨s, -, rfl⟩ := h.mem_names.mp hname
  rw [h.overloads_eq_filter_entries, foldName, Text.upper_upper]

end Indexes

end Catalog

end SqlTyping
