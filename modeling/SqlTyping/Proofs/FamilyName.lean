import Mathlib.Logic.Relation
import SqlTyping.Proofs.Statement.Options
import SqlTyping.Proofs.Text.Case

/-!
# Looking families up by name

A family is looked up by a text that need not be spelled like its name. Which spellings do not
matter is told by single changes of a text (`Respells`): another case of a letter, white space less
at either end, another run of white space and underscores between two words. Texts that such changes
lead from one to the other are the same name (`SameName`). They are those with the same words in
upper case (`sameName_iff`): every text can be changed into its words with single spaces between
them.

The names under which a family is found are its identifier, and its identifier with a further word
`DATA` (`ofName?_eq_some_iff`). For the families of bits this is their SQL spelling. All other
families are found under a text that is neither of their names.
-/

namespace SqlTyping

namespace Text

/-! ## Gaps between words -/

/-- Whether a character separates the words of a name. -/
def isGap (c : Char) : Bool :=
  isSpace c || c == '_'

/-- The codes of white space and of the underscore, as ranges. -/
def gapRanges : List (Nat × Nat) :=
  [(9, 13), (0x20, 0x20), (0x5F, 0x5F), (0x85, 0x85), (0xA0, 0xA0), (0x1680, 0x1680),
    (0x2000, 0x200A), (0x2028, 0x2029), (0x202F, 0x202F), (0x205F, 0x205F), (0x3000, 0x3000)]

lemma isGap_iff {c : Char} :
    isGap c = true ↔ ∃ g ∈ gapRanges, g.1 ≤ c.toNat ∧ c.toNat ≤ g.2 := by
  have hunderscore : c = '_' ↔ c.toNat = 0x5F := Char.toNat_inj.symm
  simp [isGap, isSpace, gapRanges, hunderscore]
  omega

/-- No letter is moved to or from a gap in upper case. -/
lemma upperTable_avoids_gaps : (upperTable.all.all fun r => gapRanges.all fun g =>
    (r.last.blt g.1 || g.2.blt r.first) &&
      ((r.target r.last).blt g.1 || g.2.blt (r.target r.first))) = true := by
  decide +kernel

/-- A character that has another upper case is no gap, and neither is its upper case. -/
lemma isGap_of_upperChar_ne {c : Char} (h : upperChar c ≠ c) :
    isGap c = false ∧ isGap (upperChar c) = false := by
  have hcode : (upperChar c).toNat = moveBy upperTable.all c.toNat := upperTable.toNat_move c
  rcases moveBy_cases upperTable.all c.toNat with hsame | ⟨r, hr, hcovers, hmoved⟩
  · exact absurd (Char.toNat_inj.mp (hcode.trans hsame)) h
  obtain ⟨hfirst, hlast, -⟩ := CaseRun.covers_iff.mp hcovers
  have hlow := r.target_mono hfirst
  have hhigh := r.target_mono hlast
  have hcheck : ∀ g ∈ gapRanges, (r.last < g.1 ∨ g.2 < r.first) ∧
      (r.target r.last < g.1 ∨ g.2 < r.target r.first) := by
    intro g hg
    have hcheck := List.all_eq_true.mp (List.all_eq_true.mp upperTable_avoids_gaps r hr) g hg
    simpa using hcheck
  constructor
  · rw [← Bool.not_eq_true, isGap_iff]
    rintro ⟨g, hg, hbelow, habove⟩
    have := (hcheck g hg).1
    omega
  · rw [← Bool.not_eq_true, isGap_iff, hcode, hmoved]
    rintro ⟨g, hg, hbelow, habove⟩
    have := (hcheck g hg).2
    omega

@[simp] lemma isGap_upperChar (c : Char) : isGap (upperChar c) = isGap c := by
  by_cases h : upperChar c = c
  · rw [h]
  · obtain ⟨hc, hupper⟩ := isGap_of_upperChar_ne h
    rw [hc, hupper]

/-! ## Words of a name -/

/-- The words of a name in upper case. -/
def nameWords (cs : List Char) : List (List Char) :=
  (splitAtAll isGap (cs.map upperChar)).filter fun word => !word.isEmpty

lemma of_mem_nameWords {cs word : List Char} (h : word ∈ nameWords cs) :
    word ≠ [] ∧ ∀ c ∈ word, isGap c = false := by
  obtain ⟨hpiece, hne⟩ := List.mem_filter.mp h
  exact ⟨by simpa using hne, fun c hc => (mem_of_mem_splitAtAll hpiece hc).2⟩

section

variable {c : Char} {gap : List Char}

/-- A gap separates the words in front of it from those behind it. -/
lemma nameWords_append_cons (hc : isGap c = true) (cs ds : List Char) :
    nameWords (cs ++ c :: ds) = nameWords cs ++ nameWords ds := by
  have hupper : isGap (upperChar c) = true := by rwa [isGap_upperChar]
  rw [nameWords, List.map_append, List.map_cons, splitAtAll_append_separator hupper,
    List.filter_append]
  rfl

lemma nameWords_gap_append (hgap : ∀ c ∈ gap, isGap c = true) (cs : List Char) :
    nameWords (gap ++ cs) = nameWords cs := by
  induction gap with
  | nil => rfl
  | cons c gap ih =>
    rw [List.forall_mem_cons] at hgap
    rw [List.cons_append, ← ih hgap.2]
    exact nameWords_append_cons hgap.1 [] _

/-- A run of gaps does the same as a single one. -/
lemma nameWords_append_gap_append (hne : gap ≠ []) (hgap : ∀ c ∈ gap, isGap c = true)
    (cs ds : List Char) : nameWords (cs ++ gap ++ ds) = nameWords cs ++ nameWords ds := by
  obtain ⟨c, gap, rfl⟩ := List.exists_cons_of_ne_nil hne
  rw [List.forall_mem_cons] at hgap
  rw [List.append_assoc, List.cons_append, nameWords_append_cons hgap.1,
    nameWords_gap_append hgap.2]

lemma nameWords_append_gap (hgap : ∀ c ∈ gap, isGap c = true) (cs : List Char) :
    nameWords (cs ++ gap) = nameWords cs := by
  rcases eq_or_ne gap [] with rfl | hne
  · rw [List.append_nil]
  · rw [← List.append_nil (cs ++ gap), nameWords_append_gap_append hne hgap]
    exact List.append_nil _

end

lemma isGap_of_isSpace {c : Char} (h : isSpace c = true) : isGap c = true := by
  rw [isGap, h, Bool.true_or]

lemma isGap_space : isGap ' ' = true := by
  decide

lemma nameWords_trimList (cs : List Char) : nameWords (trimList cs) = nameWords cs := by
  obtain ⟨before, after, hspace, hcs⟩ := exists_eq_append_trimList cs
  rw [List.forall_mem_append] at hspace
  conv_rhs => rw [hcs]
  rw [nameWords_append_gap fun c hc => isGap_of_isSpace (hspace.2 c hc),
    nameWords_gap_append fun c hc => isGap_of_isSpace (hspace.1 c hc)]

/-- The words of a name are found again between single spaces. -/
lemma filter_splitAtAll_intercalate_nameWords (cs : List Char) :
    (splitAtAll isGap ([' '].intercalate (nameWords cs))).filter (fun word => !word.isEmpty) =
      nameWords cs := by
  have hwords : ∀ word ∈ nameWords cs, word ≠ [] ∧ ∀ c ∈ word, isGap c = false :=
    fun word hword => of_mem_nameWords hword
  cases hcs : nameWords cs with
  | nil => rfl
  | cons first others =>
    rw [hcs] at hwords
    rw [splitAtAll_intercalate (p := isGap) (x := ' ') isGap_space fun word hword =>
      (hwords word hword).2]
    exact List.filter_eq_self.mpr fun word hword => by simpa using (hwords word hword).1

/-! ## Texts that are the same name -/

/-- A change of a text that does not change which name it is. -/
inductive Respells : List Char → List Char → Prop where
  /-- A character is written in another case. -/
  | letter (cs ds : List Char) {c d : Char} (h : upperChar c = upperChar d) :
      Respells (cs ++ c :: ds) (cs ++ d :: ds)
  /-- White space in front is dropped. -/
  | front {c : Char} (hc : isSpace c = true) (cs : List Char) : Respells (c :: cs) cs
  /-- White space behind is dropped. -/
  | back {c : Char} (hc : isSpace c = true) (cs : List Char) : Respells (cs ++ [c]) cs
  /-- A run of white space and underscores takes the place of another. -/
  | gap (cs ds : List Char) {old new : List Char} (hold : old ≠ []) (hnew : new ≠ [])
      (hgaps : ∀ c ∈ old ++ new, isGap c = true) : Respells (cs ++ old ++ ds) (cs ++ new ++ ds)

/-- Whether two texts differ in nothing but case, surrounding white space, and the white space and
underscores between words. -/
def SameName (s t : String) : Prop :=
  Relation.EqvGen Respells s.toList t.toList

lemma Respells.nameWords_eq {cs ds : List Char} (h : Respells cs ds) :
    nameWords cs = nameWords ds := by
  cases h with
  | letter cs ds h => rw [nameWords, nameWords, List.map_append, List.map_append, List.map_cons,
      List.map_cons, h]
  | front hc => exact nameWords_append_cons (isGap_of_isSpace hc) [] ds
  | back hc => exact nameWords_append_gap (by simpa using isGap_of_isSpace hc) ds
  | gap cs ds hold hnew hgaps =>
    rw [List.forall_mem_append] at hgaps
    rw [nameWords_append_gap_append hold hgaps.1, nameWords_append_gap_append hnew hgaps.2]

/-- Changing single characters: gaps become spaces, and all else is put in upper case. -/
lemma eqvGen_respells_map (before cs : List Char) :
    Relation.EqvGen Respells (before ++ cs)
      (before ++ cs.map fun c => if isGap c then ' ' else upperChar c) := by
  induction cs generalizing before with
  | nil => exact .refl _
  | cons c cs ih =>
    have hrest := ih (before ++ [if isGap c then ' ' else upperChar c])
    rw [List.append_assoc, List.append_assoc, List.singleton_append] at hrest
    refine .trans _ _ _ (.rel _ _ ?_) hrest
    by_cases hc : isGap c = true
    · have hgaps : ∀ d ∈ [c] ++ [' '], isGap d = true := by simp [hc, isGap_space]
      rw [if_pos hc]
      simpa using Respells.gap before cs (List.cons_ne_nil _ _) (List.cons_ne_nil _ _) hgaps
    · rw [if_neg hc]
      exact .letter before cs (upperChar_upperChar c).symm

/-- Empty pieces between spaces are dropped. -/
lemma eqvGen_respells_pieces (before : List Char) (pieces : List (List Char)) :
    Relation.EqvGen Respells (before ++ (pieces.flatMap (' ' :: ·) ++ [' ']))
      (before ++ ((pieces.filter fun word => !word.isEmpty).flatMap (' ' :: ·) ++ [' '])) := by
  induction pieces generalizing before with
  | nil => exact .refl _
  | cons piece pieces ih =>
    cases piece with
    | nil =>
      -- a space follows the one that is dropped, that of the next piece or the last one
      obtain ⟨rest, hrest⟩ : ∃ rest, pieces.flatMap (' ' :: ·) ++ [' '] = ' ' :: rest := by
        cases pieces <;> exact ⟨_, rfl⟩
      refine .trans _ _ _ (.rel _ _ ?_) (ih before)
      rw [List.flatMap_cons, List.append_assoc, hrest]
      have hgaps : ∀ d ∈ [' ', ' '] ++ [' '], isGap d = true := by simp [isGap_space]
      simpa using Respells.gap before rest (List.cons_ne_nil _ _) (List.cons_ne_nil _ _) hgaps
    | cons c piece =>
      rw [List.filter_cons_of_pos rfl, List.flatMap_cons, List.flatMap_cons]
      simpa using ih (before ++ ' ' :: c :: piece)

lemma space_cons_intercalate (first : List Char) (others : List (List Char)) :
    ' ' :: [' '].intercalate (first :: others) = (first :: others).flatMap (' ' :: ·) := by
  induction others generalizing first with
  | nil => simp
  | cons second others ih =>
    rw [List.intercalate_cons_cons, List.flatMap_cons, ← ih]
    simp

/-- With its gaps as spaces and all else in upper case, a text has a space in front of each of its
pieces once it has one in front. -/
lemma space_cons_map (cs : List Char) :
    ' ' :: cs.map (fun c => if isGap c then ' ' else upperChar c) =
      (splitAtAll isGap (cs.map upperChar)).flatMap (' ' :: ·) := by
  have hpieces : splitAtAll isGap (cs.map upperChar) =
      splitAtAll (· = ' ') (cs.map fun c => if isGap c then ' ' else upperChar c) := by
    refine splitAtAll_map_congr (fun c => ?_) (fun c hc => ?_) cs
    · by_cases hc : isGap c = true
      · simp [hc]
      · have hne : upperChar c ≠ ' ' := by
          intro h
          rw [← isGap_upperChar, h] at hc
          exact hc isGap_space
        simp [hc, hne]
    · rw [isGap_upperChar] at hc
      simp [hc]
  obtain ⟨first, others, hsplit⟩ := exists_splitAtAll_eq_cons (· = ' ')
    (cs.map fun c => if isGap c then ' ' else upperChar c)
  rw [hpieces, hsplit, ← space_cons_intercalate, ← hsplit, intercalate_splitAtAll]

/-- Every text is the same name as its words with spaces around them. -/
lemma eqvGen_respells_nameWords (cs : List Char) :
    Relation.EqvGen Respells cs ((nameWords cs).flatMap (' ' :: ·) ++ [' ']) := by
  have hspace : isSpace ' ' = true := by decide
  have hfront : Relation.EqvGen Respells cs (' ' :: cs) := .symm _ _ (.rel _ _ (.front hspace cs))
  have hback : Relation.EqvGen Respells (' ' :: cs) ([' '] ++ (cs ++ [' '])) :=
    .symm _ _ (.rel _ _ (.back hspace (' ' :: cs)))
  have hmap := eqvGen_respells_map [' '] (cs ++ [' '])
  rw [List.map_append, List.map_singleton, if_pos isGap_space, ← List.append_assoc [' '] (cs.map _),
    List.singleton_append, List.singleton_append, space_cons_map] at hmap
  exact .trans _ _ _ (.trans _ _ _ hfront hback)
    (.trans _ _ _ hmap (eqvGen_respells_pieces [] (splitAtAll isGap (cs.map upperChar))))

lemma nameWords_eq_of_eqvGen {cs ds : List Char} (h : Relation.EqvGen Respells cs ds) :
    nameWords cs = nameWords ds := by
  induction h with
  | rel _ _ h => exact h.nameWords_eq
  | refl => rfl
  | symm _ _ _ ih => exact ih.symm
  | trans _ _ _ _ _ ihs iht => exact ihs.trans iht

/-- Two texts are the same name if they have the same words in upper case. -/
lemma sameName_iff {s t : String} : SameName s t ↔ nameWords s.toList = nameWords t.toList := by
  constructor
  · exact nameWords_eq_of_eqvGen
  · intro h
    have ht := eqvGen_respells_nameWords t.toList
    rw [← h] at ht
    exact .trans _ _ _ (eqvGen_respells_nameWords s.toList) (.symm _ _ ht)

instance (s t : String) : Decidable (SameName s t) :=
  decidable_of_iff _ sameName_iff.symm

end Text

namespace Family

open Text

/-! ## Names of families -/

/-- Whether the SQL spelling of a family has a word more than its identifier. -/
def IsForBit (f : Family) : Prop :=
  f ∈ [charForBit, varcharForBit, longVarcharForBit]

instance : DecidablePred IsForBit :=
  fun f => inferInstanceAs (Decidable (f ∈ _))

/-- The words of a name with single spaces between them. -/
def joinedName (name : String) : List Char :=
  [' '].intercalate (nameWords name.toList)

lemma joinedName_inj {s t : String} : joinedName s = joinedName t ↔ SameName s t := by
  rw [sameName_iff]
  constructor
  · intro h
    rw [← filter_splitAtAll_intercalate_nameWords, ← joinedName, h, joinedName,
      filter_splitAtAll_intercalate_nameWords]
  · intro h
    rw [joinedName, h, joinedName]

lemma isSpace_of_underscore (c : Char) : isSpace (if c = '_' then ' ' else c) = isGap c := by
  by_cases hc : c = '_'
  · subst hc
    decide
  · simp [hc, isGap]

/-- The normal form of a name is its words with single spaces between them, up to a last word
`DATA` that is not the only one. -/
lemma normalName_eq (name : String) : normalName name =
    if " DATA".toList.isSuffixOf (joinedName name) then
      (joinedName name).take ((joinedName name).length - 5)
    else joinedName name := by
  have hwords : wordList (((trimList name.toList).map upperChar).map
      fun c => if c = '_' then ' ' else c) = nameWords name.toList := by
    rw [← nameWords_trimList, wordList, nameWords, List.map_map]
    congr 1
    refine splitAtAll_map_congr (fun c => isSpace_of_underscore _) (fun c hc => ?_) _
    change isSpace (if upperChar c = '_' then ' ' else upperChar c) = false at hc
    rw [isSpace_of_underscore, isGap, Bool.or_eq_false_iff] at hc
    exact if_neg (by simpa using hc.2)
  simp only [normalName, hwords]
  rfl

lemma normalName_sqlName (f : Family) : normalName f.sqlName = normalName f.name := by
  revert f
  decide +kernel

lemma ofName?_eq_some_iff_normalName {s : String} {f : Family} :
    ofName? s = some f ↔ normalName s = normalName f.name := by
  constructor
  · intro h
    have hfound := List.find?_some h
    rw [normalName_sqlName, Bool.or_self, beq_iff_eq] at hfound
    exact hfound.symm
  · intro h
    rw [← ofName?_name f, ofName?, h, ofName?]

/-- The identifiers do not end in a word `DATA`, and with such a word behind them they have the same
normal form. -/
lemma normalName_name (f : Family) : normalName f.name = joinedName f.name ∧
    normalName (f.name ++ " DATA") = joinedName f.name ∧
    joinedName (f.name ++ " DATA") = joinedName f.name ++ " DATA".toList := by
  revert f
  decide +kernel

lemma normalName_congr {s t : String} (h : SameName s t) : normalName s = normalName t := by
  rw [normalName_eq, joinedName_inj.mpr h, ← normalName_eq]

lemma ofName?_eq_some_iff {s : String} {f : Family} :
    ofName? s = some f ↔ SameName s f.name ∨ SameName s (f.name ++ " DATA") := by
  obtain ⟨hname, hdata, hjoined⟩ := normalName_name f
  rw [ofName?_eq_some_iff_normalName, hname]
  constructor
  · intro h
    rw [normalName_eq] at h
    split at h
    next hsuffix =>
      right
      obtain ⟨front, hfront⟩ := List.isSuffixOf_iff_suffix.mp hsuffix
      rw [← joinedName_inj, hjoined, ← h, ← hfront]
      simp
    next => exact .inl (joinedName_inj.mp h)
  · rintro (h | h)
    · rw [normalName_congr h, hname]
    · rw [normalName_congr h, hdata]

/-- The SQL spelling is the identifier, with the word `DATA` behind it for the families of bits. -/
lemma sameName_sqlName (f : Family) :
    SameName f.sqlName (if f.IsForBit then f.name ++ " DATA" else f.name) := by
  revert f
  decide +kernel

lemma sameName_sqlName_iff {s : String} {f : Family} : SameName s f.sqlName ↔
    SameName s (if f.IsForBit then f.name ++ " DATA" else f.name) := by
  rw [sameName_iff, sameName_iff, sameName_iff.mp (sameName_sqlName f)]

lemma not_sameName_of_sameName_data {s : String} {f : Family}
    (h : SameName s (f.name ++ " DATA")) : ¬ SameName s f.name := by
  rw [← joinedName_inj] at h ⊢
  rw [h, (normalName_name f).2.2]
  simp

/-- A text finds exactly the family that it names by its identifier, or by its identifier and the
word `DATA`. These are the family's identifier and SQL spelling but for texts with the word `DATA`
behind the identifier of a family that is not one of bits. -/
theorem lookup_finds_names (s : String) :
    (∀ f, ofName? s = some f ↔ SameName s f.name ∨ SameName s (f.name ++ " DATA")) ∧
    (ofName? s = none ↔ ∀ f : Family, ¬ SameName s f.name ∧ ¬ SameName s (f.name ++ " DATA")) ∧
    (∀ f, (ofName? s = some f ↔ SameName s f.name ∨ SameName s f.sqlName) ↔
      ¬ (SameName s (f.name ++ " DATA") ∧ ¬ f.IsForBit)) := by
  refine ⟨fun f => ofName?_eq_some_iff, ?_, fun f => ?_⟩
  · rw [Option.eq_none_iff_forall_ne_some]
    exact forall_congr' fun f => by rw [ne_eq, ofName?_eq_some_iff, not_or]
  · rw [ofName?_eq_some_iff, sameName_sqlName_iff]
    by_cases hbit : f.IsForBit
    · simp [hbit]
    · rw [if_neg hbit]
      have hother : SameName s (f.name ++ " DATA") → ¬ SameName s f.name :=
        not_sameName_of_sameName_data
      tauto

/-- A text that is neither the identifier nor the SQL spelling of the family it finds. -/
theorem lookup_finds_integer_data : ofName? "INTEGER DATA" = some .integer ∧
    ¬ (SameName "INTEGER DATA" integer.name ∨ SameName "INTEGER DATA" integer.sqlName) := by
  decide +kernel

end Family

end SqlTyping
