import Mathlib.Data.List.Forall2
import SqlTyping.Proofs.TypeName.Readers

/-!
# Accepted type names

The reader of type names accepts exactly the texts that the grammar allows, and reads each of them
as the type that it denotes (`read_eq_ok_iff`). The first words of a name decide which reader comes
next, and several names share their first word, so the tables of names are gone through here.
-/

namespace SqlTyping.TypeName

/-! ## Readers of names -/

section Names

variable {t : SqlType} {ts us : List Token} {nullable : Bool}

lemma readNullable_plainNames {ws : List String} {f : Family} (h : (ws, f) ∈ plainNames)
    (nullable : Bool) :
    readNullable (phrase ws ++ nullabilityTokens nullable) =
      .ok (SqlType.fixed f, nullabilityTokens nullable) := by
  have table : ∀ p ∈ plainNames, ∀ b : Bool,
      (readNullable (phrase p.1 ++ nullabilityTokens b)).toOption =
        some (SqlType.fixed p.2, nullabilityTokens b) := by
    decide
  exact Except.eq_ok_of_toOption (table _ h nullable)

lemma readNullable_decimalNames {ws : List String} (h : ws ∈ decimalNames) (ts : List Token) :
    readNullable (phrase ws ++ ts) = readDecimal ts := by
  simp only [decimalNames, List.mem_cons, List.not_mem_nil, or_false] at h
  rcases h with rfl | rfl | rfl <;> rfl

lemma readNullable_characterNames {ws : List String} (h : ws ∈ characterNames) (ts : List Token) :
    readNullable (phrase ws ++ ts) = readCharacter ts := by
  simp only [characterNames, List.mem_cons, List.not_mem_nil, or_false] at h
  rcases h with rfl | rfl <;> rfl

lemma readNullable_varcharNames {ws : List String} (h : ws ∈ varcharNames) (ts : List Token) :
    readNullable (phrase ws ++ ts) = readVarchar ts := by
  simp only [varcharNames, List.mem_cons, List.not_mem_nil, or_false] at h
  rcases h with rfl | rfl | rfl <;> rfl

lemma readNullable_largeObjectNames {ws : List String} {f : Family}
    (h : (ws, f) ∈ largeObjectNames) (ts : List Token) :
    readNullable (phrase ws ++ ts) = readLargeObject f ts := by
  simp only [largeObjectNames, List.mem_cons, List.not_mem_nil, or_false, Prod.mk.injEq] at h
  rcases h with ⟨rfl, rfl⟩ | ⟨rfl, rfl⟩ | ⟨rfl, rfl⟩ | ⟨rfl, rfl⟩ | ⟨rfl, rfl⟩ <;> rfl

/-- The families of large objects have the greatest ceiling. -/
lemma maxLength_of_mem_largeObjectNames {ws : List String} {f : Family}
    (h : (ws, f) ∈ largeObjectNames) : f.declaresLength ∧ f.maxLength = 2147483647 := by
  have table : ∀ p ∈ largeObjectNames, p.2.declaresLength ∧ p.2.maxLength = 2147483647 := by decide
  exact table _ h

/-- A name of the grammar is read as the type that it denotes. -/
lemma readNullable_of_denotes (h : Denotes us t)
    (hts : Unsigned (us ++ nullabilityTokens nullable)) :
    readNullable (us ++ nullabilityTokens nullable) = .ok (t, nullabilityTokens nullable) := by
  cases h with
  | plain h => exact readNullable_plainNames h nullable
  | decimal h ha hp hp' hs =>
    rw [List.append_assoc] at hts ⊢
    rw [readNullable_decimalNames h, readDecimal_eq_ok_iff hts.of_append]
    exact ⟨_, _, _, ha, hp, hp', hs, rfl, rfl⟩
  | float hw hp hp' =>
    exact (readFloat_eq_ok_iff hts.tail).mpr (Or.inr ⟨_, _, hw, hp, hp', rfl, rfl⟩)
  | @character ws as n bits f h hf ha hn =>
    have hother : ∀ v : String, v = "VARYING" ∨ v = "LARGE" →
        acceptWord? v (as ++ (forBitData bits ++ nullabilityTokens nullable)) = none := by
      rcases ha with ⟨rfl, -⟩ | ⟨-, -, -, -, -⟩
      · rintro v (rfl | rfl) <;> cases bits <;> cases nullable <;> decide
      · intro v _
        rfl
    rw [List.append_assoc, List.append_assoc] at hts ⊢
    rw [readNullable_characterNames h, readCharacter_eq_ok_iff (hother _ (Or.inl rfl))
      (hother _ (Or.inr rfl)) hts.of_append]
    exact ⟨as, n, bits, f, hf, ha, hn, rfl, rfl⟩
  | varchar h hf ha hn =>
    rw [List.append_assoc, List.append_assoc] at hts ⊢
    rw [readNullable_varcharNames h, readVarchar_eq_ok_iff hts.of_append]
    exact ⟨_, _, _, _, hf, ha, hn, rfl, rfl⟩
  | largeObject h ha =>
    obtain ⟨hf, hmax⟩ := maxLength_of_mem_largeObjectNames h
    rw [List.append_assoc] at hts ⊢
    rw [readNullable_largeObjectNames h, readLargeObject_eq_ok_iff hf hmax hts.of_append]
    exact ⟨_, _, ha, rfl, rfl⟩

lemma exists_denotes_of_readLargeObject {ws : List String} {f : Family}
    (hf : (ws, f) ∈ largeObjectNames) (hts : Unsigned ts)
    (h : readLargeObject f ts = .ok (t, nullabilityTokens nullable)) :
    ∃ us, Denotes us t ∧ phrase ws ++ ts = us ++ nullabilityTokens nullable := by
  obtain ⟨hlength, hmax⟩ := maxLength_of_mem_largeObjectNames hf
  obtain ⟨as, n, ha, rfl, rfl⟩ := (readLargeObject_eq_ok_iff hlength hmax hts).mp h
  exact ⟨_, .largeObject hf ha, (List.append_assoc _ _ _).symm⟩

lemma exists_denotes_of_readVarchar {ws : List String} (hws : ws ∈ varcharNames)
    (hts : Unsigned ts) (h : readVarchar ts = .ok (t, nullabilityTokens nullable)) :
    ∃ us, Denotes us t ∧ phrase ws ++ ts = us ++ nullabilityTokens nullable := by
  obtain ⟨as, n, bits, f, hf, ha, hn, rfl, rfl⟩ := (readVarchar_eq_ok_iff hts).mp h
  exact ⟨_, .varchar hws hf ha hn, by simp only [List.append_assoc]⟩

/-- Behind CHAR stand VARYING, LARGE OBJECT, or the attributes of a type of one length. -/
lemma exists_denotes_of_readCharacter {name : String} (hname : name = "CHAR" ∨ name = "CHARACTER")
    (hts : Unsigned ts) (h : readCharacter ts = .ok (t, nullabilityTokens nullable)) :
    ∃ us, Denotes us t ∧ .word name.toList :: ts = us ++ nullabilityTokens nullable := by
  -- The reader looks for the longer names first.
  cases hvarying : acceptWord? "VARYING" ts with
  | some vs =>
    obtain rfl := acceptWord?_eq_some_iff.mp hvarying
    have hws : [name, "VARYING"] ∈ varcharNames := by rcases hname with rfl | rfl <;> decide
    exact exists_denotes_of_readVarchar hws hts.tail h
  | none =>
    cases hlarge : acceptWord? "LARGE" ts with
    | some vs =>
      rw [readCharacter, hvarying, hlarge] at h
      obtain rfl := acceptWord?_eq_some_iff.mp hlarge
      obtain ⟨xs, hxs, hobject⟩ := Except.bind_eq_ok_iff.mp h
      rw [expectWord, expect_eq_ok_iff] at hxs
      subst hxs
      have hws : ([name, "LARGE", "OBJECT"], .clob) ∈ largeObjectNames := by
        rcases hname with rfl | rfl <;> decide
      exact exists_denotes_of_readLargeObject hws hts.tail.tail hobject
    | none =>
      have hws : [name] ∈ characterNames := by rcases hname with rfl | rfl <;> decide
      obtain ⟨as, n, bits, f, hf, ha, hn, rfl, rfl⟩ :=
        (readCharacter_eq_ok_iff hvarying hlarge hts).mp h
      refine ⟨_, .character hws hf ha hn, ?_⟩
      simp only [List.append_assoc]
      rfl

/-- The families that a single word names. -/
lemma mem_plainNames_of_mem_openings {name : String} {f : Family}
    (h : (name, .fixed f) ∈ openings) : ([name], f) ∈ plainNames := by
  have table : openings.all (fun o => match o.2 with
      | .fixed f => decide (([o.1], f) ∈ plainNames)
      | _ => true) = true := by
    decide
  simpa using List.all_eq_true.mp table _ h

/-- Whatever the first word of a name announces, the words that are read belong to the grammar. -/
lemma exists_denotes_of_readAfter {name : String} {o : Opening} (ho : (name, o) ∈ openings)
    (hts : Unsigned ts) (h : readAfter o ts = .ok (t, nullabilityTokens nullable)) :
    ∃ us, Denotes us t ∧ .word name.toList :: ts = us ++ nullabilityTokens nullable := by
  cases o with
  | fixed f =>
    cases h
    exact ⟨phrase [name], .plain (mem_plainNames_of_mem_openings ho), rfl⟩
  | decimal =>
    have hws : [name] ∈ decimalNames := by simpa [openings, decimalNames] using ho
    obtain ⟨as, p, s, ha, hp, hp', hs, rfl, rfl⟩ := (readDecimal_eq_ok_iff hts).mp h
    exact ⟨_, .decimal hws ha hp hp' hs, rfl⟩
  | double =>
    obtain rfl : name = "DOUBLE" := by simpa [openings] using ho
    simp only [readAfter] at h
    cases hprecision : acceptWord? "PRECISION" ts with
    | none =>
      rw [hprecision] at h
      cases h
      exact ⟨phrase ["DOUBLE"], .plain (by decide), rfl⟩
    | some vs =>
      rw [hprecision] at h
      cases h
      obtain rfl := acceptWord?_eq_some_iff.mp hprecision
      exact ⟨phrase ["DOUBLE", "PRECISION"], .plain (by decide), rfl⟩
  | float =>
    obtain rfl : name = "FLOAT" := by simpa [openings] using ho
    rcases (readFloat_eq_ok_iff hts).mp h with ⟨rfl, rfl⟩ | ⟨w, p, hw, hp, hp', rfl, rfl⟩
    · exact ⟨phrase ["FLOAT"], .plain (by decide), rfl⟩
    · exact ⟨_, .float hw hp hp', rfl⟩
  | character =>
    exact exists_denotes_of_readCharacter (by simpa [openings] using ho) hts h
  | varchar =>
    obtain rfl : name = "VARCHAR" := by simpa [openings] using ho
    have hws : ["VARCHAR"] ∈ varcharNames := by decide
    exact exists_denotes_of_readVarchar hws hts h
  | long =>
    obtain rfl : name = "LONG" := by simpa [openings] using ho
    obtain ⟨vs, hvs, h⟩ := Except.bind_eq_ok_iff.mp h
    obtain ⟨⟨f, xs⟩, hxs, h⟩ := Except.bind_eq_ok_iff.mp h
    cases h
    rw [expectWord, expect_eq_ok_iff] at hvs
    subst hvs
    obtain ⟨bits, rfl, rfl⟩ := readForBitData_eq_ok_iff.mp hxs
    cases bits with
    | false => exact ⟨phrase ["LONG", "VARCHAR"], .plain (by decide), rfl⟩
    | true => exact ⟨phrase ["LONG", "VARCHAR", "FOR", "BIT", "DATA"], .plain (by decide), rfl⟩
  | largeObject f =>
    have hws : ([name], f) ∈ largeObjectNames := by simpa [openings, largeObjectNames] using ho
    exact exists_denotes_of_readLargeObject hws hts h
  | binary =>
    obtain rfl : name = "BINARY" := by simpa [openings] using ho
    obtain ⟨vs, hvs, h⟩ := Except.bind_eq_ok_iff.mp h
    obtain ⟨xs, hxs, h⟩ := Except.bind_eq_ok_iff.mp h
    rw [expectWord, expect_eq_ok_iff] at hvs hxs
    subst hvs hxs
    have hws : (["BINARY", "LARGE", "OBJECT"], .blob) ∈ largeObjectNames := by decide
    exact exists_denotes_of_readLargeObject hws hts.tail.tail h

/-- The readers take exactly the names of the grammar. -/
lemma readNullable_eq_ok_iff (hts : Unsigned ts) :
    readNullable ts = .ok (t, nullabilityTokens nullable) ↔
      ∃ us, Denotes us t ∧ ts = us ++ nullabilityTokens nullable := by
  constructor
  · intro h
    cases ts with
    | nil => cases h
    | cons first ts =>
      rw [readNullable] at h
      split at h
      · next name o hfind =>
        obtain rfl : first = .word name.toList := by simpa using List.find?_some hfind
        exact exists_denotes_of_readAfter (List.mem_of_find?_eq_some hfind) hts.tail h
      · cases h
  · rintro ⟨us, hus, rfl⟩
    exact readNullable_of_denotes hus hts

/-- The types of the grammar are nullable as long as nothing is said about it. -/
lemma Denotes.withNullable_true (h : Denotes us t) : t.withNullable true = t := by
  cases h <;> rfl

lemma readTokens_eq_ok_iff (hts : Unsigned ts) :
    readTokens ts = .ok t ↔
      ∃ us u nullable, Denotes us u ∧ ts = us ++ nullabilityTokens nullable ∧
        t = u.withNullable nullable := by
  constructor
  · intro h
    obtain ⟨⟨u, vs⟩, hu, hrest⟩ := Except.bind_eq_ok_iff.mp h
    dsimp only at hrest
    split at hrest
    · split at hrest
      · next hempty =>
        cases hrest
        obtain rfl := List.isEmpty_iff.mp hempty
        have hu : readNullable ts = .ok (t, nullabilityTokens true) := hu
        obtain ⟨us, hus, rfl⟩ := (readNullable_eq_ok_iff hts).mp hu
        exact ⟨us, t, true, hus, rfl, hus.withNullable_true.symm⟩
      · cases hrest
    · next ws hnot =>
      obtain rfl := acceptWord?_eq_some_iff.mp hnot
      obtain ⟨xs, hxs, hend⟩ := Except.bind_eq_ok_iff.mp hrest
      rw [expectWord, expect_eq_ok_iff] at hxs
      subst hxs
      split at hend
      · next hempty =>
        cases hend
        obtain rfl := List.isEmpty_iff.mp hempty
        have hu : readNullable ts = .ok (u, nullabilityTokens false) := hu
        obtain ⟨us, hus, rfl⟩ := (readNullable_eq_ok_iff hts).mp hu
        exact ⟨us, u, false, hus, rfl, rfl⟩
      · cases hend
  · rintro ⟨us, u, nullable, hu, rfl, rfl⟩
    have hbefore : (u.withNullable nullable).withNullable true = u := hu.withNullable_true
    refine readTokens_of_readNullable ?_
    rw [hbefore]
    exact readNullable_of_denotes hu hts

lemma read_eq_ok_iff {cs : List Char} : read cs = .ok t ↔ Names cs t := by
  constructor
  · intro h
    obtain ⟨ts, hts, h⟩ := Except.bind_eq_ok_iff.mp h
    have hconsists := consists_of_tokens hts
    obtain ⟨us, u, nullable, hu, rfl, ht⟩ := (readTokens_eq_ok_iff hconsists.unsigned).mp h
    exact ⟨us, u, nullable, hu, hconsists, ht⟩
  · rintro ⟨us, u, nullable, hu, hconsists, ht⟩
    rw [read, tokens_of_consists hconsists, Except.ok_bind,
      readTokens_eq_ok_iff hconsists.unsigned]
    exact ⟨us, u, nullable, hu, rfl, ht⟩

end Names

/-! ## Texts with stray bytes -/

/-- How the pieces of a text are taken. Next line and no-break space are blanks if they stand as
single bytes. -/
inductive Reads : Text.Piece → Char → Prop
  | char (c : Char) : Reads (.char c) c
  | blank {b : UInt8} (hb : b = 0x85 ∨ b = 0xA0) : Reads (.stray b) ' '

/-- If stray bytes are replaced by the blanks that they stand for, a string is left unless there are
others. -/
lemma string?_map_eq_some_iff {f : Text.Piece → Text.Piece} (hchar : ∀ c, f (.char c) = .char c)
    (hstray : ∀ b, f (.stray b) = if b = 0x85 ∨ b = 0xA0 then .char ' ' else .stray b)
    {source : Text.Raw} {s : String} :
    Text.Raw.string? (source.map f) = some s ↔ List.Forall₂ Reads source s.toList := by
  have hpiece : ∀ {piece : Text.Piece} {c : Char}, f piece = .char c ↔ Reads piece c := by
    intro piece c
    constructor
    · intro h
      cases piece with
      | char d =>
        rw [hchar] at h
        cases h
        exact .char c
      | stray b =>
        rw [hstray] at h
        split at h
        · next hb =>
          cases h
          exact .blank hb
        · cases h
    · rintro (_ | hb)
      · exact hchar c
      · rw [hstray, if_pos hb]
  have hpieces : ∀ cs : List Char, source.map f = cs.map .char ↔ List.Forall₂ Reads source cs := by
    intro cs
    induction source generalizing cs with
    | nil => cases cs <;> simp
    | cons piece source ih => cases cs <;> simp [hpiece, ih]
  rw [Text.Raw.string?_eq_some_iff, Text.Raw.ofString, hpieces]

/-- A text names the types that the grammar gives for it. -/
lemma parse_eq_ok_iff {source : String} {t : SqlType} :
    SqlType.parse source = .ok t ↔ Names source.toList t :=
  Except.mapError_eq_ok_iff.trans read_eq_ok_iff

lemma parseRaw_eq_ok_iff {source : Text.Raw} {t : SqlType} :
    SqlType.parseRaw source = .ok t ↔ ∃ cs, List.Forall₂ Reads source cs ∧ Names cs t := by
  constructor
  · intro h
    unfold SqlType.parseRaw at h
    dsimp only at h
    split at h
    · next s hs =>
      refine ⟨s.toList, (string?_map_eq_some_iff (fun _ => rfl) (fun _ => rfl)).mp hs, ?_⟩
      exact read_eq_ok_iff.mp (Except.mapError_eq_ok_iff.mp h)
    · cases h
  · rintro ⟨cs, hcs, hnames⟩
    rw [← String.toList_ofList (l := cs)] at hcs hnames
    unfold SqlType.parseRaw
    dsimp only
    rw [(string?_map_eq_some_iff ?_ ?_).mpr hcs]
    · exact Except.mapError_eq_ok_iff.mpr (read_eq_ok_iff.mpr hnames)
    · exact fun _ => rfl
    · exact fun _ => rfl

end SqlTyping.TypeName

namespace SqlTyping.SqlType

/-- Type names are read as a manual would have it. A text is accepted exactly if it is written by
the rules, and then it is read as the type that the rules give for it. -/
theorem parse_eq_ok_iff_names :
    (∀ (source : String) (t : SqlType),
      parse source = .ok t ↔ TypeName.Names source.toList t) ∧
    ∀ (source : Text.Raw) (t : SqlType),
      parseRaw source = .ok t ↔
        ∃ cs, List.Forall₂ TypeName.Reads source cs ∧ TypeName.Names cs t :=
  ⟨fun _ _ => TypeName.parse_eq_ok_iff, fun _ _ => TypeName.parseRaw_eq_ok_iff⟩

end SqlTyping.SqlType
