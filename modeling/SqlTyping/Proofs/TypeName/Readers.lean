import SqlTyping.Proofs.TypeName.Grammar

/-!
# Readers follow the grammar

Each reader takes exactly the tokens that the rules allow at its place. For the attributes this is
said with any tokens behind them. A type is read up to the words about nullability.
-/

namespace SqlTyping.TypeName

/-! ## Readers of attributes -/

section Attributes

variable {cs w : List Char} {ts rest : List Token}

lemma expect_eq_ok_iff {t : Token} : expect t ts = .ok rest ↔ ts = t :: rest := by
  cases ts with
  | nil =>
    constructor <;> intro h <;> cases h
  | cons t' ts =>
    rw [expect, List.cons.injEq]
    split_ifs with ht <;> simp [ht]

lemma acceptWord?_eq_some_iff {v : String} :
    acceptWord? v ts = some rest ↔ ts = .word v.toList :: rest := by
  cases ts with
  | nil =>
    constructor <;> intro h <;> cases h
  | cons t ts =>
    rw [acceptWord?, List.cons.injEq]
    split_ifs with ht <;> simp [ht]

/-- The numbers of the grammar are those that are read. -/
lemma readInteger_eq_ok_iff_writes (hcs : ∀ c ∈ cs, c ≠ '+' ∧ c ≠ '-') {v : Int} :
    Text.readInteger 10 32 cs = .ok v ↔ ∃ n : Nat, Writes cs n ∧ v = n := by
  have hsign : Text.splitSign cs = (false, cs) := by
    unfold Text.splitSign
    split
    · exact absurd rfl (hcs '+' List.mem_cons_self).1
    · exact absurd rfl (hcs '-' List.mem_cons_self).2
    · rfl
  rw [Text.readInteger_eq_ok_iff (by decide) hsign]
  constructor
  · rintro ⟨hne, hdigits, hlt, rfl⟩
    exact ⟨_, ⟨hne, hdigits, rfl, hlt⟩, rfl⟩
  · rintro ⟨n, ⟨hne, hdigits, rfl, hlt⟩, rfl⟩
    exact ⟨hne, hdigits, hlt, rfl⟩

/-- Texts that start with a digit are words. -/
lemma eq_word_cons_of_nextText {mark : List Char} {n : Nat} (hw : Writes w n)
    (h : nextText ts = w ++ mark) : ts = .word (w ++ mark) :: ts.tail := by
  obtain ⟨hne, hdigits, -, -⟩ := hw
  cases w with
  | nil => exact absurd rfl hne
  | cons d w =>
    have hd : d.isDigit = true := hdigits d List.mem_cons_self
    cases ts with
    | nil => cases h
    | cons t ts =>
      cases t with
      | word text => rw [← h]; rfl
      | opening | closing | comma =>
        rw [← (List.cons.inj h).1] at hd
        exact absurd hd (by decide)

lemma unsigned_nextText (h : Unsigned ts) : ∀ c ∈ nextText ts, c ≠ '+' ∧ c ≠ '-' := by
  cases ts with
  | nil =>
    intro c hc
    cases hc
  | cons t ts => exact h t List.mem_cons_self

lemma readNumber_eq_ok_iff (hts : Unsigned ts) {v : Int} :
    readNumber ts = .ok (v, rest) ↔ ∃ w n, Writes w n ∧ ts = .word w :: rest ∧ v = n := by
  constructor
  · intro h
    unfold readNumber at h
    split at h
    · next v' hv =>
      cases h
      obtain ⟨n, hn, rfl⟩ := (readInteger_eq_ok_iff_writes (unsigned_nextText hts)).mp hv
      have hword := eq_word_cons_of_nextText hn (List.append_nil _).symm
      rw [List.append_nil] at hword
      exact ⟨_, n, hn, hword, rfl⟩
    · cases h
    · cases h
  · rintro ⟨w, n, hn, rfl, rfl⟩
    have hv := (readInteger_eq_ok_iff_writes (unsigned_nextText hts)).mpr ⟨n, hn, rfl⟩
    rw [readNumber, hv]
    rfl

/-- The mark that is taken off the end of a length is one of the grammar. -/
lemma exists_mem_factors {multipliers : Bool} {k : Int}
    (h : (if multipliers then splitMultiplier cs else (1, cs)) = (k, w)) :
    ∃ mark factor, (mark, factor) ∈ factors multipliers ∧ cs = w ++ mark ∧ k = (factor : Nat) := by
  have hplain : ∀ {b : Bool}, ((1 : Int), cs) = (k, w) →
      ∃ mark factor, (mark, factor) ∈ factors b ∧ cs = w ++ mark ∧ k = (factor : Nat) := by
    intro b h
    cases h
    exact ⟨[], 1, List.mem_cons_self, (List.append_nil _).symm, rfl⟩
  have hmarked : ∀ {c : Char}, cs.getLast? = some c → cs = cs.dropLast ++ [c] := fun hc =>
    (List.dropLast_append_getLast? _ hc).symm
  cases multipliers with
  | false => exact hplain h
  | true =>
    rw [if_pos rfl] at h
    unfold splitMultiplier at h
    split_ifs at h
    · exact hplain h
    · split at h
      · next hlast =>
        cases h
        exact ⟨['K'], 1024, by decide, hmarked hlast, rfl⟩
      · next hlast =>
        cases h
        exact ⟨['M'], 1048576, by decide, hmarked hlast, rfl⟩
      · next hlast =>
        cases h
        exact ⟨['G'], 1073741824, by decide, hmarked hlast, rfl⟩
      · exact hplain h

/-- The marks of the grammar are taken off the end of a length. -/
lemma splitMultiplier_append {multipliers : Bool} {mark : List Char} {n factor : Nat}
    (hw : Writes w n) (hmark : (mark, factor) ∈ factors multipliers) :
    (if multipliers then splitMultiplier (w ++ mark) else (1, w ++ mark)) =
      ((factor : Int), w) := by
  obtain ⟨hne, hdigits, -, -⟩ := hw
  have hlength : 0 < w.length := List.length_pos_iff.mpr hne
  have hmarked : ∀ c : Char, ¬ (w ++ [c]).length ≤ 1 := by
    intro c
    rw [List.length_append, List.length_singleton]
    omega
  cases multipliers with
  | false =>
    cases List.mem_singleton.mp hmark
    rw [if_neg (by decide), List.append_nil]
    rfl
  | true =>
    rw [if_pos rfl]
    rcases List.mem_cons.mp hmark with hmark | hmark
    · cases hmark
      rw [List.append_nil]
      exact splitMultiplier_of_isDigit hdigits
    · rw [if_pos rfl] at hmark
      simp only [List.mem_cons, List.not_mem_nil, or_false, Prod.mk.injEq] at hmark
      rcases hmark with ⟨rfl, rfl⟩ | ⟨rfl, rfl⟩ | ⟨rfl, rfl⟩
      all_goals
        rw [splitMultiplier, if_neg (hmarked _), List.getLast?_concat, List.dropLast_concat]
        rfl

/-- The product of two and `G`, in whole numbers. -/
lemma natCast_product (n factor : Nat) :
    (if (n : Int) * factor = 2147483648 then 2147483647 else (n : Int) * factor) =
      ((if n * factor = 2147483648 then 2147483647 else n * factor : Nat) : Int) := by
  rw [← Int.natCast_mul]
  generalize n * factor = product
  split_ifs <;> omega

lemma readLength_eq_ok_iff {multipliers : Bool} (hts : Unsigned ts) {v : Int} :
    readLength multipliers ts = .ok (v, rest) ↔
      ∃ as n, Length multipliers as n ∧ ts = as ++ rest ∧ v = n := by
  constructor
  · intro hread
    obtain ⟨us, hus, h⟩ := Except.bind_eq_ok_iff.mp hread
    clear hread
    rw [expect_eq_ok_iff] at hus
    subst hus
    rcases hsplit : (if multipliers then splitMultiplier (nextText us) else (1, nextText us))
      with ⟨k, w⟩
    obtain ⟨mark, factor, hmark, htext, rfl⟩ := exists_mem_factors hsplit
    rw [hsplit] at h
    dsimp only at h
    split at h
    · cases h
    · cases h
    · next v' hv =>
      have hw : ∀ c ∈ w, c ≠ '+' ∧ c ≠ '-' := fun c hc =>
        unsigned_nextText hts.tail c (htext ▸ List.mem_append_left mark hc)
      obtain ⟨n, hn, rfl⟩ := (readInteger_eq_ok_iff_writes hw).mp hv
      obtain ⟨vs, hvs, h⟩ := Except.bind_eq_ok_iff.mp h
      rw [expect_eq_ok_iff] at hvs
      have hus := eq_word_cons_of_nextText hn htext
      rw [hvs] at hus
      subst hus
      rw [natCast_product] at h
      generalize hlength :
        (if n * factor = 2147483648 then 2147483647 else n * factor) = length at h
      split at h
      · cases h
      · cases h
        exact ⟨_, length, .intro hn hmark hlength.symm (by omega) (by omega), rfl, rfl⟩
  · rintro ⟨as, n, ⟨hw, hmark, hproduct, hmin, hmax⟩, rfl, rfl⟩
    have hinteger := (readInteger_eq_ok_iff_writes
      (fun c hc => unsigned_nextText hts.tail c (List.mem_append_left _ hc))).mpr ⟨_, hw, rfl⟩
    simp only [readLength, List.cons_append, List.nil_append, expect, Except.ok_bind, if_pos,
      nextText, Token.text, splitMultiplier_append hw hmark, hinteger, List.tail_cons,
      natCast_product, ← hproduct]
    exact if_neg (by omega)

end Attributes

/-! ## Readers of types

A type is read up to the words about nullability. None of these starts an attribute, so attributes
that are left out are recognised. -/

section Types

variable {t : SqlType} {ts : List Token} {nullable : Bool}

/-- Attributes in parentheses are not mistaken for words about nullability. -/
lemma head?_nullabilityTokens (nullable : Bool) :
    (nullabilityTokens nullable).head? ≠ some .opening := by
  cases nullable <;> decide

lemma build_length_eq_ok_iff {f : Family} (hf : f.declaresLength) {n : Nat} :
    build f 0 0 n = .ok t ↔ 1 ≤ n ∧ n ≤ f.maxLength ∧ t = ⟨f, 0, 0, n, true⟩ := by
  rw [build, Except.mapError_eq_ok_iff, SqlType.make_eq_ok_iff_of_declaresLength hf]
  constructor <;> rintro ⟨hmin, hmax, rfl⟩ <;> exact ⟨by omega, by omega, rfl⟩

lemma readForBitData_eq_ok_iff {plain bit f : Family} :
    readForBitData plain bit ts = .ok (f, nullabilityTokens nullable) ↔
      ∃ bits, ts = forBitData bits ++ nullabilityTokens nullable ∧
        f = if bits then bit else plain := by
  constructor
  · intro h
    unfold readForBitData at h
    split at h
    · cases h
      exact ⟨false, rfl, rfl⟩
    · next us hus =>
      obtain ⟨vs, hvs, h⟩ := Except.bind_eq_ok_iff.mp h
      obtain ⟨xs, hxs, h⟩ := Except.bind_eq_ok_iff.mp h
      cases h
      rw [acceptWord?_eq_some_iff] at hus
      rw [expectWord, expect_eq_ok_iff] at hvs hxs
      subst hus hvs hxs
      exact ⟨true, rfl, rfl⟩
  · rintro ⟨bits, rfl, rfl⟩
    cases bits <;> cases nullable <;> rfl

/-- What follows the length of a type, in terms of the grammar. -/
lemma readForBitData_build_eq_ok_iff {plain bit : Family} (hplain : plain.declaresLength)
    (hbit : bit.declaresLength) {n : Nat} (hn : 1 ≤ n) :
    (readForBitData plain bit ts >>= fun x => build x.1 0 0 n >>= fun t => .ok (t, x.2)) =
        .ok (t, nullabilityTokens nullable) ↔
      ∃ bits f, f = (if bits then bit else plain) ∧ n ≤ f.maxLength ∧
        ts = forBitData bits ++ nullabilityTokens nullable ∧ t = ⟨f, 0, 0, n, true⟩ := by
  have hdeclares : ∀ bits : Bool, (if bits then bit else plain).declaresLength := by
    intro bits
    split
    · exact hbit
    · exact hplain
  constructor
  · intro h
    obtain ⟨⟨f, us⟩, hus, h⟩ := Except.bind_eq_ok_iff.mp h
    obtain ⟨u, hu, h⟩ := Except.bind_eq_ok_iff.mp h
    cases h
    obtain ⟨bits, rfl, rfl⟩ := readForBitData_eq_ok_iff.mp hus
    obtain ⟨-, hmax, rfl⟩ := (build_length_eq_ok_iff (hdeclares bits)).mp hu
    exact ⟨bits, _, rfl, hmax, rfl, rfl⟩
  · rintro ⟨bits, f, rfl, hmax, rfl, rfl⟩
    rw [readForBitData_eq_ok_iff.mpr ⟨bits, rfl, rfl⟩, Except.ok_bind,
      (build_length_eq_ok_iff (hdeclares bits)).mpr ⟨hn, hmax, rfl⟩, Except.ok_bind]

lemma readVarchar_eq_ok_iff (hts : Unsigned ts) :
    readVarchar ts = .ok (t, nullabilityTokens nullable) ↔
      ∃ as n bits f, f = (if bits then .varcharForBit else .varchar) ∧ Length false as n ∧
        n ≤ f.maxLength ∧ ts = as ++ (forBitData bits ++ nullabilityTokens nullable) ∧
        t = ⟨f, 0, 0, n, true⟩ := by
  constructor
  · intro h
    obtain ⟨⟨v, us⟩, hus, h⟩ := Except.bind_eq_ok_iff.mp h
    obtain ⟨as, n, hn, rfl, rfl⟩ := (readLength_eq_ok_iff hts).mp hus
    obtain ⟨bits, f, hf, hmax, rfl, rfl⟩ :=
      (readForBitData_build_eq_ok_iff rfl rfl hn.range.1).mp h
    exact ⟨as, n, bits, f, hf, hn, hmax, rfl, rfl⟩
  · rintro ⟨as, n, bits, f, hf, hn, hmax, rfl, rfl⟩
    rw [readVarchar, (readLength_eq_ok_iff hts).mpr ⟨as, n, hn, rfl, rfl⟩, Except.ok_bind]
    exact (readForBitData_build_eq_ok_iff rfl rfl hn.range.1).mpr ⟨bits, f, hf, hmax, rfl, rfl⟩

lemma exists_of_readLengthOr {multipliers : Bool} {default : Nat} {rest : List Token}
    (hts : Unsigned ts) {v : Int} (h : readLengthOr multipliers default ts = .ok (v, rest)) :
    ∃ as n, (as = [] ∧ n = default ∨ Length multipliers as n) ∧ ts = as ++ rest ∧ v = n := by
  unfold readLengthOr at h
  split at h
  · obtain ⟨as, n, hn, hsplit, hv⟩ := (readLength_eq_ok_iff hts).mp h
    exact ⟨as, n, Or.inr hn, hsplit, hv⟩
  · cases h
    exact ⟨[], default, Or.inl ⟨rfl, rfl⟩, rfl, rfl⟩

/-- A length is left out where no parenthesis follows. -/
lemma readLengthOr_append {multipliers : Bool} {default n : Nat} {as rest : List Token}
    (hts : Unsigned (as ++ rest)) (hrest : rest.head? ≠ some .opening)
    (hn : as = [] ∧ n = default ∨ Length multipliers as n) :
    readLengthOr multipliers default (as ++ rest) = .ok ((n : Int), rest) := by
  rcases hn with ⟨rfl, rfl⟩ | hn
  · exact if_neg hrest
  · have hopening : (as ++ rest).head? = some .opening := by
      cases hn
      rfl
    exact (if_pos hopening).trans ((readLength_eq_ok_iff hts).mpr ⟨as, n, hn, rfl, rfl⟩)

lemma readLargeObject_eq_ok_iff {f : Family} (hf : f.declaresLength)
    (hmax : f.maxLength = 2147483647) (hts : Unsigned ts) :
    readLargeObject f ts = .ok (t, nullabilityTokens nullable) ↔
      ∃ as n, (as = [] ∧ n = 2147483647 ∨ Length true as n) ∧
        ts = as ++ nullabilityTokens nullable ∧ t = ⟨f, 0, 0, n, true⟩ := by
  rw [readLargeObject, hmax]
  constructor
  · intro h
    obtain ⟨⟨v, us⟩, hus, h⟩ := Except.bind_eq_ok_iff.mp h
    obtain ⟨u, hu, h⟩ := Except.bind_eq_ok_iff.mp h
    cases h
    obtain ⟨as, n, hn, rfl, rfl⟩ := exists_of_readLengthOr hts hus
    obtain ⟨-, -, rfl⟩ := (build_length_eq_ok_iff hf).mp hu
    exact ⟨as, n, hn, rfl, rfl⟩
  · rintro ⟨as, n, hn, rfl, rfl⟩
    have hrange : 1 ≤ n ∧ n ≤ 2147483647 := by
      rcases hn with ⟨-, rfl⟩ | hn
      · exact ⟨by decide, le_rfl⟩
      · exact hn.range
    rw [readLengthOr_append hts (head?_nullabilityTokens nullable) hn, Except.ok_bind]
    dsimp only
    rw [(build_length_eq_ok_iff hf).mpr ⟨hrange.1, hrange.2.trans_eq hmax.symm, rfl⟩,
      Except.ok_bind]

/-- Behind CHAR, words other than VARYING and LARGE belong to the type of one length. -/
lemma readCharacter_eq (hvarying : acceptWord? "VARYING" ts = none)
    (hlarge : acceptWord? "LARGE" ts = none) :
    readCharacter ts = readLengthOr false 1 ts >>= fun x =>
      readForBitData .char .charForBit x.2 >>= fun y => build y.1 0 0 x.1 >>= fun t =>
        .ok (t, y.2) := by
  rw [readCharacter, hvarying, hlarge]
  rfl

/-- A type of characters with one length, or with none. -/
lemma readCharacter_eq_ok_iff (hvarying : acceptWord? "VARYING" ts = none)
    (hlarge : acceptWord? "LARGE" ts = none) (hts : Unsigned ts) :
    readCharacter ts = .ok (t, nullabilityTokens nullable) ↔
      ∃ as n bits f, f = (if bits then .charForBit else .char) ∧
        (as = [] ∧ n = 1 ∨ Length false as n) ∧ n ≤ f.maxLength ∧
        ts = as ++ (forBitData bits ++ nullabilityTokens nullable) ∧ t = ⟨f, 0, 0, n, true⟩ := by
  have hrest : ∀ bits, (forBitData bits ++ nullabilityTokens nullable).head? ≠ some .opening := by
    intro bits
    cases bits <;> cases nullable <;> decide
  have hpos : ∀ {as : List Token} {n : Nat}, (as = [] ∧ n = 1 ∨ Length false as n) → 1 ≤ n := by
    rintro as n (⟨-, rfl⟩ | hn)
    · exact le_rfl
    · exact hn.range.1
  rw [readCharacter_eq hvarying hlarge]
  constructor
  · intro h
    obtain ⟨⟨v, us⟩, hus, h⟩ := Except.bind_eq_ok_iff.mp h
    obtain ⟨as, n, hn, rfl, rfl⟩ := exists_of_readLengthOr hts hus
    obtain ⟨bits, f, hf, hmax, rfl, rfl⟩ :=
      (readForBitData_build_eq_ok_iff rfl rfl (hpos hn)).mp h
    exact ⟨as, n, bits, f, hf, hn, hmax, rfl, rfl⟩
  · rintro ⟨as, n, bits, f, hf, hn, hmax, rfl, rfl⟩
    rw [readLengthOr_append hts (hrest bits) hn, Except.ok_bind]
    exact (readForBitData_build_eq_ok_iff rfl rfl (hpos hn)).mpr ⟨bits, f, hf, hmax, rfl, rfl⟩

lemma readDecimalAttributes_opening (ts : List Token) :
    readDecimalAttributes (.opening :: ts) = readNumber ts >>= fun x =>
      (if x.2.head? = some .comma then readNumber x.2.tail else .ok (0, x.2)) >>= fun y =>
        expect .closing y.2 >>= fun rest => .ok ((x.1, y.1), rest) := by
  rw [readDecimalAttributes, if_pos List.head?_cons, List.tail_cons]
  congr 1
  funext x
  obtain ⟨precision, us⟩ := x
  dsimp only
  split <;> rfl

lemma readDecimalAttributes_eq_ok_iff (hts : Unsigned ts) {precision scale : Int} :
    readDecimalAttributes ts = .ok ((precision, scale), nullabilityTokens nullable) ↔
      ∃ as p s, DecimalAttributes as p s ∧ ts = as ++ nullabilityTokens nullable ∧
        precision = (p : Nat) ∧ scale = (s : Nat) := by
  constructor
  · intro h
    by_cases hopening : ts.head? = some .opening
    · obtain ⟨us, rfl⟩ := List.head?_eq_some_iff.mp hopening
      rw [readDecimalAttributes_opening] at h
      obtain ⟨⟨v, vs⟩, hnumber, hrest⟩ := Except.bind_eq_ok_iff.mp h
      obtain ⟨w, p, hp, rfl, rfl⟩ := (readNumber_eq_ok_iff hts.tail).mp hnumber
      obtain ⟨⟨v', xs⟩, hscale, hclosing⟩ := Except.bind_eq_ok_iff.mp hrest
      obtain ⟨ys, hys, hresult⟩ := Except.bind_eq_ok_iff.mp hclosing
      rw [expect_eq_ok_iff] at hys
      cases hresult
      subst hys
      dsimp only at hscale
      split at hscale
      · next hcomma =>
        obtain ⟨zs, rfl⟩ := List.head?_eq_some_iff.mp hcomma
        obtain ⟨w', s, hs, hzs, rfl⟩ := (readNumber_eq_ok_iff hts.tail.tail.tail).mp hscale
        rw [List.tail_cons, List.tail_cons, List.tail_cons] at hzs
        subst hzs
        exact ⟨_, p, s, .both hp hs, rfl, rfl, rfl⟩
      · cases hscale
        exact ⟨_, p, 0, .precision hp, rfl, rfl, rfl⟩
    · rw [readDecimalAttributes, if_neg hopening] at h
      cases h
      exact ⟨[], 5, 0, .omitted, rfl, rfl, rfl⟩
  · rintro ⟨as, p, s, ha, rfl, rfl, rfl⟩
    cases ha with
    | omitted => exact if_neg (head?_nullabilityTokens nullable)
    | @precision w _ hp =>
      have hnumber : readNumber (.word w :: .closing :: nullabilityTokens nullable) =
          .ok ((p : Int), .closing :: nullabilityTokens nullable) :=
        (readNumber_eq_ok_iff hts.tail).mpr ⟨w, p, hp, rfl, rfl⟩
      change readDecimalAttributes
        (.opening :: .word w :: .closing :: nullabilityTokens nullable) = _
      rw [readDecimalAttributes_opening, hnumber]
      rfl
    | @both w w' _ _ hp hs =>
      have hscale : readNumber (.word w' :: .closing :: nullabilityTokens nullable) =
          .ok ((s : Int), .closing :: nullabilityTokens nullable) :=
        (readNumber_eq_ok_iff hts.tail.tail.tail).mpr ⟨w', s, hs, rfl, rfl⟩
      have hnumber : readNumber (.word w :: .comma :: .word w' :: .closing ::
          nullabilityTokens nullable) =
            .ok ((p : Int), .comma :: .word w' :: .closing :: nullabilityTokens nullable) :=
        (readNumber_eq_ok_iff hts.tail).mpr ⟨w, p, hp, rfl, rfl⟩
      change readDecimalAttributes (.opening :: .word w :: .comma :: .word w' :: .closing ::
        nullabilityTokens nullable) = _
      rw [readDecimalAttributes_opening, hnumber, Except.ok_bind]
      dsimp only
      rw [if_pos List.head?_cons, List.tail_cons, hscale]
      rfl

lemma readDecimal_eq_ok_iff (hts : Unsigned ts) :
    readDecimal ts = .ok (t, nullabilityTokens nullable) ↔
      ∃ as p s, DecimalAttributes as p s ∧ 1 ≤ p ∧ p ≤ 31 ∧ s ≤ p ∧
        ts = as ++ nullabilityTokens nullable ∧ t = ⟨.decimal, p, s, 0, true⟩ := by
  constructor
  · intro h
    obtain ⟨⟨⟨precision, scale⟩, us⟩, hus, h⟩ := Except.bind_eq_ok_iff.mp h
    dsimp only at h
    split at h
    · cases h
    · obtain ⟨u, hu, h⟩ := Except.bind_eq_ok_iff.mp h
      cases h
      obtain ⟨as, p, s, ha, rfl, rfl, rfl⟩ := (readDecimalAttributes_eq_ok_iff hts).mp hus
      rw [build, Except.mapError_eq_ok_iff, SqlType.make_decimal_eq_ok_iff] at hu
      obtain ⟨hmin, hmax, -, hs, rfl⟩ := hu
      exact ⟨as, p, s, ha, by omega, by omega, by omega, rfl, rfl⟩
  · rintro ⟨as, p, s, ha, hmin, hmax, hs, rfl, rfl⟩
    have hbuild : build .decimal p s 0 = .ok ⟨.decimal, p, s, 0, true⟩ := by
      rw [build, Except.mapError_eq_ok_iff, SqlType.make_decimal_eq_ok_iff]
      exact ⟨by omega, by omega, by omega, by omega, rfl⟩
    rw [readDecimal, (readDecimalAttributes_eq_ok_iff hts).mpr ⟨as, p, s, ha, rfl, rfl, rfl⟩,
      Except.ok_bind]
    dsimp only
    rw [if_neg (by simp only [SqlType.maxDecimalPrecision]; omega), hbuild, Except.ok_bind]

lemma readFloat_opening (ts : List Token) :
    readFloat (.opening :: ts) = readNumber ts >>= fun x => expect .closing x.2 >>= fun rest =>
      if x.1 < 1 ∨ x.1 > 52 then .error (.floatRange x.1)
      else .ok (SqlType.fixed (if x.1 ≤ 23 then .real else .double), rest) := by
  rw [readFloat, if_pos List.head?_cons, List.tail_cons]
  congr 1
  funext x
  obtain ⟨precision, us⟩ := x
  dsimp only
  congr 1
  funext rest
  by_cases hreal : precision ≤ 23
  · rw [if_pos hreal, maxRealPrecision, if_pos hreal]
    rfl
  · rw [if_neg hreal, maxRealPrecision, if_neg hreal]
    rfl

lemma readFloat_eq_ok_iff (hts : Unsigned ts) :
    readFloat ts = .ok (t, nullabilityTokens nullable) ↔
      ts = nullabilityTokens nullable ∧ t = SqlType.fixed .double ∨
      ∃ w p, Writes w p ∧ 1 ≤ p ∧ p ≤ 52 ∧
        ts = .opening :: .word w :: .closing :: nullabilityTokens nullable ∧
        t = SqlType.fixed (if p ≤ 23 then .real else .double) := by
  have hcast : ∀ p : Nat, ((p : Int) ≤ 23) = (p ≤ 23) := fun p => propext (by omega)
  constructor
  · intro h
    by_cases hopening : ts.head? = some .opening
    · obtain ⟨us, rfl⟩ := List.head?_eq_some_iff.mp hopening
      rw [readFloat_opening] at h
      obtain ⟨⟨v, vs⟩, hnumber, hrest⟩ := Except.bind_eq_ok_iff.mp h
      obtain ⟨w, p, hp, rfl, rfl⟩ := (readNumber_eq_ok_iff hts.tail).mp hnumber
      obtain ⟨xs, hxs, htype⟩ := Except.bind_eq_ok_iff.mp hrest
      rw [expect_eq_ok_iff] at hxs
      subst hxs
      simp only [hcast] at htype
      by_cases hrange : (p : Int) < 1 ∨ (p : Int) > 52
      · rw [if_pos hrange] at htype
        cases htype
      · rw [if_neg hrange] at htype
        cases htype
        exact Or.inr ⟨w, p, hp, by omega, by omega, rfl, rfl⟩
    · rw [readFloat, if_neg hopening] at h
      cases h
      exact Or.inl ⟨rfl, rfl⟩
  · rintro (⟨rfl, rfl⟩ | ⟨w, p, hp, hmin, hmax, rfl, rfl⟩)
    · exact if_neg (head?_nullabilityTokens nullable)
    · have hnumber : readNumber (.word w :: .closing :: nullabilityTokens nullable) =
          .ok ((p : Int), .closing :: nullabilityTokens nullable) :=
        (readNumber_eq_ok_iff hts.tail).mpr ⟨w, p, hp, rfl, rfl⟩
      rw [readFloat_opening, hnumber, Except.ok_bind, expect_eq_ok_iff.mpr rfl, Except.ok_bind,
        if_neg (by dsimp only; omega)]
      simp only [hcast]

end Types

end SqlTyping.TypeName
