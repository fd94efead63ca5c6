import SqlTyping.Proofs.Text.Reading
import SqlTyping.Proofs.WellFormed
import SqlTyping.SqlType.Reader

/-!
# Type names are read back

The reader of type names returns only well-formed types (`wellFormed_of_read`), and it reads the
spelling of every well-formed type as that type (`read_render`). So the types that can be read back
are exactly the well-formed ones.

For the second statement a spelling is taken as a chain of pieces, none of which cuts a word in two.
The tokens of such a chain are those of its pieces (`tokens_append`). The pieces are fixed texts,
whose tokens are computed, and numbers, whose tokens are single words. The readers are then followed
along the tokens.
-/

namespace SqlTyping

lemma Family.hasLength_of_declaresLength {f : Family} (hf : f.declaresLength) : f.hasLength := by
  simp only [declaresLength, Bool.and_eq_true] at hf
  exact hf.1.1

/-- The lengths that types declare fit 32 bits. -/
lemma SqlType.length_of_declaresLength {t : SqlType} (hf : t.family.declaresLength)
    (ht : t.WellFormed) : 1 ≤ t.length ∧ t.length ≤ 2147483647 := by
  have table : ∀ f : Family, f.maxLength ≤ 2147483647 := by decide
  rw [wellFormed_iff_of_hasLength (Family.hasLength_of_declaresLength hf)] at ht
  exact ⟨ht.2.2.1, ht.2.2.2.1.trans (table t.family)⟩

namespace TypeName

/-! ## Tokens of a chain of pieces -/

/-- The word that has been read so far comes in front of the other tokens. -/
lemma flushWord_append (word : List Char) (ts us : List Token) :
    flushWord word (ts ++ us) = flushWord word ts ++ us := by
  unfold flushWord
  split <;> rfl

/-- A character between words ends the word that is being read. -/
lemma tokensFrom_cons_of_separator {c : Char} {seps : List Token} (hc : isWordChar c = false)
    (hseps : separator? c = some seps) (word rest : List Char) :
    tokensFrom word (c :: rest) =
      (fun ts => flushWord word (seps ++ ts)) <$> tokensFrom [] rest := by
  rw [tokensFrom, if_neg (by simp [hc]), hseps]

/-- Characters that belong to no token are the only ones that are refused. -/
lemma tokensFrom_cons_eq_ok {c : Char} {word rest : List Char} {ts : List Token}
    (hc : isWordChar c = false) (h : tokensFrom word (c :: rest) = .ok ts) :
    ∃ seps us, separator? c = some seps ∧ tokensFrom [] rest = .ok us ∧
      ts = flushWord word (seps ++ us) := by
  cases hseps : separator? c with
  | none =>
    rw [tokensFrom, if_neg (by simp [hc]), hseps] at h
    cases h
  | some seps =>
    rw [tokensFrom_cons_of_separator hc hseps] at h
    obtain ⟨us, hus, rfl⟩ := Except.map_eq_ok_iff.mp h
    exact ⟨seps, us, rfl, hus, rfl⟩

/-- What is read before a separator does not depend on what follows it. -/
lemma tokensFrom_append_cons {c : Char} (hc : isWordChar c = false) {word a b : List Char}
    {ts us : List Token} (ha : tokensFrom word a = .ok ts) (hb : tokensFrom [] (c :: b) = .ok us) :
    tokensFrom word (a ++ c :: b) = .ok (ts ++ us) := by
  induction a generalizing word ts with
  | nil =>
    obtain ⟨seps, vs, hseps, hvs, rfl⟩ := tokensFrom_cons_eq_ok hc hb
    cases ha
    rw [List.nil_append, tokensFrom_cons_of_separator hc hseps, hvs]
    change Except.ok (flushWord word (seps ++ vs)) = _
    rw [← flushWord_append]
    rfl
  | cons x a ih =>
    by_cases hx : isWordChar x = true
    · rw [tokensFrom, if_pos hx] at ha
      rw [List.cons_append, tokensFrom, if_pos hx]
      exact ih ha
    · rw [Bool.not_eq_true] at hx
      obtain ⟨seps, vs, hseps, hvs, rfl⟩ := tokensFrom_cons_eq_ok hx ha
      rw [List.cons_append, tokensFrom_cons_of_separator hx hseps, ih hvs]
      change Except.ok (flushWord word (seps ++ (vs ++ us))) = _
      rw [← List.append_assoc, flushWord_append]

/-- The same where the separator stands at the end of the first text. -/
lemma tokensFrom_append_of_getLast? {c : Char} (hc : isWordChar c = false) {word a b : List Char}
    {ts us : List Token} (hlast : a.getLast? = some c) (ha : tokensFrom word a = .ok ts)
    (hb : tokensFrom [] b = .ok us) : tokensFrom word (a ++ b) = .ok (ts ++ us) := by
  induction a generalizing word ts with
  | nil => cases hlast
  | cons x a ih =>
    by_cases hx : isWordChar x = true
    · rw [tokensFrom, if_pos hx] at ha
      rw [List.cons_append, tokensFrom, if_pos hx]
      refine ih ?_ ha
      cases a with
      | nil =>
        rw [List.getLast?_singleton, Option.some.injEq] at hlast
        rw [hlast, hc] at hx
        cases hx
      | cons y a => simpa using hlast
    · rw [Bool.not_eq_true] at hx
      obtain ⟨seps, vs, hseps, hvs, rfl⟩ := tokensFrom_cons_eq_ok hx ha
      have hrest : tokensFrom [] (a ++ b) = .ok (vs ++ us) := by
        cases a with
        | nil =>
          cases hvs
          exact hb
        | cons y a => exact ih (by simpa using hlast) hvs
      rw [List.cons_append, tokensFrom_cons_of_separator hx hseps, hrest]
      change Except.ok (flushWord word (seps ++ (vs ++ us))) = _
      rw [← List.append_assoc, flushWord_append]

/-- Two texts between which no word is cut in two have the tokens of both. -/
lemma tokens_append {a b : List Char} {ts us : List Token} (ha : tokens a = .ok ts)
    (hb : tokens b = .ok us)
    (hcut : (∃ c, a.getLast? = some c ∧ isWordChar c = false) ∨
      ∃ c, b.head? = some c ∧ isWordChar c = false) :
    tokens (a ++ b) = .ok (ts ++ us) := by
  rcases hcut with ⟨c, hlast, hc⟩ | ⟨c, hfirst, hc⟩
  · exact tokensFrom_append_of_getLast? hc hlast ha hb
  · cases b with
    | nil => cases hfirst
    | cons d b =>
      cases hfirst
      exact tokensFrom_append_cons hc ha hb

/-- A word in upper case is a token. -/
lemma tokens_of_isWordChar {w : List Char} (hne : w ≠ [])
    (hw : ∀ c ∈ w, isWordChar c = true ∧ c.toUpper = c) : tokens w = .ok [.word w] := by
  have general : ∀ word : List Char,
      tokensFrom word w = .ok (flushWord (w.reverse ++ word) []) := by
    clear hne
    induction w with
    | nil =>
      intro word
      rfl
    | cons c w ih =>
      intro word
      rw [List.forall_mem_cons] at hw
      rw [tokensFrom, if_pos hw.1.1, hw.1.2, ih hw.2, List.reverse_cons, List.append_assoc,
        List.singleton_append]
  rw [tokens, general, flushWord, if_neg (by simpa using hne)]
  simp

/-- Digits are characters of words and have no letter case. -/
lemma isWordChar_of_isDigit {c : Char} (h : c.isDigit = true) :
    isWordChar c = true ∧ c.toUpper = c := by
  constructor
  · simp [isWordChar, Char.isAlphanum, h]
  · have h9 : c.val ≤ '9'.val := by
      simp only [Char.isDigit, Bool.and_eq_true, decide_eq_true_eq] at h
      exact h.2
    exact dif_neg fun ha => absurd (UInt32.le_trans ha.1 h9) (by decide)

/-- The digits of a number are a token. -/
lemma tokens_toDigits (n : Nat) :
    tokens (Nat.toDigits 10 n) = .ok [.word (Nat.toDigits 10 n)] :=
  tokens_of_isWordChar Nat.toDigits_ne_nil fun _ hc =>
    isWordChar_of_isDigit (Text.isDigit_of_mem_toDigits hc)

/-! ## Readers along known tokens -/

lemma readNumber_toDigits {n : Nat} (hn : n < 2147483648) (ts : List Token) :
    readNumber (.word (Nat.toDigits 10 n) :: ts) = .ok ((n : Int), ts) := by
  rw [readNumber, nextText, Token.text, Text.readInteger_toDigits 32 hn]
  rfl

/-- A number does not end in a multiplier. -/
lemma splitMultiplier_of_isDigit {cs : List Char} (h : ∀ c ∈ cs, c.isDigit = true) :
    splitMultiplier cs = (1, cs) := by
  have hdigit : ∀ c ∈ cs.getLast?, c.isDigit = true := fun c hc => h c (List.mem_of_getLast? hc)
  unfold splitMultiplier
  split_ifs
  · rfl
  · split
    · next h => exact absurd (hdigit _ h) (by decide)
    · next h => exact absurd (hdigit _ h) (by decide)
    · next h => exact absurd (hdigit _ h) (by decide)
    · rfl

lemma readLength_toDigits {n : Nat} (h1 : 1 ≤ n) (hn : n ≤ 2147483647) (multipliers : Bool)
    (ts : List Token) :
    readLength multipliers (.opening :: .word (Nat.toDigits 10 n) :: .closing :: ts) =
      .ok ((n : Int), ts) := by
  have hinteger := Text.readInteger_toDigits 32 (Nat.lt_succ_of_le hn)
  have hsplit : (if multipliers = true then splitMultiplier (Nat.toDigits 10 n)
      else (1, Nat.toDigits 10 n)) = ((1 : Int), Nat.toDigits 10 n) := by
    rw [splitMultiplier_of_isDigit fun _ => Text.isDigit_of_mem_toDigits, ite_self]
  simp only [readLength, expect, Except.ok_bind, if_pos, nextText, Token.text, hsplit, hinteger,
    List.tail_cons, Int.mul_one]
  rw [if_neg (by omega), if_neg (by omega)]

lemma build_decimal {t : SqlType} (hf : t.family = .decimal) (ht : t.WellFormed) :
    build .decimal t.precision t.scale 0 = .ok (t.withNullable true) := by
  rw [SqlType.wellFormed_iff_of_decimal hf] at ht
  obtain ⟨h1, h31, hs, hl⟩ := ht
  rw [build, Except.mapError_eq_ok_iff, SqlType.make_decimal_eq_ok_iff]
  refine ⟨by omega, by omega, by omega, by omega, ?_⟩
  ext <;> simp [SqlType.withNullable, hf, hl]

lemma build_length {t : SqlType} (hf : t.family.declaresLength) (ht : t.WellFormed) :
    build t.family 0 0 t.length = .ok (t.withNullable true) := by
  rw [SqlType.wellFormed_iff_of_hasLength (Family.hasLength_of_declaresLength hf)] at ht
  obtain ⟨hp, hs, h1, hmax, -⟩ := ht
  rw [build, Except.mapError_eq_ok_iff, SqlType.make_eq_ok_iff_of_declaresLength hf]
  refine ⟨by omega, by omega, ?_⟩
  ext <;> simp [SqlType.withNullable, hp, hs]

/-! ## Spellings -/

/-- The tokens behind a type name that say whether its values may be NULL. -/
def nullabilityTokens (nullable : Bool) : List Token :=
  if nullable then [] else [.word "NOT".toList, .word "NULL".toList]

/-- What is left after a type has been read must be about nullability. -/
lemma readTokens_of_readNullable {t : SqlType} {ts : List Token}
    (h : readNullable ts = .ok (t.withNullable true, nullabilityTokens t.nullable)) :
    readTokens ts = .ok t := by
  rw [readTokens, h]
  cases hn : t.nullable with
  | false =>
    change Except.ok (t.withNullable false) = _
    rw [← hn]
    rfl
  | true =>
    change Except.ok (t.withNullable true) = _
    rw [← hn]
    rfl

lemma readNullable_decimal {t : SqlType} (hf : t.family = .decimal) (ht : t.WellFormed)
    (rest : List Token) :
    readNullable (.word "DECIMAL".toList :: .opening :: .word (Nat.toDigits 10 t.precision) ::
      .comma :: .word (Nat.toDigits 10 t.scale) :: .closing :: rest) =
        .ok (t.withNullable true, rest) := by
  have hbounds := (SqlType.wellFormed_iff_of_decimal hf).mp ht
  change readDecimal _ = _
  have hattributes : readDecimalAttributes (.opening :: .word (Nat.toDigits 10 t.precision) ::
      .comma :: .word (Nat.toDigits 10 t.scale) :: .closing :: rest) =
        .ok (((t.precision : Int), (t.scale : Int)), rest) := by
    simp only [readDecimalAttributes, List.head?_cons, if_pos, List.tail_cons,
      readNumber_toDigits (show t.precision < 2147483648 by omega),
      readNumber_toDigits (show t.scale < 2147483648 by omega), Except.ok_bind, expect]
  simp only [readDecimal, hattributes, Except.ok_bind, build_decimal hf ht]
  exact if_neg (by simp only [SqlType.maxDecimalPrecision]; omega)

/-- The families that declare a length. -/
lemma declaresLength_iff (f : Family) : f.declaresLength ↔
    (f = .char ∨ f = .charForBit) ∨ (f = .varchar ∨ f = .varcharForBit) ∨ f = .clob ∨
      f = .blob := by
  revert f
  decide

/-- The first word of the spelling of a type with a length. -/
def lengthWord : Family → String
  | .charForBit => "CHAR"
  | .varcharForBit => "VARCHAR"
  | f => f.name

/-- `FOR BIT DATA`, for the families that are spelled with it. -/
def forBitTokens (f : Family) : List Token :=
  if f = .charForBit ∨ f = .varcharForBit then
    [.word "FOR".toList, .word "BIT".toList, .word "DATA".toList]
  else []

/-- The tokens of a type with a length. -/
def lengthTokens (t : SqlType) : List Token :=
  .word (lengthWord t.family).toList :: .opening :: .word (Nat.toDigits 10 t.length) :: .closing ::
    forBitTokens t.family

/-- `FOR BIT DATA` selects the binary family; words about nullability are not taken for it. -/
lemma readForBitData_tokens (f plain bit : Family) (nullable : Bool) :
    readForBitData plain bit (forBitTokens f ++ nullabilityTokens nullable) =
      .ok (if f = .charForBit ∨ f = .varcharForBit then bit else plain,
        nullabilityTokens nullable) := by
  unfold forBitTokens
  split <;> cases nullable <;> rfl

/-- The tokens behind the first word of a type with a length. -/
def lengthTail (t : SqlType) (nullable : Bool) : List Token :=
  .opening :: .word (Nat.toDigits 10 t.length) :: .closing ::
    (forBitTokens t.family ++ nullabilityTokens nullable)

lemma readCharacter_lengthTail {t : SqlType} (hfam : t.family = .char ∨ t.family = .charForBit)
    (hf : t.family.declaresLength) (ht : t.WellFormed) (nullable : Bool) :
    readCharacter (lengthTail t nullable) =
      .ok (t.withNullable true, nullabilityTokens nullable) := by
  have hlength := SqlType.length_of_declaresLength hf ht
  have hfamily : (if t.family = .charForBit ∨ t.family = .varcharForBit then Family.charForBit
      else .char) = t.family := by
    rcases hfam with hfam | hfam <;> rw [hfam] <;> rfl
  rw [lengthTail]
  simp only [readCharacter, acceptWord?, reduceCtorEq, if_false, readLengthOr, List.head?_cons,
    if_pos, readLength_toDigits hlength.1 hlength.2, Except.ok_bind, readForBitData_tokens,
    hfamily, build_length hf ht]

lemma readVarchar_lengthTail {t : SqlType} (hfam : t.family = .varchar ∨ t.family = .varcharForBit)
    (hf : t.family.declaresLength) (ht : t.WellFormed) (nullable : Bool) :
    readVarchar (lengthTail t nullable) =
      .ok (t.withNullable true, nullabilityTokens nullable) := by
  have hlength := SqlType.length_of_declaresLength hf ht
  have hfamily : (if t.family = .charForBit ∨ t.family = .varcharForBit then Family.varcharForBit
      else .varchar) = t.family := by
    rcases hfam with hfam | hfam <;> rw [hfam] <;> rfl
  simp only [readVarchar, lengthTail, readLength_toDigits hlength.1 hlength.2, Except.ok_bind,
    readForBitData_tokens, hfamily, build_length hf ht]

lemma readLargeObject_lengthTail {t : SqlType} (hfam : t.family = .clob ∨ t.family = .blob)
    (hf : t.family.declaresLength) (ht : t.WellFormed) (nullable : Bool) :
    readLargeObject t.family (lengthTail t nullable) =
      .ok (t.withNullable true, nullabilityTokens nullable) := by
  have hlength := SqlType.length_of_declaresLength hf ht
  have hbits : forBitTokens t.family = [] := by
    rcases hfam with hfam | hfam <;> rw [hfam] <;> rfl
  simp only [readLargeObject, readLengthOr, lengthTail, List.head?_cons, if_pos, hbits,
    List.nil_append, readLength_toDigits hlength.1 hlength.2, Except.ok_bind, build_length hf ht]

/-- The first word of a type with a length leads to the reader of its family. -/
lemma readNullable_length {t : SqlType} (hf : t.family.declaresLength) (ht : t.WellFormed)
    (nullable : Bool) :
    readNullable (lengthTokens t ++ nullabilityTokens nullable) =
      .ok (t.withNullable true, nullabilityTokens nullable) := by
  have htokens : lengthTokens t ++ nullabilityTokens nullable =
      .word (lengthWord t.family).toList :: lengthTail t nullable := rfl
  rw [htokens]
  rcases (declaresLength_iff _).mp hf with hfam | hfam | hfam
  · rw [← readCharacter_lengthTail hfam hf ht nullable]
    rcases hfam with hfam | hfam <;> rw [hfam] <;> rfl
  · rw [← readVarchar_lengthTail hfam hf ht nullable]
    rcases hfam with hfam | hfam <;> rw [hfam] <;> rfl
  · rw [← readLargeObject_lengthTail hfam hf ht nullable]
    rcases hfam with hfam | hfam <;> rw [hfam] <;> rfl

/-! ## The texts of spellings -/

section Spelling

variable {t : SqlType}

/-- The spelling of a number. -/
lemma toList_toString (n : Nat) : (toString n).toList = Nat.toDigits 10 n := by
  rw [Nat.toString_eq_repr, Nat.toList_repr]

lemma sqlText_of_decimal (hf : t.family = .decimal) :
    t.sqlText.toList = "DECIMAL(".toList ++ Nat.toDigits 10 t.precision ++ [','] ++
      Nat.toDigits 10 t.scale ++ [')'] := by
  simp only [SqlType.sqlText, hf, String.toList_append, toList_toString]
  rfl

/-- What closes the length of a type; the binary families have `FOR BIT DATA` behind it. -/
def lengthClosing (f : Family) : List Char :=
  if f = .charForBit ∨ f = .varcharForBit then ") FOR BIT DATA".toList else [')']

lemma sqlText_of_declaresLength (hf : t.family.declaresLength) :
    t.sqlText.toList = (lengthWord t.family).toList ++ ['('] ++ Nat.toDigits 10 t.length ++
      lengthClosing t.family := by
  rcases (declaresLength_iff _).mp hf with (hfam | hfam) | (hfam | hfam) | hfam | hfam
  all_goals
    simp only [SqlType.sqlText, hfam, String.toList_append, toList_toString]
    rfl

lemma sqlText_of_fixed (hd : t.family ≠ .decimal) (hl : ¬ t.family.declaresLength) :
    t.sqlText.toList = t.family.sqlName.toList := by
  rw [SqlType.sqlText]
  split
  case h_1 h => exact absurd h hd
  case h_8 => rfl
  all_goals
    next h => exact absurd (by rw [h]; rfl) hl

lemma tokens_sqlText_decimal (hf : t.family = .decimal) :
    tokens t.sqlText.toList = .ok [.word "DECIMAL".toList, .opening,
      .word (Nat.toDigits 10 t.precision), .comma, .word (Nat.toDigits 10 t.scale), .closing] := by
  have hopening : tokens "DECIMAL(".toList = .ok [.word "DECIMAL".toList, .opening] := rfl
  have hprecision := tokens_append hopening (tokens_toDigits t.precision) (Or.inl ⟨'(', rfl, rfl⟩)
  have hcomma := tokens_append hprecision (show tokens [','] = .ok [.comma] from rfl)
    (Or.inr ⟨',', rfl, rfl⟩)
  have hscale := tokens_append hcomma (tokens_toDigits t.scale)
    (Or.inl ⟨',', List.getLast?_concat, rfl⟩)
  have hclosing := tokens_append hscale (show tokens [')'] = .ok [.closing] from rfl)
    (Or.inr ⟨')', rfl, rfl⟩)
  rw [sqlText_of_decimal hf]
  exact hclosing

lemma tokens_sqlText_length (hf : t.family.declaresLength) :
    tokens t.sqlText.toList = .ok (lengthTokens t) := by
  have hopening : ∀ f : Family, (tokens ((lengthWord f).toList ++ ['('])).toOption =
      some [.word (lengthWord f).toList, .opening] := by decide
  have hnumber := tokens_append (Except.eq_ok_of_toOption (hopening t.family))
    (tokens_toDigits t.length) (Or.inl ⟨'(', List.getLast?_concat, rfl⟩)
  rw [sqlText_of_declaresLength hf, lengthTokens, lengthClosing, forBitTokens]
  split
  · exact tokens_append hnumber (show tokens ") FOR BIT DATA".toList = .ok [.closing,
      .word "FOR".toList, .word "BIT".toList, .word "DATA".toList] from rfl)
      (Or.inr ⟨')', rfl, rfl⟩)
  · exact tokens_append hnumber (show tokens [')'] = .ok [.closing] from rfl)
      (Or.inr ⟨')', rfl, rfl⟩)

/-- A type whose attributes are all fixed by its family. -/
lemma eq_fixed_of_wellFormed (hd : t.family ≠ .decimal)
    (hl : ¬ t.family.declaresLength) (ht : t.WellFormed) :
    t = (SqlType.fixed t.family).withNullable t.nullable := by
  have table : ∀ f : Family, f.hasLength → f.nominalPrecision = 0 ∧ f.nominalScale = 0 := by
    decide
  by_cases hf : t.family.hasLength
  · obtain ⟨hp, hs, -, -, hlength⟩ := (SqlType.wellFormed_iff_of_hasLength hf).mp ht
    obtain ⟨hp', hs'⟩ := table t.family hf
    ext <;> simp [SqlType.withNullable, SqlType.fixed, hp, hs, hp', hs', hlength hl]
  · obtain ⟨hp, hs, hlength⟩ := (SqlType.wellFormed_iff_of_fixed hd hf).mp ht
    have hmax : t.family.maxLength = 0 := by simpa [Family.hasLength] using hf
    ext <;> simp [SqlType.withNullable, SqlType.fixed, hp, hs, hlength, hmax]

/-- The spellings without attributes are read back. -/
lemma read_render_fixed : ∀ f : Family, f ≠ .decimal → ¬ f.declaresLength → ∀ nullable : Bool,
    (read ((SqlType.fixed f).withNullable nullable).render.toList).toOption =
      some ((SqlType.fixed f).withNullable nullable) := by
  decide +kernel

/-- The tokens of a spelling are those without nullability and the words about it. -/
lemma tokens_render {ts : List Token} (h : tokens t.sqlText.toList = .ok ts) :
    tokens t.render.toList = .ok (ts ++ nullabilityTokens t.nullable) := by
  unfold SqlType.render
  cases t.nullable with
  | true =>
    rw [if_pos rfl, h]
    simp [nullabilityTokens]
  | false =>
    rw [if_neg (by decide), String.toList_append]
    exact tokens_append h (show tokens " NOT NULL".toList = .ok (nullabilityTokens false) from rfl)
      (Or.inr ⟨' ', rfl, rfl⟩)

/-- The spelling of a well-formed type is read as the type. -/
lemma read_render (ht : t.WellFormed) : read t.render.toList = .ok t := by
  by_cases hd : t.family = .decimal
  · rw [read, tokens_render (tokens_sqlText_decimal hd), Except.ok_bind]
    exact readTokens_of_readNullable (readNullable_decimal hd ht _)
  · by_cases hl : t.family.declaresLength
    · rw [read, tokens_render (tokens_sqlText_length hl), Except.ok_bind]
      exact readTokens_of_readNullable (readNullable_length hl ht _)
    · rw [eq_fixed_of_wellFormed hd hl ht]
      exact Except.eq_ok_of_toOption (read_render_fixed t.family hd hl t.nullable)

/-- The characters of spellings, which have no small letters. -/
def isSpellingChar (c : Char) : Bool :=
  c.isUpper || c.isDigit || c = ' ' || c = '(' || c = ')' || c = ','

lemma isSpellingChar_of_mem_toDigits {n : Nat} {c : Char} (h : c ∈ Nat.toDigits 10 n) :
    isSpellingChar c = true := by
  simp [isSpellingChar, Text.isDigit_of_mem_toDigits h]

lemma isSpellingChar_of_mem_sqlText {c : Char} (h : c ∈ t.sqlText.toList) :
    isSpellingChar c = true := by
  have hname : ∀ f : Family, f.sqlName.toList.all isSpellingChar = true := by decide
  have hword : ∀ f : Family, f.declaresLength →
      ((lengthWord f).toList ++ ['(']).all isSpellingChar = true := by decide
  have hclosing : ∀ f : Family, (lengthClosing f).all isSpellingChar = true := by decide
  by_cases hd : t.family = .decimal
  · have hopening : "DECIMAL(".toList.all isSpellingChar = true := by decide
    rw [sqlText_of_decimal hd] at h
    simp only [List.mem_append, List.mem_singleton] at h
    rcases h with (((h | h) | rfl) | h) | rfl
    · exact List.all_eq_true.mp hopening c h
    · exact isSpellingChar_of_mem_toDigits h
    · rfl
    · exact isSpellingChar_of_mem_toDigits h
    · rfl
  · by_cases hl : t.family.declaresLength
    · rw [sqlText_of_declaresLength hl, List.mem_append, List.mem_append] at h
      rcases h with (h | h) | h
      · exact List.all_eq_true.mp (hword t.family hl) c h
      · exact isSpellingChar_of_mem_toDigits h
      · exact List.all_eq_true.mp (hclosing t.family) c h
    · rw [sqlText_of_fixed hd hl] at h
      exact List.all_eq_true.mp (hname t.family) c h

lemma isSpellingChar_of_mem_render {c : Char} (h : c ∈ t.render.toList) :
    isSpellingChar c = true := by
  have hnot : " NOT NULL".toList.all isSpellingChar = true := by decide
  unfold SqlType.render at h
  split at h
  · exact isSpellingChar_of_mem_sqlText h
  · rw [String.toList_append, List.mem_append] at h
    rcases h with h | h
    · exact isSpellingChar_of_mem_sqlText h
    · exact List.all_eq_true.mp hnot c h

/-- A spelling starts like the name of its family. -/
lemma head?_render : t.render.toList.head? = t.family.name.toList.head? := by
  have hname : ∀ f : Family, f.sqlName.toList.head? = f.name.toList.head? := by decide
  have hword : ∀ f : Family, ((lengthWord f).toList ++ ['(']).head? = f.name.toList.head? := by
    decide
  have hne : ∀ f : Family, f.name.toList.head? ≠ none := by decide
  have hsql : t.sqlText.toList.head? = t.family.name.toList.head? := by
    by_cases hd : t.family = .decimal
    · rw [sqlText_of_decimal hd, hd]
      rfl
    · by_cases hl : t.family.declaresLength
      · rw [sqlText_of_declaresLength hl, List.append_assoc, List.head?_append, hword]
        exact Option.or_of_isSome (Option.isSome_iff_ne_none.mpr (hne t.family))
      · rw [sqlText_of_fixed hd hl, hname]
  unfold SqlType.render
  split
  · exact hsql
  · rw [String.toList_append, List.head?_append, hsql]
    exact Option.or_of_isSome (Option.isSome_iff_ne_none.mpr (hne t.family))

/-- A spelling does not end in white space. -/
lemma isSpace_of_getLast?_render {c : Char} (h : t.render.toList.getLast? = some c) :
    Text.isSpace c = false := by
  have hname : ∀ f : Family, f.sqlName.toList.getLast?.any Text.isSpace = false := by decide
  have hclosing : ∀ f : Family, lengthClosing f ≠ [] ∧
      (lengthClosing f).getLast?.any Text.isSpace = false := by
    decide
  have hnot : " NOT NULL".toList.getLast?.any Text.isSpace = false := by decide
  unfold SqlType.render at h
  split at h
  · by_cases hd : t.family = .decimal
    · rw [sqlText_of_decimal hd, List.getLast?_concat] at h
      cases h
      rfl
    · by_cases hl : t.family.declaresLength
      · rw [sqlText_of_declaresLength hl,
          List.getLast?_append_of_ne_nil _ (hclosing t.family).1] at h
        exact Text.isSpace_of_getLast?_any (hclosing t.family).2 c h
      · rw [sqlText_of_fixed hd hl] at h
        exact Text.isSpace_of_getLast?_any (hname t.family) c h
  · rw [String.toList_append, List.getLast?_append_of_ne_nil _ (by decide)] at h
    exact Text.isSpace_of_getLast?_any hnot c h

end Spelling

/-! ## What is read is well formed -/

section

variable {t : SqlType} {ts rest : List Token}

lemma wellFormed_of_build {f : Family} {precision scale length : Int}
    (h : build f precision scale length = .ok t) : t.WellFormed :=
  (SqlType.wellFormed_of_make (Except.mapError_eq_ok_iff.mp h)).1

/-- A reader that builds a type at its end. -/
lemma wellFormed_of_build_bind {f : Family} {precision scale length : Int}
    (h : (build f precision scale length >>= fun u => .ok (u, ts)) = .ok (t, rest)) :
    t.WellFormed := by
  obtain ⟨u, hu, h⟩ := Except.bind_eq_ok_iff.mp h
  cases h
  exact wellFormed_of_build hu

lemma wellFormed_of_readDecimal (h : readDecimal ts = .ok (t, rest)) : t.WellFormed := by
  obtain ⟨⟨⟨precision, scale⟩, ts'⟩, -, h⟩ := Except.bind_eq_ok_iff.mp h
  dsimp only at h
  split at h
  · cases h
  · exact wellFormed_of_build_bind h

lemma wellFormed_of_readFloat (h : readFloat ts = .ok (t, rest)) : t.WellFormed := by
  have hreal : (SqlType.fixed .real).WellFormed := by decide
  have hdouble : (SqlType.fixed .double).WellFormed := by decide
  unfold readFloat at h
  split at h
  · obtain ⟨⟨precision, ts'⟩, -, h⟩ := Except.bind_eq_ok_iff.mp h
    obtain ⟨ts'', -, h⟩ := Except.bind_eq_ok_iff.mp h
    split_ifs at h
    · cases h
      exact hreal
    · cases h
      exact hdouble
  · cases h
    exact hdouble

lemma wellFormed_of_readVarchar (h : readVarchar ts = .ok (t, rest)) : t.WellFormed := by
  obtain ⟨⟨length, ts'⟩, -, h⟩ := Except.bind_eq_ok_iff.mp h
  obtain ⟨⟨f, ts''⟩, -, h⟩ := Except.bind_eq_ok_iff.mp h
  exact wellFormed_of_build_bind h

lemma wellFormed_of_readLargeObject {f : Family} (h : readLargeObject f ts = .ok (t, rest)) :
    t.WellFormed := by
  obtain ⟨⟨length, ts'⟩, -, h⟩ := Except.bind_eq_ok_iff.mp h
  exact wellFormed_of_build_bind h

lemma wellFormed_of_readCharacter (h : readCharacter ts = .ok (t, rest)) : t.WellFormed := by
  unfold readCharacter at h
  split at h
  · exact wellFormed_of_readVarchar h
  · split at h
    · obtain ⟨ts', -, h⟩ := Except.bind_eq_ok_iff.mp h
      exact wellFormed_of_readLargeObject h
    · obtain ⟨⟨length, ts'⟩, -, h⟩ := Except.bind_eq_ok_iff.mp h
      obtain ⟨⟨f, ts''⟩, -, h⟩ := Except.bind_eq_ok_iff.mp h
      exact wellFormed_of_build_bind h

lemma wellFormed_of_readLong (h : readLong ts = .ok (t, rest)) : t.WellFormed := by
  obtain ⟨ts', -, h⟩ := Except.bind_eq_ok_iff.mp h
  obtain ⟨⟨f, ts''⟩, hbits, h⟩ := Except.bind_eq_ok_iff.mp h
  cases h
  have hlong : f = .longVarchar ∨ f = .longVarcharForBit := by
    unfold readForBitData at hbits
    split at hbits
    · cases hbits
      exact Or.inl rfl
    · obtain ⟨us, -, hbits⟩ := Except.bind_eq_ok_iff.mp hbits
      obtain ⟨vs, -, hbits⟩ := Except.bind_eq_ok_iff.mp hbits
      cases hbits
      exact Or.inr rfl
  rcases hlong with rfl | rfl <;> decide

/-- The families that a single word names have no attributes of their own. -/
lemma wellFormed_of_mem_openings {name : String} {f : Family} (h : (name, .fixed f) ∈ openings) :
    (SqlType.fixed f).WellFormed := by
  have table : openings.all (fun o => match o.2 with
      | .fixed f => decide (SqlType.fixed f).WellFormed
      | _ => true) = true := by
    decide
  simpa using List.all_eq_true.mp table _ h

/-- Whatever the first word of a type name announces, the type that is read is well formed. -/
lemma wellFormed_of_readAfter {name : String} {o : Opening} (ho : (name, o) ∈ openings)
    (h : readAfter o ts = .ok (t, rest)) : t.WellFormed := by
  cases o with
  | fixed f =>
    cases h
    exact wellFormed_of_mem_openings ho
  | decimal => exact wellFormed_of_readDecimal h
  | double =>
    cases h
    decide
  | float => exact wellFormed_of_readFloat h
  | character => exact wellFormed_of_readCharacter h
  | varchar => exact wellFormed_of_readVarchar h
  | long => exact wellFormed_of_readLong h
  | largeObject f => exact wellFormed_of_readLargeObject h
  | binary =>
    obtain ⟨ts', -, h⟩ := Except.bind_eq_ok_iff.mp h
    obtain ⟨ts'', -, h⟩ := Except.bind_eq_ok_iff.mp h
    exact wellFormed_of_readLargeObject h

lemma wellFormed_of_readNullable (h : readNullable ts = .ok (t, rest)) : t.WellFormed := by
  cases ts with
  | nil => cases h
  | cons first ts =>
    rw [readNullable] at h
    split at h
    · next name o hfind => exact wellFormed_of_readAfter (List.mem_of_find?_eq_some hfind) h
    · cases h

/-- Every type that is read is well formed. -/
lemma wellFormed_of_read {cs : List Char} (h : read cs = .ok t) : t.WellFormed := by
  obtain ⟨ts, -, h⟩ := Except.bind_eq_ok_iff.mp h
  obtain ⟨⟨u, ts'⟩, hu, h⟩ := Except.bind_eq_ok_iff.mp h
  have hu := wellFormed_of_readNullable hu
  dsimp only at h
  split at h
  · split at h
    · cases h
      exact hu
    · cases h
  · obtain ⟨ts'', -, h⟩ := Except.bind_eq_ok_iff.mp h
    split at h
    · cases h
      exact hu
    · cases h

end

end TypeName

namespace SqlType

variable {t : SqlType}

/-- Every type that a text names is well formed. -/
lemma wellFormed_of_parse {source : String} (h : parse source = .ok t) : t.WellFormed :=
  TypeName.wellFormed_of_read (Except.mapError_eq_ok_iff.mp h)

/-- Every type that a text with stray bytes names is well formed. -/
lemma wellFormed_of_parseRaw {source : Text.Raw} (h : parseRaw source = .ok t) : t.WellFormed := by
  unfold parseRaw at h
  dsimp only at h
  split at h
  · exact TypeName.wellFormed_of_read (Except.mapError_eq_ok_iff.mp h)
  · cases h

/-- The spelling of a well-formed type names the type. -/
lemma parse_render (ht : t.WellFormed) : parse t.render = .ok t :=
  Except.mapError_eq_ok_iff.mpr (TypeName.read_render ht)

/-- The types that their spellings name are exactly the well-formed ones, and no two of these share
a spelling. -/
theorem parse_render_eq_iff_wellFormed :
    (∀ t : SqlType, parse t.render = .ok t ↔ t.WellFormed) ∧
      Set.InjOn render {t | t.WellFormed} := by
  refine ⟨fun t => ⟨wellFormed_of_parse, parse_render⟩, ?_⟩
  intro t ht u hu hspelling
  have hread : (Except.ok t : Except Diagnostic SqlType) = .ok u := by
    rw [← parse_render ht, hspelling, parse_render hu]
  exact Except.ok.inj hread

end SqlType

end SqlTyping
