import SqlTyping.Proofs.TypeName

/-!
# The grammar of type names

What a text must be to name a type, told without the reader. A text consists of tokens with white
space between them (`Consists`). The tokens of a name are a phrase for the family with attributes
behind it (`Denotes`), and `NOT NULL` may follow. The grammar is written down as in a manual, one
rule for each kind of type, and numbers are what their digits stand for (`Writes`).
-/

namespace SqlTyping.TypeName

/-! ## Texts and their tokens -/

/-- The text consists of the tokens, in this order. White space may stand around tokens, and it must
stand between two words. Letter case does not count. -/
inductive Consists : List Char → List Token → Prop
  | nil : Consists [] []
  | blank {c : Char} {cs : List Char} {ts : List Token} (hc : isBlank c = true) :
    Consists cs ts → Consists (c :: cs) ts
  | opening {cs : List Char} {ts : List Token} :
    Consists cs ts → Consists ('(' :: cs) (.opening :: ts)
  | closing {cs : List Char} {ts : List Token} :
    Consists cs ts → Consists (')' :: cs) (.closing :: ts)
  | comma {cs : List Char} {ts : List Token} :
    Consists cs ts → Consists (',' :: cs) (.comma :: ts)
  | word {w cs : List Char} {ts : List Token} (hne : w ≠ [])
    (hw : ∀ c ∈ w, isWordChar c = true) (hend : ∀ c ∈ cs.head?, isWordChar c = false) :
    Consists cs ts → Consists (w ++ cs) (.word (w.map Char.toUpper) :: ts)

section Tokens

variable {c : Char} {cs w word : List Char} {ts : List Token}

/-- The characters of a word are added to the word that is being read. -/
lemma tokensFrom_append (hw : ∀ c ∈ w, isWordChar c = true) :
    tokensFrom word (w ++ cs) = tokensFrom ((w.map Char.toUpper).reverse ++ word) cs := by
  induction w generalizing word with
  | nil => rfl
  | cons c w ih =>
    rw [List.forall_mem_cons] at hw
    rw [List.cons_append, tokensFrom, if_pos hw.1, ih hw.2]
    simp

/-- A character that belongs to no token is refused. -/
lemma tokensFrom_cons_of_strange (hc : isWordChar c = false) (hseps : separator? c = none) :
    tokensFrom word (c :: cs) = .error (.strangeCharacter c) := by
  rw [tokensFrom, if_neg (by simp [hc]), hseps]

/-- At the end of a word the reading starts anew. -/
lemma tokensFrom_of_end (hend : ∀ c ∈ cs.head?, isWordChar c = false) :
    tokensFrom word cs = flushWord word <$> tokens cs := by
  unfold tokens
  cases cs with
  | nil => rfl
  | cons c cs =>
    have hc := hend c rfl
    cases hseps : separator? c with
    | none =>
      rw [tokensFrom_cons_of_strange hc hseps, tokensFrom_cons_of_strange hc hseps]
      rfl
    | some seps =>
      rw [tokensFrom_cons_of_separator hc hseps, tokensFrom_cons_of_separator hc hseps]
      cases tokensFrom [] cs <;> rfl

/-- The tokens behind a word. -/
lemma tokens_append_eq_ok_iff (hne : w ≠ []) (hw : ∀ c ∈ w, isWordChar c = true)
    (hend : ∀ c ∈ cs.head?, isWordChar c = false) :
    tokens (w ++ cs) = .ok ts ↔
      ∃ us, tokens cs = .ok us ∧ ts = .word (w.map Char.toUpper) :: us := by
  have hflush : ∀ us, flushWord ((w.map Char.toUpper).reverse ++ []) us =
      .word (w.map Char.toUpper) :: us := by
    intro us
    rw [flushWord, if_neg (by simpa using hne), List.append_nil, List.reverse_reverse]
  rw [tokens, tokensFrom_append hw, tokensFrom_of_end hend]
  refine Except.map_eq_ok_iff.trans ?_
  simp only [hflush, eq_comm]

/-- White space is not part of words. -/
lemma isWordChar_of_isBlank (hc : isBlank c = true) : isWordChar c = false := by
  have table : ∀ n < 14, isWordChar (Char.ofNat n) = false := by decide
  rcases Bool.or_eq_true_iff.mp hc with hc | hc
  · rw [of_decide_eq_true hc]
    rfl
  · have hcode : c.toNat ≤ 13 := of_decide_eq_true (Bool.and_eq_true_iff.mp hc).2
    rw [← Char.ofNat_toNat c]
    exact table c.toNat (by omega)

/-- A separator in front of a text stands for its tokens. -/
lemma Consists.separator {seps : List Token} (hseps : separator? c = some seps)
    (h : Consists cs ts) : Consists (c :: cs) (seps ++ ts) := by
  unfold separator? at hseps
  split_ifs at hseps with hblank hopening hclosing hcomma
  · cases hseps
    exact h.blank hblank
  · cases hseps
    exact hopening ▸ h.opening
  · cases hseps
    exact hclosing ▸ h.closing
  · cases hseps
    exact hcomma ▸ h.comma

/-- A text consists of the tokens that are read from it. -/
lemma consists_of_tokens (h : tokens cs = .ok ts) : Consists cs ts := by
  -- Words are taken off as a whole, so the text gets shorter by more than one character.
  induction hn : cs.length using Nat.strongRecOn generalizing cs ts with
  | ind n ih =>
    subst hn
    cases cs with
    | nil =>
      cases h
      exact .nil
    | cons c cs =>
      by_cases hc : isWordChar c = true
      · have hne : (c :: cs).takeWhile isWordChar ≠ [] := by simp [hc]
        have hw : ∀ d ∈ (c :: cs).takeWhile isWordChar, isWordChar d = true := fun d hd =>
          List.mem_takeWhile_imp hd
        have hend : ∀ d ∈ ((c :: cs).dropWhile isWordChar).head?, isWordChar d = false := by
          intro d hd
          have hnot := List.head?_dropWhile_not isWordChar (c :: cs)
          rw [Option.mem_def.mp hd] at hnot
          exact hnot
        have hlength : ((c :: cs).dropWhile isWordChar).length < (c :: cs).length := by
          rw [List.dropWhile_cons_of_pos hc]
          exact Nat.lt_succ_of_le (List.dropWhile_suffix _).length_le
        rw [← List.takeWhile_append_dropWhile (p := isWordChar) (l := c :: cs)] at h ⊢
        obtain ⟨us, hus, rfl⟩ := (tokens_append_eq_ok_iff hne hw hend).mp h
        exact .word hne hw hend (ih _ hlength hus rfl)
      · rw [Bool.not_eq_true] at hc
        obtain ⟨seps, us, hseps, hus, rfl⟩ := tokensFrom_cons_eq_ok hc h
        exact .separator hseps (ih _ (Nat.lt_succ_self _) hus rfl)

/-- The tokens that a text consists of are read from it. -/
lemma tokens_of_consists (h : Consists cs ts) : tokens cs = .ok ts := by
  induction h with
  | nil => rfl
  | blank hc _ ih =>
    have hseps : separator? _ = some [] := if_pos hc
    rw [tokens, tokensFrom_cons_of_separator (isWordChar_of_isBlank hc) hseps, ← tokens, ih]
    rfl
  | opening _ ih | closing _ ih | comma _ ih =>
    rw [tokens, tokensFrom_cons_of_separator rfl rfl, ← tokens, ih]
    rfl
  | word hne hw hend _ ih => exact (tokens_append_eq_ok_iff hne hw hend).mpr ⟨_, ih, rfl⟩

/-- The characters of words are ASCII. -/
lemma toNat_lt_of_isWordChar (hc : isWordChar c = true) : c.toNat < 128 := by
  have hle : ∀ {limit : Char}, c.val ≤ limit.val → limit.toNat < 128 → c.toNat < 128 :=
    fun h hlimit => Nat.lt_of_le_of_lt (UInt32.le_iff_toNat_le.mp h) hlimit
  rcases Bool.or_eq_true_iff.mp hc with hc | hc
  · rcases Bool.or_eq_true_iff.mp hc with hc | hc
    · rcases Bool.or_eq_true_iff.mp hc with hc | hc
      · have hupper : c.val ≥ 'A'.val ∧ c.val ≤ 'Z'.val := of_decide_eq_true hc
        exact hle hupper.2 (by decide)
      · exact hle (of_decide_eq_true (Bool.and_eq_true_iff.mp hc).2) (by decide)
    · exact hle (of_decide_eq_true (Bool.and_eq_true_iff.mp hc).2) (by decide)
  · rw [of_decide_eq_true hc]
    decide

/-- No token has a sign in it. The readers of numbers take signs, so what they read in the tokens of
a text are digits alone. -/
def Unsigned (ts : List Token) : Prop :=
  ∀ t ∈ ts, ∀ c ∈ t.text, c ≠ '+' ∧ c ≠ '-'

lemma Unsigned.tail (h : Unsigned ts) : Unsigned ts.tail :=
  fun t ht => h t (List.mem_of_mem_tail ht)

lemma Unsigned.of_append {us : List Token} (h : Unsigned (ts ++ us)) : Unsigned us :=
  fun t ht => h t (List.mem_append_right ts ht)

lemma Consists.unsigned (h : Consists cs ts) : Unsigned ts := by
  have hupper : ∀ {c : Char}, isWordChar c = true → c.toUpper ≠ '+' ∧ c.toUpper ≠ '-' := by
    intro c hc
    have table : ∀ n < 128, isWordChar (Char.ofNat n) = true →
        (Char.ofNat n).toUpper ≠ '+' ∧ (Char.ofNat n).toUpper ≠ '-' := by
      decide
    have hcode := table c.toNat (toNat_lt_of_isWordChar hc)
    rw [Char.ofNat_toNat] at hcode
    exact hcode hc
  induction h with
  | nil =>
    intro t ht
    cases ht
  | blank _ _ ih => exact ih
  | opening _ ih | closing _ ih | comma _ ih =>
    refine List.forall_mem_cons.mpr ⟨fun c hc => ?_, ih⟩
    rw [List.mem_singleton.mp hc]
    decide
  | word _ hw _ _ ih =>
    refine List.forall_mem_cons.mpr ⟨?_, ih⟩
    intro c hc
    obtain ⟨d, hd, rfl⟩ := List.mem_map.mp hc
    exact hupper (hw d hd)

end Tokens

/-! ## Rules -/

/-- The tokens of a phrase. -/
def phrase (ws : List String) : List Token :=
  ws.map fun w => .word w.toList

/-- The digits write the number, possibly with zeros in front. Numbers fit 32 bits with a sign. -/
def Writes (w : List Char) (n : Nat) : Prop :=
  w ≠ [] ∧ (∀ c ∈ w, c.isDigit = true) ∧ Nat.ofDigitChars 10 w 0 = n ∧ n < 2147483648

/-- The names of families whose types have no attributes. FLOAT without a precision is one of
them. -/
def plainNames : List (List String × Family) :=
  [(["BOOLEAN"], .boolean), (["SMALLINT"], .smallInt), (["INT"], .integer),
    (["INTEGER"], .integer), (["BIGINT"], .bigInt), (["REAL"], .real), (["DOUBLE"], .double),
    (["DOUBLE", "PRECISION"], .double), (["FLOAT"], .double), (["LONG", "VARCHAR"], .longVarchar),
    (["LONG", "VARCHAR", "FOR", "BIT", "DATA"], .longVarcharForBit), (["DATE"], .date),
    (["TIME"], .time), (["TIMESTAMP"], .timestamp)]

def decimalNames : List (List String) :=
  [["DECIMAL"], ["DEC"], ["NUMERIC"]]

def characterNames : List (List String) :=
  [["CHAR"], ["CHARACTER"]]

def varcharNames : List (List String) :=
  [["VARCHAR"], ["CHAR", "VARYING"], ["CHARACTER", "VARYING"]]

def largeObjectNames : List (List String × Family) :=
  [(["CLOB"], .clob), (["CHAR", "LARGE", "OBJECT"], .clob),
    (["CHARACTER", "LARGE", "OBJECT"], .clob), (["BLOB"], .blob),
    (["BINARY", "LARGE", "OBJECT"], .blob)]

/-- The precision and scale of a DECIMAL, with their defaults. -/
inductive DecimalAttributes : List Token → Nat → Nat → Prop
  | omitted : DecimalAttributes [] 5 0
  | precision {w : List Char} {p : Nat} (hp : Writes w p) :
    DecimalAttributes [.opening, .word w, .closing] p 0
  | both {w v : List Char} {p s : Nat} (hp : Writes w p) (hs : Writes v s) :
    DecimalAttributes [.opening, .word w, .comma, .word v, .closing] p s

/-- What may stand behind the digits of a length, and the factor that it means. -/
def factors (multipliers : Bool) : List (List Char × Nat) :=
  ([], 1) :: if multipliers then [(['K'], 1024), (['M'], 1048576), (['G'], 1073741824)] else []

/-- A length in parentheses, between one and the greatest length. The product of two and `G` is
above the greatest length by one, and stands for the greatest length. -/
inductive Length (multipliers : Bool) : List Token → Nat → Prop
  | intro {w mark : List Char} {n factor length : Nat} (hw : Writes w n)
    (hmark : (mark, factor) ∈ factors multipliers)
    (hlength : length = if n * factor = 2147483648 then 2147483647 else n * factor)
    (hmin : 1 ≤ length) (hmax : length ≤ 2147483647) :
    Length multipliers [.opening, .word (w ++ mark), .closing] length

lemma Length.range {multipliers : Bool} {as : List Token} {n : Nat}
    (h : Length multipliers as n) : 1 ≤ n ∧ n ≤ 2147483647 := by
  cases h with
  | intro _ _ _ hmin hmax => exact ⟨hmin, hmax⟩

/-- `FOR BIT DATA`, which some families are named with. -/
def forBitData (bits : Bool) : List Token :=
  if bits then phrase ["FOR", "BIT", "DATA"] else []

/-- The tokens name the type, which is nullable. Lengths are at most the ceiling of the family. -/
inductive Denotes : List Token → SqlType → Prop
  | plain {ws : List String} {f : Family} (h : (ws, f) ∈ plainNames) :
    Denotes (phrase ws) (SqlType.fixed f)
  | decimal {ws : List String} {as : List Token} {p s : Nat} (h : ws ∈ decimalNames)
    (ha : DecimalAttributes as p s) (hp : 1 ≤ p) (hp' : p ≤ 31) (hs : s ≤ p) :
    Denotes (phrase ws ++ as) ⟨.decimal, p, s, 0, true⟩
  | float {w : List Char} {p : Nat} (hw : Writes w p) (hp : 1 ≤ p) (hp' : p ≤ 52) :
    Denotes (phrase ["FLOAT"] ++ [.opening, .word w, .closing])
      (SqlType.fixed (if p ≤ 23 then .real else .double))
  | character {ws : List String} {as : List Token} {n : Nat} {bits : Bool} {f : Family}
    (h : ws ∈ characterNames) (hf : f = if bits then .charForBit else .char)
    (ha : as = [] ∧ n = 1 ∨ Length false as n) (hn : n ≤ f.maxLength) :
    Denotes (phrase ws ++ as ++ forBitData bits) ⟨f, 0, 0, n, true⟩
  | varchar {ws : List String} {as : List Token} {n : Nat} {bits : Bool} {f : Family}
    (h : ws ∈ varcharNames) (hf : f = if bits then .varcharForBit else .varchar)
    (ha : Length false as n) (hn : n ≤ f.maxLength) :
    Denotes (phrase ws ++ as ++ forBitData bits) ⟨f, 0, 0, n, true⟩
  | largeObject {ws : List String} {as : List Token} {n : Nat} {f : Family}
    (h : (ws, f) ∈ largeObjectNames) (ha : as = [] ∧ n = 2147483647 ∨ Length true as n) :
    Denotes (phrase ws ++ as) ⟨f, 0, 0, n, true⟩

/-- The text names the type. `NOT NULL` at the end makes it one whose values cannot be NULL. -/
def Names (text : List Char) (t : SqlType) : Prop :=
  ∃ (ts : List Token) (u : SqlType) (nullable : Bool), Denotes ts u ∧
    Consists text (ts ++ nullabilityTokens nullable) ∧ t = u.withNullable nullable

end SqlTyping.TypeName
