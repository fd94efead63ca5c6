import SqlTyping.Proofs.Statement.Operand
import SqlTyping.Proofs.TypeName.Acceptance

/-!
# Type names in operand lists

A type can be written in many ways, and every text that names a type is an operand of this type: it
passes through the cutting of operand lists because its parentheses are closed (`closed_of_read`),
the white space at its ends is not part of the name (`read_trimList`), and it does not look like an
operand of another kind (`Operand.read_typed`).
-/

namespace SqlTyping

namespace TypeName

variable {c : Char} {cs : List Char} {ts : List Token} {t : SqlType}

/-! ## Characters -/

/-- The characters of tokens and the white space between them are ASCII. -/
lemma toNat_lt_of_isStrange (hc : isStrange c = false) : c.toNat < 128 := by
  rw [isStrange, Bool.not_eq_false', Bool.or_eq_true, separator?] at hc
  rcases hc with hc | hc
  · exact toNat_lt_of_isWordChar hc
  split_ifs at hc with hblank hopening hclosing hcomma
  · simp only [isBlank, Bool.or_eq_true, Bool.and_eq_true, decide_eq_true_eq] at hblank
    rcases hblank with rfl | hblank
    · decide
    · omega
  · rw [hopening]
    decide
  · rw [hclosing]
    decide
  · rw [hcomma]
    decide
  · cases hc

/-- What holds for the ASCII characters of type names holds for all their characters. -/
lemma of_isStrange {p : Char → Prop} (table : ∀ n < 128, isStrange (Char.ofNat n) = false →
    p (Char.ofNat n)) (hc : isStrange c = false) : p c := by
  have hcode := table c.toNat (toNat_lt_of_isStrange hc)
  rw [Char.ofNat_toNat] at hcode
  exact hcode hc

/-- Words and white space do not open, close or separate anything. -/
lemma isNeutral_of_isStrange (hc : isStrange c = false)
    (hword : isWordChar c = true ∨ isBlank c = true) : Nesting.isNeutral c = true := by
  have table : ∀ n < 128, isStrange (Char.ofNat n) = false →
      isWordChar (Char.ofNat n) = true ∨ isBlank (Char.ofNat n) = true →
        Nesting.isNeutral (Char.ofNat n) = true := by
    decide
  exact of_isStrange (p := fun c => isWordChar c = true ∨ isBlank c = true →
    Nesting.isNeutral c = true) table hc hword

lemma isStrange_of_isWordChar (hc : isWordChar c = true) : isStrange c = false := by
  simp [isStrange, hc]

lemma isStrange_of_isBlank (hc : isBlank c = true) : isStrange c = false := by
  simp [isStrange, separator?, hc]

lemma Consists.isStrange (h : Consists cs ts) : ∀ c ∈ cs, isStrange c = false := by
  induction h with
  | nil => exact List.forall_mem_nil _
  | blank hc _ ih => exact List.forall_mem_cons.mpr ⟨isStrange_of_isBlank hc, ih⟩
  | opening _ ih | closing _ ih | comma _ ih => exact List.forall_mem_cons.mpr ⟨rfl, ih⟩
  | word _ hw _ _ ih =>
    exact List.forall_mem_append.mpr ⟨fun c hc => isStrange_of_isWordChar (hw c hc), ih⟩

/-! ## Parentheses -/

/-- How many parentheses are open behind a token. A comma or a closing parenthesis outside of
parentheses ends the text. -/
def Token.depth? (depth : Nat) : Token → Option Nat
  | word _ => some depth
  | opening => some (depth + 1)
  | closing => if depth = 0 then none else some (depth - 1)
  | comma => if depth = 0 then none else some depth

/-- How deep inside parentheses a place is can be told from the tokens in front of it. -/
lemma Consists.after? (h : Consists cs ts) (depth : Nat) :
    (Nesting.mk depth false).after? cs = (ts.foldlM Token.depth? depth).map (⟨·, false⟩) := by
  induction h generalizing depth with
  | nil => rfl
  | @blank c cs ts hc _ ih =>
    have hneutral := isNeutral_of_isStrange (isStrange_of_isBlank hc) (.inr hc)
    have hblank : (Nesting.mk depth false).after? [c] = some ⟨depth, false⟩ :=
      Nesting.after?_of_isNeutral rfl (List.forall_mem_singleton.mpr hneutral)
    rw [← List.singleton_append, Nesting.after?_append, hblank]
    exact ih depth
  | opening _ ih =>
    rw [Nesting.after?_cons, List.foldlM_cons]
    exact ih (depth + 1)
  | closing _ ih =>
    rw [Nesting.after?_cons, List.foldlM_cons]
    cases depth with
    | zero => rfl
    | succ depth => exact ih depth
  | comma _ ih =>
    rw [Nesting.after?_cons, List.foldlM_cons]
    cases depth with
    | zero => rfl
    | succ depth => exact ih (depth + 1)
  | word _ hw _ _ ih =>
    have hword := Nesting.after?_of_isNeutral (n := ⟨depth, false⟩) rfl fun c hc =>
      isNeutral_of_isStrange (isStrange_of_isWordChar (hw c hc)) (.inl (hw c hc))
    rw [Nesting.after?_append, hword, List.foldlM_cons]
    exact ih depth

lemma foldlM_phrase (ws : List String) (depth : Nat) :
    (phrase ws).foldlM Token.depth? depth = some depth := by
  induction ws with
  | nil => rfl
  | cons w ws ih => exact ih

/-- All parentheses of a type name are closed. -/
lemma Denotes.foldlM (h : Denotes ts t) : ts.foldlM Token.depth? 0 = some 0 := by
  have hlength : ∀ {multipliers : Bool} {as : List Token} {n : Nat}, Length multipliers as n →
      as.foldlM Token.depth? 0 = some 0 := by
    rintro multipliers as n ⟨⟩
    rfl
  have hbits : ∀ bits : Bool, (forBitData bits).foldlM Token.depth? 0 = some 0 := by
    decide
  cases h with
  | plain h => exact foldlM_phrase _ 0
  | decimal h ha hp hp' hs =>
    rw [List.foldlM_append, foldlM_phrase]
    cases ha <;> rfl
  | float => rfl
  | @character ws as n bits f h hf ha hn =>
    have has : as.foldlM Token.depth? 0 = some 0 := by
      rcases ha with ⟨rfl, -⟩ | ha
      · rfl
      · exact hlength ha
    rw [List.foldlM_append, List.foldlM_append, foldlM_phrase, Option.bind_eq_bind,
      Option.bind_some, has]
    exact hbits bits
  | varchar h hf ha hn =>
    rw [List.foldlM_append, List.foldlM_append, foldlM_phrase, Option.bind_eq_bind,
      Option.bind_some, hlength ha]
    exact hbits _
  | largeObject h ha =>
    rw [List.foldlM_append, foldlM_phrase]
    rcases ha with ⟨rfl, -⟩ | ha
    · rfl
    · exact hlength ha

/-- A text that names a type leaves the nesting of an operand list as it is. -/
lemma closed_of_read (h : read cs = .ok t) : Closed cs := by
  obtain ⟨ts, u, nullable, hu, hconsists, -⟩ := read_eq_ok_iff.mp h
  have hnullable : (nullabilityTokens nullable).foldlM Token.depth? 0 = some 0 := by
    cases nullable <;> rfl
  refine (hconsists.after? 0).trans ?_
  rw [List.foldlM_append, hu.foldlM, Option.bind_eq_bind, Option.bind_some, hnullable]
  rfl

/-! ## White space at the ends -/

section Blanks

variable {blanks : List Char}

lemma tokensFrom_cons_of_isBlank (hc : isBlank c = true) (word cs : List Char) :
    tokensFrom word (c :: cs) = flushWord word <$> tokens cs :=
  tokensFrom_cons_of_separator (isWordChar_of_isBlank hc) (if_pos hc) word cs

lemma tokens_blank_append (hblanks : ∀ c ∈ blanks, isBlank c = true) (cs : List Char) :
    tokens (blanks ++ cs) = tokens cs := by
  induction blanks with
  | nil => rfl
  | cons c blanks ih =>
    rw [List.forall_mem_cons] at hblanks
    rw [List.cons_append, tokens, tokensFrom_cons_of_isBlank hblanks.1, ih hblanks.2]
    cases tokens cs <;> rfl

/-- Blanks at the end add nothing to the word in front of them. -/
lemma tokensFrom_append_blank (hblanks : ∀ c ∈ blanks, isBlank c = true) (word cs : List Char) :
    tokensFrom word (cs ++ blanks) = tokensFrom word cs := by
  induction cs generalizing word with
  | nil =>
    cases blanks with
    | nil => rfl
    | cons c blanks =>
      rw [List.forall_mem_cons] at hblanks
      rw [List.nil_append, tokensFrom_cons_of_isBlank hblanks.1, ← List.append_nil blanks,
        tokens_blank_append hblanks.2]
      rfl
  | cons c cs ih =>
    rw [List.cons_append, tokensFrom, tokensFrom]
    simp only [ih]

end Blanks

/-- White space in a text with tokens is white space between tokens. -/
lemma isBlank_of_isSpace (hc : isStrange c = false) (hspace : Text.isSpace c = true) :
    isBlank c = true := by
  have table : ∀ n < 128, isStrange (Char.ofNat n) = false →
      Text.isSpace (Char.ofNat n) = true → isBlank (Char.ofNat n) = true := by
    decide
  exact of_isStrange (p := fun c => Text.isSpace c = true → isBlank c = true) table hc hspace

/-- White space at the ends is not part of a type name. -/
lemma read_trimList (h : read cs = .ok t) : read (Text.trimList cs) = .ok t := by
  obtain ⟨before, after, hspace, hcs⟩ := Text.exists_eq_append_trimList cs
  have hblank : ∀ c ∈ before ++ after, isBlank c = true := by
    intro c hc
    obtain ⟨_, _, _, -, hconsists, -⟩ := read_eq_ok_iff.mp h
    have hmem : c ∈ cs := by
      rw [hcs]
      simp only [List.mem_append] at hc ⊢
      tauto
    exact isBlank_of_isSpace (hconsists.isStrange c hmem) (hspace c hc)
  rw [List.forall_mem_append] at hblank
  rw [hcs, read, List.append_assoc, tokens_blank_append hblank.1, tokens,
    tokensFrom_append_blank hblank.2] at h
  exact h

end TypeName

namespace Operand

/-- A text that names a type is an operand of the type. -/
lemma read_typed {cs : List Char} {t : SqlType} (h : TypeName.read cs = .ok t) :
    read cs = .ok (.typed t) := by
  obtain ⟨_, _, _, -, hconsists, -⟩ := TypeName.read_eq_ok_iff.mp h
  have hchars : ∀ c ∈ cs, c ≠ '?' ∧ c ≠ '\'' ∧ Text.upperChar c ≠ ':' := by
    have table : ∀ n < 128, TypeName.isStrange (Char.ofNat n) = false → Char.ofNat n ≠ '?' ∧
        Char.ofNat n ≠ '\'' ∧ Text.upperChar (Char.ofNat n) ≠ ':' := by
      decide +kernel
    exact fun c hc => TypeName.of_isStrange
      (p := fun c => c ≠ '?' ∧ c ≠ '\'' ∧ Text.upperChar c ≠ ':') table
      (hconsists.isStrange c hc)
  have hne : cs ≠ [] := by
    rintro rfl
    cases h
  have hmark : cs ≠ ['?'] := by
    rintro rfl
    exact (hchars '?' List.mem_cons_self).1 rfl
  have hnull : (cs.take 6).map Text.upperChar ≠ "NULL::".toList := by
    intro hnull
    have hcolon : ':' ∈ (cs.take 6).map Text.upperChar := by
      rw [hnull]
      decide
    obtain ⟨c, hc, hupper⟩ := List.mem_map.mp hcolon
    exact (hchars c (List.mem_of_mem_take hc)).2.2 hupper
  have htype : readType cs = .ok t := Except.mapError_eq_ok_iff.mpr h
  rw [read, if_neg (by simpa using hne), if_neg hmark, if_neg hnull, htype]
  · rfl
  · rintro rest rfl
    exact (hchars '\'' List.mem_cons_self).2.1 rfl

end Operand

end SqlTyping
