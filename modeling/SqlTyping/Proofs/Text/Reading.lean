import Mathlib.Data.List.Basic
import Mathlib.Data.List.DropRight
import Mathlib.Data.List.TakeWhile
import SqlTyping.Proofs.Except
import SqlTyping.Text.Numeral
import SqlTyping.Text.Space
import SqlTyping.Text.Utf8

/-!
# Reading text back

What the small readers do with texts that were put together from known parts. White space at the
ends is trimmed away, separators cut a text into the pieces between them, words are found between
white space, and the decimal digits of a number are read as that number. In the other direction,
everything that is cut out of a text consists of characters of the text, and neither trimming nor
cutting loses anything but white space and separators.
-/

namespace SqlTyping.Text

/-! ## Stray bytes -/

/-- A text without stray bytes is a string. -/
lemma Raw.string?_eq_some_iff {r : Raw} {s : String} : r.string? = some s ↔ r = .ofString s := by
  have hchars : ∀ (r : Raw) (cs : List Char), r.mapM Piece.char? = some cs ↔ r = cs.map .char := by
    intro r
    induction r with
    | nil => intro cs; cases cs <;> simp
    | cons piece r ih =>
      intro cs
      cases piece with
      | stray b => cases cs <;> simp [Piece.char?]
      | char c => cases cs <;> simp [Piece.char?, Option.bind_eq_some_iff, ih, and_comm]
  rw [string?, Option.map_eq_some_iff]
  constructor
  · rintro ⟨cs, hcs, rfl⟩
    rw [(hchars r cs).mp hcs, ofString, String.toList_ofList]
  · rintro rfl
    exact ⟨s.toList, (hchars _ _).mpr rfl, String.ofList_toList⟩

/-! ## Trimming -/

section Trimming

variable {cs : List Char} {c : Char}

lemma trimList_cons_of_isSpace (hc : isSpace c = true) : trimList (c :: cs) = trimList cs := by
  unfold trimList
  rw [List.dropWhile_cons_of_pos hc]

/-- A text with no white space at its ends stays as it is. -/
lemma trimList_eq_self (hfirst : ∀ c ∈ cs.head?, isSpace c = false)
    (hlast : ∀ c ∈ cs.getLast?, isSpace c = false) : trimList cs = cs := by
  have keep : ∀ ds : List Char, (∀ c ∈ ds.head?, isSpace c = false) →
      ds.dropWhile isSpace = ds := by
    intro ds hds
    cases ds with
    | nil => rfl
    | cons d ds => exact List.dropWhile_cons_of_neg (by simp [hds d rfl])
  unfold trimList
  rw [keep cs hfirst, keep cs.reverse (by simpa using hlast), List.reverse_reverse]

/-- White space at the end does not count. -/
lemma trimList_append_of_isSpace {after : List Char} (hafter : ∀ c ∈ after, isSpace c = true) :
    trimList (cs ++ after) = trimList cs := by
  unfold trimList
  rw [List.dropWhile_append]
  split
  next hcs =>
    rw [List.isEmpty_iff.mp hcs, List.dropWhile_eq_nil_iff.mpr hafter]
  next =>
    rw [List.reverse_append, List.dropWhile_append_of_pos (by simpa using hafter)]

/-- The last character of a text whose end is known. -/
lemma isSpace_of_getLast?_any (h : cs.getLast?.any isSpace = false) :
    ∀ c ∈ cs.getLast?, isSpace c = false := by
  intro c hc
  rwa [Option.mem_def.mp hc] at h

/-- Two texts that do not end in white space do not do so together. -/
lemma isSpace_of_getLast?_append {ds : List Char} (hcs : ∀ c ∈ cs.getLast?, isSpace c = false)
    (hds : ∀ c ∈ ds.getLast?, isSpace c = false) :
    ∀ c ∈ (cs ++ ds).getLast?, isSpace c = false := by
  intro c hc
  rw [List.getLast?_append, Option.mem_def, Option.or_eq_some_iff] at hc
  rcases hc with hc | ⟨-, hc⟩
  · exact hds c hc
  · exact hcs c hc

/-- A text that ends in a parenthesis does not end in white space. -/
lemma isSpace_of_getLast?_parenthesis (cs body : List Char) :
    ∀ c ∈ (cs ++ '(' :: (body ++ [')'])).getLast?, isSpace c = false := by
  intro c hc
  rw [← List.cons_append, ← List.append_assoc, List.getLast?_concat] at hc
  cases hc
  rfl

/-- Trimming adds nothing. -/
lemma mem_of_mem_trimList (h : c ∈ trimList cs) : c ∈ cs := by
  unfold trimList at h
  rw [List.mem_reverse] at h
  have hmem := (List.dropWhile_suffix isSpace).subset h
  rw [List.mem_reverse] at hmem
  exact (List.dropWhile_suffix isSpace).subset hmem

end Trimming

/-! ## Pieces between separators -/

section Pieces

variable {α : Type} {p : α → Bool}

/-- A text without separators is a single piece. -/
lemma splitAtAll_of_forall {xs : List α} (h : ∀ x ∈ xs, p x = false) : splitAtAll p xs = [xs] := by
  induction xs with
  | nil => rfl
  | cons x xs ih =>
    rw [List.forall_mem_cons] at h
    rw [splitAtAll, if_neg (by simp [h.1]), ih h.2]

/-- There is always a first piece. -/
lemma exists_splitAtAll_eq_cons (p : α → Bool) (xs : List α) :
    ∃ first others, splitAtAll p xs = first :: others := by
  cases xs with
  | nil => exact ⟨[], [], rfl⟩
  | cons x xs =>
    rw [splitAtAll]
    split
    · exact ⟨_, _, rfl⟩
    · split <;> exact ⟨_, _, rfl⟩

/-- An entry that is no separator belongs to the first piece. -/
lemma splitAtAll_cons_of_neg {x : α} {xs first : List α}
    {others : List (List α)} (hx : p x = false) (h : splitAtAll p xs = first :: others) :
    splitAtAll p (x :: xs) = (x :: first) :: others := by
  rw [splitAtAll, if_neg (by simp [hx]), h]

/-- A separator separates the pieces in front of it from those behind it. -/
lemma splitAtAll_append_separator {x : α} (hx : p x = true) (xs ys : List α) :
    splitAtAll p (xs ++ x :: ys) = splitAtAll p xs ++ splitAtAll p ys := by
  induction xs with
  | nil => exact if_pos hx
  | cons z xs ih =>
    rw [List.cons_append, splitAtAll, splitAtAll, ih]
    split
    · rfl
    · obtain ⟨first, others, hpieces⟩ := exists_splitAtAll_eq_cons p xs
      rw [hpieces]
      rfl

/-- The first separator ends the first piece. -/
lemma splitAtAll_append_cons {xs ys : List α} {x : α} (h : ∀ x ∈ xs, p x = false)
    (hx : p x = true) : splitAtAll p (xs ++ x :: ys) = xs :: splitAtAll p ys := by
  rw [splitAtAll_append_separator hx, splitAtAll_of_forall h]
  rfl

/-- Separators are told by what the entries are replaced by. -/
lemma splitAtAll_map {β : Type} (f : β → α) (xs : List β) :
    splitAtAll p (xs.map f) = (splitAtAll (fun x => p (f x)) xs).map (·.map f) := by
  induction xs with
  | nil => rfl
  | cons x xs ih =>
    rw [List.map_cons, splitAtAll, splitAtAll, ih]
    split
    · rfl
    · obtain ⟨first, others, hpieces⟩ := exists_splitAtAll_eq_cons (fun x => p (f x)) xs
      rw [hpieces]
      rfl

/-- Pieces consist of entries of the text that are not separators. -/
lemma mem_of_mem_splitAtAll {xs piece : List α} (h : piece ∈ splitAtAll p xs) {x : α}
    (hx : x ∈ piece) : x ∈ xs ∧ p x = false := by
  induction xs generalizing piece with
  | nil =>
    rw [splitAtAll, List.mem_singleton] at h
    subst h
    cases hx
  | cons y ys ih =>
    rw [splitAtAll] at h
    split at h
    · rcases List.mem_cons.mp h with rfl | h
      · cases hx
      · exact ⟨List.mem_cons_of_mem y (ih h hx).1, (ih h hx).2⟩
    · next hy =>
      simp only [Bool.not_eq_true] at hy
      -- The first entry belongs to the first piece of the rest.
      split at h
      · next first others hrest =>
        rcases List.mem_cons.mp h with rfl | h
        · rcases List.mem_cons.mp hx with rfl | hx
          · exact ⟨List.mem_cons_self, hy⟩
          · have := ih (hrest ▸ List.mem_cons_self) hx
            exact ⟨List.mem_cons_of_mem y this.1, this.2⟩
        · have := ih (hrest ▸ List.mem_cons_of_mem first h) hx
          exact ⟨List.mem_cons_of_mem y this.1, this.2⟩
      · rw [List.mem_singleton] at h
        subst h
        rw [List.mem_singleton] at hx
        subst hx
        exact ⟨List.mem_cons_self, hy⟩

/-- Replacements that agree on what is no separator give the same pieces. -/
lemma splitAtAll_map_congr {β : Type} {q : α → Bool} {f g : β → α}
    (hsep : ∀ x, p (f x) = q (g x)) (heq : ∀ x, p (f x) = false → f x = g x) (xs : List β) :
    splitAtAll p (xs.map f) = splitAtAll q (xs.map g) := by
  rw [splitAtAll_map, splitAtAll_map, ← funext hsep]
  exact List.map_congr_left fun piece hpiece =>
    List.map_congr_left fun x hx => heq x (mem_of_mem_splitAtAll hpiece hx).2

/-- Pieces that are joined by a separator are found again. -/
lemma splitAtAll_intercalate {x : α} (hx : p x = true) {first : List α} {others : List (List α)}
    (h : ∀ piece ∈ first :: others, ∀ y ∈ piece, p y = false) :
    splitAtAll p ([x].intercalate (first :: others)) = first :: others := by
  induction others generalizing first with
  | nil =>
    rw [List.intercalate_singleton]
    exact splitAtAll_of_forall (h first List.mem_cons_self)
  | cons second others ih =>
    rw [List.forall_mem_cons] at h
    rw [List.intercalate_cons_cons, List.append_assoc, List.singleton_append,
      splitAtAll_append_cons h.1 hx, ih h.2]

/-- The pieces of a text, joined by the separator again, are the text. -/
lemma intercalate_splitAtAll (c : Char) (cs : List Char) :
    [c].intercalate (splitAtAll (· = c) cs) = cs := by
  induction cs with
  | nil => rfl
  | cons d cs ih =>
    obtain ⟨first, others, hpieces⟩ := exists_splitAtAll_eq_cons (· = c) cs
    rw [hpieces] at ih
    by_cases hd : d = c
    · rw [splitAtAll, if_pos (decide_eq_true hd), hpieces, List.intercalate_cons_cons, ih, hd]
      rfl
    · rw [splitAtAll_cons_of_neg (p := (· = c)) (decide_eq_false hd) hpieces, ← ih]
      cases others <;> simp [List.intercalate_cons_cons]

/-- The space behind a comma can be taken as the start of the next text. -/
lemma intercalate_comma_space (first : List Char) (others : List (List Char)) :
    [',', ' '].intercalate (first :: others) =
      [','].intercalate (first :: others.map (' ' :: ·)) := by
  induction others generalizing first with
  | nil => simp
  | cons second others ih =>
    have hspace : ∀ cs : List (List Char), [','].intercalate ((' ' :: second) :: cs) =
        ' ' :: [','].intercalate (second :: cs) := by
      intro cs
      cases cs <;> simp [List.intercalate_cons_cons]
    rw [List.intercalate_cons_cons, List.map_cons, List.intercalate_cons_cons, ih, hspace]
    simp

end Pieces

/-! ## Words -/

section Words

variable {cs word : List Char}

lemma isSpace_of_any (h : cs.any isSpace = false) : ∀ c ∈ cs, isSpace c = false := by
  simpa using h

lemma wordList_cons_of_isSpace {c : Char} (hc : isSpace c = true) :
    wordList (c :: cs) = wordList cs := by
  unfold wordList
  rw [splitAtAll, if_pos hc, List.filter_cons_of_neg (by simp)]

/-- A text without white space is a single word. -/
lemma wordList_of_forall (hne : word ≠ []) (h : ∀ c ∈ word, isSpace c = false) :
    wordList word = [word] := by
  unfold wordList
  rw [splitAtAll_of_forall h]
  exact List.filter_cons_of_pos (by simpa using hne)

/-- White space ends a word. -/
lemma wordList_append_cons {c : Char} (hne : word ≠ []) (h : ∀ c ∈ word, isSpace c = false)
    (hc : isSpace c = true) : wordList (word ++ c :: cs) = word :: wordList cs := by
  unfold wordList
  rw [splitAtAll_append_cons h hc]
  exact List.filter_cons_of_pos (by simpa using hne)

/-- Words are not empty, and hold characters of the text other than white space. -/
lemma of_mem_wordList (h : word ∈ wordList cs) :
    word ≠ [] ∧ ∀ c ∈ word, c ∈ cs ∧ isSpace c = false := by
  unfold wordList at h
  rw [List.mem_filter] at h
  exact ⟨by simpa using h.2, fun c hc => mem_of_mem_splitAtAll h.1 hc⟩

end Words

/-! ## Without white space -/

section Solid

variable {cs : List Char} {c : Char}

/-- The text without any of its white space. -/
def solid (cs : List Char) : List Char :=
  cs.filter fun c => !isSpace c

lemma solid_append (cs ds : List Char) : solid (cs ++ ds) = solid cs ++ solid ds :=
  List.filter_append ..

lemma solid_cons (hc : isSpace c = false) : solid (c :: cs) = c :: solid cs :=
  List.filter_cons_of_pos (by rw [hc]; rfl)

lemma solid_cons_space (hc : isSpace c = true) : solid (c :: cs) = solid cs :=
  List.filter_cons_of_neg (by rw [hc]; decide)

lemma solid_eq_nil (h : ∀ c ∈ cs, isSpace c = true) : solid cs = [] :=
  List.filter_eq_nil_iff.mpr fun c hc => by simp [h c hc]

/-- Trimming takes away nothing but white space. -/
lemma exists_eq_append_trimList (cs : List Char) :
    ∃ before after : List Char, (∀ c ∈ before ++ after, isSpace c = true) ∧
      cs = before ++ trimList cs ++ after := by
  refine ⟨cs.takeWhile isSpace, (cs.dropWhile isSpace).rtakeWhile isSpace, fun c hc => ?_, ?_⟩
  · rcases List.mem_append.mp hc with hc | hc
    · exact List.mem_takeWhile_imp hc
    · exact List.mem_rtakeWhile_imp hc
  · have hfront : trimList cs ++ (cs.dropWhile isSpace).rtakeWhile isSpace =
        cs.dropWhile isSpace := List.rdropWhile_append_rtakeWhile ..
    rw [List.append_assoc, hfront, List.takeWhile_append_dropWhile]

lemma solid_trimList (cs : List Char) : solid (trimList cs) = solid cs := by
  obtain ⟨before, after, hspace, hcs⟩ := exists_eq_append_trimList cs
  conv_rhs => rw [hcs]
  rw [List.forall_mem_append] at hspace
  rw [solid_append, solid_append, solid_eq_nil hspace.1, solid_eq_nil hspace.2, List.nil_append,
    List.append_nil]

/-- A trimmed text does not start with white space. -/
lemma isSpace_of_head?_trimList (h : (trimList cs).head? = some c) : isSpace c = false := by
  have hdrop := List.head?_dropWhile_not isSpace cs
  have hfront : trimList cs ++ (cs.dropWhile isSpace).rtakeWhile isSpace =
      cs.dropWhile isSpace := List.rdropWhile_append_rtakeWhile ..
  rw [← hfront, List.head?_append, h] at hdrop
  exact hdrop

/-- A trimmed text does not end in white space. -/
lemma isSpace_of_getLast?_trimList (h : (trimList cs).getLast? = some c) : isSpace c = false := by
  have hdrop := List.head?_dropWhile_not isSpace (cs.dropWhile isSpace).reverse
  rw [trimList, List.getLast?_reverse] at h
  rw [h] at hdrop
  exact hdrop

lemma trimList_trimList (cs : List Char) : trimList (trimList cs) = trimList cs :=
  trimList_eq_self (fun _ => isSpace_of_head?_trimList) fun _ => isSpace_of_getLast?_trimList

/-- A text starts, white space apart, with the first character of the trimmed text. -/
lemma head?_solid (cs : List Char) : (solid cs).head? = (trimList cs).head? := by
  rw [← solid_trimList]
  cases h : trimList cs with
  | nil => rfl
  | cons c ds =>
    rw [solid_cons (isSpace_of_head?_trimList (by rw [h]; rfl))]
    rfl

/-- A text ends, white space apart, in the last character of the trimmed text. -/
lemma getLast?_solid (cs : List Char) : (solid cs).getLast? = (trimList cs).getLast? := by
  rw [← solid_trimList]
  rcases (trimList cs).eq_nil_or_concat' with h | ⟨ds, c, h⟩
  · rw [h]
    rfl
  · have hc : isSpace c = false :=
      isSpace_of_getLast?_trimList (by rw [h, List.getLast?_concat])
    rw [h, solid_append, solid_cons hc, List.getLast?_concat]
    exact List.getLast?_concat

/-- Words hold everything but the white space. -/
lemma flatten_wordList (cs : List Char) : (wordList cs).flatten = solid cs := by
  have hnonempty : ∀ pieces : List (List Char),
      (pieces.filter fun word => !word.isEmpty).flatten = pieces.flatten := by
    intro pieces
    induction pieces with
    | nil => rfl
    | cons piece pieces ih => cases piece <;> simp [ih]
  rw [wordList, hnonempty]
  induction cs with
  | nil => rfl
  | cons c cs ih =>
    cases hc : isSpace c with
    | true =>
      rw [splitAtAll, if_pos hc, List.flatten_cons, List.nil_append, ih, solid_cons_space hc]
    | false =>
      obtain ⟨first, others, hpieces⟩ := exists_splitAtAll_eq_cons isSpace cs
      rw [splitAtAll_cons_of_neg hc hpieces, solid_cons hc, ← ih, hpieces]
      rfl

/-- Taking white space away leaves the separators where they are. -/
lemma splitAtAll_solid {p : Char → Bool} (hp : ∀ c, p c = true → isSpace c = false)
    (cs : List Char) : splitAtAll p (solid cs) = (splitAtAll p cs).map solid := by
  induction cs with
  | nil => rfl
  | cons c cs ih =>
    obtain ⟨first, others, hpieces⟩ := exists_splitAtAll_eq_cons p cs
    rw [hpieces, List.map_cons] at ih
    cases hc : p c with
    | true =>
      rw [solid_cons (hp c hc), splitAtAll, if_pos hc, splitAtAll, if_pos hc, ih, hpieces]
      rfl
    | false =>
      rw [splitAtAll_cons_of_neg hc hpieces, List.map_cons]
      cases hspace : isSpace c with
      | true => rw [solid_cons_space hspace, solid_cons_space hspace, ih]
      | false => rw [solid_cons hspace, solid_cons hspace, splitAtAll_cons_of_neg hc ih]

end Solid

/-! ## Numbers -/

section Numbers

/-- Reading digits after others goes on from the number that those make. -/
lemma readDigits_append (base limit acc : Nat) (xs ys : List Char) :
    readDigits base limit acc (xs ++ ys) =
      readDigits base limit acc xs >>= fun n => readDigits base limit n ys := by
  induction xs generalizing acc with
  | nil => rfl
  | cons x xs ih =>
    simp only [List.cons_append, readDigits]
    split
    · rfl
    · split
      · rfl
      · exact ih _

/-- The digits of a number are read as the number, if it does not exceed the limit. -/
lemma readDigits_toDigits {limit n : Nat} (h : n ≤ limit) :
    readDigits 10 limit 0 (Nat.toDigits 10 n) = .ok n := by
  have digit : ∀ d < 10, digitValue? 10 (Nat.digitChar d) = some d := by decide
  induction n using Nat.strongRecOn with
  | ind n ih =>
    rcases Nat.lt_or_ge n 10 with hn | hn
    · rw [Nat.toDigits_of_lt_base hn, readDigits, digit n hn]
      simp [readDigits, h]
    · -- All digits but the last one are those of the tenth part.
      have hdiv : n / 10 * 10 + n % 10 = n := Nat.div_add_mod' n 10
      rw [Nat.toDigits_of_base_le (by decide) hn, readDigits_append,
        ih (n / 10) (by omega) (by omega)]
      change readDigits 10 limit (n / 10) [Nat.digitChar (n % 10)] = .ok n
      rw [readDigits, digit _ (Nat.mod_lt n (by decide))]
      simp [readDigits, hdiv, h]

lemma isDigit_of_mem_toDigits {n : Nat} {c : Char} (h : c ∈ Nat.toDigits 10 n) :
    c.isDigit = true :=
  Nat.isDigit_of_mem_toDigits (by decide) (by decide) h

/-- A text that starts with a digit has no sign. -/
lemma splitSign_of_isDigit {cs : List Char} (h : ∀ c ∈ cs, c.isDigit = true) :
    splitSign cs = (false, cs) := by
  unfold splitSign
  split
  · exact absurd (h '+' List.mem_cons_self) (by decide)
  · exact absurd (h '-' List.mem_cons_self) (by decide)
  · rfl

lemma readNatural_toDigits {bits n : Nat} (h : n ≤ Nat.pow 2 bits - 1) :
    readNatural 10 bits (Nat.toDigits 10 n) = .ok n := by
  rw [readNatural, if_neg (by simp [Nat.toDigits_ne_nil])]
  exact readDigits_toDigits h

/-- The digits of a number that leaves one bit for the sign are read as the number. -/
lemma readInteger_toDigits (bits : Nat) {n : Nat} (h : n < Nat.pow 2 (bits - 1)) :
    readInteger 10 bits (Nat.toDigits 10 n) = .ok (n : Int) := by
  have hbits : Nat.pow 2 (bits - 1) ≤ Nat.pow 2 bits :=
    Nat.pow_le_pow_right (by decide) (Nat.sub_le bits 1)
  have hnatural : readNatural 10 bits (Nat.toDigits 10 n) = .ok n :=
    readNatural_toDigits (Nat.le_sub_one_of_lt (Nat.lt_of_lt_of_le h hbits))
  have hsign : withSign bits false n = .ok (n : Int) := by
    rw [withSign, if_neg (by decide)]
    exact if_neg (Nat.not_le_of_lt h)
  rw [readInteger, splitSign_of_isDigit fun c => isDigit_of_mem_toDigits]
  change readNatural 10 bits (Nat.toDigits 10 n) >>= withSign bits false = .ok (n : Int)
  rw [hnatural]
  exact hsign

lemma isDigit_iff {c : Char} : c.isDigit = true ↔ 48 ≤ c.toNat ∧ c.toNat ≤ 57 := by
  refine Bool.and_eq_true_iff.trans (and_congr ?_ ?_)
  · exact decide_eq_true_iff.trans UInt32.le_iff_toNat_le
  · exact decide_eq_true_iff.trans UInt32.le_iff_toNat_le

lemma isSpace_of_isDigit {c : Char} (h : c.isDigit = true) : isSpace c = false := by
  have table : ∀ n < 58, 48 ≤ n → isSpace (Char.ofNat n) = false := by decide
  obtain ⟨hmin, hmax⟩ := isDigit_iff.mp h
  rw [← Char.ofNat_toNat c]
  exact table c.toNat (Nat.lt_succ_of_le hmax) hmin

/-- Among the digits of all bases, those of base ten are the decimal ones. -/
lemma digitValue?_ten (c : Char) :
    digitValue? 10 c = if c.isDigit then some (c.toNat - '0'.toNat) else none := by
  have hbounds : ∀ a b : Char, (decide (a ≤ c) && decide (c ≤ b)) = true ↔
      a.toNat ≤ c.toNat ∧ c.toNat ≤ b.toNat := by
    intro a b
    rw [Bool.and_eq_true, decide_eq_true_iff, decide_eq_true_iff]
    exact and_congr UInt32.le_iff_toNat_le UInt32.le_iff_toNat_le
  have h0 : '0'.toNat = 48 := rfl
  have h9 : '9'.toNat = 57 := rfl
  unfold digitValue?
  simp only [hbounds, isDigit_iff]
  split_ifs <;> simp <;> omega

/-- Digits only add to the number in front of them. -/
lemma le_ofDigitChars (cs : List Char) (acc : Nat) : acc ≤ Nat.ofDigitChars 10 cs acc := by
  induction cs generalizing acc with
  | nil => exact le_rfl
  | cons c cs ih =>
    rw [Nat.ofDigitChars_cons]
    exact le_trans (by omega) (ih _)

/-- Exactly the texts of digits whose number does not exceed the limit are read. -/
lemma readDigits_eq_ok_iff {limit acc n : Nat} (hacc : acc ≤ limit) {cs : List Char} :
    readDigits 10 limit acc cs = .ok n ↔
      (∀ c ∈ cs, c.isDigit = true) ∧ Nat.ofDigitChars 10 cs acc = n ∧ n ≤ limit := by
  induction cs generalizing acc with
  | nil =>
    rw [readDigits, Nat.ofDigitChars_nil, Except.ok.injEq]
    constructor
    · rintro rfl
      exact ⟨List.forall_mem_nil _, rfl, hacc⟩
    · exact fun h => h.2.1
  | cons c cs ih =>
    rw [readDigits, digitValue?_ten, List.forall_mem_cons, Nat.ofDigitChars_cons]
    by_cases hc : c.isDigit = true
    · simp only [hc, if_true, true_and, Nat.mul_comm acc 10]
      split
      · next hlarge =>
        have hle := le_ofDigitChars cs (10 * acc + (c.toNat - '0'.toNat))
        constructor
        · intro h
          cases h
        · rintro ⟨-, rfl, hn⟩
          exact absurd (hle.trans hn) (Nat.not_le.mpr hlarge)
      · next hsmall => exact ih (Nat.not_lt.mp hsmall)
    · simp [hc]

/-- The numbers that are read from texts without a sign. -/
lemma readInteger_eq_ok_iff {bits : Nat} (hbits : 0 < bits) {cs : List Char}
    (hsign : splitSign cs = (false, cs)) {v : Int} :
    readInteger 10 bits cs = .ok v ↔ cs ≠ [] ∧ (∀ c ∈ cs, c.isDigit = true) ∧
      Nat.ofDigitChars 10 cs 0 < Nat.pow 2 (bits - 1) ∧ v = Nat.ofDigitChars 10 cs 0 := by
  have hpow : Nat.pow 2 bits = Nat.pow 2 (bits - 1) * 2 := by
    conv_lhs => rw [← Nat.sub_add_cancel hbits]
    rfl
  have hnatural : ∀ n, readNatural 10 bits cs = .ok n ↔ cs ≠ [] ∧ (∀ c ∈ cs, c.isDigit = true) ∧
      Nat.ofDigitChars 10 cs 0 = n ∧ n ≤ Nat.pow 2 bits - 1 := by
    intro n
    rw [readNatural]
    split
    · next hempty => simp [List.isEmpty_iff.mp hempty]
    · next hne =>
      rw [List.isEmpty_iff] at hne
      simp [readDigits_eq_ok_iff (Nat.zero_le _), hne]
  have hwith : ∀ n, withSign bits false n = .ok v ↔ n < Nat.pow 2 (bits - 1) ∧ v = n := by
    intro n
    rw [withSign, if_neg (by decide)]
    split
    · next hlarge =>
      constructor
      · intro h
        cases h
      · rintro ⟨hlt, -⟩
        exact absurd hlarge (Nat.not_le.mpr hlt)
    · next hsmall =>
      rw [Except.ok.injEq]
      exact ⟨fun h => ⟨Nat.not_le.mp hsmall, h.symm⟩, fun h => h.2.symm⟩
  rw [readInteger, hsign]
  change readNatural 10 bits cs >>= withSign bits false = .ok v ↔ _
  simp only [Except.bind_eq_ok_iff, hnatural, hwith]
  constructor
  · rintro ⟨n, ⟨hne, hdigits, rfl, -⟩, hlt, rfl⟩
    exact ⟨hne, hdigits, hlt, rfl⟩
  · rintro ⟨hne, hdigits, hlt, rfl⟩
    exact ⟨_, ⟨hne, hdigits, rfl, by omega⟩, hlt, rfl⟩

end Numbers

end SqlTyping.Text
