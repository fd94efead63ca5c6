import SqlTyping.Proofs.Text.Case
import SqlTyping.Text.Utf8

/-!
# Bytes of a text

A text can be cut at a byte offset, unless it has fewer bytes (`cutAt_eq_beyond_iff`). A text in
lower case has as many characters as before, but not as many bytes: a character can become shorter,
and two letters become longer (`growing`). A text without these letters does not become longer
(`length_bytesOf_lower_le`). In upper case, characters outside the ASCII block stay outside of it,
but for two of them that become an I and an S (`toNat_lt_of_upperChar`).
-/

namespace SqlTyping.Text

/-! ## The size of a character -/

/-- The number of bytes of the character with code `n`. -/
def byteCount (n : Nat) : Nat :=
  if n ≤ 0x7F then 1 else if n ≤ 0x7FF then 2 else if n ≤ 0xFFFF then 3 else 4

lemma utf8Size_eq_byteCount (c : Char) : c.utf8Size = byteCount c.toNat := rfl

lemma byteCount_mono {m n : Nat} (h : m ≤ n) : byteCount m ≤ byteCount n := by
  unfold byteCount
  split_ifs <;> omega

/-- Whether no letter of a run is moved to a longer one. -/
def CaseRun.keepsSize (r : CaseRun) : Bool :=
  (byteCount (r.target r.last)).ble (byteCount r.first)

lemma CaseRun.byteCount_target_le {r : CaseRun} {n : Nat} (h : r.keepsSize = true)
    (hn : r.covers n = true) : byteCount (r.target n) ≤ byteCount n := by
  obtain ⟨hfirst, hlast, -⟩ := CaseRun.covers_iff.mp hn
  calc byteCount (r.target n)
      ≤ byteCount (r.target r.last) := byteCount_mono (r.target_mono hlast)
    _ ≤ byteCount r.first := Nat.ble_eq.mp h
    _ ≤ byteCount n := byteCount_mono hfirst

/-- The letters that a table moves to longer ones; each of them is a run of its own. -/
structure CaseTable.Growth (T : CaseTable) where
  letters : List Char
  checked : (T.all.all fun r =>
    r.keepsSize || r.first == r.last && (letters.map Char.toNat).contains r.first) = true

/-- All other letters are moved to letters that are not longer. -/
lemma CaseTable.Growth.utf8Size_move_le {T : CaseTable} (G : Growth T) {c : Char}
    (hc : c ∉ G.letters) : (T.move c).utf8Size ≤ c.utf8Size := by
  rw [utf8Size_eq_byteCount, utf8Size_eq_byteCount, T.toNat_move]
  rcases moveBy_cases T.all c.toNat with hsame | ⟨r, hr, hcovers, hmoved⟩
  · rw [hsame]
  rw [hmoved]
  have hcheck := List.all_eq_true.mp G.checked r hr
  rw [Bool.or_eq_true, Bool.and_eq_true, beq_iff_eq, List.contains_iff_mem] at hcheck
  rcases hcheck with hkeeps | ⟨hone, hmem⟩
  · exact CaseRun.byteCount_target_le hkeeps hcovers
  · obtain ⟨hfirst, hlast, -⟩ := CaseRun.covers_iff.mp hcovers
    have hcode : c.toNat = r.first := Nat.le_antisymm (hone ▸ hlast) hfirst
    rw [← hcode, List.mem_map_of_injective fun _ _ => Char.toNat_inj.mp] at hmem
    exact absurd hmem hc

/-! ## Lower and upper case -/

/-- The table of lower-case letters. -/
def lowerTable : CaseTable where
  rule := Char.toLower
  ascii := ⟨0x41, 0x5A, 1, 32⟩
  runs := lowerRuns
  rule_eq := foldTable.rule_eq
  ascii_lt := foldTable.ascii_lt
  runs_land := by decide +kernel
  ordered := by decide +kernel

/-- The letters A and T with a stroke are two bytes long, and their lower case is three bytes
long. -/
def growing : List Char := ['Ⱥ', 'Ⱦ']

/-- What becomes longer in lower case. -/
def lowerGrowth : lowerTable.Growth where
  letters := growing
  checked := by decide +kernel

/-- The ASCII characters that a table moves other characters to; each of the moved characters is a
run of its own. -/
structure CaseTable.Descent (T : CaseTable) where
  images : List Char
  checked : (T.runs.all fun r => (0x80).ble (r.target r.first) ||
    r.first == r.last && (images.map Char.toNat).contains (r.target r.first)) = true

/-- The dotless i becomes an I, and the long s an S. -/
def upperDescent : upperTable.Descent where
  images := ['I', 'S']
  checked := by decide +kernel

variable {c : Char} {cs : List Char}

lemma utf8Size_lowerChar_le (hc : c ∉ growing) : (lowerChar c).utf8Size ≤ c.utf8Size :=
  lowerGrowth.utf8Size_move_le hc

/-- Only ASCII characters become ASCII characters in upper case, but for two letters. -/
lemma toNat_lt_of_upperChar (h : (upperChar c).toNat < 0x80) (hc : upperChar c ∉ ['I', 'S']) :
    c.toNat < 0x80 := by
  by_contra hge
  have hcode : (upperChar c).toNat = moveBy upperTable.all c.toNat := upperTable.toNat_move c
  rcases moveBy_cases upperTable.all c.toNat with hsame | ⟨r, hr, hcovers, hmoved⟩
  · omega
  obtain ⟨hfirst, hlast, -⟩ := CaseRun.covers_iff.mp hcovers
  rcases List.mem_cons.mp hr with rfl | hr
  · have := upperTable.ascii_lt
    omega
  have hcheck := List.all_eq_true.mp upperDescent.checked r hr
  rw [Bool.or_eq_true, Bool.and_eq_true, beq_iff_eq, Nat.ble_eq, List.contains_iff_mem] at hcheck
  rcases hcheck with hhigh | ⟨hone, himage⟩
  · have := r.target_mono hfirst
    omega
  · have hfirst : c.toNat = r.first := Nat.le_antisymm (hone ▸ hlast) hfirst
    rw [← hfirst, ← hmoved, ← hcode, List.mem_map_of_injective fun _ _ => Char.toNat_inj.mp]
      at himage
    exact hc himage

/-! ## The size of a text -/

lemma length_bytesOf_nil : (bytesOf []).length = 0 := rfl

lemma length_bytesOf_cons (c : Char) (cs : List Char) :
    (bytesOf (c :: cs)).length = c.utf8Size + (bytesOf cs).length := by
  rw [bytesOf, List.flatMap_cons, List.length_append, String.length_utf8EncodeChar]
  rfl

lemma length_bytesOf_append (cs ds : List Char) :
    (bytesOf (cs ++ ds)).length = (bytesOf cs).length + (bytesOf ds).length := by
  rw [bytesOf, List.flatMap_append, List.length_append]
  rfl

/-- Without the two letters, lower case makes no text longer. -/
lemma length_bytesOf_lower_le (h : ∀ c ∈ cs, c ∉ growing) :
    (bytesOf (cs.map lowerChar)).length ≤ (bytesOf cs).length := by
  induction cs with
  | nil => exact Nat.le_refl _
  | cons c cs ih =>
    rw [List.forall_mem_cons] at h
    have hfirst := utf8Size_lowerChar_le h.1
    have hrest := ih h.2
    rw [List.map_cons, length_bytesOf_cons, length_bytesOf_cons]
    omega

/-- A text cannot be cut behind its end. -/
lemma cutAt_eq_beyond_iff (offset : Nat) (cs : List Char) :
    cutAt offset cs = .beyond ↔ (bytesOf cs).length < offset := by
  have hpush : ∀ (c : Char) (cut : Cut), cut.push c = .beyond ↔ cut = .beyond := by
    intro c cut
    cases cut <;> simp [Cut.push]
  induction cs generalizing offset with
  | nil =>
    cases offset with
    | zero => simp [cutAt]
    | succ offset => simp [cutAt, length_bytesOf_nil]
  | cons c cs ih =>
    rw [length_bytesOf_cons]
    cases offset with
    | zero => simp [cutAt]
    | succ offset =>
      rw [cutAt]
      split
      · rw [hpush]
        refine (ih (offset + 1 - c.utf8Size)).trans ?_
        omega
      · simp only [reduceCtorEq, false_iff]
        omega

/-- A text can be cut behind each of its characters. -/
lemma cutAt_length_bytesOf (before after : List Char) :
    cutAt (bytesOf before).length (before ++ after) = .between before after := by
  induction before with
  | nil => rw [length_bytesOf_nil, List.nil_append, cutAt]
  | cons c before ih =>
    have hpos := c.utf8Size_pos
    obtain ⟨n, hn⟩ : ∃ n, (bytesOf (c :: before)).length = n + 1 :=
      Nat.exists_eq_add_one_of_ne_zero (by rw [length_bytesOf_cons]; omega)
    rw [hn, List.cons_append, cutAt]
    rw [length_bytesOf_cons] at hn
    rw [if_pos (by omega), ← hn, Nat.add_sub_cancel_left, ih, Cut.push]

lemma length_bytesOf_of_ascii (h : ∀ c ∈ cs, c.toNat < 0x80) :
    (bytesOf cs).length = cs.length := by
  induction cs with
  | nil => rfl
  | cons c cs ih =>
    rw [List.forall_mem_cons] at h
    have hsize : c.utf8Size = 1 := by
      rw [utf8Size_eq_byteCount]
      exact if_pos (Nat.le_of_lt_succ h.1)
    rw [length_bytesOf_cons, hsize, ih h.2, List.length_cons, Nat.add_comm]

end SqlTyping.Text
