import Mathlib.Data.Nat.ModEq
import SqlTyping.Proofs.List
import SqlTyping.Text.Case

/-!
# Upper case and folding

Texts can be compared by their upper case or by folding. Both ways ignore letter case, and they
agree but for six letters: five signs that fold to a letter without being its upper case, and the
dotless i, whose upper case is that of another letter. To fold in upper case ignores all of these
differences (`looseChar`). Two texts have the same upper case if they are the same in this loose
sense and have the same signs at the same places, and they fold to the same text if they are the
same in the loose sense and have a dotless i at the same places.

Everything is read off the two tables (`CaseTable`). What a table does with a run of the other one
is checked for the run as a whole (`CaseRun.absorbed`): most runs lie within a run or between the
letters of one. The runs to compare with are looked for near the run, and near the place that its
letters are moved to.
-/

namespace SqlTyping.Text

/-! ## Runs -/

namespace CaseRun

/-- Where a run moves the letter with code `n`. -/
def target (r : CaseRun) (n : Nat) : Nat :=
  (n + r.shift).toNat

/-- The codes of the letters of a run. -/
def letters (r : CaseRun) : List Nat :=
  (List.range ((r.last - r.first) / r.step + 1)).map (r.first + r.step * ·)

/-- Whether a run moves its letters to characters. -/
def lands (r : CaseRun) : Bool :=
  (r.target r.last).blt 0xD800 ||
    (0xDFFF).blt (r.target r.first) && (r.target r.last).blt 0x110000

/-- The run of what a run moves its letters to. -/
def image (r : CaseRun) : CaseRun :=
  ⟨r.target r.first, r.target r.last, r.step, r.shift⟩

/-- Whether the steps of `s` cannot tell the letters of `r` apart. -/
def aligned (r s : CaseRun) : Bool :=
  r.step % s.step == 0 || r.first == r.last

/-- Whether the letters of `r` stand between the steps of `s`. -/
def misses (r s : CaseRun) : Bool :=
  r.aligned s && r.first % s.step != s.first % s.step

/-- Whether the letters of `r` are letters of `s`. -/
def within (r s : CaseRun) : Bool :=
  s.first.ble r.first && r.last.ble s.last && r.aligned s && r.first % s.step == s.first % s.step

variable {r s : CaseRun} {n : Nat}

lemma covers_iff :
    r.covers n = true ↔ r.first ≤ n ∧ n ≤ r.last ∧ (n - r.first) % r.step = 0 := by
  simp [covers, and_assoc]

lemma mem_letters (h : r.covers n = true) : n ∈ r.letters := by
  obtain ⟨hfirst, hlast, hstep⟩ := covers_iff.mp h
  have hdiv := Nat.div_add_mod (n - r.first) r.step
  have hle : (n - r.first) / r.step ≤ (r.last - r.first) / r.step :=
    Nat.div_le_div_right (Nat.sub_le_sub_right hlast r.first)
  exact List.mem_map.mpr
    ⟨(n - r.first) / r.step, List.mem_range.mpr (Nat.lt_succ_of_le hle), by omega⟩

lemma target_mono (r : CaseRun) {m n : Nat} (h : m ≤ n) : r.target m ≤ r.target n := by
  unfold target
  omega

lemma covers_image (h : 0 ≤ r.first + r.shift) (hn : r.covers n = true) :
    r.image.covers (r.target n) = true := by
  obtain ⟨hfirst, hlast, hstep⟩ := covers_iff.mp hn
  have hsub : r.target n - r.target r.first = n - r.first := by
    unfold target
    omega
  exact covers_iff.mpr ⟨r.target_mono hfirst, r.target_mono hlast, hsub ▸ hstep⟩

lemma mod_eq_of_aligned (h : r.aligned s = true) (hn : r.covers n = true) :
    n % s.step = r.first % s.step := by
  obtain ⟨hfirst, hlast, hstep⟩ := covers_iff.mp hn
  rw [aligned, Bool.or_eq_true, beq_iff_eq, beq_iff_eq] at h
  rcases h with hdvd | hone
  · have hsub : s.step ∣ n - r.first :=
      Nat.dvd_trans (Nat.dvd_of_mod_eq_zero hdvd) (Nat.dvd_of_mod_eq_zero hstep)
    exact ((Nat.modEq_iff_dvd' hfirst).mpr hsub).symm
  · rw [Nat.le_antisymm (hone ▸ hlast) hfirst]

lemma not_covers_of_misses (h : r.misses s = true) (hn : r.covers n = true) :
    s.covers n = false := by
  rw [misses, Bool.and_eq_true, bne_iff_ne] at h
  rw [← Bool.not_eq_true, covers_iff]
  rintro ⟨hfirst, -, hstep⟩
  have hmod : s.first % s.step = n % s.step :=
    (Nat.modEq_iff_dvd' hfirst).mpr (Nat.dvd_of_mod_eq_zero hstep)
  exact h.2 (by rw [hmod, mod_eq_of_aligned h.1 hn])

lemma covers_of_within (h : r.within s = true) (hn : r.covers n = true) : s.covers n = true := by
  obtain ⟨hfirst, hlast, -⟩ := covers_iff.mp hn
  simp only [within, Bool.and_eq_true, Nat.ble_eq, beq_iff_eq] at h
  obtain ⟨⟨⟨hlow, hhigh⟩, haligned⟩, hsame⟩ := h
  have hmod : s.first % s.step = n % s.step := by rw [mod_eq_of_aligned haligned hn, hsame]
  have hle : s.first ≤ n := Nat.le_trans hlow hfirst
  exact covers_iff.mpr ⟨hle, Nat.le_trans hlast hhigh,
    Nat.mod_eq_zero_of_dvd ((Nat.modEq_iff_dvd' hle).mp hmod)⟩

lemma isValidChar_target (h : r.lands = true) (hn : r.covers n = true) :
    (r.target n).isValidChar := by
  obtain ⟨hfirst, hlast, -⟩ := covers_iff.mp hn
  have hlow := r.target_mono hfirst
  have hhigh := r.target_mono hlast
  simp only [lands, Bool.or_eq_true, Bool.and_eq_true, Nat.blt_eq] at h
  unfold Nat.isValidChar
  omega

end CaseRun

/-! ## Lists of runs -/

section Runs

variable {runs : List CaseRun} {r : CaseRun} {a b n : Nat} {d : Int}

/-- A code stays where it is, or a run that covers it moves it. -/
lemma moveBy_cases (runs : List CaseRun) (n : Nat) :
    moveBy runs n = n ∨ ∃ r ∈ runs, r.covers n = true ∧ moveBy runs n = r.target n := by
  unfold moveBy
  cases hfind : runs.find? (·.covers n) with
  | none => exact .inl rfl
  | some r =>
    have hcovers := List.find?_some hfind
    exact .inr ⟨r, List.mem_of_find?_eq_some hfind, hcovers, rfl⟩

/-- The runs that reach into the codes from `a` to `b`, if the runs are in order. -/
def cut (a b : Nat) (runs : List CaseRun) : List CaseRun :=
  (runs.dropWhile fun r => r.last.blt a).takeWhile fun r => r.first.ble b

/-- Ranges of codes with few runs each. -/
def ranges : List (Nat × Nat) := [
  (0x41, 0x17F), (0x180, 0x1BF), (0x1C0, 0x24F), (0x250, 0x36F), (0x370, 0x52F), (0x530, 0x1CFF),
  (0x1D00, 0x1EFF), (0x1F00, 0x1FFF), (0x2000, 0x2BFF), (0x2C00, 0x2DFF), (0xA640, 0xA78F),
  (0xA790, 0xA7FF), (0xAB00, 0x10FFFF)]

/-- The runs that reach into the codes from `a` to `b`. They are looked for in the range of these
codes, whose own runs are looked for only once. -/
def near (a b : Nat) (runs : List CaseRun) : List CaseRun :=
  match ranges.find? fun w => w.1.ble a && b.ble w.2 with
  | some w => cut a b (cut w.1 w.2 runs)
  | none => cut a b runs

lemma cut_sublist (a b : Nat) (runs : List CaseRun) : (cut a b runs).Sublist runs :=
  (List.takeWhile_sublist _).trans (List.dropWhile_sublist _)

lemma moveBy_cut (h : runs.Pairwise fun r s => r.first < s.first) (ha : a ≤ n) (hb : n ≤ b) :
    moveBy (cut a b runs) n = moveBy runs n := by
  have hdrop : ∀ r : CaseRun, r.last.blt a = true → r.covers n = false := by
    intro r hr
    have hlt : r.last < a := Nat.blt_eq.mp hr
    rw [← Bool.not_eq_true, CaseRun.covers_iff]
    omega
  have htake : ∀ r : CaseRun, r.first.ble b = false → r.covers n = false := by
    intro r hr
    rw [← Bool.not_eq_true, Nat.ble_eq] at hr
    rw [← Bool.not_eq_true, CaseRun.covers_iff]
    omega
  have hlater : (runs.dropWhile fun r => r.last.blt a).Pairwise fun r s =>
      r.first.ble b = false → s.first.ble b = false := by
    refine (h.sublist (List.dropWhile_sublist _)).imp fun {r s} hrs hr => ?_
    rw [← Bool.not_eq_true, Nat.ble_eq] at hr ⊢
    omega
  unfold moveBy cut
  rw [List.find?_takeWhile hlater htake, List.find?_dropWhile hdrop]

/-- Only the runs near a code can move it. -/
lemma moveBy_near (h : runs.Pairwise fun r s => r.first < s.first) (ha : a ≤ n) (hb : n ≤ b) :
    moveBy (near a b runs) n = moveBy runs n := by
  unfold near
  split
  · next w hfind =>
    have hrange := List.find?_some hfind
    rw [Bool.and_eq_true, Nat.ble_eq, Nat.ble_eq] at hrange
    rw [moveBy_cut (h.sublist (cut_sublist _ _ _)) ha hb,
      moveBy_cut h (hrange.1.trans ha) (hb.trans hrange.2)]
  · exact moveBy_cut h ha hb

/-- How far a table moves the letters of `r`, if it moves them all alike. -/
def commonShift (runs : List CaseRun) (r : CaseRun) : Option Int :=
  match (near r.first r.last runs).filter fun s => !r.misses s with
  | [] => some 0
  | [s] => if r.within s then some s.shift else none
  | _ => none

lemma moveBy_of_commonShift (h : runs.Pairwise fun r s => r.first < s.first)
    (hshift : commonShift runs r = some d) (hn : r.covers n = true) :
    moveBy runs n = (n + d).toNat := by
  obtain ⟨hfirst, hlast, -⟩ := CaseRun.covers_iff.mp hn
  have hfilter : ((near r.first r.last runs).filter fun s => !r.misses s).find? (·.covers n) =
      (near r.first r.last runs).find? (·.covers n) := by
    rw [List.find?_filter]
    congr 1
    funext s
    cases hmisses : r.misses s with
    | false => simp
    | true => simp [CaseRun.not_covers_of_misses hmisses hn]
  rw [← moveBy_near h hfirst hlast, moveBy, ← hfilter]
  unfold commonShift at hshift
  split at hshift
  · next hnil =>
    rw [hnil, ← Option.some.inj hshift, Int.add_zero]
    rfl
  · next s hone =>
    rw [hone]
    split at hshift
    · next hwithin =>
      rw [List.find?_cons, CaseRun.covers_of_within hwithin hn, ← Option.some.inj hshift]
    · cases hshift
  · cases hshift

/-- Whether `runs` moves the letters of `r` alike, and moves what `r` moves them to, to the same
places. -/
def CaseRun.absorbed (runs : List CaseRun) (r : CaseRun) : Bool :=
  match commonShift runs r, commonShift runs r.image with
  | some d, some e => 0 ≤ r.first + r.shift && d == r.shift + e
  | _, _ => false

lemma moveBy_target (h : runs.Pairwise fun r s => r.first < s.first)
    (habsorbed : r.absorbed runs = true) (hn : r.covers n = true) :
    moveBy runs (r.target n) = moveBy runs n := by
  unfold CaseRun.absorbed at habsorbed
  split at habsorbed
  · next d e hd he =>
    rw [Bool.and_eq_true, decide_eq_true_eq, beq_iff_eq] at habsorbed
    obtain ⟨hpos, hde⟩ := habsorbed
    have hfirst := (CaseRun.covers_iff.mp hn).1
    rw [moveBy_of_commonShift h he (CaseRun.covers_image hpos hn), moveBy_of_commonShift h hd hn,
      CaseRun.target]
    omega
  · cases habsorbed

/-- Whether a run is absorbed as a whole or letter by letter, the given letters apart. -/
def CaseRun.absorbedBut (except : List Nat) (runs : List CaseRun) (r : CaseRun) : Bool :=
  r.absorbed runs ||
    r.letters.all fun n => except.contains n || CaseRun.absorbed runs ⟨n, n, 1, r.shift⟩

/-- A table that is used after another one may be used at once. -/
lemma moveBy_moveBy {before : List CaseRun} {except : List Nat}
    (h : runs.Pairwise fun r s => r.first < s.first)
    (habsorbed : (before.all (·.absorbedBut except runs)) = true) (hn : n ∉ except) :
    moveBy runs (moveBy before n) = moveBy runs n := by
  rcases moveBy_cases before n with hsame | ⟨r, hr, hcovers, hmoved⟩
  · rw [hsame]
  rw [hmoved]
  rcases (Bool.or_eq_true _ _).mp (List.all_eq_true.mp habsorbed r hr) with hwhole | hletters
  · exact moveBy_target h hwhole hcovers
  · have hletter := List.all_eq_true.mp hletters n (CaseRun.mem_letters hcovers)
    rw [Bool.or_eq_true, List.contains_iff_mem, or_iff_right hn] at hletter
    have hself : CaseRun.covers ⟨n, n, 1, r.shift⟩ n = true :=
      CaseRun.covers_iff.mpr ⟨Nat.le_refl n, Nat.le_refl n, Nat.mod_one _⟩
    have hsame := moveBy_target h hletter hself
    exact hsame

lemma toNat_ofNat (h : n.isValidChar) : (Char.ofNat n).toNat = n := by
  rw [Char.ofNat, dif_pos h]
  rfl

end Runs

/-! ## Tables -/

/-- A rule for ASCII characters and a list of runs for the others. The rule is a run as well, which
comes before the others in order. -/
structure CaseTable where
  rule : Char → Char
  ascii : CaseRun
  runs : List CaseRun
  rule_eq : ((List.range 0x80).all fun n =>
    (rule (Char.ofNat n)).toNat == moveBy [ascii] n) = true
  ascii_lt : ascii.last < 0x80
  runs_land : (runs.all fun r => (0x80).ble r.first && r.lands) = true
  ordered : ((ascii :: runs).map CaseRun.first).IsChain (· < ·)

namespace CaseTable

variable {c : Char}

/-- All runs of a table. -/
def all (T : CaseTable) : List CaseRun :=
  T.ascii :: T.runs

/-- Where a table moves a character. -/
def move (T : CaseTable) (c : Char) : Char :=
  moveChar T.rule T.runs c

lemma pairwise_all (T : CaseTable) : T.all.Pairwise fun r s => r.first < s.first :=
  List.pairwise_map.mp (List.isChain_iff_pairwise.mp T.ordered)

lemma toNat_move (T : CaseTable) (c : Char) : (T.move c).toNat = moveBy T.all c.toNat := by
  have hrun : ∀ r ∈ T.runs, 0x80 ≤ r.first ∧ r.lands = true := by
    intro r hr
    have hr := List.all_eq_true.mp T.runs_land r hr
    rwa [Bool.and_eq_true, Nat.ble_eq] at hr
  unfold move moveChar
  split
  · next hlt =>
    have hcode := List.all_eq_true.mp T.rule_eq c.toNat (List.mem_range.mpr hlt)
    rw [Char.ofNat_toNat, beq_iff_eq] at hcode
    have hnone : T.runs.find? (·.covers c.toNat) = none := by
      rw [List.find?_eq_none]
      intro r hr hcovers
      have hfirst := (CaseRun.covers_iff.mp hcovers).1
      have := (hrun r hr).1
      omega
    rw [hcode, moveBy, moveBy, all, List.find?_cons, List.find?_cons, hnone]
    rfl
  · next hge =>
    have hlast := T.ascii_lt
    have hnot : T.ascii.covers c.toNat = false := by
      rw [← Bool.not_eq_true, CaseRun.covers_iff]
      omega
    have hmoved : moveBy T.all c.toNat = moveBy T.runs c.toNat := by
      rw [moveBy, all, List.find?_cons, hnot]
      rfl
    rw [hmoved]
    refine toNat_ofNat ?_
    rcases moveBy_cases T.runs c.toNat with hsame | ⟨r, hr, hcovers, htarget⟩
    · rw [hsame]
      exact c.valid
    · rw [htarget]
      exact CaseRun.isValidChar_target (hrun r hr).2 hcovers

/-- The characters that a table `U` moves elsewhere if they are moved by `T` before. -/
structure Absorption (T U : CaseTable) where
  except : List Char
  absorbed : (T.all.all (·.absorbedBut (except.map Char.toNat) U.all)) = true

/-- A table that is used after another one may be used at once. -/
lemma Absorption.move_move {T U : CaseTable} (A : Absorption T U) (hc : c ∉ A.except) :
    U.move (T.move c) = U.move c := by
  have hcode : c.toNat ∉ A.except.map Char.toNat := by
    rwa [List.mem_map_of_injective fun _ _ => Char.toNat_inj.mp]
  rw [← Char.toNat_inj, toNat_move, toNat_move, toNat_move]
  exact moveBy_moveBy U.pairwise_all A.absorbed hcode

end CaseTable

/-! ## Upper case and folding of a character -/

/-- The table of upper-case letters. -/
def upperTable : CaseTable where
  rule := Char.toUpper
  ascii := ⟨0x61, 0x7A, 1, -32⟩
  runs := upperRuns
  rule_eq := by decide +kernel
  ascii_lt := by decide
  runs_land := by decide +kernel
  ordered := by decide +kernel

/-- The table of folded letters. -/
def foldTable : CaseTable where
  rule := Char.toLower
  ascii := ⟨0x41, 0x5A, 1, 32⟩
  runs := foldRuns
  rule_eq := by decide +kernel
  ascii_lt := by decide
  runs_land := by decide +kernel
  ordered := by decide +kernel

/-- The dotless i, which folds to itself. Its upper case is the capital I. -/
def dotlessI : Char := '\u0131'

/-- The capital theta symbol, the capital sharp s, and the signs for ohm, kelvin and angstrom. Each
folds to a small letter whose upper case is another character. -/
def signs : List Char := ['\u03F4', '\u1E9E', '\u2126', '\u212A', '\u212B']

/-- Upper case does not matter for folding. -/
def upperThenFold : CaseTable.Absorption upperTable foldTable where
  except := [dotlessI]
  absorbed := by decide +kernel

/-- Folding does not matter for upper case. -/
def foldThenUpper : CaseTable.Absorption foldTable upperTable where
  except := signs
  absorbed := by decide +kernel

section Letters

variable {c d : Char}

lemma foldChar_upperChar (h : c ≠ dotlessI) : foldChar (upperChar c) = foldChar c :=
  upperThenFold.move_move (by rwa [upperThenFold, List.mem_singleton])

lemma upperChar_foldChar (h : c ∉ signs) : upperChar (foldChar c) = upperChar c :=
  foldThenUpper.move_move h

lemma foldChar_dotlessI : foldChar dotlessI = dotlessI := by
  decide +kernel

lemma upperChar_dotlessI : upperChar dotlessI = 'I' := by
  decide +kernel

lemma checked_of_mem_signs (h : c ∈ signs) :
    upperChar c = c ∧ upperChar (foldChar c) ≠ c ∧ foldChar c ≠ dotlessI := by
  have hall : (signs.all fun c =>
      upperChar c == c && upperChar (foldChar c) != c && foldChar c != dotlessI) = true := by
    decide +kernel
  have hc := List.all_eq_true.mp hall c h
  simpa [and_assoc] using hc

lemma upperChar_of_mem_signs (h : c ∈ signs) : upperChar c = c :=
  (checked_of_mem_signs h).1

/-- A sign is the upper case of nothing else. -/
lemma upperChar_eq_self_of_mem_signs (h : upperChar c ∈ signs) : upperChar c = c := by
  by_cases hsign : c ∈ signs
  · exact upperChar_of_mem_signs hsign
  by_cases hdotless : c = dotlessI
  · rw [hdotless, upperChar_dotlessI] at h
    exact absurd h (by decide)
  · have hne := (checked_of_mem_signs h).2.1
    rw [foldChar_upperChar hdotless, upperChar_foldChar hsign] at hne
    exact absurd rfl hne

/-- Nothing else folds to the dotless i. -/
lemma eq_of_foldChar_eq_dotlessI (h : foldChar c = dotlessI) : c = dotlessI := by
  by_contra hdotless
  have hsign : c ∉ signs := fun hmem => (checked_of_mem_signs hmem).2.2 h
  have hupper : upperChar c = 'I' := by
    rw [← upperChar_foldChar hsign, h, upperChar_dotlessI]
  have hfold := foldChar_upperChar hdotless
  rw [hupper, h] at hfold
  exact absurd hfold (by decide)

/-- The upper-case form of a character is in upper case. -/
lemma upperChar_upperChar (c : Char) : upperChar (upperChar c) = upperChar c := by
  by_cases hupper : upperChar c ∈ signs
  · exact upperChar_of_mem_signs hupper
  by_cases hsign : c ∈ signs
  · rw [upperChar_of_mem_signs hsign, upperChar_of_mem_signs hsign]
  by_cases hdotless : c = dotlessI
  · rw [hdotless, upperChar_dotlessI]
    decide
  · rw [← upperChar_foldChar hupper, foldChar_upperChar hdotless, upperChar_foldChar hsign]

/-- A character up to upper case and folding. -/
def looseChar (c : Char) : Char :=
  foldChar (upperChar c)

lemma upperChar_looseChar (h : c ∉ signs) : upperChar (looseChar c) = upperChar c := by
  have hupper : upperChar c ∉ signs := by
    intro hmem
    rw [upperChar_eq_self_of_mem_signs hmem] at hmem
    exact h hmem
  rw [looseChar, upperChar_foldChar hupper, upperChar_upperChar]

/-- Characters have the same upper case if they are loosely the same, and the same if one of them
is a sign. -/
lemma upperChar_eq_iff :
    upperChar c = upperChar d ↔ looseChar c = looseChar d ∧ (c ∈ signs ∨ d ∈ signs → c = d) := by
  constructor
  · intro h
    have hsign : ∀ {c d}, upperChar c = upperChar d → c ∈ signs → c = d := by
      intro c d h hc
      have hd : upperChar d = c := by rw [← h, upperChar_of_mem_signs hc]
      rw [← hd, upperChar_eq_self_of_mem_signs (hd.symm ▸ hc)]
    refine ⟨by rw [looseChar, looseChar, h], ?_⟩
    rintro (hc | hd)
    · exact hsign h hc
    · exact (hsign h.symm hd).symm
  · rintro ⟨hloose, hsigns⟩
    by_cases hmem : c ∈ signs ∨ d ∈ signs
    · rw [hsigns hmem]
    · push Not at hmem
      rw [← upperChar_looseChar hmem.1, hloose, upperChar_looseChar hmem.2]

/-- Characters fold to the same if they are loosely the same, and the same if one of them is a
dotless i. -/
lemma foldChar_eq_iff :
    foldChar c = foldChar d ↔
      looseChar c = looseChar d ∧ (c = dotlessI ∨ d = dotlessI → c = d) := by
  by_cases hmem : c = dotlessI ∨ d = dotlessI
  · constructor
    · intro h
      have hsame : c = d := by
        rcases hmem with rfl | rfl
        · exact (eq_of_foldChar_eq_dotlessI (h.symm.trans foldChar_dotlessI)).symm
        · exact eq_of_foldChar_eq_dotlessI (h.trans foldChar_dotlessI)
      rw [hsame]
      exact ⟨rfl, fun _ => rfl⟩
    · rintro ⟨-, hsame⟩
      rw [hsame hmem]
  · push Not at hmem
    rw [looseChar, looseChar, foldChar_upperChar hmem.1, foldChar_upperChar hmem.2]
    exact ⟨fun h => ⟨h, fun hor => absurd hor (by simp [hmem])⟩, And.left⟩

end Letters

/-! ## Texts -/

/-- A text in upper case is its own upper case. -/
lemma upper_upper (s : String) : upper (upper s) = upper s := by
  simp only [upper, String.toList_ofList, List.map_map]
  congr 1
  exact List.map_congr_left fun c _ => upperChar_upperChar c

/-- Whether two texts are the same up to upper case and folding. -/
def Resembles (s t : String) : Prop :=
  s.toList.map looseChar = t.toList.map looseChar

/-- Whether the given characters stand at the same places in two texts of one length. -/
def Shares (cs : List Char) (s t : String) : Prop :=
  List.Forall₂ (fun c d => c ∈ cs ∨ d ∈ cs → c = d) s.toList t.toList

instance (s t : String) : Decidable (Resembles s t) :=
  inferInstanceAs (Decidable (_ = _))

instance (cs : List Char) (s t : String) : Decidable (Shares cs s t) :=
  inferInstanceAs (Decidable (List.Forall₂ _ _ _))

section Texts

variable {s t : String}

lemma length_eq_of_equalFold (h : equalFold s t = true) : s.toList.length = t.toList.length := by
  have hlength := congrArg List.length (beq_iff_eq.mp h)
  simpa using hlength

lemma upper_eq_iff : upper s = upper t ↔ Resembles s t ∧ Shares signs s t := by
  rw [upper, upper, String.ofList_inj, Resembles, Shares, List.map_eq_map_iff_forall₂,
    List.map_eq_map_iff_forall₂, ← List.forall₂_and_iff]
  simp only [upperChar_eq_iff]

lemma equalFold_iff : equalFold s t = true ↔ Resembles s t ∧ Shares [dotlessI] s t := by
  rw [equalFold, beq_iff_eq, Resembles, Shares, List.map_eq_map_iff_forall₂,
    List.map_eq_map_iff_forall₂, ← List.forall₂_and_iff]
  simp only [foldChar_eq_iff, List.mem_singleton]

end Texts

end SqlTyping.Text
