import Mathlib.Tactic.IntervalCases
import SqlTyping.Proofs.Text.Reading
import SqlTyping.Proofs.Value.DatetimeForm

/-!
# Values of datetime strings

The pieces of a text that has the shape of a form give the fields, and the fields have ranges
(`InRange`). In their ranges they stand for one instant (`instant`). The reader computes the fields
on the way, and is shown to return this instant exactly if the ranges are kept.
-/

namespace SqlTyping.Datetime

/-! ## Values -/

/-- The number of a part, or a default where the form does not have this part. -/
def number (s : Cut) (p : Part) (default : Nat) : Nat :=
  (s.lookup p).elim default fun digits => Nat.ofDigitChars 10 digits 0

/-- The hour of the day. Hours of a half day count from midnight or noon, where 12 stands for the
beginning. -/
def hourOfDay (s : Cut) : Nat :=
  let h := number s .halfDayHour 0
  if s.lookup .halfDayHour = none then number s .hour 0
  else if s.lookup .halfDay = some ['P', 'M'] then if h < 12 then h + 12 else h
  else if h = 12 then 0 else h

/-- The whole nanoseconds of the fraction. -/
def wholeNanoseconds (s : Cut) : Nat :=
  let digits := ((s.lookup .fraction).getD []).tail
  Nat.ofDigitChars 10 digits 0 * 1000000000 / Nat.pow 10 digits.length

/-- The instant with the fields of a text. -/
def instant (s : Cut) : Datetime where
  year := number s .year 0
  month := number s .month 1
  day := number s .day 1
  hour := hourOfDay s
  minute := number s .minute 0
  second := number s .second 0
  nanosecond := wholeNanoseconds s

/-- The lengths of the months of a year. Every fourth year is a leap year, but for the years at the
turn of a century that are not multiples of 400. -/
def monthLengths (year : Nat) : List Nat :=
  [31, if 4 ∣ year ∧ (100 ∣ year → 400 ∣ year) then 29 else 28, 31, 30, 31, 30, 31, 31, 30, 31, 30,
    31]

/-- The calendar has this date. -/
def IsDate (year month day : Nat) : Prop :=
  1 ≤ month ∧ 1 ≤ day ∧ ∃ n, (monthLengths year)[month - 1]? = some n ∧ day ≤ n

/-- The fields of a text are in their ranges. -/
structure InRange (s : Cut) : Prop where
  date : IsDate (number s .year 0) (number s .month 1) (number s .day 1)
  hour : number s .hour 0 ≤ 23
  halfDayHour : number s .halfDayHour 0 ≤ 12
  minute : number s .minute 0 ≤ 59
  second : number s .second 0 ≤ 59

/-! ## Fields and their ranges -/

section Values

variable {s : Cut}

lemma lookup_eq_none {p : Part} (h : p ∉ s.map Prod.fst) : s.lookup p = none := by
  rw [List.lookup_eq_none_iff]
  intro x hx
  rw [bne_iff_ne]
  intro heq
  exact h (heq ▸ List.mem_map_of_mem hx)

/-- A field that one part alone sets is what this part says. -/
lemma get_putAll {α : Type} (get : Fields → α) {p : Part} {k : List Char → α → α}
    (hself : ∀ f piece, get (f.put p piece) = k piece (get f))
    (hother : ∀ f q piece, q ≠ p → get (f.put q piece) = get f)
    (hs : (s.map Prod.fst).count p ≤ 1) (f : Fields) :
    get (f.putAll s) = (s.lookup p).elim (get f) fun piece => k piece (get f) := by
  induction s generalizing f with
  | nil => rfl
  | cons x s ih =>
    obtain ⟨q, piece⟩ := x
    rw [List.map_cons, List.count_cons] at hs
    have hrest := ih (by omega) (f.put q piece)
    by_cases hq : q = p
    · -- The part does not come again, so that nothing overwrites the field.
      subst hq
      have hnone : s.lookup q = none := by
        rw [if_pos (by simp)] at hs
        exact lookup_eq_none (List.count_eq_zero.mp (by omega))
      rw [hnone] at hrest
      rw [List.lookup_cons_self]
      exact hrest.trans (hself f piece)
    · rw [hother f q piece hq] at hrest
      rw [List.lookup_cons, show (p == q) = false from beq_false_of_ne (Ne.symm hq)]
      exact hrest

/-- Digits make a number below the power of ten with as many zeros. -/
lemma ofDigitChars_lt {cs : List Char} (h : ∀ c ∈ cs, c.isDigit = true) :
    Nat.ofDigitChars 10 cs 0 < Nat.pow 10 cs.length := by
  have general : ∀ acc, Nat.ofDigitChars 10 cs acc < (acc + 1) * Nat.pow 10 cs.length := by
    induction cs with
    | nil =>
      intro acc
      rw [Nat.ofDigitChars_nil]
      change acc < (acc + 1) * 1
      omega
    | cons c cs ih =>
      intro acc
      rw [List.forall_mem_cons] at h
      have hc := (Text.isDigit_iff.mp h.1).2
      have h0 : '0'.toNat = 48 := rfl
      calc Nat.ofDigitChars 10 (c :: cs) acc
          = Nat.ofDigitChars 10 cs (10 * acc + (c.toNat - '0'.toNat)) := Nat.ofDigitChars_cons
        _ < (10 * acc + (c.toNat - '0'.toNat) + 1) * Nat.pow 10 cs.length := ih h.2 _
        _ ≤ ((acc + 1) * 10) * Nat.pow 10 cs.length := Nat.mul_le_mul_right _ (by omega)
        _ = (acc + 1) * Nat.pow 10 (c :: cs).length := by
          rw [Nat.mul_assoc, Nat.mul_comm 10]
          rfl
  simpa using general 0

/-- Cutting a fraction behind its ninth digit rounds it down to whole nanoseconds. -/
lemma nanoseconds_eq {digits : List Char} (hdigits : ∀ c ∈ digits, c.isDigit = true) :
    nanoseconds digits =
      Nat.ofDigitChars 10 digits 0 * 1000000000 / Nat.pow 10 digits.length := by
  have hpos : ∀ n, 0 < Nat.pow 10 n := fun n => Nat.pow_pos (by decide)
  rw [nanoseconds, digitsValue_eq]
  rcases Nat.le_total digits.length 9 with hlength | hlength
  · have hnine : 1000000000 = Nat.pow 10 (9 - digits.length) * Nat.pow 10 digits.length := by
      have hadd := Nat.pow_add 10 (9 - digits.length) digits.length
      rw [Nat.sub_add_cancel hlength] at hadd
      exact hadd
    rw [List.take_of_length_le hlength, hnine, ← Nat.mul_assoc, Nat.mul_div_cancel _ (hpos _)]
  · have hsplit : Nat.ofDigitChars 10 digits 0 =
        Nat.pow 10 (digits.length - 9) * Nat.ofDigitChars 10 (digits.take 9) 0 +
          Nat.ofDigitChars 10 (digits.drop 9) 0 := by
      conv_lhs => rw [← List.take_append_drop 9 digits, Nat.ofDigitChars_append,
        Nat.ofDigitChars_eq_ofDigitChars_zero, List.length_drop]
      rfl
    have hsmall : Nat.ofDigitChars 10 (digits.drop 9) 0 < Nat.pow 10 (digits.length - 9) := by
      rw [← List.length_drop]
      exact ofDigitChars_lt fun c hc => hdigits c (List.mem_of_mem_drop hc)
    have hpower : Nat.pow 10 digits.length = Nat.pow 10 (digits.length - 9) * 1000000000 := by
      have hadd := Nat.pow_add 10 (digits.length - 9) 9
      rw [Nat.sub_add_cancel hlength] at hadd
      exact hadd
    rw [hpower, Nat.mul_div_mul_right _ _ (by decide), hsplit, Nat.mul_add_div (hpos _),
      Nat.div_eq_of_lt hsmall, Nat.sub_eq_zero_of_le hlength]
    exact Nat.mul_one _

lemma isLeapYear_iff {year : Nat} :
    isLeapYear year = true ↔ 4 ∣ year ∧ (100 ∣ year → 400 ∣ year) := by
  simp only [isLeapYear, Bool.and_eq_true, Bool.or_eq_true, beq_iff_eq, bne_iff_ne]
  omega

lemma isDate_iff {year month day : Nat} :
    IsDate year month day ↔
      1 ≤ month ∧ month ≤ 12 ∧ 1 ≤ day ∧ day ≤ daysInMonth year month := by
  rcases Nat.lt_or_ge 12 month with hmonth | hmonth
  · have hnone : (monthLengths year)[month - 1]? = none := List.getElem?_eq_none (by
      change 12 ≤ month - 1
      omega)
    simp only [IsDate, hnone]
    constructor
    · rintro ⟨-, -, n, hn, -⟩
      cases hn
    · rintro ⟨-, hle, -⟩
      omega
  · interval_cases month <;> simp [IsDate, monthLengths, daysInMonth, isLeapYear_iff]

/-- The fields that are numbers. -/
def Fields.field (f : Fields) : Part → Nat
  | .year => f.value.year
  | .month => f.value.month
  | .day => f.value.day
  | .hour => f.value.hour
  | .minute => f.value.minute
  | .second => f.value.second
  | _ => 0

lemma field_putAll {p : Part} (hp : p ∈ [.year, .month, .day, .hour, .minute, .second])
    (hs : (s.map Prod.fst).count p ≤ 1) (f : Fields) :
    (f.putAll s).field p = number s p (f.field p) := by
  refine get_putAll (·.field p) (k := fun piece _ => Nat.ofDigitChars 10 piece 0) ?_ ?_ hs f
  · intro f piece
    simp only [List.mem_cons, List.not_mem_nil, or_false] at hp
    rcases hp with rfl | rfl | rfl | rfl | rfl | rfl <;> rfl
  · intro f q piece hq
    cases p <;> cases q <;> first | rfl | exact absurd rfl hq

lemma nanosecond_putAll (hs : (s.map Prod.fst).count .fraction ≤ 1) :
    (Fields.putAll {} s).value.nanosecond =
      nanoseconds ((s.lookup .fraction).getD []).tail := by
  refine (get_putAll (fun f => f.value.nanosecond) (k := fun piece _ => nanoseconds piece.tail)
    (fun _ _ => rfl) ?_ hs {}).trans ?_
  · intro f q piece hq
    cases q <;> first | rfl | exact absurd rfl hq
  · cases s.lookup .fraction <;> rfl

lemma halfDayHour_putAll (hs : (s.map Prod.fst).count .halfDayHour ≤ 1) :
    (Fields.putAll {} s).halfDayHour =
      (s.lookup .halfDayHour).map fun piece => Nat.ofDigitChars 10 piece 0 := by
  refine (get_putAll (fun f => f.halfDayHour)
    (k := fun piece _ => some (Nat.ofDigitChars 10 piece 0)) (fun _ _ => rfl) ?_ hs {}).trans ?_
  · intro f q piece hq
    cases q <;> first | rfl | exact absurd rfl hq
  · cases s.lookup .halfDayHour <;> rfl

lemma afternoon_putAll (hs : (s.map Prod.fst).count .halfDay ≤ 1) :
    (Fields.putAll {} s).afternoon = decide (s.lookup .halfDay = some ['P', 'M']) := by
  refine (get_putAll (fun f => f.afternoon)
    (k := fun piece before => before || decide (piece = ['P', 'M'])) (fun _ _ => rfl) ?_ hs
    {}).trans ?_
  · intro f q piece hq
    cases q <;> first | rfl | exact absurd rfl hq
  · cases s.lookup .halfDay with
    | none => rfl
    | some piece => simp

/-- The fields of a text stand for its instant, but for the hour of a half day and the ranges. -/
lemma value_putAll (hs : ∀ p ∈ fieldParts, (s.map Prod.fst).count p ≤ 1)
    (hfraction : ∀ c ∈ ((s.lookup .fraction).getD []).tail, c.isDigit = true) :
    (Fields.putAll {} s).value = { instant s with hour := number s .hour 0 } := by
  have hyear := field_putAll (p := .year) (by decide) (hs .year (by decide)) {}
  have hmonth := field_putAll (p := .month) (by decide) (hs .month (by decide)) {}
  have hday := field_putAll (p := .day) (by decide) (hs .day (by decide)) {}
  have hhour := field_putAll (p := .hour) (by decide) (hs .hour (by decide)) {}
  have hminute := field_putAll (p := .minute) (by decide) (hs .minute (by decide)) {}
  have hsecond := field_putAll (p := .second) (by decide) (hs .second (by decide)) {}
  have hnanosecond := nanosecond_putAll (hs .fraction (by decide))
  rw [nanoseconds_eq hfraction] at hnanosecond
  simp only [Fields.field] at hyear hmonth hday hhour hminute hsecond
  calc (Fields.putAll {} s).value
      = ⟨(Fields.putAll {} s).value.year, (Fields.putAll {} s).value.month,
          (Fields.putAll {} s).value.day, (Fields.putAll {} s).value.hour,
          (Fields.putAll {} s).value.minute, (Fields.putAll {} s).value.second,
          (Fields.putAll {} s).value.nanosecond⟩ := rfl
    _ = { instant s with hour := number s .hour 0 } := by
        rw [hyear, hmonth, hday, hhour, hminute, hsecond, hnanosecond]
        rfl

lemma value?_putAll (hs : ∀ p ∈ fieldParts, (s.map Prod.fst).count p ≤ 1)
    (hfraction : ∀ c ∈ ((s.lookup .fraction).getD []).tail, c.isDigit = true) :
    (Fields.putAll {} s).value? =
      if number s .halfDayHour 0 ≤ 12 then (some (instant s)).filter inRange else none := by
  rw [Fields.value?, halfDayHour_putAll (hs .halfDayHour (by decide)),
    afternoon_putAll (hs .halfDay (by decide)), value_putAll hs hfraction]
  cases hhalf : s.lookup .halfDayHour with
  | none =>
    have hnumber : number s .halfDayHour 0 = 0 := by rw [number, hhalf]; rfl
    have hhour : hourOfDay s = number s .hour 0 := if_pos hhalf
    rw [hnumber, if_pos (by decide), ← hhour]
    rfl
  | some piece =>
    have hnumber : number s .halfDayHour 0 = Nat.ofDigitChars 10 piece 0 := by
      rw [number, hhalf]
      rfl
    have hhour : hourOfDay s = if s.lookup .halfDay = some ['P', 'M'] then
        if number s .halfDayHour 0 < 12 then number s .halfDayHour 0 + 12
        else number s .halfDayHour 0
      else if number s .halfDayHour 0 = 12 then 0 else number s .halfDayHour 0 :=
      if_neg (by rw [hhalf]; exact Option.some_ne_none piece)
    simp only [Option.map_some, ← hnumber]
    rcases Nat.lt_or_ge 12 (number s .halfDayHour 0) with hrange | hrange
    · rw [if_pos hrange, if_neg (Nat.not_le.mpr hrange)]
      rfl
    · rw [if_neg (Nat.not_lt.mpr hrange), if_pos hrange]
      by_cases hafternoon : s.lookup .halfDay = some ['P', 'M']
      · rw [if_pos hafternoon] at hhour
        rw [if_pos (decide_eq_true hafternoon), ← hhour]
        rfl
      · rw [if_neg hafternoon] at hhour
        rw [if_neg (by simpa using hafternoon), ← hhour]
        rfl

/-- The ranges of the fields in terms of the instant. -/
lemma inRange_iff (hclock : s.lookup .hour = none ∨ s.lookup .halfDayHour = none) :
    InRange s ↔ number s .halfDayHour 0 ≤ 12 ∧ inRange (instant s) = true := by
  have hhour : number s .halfDayHour 0 ≤ 12 → (number s .hour 0 ≤ 23 ↔ hourOfDay s ≤ 23) := by
    intro hhalf
    rcases hclock with hclock | hclock
    · have hnone : number s .hour 0 = 0 := by rw [number, hclock]; rfl
      unfold hourOfDay
      dsimp only
      split_ifs <;> omega
    · have hday : hourOfDay s = number s .hour 0 := if_pos hclock
      rw [hday]
  have hinstant : inRange (instant s) = true ↔
      IsDate (number s .year 0) (number s .month 1) (number s .day 1) ∧ hourOfDay s ≤ 23 ∧
        number s .minute 0 ≤ 59 ∧ number s .second 0 ≤ 59 := by
    simp only [inRange, isDate_iff, Bool.and_eq_true, decide_eq_true_eq, and_assoc]
    rfl
  rw [hinstant]
  constructor
  · rintro ⟨hdate, hhours, hhalf, hminute, hsecond⟩
    exact ⟨hhalf, hdate, (hhour hhalf).mp hhours, hminute, hsecond⟩
  · rintro ⟨hhalf, hdate, hhours, hminute, hsecond⟩
    exact ⟨hdate, (hhour hhalf).mpr hhours, hhalf, hminute, hsecond⟩

end Values

/-! ## Reading a string -/

section Reading

variable {f : Family} {form : Form} {forms : List Form} {source : String} {s : Cut}

/-- A fraction has nothing but digits behind its mark. -/
lemma Cuts.isDigit_of_mem_fraction {text : List Char} (h : Cuts form text s) :
    ∀ c ∈ ((s.lookup .fraction).getD []).tail, c.isDigit = true := by
  intro c hc
  cases hfraction : s.lookup .fraction with
  | none =>
    rw [hfraction] at hc
    cases hc
  | some piece =>
    rw [hfraction] at hc
    obtain ⟨l₁, l₂, hs, -⟩ := List.lookup_eq_some_iff.mp hfraction
    have hmem : (Part.fraction, piece) ∈ s := by rw [hs]; simp
    rcases h.shape _ hmem with rfl | ⟨mark, ds, rfl, -, -, hds⟩
    · cases hc
    · exact hds c hc

lemma parse_of_cuts (hf : forms? f = some forms) (hform : form ∈ forms)
    (h : Cuts form (Text.trimList source.toList) s) :
    (InRange s → parse f source = .ok (instant s)) ∧
      (¬ InRange s → ∃ e, parse f source = .error e ∧ e.report.state = ⟨"22008"⟩) := by
  have hforms := readable_of_forms? hf
  have hcount : ∀ p ∈ fieldParts, (s.map Prod.fst).count p ≤ 1 := by
    rw [h.parts]
    exact hforms.count_le_one form hform
  have hclock : s.lookup .hour = none ∨ s.lookup .halfDayHour = none :=
    (hforms.one_clock form hform).imp (fun hp => lookup_eq_none (h.parts ▸ hp))
      fun hp => lookup_eq_none (h.parts ▸ hp)
  have hvalue := value?_putAll hcount h.isDigit_of_mem_fraction
  have hread : read f source.toList =
      (Fields.putAll {} s).value?.elim (.error .outOfRange) .ok := by
    simp only [read, hf, findSome?_fields? hforms hform h]
    cases (Fields.putAll {} s).value? <;> rfl
  rw [inRange_iff hclock, parse, hread]
  constructor
  · rintro ⟨hhalf, hrange⟩
    rw [hvalue, if_pos hhalf, Option.filter_some, if_pos hrange]
    rfl
  · intro hnot
    have hnone : (Fields.putAll {} s).value? = none := by
      rw [hvalue]
      split
      · next hhalf => rw [Option.filter_some, if_neg fun hrange => hnot ⟨hhalf, hrange⟩]
      · rfl
    rw [hnone]
    exact ⟨_, rfl, rfl⟩

lemma parse_of_not_cuts (hf : forms? f = some forms)
    (h : ∀ form ∈ forms, ∀ s, ¬ Cuts form (Text.trimList source.toList) s) :
    ∃ e, parse f source = .error e ∧ e.report.state = ⟨"22007"⟩ := by
  have hread : read f source.toList = .error .malformed := by
    simp only [read, hf, findSome?_fields?_eq_none h]
  rw [parse, hread]
  exact ⟨_, rfl, rfl⟩

end Reading

/-! ## Dates that are written in a form -/

section Written

variable {year month day : Nat}

/-- A number is padded to as many digits as asked for, and stays the same number. -/
lemma digits_padded {width n : Nat} (hwidth : 0 < width) (hn : n < Nat.pow 10 width) :
    Digits width (padded width n).toList ∧ Nat.ofDigitChars 10 (padded width n).toList 0 = n := by
  have hlength : (Nat.toDigits 10 n).length ≤ width :=
    (Nat.length_toDigits_le_iff (by decide) hwidth).mpr hn
  have hpadded : (padded width n).toList =
      List.replicate (width - (Nat.toDigits 10 n).length) '0' ++ Nat.toDigits 10 n := by
    simp only [padded, String.toList_ofList, Nat.toString_eq_repr, Nat.toList_repr]
  rw [hpadded]
  refine ⟨⟨?_, ?_⟩, ?_⟩
  · rw [List.length_append, List.length_replicate]
    omega
  · intro c hc
    rcases List.mem_append.mp hc with hc | hc
    · rw [List.eq_of_mem_replicate hc]
      rfl
    · exact Text.isDigit_of_mem_toDigits hc
  · rw [Nat.ofDigitChars_append, Nat.ofDigitChars_replicate_zero, Nat.mul_zero,
      Nat.ofDigitChars_ten_toDigits]

/-- How a date is written in the parts of a form. -/
def Part.writeDate (year month day : Nat) : Part → List Char
  | .year => (padded 4 year).toList
  | .month => (padded 2 month).toList
  | .day => (padded 2 day).toList
  | .mark c => [c]
  | _ => []

/-- A date in the style of a form. -/
def writeDate (year month day : Nat) (form : Form) : String :=
  String.ofList (form.flatMap (Part.writeDate year month day))

lemma cuts_flatMap {form : Form} {w : Part → List Char} (h : ∀ p ∈ form, p.Shape (w p)) :
    Cuts form (form.flatMap w) (form.map fun p => (p, w p)) := by
  refine ⟨?_, ?_, ?_⟩
  · rw [List.map_map]
    exact List.map_id form
  · simpa using h
  · rw [List.map_map]
    rfl

/-- The date of a text in one of the three styles. -/
lemma instant_dateForms {form : Form} (hform : form ∈ dateForms) (w : Part → List Char) :
    instant (form.map fun p => (p, w p)) =
      { year := Nat.ofDigitChars 10 (w .year) 0
        month := Nat.ofDigitChars 10 (w .month) 0
        day := Nat.ofDigitChars 10 (w .day) 0 } := by
  have hnanoseconds : Nat.ofDigitChars 10 [] 0 * 1000000000 / Nat.pow 10 0 = 0 := by
    rw [Nat.ofDigitChars_nil, Nat.zero_mul, Nat.zero_div]
  simp only [dateForms, List.mem_cons, List.not_mem_nil, or_false] at hform
  rcases hform with rfl | rfl | rfl
  all_goals exact congrArg (Datetime.mk (Nat.ofDigitChars 10 (w .year) 0)
    (Nat.ofDigitChars 10 (w .month) 0) (Nat.ofDigitChars 10 (w .day) 0) 0 0 0) hnanoseconds

lemma inRange_dateForms {form : Form} (hform : form ∈ dateForms) {w : Part → List Char}
    (h : IsDate (Nat.ofDigitChars 10 (w .year) 0) (Nat.ofDigitChars 10 (w .month) 0)
      (Nat.ofDigitChars 10 (w .day) 0)) : InRange (form.map fun p => (p, w p)) := by
  simp only [dateForms, List.mem_cons, List.not_mem_nil, or_false] at hform
  rcases hform with rfl | rfl | rfl
  all_goals exact ⟨h, Nat.zero_le _, Nat.zero_le _, Nat.zero_le _, Nat.zero_le _⟩

/-- The fields of a date have as many digits as its forms provide for. -/
lemma digits_of_isDate (hyear : year ≤ 9999) (hdate : IsDate year month day) :
    Digits 4 (padded 4 year).toList ∧ Digits 2 (padded 2 month).toList ∧
      Digits 2 (padded 2 day).toList ∧
      IsDate (Nat.ofDigitChars 10 (padded 4 year).toList 0)
        (Nat.ofDigitChars 10 (padded 2 month).toList 0)
        (Nat.ofDigitChars 10 (padded 2 day).toList 0) ∧
      ({ year := Nat.ofDigitChars 10 (padded 4 year).toList 0
         month := Nat.ofDigitChars 10 (padded 2 month).toList 0
         day := Nat.ofDigitChars 10 (padded 2 day).toList 0 } : Datetime) =
        { year := year, month := month, day := day } := by
  obtain ⟨-, hmonth, -, hday⟩ := isDate_iff.mp hdate
  have hlength : daysInMonth year month ≤ 31 := by
    unfold daysInMonth
    split_ifs <;> decide
  obtain ⟨hyears, hyear⟩ := digits_padded (by decide)
    (show year < Nat.pow 10 4 from Nat.lt_succ_of_le hyear)
  obtain ⟨hmonths, hmonth⟩ := digits_padded (by decide)
    (show month < Nat.pow 10 2 from Nat.lt_of_le_of_lt hmonth (by decide))
  obtain ⟨hdays, hday⟩ := digits_padded (by decide)
    (show day < Nat.pow 10 2 from Nat.lt_of_le_of_lt (hday.trans hlength) (by decide))
  rw [hyear, hmonth, hday]
  exact ⟨hyears, hmonths, hdays, hdate, rfl⟩

/-- The pieces of a date have the shapes of the parts, and no white space. -/
lemma shape_writeDate {form : Form} (hform : form ∈ dateForms) (hyear : year ≤ 9999)
    (hdate : IsDate year month day) {p : Part} (hp : p ∈ form) :
    p.Shape (p.writeDate year month day) ∧
      ∀ c ∈ p.writeDate year month day, Text.isSpace c = false := by
  have hparts : ∀ form ∈ dateForms, ∀ p ∈ form,
      p ∈ [Part.year, .month, .day, .mark '-', .mark '/', .mark '.'] := by
    decide
  obtain ⟨hyears, hmonths, hdays, -⟩ := digits_of_isDate hyear hdate
  have hp := hparts form hform p hp
  simp only [List.mem_cons, List.not_mem_nil, or_false] at hp
  rcases hp with rfl | rfl | rfl | rfl | rfl | rfl
  · exact ⟨hyears, fun c hc => Text.isSpace_of_isDigit (hyears.2 c hc)⟩
  · exact ⟨hmonths, fun c hc => Text.isSpace_of_isDigit (hmonths.2 c hc)⟩
  · exact ⟨hdays, fun c hc => Text.isSpace_of_isDigit (hdays.2 c hc)⟩
  all_goals
    refine ⟨rfl, fun c hc => ?_⟩
    rw [List.mem_singleton.mp hc]
    rfl

lemma cuts_writeDate {form : Form} (hform : form ∈ dateForms) (hyear : year ≤ 9999)
    (hdate : IsDate year month day) :
    Cuts form (Text.trimList (writeDate year month day form).toList)
      (form.map fun p => (p, p.writeDate year month day)) := by
  have hspace : ∀ c ∈ form.flatMap (Part.writeDate year month day), Text.isSpace c = false := by
    intro c hc
    obtain ⟨p, hp, hc⟩ := List.mem_flatMap.mp hc
    exact (shape_writeDate hform hyear hdate hp).2 c hc
  rw [writeDate, String.toList_ofList, Text.trimList_eq_self
    (fun c hc => hspace c (List.mem_of_mem_head? hc))
    (fun c hc => hspace c (List.mem_of_getLast? hc))]
  exact cuts_flatMap fun p hp => (shape_writeDate hform hyear hdate hp).1

lemma parse_writeDate {form : Form} (hform : form ∈ dateForms) (hyear : year ≤ 9999)
    (hdate : IsDate year month day) :
    parse .date (writeDate year month day form) =
      .ok { year := year, month := month, day := day } := by
  obtain ⟨-, -, -, hdate', hvalue⟩ := digits_of_isDate hyear hdate
  have hrange : InRange (form.map fun p => (p, p.writeDate year month day)) :=
    inRange_dateForms hform hdate'
  rw [(parse_of_cuts rfl hform (cuts_writeDate hform hyear hdate)).1 hrange,
    instant_dateForms hform]
  exact congrArg Except.ok hvalue

end Written

/-- Dates, times and timestamps are the families with forms. -/
lemma isSome_forms?_iff (f : Family) :
    (forms? f).isSome = true ↔ f = .date ∨ f = .time ∨ f = .timestamp := by
  cases f <;> decide

/-- Strings are split into three kinds: those that stand for a value, those with a field out of
range, and malformed ones. There are forms for dates, times and timestamps alone, and those of a
date are the ISO, the USA and the European one. A string, without the white space around it, has the
shape of at most one form of a family, in one way. If it has the shape of none it is malformed.
Otherwise the ranges of its fields decide between the other two, and the value is the instant with
these fields. So a date that is written in one of the three forms is read back. -/
theorem parse_splits_strings :
    (∀ f : Family, (forms? f).isSome = true ↔ f = .date ∨ f = .time ∨ f = .timestamp) ∧
    forms? .date = some [isoDate, usaDate, europeanDate] ∧
    (∀ (f : Family) (forms : List Form), forms? f = some forms → ∀ source : String,
      let text := Text.trimList source.toList
      (∀ form ∈ forms, ∀ form' ∈ forms, ∀ s s', Cuts form text s → Cuts form' text s' →
        form = form' ∧ s = s') ∧
      ((∀ form ∈ forms, ∀ s, ¬ Cuts form text s) →
        ∃ e, parse f source = .error e ∧ e.report.state = ⟨"22007"⟩) ∧
      ∀ form ∈ forms, ∀ s, Cuts form text s →
        (InRange s → parse f source = .ok (instant s)) ∧
        (¬ InRange s → ∃ e, parse f source = .error e ∧ e.report.state = ⟨"22008"⟩)) ∧
    ∀ year month day, year ≤ 9999 → IsDate year month day →
      ∀ form ∈ [isoDate, usaDate, europeanDate], parse .date (writeDate year month day form) =
        .ok { year := year, month := month, day := day } := by
  refine ⟨isSome_forms?_iff, rfl, ?_, ?_⟩
  · intro f forms hf source
    have hforms := readable_of_forms? hf
    refine ⟨?_, parse_of_not_cuts hf, fun form hform s h => parse_of_cuts hf hform h⟩
    intro form hform form' hform' s s' h h'
    obtain rfl := h.eq_of_mem_forms hforms hform hform' h'
    exact ⟨h.parts.symm.trans h'.parts, rfl⟩
  · intro year month day hyear hdate form hform
    exact parse_writeDate hform hyear hdate

/-- Five past midnight in the American style, and an hour that this style does not have. -/
theorem parse_splits_strings_midnight :
    forms? .time = some timeForms ∧ parse .time " 12:05 AM" = .ok { minute := 5 } ∧
      ∃ e, parse .time "13:05 PM" = .error e ∧ e.report.state = ⟨"22008"⟩ := by
  have hf : forms? .time = some timeForms := rfl
  let form : Form := [.halfDayHour, .mark ':', .minute, .mark ' ', .halfDay]
  have hform : form ∈ timeForms := by decide
  let early : Cut := [(.halfDayHour, ['1', '2']), (.mark ':', [':']), (.minute, ['0', '5']),
    (.mark ' ', [' ']), (.halfDay, ['A', 'M'])]
  let late : Cut := [(.halfDayHour, ['1', '3']), (.mark ':', [':']), (.minute, ['0', '5']),
    (.mark ' ', [' ']), (.halfDay, ['P', 'M'])]
  have hearly : Cuts form (Text.trimList " 12:05 AM".toList) early :=
    ⟨rfl, by simp [early, Part.Shape, Digits], by decide⟩
  have hlate : Cuts form (Text.trimList "13:05 PM".toList) late :=
    ⟨rfl, by simp [late, Part.Shape, Digits], by decide⟩
  have hrange : InRange early :=
    ⟨⟨by decide, by decide, 31, rfl, by decide⟩, by decide, by decide, by decide, by decide⟩
  have hout : ¬ InRange late := by
    intro h
    exact absurd h.halfDayHour (by decide)
  have hvalue : instant early = { minute := 5 } := by decide
  refine ⟨hf, ?_, ?_⟩
  · obtain ⟨-, -, hsplit⟩ := parse_splits_strings.2.2.1 .time timeForms hf " 12:05 AM"
    rw [(hsplit form hform early hearly).1 hrange, hvalue]
  · obtain ⟨-, -, hsplit⟩ := parse_splits_strings.2.2.1 .time timeForms hf "13:05 PM"
    exact (hsplit form hform late hlate).2 hout

end SqlTyping.Datetime
