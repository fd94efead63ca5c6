import Mathlib.Data.List.Basic
import Mathlib.Data.List.TakeWhile
import SqlTyping.Value.Datetime

/-!
# Forms of datetime strings

A text has the shape of a form if it can be cut into pieces that have the shapes of the parts
(`Cuts`). The reader takes parts off the front. Where an hour ends is told by the mark behind it,
and fractions stand at the end, so it finds the only cut that there is (`fields?_of_cuts`,
`Cuts.unique`). Forms of one family differ in the characters that are not digits, so that a text has
the shape of at most one of them (`Cuts.eq_of_mem_forms`).
-/

namespace SqlTyping.Datetime

/-! ## Shapes -/

/-- A text of `n` digits. -/
def Digits (n : Nat) (cs : List Char) : Prop :=
  cs.length = n ∧ ∀ c ∈ cs, c.isDigit = true

/-- The texts that have the shape of a part. -/
def Part.Shape : Part → List Char → Prop
  | .year, cs => Digits 4 cs
  | .hour, cs => Digits 1 cs ∨ Digits 2 cs
  | .fraction, cs => cs = [] ∨
      ∃ c ds, cs = c :: ds ∧ (c = '.' ∨ c = ',') ∧ ds ≠ [] ∧ ∀ d ∈ ds, d.isDigit = true
  | .halfDay, cs => cs = ['A', 'M'] ∨ cs = ['P', 'M']
  | .mark c, cs => cs = [c]
  | .month, cs | .day, cs | .halfDayHour, cs | .minute, cs | .second, cs => Digits 2 cs

/-- A text in pieces, each with the part of a form that it stands for. -/
abbrev Cut := List (Part × List Char)

/-- The text has the shape of the form, and this is how it is cut into parts. -/
structure Cuts (form : Form) (text : List Char) (s : Cut) : Prop where
  parts : s.map Prod.fst = form
  shape : ∀ x ∈ s, x.1.Shape x.2
  text : (s.map Prod.snd).flatten = text

/-! ## Taking parts off the front -/

section Steps

variable {p : Part} {f g : Fields} {cs piece rest : List Char}

lemma digitsValue_eq (cs : List Char) : digitsValue cs = Nat.ofDigitChars 10 cs 0 := by
  rw [digitsValue, Nat.ofDigitChars_eq_foldl]
  simp only [Nat.mul_comm]

lemma takeDigits?_eq_some_iff {n v : Nat} :
    takeDigits? n cs = some (v, rest) ↔
      ∃ ds, Digits n ds ∧ cs = ds ++ rest ∧ v = Nat.ofDigitChars 10 ds 0 := by
  constructor
  · intro h
    unfold takeDigits? at h
    dsimp only at h
    split at h
    · next hdigits =>
      cases h
      refine ⟨cs.take n, ⟨hdigits.1, ?_⟩, (List.take_append_drop n cs).symm, digitsValue_eq _⟩
      exact List.all_eq_true.mp hdigits.2
    · cases h
  · rintro ⟨ds, ⟨rfl, hdigits⟩, rfl, rfl⟩
    have hall : ds.all isDigit = true := List.all_eq_true.mpr hdigits
    rw [takeDigits?, List.take_left, List.drop_left, digitsValue_eq]
    exact if_pos ⟨rfl, hall⟩

lemma exists_of_takeHour? {v : Nat} (h : takeHour? cs = some (v, rest)) :
    ∃ ds, (Digits 1 ds ∨ Digits 2 ds) ∧ cs = ds ++ rest ∧ v = Nat.ofDigitChars 10 ds 0 := by
  rcases Option.or_eq_some_iff.mp h with h | ⟨-, h⟩
  · obtain ⟨ds, hds, hcs, hv⟩ := takeDigits?_eq_some_iff.mp h
    exact ⟨ds, Or.inr hds, hcs, hv⟩
  · obtain ⟨ds, hds, hcs, hv⟩ := takeDigits?_eq_some_iff.mp h
    exact ⟨ds, Or.inl hds, hcs, hv⟩

/-- An hour of one digit is taken for such if no other digit follows. -/
lemma takeHour?_append (hpiece : Digits 1 piece ∨ Digits 2 piece)
    (hrest : ∀ c ∈ rest.head?, c.isDigit = false) :
    takeHour? (piece ++ rest) = some (Nat.ofDigitChars 10 piece 0, rest) := by
  rcases hpiece with hpiece | hpiece
  · have hone : takeDigits? 2 (piece ++ rest) = none := by
      rw [Option.eq_none_iff_forall_ne_some]
      rintro ⟨v, rest'⟩ htwo
      obtain ⟨ds, ⟨hlength, hds⟩, hsplit, -⟩ := takeDigits?_eq_some_iff.mp htwo
      obtain ⟨d, rfl⟩ := List.length_eq_one_iff.mp hpiece.1
      obtain ⟨a, b, rfl⟩ := List.length_eq_two.mp hlength
      obtain rfl : rest = b :: rest' := (List.cons.inj hsplit).2
      have hb := hrest b rfl
      rw [hds b (by simp)] at hb
      cases hb
    rw [takeHour?, hone, takeDigits?_eq_some_iff.mpr ⟨piece, hpiece, rfl, rfl⟩]
    rfl
  · rw [takeHour?, takeDigits?_eq_some_iff.mpr ⟨piece, hpiece, rfl, rfl⟩]
    rfl

/-- What a piece of text says about the fields. -/
def Fields.put (f : Fields) : Part → List Char → Fields
  | .year, cs => { f with value.year := Nat.ofDigitChars 10 cs 0 }
  | .month, cs => { f with value.month := Nat.ofDigitChars 10 cs 0 }
  | .day, cs => { f with value.day := Nat.ofDigitChars 10 cs 0 }
  | .hour, cs => { f with value.hour := Nat.ofDigitChars 10 cs 0 }
  | .halfDayHour, cs => { f with halfDayHour := some (Nat.ofDigitChars 10 cs 0) }
  | .minute, cs => { f with value.minute := Nat.ofDigitChars 10 cs 0 }
  | .second, cs => { f with value.second := Nat.ofDigitChars 10 cs 0 }
  | .fraction, cs => { f with value.nanosecond := nanoseconds cs.tail }
  | .halfDay, cs => { f with afternoon := f.afternoon || cs = ['P', 'M'] }
  | .mark _, _ => f

/-- Where a part ends is known from what follows it. -/
def Part.Ends : Part → List Char → Prop
  | .hour, rest => ∀ c ∈ rest.head?, c.isDigit = false
  | .fraction, rest => rest = []
  | _, _ => True

lemma exists_of_map_takeDigits? {n : Nat} {k : Nat → Fields}
    (h : (takeDigits? n cs).map (fun r => (k r.1, r.2)) = some (g, rest)) :
    ∃ piece, Digits n piece ∧ cs = piece ++ rest ∧ g = k (Nat.ofDigitChars 10 piece 0) := by
  obtain ⟨⟨v, rest'⟩, hv, heq⟩ := Option.map_eq_some_iff.mp h
  cases heq
  obtain ⟨ds, hds, hcs, rfl⟩ := takeDigits?_eq_some_iff.mp hv
  exact ⟨ds, hds, hcs, rfl⟩

/-- A fraction is taken off with all of its digits. -/
lemma exists_of_takeFraction (cs : List Char) :
    ∃ piece, Part.fraction.Shape piece ∧ cs = piece ++ (takeFraction cs).2 ∧
      (takeFraction cs).1 = nanoseconds piece.tail := by
  cases cs with
  | nil => exact ⟨[], Or.inl rfl, rfl, rfl⟩
  | cons c cs =>
    rw [takeFraction]
    split_ifs with h
    · have hne : cs.takeWhile isDigit ≠ [] := by simpa using h.2
      refine ⟨c :: cs.takeWhile isDigit, Or.inr ⟨c, _, rfl, h.1, hne, ?_⟩, ?_, rfl⟩
      · exact fun d hd => List.mem_takeWhile_imp hd
      · rw [List.cons_append, List.takeWhile_append_dropWhile]
    · exact ⟨[], Or.inl rfl, rfl, rfl⟩

/-- A fraction at the end of a text is taken off as a whole. -/
lemma takeFraction_eq (h : Part.fraction.Shape cs) :
    takeFraction cs = (nanoseconds cs.tail, []) := by
  rcases h with rfl | ⟨c, ds, rfl, hc, hne, hds⟩
  · rfl
  · have htake : ds.takeWhile isDigit = ds := List.takeWhile_eq_self_iff.mpr hds
    have hdrop : ds.dropWhile isDigit = [] := List.dropWhile_eq_nil_iff.mpr hds
    rw [takeFraction, htake, hdrop]
    exact if_pos ⟨hc, by simpa using hne⟩

/-- A part that is taken off has its shape, and the fields become what the part says. -/
lemma exists_of_takePart? (h : takePart? p f cs = some (g, rest)) :
    ∃ piece, p.Shape piece ∧ cs = piece ++ rest ∧ g = f.put p piece := by
  cases p with
  | year => exact exists_of_map_takeDigits? (k := fun v => { f with value.year := v }) h
  | month => exact exists_of_map_takeDigits? (k := fun v => { f with value.month := v }) h
  | day => exact exists_of_map_takeDigits? (k := fun v => { f with value.day := v }) h
  | minute => exact exists_of_map_takeDigits? (k := fun v => { f with value.minute := v }) h
  | second => exact exists_of_map_takeDigits? (k := fun v => { f with value.second := v }) h
  | halfDayHour =>
    exact exists_of_map_takeDigits? (k := fun v => { f with halfDayHour := some v }) h
  | hour =>
    obtain ⟨⟨v, rest'⟩, hv, heq⟩ := Option.map_eq_some_iff.mp h
    cases heq
    obtain ⟨ds, hds, hcs, rfl⟩ := exists_of_takeHour? hv
    exact ⟨ds, hds, hcs, rfl⟩
  | fraction =>
    obtain ⟨piece, hpiece, hcs, hvalue⟩ := exists_of_takeFraction cs
    cases h
    exact ⟨piece, hpiece, hcs, by rw [hvalue]; rfl⟩
  | halfDay =>
    unfold takePart? at h
    dsimp only at h
    split at h
    · cases h
      exact ⟨['A', 'M'], Or.inl rfl, rfl, by simp [Fields.put]⟩
    · cases h
      exact ⟨['P', 'M'], Or.inr rfl, rfl, by simp [Fields.put]⟩
    · cases h
  | mark c =>
    unfold takePart? at h
    dsimp only at h
    split at h
    · split_ifs at h with hc
      cases h
      exact ⟨[c], rfl, by rw [hc]; rfl, rfl⟩
    · cases h

/-- A piece with the shape of a part is taken off as a whole. -/
lemma takePart?_append (hshape : p.Shape piece) (hends : p.Ends rest) (f : Fields) :
    takePart? p f (piece ++ rest) = some (f.put p piece, rest) := by
  cases p with
  | year | month | day | minute | second | halfDayHour =>
    rw [takePart?, takeDigits?_eq_some_iff.mpr ⟨piece, hshape, rfl, rfl⟩]
    rfl
  | hour =>
    rw [takePart?, takeHour?_append hshape hends]
    rfl
  | fraction =>
    obtain rfl : rest = [] := hends
    rw [takePart?, List.append_nil, takeFraction_eq hshape]
    rfl
  | halfDay =>
    rcases hshape with rfl | rfl
    · simp [takePart?, Fields.put]
    · simp [takePart?, Fields.put]
  | mark c =>
    obtain rfl : piece = [c] := hshape
    exact if_pos rfl

end Steps

/-! ## Reading a form -/

section Runs

variable {p : Part} {form form' : Form} {f g : Fields} {text : List Char} {s s' : Cut}

/-- The fields that the pieces of a text give. -/
def Fields.putAll (f : Fields) (s : Cut) : Fields :=
  s.foldl (fun f x => f.put x.1 x.2) f

lemma cuts_nil_iff : Cuts [] text s ↔ s = [] ∧ text = [] := by
  constructor
  · rintro ⟨hparts, -, rfl⟩
    obtain rfl := List.map_eq_nil_iff.mp hparts
    exact ⟨rfl, rfl⟩
  · rintro ⟨rfl, rfl⟩
    exact ⟨rfl, List.forall_mem_nil _, rfl⟩

lemma cuts_cons_iff : Cuts (p :: form) text s ↔
    ∃ piece rest t, s = (p, piece) :: t ∧ p.Shape piece ∧ text = piece ++ rest ∧
      Cuts form rest t := by
  constructor
  · rintro ⟨hparts, hshape, rfl⟩
    obtain ⟨⟨q, piece⟩, t, rfl, rfl, rfl⟩ := List.map_eq_cons_iff.mp hparts
    rw [List.forall_mem_cons] at hshape
    exact ⟨piece, _, t, rfl, hshape.1, rfl, rfl, hshape.2, rfl⟩
  · rintro ⟨piece, rest, t, rfl, hpiece, rfl, rfl, hshape, rfl⟩
    exact ⟨rfl, List.forall_mem_cons.mpr ⟨hpiece, hshape⟩, rfl⟩

/-- Whether the part is a mark that is no digit. -/
def Part.isMark : Part → Bool
  | .mark c => !c.isDigit
  | _ => false

/-- Whether the ends of all parts can be told: a mark follows the hour, and the fraction is last. -/
def Form.isDelimited : Form → Bool
  | [] => true
  | p :: rest =>
    (p != .hour || rest.head?.any Part.isMark) && (p != .fraction || rest.isEmpty) &&
      Form.isDelimited rest

/-- In a form with marks at the right places, what follows a part tells where the part ends. -/
lemma Cuts.ends {rest : List Char} (hform : Form.isDelimited (p :: form) = true)
    (h : Cuts form rest s) : p.Ends rest := by
  obtain ⟨hform, -⟩ := Bool.and_eq_true_iff.mp hform
  obtain ⟨hhour, hfraction⟩ := Bool.and_eq_true_iff.mp hform
  -- All parts but hours and fractions have a fixed length.
  cases p with
  | hour =>
    have hmark : form.head?.any Part.isMark = true := hhour
    cases form with
    | nil => cases hmark
    | cons q form =>
      obtain ⟨piece, rest, t, rfl, hshape, rfl, -⟩ := cuts_cons_iff.mp h
      cases q with
      | mark c =>
        obtain rfl : piece = [c] := hshape
        intro d hd
        cases hd
        exact (Bool.not_eq_true' _).mp hmark
      | _ => cases hmark
  | fraction =>
    have hlast : form.isEmpty = true := hfraction
    obtain rfl := List.isEmpty_iff.mp hlast
    exact (cuts_nil_iff.mp h).2
  | _ => trivial

/-- The fields that are read are those of a cut. -/
lemma exists_cuts_of_fields? (h : form.fields? f text = some g) :
    ∃ s, Cuts form text s ∧ g = f.putAll s := by
  induction form generalizing f text with
  | nil =>
    rw [Form.fields?] at h
    split at h
    · next hempty =>
      cases h
      exact ⟨[], cuts_nil_iff.mpr ⟨rfl, List.isEmpty_iff.mp hempty⟩, rfl⟩
    · cases h
  | cons p form ih =>
    rw [Form.fields?] at h
    split at h
    · next f' rest hstep =>
      obtain ⟨piece, hshape, rfl, rfl⟩ := exists_of_takePart? hstep
      obtain ⟨t, ht, rfl⟩ := ih h
      exact ⟨(p, piece) :: t, cuts_cons_iff.mpr ⟨piece, rest, t, rfl, hshape, rfl, ht⟩, rfl⟩
    · cases h

/-- The fields of a cut are read. -/
lemma fields?_of_cuts (hform : form.isDelimited = true) (h : Cuts form text s) (f : Fields) :
    form.fields? f text = some (f.putAll s) := by
  induction form generalizing f text s with
  | nil =>
    obtain ⟨rfl, rfl⟩ := cuts_nil_iff.mp h
    rfl
  | cons p form ih =>
    obtain ⟨piece, rest, t, rfl, hshape, rfl, ht⟩ := cuts_cons_iff.mp h
    rw [Form.fields?, takePart?_append hshape (ht.ends hform)]
    exact ih (Bool.and_eq_true_iff.mp hform).2 ht _

/-- There is only one way to cut a text into the parts of a form. -/
lemma Cuts.unique (hform : form.isDelimited = true) (h : Cuts form text s)
    (h' : Cuts form text s') : s = s' := by
  induction form generalizing text s s' with
  | nil => rw [(cuts_nil_iff.mp h).1, (cuts_nil_iff.mp h').1]
  | cons p form ih =>
    obtain ⟨piece, rest, t, rfl, hshape, rfl, ht⟩ := cuts_cons_iff.mp h
    obtain ⟨piece', rest', t', rfl, hshape', htext, ht'⟩ := cuts_cons_iff.mp h'
    have hstep := takePart?_append hshape (ht.ends hform) {}
    rw [htext, takePart?_append hshape' (ht'.ends hform)] at hstep
    obtain rfl : rest' = rest := (Prod.mk.inj (Option.some.inj hstep)).2
    obtain rfl : piece = piece' := List.append_cancel_right htext
    rw [ih (Bool.and_eq_true_iff.mp hform).2 ht ht']

end Runs

/-! ## Telling forms apart -/

section Skeletons

variable {form form' : Form} {forms : List Form} {text : List Char} {s s' : Cut}

/-- What a piece of text can look like without its digits. -/
def Part.skeletons : Part → List (List Char)
  | .fraction => [[], ['.'], [',']]
  | .halfDay => [['A', 'M'], ['P', 'M']]
  | .mark c => [[c].filter (!·.isDigit)]
  | _ => [[]]

/-- What a text of the form can look like without its digits. -/
def Form.skeletons : Form → List (List Char)
  | [] => [[]]
  | p :: rest => p.skeletons.flatMap fun k => (Form.skeletons rest).map (k ++ ·)

lemma Digits.filter_eq_nil {n : Nat} {cs : List Char} (h : Digits n cs) :
    cs.filter (!·.isDigit) = [] := by
  rw [List.filter_eq_nil_iff]
  intro c hc
  rw [h.2 c hc]
  decide

lemma Part.Shape.filter_mem_skeletons {p : Part} {piece : List Char} (h : p.Shape piece) :
    piece.filter (!·.isDigit) ∈ p.skeletons := by
  cases p with
  | year | month | day | halfDayHour | minute | second =>
    exact List.mem_singleton.mpr (Digits.filter_eq_nil h)
  | hour =>
    rcases h with h | h
    · exact List.mem_singleton.mpr h.filter_eq_nil
    · exact List.mem_singleton.mpr h.filter_eq_nil
  | fraction =>
    rcases h with rfl | ⟨c, ds, rfl, hc, -, hds⟩
    · exact List.mem_cons_self
    · have hdigits : ds.filter (!·.isDigit) = [] := Digits.filter_eq_nil ⟨rfl, hds⟩
      rcases hc with rfl | rfl
      · rw [List.filter_cons_of_pos (by decide), hdigits]
        decide
      · rw [List.filter_cons_of_pos (by decide), hdigits]
        decide
  | halfDay => rcases h with rfl | rfl <;> decide
  | mark c =>
    obtain rfl : piece = [c] := h
    exact List.mem_singleton.mpr rfl

lemma Cuts.filter_mem_skeletons (h : Cuts form text s) :
    text.filter (!·.isDigit) ∈ form.skeletons := by
  induction form generalizing text s with
  | nil =>
    obtain ⟨-, rfl⟩ := cuts_nil_iff.mp h
    exact List.mem_singleton.mpr rfl
  | cons p form ih =>
    obtain ⟨piece, rest, t, -, hshape, rfl, ht⟩ := cuts_cons_iff.mp h
    rw [List.filter_append, Form.skeletons]
    exact List.mem_flatMap.mpr ⟨_, hshape.filter_mem_skeletons, List.mem_map.mpr ⟨_, ih ht, rfl⟩⟩

/-- The parts that hold fields. -/
def fieldParts : List Part :=
  [.year, .month, .day, .hour, .halfDayHour, .minute, .second, .fraction, .halfDay]

/-- The forms can be read from left to right. They have no field twice, and not both kinds of hours.
No two of them look the same without digits. -/
structure Readable (forms : List Form) : Prop where
  delimited : ∀ form ∈ forms, form.isDelimited = true
  count_le_one : ∀ form ∈ forms, ∀ p ∈ fieldParts, form.count p ≤ 1
  one_clock : ∀ form ∈ forms, .hour ∉ form ∨ .halfDayHour ∉ form
  apart : ∀ form ∈ forms, ∀ form' ∈ forms, ∀ k ∈ form.skeletons, k ∈ form'.skeletons → form = form'

lemma readable_of_forms? {f : Family} (hf : forms? f = some forms) : Readable forms := by
  have hdate : Readable dateForms := ⟨by decide, by decide, by decide, by decide⟩
  have htime : Readable timeForms := ⟨by decide, by decide, by decide, by decide⟩
  have htimestamp : Readable timestampForms := ⟨by decide, by decide, by decide, by decide⟩
  unfold forms? at hf
  split at hf
  · cases hf
    exact hdate
  · cases hf
    exact htime
  · cases hf
    exact htimestamp
  · cases hf

/-- A text has the shape of at most one form of a family, and can be cut in one way only. -/
lemma Cuts.eq_of_mem_forms (hforms : Readable forms) (hform : form ∈ forms)
    (hform' : form' ∈ forms) (h : Cuts form text s) (h' : Cuts form' text s') : s = s' := by
  obtain rfl := hforms.apart form hform form' hform' _ h.filter_mem_skeletons
    h'.filter_mem_skeletons
  exact h.unique (hforms.delimited form hform) h'

/-- The first form that fits is the only one. -/
lemma findSome?_fields? (hforms : Readable forms) (hform : form ∈ forms) (h : Cuts form text s) :
    forms.findSome? (fun form => form.fields? {} text) = some (Fields.putAll {} s) := by
  have hfields := fields?_of_cuts (hforms.delimited form hform) h {}
  -- An earlier form that fits as well would be the same form.
  cases hfind : forms.findSome? (fun form => form.fields? {} text) with
  | none =>
    rw [List.findSome?_eq_none_iff.mp hfind form hform] at hfields
    cases hfields
  | some g =>
    obtain ⟨form', hform', hg⟩ := List.exists_of_findSome?_eq_some hfind
    obtain ⟨s', hs', rfl⟩ := exists_cuts_of_fields? hg
    rw [h.eq_of_mem_forms hforms hform hform' hs']

lemma findSome?_fields?_eq_none (h : ∀ form ∈ forms, ∀ s, ¬ Cuts form text s) :
    forms.findSome? (fun form => form.fields? {} text) = none := by
  rw [List.findSome?_eq_none_iff]
  intro form hform
  rw [Option.eq_none_iff_forall_ne_some]
  intro g hg
  obtain ⟨s, hs, -⟩ := exists_cuts_of_fields? hg
  exact h form hform s hs

end Skeletons

end SqlTyping.Datetime
