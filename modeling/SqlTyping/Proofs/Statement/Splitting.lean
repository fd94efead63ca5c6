import Mathlib.Data.List.Induction
import Mathlib.Data.List.Infix
import SqlTyping.Proofs.Statement.Site

/-!
# Operand lists are cut where they were joined

A character of a text stands outside quotes if an even number of quotes is in front of it. With that
the rule for cutting an operand list can be told by counting: a text is `Level` if its quotes come
in pairs and as many parentheses are closed as opened outside of them, and a list ends at the first
closing parenthesis in front of which the text is level.

The counts after a text are the `Nesting` that the cutting has reached there (`step?_behind`). From
this step follow, by induction along the text, that texts without a separating comma are `Closed`
(`IsOperandText.closed`), and that the cutting fails exactly if there is no parenthesis that ends
the list (`segments?_eq_none_iff`).
-/

namespace SqlTyping

/-! ## Counting outside quotes -/

/-- How often a character stands outside quotes in a text. -/
def countOutside (c : Char) (cs : List Char) : Nat :=
  (List.range cs.length).countP fun i => cs[i]? = some c ∧ (cs.take i).count '\'' % 2 = 0

lemma countOutside_concat (c d : Char) (cs : List Char) :
    countOutside c (cs ++ [d]) =
      countOutside c cs + if d = c ∧ cs.count '\'' % 2 = 0 then 1 else 0 := by
  unfold countOutside
  rw [List.length_append, List.length_singleton, List.range_succ, List.countP_append]
  congr 1
  · refine List.countP_congr fun i hi => ?_
    have hlt := List.mem_range.mp hi
    rw [List.getElem?_append_left hlt, List.take_append_of_le_length hlt.le]
  · simp [List.countP_singleton]

/-- Whether the end of a text is outside of all quotes and parentheses in it, given that none of its
parentheses are closed too early. -/
def Level (cs : List Char) : Prop :=
  cs.count '\'' % 2 = 0 ∧ countOutside '(' cs = countOutside ')' cs

instance (cs : List Char) : Decidable (Level cs) :=
  inferInstanceAs (Decidable (_ ∧ _))

namespace Nesting

/-- The nesting at the end of a text, by counting. -/
def behind (cs : List Char) : Nesting :=
  ⟨countOutside '(' cs - countOutside ')' cs, cs.count '\'' % 2 = 1⟩

variable {cs : List Char} {c : Char}

lemma behind_eq_outside (h : Level cs) : behind cs = outside := by
  simp [behind, outside, h.1, h.2]

/-- Outside quotes, where all parentheses are closed, the text is level. -/
lemma level_of_depth_eq_zero (habove : countOutside ')' cs ≤ countOutside '(' cs)
    (heven : cs.count '\'' % 2 = 0) (h : (behind cs).depth = 0) : Level cs :=
  ⟨heven, le_antisymm (Nat.sub_eq_zero_iff_le.mp h) habove⟩

/-- A character that neither ends the list nor separates two texts leads to the nesting behind
it. -/
lemma step?_behind (habove : countOutside ')' cs ≤ countOutside '(' cs)
    (hc : Level cs → c ≠ ',' ∧ c ≠ ')') : (behind cs).step? c = some (behind (cs ++ [c])) := by
  unfold step?
  rcases Nat.mod_two_eq_zero_or_one (cs.count '\'') with heven | hodd
  · have hends : (behind cs).depth = 0 → c ≠ ',' ∧ c ≠ ')' := fun h =>
      hc (level_of_depth_eq_zero habove heven h)
    have hquoted : ¬ (behind cs).quoted = true := by simp [behind, heven]
    rw [if_neg hquoted]
    split_ifs with hquote hopening hclosing hdepth hcomma
    · subst hquote
      have hodd : (cs.count '\'' + 1) % 2 = 1 := by omega
      simp [behind, countOutside_concat, hodd]
    · subst hopening
      have hdeeper : countOutside '(' cs - countOutside ')' cs + 1 =
          countOutside '(' cs + 1 - countOutside ')' cs := by
        omega
      simp [behind, countOutside_concat, heven, hdeeper]
    · exact absurd hclosing (hends hdepth).2
    · subst hclosing
      simp [behind, countOutside_concat, heven, Nat.sub_add_eq]
    · exact absurd hcomma.1 (hends hcomma.2).1
    · simp [behind, countOutside_concat, heven, hquote, hopening, hclosing]
  · have hquoted : (behind cs).quoted = true := by simp [behind, hodd]
    rw [if_pos hquoted]
    by_cases hquote : c = '\''
    · subst hquote
      have heven : (cs.count '\'' + 1) % 2 = 0 := by omega
      simp [behind, countOutside_concat, hodd, heven]
    · simp [behind, countOutside_concat, hodd, hquote]

end Nesting

/-- A parenthesis that is open at the end of a text can be closed there. -/
lemma countOutside_concat_le {cs : List Char} {c : Char}
    (habove : countOutside ')' cs ≤ countOutside '(' cs) (hc : Level cs → c ≠ ')') :
    countOutside ')' (cs ++ [c]) ≤ countOutside '(' (cs ++ [c]) := by
  rw [countOutside_concat, countOutside_concat]
  by_cases hclosing : c = ')' ∧ cs.count '\'' % 2 = 0
  · have hne : countOutside '(' cs ≠ countOutside ')' cs := fun heq =>
      hc ⟨hclosing.2, heq⟩ hclosing.1
    rw [if_pos hclosing]
    omega
  · rw [if_neg hclosing]
    omega

/-- A separating comma leaves the text level. -/
lemma Level.concat_comma {cs : List Char} (h : Level cs) : Level (cs ++ [',']) := by
  simpa [Level, countOutside_concat] using h

/-! ## Texts of operands -/

/-- A text that can stand in an operand list: without white space at its ends, with quotes and
parentheses that it closes itself, and without a comma outside of them. -/
structure IsOperandText (text : List Char) : Prop where
  first : ∀ c ∈ text.head?, Text.isSpace c = false
  last : ∀ c ∈ text.getLast?, Text.isSpace c = false
  level : Level text
  above : ∀ front, front <+: text → countOutside ')' front ≤ countOutside '(' front
  comma : ∀ front, front ++ [','] <+: text → ¬ Level front

namespace IsOperandText

variable {text : List Char}

instance : Decidable (IsOperandText text) :=
  decidable_of_iff
    (text.head?.all (!Text.isSpace ·) ∧ text.getLast?.all (!Text.isSpace ·) ∧ Level text ∧
      (∀ front ∈ text.inits, countOutside ')' front ≤ countOutside '(' front) ∧
      ∀ front ∈ text.inits, front ++ [','] <+: text → ¬ Level front) <| by
    simp only [Option.all_eq_true, Bool.not_eq_true', List.mem_inits]
    constructor
    · rintro ⟨hfirst, hlast, hlevel, habove, hcomma⟩
      exact ⟨hfirst, hlast, hlevel, habove, fun front hfront =>
        hcomma front ((List.prefix_append front [',']).trans hfront) hfront⟩
    · rintro ⟨hfirst, hlast, hlevel, habove, hcomma⟩
      exact ⟨hfirst, hlast, hlevel, habove, fun front _ => hcomma front⟩

lemma trimList_eq (h : IsOperandText text) : Text.trimList text = text :=
  Text.trimList_eq_self h.first h.last

/-- The nesting at each place of the text is the one by counting. -/
lemma after?_eq (h : IsOperandText text) {front : List Char} (hfront : front <+: text) :
    Nesting.outside.after? front = some (.behind front) := by
  induction front using List.reverseRecOn with
  | nil => rfl
  | append_singleton front c ih =>
    have hshorter : front <+: text := (List.prefix_append front [c]).trans hfront
    have hc : Level front → c ≠ ',' ∧ c ≠ ')' := by
      intro hlevel
      refine ⟨?_, ?_⟩
      · rintro rfl
        exact h.comma front hfront hlevel
      · rintro rfl
        have hle := h.above _ hfront
        rw [countOutside_concat, countOutside_concat, if_pos ⟨rfl, hlevel.1⟩,
          if_neg fun hopening => absurd hopening.1 (by decide), hlevel.2] at hle
        omega
    rw [Nesting.after?_append, ih hshorter, Option.bind_some, Nesting.after?_cons,
      Nesting.step?_behind (h.above front hshorter) hc]
    rfl

lemma closed (h : IsOperandText text) : Closed text := by
  rw [Closed, h.after?_eq List.prefix_rfl, Nesting.behind_eq_outside h.level]

end IsOperandText

namespace Site

/-! ## The end of the list -/

/-- A list that has gone on for the text `front` is ended in what follows. -/
def EndsBehind (front cs : List Char) : Prop :=
  ∃ before after, cs = before ++ ')' :: after ∧ Level (front ++ before)

lemma endsBehind_cons {front cs : List Char} {c : Char} :
    EndsBehind front (c :: cs) ↔ c = ')' ∧ Level front ∨ EndsBehind (front ++ [c]) cs := by
  constructor
  · rintro ⟨before, after, hcs, hlevel⟩
    cases before with
    | nil =>
      rw [List.append_nil] at hlevel
      exact .inl ⟨(List.cons.inj hcs).1, hlevel⟩
    | cons d before =>
      obtain ⟨rfl, hrest⟩ := List.cons.inj hcs
      refine .inr ⟨before, after, hrest, ?_⟩
      rwa [List.append_assoc]
  · rintro (⟨rfl, hlevel⟩ | ⟨before, after, rfl, hlevel⟩)
    · exact ⟨[], cs, rfl, by rwa [List.append_nil]⟩
    · refine ⟨c :: before, after, rfl, ?_⟩
      rwa [List.append_assoc] at hlevel

/-- The cutting fails if the list does not end, and only then. -/
lemma segments?_eq_none_iff {front : List Char}
    (habove : countOutside ')' front ≤ countOutside '(' front) (cs : List Char) :
    segments? ((Nesting.behind front).depth + 1) (Nesting.behind front).quoted cs = none ↔
      ¬ EndsBehind front cs := by
  -- Each character moves to the end of `front`, whose counts stay the state of the cutting.
  induction cs generalizing front with
  | nil =>
    refine iff_of_true rfl ?_
    rintro ⟨before, after, hcs, -⟩
    simp at hcs
  | cons c cs ih =>
    rw [endsBehind_cons]
    by_cases hends : Level front ∧ c = ')'
    · obtain ⟨hlevel, rfl⟩ := hends
      rw [Nesting.behind_eq_outside hlevel]
      simp [segments?, Nesting.outside, hlevel]
    · have hclosing : Level front → c ≠ ')' := fun hlevel hc => hends ⟨hlevel, hc⟩
      have ih := ih (countOutside_concat_le habove hclosing)
      rw [or_iff_right fun h => hclosing h.2 h.1, ← ih]
      by_cases hcomma : Level front ∧ c = ','
      · obtain ⟨hlevel, rfl⟩ := hcomma
        -- The comma starts a new text, but whether the list ends does not depend on that.
        rw [Nesting.behind_eq_outside hlevel, Nesting.behind_eq_outside hlevel.concat_comma]
        exact Option.map_eq_none_iff
      · have hc : Level front → c ≠ ',' ∧ c ≠ ')' := fun hlevel =>
          ⟨fun hc => hcomma ⟨hlevel, hc⟩, hclosing hlevel⟩
        rw [segments?_cons (Nesting.step?_behind habove hc), Option.map_eq_none_iff]

/-- Whether the parenthesis in front of a text is closed in it outside quotes. -/
def ClosesOpening (body : List Char) : Prop :=
  ∃ before after, body = before ++ ')' :: after ∧ Level before

lemma splitOperands?_eq_none_iff (body : List Char) :
    splitOperands? body = none ↔ ¬ ClosesOpening body := by
  rw [splitOperands?, Option.map_eq_none_iff]
  exact @segments?_eq_none_iff [] le_rfl body

/-! ## Lines -/

/-- What stands behind the first opening parenthesis of a line. -/
def behindOpening (line : List Char) : List Char :=
  (line.dropWhile (· != '(')).tail

lemma behindOpening_append {front : List Char} (hfront : '(' ∉ front) (body : List Char) :
    behindOpening (front ++ '(' :: body) = body := by
  rw [behindOpening, (divide_at_opening hfront body).2, List.tail_cons]

/-- A line whose operand list does not end is refused. -/
lemma parse_of_splitOperands?_eq_none {front body : List Char} {opening : Opening}
    (hfront : '(' ∉ front) (hopening : readOpening? (Text.wordList front) = some opening)
    (hsplit : splitOperands? body = none) :
    Site.parse (String.ofList (front ++ '(' :: body)) =
      .error (SiteError.unbalanced.abort (String.ofList (front ++ '(' :: body))) := by
  obtain ⟨htake, hdrop⟩ := divide_at_opening hfront body
  have hread : read (front ++ '(' :: body) = .error .unbalanced := by
    rw [read, htake, hdrop, hopening]
    simp only [hsplit]
  rw [Site.parse, String.toList_ofList, hread]
  rfl

/-- Texts of operands that are joined by commas and spaces between parentheses are found again,
together with what follows, whatever stands in front of the list; only the single empty text is left
out. Every line is either cut or refused for its syntax, the latter exactly if the parenthesis that
opens the list is never closed outside quotes. -/
theorem splitOperands_inverts_join (front : List Char) (hfront : '(' ∉ front) :
    (∀ (texts : List (List Char)) (rest : List Char), (∀ text ∈ texts, IsOperandText text) →
      texts ≠ [[]] →
        splitOperands? (behindOpening
          (front ++ '(' :: ([',', ' '].intercalate texts ++ ')' :: rest))) = some (texts, rest)) ∧
    ∀ body : List Char,
      let line := front ++ '(' :: body
      (splitOperands? (behindOpening line) = none ↔ ¬ ClosesOpening body) ∧
      ∀ opening, readOpening? (Text.wordList front) = some opening → ¬ ClosesOpening body →
        Site.parse (String.ofList line) = .error (.error (siteSyntaxError
          (Text.quote (String.ofList line)) "unbalanced parentheses or quotes")) := by
  refine ⟨fun texts rest htexts hsingle => ?_, fun body => ⟨?_, fun opening hopening hopen => ?_⟩⟩
  · have htrim : texts.map Text.trimList = texts := by
      rw [List.map_congr_left fun text htext => (htexts text htext).trimList_eq, List.map_id']
    rw [behindOpening_append hfront,
      splitOperands?_intercalate fun text htext => (htexts text htext).closed, htrim,
      if_neg hsingle]
  · rw [behindOpening_append hfront, splitOperands?_eq_none_iff]
  · exact parse_of_splitOperands?_eq_none hfront hopening
      ((splitOperands?_eq_none_iff body).mpr hopen)

/-- A constant with a comma, a doubled quote and a parenthesis in it stands between a DECIMAL and an
empty text. In the second line the parenthesis that should end the list is quoted. -/
theorem splitOperands_inverts_join_quoted :
    splitOperands? (behindOpening "call f(DECIMAL(5,2), 'a,'')'::CHAR(4), ) expr".toList) =
        some (["DECIMAL(5,2)".toList, "'a,'')'::CHAR(4)".toList, []], " expr".toList) ∧
      ¬ ClosesOpening "'a)".toList ∧
      Site.parse (String.ofList ("call f".toList ++ '(' :: "'a)".toList)) =
        .error (.error (siteSyntaxError
          (Text.quote (String.ofList ("call f".toList ++ '(' :: "'a)".toList)))
          "unbalanced parentheses or quotes")) := by
  have hfront : '(' ∉ "call f".toList := by decide
  obtain ⟨hjoin, hends⟩ := splitOperands_inverts_join "call f".toList hfront
  have hopen : ¬ ClosesOpening "'a)".toList := (hends "'a)".toList).1.mp (by decide)
  have htexts : ∀ text ∈ ["DECIMAL(5,2)".toList, "'a,'')'::CHAR(4)".toList, []],
      IsOperandText text := by
    decide +kernel
  have hopening : readOpening? (Text.wordList "call f".toList) = some (.call "f") := rfl
  exact ⟨hjoin _ " expr".toList htexts (by decide), hopen, (hends "'a)".toList).2 _ hopening hopen⟩

end Site

end SqlTyping
