import Mathlib.Data.List.Induction
import SqlTyping.Diagnostic.Handling
import SqlTyping.Proofs.Diagnostic

/-!
# What an error remembers of its handling

Codes and positions are found again in a report, whatever else was done to the error. Of the codes
that it was given the first one counts, and of the positions the last one, but only those since it
was raised or last declared unexpected: both start anew. Where nobody gave a code, a failed
assertion anywhere since the error was raised makes it an internal error.

This is shown for a single handling (`exists_apply_of_isOrigin`, `exists_apply_of_isBarrier`,
`Remembers.exists_apply_of_decoration`) and, by induction on the handlings, for all of them
(`exists_remembers`). The rest follows: a code that was given is never replaced, and a position only
by a later one (`handlings_keep_code_and_position`).
-/

namespace SqlTyping

namespace Handling

/-! ## What a handling adds -/

/-- Whether the handling raises a new error. -/
def isOrigin : Handling → Bool
  | raise .. | fail _ | assertion _ => true
  | _ => false

/-- Whether the handling hides everything but the message of the error. -/
def isBarrier : Handling → Bool
  | unexpected _ => true
  | _ => false

/-- Whether nothing that was added before counts any more. -/
def startsAnew (h : Handling) : Bool :=
  h.isOrigin || h.isBarrier

/-- Whether the handling is a failed assertion. -/
def isAssertion : Handling → Bool
  | assertion _ | unexpected _ => true
  | _ => false

/-- The code that the handling adds. -/
def code? : Handling → Option SqlState
  | raise state _ | wrap state _ | code state => some state
  | _ => none

/-- The position that the handling adds. -/
def position? : Handling → Option Nat
  | place position => if position < 0 then none else some position.toNat
  | _ => none

/-- The handlings from the last one on that satisfies a condition. -/
def sinceLast (p : Handling → Bool) : List Handling → List Handling
  | [] => []
  | h :: rest =>
    if rest.any p then sinceLast p rest else if p h then h :: rest else []

section

variable {p : Handling → Bool} {hs later : List Handling} {h : Handling}

lemma sinceLast_append_of_any (hany : hs.any p = true) (hlater : later.any p = false) :
    sinceLast p (hs ++ later) = sinceLast p hs ++ later := by
  induction hs with
  | nil => cases hany
  | cons h rest ih =>
    rw [List.cons_append, sinceLast, sinceLast, List.any_append, hlater, Bool.or_false]
    split
    · next hrest => exact ih hrest
    · next hrest =>
      have hp : p h = true := by simpa [hrest] using hany
      rw [if_pos hp, if_pos hp, List.cons_append]

lemma sinceLast_append_singleton (hp : p h = true) : sinceLast p (hs ++ [h]) = [h] := by
  induction hs with
  | nil => simp [sinceLast, hp]
  | cons g rest ih => simpa [sinceLast, hp] using ih

end

/-! ## One handling -/

/-- What an error tells of its handling: the first of the recent codes, the last of the recent
positions, and whether an assertion failed since it was raised. -/
structure Remembers (d : Diagnostic) (recent chain : List Handling) : Prop where
  code : d.ownState? = (recent.filterMap code?).head?
  internal : d.isInternal = chain.any isAssertion
  position : d.position? = (recent.filterMap position?).getLast?

section

variable {d : Diagnostic} {h : Handling} {recent chain : List Handling}

/-- An error that is raised has the code it is raised with. -/
lemma exists_apply_of_isOrigin (hh : h.isOrigin = true) (d? : Option Diagnostic) :
    ∃ d, h.apply d? = some d ∧ Remembers d [h] [h] := by
  cases h with
  | raise | fail | assertion => exact ⟨_, rfl, rfl, rfl, rfl⟩
  | wrap | inContext | code | place | detail | hint | unexpected => cases hh

/-- An unexpected error is a failed assertion, and nothing else of it is left to see. -/
lemma exists_apply_of_isBarrier (hh : h.isBarrier = true) (d : Diagnostic)
    (chain : List Handling) :
    ∃ d', h.apply (some d) = some d' ∧ Remembers d' [h] (chain ++ [h]) := by
  cases h with
  | unexpected context =>
    refine ⟨_, rfl, rfl, ?_, rfl⟩
    rw [List.any_append]
    exact (Bool.or_true _).symm
  | raise | fail | assertion | wrap | inContext | code | place | detail | hint => cases hh

/-- A decoration adds its code behind all others, and its position in front of them. -/
lemma exists_apply_of_decoration (hh : h.startsAnew = false) (d : Diagnostic) :
    ∃ d', h.apply (some d) = some d' ∧ d'.ownState? = d.ownState?.or h.code? ∧
      d'.isInternal = d.isInternal ∧ d'.position? = h.position?.or d.position? := by
  cases h with
  | raise | fail | assertion | unexpected => cases hh
  | wrap state context =>
    refine ⟨_, rfl, ?_⟩
    unfold Diagnostic.wrap
    split <;> exact ⟨rfl, rfl, rfl⟩
  | place position =>
    refine ⟨_, rfl, ?_⟩
    by_cases hneg : position < 0
    · have hadded : (place position).position? = none := if_pos hneg
      rw [hadded, Diagnostic.atPosition, if_pos hneg]
      exact ⟨(Option.or_none).symm, rfl, rfl⟩
    · have hadded : (place position).position? = some position.toNat := if_neg hneg
      rw [hadded, Diagnostic.atPosition, if_neg hneg]
      exact ⟨(Option.or_none).symm, rfl, rfl⟩
  | code state => exact ⟨_, rfl, rfl, rfl, rfl⟩
  | inContext | detail | hint => exact ⟨_, rfl, (Option.or_none).symm, rfl, rfl⟩

lemma isAssertion_of_startsAnew (hh : h.startsAnew = false) : h.isAssertion = false := by
  cases h with
  | raise | fail | assertion | unexpected => cases hh
  | wrap | inContext | code | place | detail | hint => rfl

lemma Remembers.exists_apply_of_decoration (hd : Remembers d recent chain)
    (hh : h.startsAnew = false) :
    ∃ d', h.apply (some d) = some d' ∧ Remembers d' (recent ++ [h]) (chain ++ [h]) := by
  obtain ⟨d', hd', hcode, hinternal, hposition⟩ := Handling.exists_apply_of_decoration hh d
  refine ⟨d', hd', ?_, ?_, ?_⟩
  · rw [hcode, hd.code, List.filterMap_append, List.head?_append]
    cases hadded : h.code? <;> simp [hadded]
  · rw [hinternal, hd.internal, List.any_append]
    simp [isAssertion_of_startsAnew hh]
  · rw [hposition, hd.position, List.filterMap_append, List.getLast?_append]
    cases hadded : h.position? <;> simp [hadded]

end

/-! ## All handlings -/

/-- There is nothing to decorate without an error. -/
lemma apply_none {h : Handling} (hh : h.isOrigin = false) : h.apply none = none := by
  cases h with
  | raise | fail | assertion => cases hh
  | wrap | inContext | code | place | detail | hint | unexpected => rfl

lemma applyAll_none {hs : List Handling} (hh : hs.any isOrigin = false) :
    applyAll none hs = none := by
  induction hs with
  | nil => rfl
  | cons h hs ih =>
    rw [List.any_cons, Bool.or_eq_false_iff] at hh
    rw [applyAll, List.foldl_cons, apply_none hh.1]
    exact ih hh.2

lemma applyAll_append (d? : Option Diagnostic) (hs later : List Handling) :
    applyAll d? (hs ++ later) = applyAll (applyAll d? hs) later :=
  List.foldl_append

lemma any_startsAnew {hs : List Handling} (h : hs.any isOrigin = true) :
    hs.any startsAnew = true := by
  rw [List.any_eq_true] at h ⊢
  obtain ⟨g, hg, hraised⟩ := h
  exact ⟨g, hg, by simp [startsAnew, hraised]⟩

/-- Once an error was raised, it tells what was done to it since. -/
lemma exists_remembers {hs : List Handling} (horigin : hs.any isOrigin = true) :
    ∃ d, applyAll none hs = some d ∧
      Remembers d (sinceLast startsAnew hs) (sinceLast isOrigin hs) := by
  induction hs using List.reverseRecOn with
  | nil => cases horigin
  | append_singleton hs h ih =>
    have hlast : applyAll none (hs ++ [h]) = h.apply (applyAll none hs) :=
      applyAll_append none hs [h]
    rw [hlast]
    by_cases hh : h.isOrigin = true
    · have hanew : h.startsAnew = true := by simp [startsAnew, hh]
      rw [sinceLast_append_singleton hh, sinceLast_append_singleton hanew]
      exact exists_apply_of_isOrigin hh _
    · have hbefore : hs.any isOrigin = true := by simpa [hh] using horigin
      have hlater : [h].any isOrigin = false := by simpa using hh
      obtain ⟨d, hd, hremembers⟩ := ih hbefore
      rw [hd, sinceLast_append_of_any hbefore hlater]
      by_cases hanew : h.startsAnew = true
      · rw [sinceLast_append_singleton hanew]
        exact exists_apply_of_isBarrier (by simpa [startsAnew, hh] using hanew) d _
      · rw [Bool.not_eq_true] at hanew
        rw [sinceLast_append_of_any (any_startsAnew hbefore) (by simpa using hanew)]
        exact hremembers.exists_apply_of_decoration hanew

lemma any_isOrigin {hs : List Handling} {d : Diagnostic} (hd : applyAll none hs = some d) :
    hs.any isOrigin = true := by
  by_contra hnone
  rw [applyAll_none (Bool.not_eq_true _ ▸ hnone)] at hd
  cases hd

lemma remembers {hs : List Handling} {d : Diagnostic} (hd : applyAll none hs = some d) :
    Remembers d (sinceLast startsAnew hs) (sinceLast isOrigin hs) := by
  obtain ⟨d', hd', h⟩ := exists_remembers (any_isOrigin hd)
  rw [hd] at hd'
  cases hd'
  exact h

/-- Handlings that do not start anew go on with what the error remembers. -/
lemma exists_remembers_append {hs later : List Handling} {d : Diagnostic}
    (hd : applyAll none hs = some d) (hlater : later.any startsAnew = false) :
    ∃ d', applyAll (some d) later = some d' ∧
      Remembers d' (sinceLast startsAnew hs ++ later) (sinceLast isOrigin hs ++ later) := by
  have horigin := any_isOrigin hd
  have hnot : later.any isOrigin = false := by
    by_contra hany
    rw [any_startsAnew (Bool.not_eq_false _ ▸ hany)] at hlater
    cases hlater
  have hboth : (hs ++ later).any isOrigin = true := by rw [List.any_append, horigin, Bool.true_or]
  have h := exists_remembers hboth
  rwa [applyAll_append, hd, sinceLast_append_of_any horigin hnot,
    sinceLast_append_of_any (any_startsAnew horigin) hlater] at h

section

variable {d d' : Diagnostic} {recent chain later : List Handling}

/-- Without a code that says more, the assertions decide. -/
lemma Remembers.state_of_uncategorized (hd : Remembers d recent chain)
    (hcode : (recent.filterMap code?).head? = none ∨
      (recent.filterMap code?).head? = some .uncategorized) :
    d.state = if chain.any isAssertion then .internal else .uncategorized := by
  have hown : d.ownState?.getD .uncategorized = .uncategorized := by
    rcases hcode with hcode | hcode <;> rw [hd.code, hcode] <;> rfl
  simp [Diagnostic.state, hown, hd.internal]

/-- Later decorations leave the code alone if there is one. -/
lemma Remembers.state_append (hd : Remembers d recent chain)
    (hd' : Remembers d' (recent ++ later) (chain ++ later))
    (hlater : later.any startsAnew = false) (hcode : recent.filterMap code? ≠ []) :
    d'.state = d.state := by
  have hown : d'.ownState? = d.ownState? := by
    obtain ⟨s, codes, hcodes⟩ := List.exists_cons_of_ne_nil hcode
    rw [hd'.code, hd.code, List.filterMap_append, hcodes]
    rfl
  have hinternal : d'.isInternal = d.isInternal := by
    have hnone : later.any isAssertion = false := by
      rw [List.any_eq_false] at hlater ⊢
      intro h hh
      simp [isAssertion_of_startsAnew (Bool.eq_false_iff.mpr (hlater h hh))]
    rw [hd'.internal, hd.internal, List.any_append, hnone, Bool.or_false]
  rw [Diagnostic.state, Diagnostic.state, hown, hinternal]

/-- Later decorations replace the position only by another one. -/
lemma Remembers.position_append (hd : Remembers d recent chain)
    (hd' : Remembers d' (recent ++ later) (chain ++ later)) {p : Nat}
    (hp : d.position? = some p) :
    d'.position? = some ((later.filterMap Handling.position?).getLast?.getD p) := by
  rw [hd.position] at hp
  rw [hd'.position, List.filterMap_append, List.getLast?_append, hp]
  cases (later.filterMap Handling.position?).getLast? <;> rfl

end

/-- There is an error once one was raised. Its code is the first one that it was given since it was
raised or last declared unexpected; where there is none, or only the one for errors without a code,
it is that of internal errors if an assertion has failed since it was raised. Its position is the
last one that it was given in that time.

Hence later decorations do not change the code of an error that was given one, and replace its
position only by another one. An error that was not given a code, be it a failed assertion, takes
the next one. -/
theorem handlings_keep_code_and_position (hs : List Handling) :
    (applyAll none hs = none ↔ ∀ h ∈ hs, h.isOrigin = false) ∧
    ∀ d, applyAll none hs = some d →
      let codes := (sinceLast startsAnew hs).filterMap code?
      let positions := (sinceLast startsAnew hs).filterMap position?
      (∀ s, codes.head? = some s → s ≠ .uncategorized → d.report.state = s) ∧
      (codes.head? = none ∨ codes.head? = some .uncategorized → d.report.state =
        if (sinceLast isOrigin hs).any isAssertion then .internal else .uncategorized) ∧
      d.report.position = positions.getLast? ∧
      (∀ later, later.any startsAnew = false → ∃ d', applyAll (some d) later = some d' ∧
        (codes ≠ [] → d'.report.state = d.report.state) ∧
        ∀ p, d.report.position = some p →
          d'.report.position = some ((later.filterMap position?).getLast?.getD p)) ∧
      (codes = [] → ∀ s, s ≠ .uncategorized →
        ∃ d', (code s).apply (some d) = some d' ∧ d'.report.state = s) := by
  constructor
  · constructor
    · intro hnone h hh
      by_contra horigin
      have hany : hs.any isOrigin = true :=
        List.any_eq_true.mpr ⟨h, hh, Bool.not_eq_false _ ▸ horigin⟩
      obtain ⟨d, hd, -⟩ := exists_remembers hany
      rw [hd] at hnone
      cases hnone
    · intro h
      exact applyAll_none (List.any_eq_false.mpr fun g hg => by simp [h g hg])
  · intro d hd codes positions
    have hremembers := remembers hd
    refine ⟨fun s hs hne => Diagnostic.state_of_ne_uncategorized (hremembers.code.trans hs) hne,
      hremembers.state_of_uncategorized, hremembers.position, ?_, ?_⟩
    · intro later hlater
      obtain ⟨d', hd', hlate⟩ := exists_remembers_append hd hlater
      exact ⟨d', hd', hremembers.state_append hlate hlater,
        fun p hp => hremembers.position_append hlate hp⟩
    · intro hnone s hs
      have hcode : [code s].any startsAnew = false := rfl
      obtain ⟨d', hd', hlate⟩ := exists_remembers_append hd hcode
      refine ⟨d', hd', Diagnostic.state_of_ne_uncategorized (hlate.code.trans ?_) hs⟩
      rw [List.filterMap_append]
      change (codes ++ [s]).head? = some s
      rw [hnone]
      rfl

/-- A call that is refused as ambiguous turns out to be unexpected, and is given codes and positions
after that. -/
theorem handlings_keep_code_and_position_unexpected :
    let hs : List Handling := [.raise .ambiguousRoutine "routine f is ambiguous", .place 2,
      .unexpected "resolving f", .code .uncategorized, .wrap .undefinedRoutine "f()", .place 4,
      .place (-1), .inContext "expression 1"]
    ∃ d d', applyAll none hs = some d ∧ d.report.state = .internal ∧
      d.report.position = some 4 ∧
      applyAll (some d) [.code .syntaxError, .place 0, .hint "use a cast"] = some d' ∧
      d'.report.state = .internal ∧ d'.report.position = some 0 := by
  intro hs
  obtain ⟨-, hstate, hposition, hlater, -⟩ := (handlings_keep_code_and_position hs).2 _ rfl
  have hinternal := hstate (.inr rfl)
  obtain ⟨d', hd', hkept, hplaced⟩ :=
    hlater [.code .syntaxError, .place 0, .hint "use a cast"] rfl
  exact ⟨_, d', rfl, hinternal, hposition, hd',
    (hkept (List.cons_ne_nil _ _)).trans hinternal, hplaced 4 hposition⟩

end Handling

end SqlTyping
