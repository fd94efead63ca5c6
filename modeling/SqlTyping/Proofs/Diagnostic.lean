import SqlTyping.Diagnostic
import SqlTyping.Proofs.Text.Reading

/-!
# What a report shows of a diagnostic

The code of a diagnostic is the one that it was given, but for failed assertions
(`state_of_ownState?`). Context goes in front of the message and changes nothing else of the report
(`report_inContext`). It is masked, which numbers and texts without redaction marks do not notice.
-/

namespace SqlTyping

namespace Text

lemma mask_append (s t : String) : mask (s ++ t) = mask s ++ mask t := by
  simp [mask]

lemma mask_eq_self {s : String} (h : ∀ c ∈ s.toList, isMark c = false) : mask s = s := by
  have hmap : s.toList.map (fun c => if isMark c then '?' else c) = s.toList := by
    conv_rhs => rw [← List.map_id s.toList]
    refine List.map_congr_left fun c hc => ?_
    rw [h c hc]
    rfl
  rw [mask, hmap, String.ofList_toList]

lemma mask_toString (n : Nat) : mask (toString n) = toString n := by
  refine mask_eq_self fun c hc => ?_
  rw [Nat.toString_eq_repr, Nat.toList_repr] at hc
  have hdigit := isDigit_of_mem_toDigits hc
  rw [isMark, Bool.or_eq_false_iff, beq_eq_false_iff_ne, beq_eq_false_iff_ne]
  constructor
  · rintro rfl
    exact absurd hdigit (by decide)
  · rintro rfl
    exact absurd hdigit (by decide)

end Text

namespace Diagnostic

variable {d : Diagnostic} {s : SqlState}

lemma state_of_ownState? (h : d.ownState? = some s) (hexternal : d.isInternal = false) :
    d.state = s := by
  simp [state, h, hexternal]

/-- A code that someone gave counts also for a failed assertion. -/
lemma state_of_ne_uncategorized (h : d.ownState? = some s) (hs : s ≠ .uncategorized) :
    d.state = s := by
  simp [state, h, hs]

lemma report_inContext (context : String) (d : Diagnostic) :
    (inContext context d).report =
      { d.report with message := (inContext context d).report.message } := rfl

end Diagnostic

end SqlTyping
