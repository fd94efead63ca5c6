import SqlTyping.Setting
import SqlTyping.Unification

/-!
# The settings of an engine

The four settings that every engine has, and the rules that their current values stand for.
-/

namespace SqlTyping.Engine

/-- The key of the largest precision of a unified DECIMAL. -/
def maxPrecisionKey : String := "sql.types.max_decimal_precision"

/-- The key of the overflow policy. -/
def overflowPolicyKey : String := "sql.types.decimal_overflow_policy"

/-- The key of the largest number of overloads. -/
def maxCandidatesKey : String := "sql.routines.max_candidates"

/-- The key of the number of statements compiled at once. -/
def parallelismKey : String := "sql.compile.parallelism"

/-- The settings of an engine. -/
def registry : Registry where
  settings :=
    [{ key := maxPrecisionKey
       description := "the largest precision of a DECIMAL produced by unification"
       kind := .integer 31 (.range 1 31) },
     { key := overflowPolicyKey
       description :=
        "what to do when a DECIMAL union exceeds sql.types.max_decimal_precision: " ++
          "defer clamps the precision and checks values at run time, " ++
          "reject fails the statement"
       kind := .enumeration 0 [(0, "defer"), (1, "reject")] },
     { key := maxCandidatesKey
       description := "the maximum number of overloads a routine call is resolved against"
       kind := .integer 255 (.range 1 255) },
     { key := parallelismKey
       description := "maximum number of statements compiled concurrently by a batch"
       kind := .integer 4 (.range 1 256) }]

/-- The values that an engine starts with. -/
def defaults : Values :=
  registry.defaults

/-- The rules of unification under the current values. -/
def unionRules (values : Values) : UnionRules where
  maxPrecision := values.get maxPrecisionKey
  policy := if values.get overflowPolicyKey = 1 then .reject else .defer

/-- The largest number of overloads a call is resolved against. -/
def maxCandidates (values : Values) : Int :=
  values.get maxCandidatesKey

end SqlTyping.Engine
