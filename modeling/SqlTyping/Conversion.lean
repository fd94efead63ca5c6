import SqlTyping.Family

/-!
# Implicit conversion

Which families have a common family, and how far a value travels to reach it. Within the exact
numbers, the character strings and the bit strings the higher rank absorbs the lower one; any other
mixture of numbers meets in DOUBLE; CHAR and VARCHAR meet a datetime family in that family, but
only by reading each string when it is evaluated. BLOB meets nothing but itself.
-/

namespace SqlTyping

/-- The common family of two families. -/
structure Meeting where
  family : Family
  /-- Whether strings have to be read as datetime values when they are evaluated. -/
  deferred : Bool
  deriving DecidableEq

namespace Family

/-- Of two families the one of higher rank. -/
def higher (a b : Family) : Family :=
  if a.rank < b.rank then b else a

/-- Whether strings of family `a` can be read as values of the datetime family `b`. -/
def readsAs (a b : Family) : Bool :=
  (a = .char || a = .varchar) && b.isDatetime

/-- Whether two families are in one chain, in which the higher rank absorbs the lower one. -/
def sameChain (a b : Family) : Bool :=
  a.group = b.group &&
    match a.group with
    | .exactNumeric | .character => true
    | .binary => a ≠ .blob && b ≠ .blob
    | .boolean | .approximateNumeric | .datetime => false

/-- The common family of two families, if there is one. -/
def meet? (a b : Family) : Option Meeting :=
  if a = b then some ⟨a, false⟩
  else if sameChain a b then some ⟨higher a b, false⟩
  else if a.isNumeric && b.isNumeric then some ⟨.double, false⟩
  else if a.readsAs b then some ⟨b, true⟩
  else if b.readsAs a then some ⟨a, true⟩
  else none

/-- Whether a value of family `a` converts to family `b` without being read from a string. -/
def widens (a b : Family) : Bool :=
  meet? a b = some ⟨b, false⟩

/-- The place of a family on the scale by which conversions are measured. The numeric families
share one scale, from SMALLINT to DOUBLE. -/
def precedence (f : Family) : Nat :=
  if f.group = .approximateNumeric then decimal.rank + 1 + f.rank else f.rank

/-- How many steps a value of family `a` travels to reach family `b`, if it can. -/
def distance? (a b : Family) : Option Nat :=
  if a.widens b then some (b.precedence - a.precedence) else none

end Family

/-- The common family as it is listed: its name, with an asterisk if strings have to be read. -/
def Meeting.render (m : Meeting) : String :=
  if m.deferred then m.family.name ++ "*" else m.family.name

/-- An entry of the listing of common families. -/
def renderMeeting (m : Option Meeting) : String :=
  (m.map Meeting.render).getD "-"

namespace FamilyNumber

/-- `Family.meet?` for family numbers; a number without a family meets nothing. -/
def meet? (a b : FamilyNumber) : Option Meeting := do
  Family.meet? (← a.family?) (← b.family?)

/-- `Family.widens` for family numbers. -/
def widens (a b : FamilyNumber) : Bool :=
  ((do return Family.widens (← a.family?) (← b.family?)) : Option Bool).getD false

/-- `Family.distance?` for family numbers. -/
def distance? (a b : FamilyNumber) : Option Nat := do
  Family.distance? (← a.family?) (← b.family?)

end FamilyNumber

end SqlTyping
