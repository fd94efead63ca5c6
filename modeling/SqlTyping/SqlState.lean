import SqlTyping.Text.Utf8

/-!
# SQLSTATE codes

The five-character codes by which a client tells errors apart, whatever their wording.
-/

namespace SqlTyping

/-- An SQLSTATE code. Any text can serve as one; the codes that the library itself assigns are
below. -/
structure SqlState where
  text : String
  deriving DecidableEq

namespace SqlState

/-- The class of a code: its first two bytes, or the whole code if it is shorter. -/
def category (s : SqlState) : String :=
  Text.readable ((Text.bytesOf s.text.toList).take 2)

/-- An error to which nobody has given a code. -/
def uncategorized : SqlState := ⟨"XXUUU"⟩

/-- A failed assertion. -/
def internal : SqlState := ⟨"XX000"⟩

/-- A number does not fit the type it is assigned to. -/
def numericValueOutOfRange : SqlState := ⟨"22003"⟩

/-- A string has none of the forms of a datetime value. -/
def invalidDatetimeFormat : SqlState := ⟨"22007"⟩

/-- A datetime value has a field out of range. -/
def datetimeFieldOverflow : SqlState := ⟨"22008"⟩

/-- A string is not a number. -/
def invalidCharacterValue : SqlState := ⟨"22018"⟩

/-- NULL is passed to a parameter that cannot hold it. -/
def nullIntoNatural : SqlState := ⟨"39004"⟩

/-- A text does not follow its grammar. -/
def syntaxError : SqlState := ⟨"42X01"⟩

/-- A construct has too few operands. -/
def wrongArgumentCount : SqlState := ⟨"42605"⟩

/-- No operand of a construct has a type. -/
def untypedParameters : SqlState := ⟨"42610"⟩

/-- A length or a precision is not possible. -/
def invalidLength : SqlState := ⟨"42611"⟩

/-- Operand types have no common type. -/
def datatypeMismatch : SqlState := ⟨"42815"⟩

/-- A declared precision or scale is out of range. -/
def invalidPrecision : SqlState := ⟨"42X48"⟩

/-- No overload applies to a call. -/
def undefinedRoutine : SqlState := ⟨"42X50"⟩

/-- A type name is unknown. -/
def undefinedType : SqlState := ⟨"42X51"⟩

/-- Several overloads apply equally well to a call. -/
def ambiguousRoutine : SqlState := ⟨"42X73"⟩

/-- Overloads apply, but none returns what the context needs. -/
def ineligibleRoutine : SqlState := ⟨"42Y03"⟩

/-- A routine is declared twice. -/
def duplicateObject : SqlState := ⟨"X0Y68"⟩

end SqlState

end SqlTyping
