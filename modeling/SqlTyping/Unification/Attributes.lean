import SqlTyping.SqlType

/-!
# Attributes of a common type

The precision and scale, or the length, of the type that two types unify into once their common
family is known. Attributes are 32-bit numbers, and the arithmetic on them wraps around.
-/

namespace SqlTyping

/-- The 32-bit number that is congruent to `n`. -/
def wrap32 (n : Int) : Int :=
  (n + 0x80000000) % 0x100000000 - 0x80000000

/-- The attributes of the union of two DECIMAL types. -/
structure DecimalUnion where
  precision : Int
  scale : Int
  /-- Whether the precision was reduced to the maximum, so that integer digits were lost. -/
  clamped : Bool
  deriving DecidableEq

/-- The union of DECIMAL(p1,s1) and DECIMAL(p2,s2): enough integer digits for either one and the
larger scale, within the given maximum. -/
def decimalUnion (maximum p1 s1 p2 s2 : Int) : DecimalUnion :=
  let scale := max s1 s2
  let precision := wrap32 (max (wrap32 (p1 - s1)) (wrap32 (p2 - s2)) + scale)
  if precision > maximum then ⟨maximum, min scale maximum, true⟩ else ⟨precision, scale, false⟩

/-- The family and length of a type of family `f` that needs the given length. A length above the
ceiling moves the type up the chain of families, at most `steps` times; at the top of the chain the
length is cut. -/
def promote : Nat → Family → Int → Family × Int
  | 0, f, length => (f, min length f.maxLength)
  | steps + 1, f, length =>
    if length ≤ f.maxLength then (f, length)
    else match f.next? with
      | none => (f, f.maxLength)
      | some g => promote steps g length

/-- The family and length of the union of two types with lengths whose families meet in `f`. No
chain of families has more than three steps. -/
def lengthUnion (f : Family) (l1 l2 : Int) : Family × Int :=
  promote 3 f (max l1 l2)

/-- `lengthUnion` for a family given by its number; a number without a family has no lengths. -/
def lengthUnionNumbered (n : FamilyNumber) (l1 l2 : Int) : FamilyNumber × Int :=
  match n.family? with
  | some f => (lengthUnion f l1 l2).map FamilyNumber.ofFamily id
  | none => (n, min (max l1 l2) 0)

/-- The type that `a` and `b` unify into, given their common family, and whether its precision was
clamped. It is nullable if either one is. -/
def unionType (maximum : Int) (f : Family) (a b : SqlType) :
    Except AttributeError (SqlType × Bool) := do
  let nullable := a.nullable || b.nullable
  if f = .decimal then
    let u := decimalUnion maximum a.precision a.scale b.precision b.scale
    let t ← SqlType.make f u.precision u.scale 0
    return (t.withNullable nullable, u.clamped)
  else if f.hasLength then
    let (g, length) := lengthUnion f a.length b.length
    let t ← SqlType.make g 0 0 length
    return (t.withNullable nullable, false)
  else
    let t ← SqlType.make f 0 0 0
    return (t.withNullable nullable, false)

/-- The diagnostic for a union whose attributes are out of range. -/
def unionFailure (a b : SqlType) (cause : AttributeError) : Diagnostic :=
  .unexpected ("computing the union of " ++ a.render ++ " and " ++ b.render) cause.diagnostic

/-- `unionType` for a common family given by its number. -/
def unionTypeNumbered (maximum : Int) (n : FamilyNumber) (a b : SqlType) :
    Except Diagnostic (SqlType × Bool) :=
  let result := match n.family? with
    | some f => unionType maximum f a b
    | none => .error (.noFamily n.value)
  result.mapError (unionFailure a b)

end SqlTyping
