/-!
# Double-precision numbers

Floating-point numbers with 53 binary digits, as exact values `m · 2^e`. A decimal is rounded to
the nearest such number, and a number is written with the fewest decimal digits that are rounded
back to it. Both directions compute with whole numbers only.
-/

namespace SqlTyping

/-- A double-precision number. -/
inductive Binary64 where
  | nan
  | infinity (negative : Bool)
  /-- The number `mantissa · 2^exponent`, or its opposite. -/
  | finite (negative : Bool) (mantissa : Nat) (exponent : Int)
  deriving DecidableEq

namespace Binary64

/-- The exponent of the smallest positive number. -/
def leastExponent : Int := -1074

/-- The largest exponent of a mantissa of 53 digits. -/
def greatestExponent : Int := 971

/-- Numerator and denominator of `n / d · b^(-e)`. -/
def scale (b n d : Nat) (e : Int) : Nat × Nat :=
  if e < 0 then (n * Nat.pow b (-e).toNat, d) else (n, d * Nat.pow b e.toNat)

/-- The nearest whole number to a quotient; a tie goes to the even one. -/
def roundQuotient (n d : Nat) : Nat :=
  let q := n / d
  let r := n % d
  if 2 * r > d ∨ (2 * r = d ∧ q % 2 = 1) then q + 1 else q

/-- The mantissa and the exponent of the number nearest to a positive quotient, if there is one. -/
def roundPositive (n d : Nat) : Option (Nat × Int) :=
  let guess : Int := (Nat.log2 n : Int) - Nat.log2 d - 53
  let (p, q) := scale 2 n d guess
  let e := max leastExponent (if p / q ≥ 0x20000000000000 then guess + 1 else guess)
  let (p, q) := scale 2 n d e
  let m := roundQuotient p q
  let (m, e) := if m ≥ 0x20000000000000 then (m / 2, e + 1) else (m, e)
  if e > greatestExponent then none else some (m, e)

/-- The number nearest to `digits · 10^exponent`, or to its opposite; `none` if there is none. The
magnitudes far outside the range are settled without computing the power. -/
def ofDecimal? (negative : Bool) (digits : Nat) (exponent : Int) : Option Binary64 :=
  let magnitude : Int := (toString digits).length + exponent
  if digits = 0 ∨ magnitude < -330 then some (finite negative 0 0)
  else if magnitude > 310 then none
  else
    let (n, d) := scale 10 digits 1 (-exponent)
    (roundPositive n d).map fun (m, e) => finite negative m e

/-! ### The shortest decimal -/

/-- The least `j` with `n · 10^(j + 1) ≥ d`, for a quotient below one. -/
def leadingZeros (n d : Nat) : Nat → Nat
  | 0 => 0
  | fuel + 1 => if n * 10 ≥ d then 0 else leadingZeros (n * 10) d fuel + 1

/-- The number of digits of a quotient in front of the decimal point. It is negative for as many
zeros behind the point. -/
def pointPosition (n d : Nat) : Int :=
  if n ≥ d then (toString (n / d)).length else -(leadingZeros n d 400 : Int)

/-- The numbers that are rounded to `m · 2^e`, in quarters of the last binary digit. -/
def roundingInterval (m : Nat) (e : Int) : Nat × Nat :=
  (if m = 0x10000000000000 ∧ e > leastExponent then 4 * m - 1 else 4 * m - 2, 4 * m + 2)

/-- Whether `c · 10^g` is rounded to `m · 2^e`. -/
def readsBack (m : Nat) (e : Int) (c : Nat) (g : Int) : Bool :=
  let (low, high) := roundingInterval m e
  let (cn, cd) := scale 10 c 1 (-g)
  let (ln, ld) := scale 2 low 1 (2 - e)
  let (hn, hd) := scale 2 high 1 (2 - e)
  if m % 2 = 0 then ln * cd ≤ cn * ld && cn * hd ≤ hn * cd
  else ln * cd < cn * ld && cn * hd < hn * cd

/-- The decimal with the fewest digits that is rounded to `m · 2^e`: its digits as a whole number
and its exponent. On the coarsest grid with such a decimal the one nearest to the value is taken. -/
def shortestFrom (m : Nat) (e : Int) (point : Int) (places : Nat) : Nat → Nat × Int
  | 0 => (0, 0)
  | fuel + 1 =>
    let g := point - places
    let (vn, vd) := scale 2 m 1 (-e)
    let (n, d) := scale 10 vn vd g
    let floor := n / d
    let below := readsBack m e floor g
    let above := readsBack m e (floor + 1) g
    let nearer := roundQuotient n d
    if below && above then (nearer, g)
    else if below then (floor, g)
    else if above then (floor + 1, g)
    else shortestFrom m e point (places + 1) fuel

/-- The decimal with the fewest digits that is rounded to a positive number. -/
def shortest (m : Nat) (e : Int) : Nat × Int :=
  let (n, d) := scale 2 m 1 (-e)
  shortestFrom m e (pointPosition n d) 1 17

/-! ### Text -/

/-- The digits of a decimal without trailing zeros, and the position of the decimal point. -/
def digitsAndPoint (digits : Nat) (exponent : Int) : List Char × Int :=
  let ds := (toString digits).toList
  ((ds.reverse.dropWhile (· = '0')).reverse, ds.length + exponent)

/-- An exponent with its sign and at least two digits. -/
def renderExponent (e : Int) : String :=
  let digits := toString e.natAbs
  (if e < 0 then "-" else "+") ++ (if digits.length < 2 then "0" else "") ++ digits

/-- A positive decimal. Exponents below `-4` or from `6` on are written out. -/
def renderPositive (digits : Nat) (exponent : Int) : String :=
  let (ds, point) := digitsAndPoint digits exponent
  let e := point - 1
  if e < -4 ∨ e ≥ 6 then
    String.ofList (ds.take 1) ++
      (if ds.length > 1 then "." ++ String.ofList (ds.drop 1) else "") ++ "e" ++ renderExponent e
  else if point ≤ 0 then
    "0." ++ String.ofList (List.replicate point.natAbs '0' ++ ds)
  else
    let whole := ds.take point.toNat
    let zeros := List.replicate (point.toNat - whole.length) '0'
    let rest := ds.drop point.toNat
    String.ofList (whole ++ zeros) ++
      (if rest.isEmpty then "" else "." ++ String.ofList rest)

/-- The text of a number. -/
def render : Binary64 → String
  | nan => "NaN"
  | infinity negative => if negative then "-Inf" else "+Inf"
  | finite negative m e =>
    (if negative then "-" else "") ++
      (if m = 0 then "0" else let (digits, exponent) := shortest m e
        renderPositive digits exponent)

/-! ### Order -/

/-- Equality of numbers: the two zeros are equal, and what is no number equals nothing. -/
def same : Binary64 → Binary64 → Bool
  | infinity a, infinity b => a = b
  | finite s m e, finite t n f => (m = 0 && n = 0) || (s = t && m = n && e = f)
  | _, _ => false

/-- The order of numbers, in which the value that is no number comes first. -/
def before : Binary64 → Binary64 → Bool
  | nan, nan => false
  | nan, _ => true
  | _, nan => false
  | infinity a, infinity b => a && !b
  | infinity a, finite .. => a
  | finite .., infinity b => !b
  | finite s m e, finite t n f =>
    let low := min e f
    let x : Int := m * Nat.pow 2 (e - low).toNat
    let y : Int := n * Nat.pow 2 (f - low).toNat
    (if s then -x else x) < (if t then -y else y)

end Binary64

end SqlTyping
