/-!
# Double-Precision Magnitudes

The magnitudes of double precision are `mantissa · 2 ^ exponent` with a mantissa below
`2 ^ 53` and an exponent from `-1074` to `971`. All arithmetic is exact arithmetic on natural
numbers followed by one rounding to the nearest magnitude, ties going to an even mantissa.
-/

namespace ApiGloss

/-- A **double-precision magnitude** `mantissa · 2 ^ exponent`. -/
structure Binary where
  mantissa : Nat
  exponent : Int
  deriving DecidableEq, Repr, Inhabited

namespace Binary

/-- The least exponent. -/
def minExponent : Int := -1074

/-- The greatest exponent. -/
def maxExponent : Int := 971

/-- Zero. -/
def zero : Binary := ⟨0, minExponent⟩

/-- The quotient `num / (den · 2 ^ q)` as a fraction of natural numbers. -/
def scaled (num den : Nat) (q : Int) : Nat × Nat :=
  if 0 ≤ q then (num, den * Nat.pow 2 q.toNat) else (num * Nat.pow 2 (-q).toNat, den)

/-- The integer nearest to `num / den`, a tie going to the even one. -/
def roundEven (num den : Nat) : Nat :=
  let n := num / den
  let rest := num % den
  if 2 * rest < den then n
  else if den < 2 * rest then n + 1
  else if n % 2 = 0 then n else n + 1

/-- The least admissible exponent at which `num / den` has at most 53 binary digits. -/
def exponentFor (num den : Nat) : Int :=
  let low := max ((num.log2 : Int) - den.log2 - 53) minExponent
  let (a, b) := scaled num den low
  if a / b < Nat.pow 2 53 then low else low + 1

/-- The magnitude **nearest** to `num / den`, for `0 < den`; none when it is too large. -/
def nearest? (num den : Nat) : Option Binary :=
  if num = 0 then some zero
  else
    let q := exponentFor num den
    let (a, b) := scaled num den q
    let m := roundEven a b
    let (m, q) := if m = Nat.pow 2 53 then (Nat.pow 2 52, q + 1) else (m, q)
    if maxExponent < q then none else some ⟨m, q⟩

/-- A magnitude as a fraction of natural numbers. -/
def fraction (x : Binary) : Nat × Nat :=
  if 0 ≤ x.exponent then (x.mantissa * Nat.pow 2 x.exponent.toNat, 1)
  else (x.mantissa, Nat.pow 2 (-x.exponent).toNat)

/-- The rounded product of two magnitudes. -/
def mul? (x y : Binary) : Option Binary :=
  let (a, b) := x.fraction
  let (c, d) := y.fraction
  nearest? (a * c) (b * d)

/-- The rounded quotient of two magnitudes, for a divisor other than zero. -/
def div? (x y : Binary) : Option Binary :=
  let (a, b) := x.fraction
  let (c, d) := y.fraction
  nearest? (a * d) (b * c)

/-- The magnitude nearest to a power of ten that has one. -/
def powerOfTen (k : Nat) : Binary :=
  (nearest? (Nat.pow 10 k) 1).getD zero

/-- Applies a power of ten to a magnitude, the negative powers beyond the 308th in `steps`
divisions by the 308th. None when the result is too large. -/
def timesPower? : Nat → Binary → Int → Option Binary
  | 0, x, e =>
    if 0 ≤ e then mul? x (powerOfTen e.natAbs) else div? x (powerOfTen e.natAbs)
  | steps + 1, x, e =>
    if x.mantissa = 0 then some x
    else if 0 ≤ e then none
    else (div? x (powerOfTen 308)).bind fun y => timesPower? steps y (e + 308)

/-- The **magnitude of a scaled integer** `significand · 10 ^ exponent`: the integer and the
power of ten are rounded first, and their product or quotient once more. None when the
result is too large. -/
def ofScaled? (significand : Nat) (exponent : Int) : Option Binary :=
  (nearest? significand 1).bind fun x => timesPower? ((exponent.natAbs - 1) / 308) x exponent

end Binary

end ApiGloss
