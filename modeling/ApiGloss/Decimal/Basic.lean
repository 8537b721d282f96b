/-!
# Decimal Numbers

A decimal number with a sign, an integer of significant digits and a power of ten, and its
written form. Small and medium exponents are written positionally, always with a decimal
point; the others with one digit before the point and an exponent.
-/

namespace ApiGloss

/-- A **decimal number** `± digits · 10 ^ exponent`. The digits do not end in a zero unless
the number is zero. -/
structure Decimal where
  negative : Bool
  digits : Nat
  exponent : Int
  deriving DecidableEq, Repr, Inhabited

namespace Decimal

/-- Zero with a sign. -/
def zero (negative : Bool) : Decimal :=
  ⟨negative, 0, 0⟩

/-- The decisions of a written form: whether a positive exponent carries a `+`. -/
structure Layout where
  plusSign : Bool

/-- The digits of the magnitude, laid out around the decimal point. A number is positional
as long as its point falls within sixteen digits to the right of the first digit or within
five zeros to its left. -/
def magnitude (layout : Layout) (digits : Nat) (exponent : Int) : List Char :=
  let ds := Nat.toDigits 10 digits
  let point := (ds.length : Int) + exponent
  if digits = 0 then ['0', '.', '0']
  else if 0 ≤ exponent ∧ point ≤ 16 then
    ds ++ List.replicate exponent.toNat '0' ++ ['.', '0']
  else if 0 < point ∧ point ≤ 16 then
    ds.take point.toNat ++ '.' :: ds.drop point.toNat
  else if -5 < point ∧ point ≤ 0 then
    ['0', '.'] ++ List.replicate (-point).toNat '0' ++ ds
  else
    let power := point - 1
    let mark := if power < 0 then ['-'] else if layout.plusSign then ['+'] else []
    let mantissa := match ds with
      | [] => []
      | [d] => [d]
      | d :: more => d :: '.' :: more
    mantissa ++ 'e' :: mark ++ Nat.toDigits 10 power.natAbs

/-- The **written form** of a decimal number. -/
def text (layout : Layout) (d : Decimal) : String :=
  let body := magnitude layout d.digits d.exponent
  String.ofList (if d.negative then '-' :: body else body)

end Decimal

end ApiGloss
