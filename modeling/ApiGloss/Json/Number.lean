import ApiGloss.Decimal.Shortest
import ApiGloss.Json.Basic

/-!
# Reading and Writing JSON Numbers

A number is an optional minus sign, an integer without leading zeros, an optional fraction
and an optional exponent. Integers in range stay integers; everything else, minus zero
included, becomes the double of its first significant digits times a power of ten.
-/

namespace ApiGloss.Json

/-- The largest unsigned integer that is kept as an integer. -/
def maxUnsigned : Nat := Nat.pow 2 64 - 1

/-- The value of a decimal digit. -/
def digitValue (c : Char) : Nat :=
  c.toNat - '0'.toNat

/-- Adds digits to a significand as long as it fits 64 bits. Gives the significand, how many
digits were taken and how many were dropped. -/
def takeDigits (significand : Nat) : List Char → Nat × Nat × Nat
  | [] => (significand, 0, 0)
  | c :: cs =>
    let next := significand * 10 + digitValue c
    if maxUnsigned < next then (significand, 0, cs.length + 1)
    else
      let (s, taken, dropped) := takeDigits next cs
      (s, taken + 1, dropped)

/-- The double `± significand · 10 ^ exponent`, unless it is out of range. -/
def realOfScaled? (negative : Bool) (significand : Nat) (exponent : Int) : Option Number :=
  (Binary.ofScaled? significand exponent).map fun x => .real (x.shortest negative)

/-- The exponents that are computed with; a larger one gives zero or is out of range. -/
def maxPower : Nat := Nat.pow 2 31 - 1

/-- The number with integer digits `whole`, fraction digits `fraction` and a written exponent
(sign and digits), if any part asks for a double. -/
def realOfParts? (negative : Bool) (whole fraction : List Char)
    (power : Option (Bool × List Char)) : Option Number :=
  let (s₀, _, dropped) := takeDigits 0 whole
  let (s, taken, _) := takeDigits s₀ fraction
  let base : Int := (dropped : Int) - taken
  match power with
  | none => realOfScaled? negative s base
  | some (down, digits) =>
    let p := digits.foldl (fun n c => n * 10 + digitValue c) 0
    if maxPower < p then
      if s ≠ 0 ∧ !down then none else some (.real (Decimal.zero negative))
    else
      let wanted : Int := if down then base - p else base + p
      realOfScaled? negative s (max (-(maxPower : Int) - 1) (min (maxPower : Int) wanted))

/-- The number with integer digits only. -/
def intOfDigits? (negative : Bool) (whole : List Char) : Option Number :=
  let (s, _, dropped) := takeDigits 0 whole
  if dropped ≠ 0 then realOfParts? negative whole [] none
  else if !negative then some (.int s)
  else if s = 0 ∨ Nat.pow 2 63 < s then realOfScaled? true s 0
  else some (.int (-(s : Int)))

/-- The digits at the start of a text and what follows them. -/
def spanDigits (s : List Char) : List Char × List Char :=
  (s.takeWhile Char.isDigit, s.dropWhile Char.isDigit)

/-- Reads an exponent after its `e`: a sign and at least one digit. -/
def readPower? (s : List Char) : Option ((Bool × List Char) × List Char) :=
  let (down, s) := match s with
    | '+' :: r => (false, r)
    | '-' :: r => (true, r)
    | r => (false, r)
  let (digits, rest) := spanDigits s
  if digits = [] then none else some ((down, digits), rest)

/-- Reads a number after its sign. -/
def readMagnitude? (negative : Bool) (s : List Char) : Option (Number × List Char) :=
  let (whole, rest) := spanDigits s
  if whole = [] then none
  else if whole.head? = some '0' ∧ whole ≠ ['0'] then none
  else
    let finish (fraction : List Char) (r : List Char) : Option (Number × List Char) :=
      match r with
      | c :: r' =>
        if c = 'e' ∨ c = 'E' then
          (readPower? r').bind fun (power, r'') =>
            (realOfParts? negative whole fraction (some power)).map (·, r'')
        else (realOfParts? negative whole fraction none).map (·, r)
      | [] => (realOfParts? negative whole fraction none).map (·, [])
    match rest with
    | '.' :: r =>
      let (fraction, r') := spanDigits r
      if fraction = [] then none else finish fraction r'
    | c :: _ =>
      if c = 'e' ∨ c = 'E' then finish [] rest
      else (intOfDigits? negative whole).map (·, rest)
    | [] => (intOfDigits? negative whole).map (·, [])

/-- Reads a number at the start of a text. -/
def readNumber? : List Char → Option (Number × List Char)
  | '-' :: s => readMagnitude? true s
  | s => readMagnitude? false s

/-- The **number that a whole text spells**, if it spells one. -/
def Number.parse? (s : String) : Option Number :=
  match readNumber? s.toList with
  | some (n, []) => some n
  | _ => none

/-- In JSON a positive exponent is written with its sign. -/
def realLayout : Decimal.Layout := ⟨true⟩

/-- The written form of an integer. -/
def intText (n : Int) : String :=
  String.ofList (if n < 0 then '-' :: Nat.toDigits 10 n.natAbs else Nat.toDigits 10 n.natAbs)

/-- The **written form** of a number. -/
def Number.text : Number → String
  | .int n => intText n
  | .real d => d.text realLayout

end ApiGloss.Json
