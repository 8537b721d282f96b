import ApiGloss.Decimal.Basic
import ApiGloss.Decimal.Binary

/-!
# The Shortest Decimal of a Double

A double is written with the fewest digits that read back as the same double; of several
such decimals the nearest one is taken. The decimals that read back as a magnitude are those
in the interval between the midpoints to its two neighbours, ends included when the mantissa
is even. The coarsest decimal grid that meets the interval gives the fewest digits, and only
the two grid points next to the value need to be tried.
-/

namespace ApiGloss

namespace Binary

/-- The interval of decimals that round to a magnitude, in quarter units of its last binary
place: lower end, value, upper end. The lower neighbour of a power of two is nearer. -/
def quarters (x : Binary) : Nat × Nat × Nat :=
  let v := 4 * x.mantissa
  let low := if x.mantissa = Nat.pow 2 52 ∧ minExponent < x.exponent then v - 1 else v - 2
  (low, v, v + 2)

/-- The decimal `n · 10 ^ k` on the grid of step `10 ^ k` that lies in the rounding interval
of `x` and is nearest to `x`, if there is one. Of two equally near ones the even is taken. -/
def gridPoint? (x : Binary) (k : Int) : Option Nat :=
  let (low, v, high) := x.quarters
  let e := x.exponent - 2
  let up := Nat.pow 2 e.toNat * Nat.pow 10 (-k).toNat
  let down := Nat.pow 2 (-e).toNat * Nat.pow 10 k.toNat
  let below := v * up / down
  let inside (n : Nat) : Bool :=
    if x.mantissa % 2 = 0 then low * up ≤ n * down && n * down ≤ high * up
    else low * up < n * down && n * down < high * up
  match inside below, inside (below + 1) with
  | true, false => some below
  | false, true => some (below + 1)
  | false, false => none
  | true, true =>
    let gapBelow := v * up - below * down
    let gapAbove := (below + 1) * down - v * up
    if gapBelow < gapAbove then some below
    else if gapAbove < gapBelow then some (below + 1)
    else if below % 2 = 0 then some below else some (below + 1)

/-- Tries ever finer grids, starting with step `10 ^ k`. -/
def firstGridPoint (x : Binary) : Nat → Int → Nat × Int
  | 0, k => (0, k)
  | fuel + 1, k =>
    match x.gridPoint? k with
    | some n => (n, k)
    | none => firstGridPoint x fuel (k - 1)

/-- A power of ten above every magnitude with this leading binary digit. -/
def gridStart (x : Binary) : Int :=
  ((x.mantissa.log2 : Int) + x.exponent + 1) * 30103 / 100000 + 1

/-- The **shortest decimal** that reads back as the magnitude, with a sign. Seventeen digits
always suffice. -/
def shortest (negative : Bool) (x : Binary) : Decimal :=
  if x.mantissa = 0 then Decimal.zero negative
  else
    let (n, k) := firstGridPoint x 24 x.gridStart
    ⟨negative, n, k⟩

end Binary

end ApiGloss
