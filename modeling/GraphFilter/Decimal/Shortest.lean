/-!
# `GraphFilter.Decimal.Shortest` — the shortest decimal that rounds to a double

A positive finite double stands for `mantissa · 2 ^ exponent`. Every real number of an interval
around that value rounds to it, the two ends included iff the mantissa is even. Of all decimals
`digits · 10 ^ power` in the interval the coarsest grid (largest `power`) that has one is taken, and
on that grid the decimal nearest to the value. All of it is exact arithmetic on natural numbers.

## Contents
- **Doubles.** `Binary.ofFloat?` reads mantissa and exponent off the bits of a double.
- **Grids.** `Binary.onGrid?` is the decimal of one grid that rounds to the value, if any.
- **Shortest.** `Binary.shortest?` searches the grids from coarse to fine.
-/

namespace GraphFilter.Decimal

/-! ## Doubles -/

/-- A positive double: `mantissa · 2 ^ exponent`. `boundary` marks a mantissa at a power of two,
    below which doubles lie twice as close. -/
structure Binary where
  mantissa : Nat
  exponent : Int
  boundary : Bool

/-- Mantissa and exponent of the magnitude of a double; none for zeros, infinities and NaN. -/
def Binary.ofFloat? (x : Float) : Option Binary :=
  let bits := x.toBits.toNat
  let fraction : Nat := bits % Nat.pow 2 52
  let biased : Nat := bits / Nat.pow 2 52 % Nat.pow 2 11
  if biased = 2047 then none
  else if biased = 0 then
    if fraction = 0 then none else some ⟨fraction, -1074, false⟩
  else some ⟨fraction + Nat.pow 2 52, (biased : Int) - 1075, fraction = 0 && 1 < biased⟩

/-! ## Grids -/

/-- A positive decimal: `digits · 10 ^ power`. -/
structure Shortest where
  digits : Nat
  power : Int
  deriving DecidableEq, Repr

/-- How an exact tie between two shortest decimals is broken. -/
inductive Tie
  | toEven
  | away
  deriving DecidableEq, Repr

/-- The point of the grid `10 ^ power` that rounds to the value and is nearest to it. Lengths
    are counted in quarters of the mantissa's unit, and compared after scaling by `unit / step`, the
    quotient of a quarter and the grid's step. -/
def Binary.onGrid? (b : Binary) (tie : Tie) (power : Int) : Option Shortest :=
  let quarter := b.exponent - 2
  let unit := Nat.pow 2 quarter.toNat * Nat.pow 10 (-power).toNat
  let step := Nat.pow 2 (-quarter).toNat * Nat.pow 10 power.toNat
  let value := 4 * b.mantissa * unit
  let low := (4 * b.mantissa - (if b.boundary then 1 else 2)) * unit
  let high := (4 * b.mantissa + 2) * unit
  let inside (n : Nat) : Bool :=
    if b.mantissa % 2 = 0 then low ≤ n * step && n * step ≤ high
    else low < n * step && n * step < high
  let floor := value / step
  let below := value - floor * step
  let above := (floor + 1) * step - value
  let nearest :=
    if below < above then floor
    else if above < below then floor + 1
    else match tie with
      | .toEven => if floor % 2 = 0 then floor else floor + 1
      | .away => floor + 1
  let other := if nearest = floor then floor + 1 else floor
  if inside nearest then some ⟨nearest, power⟩
  else if inside other then some ⟨other, power⟩
  else none

/-! ## Shortest -/

/-- The power of ten next above the value, or the one after it: `30103 / 100000` is the decimal
    logarithm of two. -/
def Binary.topPower (b : Binary) : Int :=
  (((b.mantissa.log2 : Int) + 1 + b.exponent) * 30103) / 100000 + 1

/-- The shortest decimal that rounds to the value. Seventeen digits always suffice, so the
    search over twenty grids finds one. -/
def Binary.shortest? (b : Binary) (tie : Tie) : Option Shortest :=
  (List.range 20).findSome? fun (i : Nat) => b.onGrid? tie (b.topPower - (i : Int))

end GraphFilter.Decimal
