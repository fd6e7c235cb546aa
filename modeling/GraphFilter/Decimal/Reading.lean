/-!
# `GraphFilter.Decimal.Reading` — the double that a decimal is read as

A decimal is read in doubles throughout. Its leading digits, as many as 64 bits hold, make an
integer; the integer is rounded to a double, and a double power of ten scales it. Every step rounds
to nearest. An integer up to `2 ^ 53` and a power within `10 ^ 22` are exact, and the result is then
the nearest double; beyond that it may lie a few units of the last place beside it. What overflows
on the way has no double.

## Contents
- **Leading digits.** `gather` appends digits to an integer of 64 bits.
- **Scaling.** `scale?` multiplies or divides by a power of ten.
- **Reading.** `read?` reads the digits around a point, with an exponent.
-/

namespace GraphFilter.Decimal

/-! ## Leading digits -/

/-- Append digits to an integer up to the first that 64 bits cannot take: the integer, and how many
    digits are left over. -/
def gather (start : Nat) : List Nat → Nat × Nat
  | [] => (start, 0)
  | digit :: rest =>
    if 10 * start + digit < UInt64.size then gather (10 * start + digit) rest
    else (start, rest.length + 1)

/-! ## Scaling -/

/-- The greatest power of ten that a double can hold. -/
def maxPower : Nat := 308

/-- The double nearest to a power of ten. -/
def powerOfTen (n : Nat) : Float :=
  Float.ofScientific 1 false n

/-- An integer times a power of ten, none when that overflows. A power beyond the doubles is divided
    off in two steps; what is left after those is zero. -/
def scale? (integer : Nat) (power : Int) : Option Float :=
  let x := Float.ofNat integer
  let n := power.natAbs
  if power < 0 then
    if n ≤ maxPower then some (x / powerOfTen n)
    else if n ≤ 2 * maxPower then some (x / powerOfTen maxPower / powerOfTen (n - maxPower))
    else some 0.0
  else if n ≤ maxPower then
    let y := x * powerOfTen n
    if y.isFinite then some y else none
  else if integer = 0 then some 0.0
  else none

/-! ## Reading -/

/-- The double of the digits before and after a point, times a power of ten; none when it
    overflows. Digits left over before the point still count as places, those after it do not. -/
def read? (whole fraction : List Nat) (power : Int) : Option Float :=
  let (integer, places) := gather 0 whole
  let (integer, left) := gather integer fraction
  scale? integer (places + left - fraction.length + power)

end GraphFilter.Decimal
