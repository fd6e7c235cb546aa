import GraphFilter.Decimal.Shortest

/-!
# `GraphFilter.Decimal.Layout` — how a double is laid out as text

The digits of a double are its shortest decimal; a `Layout` decides the rest: which exponents are
written out in positional notation, whether a whole number keeps a fraction, how ties go, and the
texts of the values that are no number. `Layout.json` is the form of numbers in JSON documents,
`Layout.plain` the form of numbers in messages.
-/

namespace GraphFilter.Decimal

/-- The decisions that turn the digits of a double into text. -/
structure Layout where
  /-- Whether a number whose first digit stands for `10 ^ e` is written without an exponent. -/
  positional : Int → Bool
  /-- What follows the digits of a number without a fraction. -/
  wholeMark : String
  tie : Tie
  nan : String
  infinity : String
  negativeInfinity : String

/-- JSON documents: positional from `1e-5` up to below `1e16`, whole numbers keep `.0`, what is no
    finite number is `null`. -/
def Layout.json : Layout where
  positional e := -5 ≤ e && e ≤ 15
  wholeMark := ".0"
  tie := .toEven
  nan := "null"
  infinity := "null"
  negativeInfinity := "null"

/-- Messages: always positional, whole numbers have no fraction. -/
def Layout.plain : Layout where
  positional _ := true
  wholeMark := ""
  tie := .away
  nan := "NaN"
  infinity := "inf"
  negativeInfinity := "-inf"

/-- A run of zeros. -/
def zeros (n : Nat) : String :=
  String.ofList (List.replicate n '0')

/-- Positional notation of `digits · 10 ^ power`. -/
def positionalText (wholeMark : String) (digits : List Char) (power : Int) : String :=
  if 0 ≤ power then String.ofList digits ++ zeros power.toNat ++ wholeMark
  else
    let places := (-power).toNat
    if digits.length ≤ places then
      "0." ++ zeros (places - digits.length) ++ String.ofList digits
    else
      let whole := digits.length - places
      String.ofList (digits.take whole) ++ "." ++ String.ofList (digits.drop whole)

/-- Exponent notation: one digit, the others after a point, and the signed exponent. -/
def exponentText (digits : List Char) (exponent : Int) : String :=
  let sign := if exponent < 0 then "-" else "+"
  let fraction := match digits.drop 1 with
    | [] => ""
    | rest => "." ++ String.ofList rest
  String.ofList (digits.take 1) ++ fraction ++ "e" ++ sign ++ toString exponent.natAbs

/-- The text of a positive decimal. -/
def Layout.magnitude (l : Layout) (d : Shortest) : String :=
  let digits := (toString d.digits).toList
  let exponent := d.power + digits.length - 1
  if l.positional exponent then positionalText l.wholeMark digits d.power
  else exponentText digits exponent

/-- The text of a double. -/
def Layout.text (l : Layout) (x : Float) : String :=
  if x.isNaN then l.nan
  else if x.isInf then (if x < 0 then l.negativeInfinity else l.infinity)
  else
    let sign := if Nat.pow 2 63 ≤ x.toBits.toNat then "-" else ""
    match (Binary.ofFloat? x).bind (·.shortest? l.tie) with
    | some d => sign ++ l.magnitude d
    | none => sign ++ "0" ++ l.wholeMark

end GraphFilter.Decimal
