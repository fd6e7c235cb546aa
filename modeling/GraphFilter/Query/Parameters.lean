import GraphFilter.Value

/-!
# `GraphFilter.Query.Parameters` — names for query parameters

A query binds its values as named parameters. `Dict.allocate` finds a name that is not taken:
the base name itself, or the base with the least free number. Among as many numbers as there are
names taken, and the base itself, one name is always free.
-/

namespace GraphFilter

variable {α : Type}

/-- The base name with a number. -/
def numberedKey (base : String) (n : Nat) : String :=
  s!"{base}_{n}"

/-- The base name with the least number from `n` on that is free, trying so many numbers. -/
def Dict.allocateFrom (taken : Dict α) (base : String) : Nat → Nat → String
  | 0, n => numberedKey base n
  | tries + 1, n =>
    if taken.contains (numberedKey base n) then taken.allocateFrom base tries (n + 1)
    else numberedKey base n

/-- A name that is not taken: the base, or the base with the least free number from one on. -/
def Dict.allocate (taken : Dict α) (base : String) : String :=
  if taken.contains base then taken.allocateFrom base taken.size 1 else base

namespace Query

/-- The parameters of a query by name. -/
abbrev Parameters := Dict Value

/-- A character that a parameter name may hold. -/
def isParameterChar (c : Char) : Bool :=
  c.isAlphanum || c == '_'

/-- The characters of a parameter name that stands for a property: others than letters, digits and
    underscores become underscores, and a name that would be empty or start with a digit gets `p_`
    in front. -/
def parameterChars (name : List Char) : List Char :=
  let base := name.map fun c => if isParameterChar c then c else '_'
  match base with
  | [] => ['p', '_']
  | c :: _ => if c.isDigit then 'p' :: '_' :: base else base

/-- The base of the parameter names of a property. -/
def parameterBase (property : String) : String :=
  String.ofList (parameterChars property.toList)

end Query

end GraphFilter
