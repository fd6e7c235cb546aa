import GraphFilter.Dict
import GraphFilter.Decimal.Reading

/-!
# `GraphFilter.Json.Basic` — JSON documents

A document is a tree; the members of an object are a list, in the order in which they are written.
Objects that come from a text are sorted by key and hold each key once.

## Contents
- **Numbers.** `Json.Number` keeps integers of 64 bits exact and holds finite doubles only.
- **Documents.** `Json`, look-up of members, equality.
-/

namespace GraphFilter

/-! ## Numbers -/

/-- A number: a signed integer of 64 bits, an unsigned one beyond those, or a finite double. The
    integer `1` and the double `1.0` are different numbers. -/
inductive Json.Number
  | int (n : Int64)
  | uint (n : UInt64) (beyond : Nat.pow 2 63 ≤ n.toNat)
  | float (x : Float) (finite : x.isFinite = true)

namespace Json.Number

/-- The number of an unsigned integer, whichever form holds it. -/
def ofUInt64 (n : UInt64) : Number :=
  if h : Nat.pow 2 63 ≤ n.toNat then .uint n h else .int n.toInt64

/-- The number of an integer, if 64 bits hold it. -/
def ofInt? (n : Int) : Option Number :=
  if Int64.minValue.toInt ≤ n ∧ n ≤ Int64.maxValue.toInt then some (.int (Int64.ofInt n))
  else if 0 ≤ n ∧ n < UInt64.size then some (ofUInt64 (UInt64.ofNat n.toNat))
  else none

/-- The number of a double, if it is finite. -/
def ofFloat? (x : Float) : Option Number :=
  if h : x.isFinite = true then some (.float x h) else none

/-- Integers are equal by value, doubles as the machine compares them. -/
protected def beq : Number → Number → Bool
  | .int a, .int b => a == b
  | .uint a _, .uint b _ => a == b
  | .float a _, .float b _ => a == b
  | _, _ => false

instance : BEq Number := ⟨Number.beq⟩

end Json.Number

/-! ## Documents -/

/-- A JSON document. -/
inductive Json
  | null
  | bool (b : Bool)
  | number (n : Json.Number)
  | string (s : String)
  | array (items : List Json)
  | object (members : List (String × Json))

namespace Json

instance : Inhabited Json := ⟨.null⟩

mutual

/-- Equality of documents: the same kind at every place, and equal scalars. -/
protected def beq : Json → Json → Bool
  | .null, .null => true
  | .bool a, .bool b => a == b
  | .number a, .number b => a == b
  | .string a, .string b => a == b
  | .array a, .array b => Json.beqItems a b
  | .object a, .object b => Json.beqMembers a b
  | _, _ => false

/-- Equality of the items of two arrays. -/
protected def beqItems : List Json → List Json → Bool
  | [], [] => true
  | a :: as, b :: bs => Json.beq a b && Json.beqItems as bs
  | _, _ => false

/-- Equality of the members of two objects. -/
protected def beqMembers : List (String × Json) → List (String × Json) → Bool
  | [], [] => true
  | (k, a) :: as, (l, b) :: bs => k == l && Json.beq a b && Json.beqMembers as bs
  | _, _ => false

end

instance : BEq Json := ⟨Json.beq⟩

/-- The member of an object under a key. -/
def member? : Json → String → Option Json
  | .object members, key => lookupEntry key members
  | _, _ => none

/-- The document of an integer of 64 bits. -/
def int (n : Int64) : Json :=
  .number (.int n)

/-- The document of an optional value: `null` when there is none. -/
def ofOption {α : Type} (encode : α → Json) : Option α → Json
  | none => .null
  | some a => encode a

end Json

end GraphFilter
