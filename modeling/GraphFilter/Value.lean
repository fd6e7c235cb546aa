import GraphFilter.Json.Printer
import GraphFilter.Text.Quoted

/-!
# `GraphFilter.Value` — property values

A value is what a property of a graph entity holds and what a filter compares it with. Scalars have
constructors of their own; arrays and objects stay JSON documents.

## Contents
- **Strict equality.** `Value.strictEq` compares numbers by value across their representations, and
  nothing else across kinds; nested values equal nothing.
- **Same value.** `==` tells representations apart.
- **JSON.** `Value.ofJson` and `Value.toJson` convert; `Value.accept?` reads a value by trying the
  kinds one after the other. `Value.IsCanonical` describes the values that come out of JSON.
- **Display.** `Value.display` is the text of a value in messages.
-/

namespace GraphFilter

/-- A property value. -/
inductive Value
  | null
  | boolean (b : Bool)
  | int (n : Int64)
  | uint (n : UInt64)
  | float (x : Float)
  | string (s : String)
  | json (j : Json)

namespace Value

instance : Inhabited Value := ⟨.null⟩

/-! ## Strict equality -/

/-- The double nearest to a number, none for what is no number. -/
def toFloat? : Value → Option Float
  | .int n => some (Float.ofInt n.toInt)
  | .uint n => some (Float.ofNat n.toNat)
  | .float x => some x
  | _ => none

/-- Equality of numbers by their nearest doubles; NaN equals nothing. -/
def sameNumber (a b : Value) : Bool :=
  match a.toFloat?, b.toFloat? with
  | some x, some y => x == y
  | _, _ => false

/-- The equality of property tests. Integers compare exactly, an integer and a double by their
    doubles; a nested value equals nothing, not even itself. -/
def strictEq : Value → Value → Bool
  | .null, .null => true
  | .boolean a, .boolean b => a == b
  | .string a, .string b => a == b
  | .int a, .int b => a == b
  | .uint a, .uint b => a == b
  | .int a, .uint b => a.toInt == b.toNat
  | .uint a, .int b => b.toInt == a.toNat
  | a, b => sameNumber a b

/-! ## Same value -/

/-- Equality with representation: the same constructor and equal content. -/
protected def beq : Value → Value → Bool
  | .null, .null => true
  | .boolean a, .boolean b => a == b
  | .int a, .int b => a == b
  | .uint a, .uint b => a == b
  | .float a, .float b => a == b
  | .string a, .string b => a == b
  | .json a, .json b => a == b
  | _, _ => false

instance : BEq Value := ⟨Value.beq⟩

/-! ## JSON -/

/-- The value of a number. -/
def ofNumber : Json.Number → Value
  | .int n => .int n
  | .uint n _ => .uint n
  | .float x _ => .float x

/-- The value of a JSON document. -/
def ofJson : Json → Value
  | .null => .null
  | .bool b => .boolean b
  | .number n => ofNumber n
  | .string s => .string s
  | j => .json j

/-- The JSON document of a value; a double that is no finite number is `null`. -/
def toJson : Value → Json
  | .null => .null
  | .boolean b => .bool b
  | .int n => .number (.int n)
  | .uint n => .number (.ofUInt64 n)
  | .float x =>
    match Json.Number.ofFloat? x with
    | some n => .number n
    | none => .null
  | .string s => .string s
  | .json j => j

/-- The signed integer of 64 bits that a number is. -/
def int64? : Json.Number → Option Int64
  | .int n => some n
  | _ => none

/-- The unsigned integer of 64 bits that a number is. -/
def uint64? : Json.Number → Option UInt64
  | .int n => if 0 ≤ n.toInt then some n.toUInt64 else none
  | .uint n _ => some n
  | .float _ _ => none

/-- The double that stands for a number: the number itself or the double nearest to it. -/
def nearestDouble : Json.Number → Float
  | .int n => Float.ofInt n.toInt
  | .uint n _ => Float.ofNat n.toNat
  | .float x _ => x

/-- The kinds of values in the order in which a reader tries them, each with the documents that it
    accepts. -/
def kinds : List (Json → Option Value) :=
  [ fun | Json.null => some .null | _ => none,
    fun | .bool b => some (.boolean b) | _ => none,
    fun | .number n => (int64? n).map .int | _ => none,
    fun | .number n => (uint64? n).map .uint | _ => none,
    fun | .number n => some (.float (nearestDouble n)) | _ => none,
    fun | .string s => some (.string s) | _ => none,
    fun j => some (.json j) ]

/-- Read a document as the first kind of value that accepts it. -/
def accept? (j : Json) : Option Value :=
  kinds.findSome? fun kind => kind j

/-- A value that a JSON document stands for: only arrays and objects are nested, only integers
    beyond the signed ones are unsigned, and doubles are finite. -/
def IsCanonical : Value → Prop
  | .uint n => Nat.pow 2 63 ≤ n.toNat
  | .float x => x.isFinite = true
  | .json (.array _) | .json (.object _) => True
  | .json _ => False
  | _ => True

/-! ## Display -/

/-- The text of a value in messages. -/
def display : Value → String
  | .null => "null"
  | .boolean b => Json.boolText b
  | .int n => toString n.toInt
  | .uint n => toString n.toNat
  | .float x => Decimal.Layout.plain.text x
  | .string s => Text.quoted s
  | .json j => j.compact

end Value

end GraphFilter
