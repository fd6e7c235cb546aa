import GraphFilter.Condition.Error
import GraphFilter.Json.Draft

/-!
# `GraphFilter.Condition.Wire` — conditions as JSON

A condition is written as an object with its `rule` first. Reading one checks each node before its
filters and the filters in order, so the error names the first defective node; members that a rule
does not use are ignored.

## Contents
- **Writing.** `Condition.toJson`.
- **Reading.** `Condition.decode` for a document, `Condition.ofText` for a text.
-/

namespace GraphFilter.Condition

/-! ## Writing -/

mutual

/-- The document of a condition. -/
def toJson : Condition → Json
  | .ofType name => .object [("rule", .string Rule.ofType.name), ("type", .string name)]
  | .matchProperty property value =>
    .object
      [("rule", .string Rule.matchProperty.name), ("property", .string property),
        ("value", value.toJson)]
  | .all filters =>
    .object [("rule", .string Rule.all.name), ("filters", .array (toJsons filters))]
  | .any filters =>
    .object [("rule", .string Rule.any.name), ("filters", .array (toJsons filters))]

/-- The documents of several conditions. -/
def toJsons : List Condition → List Json
  | [] => []
  | c :: rest => toJson c :: toJsons rest

end

/-! ## Reading

What fields must hold, in the words of the errors about them. -/

/-- What the name of a property must be. -/
def stringWords : String := "a string"

/-- What the name of a type must be. -/
def nonEmptyStringWords : String := "a non-empty string"

/-- What the value of a property must be. -/
def anyValueWords : String := "any value"

/-- What filters must be. -/
def arrayWords : String := "an array"

/-- The rule of a node: a non-empty string that names one. -/
def decodeRule (path : Path) (members : List (String × Json)) : Except Error Rule :=
  match lookupEntry "rule" members with
  | none => .error (.missingRule path)
  | some (.string name) =>
    if name.isEmpty then .error (.invalidRule path .emptyString)
    else
      match Rule.ofName? name with
      | some rule => .ok rule
      | none => .error (.unknownRule path name)
  | some other => .error (.invalidRule path other.kind)

/-- A field that must be a string; errors say what is expected of it. -/
def decodeString (path : Path) (rule : Rule) (field : Field) (expected : String)
    (members : List (String × Json)) : Except Error String :=
  match lookupEntry field.name members with
  | some (.string s) => .ok s
  | some other => .error (.invalidField path rule field expected other.kind)
  | none => .error (.missingField path rule field expected)

/-- The name of the type that a node asks for: a non-empty string. -/
def decodeType (path : Path) (members : List (String × Json)) : Except Error Condition := do
  let name ← decodeString path .ofType .type nonEmptyStringWords members
  if name.isEmpty then
    .error (.invalidField path .ofType .type nonEmptyStringWords .emptyString)
  else return .ofType name

/-- The property that a node asks for. A value of `null` is a value; only an absent one is
    missing. -/
def decodeProperty (path : Path) (members : List (String × Json)) : Except Error Condition := do
  let property ← decodeString path .matchProperty .property stringWords members
  match lookupEntry Field.value.name members with
  | some value => return .matchProperty property (.ofJson value)
  | none => .error (.missingField path .matchProperty .value anyValueWords)

mutual

/-- Read the node at a place. -/
def decodeAt (path : Path) : Json → Except Error Condition
  | .object members =>
    match decodeRule path members with
    | .error e => .error e
    | .ok .ofType => decodeType path members
    | .ok .matchProperty => decodeProperty path members
    | .ok .all => .all <$> decodeFilters path .all members
    | .ok .any => .any <$> decodeFilters path .any members
  | other => .error (.notAnObject path other.kind)

/-- Read the filters of the node at a place, the first member of that name. -/
def decodeFilters (path : Path) (rule : Rule) :
    List (String × Json) → Except Error (List Condition)
  | [] => .error (.missingField path rule .filters arrayWords)
  | (key, value) :: rest =>
    if key = Field.filters.name then
      match value with
      | .array items => decodeItems path 0 items
      | other => .error (.invalidField path rule .filters arrayWords other.kind)
    else decodeFilters path rule rest

/-- Read filters in order, the first of them under the given index. -/
def decodeItems (path : Path) (index : Nat) : List Json → Except Error (List Condition)
  | [] => .ok []
  | item :: rest =>
    match decodeAt (path.child index) item with
    | .error e => .error e
    | .ok c => (c :: ·) <$> decodeItems path (index + 1) rest

end

/-- Read a condition from a document. -/
def decode (payload : Json) : Except Error Condition :=
  decodeAt .root payload

/-- Why a text holds no condition: it is not JSON, or the document is refused. -/
inductive TextError
  | malformed
  | refused (e : Error)

/-- Read a condition from a text. The document is read and checked before the text must end. -/
def ofText (source : String) : Except TextError Condition :=
  let (draft, whole) := Json.Draft.ofText source
  match draft.toJson? with
  | none => .error .malformed
  | some payload =>
    match decode payload with
    | .error e => .error (.refused e)
    | .ok c => if whole then .ok c else .error .malformed

end GraphFilter.Condition
