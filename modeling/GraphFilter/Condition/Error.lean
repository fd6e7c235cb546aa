import GraphFilter.Condition.Basic
import GraphFilter.Condition.Path

/-!
# `GraphFilter.Condition.Error` — what can be wrong with a condition

Every error but one names the place in the condition where the defect is. Its parts are given as
data; `Error.message` has the wording.
-/

namespace GraphFilter

/-! ## Kinds of documents -/

/-- The kind of a document as messages tell it; an empty string is told apart from other strings. -/
inductive Json.Kind
  | null
  | boolean
  | number
  | emptyString
  | string
  | array
  | object
  deriving DecidableEq, Repr

/-- The kind of a document. -/
def Json.kind : Json → Json.Kind
  | .null => .null
  | .bool _ => .boolean
  | .number _ => .number
  | .string s => if s.isEmpty then .emptyString else .string
  | .array _ => .array
  | .object _ => .object

/-- The words for a kind. -/
def Json.Kind.text : Json.Kind → String
  | .null => "null"
  | .boolean => "boolean"
  | .number => "number"
  | .emptyString => "an empty string"
  | .string => "string"
  | .array => "array"
  | .object => "object"

namespace Condition

/-! ## Fields -/

/-- A field of a condition beside its rule. -/
inductive Field
  | type
  | property
  | value
  | filters
  deriving DecidableEq, Repr

/-- The name of a field in documents. -/
def Field.name : Field → String
  | .type => "type"
  | .property => "property"
  | .value => "value"
  | .filters => "filters"

/-! ## Errors -/

/-- Why a condition is refused. What a field should have held is in the words of the refusing
    check. -/
inductive Error
  | notAnObject (path : Path) (found : Json.Kind)
  | missingRule (path : Path)
  | invalidRule (path : Path) (found : Json.Kind)
  | unknownRule (path : Path) (name : String)
  | missingField (path : Path) (rule : Rule) (field : Field) (expected : String)
  | invalidField (path : Path) (rule : Rule) (field : Field) (expected : String)
      (found : Json.Kind)
  | unsafeIdentifier (rule : Rule) (property : String)
  deriving DecidableEq, Repr

namespace Error

/-- The name of the rule of the refused node, when it is known. -/
def rule? : Error → Option String
  | .unknownRule _ name => some name
  | .missingField _ rule _ _ | .invalidField _ rule _ _ _ | .unsafeIdentifier rule _ =>
    some rule.name
  | _ => none

/-- The name of the missing or wrong field. -/
def field? : Error → Option String
  | .missingRule _ | .invalidRule _ _ | .unknownRule _ _ => some "rule"
  | .missingField _ _ field _ | .invalidField _ _ field _ _ => some field.name
  | .unsafeIdentifier _ _ => some Field.property.name
  | .notAnObject _ _ => none

/-- What the field should have held. -/
def expected? : Error → Option String
  | .missingField _ _ _ expected | .invalidField _ _ _ expected _ => some expected
  | .missingRule _ | .invalidRule _ _ => some "a non-empty string"
  | .notAnObject _ _ => some "an object"
  | _ => none

/-- The place of the refused node. A property name that a query cannot hold has none. -/
def path? : Error → Option Path
  | .notAnObject path _ | .missingRule path | .invalidRule path _ | .unknownRule path _
  | .missingField path _ _ _ | .invalidField path _ _ _ _ => some path
  | .unsafeIdentifier _ _ => none

/-- The text of an error. -/
def message : Error → String
  | .notAnObject path found =>
    s!"invalid condition at {path.text}: expected a JSON object, found {found.text}"
  | .missingRule path =>
    s!"invalid condition at {path.text}: missing required field 'rule' " ++
      "(expected a non-empty string)"
  | .invalidRule path found =>
    s!"invalid condition at {path.text}: field 'rule' must be a non-empty string, " ++
      s!"found {found.text}"
  | .unknownRule path name => s!"invalid condition at {path.text}: unknown rule '{name}'"
  | .missingField path rule field expected =>
    s!"invalid '{rule.name}' condition at {path.text}: missing required field " ++
      s!"'{field.name}' (expected {expected})"
  | .invalidField path rule field expected found =>
    s!"invalid '{rule.name}' condition at {path.text}: field '{field.name}' must be " ++
      s!"{expected}, found {found.text}"
  | .unsafeIdentifier rule property =>
    s!"invalid '{rule.name}' condition: property name '{property}' " ++
      "cannot be used as a query identifier"

end Error

end Condition

end GraphFilter
