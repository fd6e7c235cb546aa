import GraphFilter.Json.Basic
import GraphFilter.Decimal.Layout

/-!
# `GraphFilter.Json.Printer` — JSON documents as text

`Json.compact` writes a document without blanks, `Json.pretty` with two blanks of indentation for
each level and every item and member on a line of its own.
-/

namespace GraphFilter.Json

/-! ## Scalars -/

/-- A character inside a string: quotes, backslashes and controls are escaped, all others stand for
    themselves. -/
def escapeChar (c : Char) : String :=
  match c with
  | '"' => "\\\""
  | '\\' => "\\\\"
  | '\x08' => "\\b"
  | '\x0c' => "\\f"
  | '\n' => "\\n"
  | '\r' => "\\r"
  | '\t' => "\\t"
  | _ =>
    if c.toNat < 0x20 then
      String.ofList ("\\u00".toList ++ [Nat.digitChar (c.toNat / 16), Nat.digitChar (c.toNat % 16)])
    else c.toString

/-- A string in quotes. -/
def quote (s : String) : String :=
  "\"" ++ String.join (s.toList.map escapeChar) ++ "\""

/-- A number: integers by their digits, doubles in the layout of JSON. -/
def Number.text : Number → String
  | .int n => toString n.toInt
  | .uint n _ => toString n.toNat
  | .float x _ => Decimal.Layout.json.text x

/-- The text of a truth value. -/
def boolText (b : Bool) : String :=
  if b then "true" else "false"

/-! ## Without blanks -/

mutual

/-- The text of a document, without blanks. -/
def compact : Json → String
  | .null => "null"
  | .bool b => boolText b
  | .number n => n.text
  | .string s => quote s
  | .array items => "[" ++ String.intercalate "," (compactItems items) ++ "]"
  | .object members => "\x7b" ++ String.intercalate "," (compactMembers members) ++ "\x7d"

/-- The texts of the items of an array. -/
def compactItems : List Json → List String
  | [] => []
  | item :: rest => compact item :: compactItems rest

/-- The texts of the members of an object. -/
def compactMembers : List (String × Json) → List String
  | [] => []
  | (key, value) :: rest => (quote key ++ ":" ++ compact value) :: compactMembers rest

end

/-! ## With indentation -/

/-- Lines between two brackets, each indented one step deeper than the brackets; nothing at all
    stays on the line. -/
def bracketed (opening closing : String) (depth : Nat) : List String → String
  | [] => opening ++ closing
  | lines =>
    let outer := String.ofList (List.replicate (2 * depth) ' ')
    let inner := outer ++ "  "
    opening ++ "\n" ++ String.intercalate ",\n" (lines.map (inner ++ ·)) ++ "\n" ++ outer ++ closing

mutual

/-- The text of a document whose first line stands at the given depth. -/
def prettyAt (depth : Nat) : Json → String
  | .null => "null"
  | .bool b => boolText b
  | .number n => n.text
  | .string s => quote s
  | .array items => bracketed "[" "]" depth (prettyItems (depth + 1) items)
  | .object members => bracketed "\x7b" "\x7d" depth (prettyMembers (depth + 1) members)

/-- The texts of the items of an array. -/
def prettyItems (depth : Nat) : List Json → List String
  | [] => []
  | item :: rest => prettyAt depth item :: prettyItems depth rest

/-- The texts of the members of an object. -/
def prettyMembers (depth : Nat) : List (String × Json) → List String
  | [] => []
  | (key, value) :: rest => (quote key ++ ": " ++ prettyAt depth value) :: prettyMembers depth rest

end

/-- The text of a document, indented. -/
def pretty (j : Json) : String :=
  prettyAt 0 j

end GraphFilter.Json
