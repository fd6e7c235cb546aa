/-!
# `GraphFilter.Text.Words` — words of settings and names of variables

The names of modes and kinds are read leniently: blanks around them, letter case and the choice
between `_` and `-` do not count. An identifier is a name that may stand in a query by itself.
-/

namespace GraphFilter.Text

/-! ## Blanks -/

/-- The blank characters: the property `White_Space` of Unicode. -/
def isBlank (c : Char) : Bool :=
  let code := c.toNat
  (0x09 ≤ code && code ≤ 0x0d) || code == 0x20 || code == 0x85 || code == 0xa0 || code == 0x1680 ||
    (0x2000 ≤ code && code ≤ 0x200a) || code == 0x2028 || code == 0x2029 || code == 0x202f ||
    code == 0x205f || code == 0x3000

/-- The text without the blanks at its ends. -/
def trim (s : String) : String :=
  String.ofList ((s.toList.dropWhile isBlank).reverse.dropWhile isBlank).reverse

/-! ## Words -/

/-- The text with its ASCII letters in lower case. -/
def lowercase (s : String) : String :=
  s.map Char.toLower

/-- A word of settings in its plain form: trimmed, in lower case, `-` for `_`. -/
def normalizeWord (s : String) : String :=
  (lowercase (trim s)).map fun c => if c = '_' then '-' else c

/-! ## Identifiers -/

/-- A letter of ASCII or an underscore. -/
def isIdentifierStart (c : Char) : Bool :=
  c.isAlpha || c == '_'

/-- A letter or digit of ASCII, or an underscore. -/
def isIdentifierRest (c : Char) : Bool :=
  c.isAlphanum || c == '_'

/-- Whether the characters match `[A-Za-z_][A-Za-z0-9_]*`. -/
def isIdentifierChars : List Char → Bool
  | [] => false
  | c :: rest => isIdentifierStart c && rest.all isIdentifierRest

/-- Whether the name matches `[A-Za-z_][A-Za-z0-9_]*`. -/
def isIdentifier (name : String) : Bool :=
  isIdentifierChars name.toList

end GraphFilter.Text
