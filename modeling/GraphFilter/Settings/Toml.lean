import GraphFilter.Json.Token

/-!
# `GraphFilter.Settings.Toml` — the TOML of settings files

A settings file is TOML of a simple kind: texts, truth values and choices under names. A choice may
be written as a text or as a table whose only member is named after it and is empty. Numbers, dates
and filled arrays are refused here already, since no setting holds one.

## Contents
- **Characters and strings.** Comments, the four kinds of strings, keys.
- **Statements.** `Toml.statements?` splits a text into assignments and table headers.
- **Documents.** `Toml.parse?` gathers them by their first name and refuses a name given twice.
-/

namespace GraphFilter.Toml

/-! ## Characters and strings -/

/-- A blank within a line. -/
def isBlank (c : Char) : Bool :=
  c == ' ' || c == '\t'

/-- A character that no comment and no string may hold bare: a control other than the tab. -/
def isControl (c : Char) : Bool :=
  (c.toNat < 0x20 && c != '\t') || c.toNat == 0x7f

/-- The text with every line end as a single line feed. -/
def unifyLineEnds : List Char → List Char
  | '\r' :: '\n' :: rest => '\n' :: unifyLineEnds rest
  | c :: rest => c :: unifyLineEnds rest
  | [] => []

/-- Skip blanks, line ends and comments. -/
def skipVoid (inComment : Bool) : List Char → List Char
  | [] => []
  | '\n' :: rest => skipVoid false rest
  | c :: rest =>
    if inComment then (if isControl c then c :: rest else skipVoid true rest)
    else if isBlank c then skipVoid false rest
    else if c == '#' then skipVoid true rest
    else c :: rest

/-- The rest after the end of a line: blanks, a comment, and a line feed or the end of the text. -/
def afterLine? (cs : List Char) : Option (List Char) :=
  let body := cs.dropWhile isBlank
  let rest := if body.head? == some '#' then body.dropWhile (!isControl ·) else body
  match rest with
  | [] => some []
  | '\n' :: rest => some rest
  | _ => none

/-- The character of a code point. -/
def charOfCode? (code : Nat) : Option Char :=
  if code.isValidChar then some (Char.ofNat code) else none

/-- The character of a run of hexadecimal digits. -/
def hexChar? (digits : List Char) : Option Char :=
  (Json.Token.hexNumber? digits).bind charOfCode?

/-- The character of a one-letter escape. -/
def simpleEscape? (c : Char) : Option Char :=
  if c == '/' then none else Json.Token.simpleEscape? c

/-- A string after its opening quote, and what follows its closing quote. -/
def takeBasic (reversed : List Char) : List Char → Option (String × List Char)
  | [] => none
  | '"' :: rest => some (String.ofList reversed.reverse, rest)
  | '\\' :: 'u' :: a :: b :: c :: d :: rest =>
    match hexChar? [a, b, c, d] with
    | some x => takeBasic (x :: reversed) rest
    | none => none
  | '\\' :: 'U' :: a :: b :: c :: d :: e :: f :: g :: h :: rest =>
    match hexChar? [a, b, c, d, e, f, g, h] with
    | some x => takeBasic (x :: reversed) rest
    | none => none
  | '\\' :: c :: rest =>
    match simpleEscape? c with
    | some x => takeBasic (x :: reversed) rest
    | none => none
  | c :: rest => if isControl c || c == '\\' then none else takeBasic (c :: reversed) rest

/-- A string of several lines after its opening quotes. A backslash at the end of a line joins it to
    the next text, `joining` while blanks are dropped for that. -/
def takeBasicLines (joining : Bool) (reversed : List Char) : List Char → Option (String × List Char)
  | [] => none
  | '"' :: '"' :: '"' :: '"' :: '"' :: rest =>
    some (String.ofList ('"' :: '"' :: reversed).reverse, rest)
  | '"' :: '"' :: '"' :: '"' :: rest => some (String.ofList ('"' :: reversed).reverse, rest)
  | '"' :: '"' :: '"' :: rest => some (String.ofList reversed.reverse, rest)
  | '\\' :: 'u' :: a :: b :: c :: d :: rest =>
    match hexChar? [a, b, c, d] with
    | some x => takeBasicLines false (x :: reversed) rest
    | none => none
  | '\\' :: 'U' :: a :: b :: c :: d :: e :: f :: g :: h :: rest =>
    match hexChar? [a, b, c, d, e, f, g, h] with
    | some x => takeBasicLines false (x :: reversed) rest
    | none => none
  | '\\' :: c :: rest =>
    match simpleEscape? c with
    | some x => takeBasicLines false (x :: reversed) rest
    | none =>
      if (isBlank c || c == '\n') && ((c :: rest).dropWhile isBlank).head? == some '\n' then
        takeBasicLines true reversed rest
      else none
  | c :: rest =>
    if joining && (isBlank c || c == '\n') then takeBasicLines true reversed rest
    else if (isControl c && c != '\n') || c == '\\' then none
    else takeBasicLines false (c :: reversed) rest

/-- A literal string after its opening quote. -/
def takeLiteral (reversed : List Char) : List Char → Option (String × List Char)
  | [] => none
  | c :: rest =>
    if c == '\x27' then some (String.ofList reversed.reverse, rest)
    else if isControl c then none
    else takeLiteral (c :: reversed) rest

/-- A literal string of several lines after its opening quotes. -/
def takeLiteralLines (reversed : List Char) : List Char → Option (String × List Char)
  | [] => none
  | '\x27' :: '\x27' :: '\x27' :: '\x27' :: '\x27' :: rest =>
    some (String.ofList ('\x27' :: '\x27' :: reversed).reverse, rest)
  | '\x27' :: '\x27' :: '\x27' :: '\x27' :: rest =>
    some (String.ofList ('\x27' :: reversed).reverse, rest)
  | '\x27' :: '\x27' :: '\x27' :: rest => some (String.ofList reversed.reverse, rest)
  | c :: rest =>
    if isControl c && c != '\n' then none else takeLiteralLines (c :: reversed) rest

/-- The text without a line feed at its head. -/
def dropLineFeed : List Char → List Char
  | '\n' :: rest => rest
  | cs => cs

/-- A string of any kind. -/
def takeString : List Char → Option (String × List Char)
  | '"' :: '"' :: '"' :: rest => takeBasicLines false [] (dropLineFeed rest)
  | '"' :: rest => takeBasic [] rest
  | '\x27' :: '\x27' :: '\x27' :: rest => takeLiteralLines [] (dropLineFeed rest)
  | '\x27' :: rest => takeLiteral [] rest
  | _ => none

/-- A character of a key without quotes. -/
def isKeyChar (c : Char) : Bool :=
  c.isAlphanum || c == '_' || c == '-'

/-- A key: bare, or a string on one line. -/
def takeKey : List Char → Option (String × List Char)
  | '"' :: rest => takeBasic [] rest
  | '\x27' :: rest => takeLiteral [] rest
  | cs =>
    match cs.takeWhile isKeyChar with
    | [] => none
    | key => some (String.ofList key, cs.dropWhile isKeyChar)

/-- A path of at most so many keys, points between them. -/
def takePath : Nat → List Char → Option (List String × List Char)
  | 0, _ => none
  | more + 1, cs =>
    match takeKey (cs.dropWhile isBlank) with
    | none => none
    | some (key, rest) =>
      match rest.dropWhile isBlank with
      | '.' :: rest => (takePath more rest).map fun found => (key :: found.1, found.2)
      | rest => some ([key], rest)

/-! ## Statements -/

/-- What a name can be given. -/
inductive Item
  | text (s : String)
  | flag (b : Bool)
  /-- An empty table or array. -/
  | empty
  /-- A table with one member of this name, which is empty. -/
  | choice (name : String)

/-- An assignment or the header of a table. -/
inductive Statement
  | assign (path : List String) (item : Item)
  | header (path : List String)

/-- An empty array or an empty table in one line. -/
def takeEmpty : List Char → Option (List Char)
  | '[' :: rest =>
    match skipVoid false rest with
    | ']' :: rest => some rest
    | _ => none
  | '\x7b' :: rest =>
    match rest.dropWhile isBlank with
    | '\x7d' :: rest => some rest
    | _ => none
  | _ => none

/-- A table in one line, after its opening brace, that holds one empty member. -/
def takeChoice (cs : List Char) : Option (String × List Char) :=
  match takeKey (cs.dropWhile isBlank) with
  | none => none
  | some (name, rest) =>
    match rest.dropWhile isBlank with
    | '=' :: rest =>
      match takeEmpty (rest.dropWhile isBlank) with
      | none => none
      | some rest =>
        match rest.dropWhile isBlank with
        | '\x7d' :: rest => some (name, rest)
        | _ => none
    | _ => none

/-- What stands behind the equals sign. -/
def takeItem (cs : List Char) : Option (Item × List Char) :=
  match cs with
  | 't' :: 'r' :: 'u' :: 'e' :: rest => some (.flag true, rest)
  | 'f' :: 'a' :: 'l' :: 's' :: 'e' :: rest => some (.flag false, rest)
  | _ =>
    match takeEmpty cs with
    | some rest => some (.empty, rest)
    | none =>
      match cs with
      | '\x7b' :: rest => (takeChoice rest).map fun found => (.choice found.1, found.2)
      | _ => (takeString cs).map fun found => (.text found.1, found.2)

/-- A statement at the head of a text, up to the end of its line. No setting has more than three
    names in its path. -/
def takeStatement : List Char → Option (Statement × List Char)
  | '[' :: cs => do
    let (path, rest) ← takePath 3 cs
    match rest with
    | ']' :: rest => return (.header path, ← afterLine? rest)
    | _ => none
  | cs => do
    let (path, rest) ← takePath 3 cs
    match rest with
    | '=' :: rest =>
      let (item, rest) ← takeItem (rest.dropWhile isBlank)
      return (.assign path item, ← afterLine? rest)
    | _ => none

/-- The statements of a text, each of which takes a part of it. -/
def statements? (cs : List Char) : Option (List Statement) :=
  match skipVoid false cs with
  | [] => some []
  | body =>
    match takeStatement body with
    | none => none
    | some (statement, rest) =>
      if _shorter : rest.length < cs.length then (statement :: ·) <$> statements? rest else none
termination_by cs.length

/-! ## Documents -/

/-- How a table came to be: by its own header, by the header of a member, or by a path. -/
inductive Origin
  | header
  | member
  | path
  deriving DecidableEq

/-- What stands under a name. -/
inductive Entry
  | item (i : Item)
  | table (origin : Origin) (members : List (String × Item))

/-- The entries of a document in the order of their first mention. -/
abbrev Document := List (String × Entry)

/-- Change the entry of a name, or add one for a name that has none. -/
def Document.alter (name : String) (change : Option Entry → Option Entry) :
    Document → Option Document
  | [] => (change none).map fun entry => [(name, entry)]
  | (key, entry) :: rest =>
    if key = name then (change (some entry)).map fun entry => (key, entry) :: rest
    else (Document.alter name change rest).map ((key, entry) :: ·)

/-- Add a member to a table, if its name is new. -/
def addMember (origin : Origin) (members : List (String × Item)) (name : String) (item : Item) :
    Option Entry :=
  if members.any (·.1 == name) then none else some (.table origin (members ++ [(name, item)]))

/-- Give a name of a document an item, within the table of the last header. -/
def Document.assign (table : List String) (path : List String) (item : Item) (d : Document) :
    Option Document :=
  match table, path with
  | [], [name] => d.alter name fun | none => some (.item item) | some _ => none
  | [], [name, member] =>
    d.alter name fun
      | none => some (.table .path [(member, item)])
      | some (.table .path members) => addMember .path members member item
      | some _ => none
  | [name], [member] =>
    d.alter name fun
      | some (.table origin members) => addMember origin members member item
      | _ => none
  | _, _ => none

/-- Open a table by its header. -/
def Document.openTable (path : List String) (d : Document) : Option Document :=
  match path with
  | [name] =>
    d.alter name fun
      | none => some (.table .header [])
      | some (.table .member members) => some (.table .header members)
      | some _ => none
  | [name, member] =>
    d.alter name fun
      | none => some (.table .member [(member, .empty)])
      | some (.table .path _) => none
      | some (.table origin members) => addMember origin members member .empty
      | some _ => none
  | _ => none

/-- Gather statements into a document, within the table of the last header. -/
def Document.gather (table : List String) (d : Document) : List Statement → Option Document
  | [] => some d
  | .assign path item :: rest =>
    match d.assign table path item with
    | some d => d.gather table rest
    | none => none
  | .header path :: rest =>
    match d.openTable path with
    | some d => d.gather path rest
    | none => none

/-- The document of a text. A mark of the byte order may stand in front. -/
def parse? (source : String) : Option Document :=
  let cs := unifyLineEnds source.toList
  let body := if cs.head? == some '\ufeff' then cs.drop 1 else cs
  (statements? body).bind fun statements => Document.gather [] [] statements

/-- The text that an entry is. -/
def Entry.text? : Entry → Option String
  | .item (.text s) => some s
  | _ => none

/-- The truth value that an entry is. -/
def Entry.flag? : Entry → Option Bool
  | .item (.flag b) => some b
  | _ => none

/-- The name of the choice that an entry is. -/
def Entry.choice? : Entry → Option String
  | .item (.text name) | .item (.choice name) => some name
  | .table _ [(name, .empty)] => some name
  | _ => none

end GraphFilter.Toml
