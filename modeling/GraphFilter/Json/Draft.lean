import GraphFilter.Json.Token

/-!
# `GraphFilter.Json.Draft` — a JSON text as far as it can be followed

A draft is the tree that a text shows up to the place where it stops being JSON. Members keep the
order and the repetitions of the text. A reader that walks a draft from left to right meets the
first defect of the text first, be it a place where the text breaks off or a value of the wrong
shape.

## Contents
- **Drafts.** `Draft`, and `Draft.expose`, which brings the outermost layer in sight.
- **Building.** `Draft.ofTokens` folds the tokens of a text over a stack of open containers.
- **Whole documents.** `Draft.toJson?` asks for every part to be sound, `Draft.isSkippable` only for
  a tree that closes, as is enough for members that no reader wants.
-/

namespace GraphFilter.Json

/-! ## Drafts -/

/-- The tree of a text up to its first break. A container that is not `closed` is the place of a
    break, after its last item or member; a `deep` one has more containers around it than a reader
    enters. `broken` stands where a value was due and none could be read. A `document` at hand is a
    draft too, one without breaks. -/
inductive Draft
  | null
  | bool (b : Bool)
  | number (n : Option Number)
  | string (s : Option String)
  | array (items : List Draft) (closed deep : Bool)
  | object (members : List (Option String × Draft)) (closed deep : Bool)
  | broken
  | document (j : Json)

namespace Draft

/-- The draft with its outermost layer in sight: that of a document is unfolded. -/
def expose : Draft → Draft
  | .document .null => .null
  | .document (.bool b) => .bool b
  | .document (.number n) => .number (some n)
  | .document (.string s) => .string (some s)
  | .document (.array items) => .array (items.map .document) true false
  | .document (.object members) =>
    .object (members.map fun m => (some m.1, .document m.2)) true false
  | d => d

/-! ## Building -/

/-- An open container: what it holds so far, in reverse, and for an object the key whose value is
    due. -/
inductive Frame
  | array (reversed : List Draft)
  | object (reversed : List (Option String × Draft)) (due : Option (Option String))

/-- The number of containers that may lie around one another. -/
def maxNesting : Nat := 127

/-- Close a container that has `around` containers around it. -/
def Frame.finish (closed : Bool) (around : Nat) : Frame → Draft
  | .array reversed => .array reversed.reverse closed (maxNesting ≤ around)
  | .object reversed _ => .object reversed.reverse closed (maxNesting ≤ around)

/-- Put a value into the innermost open container. -/
def Frame.put (value : Draft) : Frame → Frame
  | .array reversed => .array (value :: reversed)
  | .object reversed (some key) => .object ((key, value) :: reversed) none
  | .object reversed none => .object reversed none

/-- The draft of a text that breaks off while these containers are open, the innermost first. A
    member whose key was read keeps its place. -/
def cutOff : List Frame → Draft
  | [] => .broken
  | .object reversed (some key) :: frames =>
    close ((Frame.object ((key, .broken) :: reversed) none).finish false frames.length) frames
  | frame :: frames => close (frame.finish false frames.length) frames
where
  /-- Leave the containers around an unfinished one unfinished too. -/
  close (inner : Draft) : List Frame → Draft
    | [] => inner
    | frame :: frames => close ((frame.put inner).finish false frames.length) frames

/-- What may come next. -/
inductive Expect
  | value
  | itemOrClose
  | keyOrClose
  | key
  | colon
  | commaOrClose

/-- The scalar of a token. -/
def scalar? : Token → Option Draft
  | .null => some .null
  | .bool b => some (.bool b)
  | .number n => some (.number n)
  | .string s => some (.string s)
  | _ => none

/-- Follow the tokens from within the open containers. The flag tells whether nothing follows the
    document. -/
def follow (expect : Expect) (frames : List Frame) : List Token → Draft × Bool
  | [] => (cutOff frames, false)
  | token :: rest =>
    let complete (value : Draft) (around : List Frame) : Draft × Bool :=
      match around with
      | [] => (value, rest.isEmpty)
      | frame :: outer => follow .commaOrClose (frame.put value :: outer) rest
    match expect, token, frames with
    | .value, .openArray, _ | .itemOrClose, .openArray, _ =>
      follow .itemOrClose (.array [] :: frames) rest
    | .value, .openObject, _ | .itemOrClose, .openObject, _ =>
      follow .keyOrClose (.object [] none :: frames) rest
    | .itemOrClose, .closeArray, .array items :: around
    | .commaOrClose, .closeArray, .array items :: around =>
      complete ((Frame.array items).finish true around.length) around
    | .keyOrClose, .closeObject, .object members _ :: around
    | .commaOrClose, .closeObject, .object members _ :: around =>
      complete ((Frame.object members none).finish true around.length) around
    | .keyOrClose, .string key, .object members _ :: around
    | .key, .string key, .object members _ :: around =>
      follow .colon (.object members (some key) :: around) rest
    | .colon, .colon, _ => follow .value frames rest
    | .commaOrClose, .comma, .array _ :: _ => follow .value frames rest
    | .commaOrClose, .comma, .object _ _ :: _ => follow .key frames rest
    | .value, scalar, _ | .itemOrClose, scalar, _ =>
      match scalar? scalar with
      | some value => complete value frames
      | none => (cutOff frames, false)
    | _, _, _ => (cutOff frames, false)

/-- The draft of the tokens of a text, and whether the text ends with the document. -/
def ofTokens (tokens : List Token) : Draft × Bool :=
  follow .value [] tokens

/-- The draft of a text, and whether the text ends with the document. -/
def ofText (source : String) : Draft × Bool :=
  ofTokens (Token.ofText source.toList)

/-! ## Whole documents -/

mutual

/-- The document of a draft all of which is sound. The objects of a text come out sorted by key,
    each key once, with its last value. -/
def toJson? : Draft → Option Json
  | .null => some .null
  | .bool b => some (.bool b)
  | .number n => n.map .number
  | .string s => s.map .string
  | .array items closed deep => do
    let items ← toItems? items
    if closed && !deep then some (.array items) else none
  | .object members closed deep => do
    let members ← toMembers? members
    if closed && !deep then some (.object (sortEntries members)) else none
  | .broken => none
  | .document j => some j

/-- The documents of the items of an array. -/
def toItems? : List Draft → Option (List Json)
  | [] => some []
  | item :: rest => do
    let item ← toJson? item
    let rest ← toItems? rest
    return item :: rest

/-- The documents of the members of an object. -/
def toMembers? : List (Option String × Draft) → Option (List (String × Json))
  | [] => some []
  | (key, value) :: rest => do
    let key ← key
    let value ← toJson? value
    let rest ← toMembers? rest
    return (key, value) :: rest

end

mutual

/-- Whether a value can be passed over: nothing in it breaks off. -/
def isSkippable : Draft → Bool
  | .broken => false
  | .array items closed _ => closed && skippableItems items
  | .object members closed _ => closed && skippableMembers members
  | _ => true

/-- Whether all items of an array can be passed over. -/
def skippableItems : List Draft → Bool
  | [] => true
  | item :: rest => isSkippable item && skippableItems rest

/-- Whether all members of an object can be passed over. -/
def skippableMembers : List (Option String × Draft) → Bool
  | [] => true
  | (_, value) :: rest => isSkippable value && skippableMembers rest

end

end Draft

/-- The document of a text; none when the text is not JSON, nests too deep or has a number out of
    range. -/
def parse? (source : String) : Option Json :=
  let (draft, whole) := Draft.ofText source
  if whole then draft.toJson? else none

end GraphFilter.Json
