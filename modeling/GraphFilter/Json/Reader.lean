import GraphFilter.Json.Draft

/-!
# `GraphFilter.Json.Reader` — typed values out of JSON

A reader takes a typed value out of a draft, and fails with the first defect from left to right: the
text stops being JSON (`malformed`), or it is JSON of another shape (`misshapen`). A value of the
wrong kind is misshapen as soon as its kind shows, which for a container is its opening bracket and
for a scalar its end.

## Contents
- **Scalars, lists, maps.** One reader each.
- **Records.** `Record` lists the members of a record; `Record.read` takes them from an object, in
  any order, or from an array, in the order of the list.
- **Sources.** `Reader.ofText` reads a text to its end, `Reader.ofJson` a document at hand.
-/

namespace GraphFilter.Json

/-- Why a typed value cannot be read. -/
inductive Defect
  /-- The text is not JSON, nests too deep or has a number out of range. -/
  | malformed
  /-- The text is JSON, and the value has another shape. -/
  | misshapen
  deriving DecidableEq, Repr

/-- Takes a value out of a draft. -/
abbrev Reader (α : Type) := Draft → Except Defect α

namespace Reader

variable {α : Type}

/-- The defect of a draft of an unwanted kind: a scalar has to be sound before its kind counts. -/
def unwanted : Draft → Defect
  | .broken | .number none | .string none => .malformed
  | _ => .misshapen

/-! ## Scalars, lists, maps -/

/-- Any document. -/
def json : Reader Json := fun d =>
  match d.toJson? with
  | some j => .ok j
  | none => .error .malformed

/-- A truth value. -/
def bool : Reader Bool := fun d =>
  match d.expose with
  | .bool b => .ok b
  | d => .error (unwanted d)

/-- A string. -/
def string : Reader String := fun d =>
  match d.expose with
  | .string (some s) => .ok s
  | d => .error (unwanted d)

/-- A signed integer of 64 bits. -/
def int64 : Reader Int64 := fun d =>
  match d.expose with
  | .number (some (.int n)) => .ok n
  | d => .error (unwanted d)

/-- A natural number of 32 bits. -/
def uint32 : Reader UInt32 := fun d =>
  match d.expose with
  | .number (some (.int n)) =>
    if 0 ≤ n.toInt ∧ n.toInt < UInt32.size then .ok (UInt32.ofNat n.toInt.toNat)
    else .error .misshapen
  | d => .error (unwanted d)

/-- A value or `null`. -/
def nullable (r : Reader α) : Reader (Option α) := fun d =>
  match d.expose with
  | .null => .ok none
  | _ => some <$> r d

/-- Go on if the container closes and may be entered. -/
def closing (closed : Bool) (a : α) : Except Defect α :=
  if closed then .ok a else .error .malformed

/-- A list of values. -/
def list (r : Reader α) : Reader (List α) := fun d =>
  match d.expose with
  | .array items closed deep =>
    if deep then .error .malformed else items.mapM r >>= closing closed
  | d => .error (unwanted d)

/-- One entry of a map. -/
def entry (r : Reader α) (member : Option String × Draft) : Except Defect (String × α) :=
  match member.1 with
  | some key => (key, ·) <$> r member.2
  | none => .error .malformed

/-- A map from text to values; of members with one key the last stays. -/
def dict (r : Reader α) : Reader (Dict α) := fun d =>
  match d.expose with
  | .object members closed deep =>
    if deep then .error .malformed
    else Dict.ofList <$> (members.mapM (entry r) >>= closing closed)
  | d => .error (unwanted d)

end Reader

/-! ## Records -/

/-- A member of a record that is gathered in a `σ`: the names it goes by, whether it was given
    already, and how a value of it is read and put down. -/
structure Member (σ : Type) where
  names : List String
  given : σ → Bool
  fill : σ → Reader σ

/-- A record: its members in order, and whether other members are allowed beside them. -/
structure Record (σ : Type) where
  members : List (Member σ)
  allowsOthers : Bool := true

/-- A member of one name whose value goes into an optional field of `σ`. -/
def Member.field {σ α : Type} (name : String) (r : Reader α) (get : σ → Option α)
    (set : σ → α → σ) : Member σ where
  names := [name]
  given s := (get s).isSome
  fill s d := set s <$> r d

namespace Record

variable {σ α : Type}

/-- Gather the members of an object. A member given twice is misshapen whatever its value. -/
def gather (r : Record σ) : σ → List (Option String × Draft) → Except Defect σ
  | s, [] => .ok s
  | _, (none, _) :: _ => .error .malformed
  | s, (some key, value) :: rest =>
    match r.members.find? (·.names.contains key) with
    | some m => if m.given s then .error .misshapen else m.fill s value >>= fun s => r.gather s rest
    | none =>
      if !r.allowsOthers then .error .misshapen
      else if value.isSkippable then r.gather s rest
      else .error .malformed

/-- Gather the items of an array into the members, first to first. An array of too many items breaks
    off where the record ends. -/
def gatherItems : List (Member σ) → σ → List Draft → Except Defect σ
  | _, s, [] => .ok s
  | [], _, _ :: _ => .error .malformed
  | m :: ms, s, value :: rest => m.fill s value >>= fun s => gatherItems ms s rest

/-- Read a record: gather its members and finish it, which fails when a member is missing. -/
def read (r : Record σ) (start : σ) (finish : σ → Option α) : Reader α := fun d =>
  let conclude (closed : Bool) (s : σ) : Except Defect α :=
    Reader.closing closed s >>= fun s =>
      match finish s with
      | some a => .ok a
      | none => .error .misshapen
  match d.expose with
  | .object members closed deep =>
    if deep then .error .malformed else r.gather start members >>= conclude closed
  | .array items closed deep =>
    if deep then .error .malformed else gatherItems r.members start items >>= conclude closed
  | d => .error (Reader.unwanted d)

end Record

/-! ## Sources -/

namespace Reader

variable {α : Type}

/-- Read a text, which must end with the value. -/
def ofText (r : Reader α) (source : String) : Except Defect α :=
  let (draft, whole) := Draft.ofText source
  r draft >>= closing whole

/-- Read a document at hand: it is JSON already, so it can only have another shape. -/
def ofJson? (r : Reader α) (j : Json) : Option α :=
  (r (.document j)).toOption

end Reader

end GraphFilter.Json
