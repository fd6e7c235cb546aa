import GraphFilter.Json.Basic

/-!
# `GraphFilter.Json.Token` — the tokens of a JSON text

A text splits into brackets, separators, literals, numbers and strings, with blanks between them.
Two tokens can be well formed and still name nothing: a string with half of a surrogate pair, and a
number beyond the range of doubles. They carry `none`, and only a reader that needs the content
refuses them. A character that starts no token ends the list with `Token.stray`.
-/

namespace GraphFilter.Json

/-- A token of a JSON text. -/
inductive Token
  | openArray
  | closeArray
  | openObject
  | closeObject
  | colon
  | comma
  | null
  | bool (b : Bool)
  | number (n : Option Number)
  | string (s : Option String)
  | stray

namespace Token

/-! ## Strings -/

/-- The value of a hexadecimal digit. -/
def hexValue? (c : Char) : Option Nat :=
  if '0' ≤ c ∧ c ≤ '9' then some (c.toNat - '0'.toNat)
  else if 'a' ≤ c ∧ c ≤ 'f' then some (c.toNat - 'a'.toNat + 10)
  else if 'A' ≤ c ∧ c ≤ 'F' then some (c.toNat - 'A'.toNat + 10)
  else none

/-- The value of a run of hexadecimal digits. -/
def hexNumber? (cs : List Char) : Option Nat :=
  cs.foldlM (fun n c => (hexValue? c).map (16 * n + ·)) 0

/-- The character of a one-letter escape. -/
def simpleEscape? : Char → Option Char
  | '"' => some '"'
  | '\\' => some '\\'
  | '/' => some '/'
  | 'b' => some '\x08'
  | 'f' => some '\x0c'
  | 'n' => some '\n'
  | 'r' => some '\r'
  | 't' => some '\t'
  | _ => none

/-- What a string holds so far: its characters in reverse, a first half of a surrogate pair that
    waits for its second, and whether every unit so far stands for a character. -/
structure Held where
  reversed : List Char := []
  firstHalf : Option Nat := none
  sound : Bool := true

/-- Add a character. A first half must not wait. -/
def Held.push (h : Held) (c : Char) : Held :=
  ⟨c :: h.reversed, none, h.sound && h.firstHalf.isNone⟩

/-- Add a unit of sixteen bits. -/
def Held.pushUnit (h : Held) (unit : Nat) : Held :=
  if 0xD800 ≤ unit ∧ unit < 0xDC00 then
    ⟨h.reversed, some unit, h.sound && h.firstHalf.isNone⟩
  else if 0xDC00 ≤ unit ∧ unit < 0xE000 then
    match h.firstHalf with
    | some first =>
      let code := 0x10000 + (first - 0xD800) * 0x400 + (unit - 0xDC00)
      ⟨Char.ofNat code :: h.reversed, none, h.sound⟩
    | none => ⟨h.reversed, none, false⟩
  else h.push (Char.ofNat unit)

/-- The finished string, if every unit stands for a character. -/
def Held.text? (h : Held) : Option String :=
  if h.sound && h.firstHalf.isNone then some (String.ofList h.reversed.reverse) else none

/-- The string after an opening quote, and what follows its closing quote. None when it does not
    close, has a bare control character or an escape of no known form. -/
def takeString (h : Held) : List Char → Option (Option String × List Char)
  | [] => none
  | '"' :: rest => some (h.text?, rest)
  | '\\' :: 'u' :: a :: b :: c :: d :: rest =>
    match hexNumber? [a, b, c, d] with
    | some unit => takeString (h.pushUnit unit) rest
    | none => none
  | '\\' :: c :: rest =>
    match simpleEscape? c with
    | some e => takeString (h.push e) rest
    | none => none
  | c :: rest => if c.toNat < 0x20 || c == '\\' then none else takeString (h.push c) rest

theorem length_of_takeString {h : Held} {cs rest : List Char} {s : Option String}
    (e : takeString h cs = some (s, rest)) : rest.length < cs.length := by
  fun_induction takeString h cs with
  | case1 => simp at e
  | case2 h tail =>
    simp only [Option.some.injEq, Prod.mk.injEq] at e
    simp [← e.2]
  | case3 h a b c d tail unit hu ih => have := ih e; simp only [List.length_cons]; omega
  | case4 => simp at e
  | case5 h c tail hne esc he ih => have := ih e; simp only [List.length_cons]; omega
  | case6 => simp at e
  | case7 => simp at e
  | case8 h c tail h₁ h₂ h₃ hc ih => have := ih e; simp only [List.length_cons]; omega

/-! ## Numbers -/

/-- A run of digits, and what follows it. -/
def takeDigits (cs : List Char) : List Char × List Char :=
  (cs.takeWhile Char.isDigit, cs.dropWhile Char.isDigit)

/-- The value of a digit. -/
def digitValue (c : Char) : Nat :=
  c.toNat - '0'.toNat

/-- The value of a run of digits. -/
def digitsValue (cs : List Char) : Nat :=
  cs.foldl (fun n c => 10 * n + digitValue c) 0

/-- The digits after a point, if there is one; a point needs a digit. -/
def takeFraction : List Char → Option (List Char × List Char)
  | '.' :: cs =>
    match takeDigits cs with
    | ([], _) => none
    | found => some found
  | cs => some ([], cs)

/-- The exponent, if there is one; it needs a digit. -/
def takeExponent : List Char → Option (Option Int × List Char)
  | c :: cs =>
    if c == 'e' || c == 'E' then
      let (negative, digits) := match cs with
        | '-' :: rest => (true, rest)
        | '+' :: rest => (false, rest)
        | _ => (false, cs)
      match takeDigits digits with
      | ([], _) => none
      | (ds, rest) =>
        let n : Int := digitsValue ds
        some (some (if negative then -n else n), rest)
    else some (none, c :: cs)
  | [] => some (none, [])

/-- The number of the parts of its text. A number without point and exponent is an integer if 64
    bits hold it; `-0` is the double that keeps its sign. -/
def numberOfParts (negative : Bool) (whole fraction : List Char) (exponent : Option Int) :
    Option Number :=
  let magnitude := digitsValue whole
  let integer? :=
    if fraction.isEmpty && exponent.isNone && !(negative && magnitude == 0) then
      Number.ofInt? (if negative then -(magnitude : Int) else magnitude)
    else none
  integer? <|> do
    let x ← Decimal.read? (whole.map digitValue) (fraction.map digitValue) (exponent.getD 0)
    Number.ofFloat? (if negative then -x else x)

/-- The number at the head of a text, without its sign, and what follows it. None when the text
    starts no number, a leading zero among others. -/
def takeNumber (negative : Bool) (cs : List Char) : Option (Option Number × List Char) :=
  let (whole, afterWhole) := takeDigits cs
  if whole.isEmpty || (whole.head? == some '0' && whole.length != 1) then none
  else do
    let (fraction, afterFraction) ← takeFraction afterWhole
    let (exponent, rest) ← takeExponent afterFraction
    return (numberOfParts negative whole fraction exponent, rest)

theorem length_takeDigits (cs : List Char) :
    (takeDigits cs).1.length + (takeDigits cs).2.length = cs.length := by
  rw [← List.length_append, takeDigits, List.takeWhile_append_dropWhile]

theorem length_of_takeFraction {cs rest ds : List Char} (e : takeFraction cs = some (ds, rest)) :
    rest.length ≤ cs.length := by
  unfold takeFraction at e
  split at e
  · rename_i tail
    have hd := length_takeDigits tail
    split at e
    · simp at e
    · simp only [Option.some.injEq] at e
      rw [e] at hd
      simp only [List.length_cons] at hd ⊢
      omega
  · simp only [Option.some.injEq, Prod.mk.injEq] at e
    simp [e.2]

theorem length_of_takeExponent {cs rest : List Char} {n : Option Int}
    (e : takeExponent cs = some (n, rest)) : rest.length ≤ cs.length := by
  unfold takeExponent at e
  split at e
  · rename_i c tail
    split at e
    · split at e
      rename_i negative digits hsign
      have hlen : digits.length ≤ tail.length := by
        split at hsign <;> simp_all
      have hd := length_takeDigits digits
      split at e
      · simp at e
      · rename_i ds after _ hds
        simp only [Option.some.injEq, Prod.mk.injEq] at e
        rw [hds] at hd
        simp only [List.length_cons, ← e.2] at hd ⊢
        omega
    · simp only [Option.some.injEq, Prod.mk.injEq] at e
      simp [← e.2]
  · simp only [Option.some.injEq, Prod.mk.injEq] at e
    simp [← e.2]

theorem length_of_takeNumber {negative : Bool} {cs rest : List Char} {n : Option Number}
    (e : takeNumber negative cs = some (n, rest)) : rest.length < cs.length := by
  unfold takeNumber at e
  have hd := length_takeDigits cs
  generalize takeDigits cs = split at e hd
  obtain ⟨whole, afterWhole⟩ := split
  simp only at e hd
  split at e
  · simp at e
  · rename_i hne
    have hpos : 0 < whole.length := by
      rcases whole with _ | ⟨c, tail⟩ <;> simp_all
    simp only [Option.bind_eq_bind, Option.bind_eq_some_iff, Option.pure_def, Option.some.injEq,
      Prod.mk.injEq, Prod.exists] at e
    obtain ⟨ds, afterFraction, hf, x, tail, hx, _, rfl⟩ := e
    have h₁ := length_of_takeFraction hf
    have h₂ := length_of_takeExponent hx
    omega

/-! ## Texts -/

/-- A blank between tokens. -/
def isBlank (c : Char) : Bool :=
  c == ' ' || c == '\n' || c == '\t' || c == '\r'

/-- What the head of a text is. -/
inductive Head
  | token (t : Token) (rest : List Char)
  | blank (rest : List Char)
  | stray

/-- The token after an optional result of its own reading. -/
def Head.ofTaken {α : Type} (token : α → Token) : Option (α × List Char) → Head
  | some (a, rest) => .token (token a) rest
  | none => .stray

/-- The head of a text that starts with `c`. -/
def head (c : Char) (cs : List Char) : Head :=
  if isBlank c then .blank cs
  else match c, cs with
    | '[', _ => .token .openArray cs
    | ']', _ => .token .closeArray cs
    | '\x7b', _ => .token .openObject cs
    | '\x7d', _ => .token .closeObject cs
    | ':', _ => .token .colon cs
    | ',', _ => .token .comma cs
    | 'n', 'u' :: 'l' :: 'l' :: rest => .token .null rest
    | 't', 'r' :: 'u' :: 'e' :: rest => .token (.bool true) rest
    | 'f', 'a' :: 'l' :: 's' :: 'e' :: rest => .token (.bool false) rest
    | '"', _ => .ofTaken .string (takeString {} cs)
    | '-', _ => .ofTaken .number (takeNumber true cs)
    | _, _ => if c.isDigit then .ofTaken .number (takeNumber false (c :: cs)) else .stray

/-- What is left of a text after its head, nothing after a stray character. -/
def Head.rest : Head → List Char
  | .token _ rest => rest
  | .blank rest => rest
  | .stray => []

theorem length_rest_ofTaken {α : Type} {token : α → Token} {taken : Option (α × List Char)}
    {bound : Nat} (h : ∀ a rest, taken = some (a, rest) → rest.length ≤ bound) :
    (Head.ofTaken token taken).rest.length ≤ bound := by
  rcases taken with _ | ⟨a, rest⟩
  · exact Nat.zero_le _
  · exact h a rest rfl

/-- The head of a text is at least its first character. -/
theorem length_rest_head (c : Char) (cs : List Char) : (head c cs).rest.length ≤ cs.length := by
  unfold head
  split
  · exact Nat.le_refl _
  · split <;> try exact Nat.le_refl _
    · simp only [Head.rest, List.length_cons]; omega
    · simp only [Head.rest, List.length_cons]; omega
    · simp only [Head.rest, List.length_cons]; omega
    · exact length_rest_ofTaken fun _ _ e => Nat.le_of_lt (length_of_takeString e)
    · exact length_rest_ofTaken fun _ _ e => Nat.le_of_lt (length_of_takeNumber e)
    · split
      · exact length_rest_ofTaken fun _ _ e => Nat.le_of_lt_succ (length_of_takeNumber e)
      · exact Nat.zero_le _

/-- The tokens of a text. -/
def ofText (cs : List Char) : List Token :=
  match cs with
  | [] => []
  | c :: cs =>
    match _h : head c cs with
    | .token t rest => t :: ofText rest
    | .blank rest => ofText rest
    | .stray => [.stray]
termination_by cs.length
decreasing_by
  all_goals
    have hrest := length_rest_head c cs
    rw [_h, Head.rest] at hrest
    simp only [List.length_cons]
    omega

end Token

end GraphFilter.Json
