import GraphFilter.Text.Words

/-!
# `GraphFilter.Proofs.Text.Words` — words are told from what follows them

A word is made of letters, digits and underscores. Where a text starts with a word and does not go
on with another such character, the word and where it ends can be read off the text. Identifiers are
words, and so are numbers in decimal.

## Contents
- **Words.** `Text.Stops`, and `Text.word_cancel`.
- **Identifiers.** `Text.identifier_cancel`.
- **Numbers.** `Text.toDigits_injective`, `Text.number_cancel`.
-/

namespace GraphFilter.Text

/-! ## Words -/

/-- The text does not go on with a letter, a digit or an underscore. -/
def Stops (text : List Char) : Prop :=
  ∀ c ∈ text.head?, isIdentifierRest c = false

theorem stops_nil : Stops [] :=
  fun _ hc => absurd hc (Option.not_mem_none _)

theorem stops_cons {c : Char} (hc : isIdentifierRest c = false) (rest : List Char) :
    Stops (c :: rest) := by
  intro d hd
  obtain rfl := Option.some.inj hd
  exact hc

/-- A text that goes on with a character of a word does not stop. -/
theorem Stops.not_of_word {text rest : List Char} {c : Char} (h : Stops text)
    (htext : text = c :: rest) : isIdentifierRest c = false :=
  h c (by rw [htext, List.head?_cons, Option.mem_some_iff])

/-- **A word is told from what follows it,** if that does not go on with the word. -/
theorem word_cancel {x y r s : List Char} (hx : x.all isIdentifierRest = true)
    (hy : y.all isIdentifierRest = true) (hr : Stops r) (hs : Stops s) (h : x ++ r = y ++ s) :
    x = y ∧ r = s := by
  induction x generalizing y with
  | nil =>
    cases y with
    | nil => exact ⟨rfl, h⟩
    | cons d y =>
      -- What follows the empty word would go on with the other one.
      have hd : isIdentifierRest d = true := (Bool.and_eq_true_iff.mp hy).1
      have hstops : isIdentifierRest d = false := hr.not_of_word h
      exact absurd hd (by rw [hstops]; exact Bool.false_ne_true)
  | cons c x ih =>
    obtain ⟨hc, hx⟩ := Bool.and_eq_true_iff.mp hx
    cases y with
    | nil =>
      have hstops : isIdentifierRest c = false := hs.not_of_word h.symm
      exact absurd hc (by rw [hstops]; exact Bool.false_ne_true)
    | cons d y =>
      obtain ⟨rfl, htails⟩ := List.cons.inj h
      obtain ⟨rfl, hends⟩ := ih hx (Bool.and_eq_true_iff.mp hy).2 htails
      exact ⟨rfl, hends⟩

/-! ## Identifiers -/

theorem isIdentifierRest_of_isIdentifierStart {c : Char} (h : isIdentifierStart c = true) :
    isIdentifierRest c = true := by
  unfold isIdentifierStart at h
  unfold isIdentifierRest Char.isAlphanum
  rcases Bool.or_eq_true_iff.mp h with halpha | hunderscore
  · rw [halpha, Bool.true_or, Bool.true_or]
  · rw [hunderscore, Bool.or_true]

/-- An identifier is a word. -/
theorem all_isIdentifierRest {name : String} (h : isIdentifier name = true) :
    name.toList.all isIdentifierRest = true := by
  unfold isIdentifier at h
  cases hname : name.toList with
  | nil => rfl
  | cons c rest =>
    rw [hname] at h
    obtain ⟨hc, hrest⟩ := Bool.and_eq_true_iff.mp h
    exact Bool.and_eq_true_iff.mpr ⟨isIdentifierRest_of_isIdentifierStart hc, hrest⟩

theorem identifier_cancel {x y : String} {r s : List Char} (hx : isIdentifier x = true)
    (hy : isIdentifier y = true) (hr : Stops r) (hs : Stops s)
    (h : x.toList ++ r = y.toList ++ s) : x = y ∧ r = s := by
  obtain ⟨hword, hends⟩ := word_cancel (all_isIdentifierRest hx) (all_isIdentifierRest hy) hr hs h
  exact ⟨String.toList_injective hword, hends⟩

/-! ## Numbers -/

/-- A number in decimal is a word. -/
theorem all_isIdentifierRest_toDigits (n : Nat) :
    (Nat.toDigits 10 n).all isIdentifierRest = true := by
  rw [List.all_eq_true]
  intro c hc
  have hdigit : c.isDigit = true := Nat.isDigit_of_mem_toDigits (by decide) (by decide) hc
  simp [isIdentifierRest, Char.isAlphanum, hdigit]

theorem toDigits_injective : Function.Injective (Nat.toDigits 10) := by
  intro m n h
  rw [← Nat.ofDigitChars_ten_toDigits (n := m), h, Nat.ofDigitChars_ten_toDigits]

theorem number_cancel {m n : Nat} {r s : List Char} (hr : Stops r) (hs : Stops s)
    (h : Nat.toDigits 10 m ++ r = Nat.toDigits 10 n ++ s) : m = n ∧ r = s := by
  obtain ⟨hdigits, hends⟩ :=
    word_cancel (all_isIdentifierRest_toDigits m) (all_isIdentifierRest_toDigits n) hr hs h
  exact ⟨toDigits_injective hdigits, hends⟩

end GraphFilter.Text
