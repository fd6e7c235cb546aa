import GraphFilter.Text.Words
import Mathlib.Computability.Language

/-!
# `GraphFilter.Proofs.Text.Identifiers` — the language of identifiers

The names that may stand in a query by themselves make up a regular language,
`[A-Za-z_][A-Za-z0-9_]*`. It is put together here from ranges of characters in the way in which the
expression is written, and the check that names go through accepts it and nothing else.

## Contents
- **Words of one character.** `Text.range`, and `Text.mem_kstar_iff` for words of such characters.
- **Identifiers.** `Text.identifiers`, and `Text.isIdentifier_iff`.
-/

namespace GraphFilter.Text

open Computability

/-! ## Words of one character -/

/-- The words of one character from `first` to `last`. -/
def range (first last : Char) : Language Char :=
  {word | ∃ c, (first ≤ c ∧ c ≤ last) ∧ word = [c]}

theorem mem_range_iff {first last : Char} {word : List Char} :
    word ∈ range first last ↔ ∃ c, (first ≤ c ∧ c ≤ last) ∧ word = [c] := Iff.rfl

/-- Words of one character, one behind the other, are the words all of whose characters are such. -/
theorem mem_kstar_iff {words : Language Char} {p : Char → Bool}
    (hwords : ∀ word, word ∈ words ↔ ∃ c, p c = true ∧ word = [c]) {word : List Char} :
    word ∈ words∗ ↔ word.all p = true := by
  rw [Language.mem_kstar, List.all_eq_true]
  constructor
  · rintro ⟨parts, rfl, hparts⟩ c hc
    obtain ⟨part, hpart, hc⟩ := List.mem_flatten.mp hc
    obtain ⟨d, hd, rfl⟩ := (hwords part).mp (hparts part hpart)
    obtain rfl := List.mem_singleton.mp hc
    exact hd
  · intro h
    refine ⟨word.map fun c => [c], (List.flatMap_singleton' word).symm, ?_⟩
    intro part hpart
    obtain ⟨c, hc, rfl⟩ := List.mem_map.mp hpart
    exact (hwords [c]).mpr ⟨c, h c hc, rfl⟩

/-! ## Identifiers -/

/-- The language `[A-Za-z_]`. -/
def identifierStart : Language Char :=
  range 'A' 'Z' + range 'a' 'z' + range '_' '_'

/-- The language `[A-Za-z0-9_]`. -/
def identifierRest : Language Char :=
  range 'A' 'Z' + range 'a' 'z' + range '0' '9' + range '_' '_'

/-- The language `[A-Za-z_][A-Za-z0-9_]*`. -/
def identifiers : Language Char :=
  identifierStart * identifierRest∗

theorem isUpper_iff {c : Char} : c.isUpper = true ↔ 'A' ≤ c ∧ c ≤ 'Z' := by
  show decide ('A' ≤ c ∧ c ≤ 'Z') = true ↔ _
  exact decide_eq_true_iff

theorem isLower_iff {c : Char} : c.isLower = true ↔ 'a' ≤ c ∧ c ≤ 'z' := by
  show (decide ('a' ≤ c) && decide (c ≤ 'z')) = true ↔ _
  rw [Bool.and_eq_true, decide_eq_true_iff, decide_eq_true_iff]

theorem isDigit_iff {c : Char} : c.isDigit = true ↔ '0' ≤ c ∧ c ≤ '9' := by
  show (decide ('0' ≤ c) && decide (c ≤ '9')) = true ↔ _
  rw [Bool.and_eq_true, decide_eq_true_iff, decide_eq_true_iff]

theorem isAlpha_iff {c : Char} : c.isAlpha = true ↔ c.isUpper = true ∨ c.isLower = true := by
  show (c.isUpper || c.isLower) = true ↔ _
  rw [Bool.or_eq_true]

theorem isAlphanum_iff {c : Char} :
    c.isAlphanum = true ↔ c.isAlpha = true ∨ c.isDigit = true := by
  show (c.isAlpha || c.isDigit) = true ↔ _
  rw [Bool.or_eq_true]

theorem eq_iff_between {c d : Char} : c = d ↔ d ≤ c ∧ c ≤ d :=
  ⟨fun h => h ▸ ⟨Char.le_refl c, Char.le_refl c⟩, fun h => Char.le_antisymm h.2 h.1⟩

theorem mem_identifierStart_iff (word : List Char) :
    word ∈ identifierStart ↔ ∃ c, isIdentifierStart c = true ∧ word = [c] := by
  simp only [identifierStart, Language.mem_add, mem_range_iff, ← exists_or, ← or_and_right]
  simp only [isIdentifierStart, Bool.or_eq_true, beq_iff_eq, isAlpha_iff, isUpper_iff, isLower_iff,
    eq_iff_between]

theorem mem_identifierRest_iff (word : List Char) :
    word ∈ identifierRest ↔ ∃ c, isIdentifierRest c = true ∧ word = [c] := by
  simp only [identifierRest, Language.mem_add, mem_range_iff, ← exists_or, ← or_and_right]
  simp only [isIdentifierRest, Bool.or_eq_true, beq_iff_eq, isAlphanum_iff, isAlpha_iff,
    isUpper_iff, isLower_iff, isDigit_iff, eq_iff_between]

theorem isIdentifierChars_iff {chars : List Char} :
    isIdentifierChars chars = true ↔ chars ∈ identifiers := by
  simp only [identifiers, Language.mem_mul, mem_identifierStart_iff,
    mem_kstar_iff mem_identifierRest_iff]
  cases chars with
  | nil => simp [isIdentifierChars]
  | cons c rest =>
    rw [isIdentifierChars, Bool.and_eq_true]
    constructor
    · rintro ⟨hstart, hrest⟩
      exact ⟨[c], ⟨c, hstart, rfl⟩, rest, hrest, rfl⟩
    · rintro ⟨_, ⟨d, hstart, rfl⟩, tail, hrest, heq⟩
      obtain ⟨rfl, rfl⟩ := List.cons.inj heq
      exact ⟨hstart, hrest⟩

/-- **A name is an identifier exactly if it matches `[A-Za-z_][A-Za-z0-9_]*`.** -/
theorem isIdentifier_iff {name : String} :
    isIdentifier name = true ↔ name.toList ∈ identifiers :=
  isIdentifierChars_iff

theorem isIdentifier_eq_false_iff {name : String} :
    isIdentifier name = false ↔ name.toList ∉ identifiers := by
  rw [← isIdentifier_iff, Bool.not_eq_true]

end GraphFilter.Text
