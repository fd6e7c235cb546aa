import GraphFilter.Proofs.Query.FreshKeys

/-!
# `GraphFilter.Proofs.Query.KeyNames` — parameter names are identifiers

The names of parameters are made from the names of properties, which may hold any character or none.
Whatever they hold, the name of the parameter is an identifier, and it stays one when it is numbered.

## Contents
- **Identifiers.** `isIdentifier_append`: letters, digits and underscores may follow an identifier.
- **Bases.** `isIdentifier_parameterBase`, `isIdentifier_valueBase`.
- **Allocated names.** `isIdentifier_allocate`: whatever is taken.
-/

namespace GraphFilter

/-! ## Identifiers -/

namespace Text

theorem isIdentifierChars_append {cs ds : List Char} (hcs : isIdentifierChars cs = true)
    (hds : ds.all isIdentifierRest = true) : isIdentifierChars (cs ++ ds) = true := by
  cases cs with
  | nil => exact absurd hcs (by simp [isIdentifierChars])
  | cons c rest =>
    obtain ⟨hc, hrest⟩ := Bool.and_eq_true_iff.mp hcs
    simp [isIdentifierChars, hc, List.all_append, hrest, hds]

theorem isIdentifier_append {name suffix : String} (hname : isIdentifier name = true)
    (hsuffix : suffix.toList.all isIdentifierRest = true) :
    isIdentifier (name ++ suffix) = true := by
  unfold isIdentifier
  rw [String.toList_append]
  exact isIdentifierChars_append hname hsuffix

end Text

/-! ## Bases -/

namespace Query

/-- The characters that replace those of a property are letters, digits and underscores. -/
theorem isParameterChar_replaced (c : Char) :
    isParameterChar (if isParameterChar c then c else '_') = true := by
  by_cases hc : isParameterChar c = true
  · rw [if_pos hc, hc]
  · rw [if_neg hc]
    rfl

/-- A letter, digit or underscore that is no digit may start an identifier. -/
theorem isIdentifierStart_of_isParameterChar {c : Char} (h : isParameterChar c = true)
    (hdigit : c.isDigit = false) : Text.isIdentifierStart c = true := by
  unfold isParameterChar Char.isAlphanum at h
  rw [hdigit, Bool.or_false] at h
  exact h

theorem isIdentifierChars_parameterChars (name : List Char) :
    Text.isIdentifierChars (parameterChars name) = true := by
  have hall : ∀ c ∈ name.map fun c => if isParameterChar c then c else '_',
      isParameterChar c = true := by
    intro c hc
    obtain ⟨original, -, rfl⟩ := List.mem_map.mp hc
    exact isParameterChar_replaced original
  unfold parameterChars
  generalize name.map (fun c => if isParameterChar c then c else '_') = base at hall ⊢
  cases base with
  | nil => rfl
  | cons c rest =>
    obtain ⟨hc, hrest⟩ := List.forall_mem_cons.mp hall
    have hall' : (c :: rest).all Text.isIdentifierRest = true := List.all_eq_true.mpr hall
    show Text.isIdentifierChars (if c.isDigit then 'p' :: '_' :: c :: rest else c :: rest) = true
    by_cases hdigit : c.isDigit = true
    · -- The digit comes third, behind `p_`.
      rw [if_pos hdigit]
      have hprefixed : Text.isIdentifierChars (['p', '_'] ++ c :: rest) = true :=
        Text.isIdentifierChars_append rfl hall'
      exact hprefixed
    · rw [if_neg hdigit]
      have hstart : Text.isIdentifierStart c = true :=
        isIdentifierStart_of_isParameterChar hc (by simpa using hdigit)
      exact Bool.and_eq_true_iff.mpr ⟨hstart, List.all_eq_true.mpr hrest⟩

/-- The base for a property is an identifier, whatever its name. -/
theorem isIdentifier_parameterBase (property : String) :
    Text.isIdentifier (parameterBase property) = true := by
  unfold Text.isIdentifier parameterBase
  rw [String.toList_ofList]
  exact isIdentifierChars_parameterChars property.toList

theorem isIdentifier_valueBase (property : String) :
    Text.isIdentifier (parameterBase property ++ "_value") = true :=
  Text.isIdentifier_append (isIdentifier_parameterBase property) (by decide)

end Query

/-! ## Allocated names -/

/-- A number after an underscore may follow an identifier. -/
theorem isIdentifier_numberedKey {base : String} (h : Text.isIdentifier base = true) (n : Nat) :
    Text.isIdentifier (numberedKey base n) = true := by
  unfold Text.isIdentifier
  rw [toList_numberedKey]
  exact Text.isIdentifierChars_append h
    (Bool.and_eq_true_iff.mpr ⟨rfl, Text.all_isIdentifierRest_toDigits n⟩)

/-- A name for an identifier is an identifier, whatever names are taken. -/
theorem isIdentifier_allocate {α : Type} (taken : Dict α) {base : String}
    (h : Text.isIdentifier base = true) : Text.isIdentifier (taken.allocate base) = true := by
  rcases taken.allocate_eq base with ⟨-, heq⟩ | ⟨-, n, -, -, heq, -, -⟩
  · rw [heq, h]
  · rw [heq]
    exact isIdentifier_numberedKey h n

end GraphFilter
