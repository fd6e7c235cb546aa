import GraphFilter.Query.Dialect
import Mathlib.Logic.Basic

/-!
# `GraphFilter.Proofs.Query.Quoting` — a quoted name ends where its quotes end

Names of properties may hold any character, backticks included, and stand in a query between
backticks. Here is how such a name is read: two backticks in a row stand for one, a single one ends
the name. Whatever the name, reading gives it back and stops right behind its quotes; and whatever
text is read, it starts with the quoted form of the name that is found.

## Contents
- **Reading.** `takeName` behind the opening backtick, `takeQuoted?` from that backtick on.
  `takeName_doubleBacktick` reads one character of a name, `takeName_closing` the end of it.
- **Quoted names.** `takeName_quoted` and its converse `eq_quoted_of_takeName`, and for texts
  `takeQuoted?_eq_some_iff`.
-/

namespace GraphFilter.Query

/-! ## Reading -/

/-- A name up to the backtick that ends it, and what follows. Two backticks stand for one. -/
def takeName : List Char → Option (List Char × List Char)
  | [] => none
  | '\x60' :: '\x60' :: rest => (takeName rest).map fun (name, after) => ('\x60' :: name, after)
  | '\x60' :: rest => some ([], rest)
  | c :: rest => (takeName rest).map fun (name, after) => (c :: name, after)

/-- A text that starts with a quoted name: the name, and the text behind it. -/
def takeQuoted? (text : String) : Option (String × String) :=
  match text.toList with
  | '\x60' :: rest =>
    (takeName rest).map fun (name, after) => (String.ofList name, String.ofList after)
  | _ => none

/-- The text does not start with a backtick. -/
def StartsUnquoted (text : List Char) : Prop :=
  text.head? ≠ some '\x60'

theorem takeName_closing {rest : List Char} (h : StartsUnquoted rest) :
    takeName ('\x60' :: rest) = some ([], rest) := by
  rw [takeName]
  rintro more rfl
  exact h rfl

theorem takeName_plain {c : Char} (h : c ≠ '\x60') (rest : List Char) :
    takeName (c :: rest) = (takeName rest).map fun (name, after) => (c :: name, after) := by
  rw [takeName]
  · rintro more rfl -
    exact h rfl
  · exact h

/-- A character of a name is read as itself, be it written once or twice. -/
theorem takeName_doubleBacktick (c : Char) (rest : List Char) :
    takeName (doubleBacktick c ++ rest) =
      (takeName rest).map fun (name, after) => (c :: name, after) := by
  by_cases hc : c = '\x60'
  · subst hc
    rfl
  · have hplain : doubleBacktick c = [c] := if_neg hc
    rw [hplain, List.singleton_append, takeName_plain hc]

/-! ## Quoted names -/

/-- The characters of a name, and the backtick that ends it, are read back as the name. -/
theorem takeName_quoted (name : List Char) {rest : List Char} (h : StartsUnquoted rest) :
    takeName (name.flatMap doubleBacktick ++ '\x60' :: rest) = some (name, rest) := by
  induction name with
  | nil => exact takeName_closing h
  | cons c cs ih =>
    rw [List.flatMap_cons, List.append_assoc, takeName_doubleBacktick, ih, Option.map_some]

/-- Where a character stands in front of what was read, a name was read behind it. -/
theorem exists_taken_of_map {c : Char} {taken : Option (List Char × List Char)}
    {name rest : List Char}
    (h : (taken.map fun (name, after) => (c :: name, after)) = some (name, rest)) :
    ∃ found, taken = some (found, rest) ∧ name = c :: found := by
  obtain ⟨⟨found, left⟩, hfound, heq⟩ := Option.map_eq_some_iff.mp h
  obtain ⟨rfl, rfl⟩ := Prod.mk.inj heq
  exact ⟨found, hfound, rfl⟩

/-- What is read was written so, and the text goes on with something else than a backtick. -/
theorem eq_quoted_of_takeName {text name rest : List Char}
    (h : takeName text = some (name, rest)) :
    text = name.flatMap doubleBacktick ++ '\x60' :: rest ∧ StartsUnquoted rest := by
  fun_induction takeName text generalizing name with
  | case1 => exact nomatch h
  | case2 after ih =>
    obtain ⟨found, hfound, rfl⟩ := exists_taken_of_map h
    obtain ⟨rfl, hrest⟩ := ih hfound
    exact ⟨rfl, hrest⟩
  | case3 after hsingle =>
    obtain ⟨rfl, rfl⟩ := Prod.mk.inj (Option.some.inj h)
    refine ⟨rfl, ?_⟩
    intro hhead
    obtain ⟨more, rfl⟩ := List.head?_eq_some_iff.mp hhead
    exact hsingle more rfl
  | case4 c after _ hc ih =>
    obtain ⟨found, hfound, rfl⟩ := exists_taken_of_map h
    obtain ⟨rfl, hrest⟩ := ih hfound
    have hplain : doubleBacktick c = [c] := if_neg hc
    refine ⟨?_, hrest⟩
    rw [List.flatMap_cons, hplain, List.append_assoc, List.singleton_append]

theorem toList_quote_append (name rest : String) :
    (Dialect.cypher.quote name ++ rest).toList =
      '\x60' :: (name.toList.flatMap doubleBacktick ++ '\x60' :: rest.toList) := by
  show (backtickQuoted name ++ rest).toList = _
  rw [String.toList_append, backtickQuoted, String.toList_ofList, List.cons_append,
    List.append_assoc, List.singleton_append]

/-- **Nothing in a name can end its quotes.** A text is read as a quoted name and a rest exactly if it
    is the name in its quotes, followed by the rest, and the rest does not start with a backtick. -/
theorem takeQuoted?_eq_some_iff {text name rest : String} :
    takeQuoted? text = some (name, rest) ↔
      text = Dialect.cypher.quote name ++ rest ∧ StartsUnquoted rest.toList := by
  constructor
  · intro h
    unfold takeQuoted? at h
    split at h
    · rename_i behind htext
      obtain ⟨⟨found, left⟩, hfound, heq⟩ := Option.map_eq_some_iff.mp h
      obtain ⟨rfl, rfl⟩ := Prod.mk.inj heq
      obtain ⟨rfl, hrest⟩ := eq_quoted_of_takeName hfound
      have hquoted := toList_quote_append (String.ofList found) (String.ofList left)
      rw [String.toList_ofList, String.toList_ofList] at hquoted
      rw [String.toList_ofList]
      exact ⟨String.toList_injective (htext.trans hquoted.symm), hrest⟩
    · exact nomatch h
  · rintro ⟨rfl, hrest⟩
    unfold takeQuoted?
    rw [toList_quote_append]
    show (takeName (name.toList.flatMap doubleBacktick ++ '\x60' :: rest.toList)).map _ = _
    rw [takeName_quoted name.toList hrest, Option.map_some]
    show some (String.ofList name.toList, String.ofList rest.toList) = some (name, rest)
    rw [String.ofList_toList, String.ofList_toList]

/-- Backticks at the start, in a run and at the end of a name. -/
example : takeQuoted? "```a````` = 1" = some ("`a``", " = 1") := by decide

end GraphFilter.Query
