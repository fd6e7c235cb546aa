import GraphFilter.Proofs.Graph.RoundTrip

/-!
# `GraphFilter.Proofs.Value.Canonical` — one value for each document

A value enters in two ways: as the property of a node or an edge, where the kinds of values are
tried one after the other, and as the value in a filter, which is converted from its document by one
case distinction. Were the two to differ on a document, a filter would miss what it was made for.
They agree on every document, and a document has one canonical value, from which it can be told.

## Contents
- **Canonical values.** `Value.isCanonical_ofJson`, and `Value.ofJson_toJson_of_isCanonical`.
- **Properties.** `Value.reader_eq` for one value, `Value.dict_reader_eq` for the properties of a
  node or an edge: to read values is to read documents and to convert them.
- **Filters.** `Condition.decodeAt_matchProperty`.
- **Main result.** `Value.readings_agree`.
-/

namespace GraphFilter

open Json (Reader Draft)

/-! ## Canonical values -/

namespace Value

theorem isCanonical_ofJson (j : Json) : (ofJson j).IsCanonical := by
  cases j with
  | number n =>
    cases n with
    | int n => trivial
    | uint n h => exact h
    | float x h => exact h
  | _ => trivial

/-- A canonical value is the one that its document stands for. -/
theorem ofJson_toJson_of_isCanonical {v : Value} (h : v.IsCanonical) : ofJson v.toJson = v := by
  rw [ofJson_toJson]
  cases v with
  | uint n => exact restored_uint_of_beyond h
  | float x => exact restored_float_of_finite h
  | json j =>
    cases j with
    | array items => rfl
    | object members => rfl
    | null | bool _ | number _ | string _ => exact h.elim
  | _ => rfl

/-- Only arrays and objects stay documents. -/
theorem nested_of_ofJson_eq {j nested : Json} (h : ofJson j = .json nested) :
    (∃ items, nested = .array items) ∨ ∃ members, nested = .object members := by
  have hcanonical := isCanonical_ofJson j
  rw [h] at hcanonical
  cases nested with
  | array items => exact Or.inl ⟨items, rfl⟩
  | object members => exact Or.inr ⟨members, rfl⟩
  | null | bool _ | number _ | string _ => exact hcanonical.elim

/-- Only integers that no signed one equals are unsigned. -/
theorem lt_of_ofJson_eq_uint {j : Json} {n : UInt64} (h : ofJson j = .uint n) :
    Int64.maxValue.toInt < n.toNat := by
  have hcanonical := isCanonical_ofJson j
  rw [h] at hcanonical
  have hbeyond : Nat.pow 2 63 ≤ n.toNat := hcanonical
  have hmax : Int64.maxValue.toInt = 2 ^ 63 - 1 := by decide
  have hpow : Nat.pow 2 63 = 9223372036854775808 := by decide
  omega

/-- Only numbers that are written as doubles are doubles, and they are finite. -/
theorem eq_number_of_ofJson_eq_float {j : Json} {x : Float} (h : ofJson j = .float x) :
    ∃ finite, j = .number (.float x finite) := by
  cases j with
  | number n =>
    cases n with
    | int n => exact nomatch h
    | uint n _ => exact nomatch h
    | float y finite =>
      obtain rfl := Value.float.inj h
      exact ⟨finite, rfl⟩
  | _ => exact nomatch h

/-! ## Properties -/

/-- To read a value is to read a document and to convert it, also where that fails. -/
theorem reader_eq (d : Draft) : reader d = ofJson <$> Reader.json d := by
  unfold reader
  cases Reader.json d with
  | error defect => rfl
  | ok j => simp only [accept?_eq]; rfl

theorem dict_reader_eq (d : Draft) :
    Reader.dict reader d = (·.mapValues ofJson) <$> Reader.dict Reader.json d :=
  Reader.dict_map reader_eq d

end Value

/-! ## Filters -/

/-- A filter on a property asks for what the document of its value stands for, wherever in a
    condition it is. -/
theorem Condition.decodeAt_matchProperty {members : List (String × Json)} {property : String}
    {j : Json} (hrule : lookupEntry "rule" members = some (.string "match-property"))
    (hproperty : lookupEntry "property" members = some (.string property))
    (hvalue : lookupEntry "value" members = some j) (path : Condition.Path) :
    Condition.decodeAt path (.object members) = .ok (.matchProperty property (.ofJson j)) := by
  have hread : Condition.decodeRule path members = .ok .matchProperty := by
    simp only [Condition.decodeRule, hrule]
    rfl
  have hname : Condition.decodeString path .matchProperty .property Condition.stringWords members =
      .ok property := by
    simp only [Condition.decodeString, Condition.Field.name, hproperty]
  simp only [Condition.decodeAt, hread, Condition.decodeProperty, hname, Condition.Field.name,
    hvalue]
  rfl

/-! ## Main result -/

/-- **A document stands for one value.** Trying the kinds of values in turn finds it, and so do the
    reading of the properties of graphs and the reading of filters; it is written as that document
    again; and it is the only canonical value that is. -/
theorem Value.readings_agree (j : Json) :
    Value.accept? j = some (.ofJson j) ∧
    (∀ d, Reader.json d = .ok j → Value.reader d = .ok (.ofJson j)) ∧
    (∀ d documents, Reader.dict Reader.json d = .ok documents →
      Reader.dict Value.reader d = .ok (documents.mapValues .ofJson)) ∧
    (∀ path members property, lookupEntry "rule" members = some (.string "match-property") →
      lookupEntry "property" members = some (.string property) →
      lookupEntry "value" members = some j →
      Condition.decodeAt path (.object members) = .ok (.matchProperty property (.ofJson j))) ∧
    (Value.ofJson j).toJson = j ∧
    (∀ v : Value, v.IsCanonical ∧ v.toJson = j ↔ v = .ofJson j) ∧
    (∀ nested, Value.ofJson j = .json nested →
      (∃ items, nested = .array items) ∨ ∃ members, nested = .object members) ∧
    (∀ n, Value.ofJson j = .uint n → Int64.maxValue.toInt < n.toNat) ∧
    ∀ x, Value.ofJson j = .float x → ∃ finite, j = .number (.float x finite) := by
  refine ⟨accept?_eq j, ?_, ?_, ?_, toJson_ofJson j, ?_, ?_, ?_, ?_⟩
  · intro d hd
    rw [reader_eq, hd]
    rfl
  · intro d documents hd
    rw [dict_reader_eq, hd]
    rfl
  · intro path members property hrule hproperty hvalue
    exact Condition.decodeAt_matchProperty hrule hproperty hvalue path
  · intro v
    constructor
    · rintro ⟨hcanonical, rfl⟩
      exact (ofJson_toJson_of_isCanonical hcanonical).symm
    · rintro rfl
      exact ⟨isCanonical_ofJson j, toJson_ofJson j⟩
  · exact fun _ => nested_of_ofJson_eq
  · exact fun _ => lt_of_ofJson_eq_uint
  · exact fun _ => eq_number_of_ofJson_eq_float

/-- The first integer that is no signed one, as a property and in a filter on it. -/
theorem Value.readings_agree_first_unsigned :
    let j : Json := .number (.uint 9223372036854775808 (by decide))
    Value.reader (.document j) = .ok (.uint 9223372036854775808) ∧
      Condition.decode (.object [("rule", .string "match-property"), ("property", .string "votes"),
        ("value", j)]) = .ok (.matchProperty "votes" (.uint 9223372036854775808)) := by
  intro j
  obtain ⟨-, hreader, -, hfilter, -⟩ := readings_agree j
  exact ⟨hreader (.document j) rfl, hfilter .root _ "votes" rfl rfl rfl⟩

end GraphFilter
