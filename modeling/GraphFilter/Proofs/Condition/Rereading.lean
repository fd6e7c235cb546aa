import GraphFilter.Condition.Validity
import GraphFilter.Proofs.Condition.Decoding
import GraphFilter.Proofs.Condition.Tree
import GraphFilter.Proofs.Condition.Validity

/-!
# `GraphFilter.Proofs.Condition.Rereading` — a written condition read back, and a condition checked

A condition that was built in a program can be written as a document and read back, and it can be
checked as it stands. The two walks stop at the same node with the same error. Where they get to the
end, the condition that was read is the one that was written, but for the form of its values: JSON
has one form for each, and that is the form in which a value comes back.

## Contents
- **Values.** `Value.restored` is the form in which a value comes back (`Value.ofJson_toJson`).
- **Conditions.** `Condition.mapValues`, and that a condition which was read has its values in that
  form already (`Reads.mapValues_restored`).
- **Walks.** `decodeAt_toJson`: reading what was written is checking, at every place.
- **Main result.** `decode_toJson_agrees`.
-/

namespace GraphFilter

/-! ## Values -/

namespace Value

/-- The form in which a value comes back when it was written: an unsigned integer is a signed one if
    64 bits hold it so, a double that is no finite number is `null`, and a nested scalar is a scalar
    of its own. -/
def restored : Value → Value
  | .uint n => if n.toNat < Nat.pow 2 63 then .int (Int64.ofNat n.toNat) else .uint n
  | .float x => if x.isFinite then .float x else .null
  | .json .null => .null
  | .json (.bool b) => .boolean b
  | .json (.number (.int n)) => .int n
  | .json (.number (.uint n _)) => .uint n
  | .json (.number (.float x _)) => .float x
  | .json (.string s) => .string s
  | v => v

theorem restored_uint_of_beyond {n : UInt64} (h : Nat.pow 2 63 ≤ n.toNat) :
    (uint n).restored = uint n :=
  if_neg (Nat.not_lt.mpr h)

theorem restored_float_of_finite {x : Float} (h : x.isFinite = true) :
    (float x).restored = float x :=
  if_pos h

/-- The bits of an unsigned integer are those of the signed integer of the same number. -/
theorem toInt64_eq_ofNat (n : UInt64) : n.toInt64 = Int64.ofNat n.toNat := by
  rw [← UInt64.toInt64_ofNat', UInt64.ofNat_toNat]

/-- **The form in which a value comes back** when it was written. -/
theorem ofJson_toJson (v : Value) : ofJson v.toJson = v.restored := by
  cases v with
  | null => rfl
  | boolean b => rfl
  | int n => rfl
  | uint n =>
    show ofNumber (Json.Number.ofUInt64 n) = (uint n).restored
    unfold Json.Number.ofUInt64
    by_cases h : Nat.pow 2 63 ≤ n.toNat
    · rw [dif_pos h, restored_uint_of_beyond h]
      rfl
    · have hsmall : (uint n).restored = .int (Int64.ofNat n.toNat) := if_pos (Nat.not_le.mp h)
      rw [dif_neg h, hsmall, ← toInt64_eq_ofNat]
      rfl
  | float x =>
    rw [toJson, Json.Number.ofFloat?]
    by_cases h : x.isFinite = true
    · rw [dif_pos h, restored_float_of_finite h]
      rfl
    · have hnull : (float x).restored = .null := if_neg h
      rw [dif_neg h, hnull]
      rfl
  | string s => rfl
  | json j =>
    -- The document is written as it is, and only scalars are read as something else.
    cases j with
    | number n => cases n <;> rfl
    | _ => rfl

/-- What was read from JSON comes back in the form that it has. -/
theorem restored_ofJson (j : Json) : (ofJson j).restored = ofJson j := by
  cases j with
  | number n =>
    cases n with
    | int n => rfl
    | uint n h => exact restored_uint_of_beyond h
    | float x h => exact restored_float_of_finite h
  | _ => rfl

end Value

namespace Condition

/-! ## Conditions -/

mutual

/-- The same condition with other values. -/
def mapValues (f : Value → Value) : Condition → Condition
  | .ofType name => .ofType name
  | .matchProperty property value => .matchProperty property (f value)
  | .all filters => .all (mapFilters f filters)
  | .any filters => .any (mapFilters f filters)

/-- The same conditions with other values. -/
def mapFilters (f : Value → Value) : List Condition → List Condition
  | [] => []
  | c :: rest => mapValues f c :: mapFilters f rest

end

/-- Documents that stand for conditions stand for conditions whose values do not change. -/
theorem mapFilters_restored {items : List Json} {filters : List Condition}
    (ih : ∀ f ∈ filters, ∀ item, Reads item f → f.mapValues Value.restored = f)
    (h : List.Forall₂ Reads items filters) : mapFilters Value.restored filters = filters := by
  induction h with
  | nil => rfl
  | cons hitem _ ihrest =>
    obtain ⟨hf, hrest⟩ := List.forall_mem_cons.mp ih
    rw [mapFilters, hf _ hitem, ihrest hrest]

/-- A condition that was read has its values in the form in which they come back. -/
theorem Reads.mapValues_restored {c : Condition} {node : Json} (h : Reads node c) :
    c.mapValues Value.restored = c := by
  induction c generalizing node with
  | ofType name => rfl
  | matchProperty property value =>
    cases h with
    | matchProperty _ _ _ =>
      rw [mapValues, Value.restored_ofJson]
  | all filters ih =>
    cases h with
    | all _ _ hfilters =>
      rw [mapValues, mapFilters_restored (fun f hf _ => ih f hf) hfilters]
  | any filters ih =>
    cases h with
    | any _ _ hfilters =>
      rw [mapValues, mapFilters_restored (fun f hf _ => ih f hf) hfilters]

/-! ## Walks -/

/-- Filters that were written are read one after the other as they are checked one after the
    other. -/
theorem decodeItems_toJsons {filters : List Condition} {path : Path} {index : Nat}
    (ih : ∀ f ∈ filters, ∀ place,
      decodeAt place f.toJson = (fun _ => f.mapValues .restored) <$> f.visit validator place) :
    decodeItems path index (toJsons filters) =
      (fun _ => mapFilters .restored filters) <$>
        checkEach path index (visits validator filters) := by
  induction filters generalizing index with
  | nil => rfl
  | cons f rest ihrest =>
    obtain ⟨hf, hrest⟩ := List.forall_mem_cons.mp ih
    rw [toJsons, decodeItems, visits, checkEach, hf, ihrest hrest]
    cases f.visit validator (path.child index) with
    | error e => rfl
    | ok place =>
      show (f.mapValues .restored :: ·) <$> _ <$> checkEach path (index + 1) _ =
        _ <$> checkEach _ _ _
      cases checkEach path (index + 1) (visits validator rest) with
      | error e => rfl
      | ok _ => rfl

/-- A check of filters that stays at its place is no more than the checks one after the other. -/
theorem map_checkFilters {α : Type} (a : α) (checks : List (Path → Except Error Path))
    (path : Path) :
    (fun _ => a) <$> checkFilters checks path = (fun _ => a) <$> checkEach path 0 checks := by
  unfold checkFilters
  cases checkEach path 0 checks with
  | error e => rfl
  | ok _ => rfl

/-- **Reading what was written is checking,** at every place: the walks fail together, and otherwise
    the condition comes back with its values in the form of JSON. -/
theorem decodeAt_toJson (c : Condition) (path : Path) :
    decodeAt path c.toJson = (fun _ => c.mapValues .restored) <$> c.visit validator path := by
  induction c generalizing path with
  | ofType name =>
    show (if name.isEmpty then _ else _) = _ <$> (if name.isEmpty then _ else _)
    by_cases hempty : name.isEmpty = true
    · rw [if_pos hempty, if_pos hempty]
      rfl
    · rw [if_neg hempty, if_neg hempty]
      rfl
  | matchProperty property value =>
    show Except.ok (matchProperty property (.ofJson value.toJson)) = .ok _
    rw [Value.ofJson_toJson]
    rfl
  | all filters ih =>
    show all <$> decodeItems path 0 (toJsons filters) =
      _ <$> checkFilters (visits validator filters) path
    rw [decodeItems_toJsons ih, map_checkFilters]
    cases checkEach path 0 (visits validator filters) <;> rfl
  | any filters ih =>
    show any <$> decodeItems path 0 (toJsons filters) =
      _ <$> checkFilters (visits validator filters) path
    rw [decodeItems_toJsons ih, map_checkFilters]
    cases checkEach path 0 (visits validator filters) <;> rfl

/-- Reading a whole condition that was written is checking it. -/
theorem decode_toJson (c : Condition) :
    decode c.toJson = (fun _ => c.mapValues .restored) <$> c.validate := by
  have hwalk : decodeAt .root c.toJson = _ := decodeAt_toJson c .root
  unfold decode validate
  rw [hwalk]
  cases c.visit validator .root <;> rfl

/-- A condition that a document stands for is read from the document. -/
theorem reads_of_decode {payload : Json} {c : Condition} (h : decode payload = .ok c) :
    Reads payload c := by
  have houtcome : Outcome .root payload (decode payload) := decodeAt_outcome payload .root
  rw [h] at houtcome
  exact houtcome.2

/-! ## Main result -/

/-- **Writing, reading and checking agree on every condition.** A condition that was written is
    refused exactly if a check refuses it, and then for the same reason at the same place. Otherwise
    it comes back with each value read from the document of the value, and nothing else changed. A
    condition that was read from any document passes the check, and comes back as it is. -/
theorem decode_toJson_agrees (c : Condition) :
    (∀ e, decode c.toJson = .error e ↔ c.validate = .error e) ∧
    (c.validate = .ok () → decode c.toJson = .ok (c.mapValues fun v => .ofJson v.toJson)) ∧
    (∀ v : Value, .ofJson v.toJson = v.restored) ∧
    ∀ payload, decode payload = .ok c → c.validate = .ok () ∧ decode c.toJson = .ok c := by
  have hvalues : (fun v : Value => Value.ofJson v.toJson) = Value.restored :=
    funext Value.ofJson_toJson
  rw [decode_toJson, hvalues]
  refine ⟨?_, ?_, Value.ofJson_toJson, ?_⟩
  · intro e
    cases c.validate with
    | error other =>
      show Except.error other = .error e ↔ Except.error other = .error e
      rw [Except.error.injEq, Except.error.injEq]
    | ok _ => exact iff_of_false nofun nofun
  · intro hvalid
    rw [hvalid]
    rfl
  · intro payload hread
    have hvalid : c.validate = .ok () := validate_of_decode hread
    refine ⟨hvalid, ?_⟩
    rw [hvalid, (reads_of_decode hread).mapValues_restored]
    rfl

/-- Values that JSON has another form for: a small unsigned integer, a double that is no number and
    a nested truth value. -/
def oddValues : Condition :=
  .all [.matchProperty "born" (.uint 1964), .any [.matchProperty "score" (.float (0.0 / 0.0))],
    .matchProperty "alive" (.json (.bool true)), .matchProperty "" (.uint 18446744073709551615)]

/-- A type without a name, behind a filter that is in order. -/
def namelessType : Condition :=
  .any [oddValues, .all [.ofType "Person", .ofType ""], .ofType ""]

/-- The odd values come back plain, and the nameless type is refused where a check refuses it. -/
theorem decode_toJson_agrees_oddValues :
    oddValues.validate = .ok () ∧
    decode oddValues.toJson =
      .ok (.all [.matchProperty "born" (.int 1964), .any [.matchProperty "score" .null],
        .matchProperty "alive" (.boolean true),
        .matchProperty "" (.uint 18446744073709551615)]) ∧
    namelessType.validate =
      .error (.invalidField ⟨[1, 1]⟩ .ofType .type "a non-empty string" .emptyString) ∧
    decode namelessType.toJson =
      .error (.invalidField ⟨[1, 1]⟩ .ofType .type "a non-empty string" .emptyString) ∧
    decode nullTest = .ok (.matchProperty "" .null) ∧
    decode (Condition.matchProperty "" .null).toJson = .ok (.matchProperty "" .null) := by
  have hvalid : oddValues.validate = .ok () := rfl
  have hrefused : namelessType.validate =
      .error (.invalidField ⟨[1, 1]⟩ .ofType .type "a non-empty string" .emptyString) := rfl
  have hread : decode nullTest = .ok (.matchProperty "" .null) := rfl
  refine ⟨hvalid, ?_, hrefused, ?_, hread, ?_⟩
  · rw [(decode_toJson_agrees oddValues).2.1 hvalid]
    rfl
  · exact ((decode_toJson_agrees namelessType).1 _).mpr hrefused
  · exact ((decode_toJson_agrees _).2.2.2 nullTest hread).2

end Condition

end GraphFilter
