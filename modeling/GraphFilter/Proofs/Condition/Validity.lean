import GraphFilter.Condition.Validity
import GraphFilter.Condition.Wire
import GraphFilter.Proofs.Condition.Tree
import GraphFilter.Proofs.Except

/-!
# `GraphFilter.Proofs.Condition.Validity` — which conditions are valid, and that those read are

Checking a condition that was built in a program and reading one from a document look for the same
thing in a leaf: that it names a type.

## Contents
- **Valid conditions.** `Condition.WellNamed`, and `validate_eq_ok_iff`: that is what a check asks.
- **Reading.** `wellNamed_of_decode`: a document is only read as a condition that is valid, so
  `validate_of_decode`.
-/

namespace GraphFilter.Condition

/-! ## Valid conditions -/

/-- Every leaf that asks for a type names one. -/
def WellNamed (c : Condition) : Prop :=
  ∀ name, Leaf.ofType name ∈ c.leaves → name.isEmpty = false

@[simp] theorem wellNamed_ofType {type : String} :
    (ofType type).WellNamed ↔ type.isEmpty = false := by
  simp [WellNamed, leaves]

@[simp] theorem wellNamed_matchProperty {property : String} {value : Value} :
    (matchProperty property value).WellNamed := by
  simp [WellNamed, leaves]

@[simp] theorem wellNamed_all {filters : List Condition} :
    (all filters).WellNamed ↔ ∀ f ∈ filters, f.WellNamed := by
  simp only [WellNamed, leaves, leavesOf_eq_flatMap, List.mem_flatMap]
  constructor
  · intro h f hf name hname
    exact h name ⟨f, hf, hname⟩
  · rintro h name ⟨f, hf, hname⟩
    exact h f hf name hname

@[simp] theorem wellNamed_any {filters : List Condition} :
    (any filters).WellNamed ↔ ∀ f ∈ filters, f.WellNamed := wellNamed_all

/-- Filters checked one after the other are all in order, whatever place they are checked at. -/
theorem checkEach_eq_ok_iff {filters : List Condition} {path : Path} {index : Nat}
    (h : ∀ f ∈ filters, ∀ place, (∃ p, f.visit validator place = .ok p) ↔ f.WellNamed) :
    checkEach path index (filters.map (visit validator)) = .ok () ↔ ∀ f ∈ filters, f.WellNamed := by
  induction filters generalizing index with
  | nil => simp [checkEach]
  | cons f rest ih =>
    obtain ⟨hf, hrest⟩ := List.forall_mem_cons.mp h
    rw [List.map_cons, checkEach, bind_eq_ok, List.forall_mem_cons, ← hf (path.child index)]
    constructor
    · rintro ⟨p, hp, hlater⟩
      exact ⟨⟨p, hp⟩, (ih hrest).mp hlater⟩
    · rintro ⟨⟨p, hp⟩, hlater⟩
      exact ⟨p, hp, (ih hrest).mpr hlater⟩

theorem checkFilters_isOk_iff {checks : List (Path → Except Error Path)} {path : Path} :
    (∃ p, checkFilters checks path = .ok p) ↔ checkEach path 0 checks = .ok () := by
  constructor
  · rintro ⟨p, hp⟩
    obtain ⟨_, hchecks, _⟩ := bind_eq_ok.mp hp
    exact hchecks
  · intro hchecks
    exact ⟨path, bind_eq_ok.mpr ⟨(), hchecks, rfl⟩⟩

/-- The check of a node gets to the end exactly if the names below it are in order. -/
theorem visit_validator_isOk_iff {c : Condition} {path : Path} :
    (∃ p, c.visit validator path = .ok p) ↔ c.WellNamed := by
  induction c generalizing path with
  | ofType type =>
    rw [wellNamed_ofType]
    show (∃ p, (if type.isEmpty then .error _ else .ok path) = Except.ok p) ↔ _
    cases type.isEmpty <;> simp
  | matchProperty property value => exact iff_of_true ⟨path, rfl⟩ wellNamed_matchProperty
  | all filters ih =>
    show (∃ p, checkFilters (visits validator filters) path = .ok p) ↔ _
    rw [checkFilters_isOk_iff, visits_eq_map, wellNamed_all]
    exact checkEach_eq_ok_iff fun f hf place => ih f hf
  | any filters ih =>
    show (∃ p, checkFilters (visits validator filters) path = .ok p) ↔ _
    rw [checkFilters_isOk_iff, visits_eq_map, wellNamed_any]
    exact checkEach_eq_ok_iff fun f hf place => ih f hf

/-- **A condition is valid exactly if its leaves name types.** -/
theorem validate_eq_ok_iff {c : Condition} : c.validate = .ok () ↔ c.WellNamed := by
  have hvisit : (∃ p, c.visit validator .root = .ok p) ↔ c.WellNamed := visit_validator_isOk_iff
  rw [validate, bind_eq_ok, ← hvisit]
  exact ⟨fun ⟨p, hp, _⟩ => ⟨p, hp⟩, fun ⟨p, hp⟩ => ⟨p, hp, rfl⟩⟩

/-! ## Reading -/

theorem wellNamed_of_decodeType {path : Path} {members : List (String × Json)} {c : Condition}
    (h : decodeType path members = .ok c) : c.WellNamed := by
  obtain ⟨name, -, hname⟩ := bind_eq_ok.mp h
  split at hname
  · exact nomatch hname
  · next hempty =>
    obtain rfl := Except.ok.inj hname
    simpa using hempty

theorem wellNamed_of_decodeProperty {path : Path} {members : List (String × Json)} {c : Condition}
    (h : decodeProperty path members = .ok c) : c.WellNamed := by
  obtain ⟨property, -, hvalue⟩ := bind_eq_ok.mp h
  split at hvalue
  · obtain rfl := Except.ok.inj hvalue
    exact wellNamed_matchProperty
  · exact nomatch hvalue

/-- What is read at a place, from the members of a node or from its filters, is well named: the
    three readers call one another, so this is one induction over their recursion. -/
theorem wellNamed_of_reading :
    (∀ path j c, decodeAt path j = .ok c → c.WellNamed) ∧
      (∀ path rule members filters, decodeFilters path rule members = .ok filters →
        ∀ f ∈ filters, f.WellNamed) ∧
      ∀ path index items filters, decodeItems path index items = .ok filters →
        ∀ f ∈ filters, f.WellNamed := by
  refine decodeAt.mutual_induct (fun path j => ∀ c, decodeAt path j = .ok c → c.WellNamed)
    (fun path rule members => ∀ filters, decodeFilters path rule members = .ok filters →
      ∀ f ∈ filters, f.WellNamed)
    (fun path index items => ∀ filters, decodeItems path index items = .ok filters →
      ∀ f ∈ filters, f.WellNamed) ?_ ?_ ?_ ?_ ?_ ?_ ?_ ?_ ?_ ?_ ?_ ?_ ?_
  -- A node: its rule cannot be read, or there is one case for each rule.
  · intro path members e hrule c h
    rw [decodeAt, hrule] at h
    exact nomatch h
  · intro path members hrule c h
    rw [decodeAt, hrule] at h
    exact wellNamed_of_decodeType h
  · intro path members hrule c h
    rw [decodeAt, hrule] at h
    exact wellNamed_of_decodeProperty h
  · intro path members hrule ih c h
    rw [decodeAt, hrule] at h
    obtain ⟨filters, hfilters, rfl⟩ := map_eq_ok.mp h
    exact wellNamed_all.mpr (ih filters hfilters)
  · intro path members hrule ih c h
    rw [decodeAt, hrule] at h
    obtain ⟨filters, hfilters, rfl⟩ := map_eq_ok.mp h
    exact wellNamed_any.mpr (ih filters hfilters)
  · intro path other hother c h
    cases other with
    | object members => exact absurd rfl (hother members)
    | _ => exact nomatch h
  -- The filters in order.
  · intro path index filters h
    obtain rfl := Except.ok.inj h
    simp
  · intro path index item rest e hitem _ filters h
    rw [decodeItems, hitem] at h
    exact nomatch h
  · intro path index item rest c hitem ihitem ihrest filters h
    rw [decodeItems, hitem] at h
    obtain ⟨later, hlater, rfl⟩ := map_eq_ok.mp h
    exact List.forall_mem_cons.mpr ⟨ihitem c hitem, ihrest later hlater⟩
  -- The member that holds them.
  · intro path rule filters h
    exact nomatch h
  · intro path rule rest items ih filters h
    rw [decodeFilters, if_pos rfl] at h
    exact ih filters h
  · intro path rule rest other hother filters h
    cases other with
    | array items => exact absurd rfl (hother items)
    | _ => exact nomatch h
  · intro path rule key value rest hkey ih filters h
    unfold decodeFilters at h
    rw [if_neg hkey] at h
    exact ih filters h

/-- **A document is only read as a condition whose leaves name types.** -/
theorem wellNamed_of_decode {payload : Json} {c : Condition} (h : decode payload = .ok c) :
    c.WellNamed :=
  wellNamed_of_reading.1 _ _ c h

theorem validate_of_decode {payload : Json} {c : Condition} (h : decode payload = .ok c) :
    c.validate = .ok () :=
  validate_eq_ok_iff.mpr (wellNamed_of_decode h)

end GraphFilter.Condition
