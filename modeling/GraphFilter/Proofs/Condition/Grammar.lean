import GraphFilter.Condition.Wire
import Mathlib.Data.List.Forall2

/-!
# `GraphFilter.Proofs.Condition.Grammar` — which documents are conditions

The documents of conditions, described without the reader. A node of a document is the document
itself or an element of the filters of an `all` or `any` node. Every node has to be sound by itself,
whatever stands below it; a node that is not has a first check that it fails.

## Contents
- **Nodes.** `Condition.LocallySound` is what one node needs; `Condition.nodeAt?` is the node at a
  place, and `Condition.Sound` says that all nodes are locally sound.
- **Trees.** `Condition.Reads` relates a document to the condition that it stands for.
- **Defects.** `Condition.Defect` gives the error of the first check that a node fails;
  `Json.HasKind` is the kind of document that an error says was found.
-/

namespace GraphFilter

/-- The fields that a rule requires, in the order in which they are checked. -/
def Rule.fields : Rule → List Condition.Field
  | .ofType => [.type]
  | .matchProperty => [.property, .value]
  | .all | .any => [.filters]

/-- Whether the nodes of a rule combine filters. -/
def Rule.isCombinator : Rule → Bool
  | .ofType | .matchProperty => false
  | .all | .any => true

theorem Rule.name_injective {rule other : Rule} (h : rule.name = other.name) : rule = other := by
  have hsome : some rule = some other := by
    rw [← ofName?_name rule, h, ofName?_name]
  exact Option.some.inj hsome

theorem Rule.name_of_ofName? {name : String} {rule : Rule} (h : ofName? name = some rule) :
    rule.name = name := by
  unfold ofName? at h
  split at h
  · rw [← Option.some.inj h, name]
  · rw [← Option.some.inj h, name]
  · rw [← Option.some.inj h, name]
  · rw [← Option.some.inj h, name]
  · exact nomatch h

theorem Rule.name_ne_of_ofName?_eq_none {name : String} (h : ofName? name = none) (rule : Rule) :
    rule.name ≠ name := by
  rintro rfl
  rw [ofName?_name] at h
  exact nomatch h

theorem Rule.name_ne_empty (rule : Rule) : rule.name ≠ "" := by
  cases rule <;> decide

/-- The document is of the kind; of the strings the empty one is a kind of its own. -/
inductive Json.HasKind : Json → Json.Kind → Prop
  | null : HasKind .null .null
  | boolean (b : Bool) : HasKind (.bool b) .boolean
  | number (n : Json.Number) : HasKind (.number n) .number
  | emptyString : HasKind (.string "") .emptyString
  | string {s : String} : s ≠ "" → HasKind (.string s) .string
  | array (items : List Json) : HasKind (.array items) .array
  | object (members : List (String × Json)) : HasKind (.object members) .object

theorem Json.hasKind_string_of_isEmpty {s : String} (h : s.isEmpty = true) :
    (Json.string s).HasKind .emptyString := by
  obtain rfl := String.isEmpty_iff.mp h
  exact .emptyString

theorem Json.hasKind_kind (j : Json) : j.HasKind j.kind := by
  cases j with
  | null => exact .null
  | bool b => exact .boolean b
  | number n => exact .number n
  | string s =>
    show HasKind _ (if s.isEmpty then _ else _)
    by_cases hempty : s.isEmpty = true
    · rw [if_pos hempty]
      exact hasKind_string_of_isEmpty hempty
    · rw [if_neg hempty]
      exact .string (by simpa using hempty)
  | array items => exact .array items
  | object members => exact .object members

namespace Condition

/-! ## Nodes -/

/-- Whether a field may hold a document. -/
def Field.accepts : Field → Json → Bool
  | .type, .string name => !name.isEmpty
  | .property, .string _ => true
  | .value, _ => true
  | .filters, .array _ => true
  | _, _ => false

/-- The node is an object that names a rule. -/
def HasRule (node : Json) (rule : Rule) : Prop :=
  node.member? "rule" = some (.string rule.name)

/-- The node has a field, and the field holds what it may. -/
def HasField (node : Json) (field : Field) : Prop :=
  ∃ held, node.member? field.name = some held ∧ field.accepts held = true

/-- The node has a rule and every field that the rule requires; other members do not matter. -/
def LocallySound (node : Json) : Prop :=
  ∃ rule, HasRule node rule ∧ ∀ field ∈ rule.fields, HasField node field

/-- The elements of the filters of an `all` or `any` node. -/
def filterItems (node : Json) : List Json :=
  match node.member? "rule", node.member? Field.filters.name with
  | some (.string name), some (.array items) =>
    if name = Rule.all.name ∨ name = Rule.any.name then items else []
  | _, _ => []

/-- The node at a place, reached from the root by its filters. -/
def nodeAt? (root : Json) : List Nat → Option Json
  | [] => some root
  | index :: rest => (filterItems root)[index]?.bind fun item => nodeAt? item rest

/-- Every node of the document is locally sound. -/
def Sound (root : Json) : Prop :=
  ∀ place node, nodeAt? root place = some node → LocallySound node

variable {node : Json} {rule : Rule}

theorem HasRule.unique {other : Rule} (h : HasRule node rule) (hother : HasRule node other) :
    rule = other := by
  unfold HasRule at h hother
  rw [h] at hother
  exact Rule.name_injective (Json.string.inj (Option.some.inj hother))

/-- A leaf has no filters, whatever its members are called. -/
theorem filterItems_of_leaf (hrule : HasRule node rule) (hleaf : rule.isCombinator = false) :
    filterItems node = [] := by
  have hname : ¬ (rule.name = Rule.all.name ∨ rule.name = Rule.any.name) := by
    rintro (hall | hany)
    · rw [Rule.name_injective hall] at hleaf
      exact nomatch hleaf
    · rw [Rule.name_injective hany] at hleaf
      exact nomatch hleaf
  unfold HasRule at hrule
  unfold filterItems
  rw [hrule]
  cases node.member? Field.filters.name with
  | none => rfl
  | some held =>
    cases held with
    | array items => exact if_neg hname
    | _ => rfl

theorem filterItems_of_combinator {items : List Json} (hrule : HasRule node rule)
    (hcombinator : rule.isCombinator = true)
    (hitems : node.member? Field.filters.name = some (.array items)) : filterItems node = items := by
  unfold HasRule at hrule
  unfold filterItems
  rw [hrule, hitems]
  cases rule with
  | ofType => exact nomatch hcombinator
  | matchProperty => exact nomatch hcombinator
  | all => exact if_pos (Or.inl rfl)
  | any => exact if_pos (Or.inr rfl)

/-- A document is sound if its root is and the filters of the root are. -/
theorem sound_iff : Sound node ↔ LocallySound node ∧ ∀ item ∈ filterItems node, Sound item := by
  constructor
  · intro hsound
    refine ⟨hsound [] node rfl, ?_⟩
    intro item hitem place inner hinner
    obtain ⟨index, hindex⟩ := List.mem_iff_getElem?.mp hitem
    refine hsound (index :: place) inner ?_
    unfold nodeAt?
    rw [hindex, Option.bind_some]
    exact hinner
  · rintro ⟨hroot, hitems⟩ place inner hinner
    cases place with
    | nil =>
      obtain rfl := Option.some.inj hinner
      exact hroot
    | cons index rest =>
      obtain ⟨item, hitem, hbelow⟩ := Option.bind_eq_some_iff.mp hinner
      exact hitems item (List.mem_of_getElem? hitem) rest inner hbelow

theorem sizeOf_lt_of_member? {held : Json} {key : String} (h : node.member? key = some held) :
    sizeOf held < sizeOf node := by
  cases node with
  | object members =>
    have hmember : sizeOf (key, held) < sizeOf members :=
      List.sizeOf_lt_of_mem (mem_of_lookupEntry h)
    rw [Prod.mk.sizeOf_spec] at hmember
    rw [Json.object.sizeOf_spec]
    omega
  | _ => exact nomatch h

/-- The filters of a node are smaller than the node. -/
theorem sizeOf_lt_of_mem_filterItems {item : Json} (h : item ∈ filterItems node) :
    sizeOf item < sizeOf node := by
  unfold filterItems at h
  split at h
  · next name items _ hfilters =>
    have hfilters := sizeOf_lt_of_member? hfilters
    rw [Json.array.sizeOf_spec] at hfilters
    split at h
    · have hitem := List.sizeOf_lt_of_mem h
      omega
    · exact absurd h List.not_mem_nil
  · exact absurd h List.not_mem_nil

/-- What holds of a node when it holds of its filters holds of every document. -/
theorem node_induction {motive : Json → Prop}
    (step : ∀ node, (∀ item ∈ filterItems node, motive item) → motive node) (node : Json) :
    motive node :=
  step node fun item _ => node_induction step item
termination_by sizeOf node
decreasing_by exact sizeOf_lt_of_mem_filterItems ‹_›

/-! ## Trees -/

/-- The document stands for the condition: the same rules in the same shape, the names as they are
    and the values converted. -/
inductive Reads : Json → Condition → Prop
  | ofType {node : Json} {name : String} : HasRule node .ofType →
    node.member? Field.type.name = some (.string name) → Reads node (.ofType name)
  | matchProperty {node value : Json} {property : String} : HasRule node .matchProperty →
    node.member? Field.property.name = some (.string property) →
    node.member? Field.value.name = some value →
    Reads node (.matchProperty property (.ofJson value))
  | all {node : Json} {items : List Json} {filters : List Condition} : HasRule node .all →
    node.member? Field.filters.name = some (.array items) → List.Forall₂ Reads items filters →
    Reads node (.all filters)
  | any {node : Json} {items : List Json} {filters : List Condition} : HasRule node .any →
    node.member? Field.filters.name = some (.array items) → List.Forall₂ Reads items filters →
    Reads node (.any filters)

/-! ## Defects -/

/-- What a field must hold, in words. -/
def Field.expected : Field → String
  | .type => "a non-empty string"
  | .property => "a string"
  | .value => "any value"
  | .filters => "an array"

/-- The first check that a node fails, and its error: the node has to be an object, then it needs a
    rule that is known, then one field after the other. -/
inductive Defect (path : Path) (node : Json) : Error → Prop
  | notAnObject {found : Json.Kind} : (∀ members, node ≠ .object members) → node.HasKind found →
    Defect path node (.notAnObject path found)
  | missingRule {members : List (String × Json)} : node = .object members →
    node.member? "rule" = none → Defect path node (.missingRule path)
  | invalidRule {held : Json} {found : Json.Kind} : node.member? "rule" = some held →
    (∀ name, held = .string name → name = "") → held.HasKind found →
    Defect path node (.invalidRule path found)
  | unknownRule {name : String} : node.member? "rule" = some (.string name) → name ≠ "" →
    (∀ rule : Rule, rule.name ≠ name) → Defect path node (.unknownRule path name)
  | missingField {rule : Rule} {field : Field} {before after : List Field} : HasRule node rule →
    rule.fields = before ++ field :: after → (∀ earlier ∈ before, HasField node earlier) →
    node.member? field.name = none →
    Defect path node (.missingField path rule field field.expected)
  | invalidField {rule : Rule} {field : Field} {before after : List Field} {held : Json}
      {found : Json.Kind} : HasRule node rule → rule.fields = before ++ field :: after →
    (∀ earlier ∈ before, HasField node earlier) → node.member? field.name = some held →
    field.accepts held = false → held.HasKind found →
    Defect path node (.invalidField path rule field field.expected found)

namespace Defect

variable {path : Path} {e : Error}

/-- The error says where the node is. -/
theorem path? (h : Defect path node e) : e.path? = some path := by
  cases h <;> rfl

/-- A node with a defect is not sound. -/
theorem not_locallySound (h : Defect path node e) : ¬ LocallySound node := by
  rintro ⟨rule, hrule, hfields⟩
  cases h with
  | notAnObject hobject _ =>
    cases node with
    | object members => exact hobject members rfl
    | _ => exact nomatch hrule
  | missingRule _ hmissing => exact nomatch hmissing.symm.trans hrule
  | invalidRule hheld hname _ =>
    obtain rfl := Option.some.inj (hheld.symm.trans hrule)
    exact rule.name_ne_empty (hname _ rfl)
  | unknownRule hheld _ hunknown =>
    have hname := Json.string.inj (Option.some.inj (hheld.symm.trans hrule))
    exact hunknown rule hname.symm
  | @missingField rule' field before after hrule' hsplit _ hmissing =>
    obtain rfl := hrule'.unique hrule
    obtain ⟨held, hheld, -⟩ := hfields field (by rw [hsplit]; simp)
    exact nomatch hmissing.symm.trans hheld
  | @invalidField rule' field before after held _ hrule' hsplit _ hheld hrefused _ =>
    obtain rfl := hrule'.unique hrule
    obtain ⟨other, hother, haccepted⟩ := hfields field (by rw [hsplit]; simp)
    obtain rfl := Option.some.inj (hheld.symm.trans hother)
    exact nomatch hrefused.symm.trans haccepted

end Defect

end Condition

end GraphFilter
