import GraphFilter.Proofs.Query.Building
import GraphFilter.Proofs.Query.KeyNames

/-!
# `GraphFilter.Proofs.Query.Bindings` — every parameter is bound once and referred to once

Compiling starts from any set of parameters and adds to it. What it adds is what the text of the
clause refers to: no parameter is bound that the text leaves out, none is referred to twice, and no
binding that was there before is touched.

## Contents
- **Keys of a dictionary.** `keys_insert_perm`.
- **Bindings.** `Binds`: from one set of parameters to another, exactly some keys were added. A step
  adds the key that it allocates, and two runs one after the other add the keys of both.
- **Builds.** `buildFrom_binds`: a build adds the keys of its clause.
- **Counting.** `Clause.Mirrors.length_keys`: how many keys a clause refers to.
- **Texts.** `RefersTo`: a text holds a placeholder for each of some keys, in their order.
- **Main result.** `buildFrom_binds_what_it_refers_to`.
-/

namespace GraphFilter

/-! ## Keys of a dictionary -/

namespace Dict

variable {α : Type}

theorem keys_insert_perm {d : Dict α} {key : String} (value : α) (h : d.contains key = false) :
    (d.insert key value).keys.Perm (key :: d.keys) := by
  have hnew : key ∉ d.entries.map Prod.fst := by
    intro hmem
    have htaken : d.contains key = true := contains_iff_mem_keys.mpr hmem
    rw [h] at htaken
    exact Bool.false_ne_true htaken
  exact (insertEntry_perm hnew).map Prod.fst

end Dict

namespace Query

/-! ## Bindings -/

/-- Exactly these keys were added, all of them identifiers, and all bindings from before are
    there. -/
structure Binds (before after : Parameters) (keys : List String) : Prop where
  extends_before : after.Extends before
  keys_perm : after.keys.Perm (keys ++ before.keys)
  identifiers : ∀ key ∈ keys, Text.isIdentifier key = true

namespace Binds

variable {before middle after : Parameters} {keys later : List String}

theorem refl (parameters : Parameters) : Binds parameters parameters [] where
  extends_before := Dict.Extends.refl parameters
  keys_perm := List.Perm.refl _
  identifiers := by
    intro key hkey
    exact absurd hkey List.not_mem_nil

/-- Binding an allocated name adds that name. -/
theorem insert_allocate (parameters : Parameters) {base : String}
    (h : Text.isIdentifier base = true) (value : Value) :
    Binds parameters (parameters.insert (parameters.allocate base) value)
      [parameters.allocate base] where
  extends_before := parameters.extends_insert_allocate base value
  keys_perm := Dict.keys_insert_perm value (parameters.contains_allocate base)
  identifiers := by
    intro key hkey
    rw [List.mem_singleton.mp hkey]
    exact isIdentifier_allocate parameters h

/-- Of two runs, one on top of the other, the keys add up. -/
theorem append (hfirst : Binds before middle keys) (hsecond : Binds middle after later) :
    Binds before after (keys ++ later) where
  extends_before := hsecond.extends_before.trans hfirst.extends_before
  keys_perm := by
    have hall : after.keys.Perm (later ++ (keys ++ before.keys)) :=
      hsecond.keys_perm.trans (hfirst.keys_perm.append_left later)
    have hswap : (later ++ keys).Perm (keys ++ later) := List.perm_append_comm
    rw [← List.append_assoc] at hall
    exact hall.trans (hswap.append_right before.keys)
  identifiers := by
    intro key hkey
    rcases List.mem_append.mp hkey with hkey | hkey
    · exact hfirst.identifiers key hkey
    · exact hsecond.identifiers key hkey

/-- The keys of a dictionary are distinct, so no key is added twice or was there before. -/
theorem nodup_append (h : Binds before after keys) : (keys ++ before.keys).Nodup :=
  h.keys_perm.nodup_iff.mp after.increasing.nodup_keys

theorem nodup (h : Binds before after keys) : keys.Nodup :=
  (List.nodup_append'.mp h.nodup_append).1

/-- The keys are those that are bound after and were free before. -/
theorem mem_iff (h : Binds before after keys) {key : String} :
    key ∈ keys ↔ after.contains key = true ∧ before.contains key = false := by
  rw [Bool.eq_false_iff, Ne, Dict.contains_iff_mem_keys, Dict.contains_iff_mem_keys,
    h.keys_perm.mem_iff, List.mem_append]
  have hdisjoint : key ∈ keys → key ∉ before.keys := by
    intro hkey hbefore
    exact (List.nodup_append'.mp h.nodup_append).2.2 hkey hbefore
  constructor
  · intro hkey
    exact ⟨Or.inl hkey, hdisjoint hkey⟩
  · rintro ⟨hafter, hbefore⟩
    exact hafter.resolve_right hbefore

theorem size_eq (h : Binds before after keys) : after.size = before.size + keys.length := by
  have hlength := h.keys_perm.length_eq
  unfold Dict.keys at hlength
  rw [List.length_append, List.length_map, List.length_map] at hlength
  unfold Dict.size
  omega

end Binds

/-! ## Builds -/

/-- The keys that the clause of a build refers to. -/
def Built.keys (built : Built) : List String :=
  Clause.keysOf built.clause.toList

namespace Compiler

variable {strategy : IdentifierStrategy}

theorem buildType_binds (name : String) (parameters : Parameters) :
    Binds parameters (buildType name parameters).parameters (buildType name parameters).keys :=
  Binds.insert_allocate parameters (by decide) _

/-- Naming a property binds its name, or nothing. -/
theorem buildAccess_binds {property : String} {parameters named : Parameters} {access : Access}
    (h : buildAccess strategy property parameters = .ok (access, named)) :
    Binds parameters named access.keys := by
  cases strategy with
  | dynamicKey =>
    obtain ⟨rfl, rfl⟩ := Prod.mk.inj (Except.ok.inj h)
    exact Binds.insert_allocate parameters (isIdentifier_parameterBase property) _
  | inline =>
    simp only [buildAccess] at h
    split at h
    · obtain ⟨rfl, rfl⟩ := Prod.mk.inj (Except.ok.inj h)
      exact Binds.refl parameters
    · cases h

theorem buildProperty_binds {property : String} {value : Value} {parameters : Parameters}
    {built : Built} (h : buildProperty strategy property value parameters = .ok built) :
    Binds parameters built.parameters built.keys := by
  obtain ⟨access, named, haccess, rfl⟩ := buildProperty_eq_ok.mp h
  have hvalue := Binds.insert_allocate named (isIdentifier_valueBase property) value
  have hboth := (buildAccess_binds haccess).append hvalue
  show Binds parameters _ ((access.keys ++ [_]) ++ [])
  rwa [List.append_nil]

/-- Filters built one after the other: what each of them adds comes on top of what the ones before
    it have added. -/
theorem buildParts_binds {filters : List Condition} {parameters after : Parameters}
    {parts : List Clause}
    (ih : ∀ f ∈ filters, ∀ {start built : Built}, buildFrom strategy f start = .ok built →
      Binds start.parameters built.parameters built.keys)
    (h : buildParts parameters (filters.map (buildFrom strategy)) = .ok (parts, after)) :
    Binds parameters after (Clause.keysOf parts) := by
  induction filters generalizing parameters parts with
  | nil =>
    obtain ⟨rfl, rfl⟩ := Prod.mk.inj (Except.ok.inj h)
    exact Binds.refl parameters
  | cons f rest ihrest =>
    obtain ⟨hf, hrest⟩ := List.forall_mem_cons.mp ih
    obtain ⟨built, hbuilt, later, hlater, rfl⟩ := buildParts_cons_eq_ok.mp h
    have hboth := (hf hbuilt).append (ihrest hrest hlater)
    rw [Clause.keysOf_eq_flatMap, List.flatMap_append, ← Clause.keysOf_eq_flatMap,
      ← Clause.keysOf_eq_flatMap]
    exact hboth

/-- A group refers to what its parts refer to, also when it has none and is no clause. -/
theorem keys_group (op : Connective) (parts : List Clause) (after : Parameters) :
    (Built.mk (if parts.isEmpty then none else some (.group op parts)) after).keys =
      Clause.keysOf parts := by
  cases parts with
  | nil => rfl
  | cons part rest =>
    show Clause.keysOf (part :: rest) ++ [] = Clause.keysOf (part :: rest)
    rw [List.append_nil]

theorem buildGroup_binds {op : Connective} {filters : List Condition} {start built : Built}
    (ih : ∀ f ∈ filters, ∀ {start built : Built}, buildFrom strategy f start = .ok built →
      Binds start.parameters built.parameters built.keys)
    (h : buildGroup op (filters.map (buildFrom strategy)) start = .ok built) :
    Binds start.parameters built.parameters built.keys := by
  obtain ⟨parts, after, hparts, rfl⟩ := buildGroup_eq_ok.mp h
  rw [keys_group]
  exact buildParts_binds ih hparts

/-- **A build adds the keys that its clause refers to, and no others.** -/
theorem buildFrom_binds {c : Condition} {start built : Built}
    (h : buildFrom strategy c start = .ok built) :
    Binds start.parameters built.parameters built.keys := by
  induction c generalizing start built with
  | ofType name =>
    obtain rfl := Except.ok.inj h
    exact buildType_binds name start.parameters
  | matchProperty property value => exact buildProperty_binds h
  | all filters ih =>
    rw [buildFrom_all] at h
    exact buildGroup_binds ih h
  | any filters ih =>
    rw [buildFrom_any] at h
    exact buildGroup_binds ih h

end Compiler

end Query

/-! ## Counting -/

namespace Condition

/-- Whether a leaf asks for a type. -/
def Leaf.isType : Leaf → Bool
  | .ofType _ => true
  | .matchProperty _ _ => false

/-- The number of leaves that ask for a type. -/
def typeLeaves (c : Condition) : Nat :=
  c.leaves.countP Leaf.isType

/-- The number of leaves that ask for a property. -/
def propertyLeaves (c : Condition) : Nat :=
  c.leaves.countP fun leaf => !leaf.isType

end Condition

/-- The number of parameters that a test of a property takes: one for the value, and one for the
    name unless it stands in the text. -/
def IdentifierStrategy.keysPerProperty : IdentifierStrategy → Nat
  | .dynamicKey => 2
  | .inline => 1

namespace Query

/-- The number of parameters that some leaves take. -/
def keysFor (strategy : IdentifierStrategy) (leaves : List Condition.Leaf) : Nat :=
  leaves.countP Condition.Leaf.isType +
    strategy.keysPerProperty * leaves.countP fun leaf => !leaf.isType

variable {strategy : IdentifierStrategy} {parameters : Parameters}

@[simp] theorem keysFor_nil : keysFor strategy [] = 0 := by
  simp [keysFor]

theorem keysFor_append (leaves later : List Condition.Leaf) :
    keysFor strategy (leaves ++ later) = keysFor strategy leaves + keysFor strategy later := by
  unfold keysFor
  rw [List.countP_append, List.countP_append, Nat.mul_add]
  omega

theorem Access.Names.length_keys {property : String} {access : Access}
    (h : access.Names strategy parameters property) :
    access.keys.length + 1 = strategy.keysPerProperty := by
  cases h with
  | bound hstrategy _ =>
    rw [hstrategy]
    rfl
  | inline hstrategy =>
    rw [hstrategy]
    rfl

/-- The parts of a group refer to as many keys as its filters take. -/
theorem length_keysOf {filters : List Condition} {parts : List Clause}
    (h : List.Forall₂ (fun f part => part.keys.length = keysFor strategy f.leaves) filters parts) :
    (Clause.keysOf parts).length = keysFor strategy (Condition.leavesOf filters) := by
  induction h with
  | nil => exact keysFor_nil.symm
  | cons hpart _ ih =>
    unfold Clause.keysOf Condition.leavesOf
    rw [List.length_append, keysFor_append, hpart, ih]

theorem Clause.Mirrors.length_keys {c : Condition} {clause : Clause}
    (h : Clause.Mirrors strategy parameters c clause) :
    clause.keys.length = keysFor strategy c.leaves := by
  induction c generalizing clause with
  | ofType name =>
    cases h with
    | hasType _ => rfl
  | matchProperty property value =>
    cases h with
    | @property _ key _ access hnames _ =>
      show (access.keys ++ [key]).length = 0 + strategy.keysPerProperty * 1
      rw [List.length_append, List.length_singleton, hnames.length_keys]
      omega
  | all filters ih =>
    cases h with
    | and hparts => exact length_keysOf (forall₂_imp_of_mem (fun f hf _ => ih f hf) hparts)
  | any filters ih =>
    cases h with
    | or hparts => exact length_keysOf (forall₂_imp_of_mem (fun f hf _ => ih f hf) hparts)

/-- A build refers to one key for each type and one or two for each property. -/
theorem Compiles.length_keys {c : Condition} {start : Parameters} {built : Built}
    (h : Compiles strategy c start built) :
    built.keys.length = c.typeLeaves + strategy.keysPerProperty * c.propertyLeaves := by
  show built.keys.length = keysFor strategy c.leaves
  cases hbare : c.isBare with
  | true =>
    unfold Built.keys
    rw [h.clause_of_isBare hbare, Condition.isBare_iff_leaves.mp hbare]
    exact keysFor_nil.symm
  | false =>
    obtain ⟨clause, hclause, hmirrors⟩ := h.clause_of_not_isBare hbare
    unfold Built.keys
    rw [hclause, ← Condition.leaves_prune c, ← hmirrors.length_keys]
    show (clause.keys ++ []).length = clause.keys.length
    rw [List.append_nil]

/-! ## Texts -/

/-- The text has a placeholder for each of the keys, in their order, and no others. -/
inductive Refers (k : Compiler) : String → List String → Prop
  | label {key : String} : k.kind = .node →
      Refers k (k.dialect.hasLabel k.binder (k.dialect.placeholder key)) [key]
  | type {key : String} : k.kind = .edge →
      Refers k (k.dialect.hasType k.binder (k.dialect.placeholder key)) [key]
  | bound {nameKey key : String} :
      Refers k (k.dialect.dynamicProperty k.binder (k.dialect.placeholder nameKey) ++ " = " ++
        k.dialect.placeholder key) [nameKey, key]
  | inline {property key : String} :
      Refers k (k.dialect.inlineProperty k.binder property ++ " = " ++ k.dialect.placeholder key)
        [key]
  | group {op : Connective} {texts : List String} {keys : List (List String)} :
      List.Forall₂ (Refers k) texts keys →
      Refers k ("(" ++ String.intercalate (" " ++ op.word ++ " ") texts ++ ")") keys.flatten

/-- The fragment of a predicate refers to the keys; where there is none, there are no keys. -/
def Predicate.RefersTo (k : Compiler) (p : Predicate) (keys : List String) : Prop :=
  match p.fragment with
  | some text => Refers k text keys
  | none => keys = []

variable {k : Compiler}

theorem refers_typeTest (key : String) :
    Refers k (Clause.typeTest k.dialect k.kind k.binder key) [key] := by
  cases hkind : k.kind with
  | node => exact Refers.label hkind
  | edge => exact Refers.type hkind

theorem refers_property (access : Access) (key : String) :
    Refers k (access.render k.dialect k.binder ++ " = " ++ k.dialect.placeholder key)
      (access.keys ++ [key]) := by
  cases access with
  | bound nameKey => exact Refers.bound
  | inline property => exact Refers.inline

/-- A group of parts that refer to their keys refers to the keys of all of them. -/
theorem refers_group (op : Connective) {parts : List Clause}
    (h : ∀ part ∈ parts, Refers k (part.render k.dialect k.kind k.binder) part.keys) :
    Refers k ((Clause.group op parts).render k.dialect k.kind k.binder)
      (Clause.group op parts).keys := by
  show Refers k ("(" ++ _ ++ ")") (Clause.keysOf parts)
  rw [Clause.renderEach_eq_map, Clause.keysOf_eq_flatMap, List.flatMap_def]
  refine Refers.group ?_
  rw [List.forall₂_map_left_iff, List.forall₂_map_right_iff, List.forall₂_same]
  exact h

/-- The text of a clause refers to the keys of the clause. -/
theorem Clause.refers (clause : Clause) :
    Refers k (clause.render k.dialect k.kind k.binder) clause.keys := by
  induction clause with
  | hasType key => exact refers_typeTest key
  | property access key => exact refers_property access key
  | group op parts ih => exact refers_group op ih

theorem Built.refersTo (built : Built) : (k.render built).RefersTo k built.keys := by
  unfold Predicate.RefersTo Compiler.render Built.keys
  cases built.clause with
  | none => rfl
  | some clause =>
    show Refers k (clause.render k.dialect k.kind k.binder) (clause.keys ++ [])
    rw [List.append_nil]
    exact clause.refers

/-! ## Main result -/

/-- **What compiling binds is what the text refers to.** On top of any parameters, a successful
    build keeps every binding and adds one key for each leaf that asks for a type and one or two for
    each that asks for a property. The keys are identifiers, and they are exactly those that the
    text has placeholders for, each in one place. -/
theorem buildFrom_binds_what_it_refers_to (k : Compiler) {c : Condition} {start built : Built}
    (h : Compiler.buildFrom k.strategy c start = .ok built) :
    (∀ key value, start.parameters.get? key = some value →
      built.parameters.get? key = some value) ∧
    ∃ keys, (k.render built).RefersTo k keys ∧ keys.Nodup ∧
      (∀ key, key ∈ keys ↔
        built.parameters.contains key = true ∧ start.parameters.contains key = false) ∧
      built.parameters.size = start.parameters.size + keys.length ∧
      keys.length = c.typeLeaves + k.strategy.keysPerProperty * c.propertyLeaves ∧
      ∀ key ∈ keys, Text.isIdentifier key = true := by
  have hbinds := Compiler.buildFrom_binds h
  have hcompiles := Compiler.buildFrom_compiles h
  exact ⟨hbinds.extends_before, built.keys, built.refersTo, hbinds.nodup,
    fun key => hbinds.mem_iff, hbinds.size_eq, hcompiles.length_keys, hbinds.identifiers⟩

/-- Parameters with names like those that a build gives out. -/
def lookalikes : Parameters :=
  .ofList [("type", .int 1), ("p_", .int 2), ("__1", .null)]

/-- Tests of properties whose names hold no letter of an identifier. -/
def namelessTests : Condition :=
  .any [.matchProperty "" (.int 3), .ofType "Person",
    .all [.matchProperty "\u00e9" (.int 4), .any []], .matchProperty "9" .null]

/-- Nameless properties on top of lookalikes: everything has a name of its own. -/
theorem buildFrom_binds_namelessTests :
    ∃ built, Compiler.buildFrom .dynamicKey namelessTests ⟨none, lookalikes⟩ = .ok built ∧
      (Compiler.render { kind := .node } built).fragment =
        some ("(n[$p__1] = $p__value OR $type_1 IN labels(n) OR " ++
          "(n[$_] = $__value) OR n[$p_9] = $p_9_value)") ∧
      built.parameters.get? "type" = some (.int 1) ∧
      ∃ keys, (Compiler.render { kind := .node } built).RefersTo { kind := .node } keys ∧
        keys.Nodup ∧ built.parameters.size = 3 + keys.length ∧ keys.length = 1 + 2 * 3 := by
  have hbuild : Compiler.buildFrom .dynamicKey namelessTests ⟨none, lookalikes⟩ = .ok _ := rfl
  refine ⟨_, hbuild, rfl, ?_⟩
  obtain ⟨hkept, keys, hrefers, hnodup, -, hsize, hlength, -⟩ :=
    buildFrom_binds_what_it_refers_to { kind := .node } hbuild
  exact ⟨hkept "type" _ rfl, keys, hrefers, hnodup, hsize, hlength⟩

end Query

end GraphFilter
