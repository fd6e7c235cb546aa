import GraphFilter.Proofs.Query.Bindings
import GraphFilter.Proofs.Query.OneReading

/-!
# `GraphFilter.Proofs.Query.Reading` — what a store makes of a text

A store has no clauses. It is given a text and parameters, and it finds out about every entity
whether the text holds of it. `ReadsAs` says how it reads a text: a test of a label or of a type, a
test of a property, or a group of texts between parentheses. A clause is rendered to a text that is
read as the clause holds, and in Cypher there is no other way to read that text.

## Contents
- **Texts.** `NamesProperty`, `ReadsAs`, and `Predicate.ReadsAs` where there may be no text.
- **Tests.** One equation per kind of clause for `Clause.holds`; `Clause.holds_settled`.
- **Rendering.** `Clause.Mirrors.readsAs`: what is rendered is read as it holds.
- **Reading back.** `ReadsAs.exists_clause` finds a clause behind every text that can be read, and
  `ReadsAs.eq_holds` says that it holds of the same entities as the one that was rendered.
- **Builds.** `Compiler.render_readsAs` and `Compiler.eq_holds_of_readsAs`.
-/

namespace GraphFilter.Query

variable {E : Type} [Entity E] {d : Dialect} {binder : String} {parameters : Parameters} {e : E}

/-! ## Texts -/

/-- The phrase names a property of the entity that the binder stands for: by a parameter that holds
    the name, or by the name itself if that is an identifier. -/
inductive NamesProperty (d : Dialect) (binder : String) (parameters : Parameters)
    (property : String) : String → Prop
  | bound {key : String} : parameters.get? key = some (.string property) →
      NamesProperty d binder parameters property (d.dynamicProperty binder (d.placeholder key))
  | inline : Text.isIdentifier property = true →
      NamesProperty d binder parameters property (d.inlineProperty binder property)

/-- What a text says of the entity that the binder stands for. The kind of the entity decides
    between the test of a label and the test of a type. A property has to be there and to be
    strictly equal to the value of the parameter. A group is a conjunction or a disjunction; an
    empty one, which could be either, is not read. -/
inductive ReadsAs (d : Dialect) (binder : String) (parameters : Parameters) (e : E) :
    String → Bool → Prop
  | label {key name : String} : Entity.kind E = .node →
      parameters.get? key = some (.string name) →
      ReadsAs d binder parameters e (d.hasLabel binder (d.placeholder key))
        (Entity.hasType e name)
  | type {key name : String} : Entity.kind E = .edge →
      parameters.get? key = some (.string name) →
      ReadsAs d binder parameters e (d.hasType binder (d.placeholder key)) (Entity.hasType e name)
  | property {property phrase key : String} {value : Value} :
      NamesProperty d binder parameters property phrase → parameters.get? key = some value →
      ReadsAs d binder parameters e (phrase ++ " = " ++ d.placeholder key)
        ((Entity.property? e property).any fun found => found.strictEq value)
  | and {parts : List (String × Bool)} : parts ≠ [] →
      (∀ part ∈ parts, ReadsAs d binder parameters e part.1 part.2) →
      ReadsAs d binder parameters e
        ("(" ++ String.intercalate " AND " (parts.map Prod.fst) ++ ")") (parts.all Prod.snd)
  | or {parts : List (String × Bool)} : parts ≠ [] →
      (∀ part ∈ parts, ReadsAs d binder parameters e part.1 part.2) →
      ReadsAs d binder parameters e
        ("(" ++ String.intercalate " OR " (parts.map Prod.fst) ++ ")") (parts.any Prod.snd)

/-- What a predicate says of an entity. Without a text it lets everything through. -/
inductive Predicate.ReadsAs (d : Dialect) (binder : String) (e : E) : Predicate → Bool → Prop
  | unconstrained {parameters : Parameters} : ReadsAs d binder e ⟨none, parameters⟩ true
  | constrained {text : String} {parameters : Parameters} {truth : Bool} :
      Query.ReadsAs d binder parameters e text truth →
      ReadsAs d binder e ⟨some text, parameters⟩ truth

/-! ## Tests -/

theorem Access.Names.property?_eq {strategy : IdentifierStrategy} {property : String}
    {access : Access} (h : access.Names strategy parameters property) :
    access.property? parameters = some property := by
  cases h with
  | bound _ hbound => simp [Access.property?, Parameters.text?, hbound]
  | inline _ => rfl

/-- What the truth values of the parts of a group come to. -/
def Connective.join (op : Connective) (truths : List Bool) : Bool :=
  match op with
  | .and => truths.all id
  | .or => truths.any id

/-- A lone truth value is joined to itself. -/
theorem Connective.join_lone {truths : List Bool} (h : truths.length = 1) (op other : Connective) :
    op.join truths = other.join truths := by
  obtain ⟨truth, rfl⟩ := List.length_eq_one_iff.mp h
  cases op <;> cases other <;> simp [join]

namespace Clause

theorem holds_hasType {key name : String} (h : parameters.get? key = some (.string name)) :
    (hasType key).holds parameters e = Entity.hasType e name := by
  simp [holds, Parameters.text?, h]

theorem holds_property {access : Access} {property key : String} {value : Value}
    (hnamed : access.property? parameters = some property)
    (hbound : parameters.get? key = some value) :
    (Clause.property access key).holds parameters e =
      (Entity.property? e property).any fun found => found.strictEq value := by
  rw [holds, testsEqual, hnamed, hbound, Option.bind_some]
  cases Entity.property? e property <;> rfl

theorem holds_group (op : Connective) (parts : List Clause) :
    (group op parts).holds parameters e = op.join (parts.map (holds parameters e)) := by
  cases op with
  | and =>
    rw [holds, allHold_eq_all, Connective.join, List.all_map]
    rfl
  | or =>
    rw [holds, someHold_eq_any, Connective.join, List.any_map]
    rfl

/-- Settling lone parts changes nothing about the entities that a clause holds of. -/
theorem holds_settled (clause : Clause) :
    clause.settled.holds parameters e = clause.holds parameters e := by
  induction clause with
  | hasType key => rfl
  | property access key => rfl
  | group op parts ih =>
    have hparts : (parts.map settled).map (holds parameters e) =
        parts.map (holds parameters e) := by
      rw [List.map_map]
      exact List.map_congr_left ih
    rw [settled, settledParts_eq_map, holds_group, holds_group, hparts]
    by_cases hlone : parts.length = 1
    · rw [if_pos hlone]
      apply Connective.join_lone
      rw [List.length_map, hlone]
    · rw [if_neg hlone]

end Clause

/-! ## Rendering -/

variable {strategy : IdentifierStrategy}

theorem Access.Names.namesProperty {property : String} {access : Access}
    (h : access.Names strategy parameters property)
    (hword : Text.isIdentifier access.word = true) :
    NamesProperty d binder parameters property (access.render d binder) := by
  cases h with
  | bound _ hbound => exact .bound hbound
  | inline _ => exact .inline hword

/-- Texts that are read are joined to a text that is read. -/
theorem ReadsAs.joined (op : Connective) {parts : List (String × Bool)} (hsome : parts ≠ [])
    (h : ∀ part ∈ parts, ReadsAs d binder parameters e part.1 part.2) :
    ReadsAs d binder parameters e
      ("(" ++ String.intercalate (" " ++ op.word ++ " ") (parts.map Prod.fst) ++ ")")
      (op.join (parts.map Prod.snd)) := by
  cases op with
  | and =>
    rw [Connective.join, List.all_map]
    exact .and hsome h
  | or =>
    rw [Connective.join, List.any_map]
    exact .or hsome h

/-- A group is read part by part. -/
theorem ReadsAs.group (op : Connective) {parts : List Clause} (hsome : parts ≠ [])
    (h : ∀ part ∈ parts, ReadsAs d binder parameters e (part.render d (Entity.kind E) binder)
      (part.holds parameters e)) :
    ReadsAs d binder parameters e ((Clause.group op parts).render d (Entity.kind E) binder)
      ((Clause.group op parts).holds parameters e) := by
  let read (part : Clause) : String × Bool :=
    (part.render d (Entity.kind E) binder, part.holds parameters e)
  have htexts : (parts.map read).map Prod.fst =
      parts.map (Clause.render d (Entity.kind E) binder) := List.map_map
  have htruths : (parts.map read).map Prod.snd = parts.map (Clause.holds parameters e) :=
    List.map_map
  rw [Clause.render, Clause.renderEach_eq_map, Clause.holds_group, ← htexts, ← htruths]
  apply ReadsAs.joined op
  · simpa using hsome
  · exact List.forall_mem_map.mpr h

/-- An element of the second of two related lists is related to one of the first. -/
theorem exists_of_forall₂_of_mem {α β : Type} {R : α → β → Prop} {as : List α} {bs : List β}
    (h : List.Forall₂ R as bs) {b : β} (hb : b ∈ bs) : ∃ a, R a b := by
  induction h with
  | nil => exact absurd hb List.not_mem_nil
  | cons hab _ ih =>
    rcases List.mem_cons.mp hb with rfl | hlater
    · exact ⟨_, hab⟩
    · exact ih hlater

/-- **What is rendered is read as it holds,** in any dialect, of the entities of the kind that it is
    rendered for. -/
theorem Clause.Mirrors.readsAs {c : Condition} {clause : Clause} (hlegible : clause.Legible)
    (h : Clause.Mirrors strategy parameters c clause) :
    ReadsAs d binder parameters e (clause.render d (Entity.kind E) binder)
      (clause.holds parameters e) := by
  induction hlegible generalizing c with
  | hasType _ =>
    cases h with
    | hasType hbound =>
      rw [render, holds_hasType hbound]
      cases hkind : Entity.kind E with
      | node => exact .label hkind hbound
      | edge => exact .type hkind hbound
  | property hword _ =>
    cases h with
    | property hnames hbound =>
      rw [render, holds_property hnames.property?_eq hbound]
      exact .property (hnames.namesProperty hword) hbound
  | group hsome _ ih =>
    apply ReadsAs.group _ hsome
    intro part hpart
    cases h with
    | and hparts | or hparts =>
      obtain ⟨f, hmirrors⟩ := exists_of_forall₂_of_mem hparts hpart
      exact ih part hpart hmirrors

/-! ## Reading back -/

/-- What names a property is an access to it. -/
theorem NamesProperty.exists_access {property phrase : String}
    (hkeys : ∀ key ∈ parameters.keys, Text.isIdentifier key = true)
    (h : NamesProperty d binder parameters property phrase) :
    ∃ access : Access, Text.isIdentifier access.word = true ∧
      access.property? parameters = some property ∧ access.render d binder = phrase := by
  cases h with
  | @bound key hbound =>
    refine ⟨.bound key, hkeys key (Dict.mem_keys_of_get? hbound), ?_, rfl⟩
    simp [Access.property?, Parameters.text?, hbound]
  | inline hidentifier => exact ⟨.inline property, hidentifier, rfl, rfl⟩

/-- Parts that are texts of clauses are joined to the text of a group. -/
theorem exists_group (op : Connective) {parts : List (String × Bool)} (hsome : parts ≠ [])
    (h : ∀ part ∈ parts, ∃ clause : Clause, clause.Legible ∧
      clause.render d (Entity.kind E) binder = part.1 ∧ clause.holds parameters e = part.2) :
    ∃ clause : Clause, clause.Legible ∧
      clause.render d (Entity.kind E) binder =
        "(" ++ String.intercalate (" " ++ op.word ++ " ") (parts.map Prod.fst) ++ ")" ∧
      clause.holds parameters e = op.join (parts.map Prod.snd) := by
  have : Nonempty Clause := ⟨.group .and []⟩
  choose! clause hlegible htext htruth using h
  have htexts : (parts.map clause).map (Clause.render d (Entity.kind E) binder) =
      parts.map Prod.fst := by
    rw [List.map_map]
    exact List.map_congr_left htext
  have htruths : (parts.map clause).map (Clause.holds parameters e) = parts.map Prod.snd := by
    rw [List.map_map]
    exact List.map_congr_left htruth
  refine ⟨.group op (parts.map clause), .group ?_ ?_, ?_, ?_⟩
  · simpa using hsome
  · exact List.forall_mem_map.mpr hlegible
  · rw [Clause.render, Clause.renderEach_eq_map, htexts]
  · rw [Clause.holds_group, htruths]

/-- **Every text that can be read is that of a clause,** under parameters whose keys are
    identifiers. So what holds of the texts of clauses holds of all that a store can read. -/
theorem ReadsAs.exists_clause {text : String} {truth : Bool}
    (hkeys : ∀ key ∈ parameters.keys, Text.isIdentifier key = true)
    (h : ReadsAs d binder parameters e text truth) :
    ∃ clause : Clause, clause.Legible ∧ clause.render d (Entity.kind E) binder = text ∧
      clause.holds parameters e = truth := by
  have hkey {key : String} {value : Value} (hbound : parameters.get? key = some value) :
      Text.isIdentifier key = true := hkeys key (Dict.mem_keys_of_get? hbound)
  induction h with
  | @label key name hkind hbound =>
    refine ⟨.hasType key, .hasType (hkey hbound), ?_, Clause.holds_hasType hbound⟩
    rw [hkind]
    rfl
  | @type key name hkind hbound =>
    refine ⟨.hasType key, .hasType (hkey hbound), ?_, Clause.holds_hasType hbound⟩
    rw [hkind]
    rfl
  | @property property phrase key value hnames hbound =>
    obtain ⟨access, hword, hnamed, rfl⟩ := hnames.exists_access hkeys
    exact ⟨.property access key, .property hword (hkey hbound), rfl,
      Clause.holds_property hnamed hbound⟩
  | and hsome _ ih =>
    obtain ⟨clause, hlegible, htext, htruth⟩ := exists_group .and hsome ih
    refine ⟨clause, hlegible, htext, ?_⟩
    rw [htruth, Connective.join, List.all_map]
    rfl
  | or hsome _ ih =>
    obtain ⟨clause, hlegible, htext, htruth⟩ := exists_group .or hsome ih
    refine ⟨clause, hlegible, htext, ?_⟩
    rw [htruth, Connective.join, List.any_map]
    rfl

/-- **In Cypher a rendered clause is read in one way only.** -/
theorem ReadsAs.eq_holds {clause : Clause} {truth : Bool}
    (hbinder : Text.isIdentifier binder = true)
    (hkeys : ∀ key ∈ parameters.keys, Text.isIdentifier key = true) (hlegible : clause.Legible)
    (h : ReadsAs .cypher binder parameters e (clause.render .cypher (Entity.kind E) binder) truth) :
    truth = clause.holds parameters e := by
  obtain ⟨other, hother, htext, rfl⟩ := h.exists_clause hkeys
  have hsettled := Clause.settled_eq_of_render_eq hbinder hother hlegible htext
  rw [← Clause.holds_settled other, hsettled, Clause.holds_settled]

/-! ## Builds -/

/-- The answer of a store for one entity: where there is no clause, everything is let through. -/
def Built.holds (built : Built) (e : E) : Bool :=
  built.clause.all (Clause.holds built.parameters e)

namespace Compiler

variable {k : Compiler} {c : Condition} {built : Built}

/-- The text of a build is read as the clause of it holds. -/
theorem render_readsAs (h : build k.strategy c = .ok built) (hkind : k.kind = Entity.kind E)
    (e : E) : (k.render built).ReadsAs k.dialect k.binder e (built.holds e) := by
  have hcompiles := buildFrom_compiles h
  cases hbare : c.isBare with
  | true =>
    have hnone := hcompiles.clause_of_isBare hbare
    rw [Built.holds, render, hnone]
    exact .unconstrained
  | false =>
    obtain ⟨clause, hclause, hmirrors⟩ := hcompiles.clause_of_not_isBare hbare
    rw [Built.holds, render, hclause, hkind]
    exact .constrained (hmirrors.readsAs (buildFrom_legible h clause hclause))

/-- All parameters of a build are identifiers. -/
theorem isIdentifier_of_mem_keys (h : build k.strategy c = .ok built) :
    ∀ key ∈ built.parameters.keys, Text.isIdentifier key = true := by
  have hbinds : Binds Dict.empty built.parameters built.keys := buildFrom_binds h
  intro key hkey
  apply hbinds.identifiers
  simpa [Dict.keys, Dict.empty] using hbinds.keys_perm.mem_iff.mp hkey

/-- In Cypher the text of a build is read in no other way. -/
theorem eq_holds_of_readsAs (h : build k.strategy c = .ok built) (hkind : k.kind = Entity.kind E)
    (hdialect : k.dialect = .cypher) (hbinder : Text.isIdentifier k.binder = true) {truth : Bool}
    (hread : (k.render built).ReadsAs k.dialect k.binder e truth) : truth = built.holds e := by
  rw [hdialect] at hread
  cases hclause : built.clause with
  | none =>
    rw [render, hclause] at hread
    cases hread with
    | unconstrained => rw [Built.holds, hclause, Option.all_none]
  | some clause =>
    rw [render, hclause, hdialect, hkind] at hread
    cases hread with
    | constrained htext =>
      rw [Built.holds, hclause, Option.all_some]
      exact htext.eq_holds hbinder (isIdentifier_of_mem_keys h)
        (buildFrom_legible h clause hclause)

end Compiler

end GraphFilter.Query
