import GraphFilter.Proofs.Condition.Outline
import GraphFilter.Proofs.Query.Building
import GraphFilter.Proofs.Query.KeyNames

/-!
# `GraphFilter.Proofs.Query.Legible` — clauses that are built are made of words

Whatever names the properties of a condition have, the clause that is built from it holds nothing
but identifiers: the names of parameters are made of letters, digits and underscores, and a name
that is to stand in the text is refused unless it is an identifier. No group is empty.

## Contents
- **Legible clauses.** `Clause.Legible`, and `buildFrom_legible`: every clause that is built is.
- **Lone parts.** `Clause.settled` joins a lone part by `AND`; it changes neither the text nor what
  the clause mirrors, up to `Condition.settled`.
- **One clause, two conditions.** `Clause.Mirrors.sameOutline`.
-/

namespace GraphFilter.Query

/-! ## Legible clauses -/

/-- The word in a test that tells the property. -/
def Access.word : Access → String
  | .bound key => key
  | .inline property => property

/-- All words of the clause are identifiers, and no group is empty. -/
inductive Clause.Legible : Clause → Prop
  | hasType {key : String} : Text.isIdentifier key = true → Legible (.hasType key)
  | property {access : Access} {key : String} : Text.isIdentifier access.word = true →
      Text.isIdentifier key = true → Legible (.property access key)
  | group {op : Connective} {parts : List Clause} : parts ≠ [] → (∀ part ∈ parts, Legible part) →
      Legible (.group op parts)

namespace Compiler

variable {strategy : IdentifierStrategy}

/-- A property is named by an identifier, or it is not named. -/
theorem buildAccess_legible {property : String} {parameters named : Parameters} {access : Access}
    (h : buildAccess strategy property parameters = .ok (access, named)) :
    Text.isIdentifier access.word = true := by
  cases strategy with
  | dynamicKey =>
    obtain ⟨rfl, -⟩ := Prod.mk.inj (Except.ok.inj h)
    exact isIdentifier_allocate parameters (isIdentifier_parameterBase property)
  | inline =>
    unfold buildAccess at h
    by_cases hname : Text.isIdentifier property = true
    · rw [if_pos hname] at h
      obtain ⟨rfl, -⟩ := Prod.mk.inj (Except.ok.inj h)
      exact hname
    · rw [if_neg hname] at h
      exact nomatch h

theorem buildProperty_legible {property : String} {value : Value} {parameters : Parameters}
    {built : Built} (h : buildProperty strategy property value parameters = .ok built) :
    ∀ clause ∈ built.clause, clause.Legible := by
  obtain ⟨access, named, haccess, rfl⟩ := buildProperty_eq_ok.mp h
  intro clause hclause
  obtain rfl := Option.some.inj hclause
  have hkey := isIdentifier_allocate named (isIdentifier_valueBase property)
  exact .property (buildAccess_legible haccess) hkey

theorem buildParts_legible {filters : List Condition} {parameters after : Parameters}
    {parts : List Clause}
    (ih : ∀ f ∈ filters, ∀ {start built : Built}, buildFrom strategy f start = .ok built →
      ∀ clause ∈ built.clause, clause.Legible)
    (h : buildParts parameters (filters.map (buildFrom strategy)) = .ok (parts, after)) :
    ∀ part ∈ parts, part.Legible := by
  induction filters generalizing parameters parts with
  | nil =>
    obtain ⟨rfl, -⟩ := Prod.mk.inj (Except.ok.inj h)
    exact fun part hpart => absurd hpart List.not_mem_nil
  | cons f rest ihrest =>
    obtain ⟨hf, hrest⟩ := List.forall_mem_cons.mp ih
    obtain ⟨built, hbuilt, later, hlater, rfl⟩ := buildParts_cons_eq_ok.mp h
    intro part hpart
    rcases List.mem_append.mp hpart with hhere | hthere
    · exact hf hbuilt part (Option.mem_toList.mp hhere)
    · exact ihrest hrest hlater part hthere

theorem buildGroup_legible {op : Connective} {filters : List Condition} {start built : Built}
    (ih : ∀ f ∈ filters, ∀ {start built : Built}, buildFrom strategy f start = .ok built →
      ∀ clause ∈ built.clause, clause.Legible)
    (h : buildGroup op (filters.map (buildFrom strategy)) start = .ok built) :
    ∀ clause ∈ built.clause, clause.Legible := by
  obtain ⟨parts, after, hparts, rfl⟩ := buildGroup_eq_ok.mp h
  intro clause hclause
  have hclause : (if parts.isEmpty then none else some (Clause.group op parts)) = some clause :=
    hclause
  by_cases hempty : parts.isEmpty = true
  · rw [if_pos hempty] at hclause
    exact nomatch hclause
  · rw [if_neg hempty] at hclause
    obtain rfl := Option.some.inj hclause
    exact .group (mt List.isEmpty_iff.mpr hempty) (buildParts_legible ih hparts)

/-- **Every clause that is built is legible.** -/
theorem buildFrom_legible {c : Condition} {start built : Built}
    (h : buildFrom strategy c start = .ok built) : ∀ clause ∈ built.clause, clause.Legible := by
  induction c generalizing start built with
  | ofType name =>
    obtain rfl := Except.ok.inj h
    intro clause hclause
    obtain rfl := Option.some.inj hclause
    exact .hasType (isIdentifier_allocate start.parameters (by decide))
  | matchProperty property value => exact buildProperty_legible h
  | all filters ih =>
    rw [buildFrom_all] at h
    exact buildGroup_legible ih h
  | any filters ih =>
    rw [buildFrom_any] at h
    exact buildGroup_legible ih h

end Compiler

/-! ## Lone parts -/

namespace Clause

mutual

/-- The same clause with `AND` wherever a group has a single part. -/
def settled : Clause → Clause
  | .hasType key => .hasType key
  | .property access key => .property access key
  | .group op parts => .group (if parts.length = 1 then .and else op) (settledParts parts)

/-- Clauses with `AND` wherever a group has a single part. -/
def settledParts : List Clause → List Clause
  | [] => []
  | part :: rest => settled part :: settledParts rest

end

theorem settledParts_eq_map (parts : List Clause) : settledParts parts = parts.map settled := by
  induction parts with
  | nil => rfl
  | cons part rest ih => rw [settledParts, ih, List.map_cons]

/-- A lone part is written without its connective. -/
theorem intercalate_settled (op : Connective) (texts : List String) :
    String.intercalate
        (" " ++ (if texts.length = 1 then Connective.and else op).word ++ " ") texts =
      String.intercalate (" " ++ op.word ++ " ") texts := by
  by_cases hlone : texts.length = 1
  · obtain ⟨text, rfl⟩ := List.length_eq_one_iff.mp hlone
    rfl
  · rw [if_neg hlone]

/-- Settling lone parts leaves the text as it is, in any dialect. -/
theorem render_settled (d : Dialect) (kind : EntityKind) (binder : String) (clause : Clause) :
    clause.settled.render d kind binder = clause.render d kind binder := by
  induction clause with
  | hasType key => rfl
  | property access key => rfl
  | group op parts ih =>
    have htexts : (parts.map settled).map (render d kind binder) =
        parts.map (render d kind binder) := by
      rw [List.map_map]
      exact List.map_congr_left ih
    have hjoined := intercalate_settled op (parts.map (render d kind binder))
    rw [List.length_map] at hjoined
    rw [settled, render, render, renderEach_eq_map, renderEach_eq_map, settledParts_eq_map, htexts,
      hjoined]

variable {strategy : IdentifierStrategy} {parameters : Parameters}

/-- Settling a clause and settling the condition that it mirrors go together. -/
theorem Mirrors.settled {c : Condition} {clause : Clause}
    (h : Mirrors strategy parameters c clause) :
    Mirrors strategy parameters c.settled clause.settled := by
  induction c generalizing clause with
  | ofType name =>
    cases h with
    | hasType hbound => exact .hasType hbound
  | matchProperty property value =>
    cases h with
    | property hnames hbound => exact .property hnames hbound
  | all filters ih =>
    cases h with
    | and hparts =>
      rw [Condition.settled, Clause.settled, ite_self, Condition.settledFilters_eq_map,
        settledParts_eq_map]
      refine .and ?_
      rw [List.forall₂_map_left_iff, List.forall₂_map_right_iff]
      exact forall₂_imp_of_mem (fun f hf _ => ih f hf) hparts
  | any filters ih =>
    cases h with
    | @or _ parts hparts =>
      have hsettled : List.Forall₂ (Mirrors strategy parameters)
          (filters.map Condition.settled) (parts.map Clause.settled) := by
        rw [List.forall₂_map_left_iff, List.forall₂_map_right_iff]
        exact forall₂_imp_of_mem (fun f hf _ => ih f hf) hparts
      rw [Condition.settled, Clause.settled, ← hparts.length_eq, Condition.settledFilters_eq_map,
        settledParts_eq_map]
      by_cases hlone : filters.length = 1
      · rw [if_pos hlone, if_pos hlone]
        exact .and hsettled
      · rw [if_neg hlone, if_neg hlone]
        exact .or hsettled

/-! ## One clause, two conditions -/

/-- Two lists related to a third are related to one another. -/
theorem forall₂_of_common {α β γ : Type} {R : α → γ → Prop} {S : β → γ → Prop} {T : α → β → Prop}
    {as : List α} {bs : List β} {cs : List γ}
    (hcommon : ∀ a ∈ as, ∀ b c, R a c → S b c → T a b) (has : List.Forall₂ R as cs)
    (hbs : List.Forall₂ S bs cs) : List.Forall₂ T as bs := by
  induction has generalizing bs with
  | nil =>
    cases hbs with
    | nil => exact .nil
  | cons ha _ ih =>
    cases hbs with
    | cons hb hrest =>
      obtain ⟨hhead, htail⟩ := List.forall_mem_cons.mp hcommon
      exact .cons (hhead _ _ ha hb) (ih htail hrest)

/-- Conditions that one clause mirrors, each under parameters of its own, have the same outline, and
    the same properties where these are named in the text. -/
theorem Mirrors.sameOutline {other : Parameters} {c d : Condition} {clause : Clause}
    (hc : Mirrors strategy parameters c clause) (hd : Mirrors strategy other d clause) :
    c.SameOutline (fun property held => strategy = .inline → property = held) d := by
  induction c generalizing d clause with
  | ofType name =>
    cases hc with
    | hasType =>
      cases hd with
      | hasType => exact .ofType
  | matchProperty property value =>
    cases hc with
    | property hnames =>
      cases hd with
      | property hothers =>
        refine .matchProperty ?_
        intro hinline
        -- Names that stand in the text stand in the one access of the clause.
        cases hnames with
        | bound hdynamic => exact nomatch hinline.symm.trans hdynamic
        | inline =>
          cases hothers with
          | inline => rfl
  | all filters ih =>
    cases hc with
    | and hparts =>
      cases hd with
      | and hothers =>
        refine .all (forall₂_of_common ?_ hparts hothers)
        intro f hf g part hfc hgc
        exact ih f hf hfc hgc
  | any filters ih =>
    cases hc with
    | or hparts =>
      cases hd with
      | or hothers =>
        refine .any (forall₂_of_common ?_ hparts hothers)
        intro f hf g part hfc hgc
        exact ih f hf hfc hgc

end Clause

end GraphFilter.Query
