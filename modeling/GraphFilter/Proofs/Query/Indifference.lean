import GraphFilter.Query.ReadQuery
import GraphFilter.Proofs.Condition.Outline
import GraphFilter.Proofs.Query.Building

/-!
# `GraphFilter.Proofs.Query.Indifference` — the text of a query tells nothing about values

Two conditions of the same outline are compiled side by side. Their parameters hold different values
all along, but under the same keys, and that is all that a build looks at: which keys are taken, how
the properties are named, and which filters have a clause. So the two builds fail together or write
the same clause.

## Contents
- **Keys.** What a dictionary gives out and what becomes of its keys depends on its keys
  (`Dict.allocate_congr`, `Dict.keys_insert_congr`, `Dict.keys_union_congr`).
- **Two runs.** `EndAlike`, and `EndAlike.bind` for runs of several steps.
- **Names.** `IdentifierStrategy.WritesAlike`: two names of properties that a query does not tell
  apart.
- **Two builds.** `Built.Alike`, kept by every rule: `buildFrom_alike`.
- **Main result.** `query_indifferent`.
-/

namespace GraphFilter

/-! ## Keys -/

namespace Dict

variable {α : Type} {d other : Dict α}

theorem contains_congr (h : d.keys = other.keys) (key : String) :
    d.contains key = other.contains key := by
  rw [Bool.eq_iff_iff, contains_iff_mem_keys, contains_iff_mem_keys, h]

theorem size_congr (h : d.keys = other.keys) : d.size = other.size := by
  have hlength := congrArg List.length h
  unfold keys at hlength
  rwa [List.length_map, List.length_map] at hlength

theorem allocateFrom_congr (h : d.keys = other.keys) (base : String) (tries n : Nat) :
    d.allocateFrom base tries n = other.allocateFrom base tries n := by
  induction tries generalizing n with
  | zero => rfl
  | succ tries ih => rw [allocateFrom, allocateFrom, contains_congr h, ih]

/-- The name that is given out depends on the names taken, not on what they are bound to. -/
theorem allocate_congr (h : d.keys = other.keys) (base : String) :
    d.allocate base = other.allocate base := by
  rw [allocate, allocate, contains_congr h, size_congr h, allocateFrom_congr h]

theorem insertEntry_congr {entries others : List (String × α)}
    (h : entries.map Prod.fst = others.map Prod.fst) (key : String) (value held : α) :
    (insertEntry key value entries).map Prod.fst = (insertEntry key held others).map Prod.fst := by
  induction entries generalizing others with
  | nil =>
    obtain rfl := List.map_eq_nil_iff.mp h.symm
    rfl
  | cons entry rest ih =>
    obtain ⟨k, v⟩ := entry
    obtain ⟨⟨l, w⟩, later, rfl, hkey, hrest⟩ := List.map_eq_cons_iff.mp h.symm
    obtain rfl : l = k := hkey
    simp only [insertEntry]
    by_cases hbefore : key < l
    · rw [if_pos hbefore, if_pos hbefore]
      exact congrArg (key :: l :: ·) hrest.symm
    · rw [if_neg hbefore, if_neg hbefore]
      by_cases hafter : l < key
      · rw [if_pos hafter, if_pos hafter]
        exact congrArg (l :: ·) (ih hrest.symm)
      · rw [if_neg hafter, if_neg hafter]
        exact congrArg (key :: ·) hrest.symm

theorem keys_insert_congr (h : d.keys = other.keys) (key : String) (value held : α) :
    (d.insert key value).keys = (other.insert key held).keys :=
  insertEntry_congr h key value held

theorem keys_union_congr {e : Dict α} {merged : Dict α} (h : d.keys = other.keys)
    (hmerged : e.keys = merged.keys) : (d.union e).keys = (other.union merged).keys := by
  obtain ⟨entries, _⟩ := e
  obtain ⟨others, _⟩ := merged
  show (entries.foldl _ d).keys = (others.foldl _ other).keys
  have hmerged : entries.map Prod.fst = others.map Prod.fst := hmerged
  clear * - h hmerged
  induction entries generalizing others d other with
  | nil =>
    obtain rfl := List.map_eq_nil_iff.mp hmerged.symm
    exact h
  | cons entry rest ih =>
    obtain ⟨k, v⟩ := entry
    obtain ⟨⟨l, w⟩, later, rfl, hkey, hrest⟩ := List.map_eq_cons_iff.mp hmerged.symm
    obtain rfl : l = k := hkey
    exact ih (keys_insert_congr h l v w) later hrest.symm

end Dict

/-! ## Two runs -/

/-- Two runs end alike: with the same error, or with related results. -/
def EndAlike {ε α β : Type} (R : α → β → Prop) : Except ε α → Except ε β → Prop
  | .ok a, .ok b => R a b
  | .error e, .error f => e = f
  | _, _ => False

/-- Runs of two steps end alike if their first steps do, and their second steps do after that. -/
theorem EndAlike.bind {ε α β α' β' : Type} {R : α → β → Prop} {S : α' → β' → Prop}
    {run : Except ε α} {other : Except ε β} {next : α → Except ε α'} {otherNext : β → Except ε β'}
    (h : EndAlike R run other) (hnext : ∀ a b, R a b → EndAlike S (next a) (otherNext b)) :
    EndAlike S (run >>= next) (other >>= otherNext) := by
  cases run with
  | ok a =>
    cases other with
    | ok b => exact hnext a b h
    | error f => exact absurd h id
  | error e =>
    cases other with
    | ok b => exact absurd h id
    | error f => exact h

/-! ## Names -/

/-- A query that names properties by this strategy does not tell the two names apart: they are
    written, or the names of their parameters start from the same base. -/
def IdentifierStrategy.WritesAlike : IdentifierStrategy → String → String → Prop
  | .inline, property, other => property = other
  | .dynamicKey, property, other => Query.parameterBase property = Query.parameterBase other

theorem IdentifierStrategy.WritesAlike.base_eq {strategy : IdentifierStrategy}
    {property other : String} (h : strategy.WritesAlike property other) :
    Query.parameterBase property = Query.parameterBase other := by
  cases strategy with
  | inline => exact congrArg Query.parameterBase h
  | dynamicKey => exact h

namespace Query

/-! ## Two builds -/

/-- Two builds wrote the same clause and bound the same keys. -/
structure Built.Alike (built other : Built) : Prop where
  clause : built.clause = other.clause
  keys : built.parameters.keys = other.parameters.keys

/-- Two runs end in builds that are alike, from any parameters with the same keys. -/
def RunAlike (run other : Built → Except Condition.Error Built) : Prop :=
  ∀ start otherStart : Built, start.parameters.keys = otherStart.parameters.keys →
    EndAlike Built.Alike (run start) (other otherStart)

namespace Compiler

variable {strategy : IdentifierStrategy} {start other : Parameters}

theorem buildType_alike (h : start.keys = other.keys) (name otherName : String) :
    (buildType name start).Alike (buildType otherName other) where
  clause := congrArg (fun key => some (Clause.hasType key)) (Dict.allocate_congr h "type")
  keys := by
    unfold buildType
    rw [Dict.allocate_congr h]
    exact Dict.keys_insert_congr h _ _ _

/-- Naming two properties that are written alike: one access, or one error. -/
theorem buildAccess_alike {property otherProperty : String} (h : start.keys = other.keys)
    (hnames : strategy.WritesAlike property otherProperty) :
    EndAlike (fun a b : Access × Parameters => a.1 = b.1 ∧ a.2.keys = b.2.keys)
      (buildAccess strategy property start) (buildAccess strategy otherProperty other) := by
  cases strategy with
  | dynamicKey =>
    have hkey : start.allocate (parameterBase property) =
        other.allocate (parameterBase otherProperty) := by
      rw [hnames.base_eq, Dict.allocate_congr h]
    refine ⟨congrArg Access.bound hkey, ?_⟩
    show (start.insert _ _).keys = (other.insert _ _).keys
    rw [hkey]
    exact Dict.keys_insert_congr h _ _ _
  | inline =>
    obtain rfl : property = otherProperty := hnames
    unfold buildAccess
    by_cases hname : Text.isIdentifier property = true
    · simp only [if_pos hname]
      exact ⟨rfl, h⟩
    · simp only [if_neg hname]
      exact rfl

theorem buildProperty_alike {property otherProperty : String} (h : start.keys = other.keys)
    (hnames : strategy.WritesAlike property otherProperty) (value held : Value) :
    EndAlike Built.Alike (buildProperty strategy property value start)
      (buildProperty strategy otherProperty held other) := by
  unfold buildProperty
  refine (buildAccess_alike h hnames).bind ?_
  rintro ⟨access, named⟩ ⟨otherAccess, otherNamed⟩ ⟨haccess, hkeys⟩
  obtain rfl : access = otherAccess := haccess
  have hkey : named.allocate (parameterBase property ++ "_value") =
      otherNamed.allocate (parameterBase otherProperty ++ "_value") := by
    rw [hnames.base_eq, Dict.allocate_congr hkeys]
  refine ⟨congrArg (fun key => some (Clause.property access key)) hkey, ?_⟩
  show (named.insert _ _).keys = (otherNamed.insert _ _).keys
  rw [hkey]
  exact Dict.keys_insert_congr hkeys _ _ _

/-- Filters built one after the other, pairwise alike from alike parameters. -/
theorem buildParts_alike {builds others : List (Built → Except Condition.Error Built)}
    (hbuilds : List.Forall₂ RunAlike builds others) (h : start.keys = other.keys) :
    EndAlike (fun a b : List Clause × Parameters => a.1 = b.1 ∧ a.2.keys = b.2.keys)
      (buildParts start builds) (buildParts other others) := by
  induction hbuilds generalizing start other with
  | nil => exact ⟨rfl, h⟩
  | cons hbuild _ ih =>
    unfold buildParts
    refine (hbuild ⟨none, start⟩ ⟨none, other⟩ h).bind ?_
    intro built otherBuilt halike
    refine (ih halike.keys).bind ?_
    rintro ⟨parts, after⟩ ⟨otherParts, otherAfter⟩ ⟨hparts, hkeys⟩
    obtain rfl : parts = otherParts := hparts
    refine ⟨?_, hkeys⟩
    show built.clause.toList ++ parts = otherBuilt.clause.toList ++ parts
    rw [halike.clause]

theorem buildGroup_alike {builds others : List (Built → Except Condition.Error Built)}
    (op : Connective) (hbuilds : List.Forall₂ RunAlike builds others) :
    RunAlike (buildGroup op builds) (buildGroup op others) := by
  intro built otherBuilt h
  unfold buildGroup
  refine (buildParts_alike hbuilds h).bind ?_
  rintro ⟨parts, after⟩ ⟨otherParts, otherAfter⟩ ⟨hparts, hkeys⟩
  obtain rfl : parts = otherParts := hparts
  exact ⟨rfl, hkeys⟩

/-- The builds of filters that have the same outlines in pairs, given that each pair is built
    alike. -/
theorem forall₂_builds {filters others : List Condition}
    (ih : ∀ f ∈ filters, ∀ g, f.SameOutline strategy.WritesAlike g →
      RunAlike (buildFrom strategy f) (buildFrom strategy g))
    (h : List.Forall₂ (Condition.SameOutline strategy.WritesAlike) filters others) :
    List.Forall₂ RunAlike (filters.map (buildFrom strategy))
      (others.map (buildFrom strategy)) := by
  rw [List.forall₂_map_left_iff, List.forall₂_map_right_iff]
  exact forall₂_imp_of_mem ih h

/-- **Conditions of the same outline are built alike,** on top of any parameters with the
    same keys. -/
theorem buildFrom_alike {c d : Condition} (houtline : c.SameOutline strategy.WritesAlike d) :
    RunAlike (buildFrom strategy c) (buildFrom strategy d) := by
  induction c generalizing d with
  | ofType name =>
    cases houtline with
    | ofType =>
      intro start other h
      exact buildType_alike h name _
  | matchProperty property value =>
    cases houtline with
    | matchProperty hnames =>
      intro start other h
      exact buildProperty_alike h hnames value _
  | all filters ih =>
    cases houtline with
    | all hfilters =>
      intro start other h
      rw [buildFrom_all, buildFrom_all]
      exact buildGroup_alike .and (forall₂_builds (fun f hf _ => ih f hf) hfilters) start other h
  | any filters ih =>
    cases houtline with
    | any hfilters =>
      intro start other h
      rw [buildFrom_any, buildFrom_any]
      exact buildGroup_alike .or (forall₂_builds (fun f hf _ => ih f hf) hfilters) start other h

end Compiler

/-! ## Main result -/

/-- Predicates with one text, over parameters with one set of keys. -/
def Predicate.Alike (p q : Predicate) : Prop :=
  p.fragment = q.fragment ∧ p.parameters.keys = q.parameters.keys

/-- Queries of one text, over parameters with one set of keys. -/
def ReadQuery.Alike (q r : ReadQuery) : Prop :=
  q.kind = r.kind ∧ q.text = r.text ∧ q.parameters.keys = r.parameters.keys

theorem Compiler.predicate_alike (k : Compiler) {c d : Condition}
    (h : c.SameOutline k.strategy.WritesAlike d) :
    EndAlike Predicate.Alike (k.predicate c) (k.predicate d) := by
  refine (Compiler.buildFrom_alike h {} {} rfl).bind ?_
  intro built other halike
  refine ⟨?_, halike.keys⟩
  show built.clause.map _ = other.clause.map _
  rw [halike.clause]

theorem ReadQuery.ofPredicate_alike (d : Dialect) (kind : EntityKind) (binder : String)
    {p q : Predicate} (h : p.Alike q) :
    (ofPredicate d kind binder p).Alike (ofPredicate d kind binder q) := by
  obtain ⟨hfragment, hkeys⟩ := h
  refine ⟨rfl, ?_, Dict.keys_union_congr rfl hkeys⟩
  simp only [ofPredicate, Draft.addReturn, Draft.addWhere, hfragment]

/-- **Queries do not tell values apart.** Take two conditions of the same outline, whose properties
    have names that the strategy writes alike; the names of types and the values may differ at will.
    Compiling fails for both with the same error, or yields one text with one set of parameter keys,
    for the predicate as for the whole query. -/
theorem query_indifferent (k : Compiler) {c d : Condition}
    (h : c.SameOutline k.strategy.WritesAlike d) :
    EndAlike Predicate.Alike (k.predicate c) (k.predicate d) ∧
      EndAlike ReadQuery.Alike (k.query c) (k.query d) := by
  have hpredicate := k.predicate_alike h
  refine ⟨hpredicate, hpredicate.bind ?_⟩
  intro p q halike
  exact ReadQuery.ofPredicate_alike k.dialect k.kind k.binder halike

/-- A question after a first name. -/
def firstName : Condition :=
  .any [.matchProperty "first name" (.string "Ada"), .all [.ofType "Person", .any []]]

/-- The same question with text of a query for names and values. -/
def firstNameForged : Condition :=
  .any [.matchProperty "first-name" (.string "' OR 1 = 1"),
    .all [.ofType "n) RETURN n", .any []]]

/-- Both are compiled to one text over the same keys. -/
theorem query_indifferent_firstName :
    let k : Compiler := { kind := .node }
    firstName.SameOutline k.strategy.WritesAlike firstNameForged ∧
    ∃ q r, k.query firstName = .ok q ∧ k.query firstNameForged = .ok r ∧
      q.text = "MATCH (n) WHERE (n[$first_name] = $first_name_value OR ($type IN labels(n))) RETURN n" ∧
      q.text = r.text ∧ q.parameters.keys = r.parameters.keys := by
  intro k
  have houtline : firstName.SameOutline k.strategy.WritesAlike firstNameForged := by
    have hname : k.strategy.WritesAlike "first name" "first-name" := by
      show parameterBase _ = parameterBase _
      decide
    exact .any (.cons (.matchProperty hname)
      (.cons (.all (.cons .ofType (.cons (.any .nil) .nil))) .nil))
  have halike := (query_indifferent k houtline).2
  have hquery : k.query firstName = .ok _ := rfl
  have hforged : k.query firstNameForged = .ok _ := rfl
  rw [hquery, hforged] at halike
  obtain ⟨-, htext, hkeys⟩ := halike
  exact ⟨houtline, _, _, hquery, hforged, rfl, htext, hkeys⟩

end Query

end GraphFilter
