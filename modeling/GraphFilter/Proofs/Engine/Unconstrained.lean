import GraphFilter.Engine
import GraphFilter.Proofs.Condition.Validity
import GraphFilter.Proofs.Graph.FirstOccurrences
import GraphFilter.Proofs.Query.Building
import GraphFilter.Proofs.Selection.Steps
import GraphFilter.Query.ReadQuery
import GraphFilter.Store.Memory

/-!
# `GraphFilter.Proofs.Engine.Unconstrained` — conditions that ask nothing

A condition without leaves is made of combinators only. The check accepts it, evaluating it loses no
id, and compiling it leaves no trace in the query. None of this is plain from one rule: an `any` with
filters merges what its filters keep and drops repeated ids at every level, and a group of which
nothing is left is dropped only after all its filters were built.

## Contents
- **Selecting.** `firstPerId_select_of_isBare`: nothing is lost but repetitions of an id.
- **Compiling.** `buildFrom_of_isBare`, `query_of_isBare`: no clause, no parameter.
- **Answers.** `selectNodes_of_isBare`, `selectEdges_of_isBare`: what an engine does then.
- **Main result.** `leafless_constrains_nothing`, with its converse for compiled conditions.
-/

namespace GraphFilter

/-! ## Selecting -/

namespace Condition

variable {E : Type} [Entity E]

/-- Only repetitions of an id can be missing from what a condition without leaves selects, and the
    first of each id stays in its place. -/
theorem firstPerId_select_of_isBare {c : Condition} (h : c.isBare = true) (es : List E) :
    firstPerId Entity.id (c.select es) = firstPerId Entity.id es := by
  induction c using induction_inTurn generalizing es with
  | ofType name => simp at h
  | matchProperty property value => simp at h
  | all_nil => rfl
  | all_cons f rest hf hrest =>
    -- Each filter keeps the first of each id among what those before it left.
    obtain ⟨hbare, hbares⟩ : f.isBare = true ∧ (all rest).isBare = true := by simpa using h
    rw [select_all_cons, hrest hbares, hf hbare]
  | any_nil => rfl
  | any_cons f rest ih =>
    rw [isBare_any, List.all_eq_true] at h
    have hfirst : firstPerId Entity.id (f.select es) = firstPerId Entity.id es :=
      ih f List.mem_cons_self (h f List.mem_cons_self) es
    have hlater : ∀ e ∈ rest.flatMap fun g => g.select es,
        Entity.id e ∈ (f.select es).map Entity.id := by
      intro e he
      have hcandidate : Entity.id e ∈ es.map Entity.id :=
        List.mem_map_of_mem (flatMap_select_subset rest es he)
      rwa [← mem_map_firstPerId, ← hfirst, mem_map_firstPerId] at hcandidate
    -- The first filter has met every id, so the merge takes nothing from the others.
    rw [select_any_cons, firstPerId_firstPerId, List.flatMap_cons,
      firstPerId_append_of_ids hlater, hfirst]

/-- So all ids come out, whatever form the selected entities are handed out in. -/
theorem firstPerId_map_select_of_isBare {R : Type} {id : R → EntityId} {ref : E → R}
    (hid : ∀ e, id (ref e) = Entity.id e) {c : Condition} (h : c.isBare = true) (es : List E) :
    firstPerId id ((c.select es).map ref) = (es.map ref).eraseDupsBy fun a b => id a == id b := by
  have hsame : id ∘ ref = Entity.id := funext hid
  rw [← firstPerId_eq_eraseDupsBy, firstPerId_map, firstPerId_map, hsame,
    firstPerId_select_of_isBare h]

/-- There is no name that could be missing. -/
theorem validate_of_isBare {c : Condition} (h : c.isBare = true) : c.validate = .ok () := by
  rw [validate_eq_ok_iff]
  intro name hname
  rw [isBare_iff_leaves.mp h] at hname
  exact absurd hname List.not_mem_nil

end Condition

/-! ## Compiling -/

namespace Query.Compiler

variable {strategy : IdentifierStrategy} {c : Condition}

/-- Filters that leave no clause and no parameter, one after the other. -/
theorem buildParts_of_isBare {filters : List Condition}
    (h : ∀ f ∈ filters, ∀ start, buildFrom strategy f start = .ok ⟨none, start.parameters⟩)
    (parameters : Parameters) :
    buildParts parameters (filters.map (buildFrom strategy)) = .ok ([], parameters) := by
  induction filters with
  | nil => rfl
  | cons f rest ih =>
    obtain ⟨hf, hrest⟩ := List.forall_mem_cons.mp h
    rw [List.map_cons, buildParts_cons_eq_ok]
    exact ⟨⟨none, parameters⟩, hf ⟨none, parameters⟩, [], ih hrest, rfl⟩

theorem buildGroup_of_isBare {op : Connective} {filters : List Condition}
    (h : ∀ f ∈ filters, ∀ start, buildFrom strategy f start = .ok ⟨none, start.parameters⟩)
    (start : Built) :
    buildGroup op (filters.map (buildFrom strategy)) start = .ok ⟨none, start.parameters⟩ := by
  rw [buildGroup_eq_ok]
  exact ⟨[], start.parameters, buildParts_of_isBare h start.parameters, rfl⟩

/-- A condition without leaves is built whatever was built before, and leaves no clause and the
    parameters as they were. -/
theorem buildFrom_of_isBare (h : c.isBare = true) (start : Built) :
    buildFrom strategy c start = .ok ⟨none, start.parameters⟩ := by
  induction c generalizing start with
  | ofType name => simp at h
  | matchProperty property value => simp at h
  | all filters ih =>
    rw [Condition.isBare_all, List.all_eq_true] at h
    rw [buildFrom_all]
    exact buildGroup_of_isBare (fun f hf start => ih f hf (h f hf) start) start
  | any filters ih =>
    rw [Condition.isBare_any, List.all_eq_true] at h
    rw [buildFrom_any]
    exact buildGroup_of_isBare (fun f hf start => ih f hf (h f hf) start) start

/-- The query of a condition without leaves only binds the entities and returns them. -/
theorem query_of_isBare (h : c.isBare = true) (compiler : Compiler) :
    compiler.query c = .ok {
      kind := compiler.kind
      text := "MATCH " ++ (match compiler.kind with
        | .node => compiler.dialect.nodePattern compiler.binder
        | .edge => compiler.dialect.edgePattern compiler.binder) ++ " RETURN " ++ compiler.binder
      parameters := .empty } := by
  have hbuild : build compiler.strategy c = .ok ⟨none, .empty⟩ := buildFrom_of_isBare h {}
  unfold query predicate
  rw [hbuild]
  cases compiler.kind <;> rfl

/-- A condition that has a leaf leaves a clause, if it can be built. -/
theorem fragment_of_not_isBare {compiler : Compiler} {p : Predicate} (h : c.isBare = false)
    (hp : compiler.predicate c = .ok p) : ∃ fragment, p.fragment = some fragment := by
  obtain ⟨built, hbuilt, hrender⟩ := bind_eq_ok.mp hp
  obtain rfl := pure_eq_ok.mp hrender
  obtain ⟨clause, hclause, -⟩ := (buildFrom_compiles hbuilt).clause_of_not_isBare h
  refine ⟨clause.render compiler.dialect compiler.kind compiler.binder, ?_⟩
  show built.clause.map _ = _
  rw [hclause]
  rfl

end Query.Compiler

/-! ## Answers -/

namespace Engine

variable {m : Type → Type} [Monad m] [LawfulMonad m] {engine : Engine m} {c : Condition}

/-- A valid condition that is evaluated here is evaluated on all that the store hands out. -/
theorem select_inMemory {E R : Type} {kind : EntityKind}
    {query : Query.ReadQuery → m (Except StoreError (List R))}
    {fetch : m (Except StoreError (List E))} {evaluate : Condition → List E → List R}
    (hvalid : c.validate = .ok ()) (hpushdown : engine.usesPushdown = false) :
    engine.select kind query fetch evaluate c = (do
      let candidates ← Run.ofStore fetch
      noteMatchesAll kind c
      return evaluate c candidates) := by
  have hchecked : Run.ofCondition c.validate = (pure () : Run m Unit) := by
    rw [hvalid]
    rfl
  unfold select
  rw [hchecked, pure_bind, hpushdown, if_neg Bool.false_ne_true]

/-- Every node that the store hands out is in the answer, the first of each id. -/
theorem selectNodes_of_isBare (h : c.isBare = true) (hpushdown : engine.usesPushdown = false) :
    engine.selectNodes c = (do
      let nodes ← Run.ofStore engine.store.fetchNodes
      noteMatchesAll .node c
      return (nodes.map Node.ref).eraseDupsBy fun a b => a.id == b.id) := by
  have hid : ∀ node : Node, node.ref.id = Entity.id node := fun _ => rfl
  unfold selectNodes
  rw [select_inMemory (Condition.validate_of_isBare h) hpushdown]
  simp only [bind_assoc, pure_bind, Condition.selectNodes,
    Condition.firstPerId_map_select_of_isBare hid h]

/-- Every edge that the store hands out is in the answer, the first of each id. -/
theorem selectEdges_of_isBare (h : c.isBare = true) (hpushdown : engine.usesPushdown = false) :
    engine.selectEdges c = (do
      let edges ← Run.ofStore engine.store.fetchEdges
      noteMatchesAll .edge c
      return (edges.map Edge.ref).eraseDupsBy fun a b => a.id == b.id) := by
  have hid : ∀ edge : Edge, edge.ref.id = Entity.id edge := fun _ => rfl
  unfold selectEdges
  rw [select_inMemory (Condition.validate_of_isBare h) hpushdown]
  simp only [bind_assoc, pure_bind, Condition.selectEdges,
    Condition.firstPerId_map_select_of_isBare hid h]

/-! ## Main result -/

/-- **A condition without leaves constrains nothing,** wherever it is evaluated. The check accepts it.
    An engine that evaluates it answers with all that its store hands out, the first of each id.
    Compiled on top of anything it leaves no clause and no parameter, so that its query has no
    condition. A condition that has a leaf, on the other hand, is never compiled to a predicate
    without text. -/
theorem leafless_constrains_nothing (c : Condition) :
    (c.leaves = [] →
      c.validate = .ok () ∧
      (∀ engine : Engine m, engine.usesPushdown = false →
        engine.selectNodes c = (do
          let nodes ← Run.ofStore engine.store.fetchNodes
          noteMatchesAll .node c
          return (nodes.map Node.ref).eraseDupsBy fun a b => a.id == b.id) ∧
        engine.selectEdges c = (do
          let edges ← Run.ofStore engine.store.fetchEdges
          noteMatchesAll .edge c
          return (edges.map Edge.ref).eraseDupsBy fun a b => a.id == b.id)) ∧
      (∀ strategy (start : Query.Built), Query.Compiler.buildFrom strategy c start =
        .ok ⟨none, start.parameters⟩) ∧
      ∀ compiler : Query.Compiler, compiler.query c = .ok {
        kind := compiler.kind
        text := "MATCH " ++ (match compiler.kind with
          | .node => compiler.dialect.nodePattern compiler.binder
          | .edge => compiler.dialect.edgePattern compiler.binder) ++ " RETURN " ++ compiler.binder
        parameters := .empty }) ∧
    (c.leaves ≠ [] → ∀ (compiler : Query.Compiler) (p : Query.Predicate),
      compiler.predicate c = .ok p → ∃ fragment, p.fragment = some fragment) := by
  rw [← Condition.isBare_iff_leaves, ne_eq, ← Condition.isBare_iff_leaves]
  constructor
  · intro hbare
    refine ⟨Condition.validate_of_isBare hbare, ?_, ?_, ?_⟩
    · intro engine hpushdown
      exact ⟨selectNodes_of_isBare hbare hpushdown, selectEdges_of_isBare hbare hpushdown⟩
    · intro strategy start
      exact Query.Compiler.buildFrom_of_isBare hbare start
    · intro compiler
      exact Query.Compiler.query_of_isBare hbare compiler
  · intro hleaf compiler p hp
    exact Query.Compiler.fragment_of_not_isBare (Bool.eq_false_iff.mpr hleaf) hp

/-- Combinators only, with an `any` that merges what two filters keep. -/
def hollow : Condition :=
  .any [.all [.any []], .any [.all [], .any []]]

/-- Three nodes, two of them with one id. -/
def twins : Graph where
  nodes := [⟨1, ["Person"], .empty⟩, ⟨2, [], .empty⟩, ⟨1, ["Movie"], .empty⟩]

/-- An engine over the three nodes. -/
def twinsEngine : Engine Id where
  store := .memory twins

/-- The nodes of both ids come out, with a warning for each empty `any`, and the query of the
    condition is one without a condition; with a leaf in it, it is not. -/
theorem leafless_constrains_nothing_hollow :
    hollow.leaves = [] ∧ twinsEngine.usesPushdown = false ∧
    (twinsEngine.selectNodes hollow).run.run [] =
      (.ok [⟨1, false⟩, ⟨2, false⟩],
        List.replicate 2 (.warn "Empty 'any' condition matches every node")) ∧
    (∃ q, ({ kind := .edge } : Query.Compiler).query hollow = .ok q ∧
      q.text = "MATCH ()-[n]->() RETURN n" ∧ q.parameters.size = 0) ∧
    (Condition.any [hollow, .ofType "Person"]).leaves ≠ [] ∧
    ∃ p, ({ kind := .node } : Query.Compiler).predicate (.any [hollow, .ofType "Person"]) = .ok p ∧
      ∃ fragment, p.fragment = some fragment := by
  have hleaves : hollow.leaves = [] := rfl
  have hleaf : (Condition.any [hollow, .ofType "Person"]).leaves ≠ [] := List.cons_ne_nil _ _
  obtain ⟨-, hengine, -, hquery⟩ := (leafless_constrains_nothing (m := Id) hollow).1 hleaves
  refine ⟨hleaves, rfl, ?_, ?_, hleaf, ?_⟩
  · rw [(hengine twinsEngine rfl).1]
    rfl
  · exact ⟨_, hquery { kind := .edge }, rfl, rfl⟩
  · exact ⟨_, rfl, (leafless_constrains_nothing (m := Id) _).2 hleaf { kind := .node } _ rfl⟩

end Engine

end GraphFilter
