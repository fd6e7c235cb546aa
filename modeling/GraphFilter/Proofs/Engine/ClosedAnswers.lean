import GraphFilter.Proofs.Engine.Calls
import GraphFilter.Proofs.Engine.Returns
import GraphFilter.Store.Memory

/-!
# `GraphFilter.Proofs.Engine.ClosedAnswers` — what an engine makes of a store's answer

A store is not trusted with the shape of an answer: ids may come twice, edges may dangle, nodes may
already be marked as stubs. Every subgraph that leaves an engine is consolidated, so it is closed
whatever the store said.

## Contents
- **Answers.** `Run.Ensures`: every answer of a run has a property, which its last step decides.
- **Requests.** `filterGraph_ensures_closed` and `shortestPath_ensures_closed`, for any store.
- **Stores that answer with anything.** `answering` hands a subgraph through as it is, and
  `answering_filterGraph` says that it comes out consolidated.
- **Main result.** `answers_consolidated`.
-/

namespace GraphFilter

/-! ## Answers -/

namespace Run

variable {σ α β : Type} {P : β → Prop}

/-- Every answer of the run has a property. -/
def Ensures (run : Run (Recorded σ) α) (P : α → Prop) : Prop :=
  ∀ s a, (run.exec s).1 = .ok a → P a

theorem ensures_pure {b : β} (h : P b) : (pure b : Run (Recorded σ) β).Ensures P := by
  intro s a hanswer
  obtain rfl := Except.ok.inj hanswer
  exact h

/-- The last step of a run decides about its answers. -/
theorem ensures_bind {run : Run (Recorded σ) α} {next : α → Run (Recorded σ) β}
    (hnext : ∀ a, (next a).Ensures P) : (run >>= next).Ensures P := by
  intro s b hanswer
  rw [exec_bind] at hanswer
  rcases hexec : run.exec s with ⟨answer | a, s'⟩
  · rw [hexec] at hanswer
    exact nomatch hanswer
  · rw [hexec] at hanswer
    exact hnext a s' b hanswer

end Run

namespace Engine

/-! ## Requests -/

section Requests

variable {σ : Type} (engine : Engine (Recorded σ))

theorem filterGraph_ensures_closed (request : Request) :
    (engine.filterGraph request).Ensures Subgraph.IsClosed := by
  unfold filterGraph
  refine Run.ensures_bind fun nodeCondition => ?_
  refine Run.ensures_bind fun edgeCondition => ?_
  refine Run.ensures_bind fun nodes => ?_
  refine Run.ensures_bind fun edges => ?_
  refine Run.ensures_bind fun _ => ?_
  exact Run.ensures_pure (Subgraph.isClosed_consolidate ⟨nodes, edges⟩ _)

theorem shortestPath_ensures_closed (source target : EntityId) (maxHops : Option UInt32)
    (nodeFilter : Option Json) :
    (engine.shortestPath source target maxHops nodeFilter).Ensures Subgraph.IsClosed := by
  unfold shortestPath
  refine Run.ensures_bind fun c => ?_
  refine Run.ensures_bind fun _ => ?_
  refine Run.ensures_bind fun predicate => ?_
  refine Run.ensures_bind fun _ => ?_
  refine Run.ensures_bind fun path => ?_
  exact Run.ensures_pure (path.isClosed_consolidate _)

end Requests

/-! ## Stores that answer with anything -/

section Answering

variable {m : Type → Type} [Monad m]

/-- An engine over a store that answers whatever it is asked with one and the same subgraph. -/
def answering (raw : Subgraph) (options : EngineOptions) : Engine m where
  store := .canned raw raw
  options := options

theorem answering_usesPushdown (raw : Subgraph) {options : EngineOptions}
    (hmode : options.mode ≠ .inMemory) :
    (answering raw options : Engine m).usesPushdown = true := by
  unfold usesPushdown answering
  cases hoption : options.mode with
  | auto => rfl
  | inMemory => exact absurd hoption hmode
  | pushdown => rfl

variable [LawfulMonad m] {raw : Subgraph} {options : EngineOptions}

/-- Conditions that can be written are answered, by the subgraph that the store gave. -/
theorem answering_filterGraph {request : Request} {nodeCondition edgeCondition : Condition}
    (hmode : options.mode ≠ .inMemory)
    (hnodes : decodeOrAll request.nodes = .ok nodeCondition)
    (hedges : decodeOrAll request.edges = .ok edgeCondition)
    (hnodeNames : nodeCondition.Writable options.strategy)
    (hedgeNames : edgeCondition.Writable options.strategy) :
    ((answering raw options : Engine m).filterGraph request).Returns
      (raw.consolidate (request.includeSubsidiary.getD options.includeSubsidiary)) := by
  have hpushdown : (answering raw options : Engine m).usesPushdown = true :=
    answering_usesPushdown raw hmode
  obtain ⟨nodeQuery, hnodeQuery⟩ :=
    ((answering raw options : Engine m).compiler .node).exists_query_of_writable hnodeNames
  obtain ⟨edgeQuery, hedgeQuery⟩ :=
    ((answering raw options : Engine m).compiler .edge).exists_query_of_writable hedgeNames
  refine returns_filterGraph hnodes hedges ?_ ?_
  · exact returns_select_queried (validate_of_decodeOrAll hnodes) hpushdown hnodeQuery rfl
  · exact returns_select_queried (validate_of_decodeOrAll hedges) hpushdown hedgeQuery rfl

theorem answering_shortestPath {source target : EntityId} {maxHops : Option UInt32}
    {nodeFilter : Option Json} {c : Condition} (hdecode : decodeOrAll nodeFilter = .ok c)
    (hnames : c.Writable options.strategy) :
    ((answering raw options : Engine m).shortestPath source target maxHops nodeFilter).Returns
      (raw.consolidate options.includeSubsidiary) := by
  obtain ⟨predicate, hpredicate⟩ :=
    ((answering raw options : Engine m).compiler .node).exists_predicate_of_writable hnames
  exact returns_shortestPath hdecode hpredicate rfl

end Answering

/-! ## Main result -/

/-- **What an engine makes of a store's answer.** Consolidation keeps the first node and the first
    edge of each id. Without stubs it drops the edges that miss an end; with stubs it puts one behind
    the nodes for every end that is missing. Either way the outcome is closed, and so is every
    subgraph that an engine answers with, over any store; in particular over one that answers with
    the subgraph at hand, and there the engine does answer. -/
theorem answers_consolidated (raw : Subgraph) :
    raw.consolidate false = ⟨raw.distinctNodes, raw.distinctEdges.filter raw.hasEnds⟩ ∧
    raw.consolidate true =
      ⟨raw.distinctNodes ++ raw.absentEnds.map (fun i => { id := i, subsidiary := true }),
        raw.distinctEdges⟩ ∧
    (∀ withStubs, (raw.consolidate withStubs).IsClosed) ∧
    (∀ (σ : Type) (engine : Engine (Recorded σ)),
      (∀ request, (engine.filterGraph request).Ensures Subgraph.IsClosed) ∧
      ∀ source target maxHops nodeFilter,
        (engine.shortestPath source target maxHops nodeFilter).Ensures Subgraph.IsClosed) ∧
    (∀ (m : Type → Type) [Monad m] [LawfulMonad m] (options : EngineOptions),
      (∀ request nodeCondition edgeCondition, options.mode ≠ .inMemory →
        decodeOrAll request.nodes = .ok nodeCondition →
        decodeOrAll request.edges = .ok edgeCondition →
        nodeCondition.Writable options.strategy → edgeCondition.Writable options.strategy →
        ((answering raw options : Engine m).filterGraph request).Returns
          (raw.consolidate (request.includeSubsidiary.getD options.includeSubsidiary))) ∧
      ∀ source target maxHops nodeFilter c, decodeOrAll nodeFilter = .ok c →
        c.Writable options.strategy →
        ((answering raw options : Engine m).shortestPath source target maxHops nodeFilter).Returns
          (raw.consolidate options.includeSubsidiary)) := by
  refine ⟨raw.consolidate_false, raw.consolidate_true, raw.isClosed_consolidate, ?_, ?_⟩
  · intro σ engine
    exact ⟨engine.filterGraph_ensures_closed, engine.shortestPath_ensures_closed⟩
  · intro m _ _ options
    constructor
    · intro request nodeCondition edgeCondition hmode hnodes hedges hnodeNames hedgeNames
      exact answering_filterGraph hmode hnodes hedges hnodeNames hedgeNames
    · intro source target maxHops nodeFilter c hdecode hnames
      exact answering_shortestPath hdecode hnames

/-- An answer with a node and an edge given twice, a marked node, a loop at a missing node and an
    edge whose ends are both missing. -/
def tangle : Subgraph where
  nodes := [⟨1, false⟩, ⟨2, true⟩, ⟨1, true⟩]
  edges := [⟨10, 1, 2⟩, ⟨11, 8, 8⟩, ⟨10, 9, 9⟩, ⟨12, 7, 8⟩, ⟨13, 2, 2⟩]

/-- An engine that closes it with stubs answers a request without conditions. -/
theorem answers_consolidated_tangle :
    ((answering tangle { includeSubsidiary := true } : Engine Id).filterGraph {}).Returns
        ⟨[⟨1, false⟩, ⟨2, true⟩, ⟨8, true⟩, ⟨7, true⟩],
          [⟨10, 1, 2⟩, ⟨11, 8, 8⟩, ⟨12, 7, 8⟩, ⟨13, 2, 2⟩]⟩ ∧
      tangle.consolidate false = ⟨[⟨1, false⟩, ⟨2, true⟩], [⟨10, 1, 2⟩, ⟨13, 2, 2⟩]⟩ ∧
      (tangle.consolidate true).IsClosed := by
  obtain ⟨hwithout, hwith, hclosed, -, hreturns⟩ := answers_consolidated tangle
  refine ⟨?_, ?_, hclosed true⟩
  · have hanswer := (hreturns Id { includeSubsidiary := true }).1 {} (.all []) (.all [])
      (by decide) rfl rfl (fun h => nomatch h) (fun h => nomatch h)
    exact hanswer
  · rw [hwithout]
    decide

end Engine

end GraphFilter
