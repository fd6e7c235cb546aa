import GraphFilter.Engine
import GraphFilter.Proofs.Graph.Consolidation

/-!
# `GraphFilter.Proofs.Engine.Returns` — runs that end with a known answer

What a run answers can depend on the store alone. `Run.Returns` says so for a run whose calls are all
answered at once: from any journal it ends with one answer and has only added lines.

## Contents
- **Returning.** `Run.Returns`, with a law for every kind of step.
- **Selecting.** `returns_select_fetched` for conditions evaluated here, `returns_select_queried` for
  those that the store evaluates.
- **Requests.** `returns_filterGraph` and `returns_shortestPath`.
-/

namespace GraphFilter

variable {m : Type → Type} [Monad m] [LawfulMonad m] {α β : Type}

/-! ## Returning -/

namespace Run

/-- The run ends with an answer whatever was written before it, and only adds lines. -/
def Returns (run : Run m α) (a : α) : Prop :=
  ∀ journal, ∃ lines, run.run.run journal = pure (.ok a, journal ++ lines)

omit [LawfulMonad m] in
theorem returns_pure (a : α) : (pure a : Run m α).Returns a := by
  intro journal
  refine ⟨[], ?_⟩
  rw [List.append_nil]
  rfl

omit [LawfulMonad m] in
theorem returns_ofCondition (a : α) : (ofCondition (.ok a) : Run m α).Returns a :=
  returns_pure a

theorem returns_noteTimes (n : Nat) (line : JournalLine) :
    (noteTimes n line : Run m Unit).Returns () := by
  intro journal
  refine ⟨List.replicate n line, ?_⟩
  -- The step as `StateT` makes it, with its unit put into the outcome.
  show (pure ((), journal ++ List.replicate n line) >>= fun p => pure (Except.ok p.1, p.2)) = _
  rw [pure_bind]

theorem returns_note (line : JournalLine) : (note line : Run m Unit).Returns () :=
  returns_noteTimes 1 line

/-- A call that is answered at once. -/
theorem returns_ofStore {call : m (Except StoreError α)} {a : α} (h : call = pure (.ok a)) :
    (ofStore call : Run m α).Returns a := by
  intro journal
  refine ⟨[], ?_⟩
  subst h
  unfold ofStore
  simp [ExceptT.run, ExceptT.mk, Except.mapError]

theorem Returns.bind {run : Run m α} {next : α → Run m β} {a : α} {b : β} (hrun : run.Returns a)
    (hnext : (next a).Returns b) : (run >>= next).Returns b := by
  intro journal
  obtain ⟨lines, hlines⟩ := hrun journal
  obtain ⟨more, hmore⟩ := hnext (journal ++ lines)
  refine ⟨lines ++ more, ?_⟩
  rw [ExceptT.run_bind, StateT.run_bind, hlines, pure_bind, ← List.append_assoc]
  exact hmore

end Run

namespace Engine

variable {engine : Engine m}

/-! ## Selecting -/

section Selecting

variable {E R : Type} {kind : EntityKind} {query : Query.ReadQuery → m (Except StoreError (List R))}
  {fetch : m (Except StoreError (List E))} {evaluate : Condition → List E → List R} {c : Condition}

/-- A condition evaluated here, on entities that the store hands out at once. -/
theorem returns_select_fetched {es : List E} (hvalid : c.validate = .ok ())
    (hpushdown : engine.usesPushdown = false) (hfetch : fetch = pure (.ok es)) :
    (engine.select kind query fetch evaluate c).Returns (evaluate c es) := by
  unfold select
  rw [hvalid, hpushdown, if_neg Bool.false_ne_true]
  refine (Run.returns_ofCondition ()).bind ?_
  refine (Run.returns_ofStore hfetch).bind ?_
  exact (Run.returns_noteTimes _ _).bind (Run.returns_pure _)

/-- A condition that the store evaluates, when it answers its query at once. -/
theorem returns_select_queried {q : Query.ReadQuery} {found : List R} (hvalid : c.validate = .ok ())
    (hpushdown : engine.usesPushdown = true) (hq : (engine.compiler kind).query c = .ok q)
    (hquery : query q = pure (.ok found)) :
    (engine.select kind query fetch evaluate c).Returns found := by
  unfold select compile
  rw [hvalid, hq, hpushdown, if_pos rfl]
  refine (Run.returns_ofCondition ()).bind ?_
  refine Run.Returns.bind ?_ (Run.returns_ofStore hquery)
  exact (Run.returns_noteTimes _ _).bind (Run.returns_ofCondition q)

/-- What a selection of nodes answers, the first of each id. -/
theorem returns_selectNodes {nodes : List NodeRef}
    (h : (engine.select .node engine.store.queryNodes engine.store.fetchNodes
      Condition.selectNodes c).Returns nodes) :
    (engine.selectNodes c).Returns (firstPerId NodeRef.id nodes) :=
  h.bind (Run.returns_pure _)

theorem returns_selectEdges {edges : List EdgeRef}
    (h : (engine.select .edge engine.store.queryEdges engine.store.fetchEdges
      Condition.selectEdges c).Returns edges) :
    (engine.selectEdges c).Returns (firstPerId EdgeRef.id edges) :=
  h.bind (Run.returns_pure _)

end Selecting

/-! ## Requests -/

/-- Both conditions are answered: the answer of the request is consolidated from them. -/
theorem returns_filterGraph {request : Request} {nodeCondition edgeCondition : Condition}
    {nodes : List NodeRef} {edges : List EdgeRef}
    (hdecodeNodes : decodeOrAll request.nodes = .ok nodeCondition)
    (hdecodeEdges : decodeOrAll request.edges = .ok edgeCondition)
    (hnodes : (engine.select .node engine.store.queryNodes engine.store.fetchNodes
      Condition.selectNodes nodeCondition).Returns nodes)
    (hedges : (engine.select .edge engine.store.queryEdges engine.store.fetchEdges
      Condition.selectEdges edgeCondition).Returns edges) :
    (engine.filterGraph request).Returns
      (Subgraph.consolidate ⟨nodes, edges⟩
        (request.includeSubsidiary.getD engine.options.includeSubsidiary)) := by
  unfold filterGraph
  rw [hdecodeNodes, hdecodeEdges, ← Subgraph.consolidate_firstPerId]
  refine (Run.returns_ofCondition nodeCondition).bind ?_
  refine (Run.returns_ofCondition edgeCondition).bind ?_
  refine (returns_selectNodes hnodes).bind ?_
  refine (returns_selectEdges hedges).bind ?_
  exact (Run.returns_note _).bind (Run.returns_pure _)

theorem returns_shortestPath {source target : EntityId} {maxHops : Option UInt32}
    {nodeFilter : Option Json} {c : Condition} {predicate : Query.Predicate} {path : Subgraph}
    (hdecode : decodeOrAll nodeFilter = .ok c)
    (hpredicate : (engine.compiler .node).predicate c = .ok predicate)
    (hpath : engine.store.shortestPath ⟨source, target, maxHops, predicate⟩ = pure (.ok path)) :
    (engine.shortestPath source target maxHops nodeFilter).Returns
      (path.consolidate engine.options.includeSubsidiary) := by
  unfold shortestPath
  rw [hdecode]
  refine (Run.returns_ofCondition c).bind ?_
  refine (Run.returns_noteTimes _ _).bind ?_
  rw [hpredicate]
  refine (Run.returns_ofCondition predicate).bind ?_
  refine (Run.returns_note _).bind ?_
  exact (Run.returns_ofStore hpath).bind (Run.returns_pure _)

end Engine

end GraphFilter
