import GraphFilter.Proofs.Condition.Validity
import GraphFilter.Proofs.Engine.Runs
import GraphFilter.Proofs.Query.Refusal

/-!
# `GraphFilter.Proofs.Engine.Calls` — which calls a rejected request has made

A request that is at fault should cost the store nothing. That is so for everything an engine does,
with one exception: a request for a subgraph has its two conditions compiled one by one, and the
node half has been answered when the edge half turns out to hold a name that cannot be written.

## Contents
- **Selecting.** `select_rejects_iff`, `careful_selectNodes` and their like.
- **Requests.** Three of the four are careful; `filterGraph_eq` takes the fourth apart.
- **Calls.** `Engine.Call` is any of the four requests, and `Engine.perform` what the engine does.
- **Keeping calls.** `tracks_perform`: that an engine answers as it does if no calls are kept.
- **The exception.** `Engine.RejectsLate`, and what it costs
  (`RejectsLate.rejects_after_query`).
- **Main result.** `rejected_calls_nothing_iff`.
-/

namespace GraphFilter.Engine

/-- The same engine over a store that keeps its calls. -/
def recorded {m : Type → Type} [Monad m] (engine : Engine m) :
    Engine (StateT (List StoreCall) m) where
  store := engine.store.recorded
  options := engine.options

variable {σ : Type}

/-! ## Selecting -/

/-- The situation after the warnings about a condition that is compiled. -/
def warned (engine : Engine (Recorded σ)) (kind : EntityKind) (c : Condition) (s : Situation σ) :
    Situation σ :=
  { s with
    journal := s.journal ++
      List.replicate (Query.Compiler.emptyAnys engine.options.strategy c)
        (.warn s!"Empty 'any' condition places no constraint on {kind.name}s") }

section Selecting

variable {engine : Engine (Recorded σ)} {kind : EntityKind} {c : Condition} {s : Situation σ}

theorem quiet_compile : (engine.compile kind c).Quiet :=
  (Run.quiet_noteTimes _ _).bind fun _ => Run.quiet_ofCondition _

theorem exec_compile :
    (engine.compile kind c).exec s =
      (((engine.compiler kind).query c).mapError .condition, engine.warned kind c s) := rfl

/-- Compiling blames the request exactly if a name cannot be written. -/
theorem compile_rejects_iff :
    (engine.compile kind c).Rejects s ↔ ¬ c.Writable engine.options.strategy := by
  have hfails : (∃ e, (engine.compiler kind).query c = .error e) ↔
      ¬ c.Writable engine.options.strategy := (engine.compiler kind).query_fails_iff c
  rw [Run.Rejects, exec_compile, ← hfails]
  exact Run.rejects_ofCondition (s := s)

variable {E R : Type} {query : Query.ReadQuery → Recorded σ (Except StoreError (List R))}
  {fetch : Recorded σ (Except StoreError (List E))} {evaluate : Condition → List E → List R}

/-- What remains of a selection when its condition has been checked. -/
theorem blameless_evaluating :
    (do let candidates ← Run.ofStore fetch
        noteMatchesAll kind c
        return evaluate c candidates : Run (Recorded σ) (List R)).Blameless :=
  (Run.blameless_ofStore _).bind fun _ =>
    (Run.blameless_noteTimes _ _).bind fun _ => Run.blameless_pure _

/-- A selection calls the store only for a condition that it will not reject. -/
theorem careful_select : (engine.select kind query fetch evaluate c).Careful := by
  refine (Run.quiet_ofCondition _).bind_careful fun _ => ?_
  split
  · exact quiet_compile.careful.bind_blameless fun _ => Run.blameless_ofStore _
  · exact blameless_evaluating.careful

/-- A valid condition is rejected only where it is compiled, for a name that cannot be written. -/
theorem select_rejects_iff (hvalid : c.validate = .ok ()) :
    (engine.select kind query fetch evaluate c).Rejects s ↔
      engine.usesPushdown = true ∧ ¬ c.Writable engine.options.strategy := by
  rw [select, hvalid, Run.ofCondition_ok_bind]
  cases hpushdown : engine.usesPushdown with
  | true =>
    rw [if_pos rfl, Run.Blameless.rejects_bind_iff fun _ => Run.blameless_ofStore _,
      compile_rejects_iff]
    simp
  | false =>
    rw [if_neg (by simp)]
    exact iff_of_false (blameless_evaluating s) (by simp)

theorem careful_selectNodes : (engine.selectNodes c).Careful :=
  careful_select.bind_blameless fun _ => Run.blameless_pure _

theorem careful_selectEdges : (engine.selectEdges c).Careful :=
  careful_select.bind_blameless fun _ => Run.blameless_pure _

theorem selectNodes_rejects_iff (hvalid : c.validate = .ok ()) :
    (engine.selectNodes c).Rejects s ↔
      engine.usesPushdown = true ∧ ¬ c.Writable engine.options.strategy := by
  rw [selectNodes, Run.Blameless.rejects_bind_iff fun _ => Run.blameless_pure _,
    select_rejects_iff hvalid]

theorem selectEdges_rejects_iff (hvalid : c.validate = .ok ()) :
    (engine.selectEdges c).Rejects s ↔
      engine.usesPushdown = true ∧ ¬ c.Writable engine.options.strategy := by
  rw [selectEdges, Run.Blameless.rejects_bind_iff fun _ => Run.blameless_pure _,
    select_rejects_iff hvalid]

end Selecting

/-! ## Requests -/

section Requests

variable {engine : Engine (Recorded σ)} {s : Situation σ}

theorem careful_filterNodes (payload : Json) : (engine.filterNodes payload).Careful :=
  (Run.quiet_ofCondition _).bind_careful fun _ => careful_selectNodes

theorem careful_filterEdges (payload : Json) : (engine.filterEdges payload).Careful :=
  (Run.quiet_ofCondition _).bind_careful fun _ => careful_selectEdges

/-- The only call of a request for a path comes after everything that may be wrong with it. -/
theorem careful_shortestPath (source target : EntityId) (maxHops : Option UInt32)
    (nodeFilter : Option Json) :
    (engine.shortestPath source target maxHops nodeFilter).Careful := by
  refine (Run.quiet_ofCondition _).bind_careful fun _ => ?_
  refine (Run.quiet_noteTimes _ _).bind_careful fun _ => ?_
  refine (Run.quiet_ofCondition _).bind_careful fun _ => ?_
  refine (Run.quiet_note _).bind_careful fun _ => ?_
  exact ((Run.blameless_ofStore _).bind fun _ => Run.blameless_pure _).careful

/-- What remains of a request for a subgraph when its nodes are there. -/
def finishGraph (engine : Engine (Recorded σ)) (request : Request) (c : Condition)
    (nodes : List NodeRef) : Run (Recorded σ) Subgraph := do
  let edges ← engine.selectEdges c
  let withStubs := request.includeSubsidiary.getD engine.options.includeSubsidiary
  let result := Subgraph.consolidate ⟨nodes, edges⟩ withStubs
  Run.note (.info
    s!"Filtered graph: {result.nodes.length} node(s), {result.edges.length} edge(s)")
  return result

theorem filterGraph_eq {request : Request} {nodeCondition edgeCondition : Condition}
    (hnodes : decodeOrAll request.nodes = .ok nodeCondition)
    (hedges : decodeOrAll request.edges = .ok edgeCondition) :
    engine.filterGraph request =
      engine.selectNodes nodeCondition >>= engine.finishGraph request edgeCondition := by
  rw [filterGraph, hnodes, hedges, Run.ofCondition_ok_bind, Run.ofCondition_ok_bind]
  rfl

theorem careful_finishGraph {request : Request} {c : Condition} (nodes : List NodeRef) :
    (engine.finishGraph request c nodes).Careful :=
  careful_selectEdges.bind_blameless fun _ =>
    (Run.blameless_note _).bind fun _ => Run.blameless_pure _

theorem finishGraph_rejects_iff {request : Request} {c : Condition} {nodes : List NodeRef}
    (hvalid : c.validate = .ok ()) :
    (engine.finishGraph request c nodes).Rejects s ↔
      engine.usesPushdown = true ∧ ¬ c.Writable engine.options.strategy := by
  rw [finishGraph, Run.Blameless.rejects_bind_iff fun _ =>
    (Run.blameless_note _).bind fun _ => Run.blameless_pure _, selectEdges_rejects_iff hvalid]

end Requests

/-- A condition that was read, or that asks nothing, is valid. -/
theorem validate_of_decodeOrAll {payload : Option Json} {c : Condition}
    (h : decodeOrAll payload = .ok c) : c.validate = .ok () := by
  cases payload with
  | none =>
    obtain rfl := Except.ok.inj h
    rfl
  | some document => exact Condition.validate_of_decode h

/-! ## Calls -/

/-- A request to an engine. -/
inductive Call
  | filterNodes (payload : Json)
  | filterEdges (payload : Json)
  | filterGraph (request : Request)
  | shortestPath (source target : EntityId) (maxHops : Option UInt32) (nodeFilter : Option Json)

/-- What a request is answered with. -/
def Call.Answer : Call → Type
  | .filterNodes _ => List NodeRef
  | .filterEdges _ => List EdgeRef
  | .filterGraph _ | .shortestPath .. => Subgraph

/-- What an engine does about a request. -/
def perform {m : Type → Type} [Monad m] (engine : Engine m) : (call : Call) → Run m call.Answer
  | .filterNodes payload => engine.filterNodes payload
  | .filterEdges payload => engine.filterEdges payload
  | .filterGraph request => engine.filterGraph request
  | .shortestPath source target maxHops nodeFilter =>
    engine.shortestPath source target maxHops nodeFilter

/-! ## Keeping calls -/

section Keeping

variable {engine : Engine (StateM σ)} {kind : EntityKind} {c : Condition}

theorem tracks_compile :
    Run.Tracks (engine.recorded.compile kind c) (engine.compile kind c) :=
  (Run.Tracks.noteTimes _ _).bind fun _ => Run.Tracks.ofCondition _

theorem tracks_select {E R : Type} {asked : Query.ReadQuery → StoreCall} {fetched : StoreCall}
    {query : Query.ReadQuery → StateM σ (Except StoreError (List R))}
    {fetch : StateM σ (Except StoreError (List E))} {evaluate : Condition → List E → List R} :
    Run.Tracks
      (engine.recorded.select kind (fun q => (asked q).noting (query q)) (fetched.noting fetch)
        evaluate c)
      (engine.select kind query fetch evaluate c) := by
  refine (Run.Tracks.ofCondition _).bind fun _ => ?_
  have hmode : engine.recorded.usesPushdown = engine.usesPushdown := rfl
  rw [hmode]
  by_cases hpushdown : engine.usesPushdown = true
  · rw [if_pos hpushdown, if_pos hpushdown]
    exact tracks_compile.bind fun _ => Run.Tracks.ofStore _ _
  · rw [if_neg hpushdown, if_neg hpushdown]
    refine (Run.Tracks.ofStore _ _).bind fun _ => ?_
    exact (Run.Tracks.noteTimes _ _).bind fun _ => Run.Tracks.pure _

theorem tracks_selectNodes :
    Run.Tracks (engine.recorded.selectNodes c) (engine.selectNodes c) :=
  tracks_select.bind fun _ => Run.Tracks.pure _

theorem tracks_selectEdges :
    Run.Tracks (engine.recorded.selectEdges c) (engine.selectEdges c) :=
  tracks_select.bind fun _ => Run.Tracks.pure _

/-- **Keeping calls changes nothing else.** The engine answers, writes and leaves the world of its
    store as it does without. -/
theorem tracks_perform (call : Call) :
    Run.Tracks (engine.recorded.perform call) (engine.perform call) := by
  cases call with
  | filterNodes payload =>
    exact (Run.Tracks.ofCondition _).bind fun _ => tracks_selectNodes
  | filterEdges payload =>
    exact (Run.Tracks.ofCondition _).bind fun _ => tracks_selectEdges
  | filterGraph request =>
    refine (Run.Tracks.ofCondition _).bind fun _ => ?_
    refine (Run.Tracks.ofCondition _).bind fun _ => ?_
    refine tracks_selectNodes.bind fun _ => ?_
    refine tracks_selectEdges.bind fun _ => ?_
    exact (Run.Tracks.note _).bind fun _ => Run.Tracks.pure _
  | shortestPath source target maxHops nodeFilter =>
    refine (Run.Tracks.ofCondition _).bind fun _ => ?_
    refine (Run.Tracks.noteTimes _ _).bind fun _ => ?_
    refine (Run.Tracks.ofCondition _).bind fun _ => ?_
    refine (Run.Tracks.note _).bind fun _ => ?_
    exact (Run.Tracks.ofStore _ _).bind fun _ => Run.Tracks.pure _

end Keeping

/-! ## The exception -/

section Exception

variable {engine : Engine (StateM σ)} {c : Condition} {s : Situation σ}

/-- A selection of nodes is answered after a single call. -/
theorem asksOnce_selectNodes : (engine.recorded.selectNodes c).AsksOnce := by
  refine Run.AsksOnce.bind_quiet ?_ fun _ => Run.quiet_pure _
  refine (Run.quiet_ofCondition _).bind_asksOnce fun _ => ?_
  split
  · exact quiet_compile.bind_asksOnce fun _ => Run.asksOnce_ofStore_noting _ _
  · refine (Run.asksOnce_ofStore_noting _ _).bind_quiet fun _ => ?_
    exact (Run.quiet_noteTimes _ _).bind fun _ => Run.quiet_pure _

/-- The node half of a request has been compiled and answered by the store, and a name in the edge
    half cannot be written. -/
inductive RejectsLate (engine : Engine (StateM σ)) (world : σ) : Call → Prop
  | edges {request : Request} {nodeCondition edgeCondition : Condition} {q : Query.ReadQuery}
      {nodes : List NodeRef} : engine.usesPushdown = true →
      decodeOrAll request.nodes = .ok nodeCondition →
      decodeOrAll request.edges = .ok edgeCondition →
      (engine.compiler .node).query nodeCondition = .ok q →
      ((engine.store.queryNodes q).run world).1 = .ok nodes →
      ¬ edgeCondition.Writable engine.options.strategy →
      RejectsLate engine world (.filterGraph request)

/-- Nodes that are queried: the store has the answer, and was asked once. -/
theorem selectNodes_pushdown {q : Query.ReadQuery} (hvalid : c.validate = .ok ())
    (hpushdown : engine.usesPushdown = true) (hq : (engine.compiler .node).query c = .ok q) :
    ((engine.recorded.selectNodes c).exec s).1 =
        (((engine.store.queryNodes q).run s.world).1.mapError .store).map (firstPerId NodeRef.id) ∧
      ((engine.recorded.selectNodes c).exec s).2.calls = s.calls ++ [.queryNodes q] := by
  have hpushdown' : engine.recorded.usesPushdown = true := hpushdown
  have hq' : (engine.recorded.compiler .node).query c = .ok q := hq
  have hcompile : (engine.recorded.compile .node c).exec s =
      (.ok q, engine.recorded.warned .node c s) := by
    rw [exec_compile, hq']
    rfl
  have hselect : (engine.recorded.select .node engine.recorded.store.queryNodes
      engine.recorded.store.fetchNodes Condition.selectNodes c).exec s =
        (Run.ofStore ((StoreCall.queryNodes q).noting (engine.store.queryNodes q))).exec
          (engine.recorded.warned .node c s) := by
    rw [select, hvalid, Run.ofCondition_ok_bind, if_pos hpushdown', Run.exec_bind_ok hcompile]
    rfl
  rw [Run.exec_ofStore_noting] at hselect
  rw [selectNodes, Run.exec_bind, hselect]
  have hworld : (engine.recorded.warned .node c s).world = s.world := rfl
  rw [hworld]
  cases ((engine.store.queryNodes q).run s.world).1 with
  | ok nodes => exact ⟨rfl, rfl⟩
  | error e => exact ⟨rfl, rfl⟩

theorem exists_answer_of_selectNodes {nodes : List NodeRef} (hvalid : c.validate = .ok ())
    (hpushdown : engine.usesPushdown = true)
    (hnodes : ((engine.recorded.selectNodes c).exec s).1 = .ok nodes) :
    ∃ q answer, (engine.compiler .node).query c = .ok q ∧
      ((engine.store.queryNodes q).run s.world).1 = .ok answer := by
  -- An answer is no rejection, so every name could be written.
  have hname : c.Writable engine.options.strategy := by
    by_contra hname
    have hrejects : (engine.recorded.selectNodes c).Rejects s :=
      (selectNodes_rejects_iff hvalid).mpr ⟨hpushdown, hname⟩
    obtain ⟨e, he, -⟩ := hrejects
    exact nomatch hnodes.symm.trans he
  obtain ⟨q, hq⟩ := (engine.compiler .node).exists_query_of_writable hname
  have hanswer := (selectNodes_pushdown (s := s) hvalid hpushdown hq).1
  cases hstore : ((engine.store.queryNodes q).run s.world).1 with
  | ok answer => exact ⟨q, answer, hq, hstore⟩
  | error e =>
    rw [hnodes, hstore] at hanswer
    exact nomatch hanswer

/-- A request that is rejected late has cost the node query. -/
theorem RejectsLate.rejects_after_query {world : σ} {call : Call}
    (h : engine.RejectsLate world call) :
    (engine.recorded.perform call).Rejects { world } ∧
      ∃ q, ((engine.recorded.perform call).exec { world }).2.calls = [.queryNodes q] := by
  cases h with
  | @edges request nodeCondition edgeCondition q nodes hpushdown hnodes hedges hq hanswer hname =>
    obtain ⟨hselected, hcalls⟩ := selectNodes_pushdown (s := { world })
      (validate_of_decodeOrAll hnodes) hpushdown hq
    rw [hanswer] at hselected
    have hrejects : (engine.recorded.finishGraph request edgeCondition
        (firstPerId NodeRef.id nodes)).Rejects
        ((engine.recorded.selectNodes nodeCondition).exec { world }).2 :=
      (finishGraph_rejects_iff (validate_of_decodeOrAll hedges)).mpr ⟨hpushdown, hname⟩
    show (engine.recorded.filterGraph request).Rejects { world } ∧
      ∃ q, ((engine.recorded.filterGraph request).exec { world }).2.calls = [.queryNodes q]
    rw [filterGraph_eq hnodes hedges]
    refine ⟨Run.rejects_bind.mpr (Or.inr ⟨_, hselected, hrejects⟩), q, ?_⟩
    rw [Run.exec_bind_ok (Prod.ext hselected rfl), careful_finishGraph _ _ hrejects, hcalls]
    rfl

/-- A request for a subgraph that is rejected, but not late, has called nothing. -/
theorem filterGraph_calls_nothing {request : Request} {world : σ}
    (hlate : ¬ engine.RejectsLate world (.filterGraph request))
    (hrejects : (engine.recorded.filterGraph request).Rejects { world }) :
    ((engine.recorded.filterGraph request).exec { world }).2.calls = [] := by
  cases hnodes : decodeOrAll request.nodes with
  | error e => rw [filterGraph, hnodes, Run.exec_ofCondition_error_bind]
  | ok nodeCondition =>
    cases hedges : decodeOrAll request.edges with
    | error e =>
      rw [filterGraph, hnodes, hedges, Run.ofCondition_ok_bind, Run.exec_ofCondition_error_bind]
    | ok edgeCondition =>
      rw [filterGraph_eq hnodes hedges] at hrejects ⊢
      refine (asksOnce_selectNodes.calls_eq_iff careful_selectNodes careful_finishGraph
        hrejects).mpr ?_
      -- Had the nodes not been rejected, the edges would have been, and that is late.
      by_contra hfirst
      obtain ⟨nodes, hanswer, hsecond⟩ := (Run.rejects_bind.mp hrejects).resolve_left hfirst
      obtain ⟨hpushdown, hname⟩ :=
        (finishGraph_rejects_iff (validate_of_decodeOrAll hedges)).mp hsecond
      obtain ⟨q, answer, hq, hstore⟩ :=
        exists_answer_of_selectNodes (validate_of_decodeOrAll hnodes) hpushdown hanswer
      exact hlate (.edges hpushdown hnodes hedges hq hstore hname)

end Exception

/-! ## Main result -/

/-- **A rejected request has called nothing, unless it is rejected late.** -/
theorem rejected_calls_nothing_iff (engine : Engine (StateM σ)) (call : Call) (world : σ) :
    ((engine.recorded.perform call).Rejects { world } →
      ((engine.recorded.perform call).exec { world }).2.calls = []) ↔
      ¬ engine.RejectsLate world call := by
  constructor
  · intro h hlate
    obtain ⟨hrejects, q, hcalls⟩ := hlate.rejects_after_query
    rw [h hrejects] at hcalls
    exact nomatch hcalls
  · intro hlate
    cases call with
    | filterNodes payload => exact careful_filterNodes payload _
    | filterEdges payload => exact careful_filterEdges payload _
    | shortestPath source target maxHops nodeFilter =>
      exact careful_shortestPath source target maxHops nodeFilter _
    | filterGraph request => exact filterGraph_calls_nothing hlate

/-- An engine that writes names into queries, over a store that evaluates conditions itself and
    finds nothing. -/
def barrenEngine : Engine (StateM Unit) where
  store :=
    { name := "barren"
      fetchNodes := pure (.ok [])
      fetchEdges := pure (.ok [])
      supportsPushdown := true
      queryNodes := fun _ => pure (.ok [])
      queryEdges := fun _ => pure (.ok []) }
  options := { strategy := .inline }

/-- A request that asks nothing of nodes and names a property of edges that cannot be written. -/
def spacedRequest : Request where
  edges := some (Condition.matchProperty "a b" .null).toJson

/-- It is rejected after its nodes were queried. -/
theorem spacedRequest_rejected_after_query :
    (barrenEngine.recorded.perform (.filterGraph spacedRequest)).Rejects { world := () } ∧
      ((barrenEngine.recorded.perform (.filterGraph spacedRequest)).exec
        { world := () }).2.calls ≠ [] := by
  have hlate : barrenEngine.RejectsLate () (.filterGraph spacedRequest) := by
    refine .edges rfl rfl rfl rfl rfl ?_
    intro hname
    exact absurd (hname rfl "a b" _ List.mem_cons_self) (by decide)
  obtain ⟨hrejects, q, hcalls⟩ := hlate.rejects_after_query
  refine ⟨hrejects, ?_⟩
  rw [hcalls]
  simp

end GraphFilter.Engine
