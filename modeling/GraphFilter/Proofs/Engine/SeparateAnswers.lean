import GraphFilter.Engine
import GraphFilter.Proofs.Graph.Delivery

/-!
# `GraphFilter.Proofs.Engine.SeparateAnswers` — one request for a subgraph, or two for its halves

A subgraph may be asked for at once, or its nodes and its edges may be asked for one by one. Over a
store whose answers depend on the calls alone it comes to the same: the whole request is answered if
both halves are, and its answer is put together from theirs.

## Contents
- **Steady runs.** `Run.Gives`: a run ends in one way whatever it finds, and `Run.IsSteady` for a run
  that gives something or other. `Run.IsDetermined` runs always end with the same answer or the same
  error, with a law for every kind of step.
- **Steady stores.** `GraphStore.AnswersSteadily`; selections over such a store are steady.
- **The whole from its halves.** `exists_gives_filterGraph`.
- **Consolidating separate answers.** `Subgraph.Joins`, and `joins_consolidate`.
- **Main result.** `filterGraph_agrees`.
-/

namespace GraphFilter

variable {σ α β : Type}

/-! ## Steady runs -/

namespace Run

/-- The answer of a run that finds a journal and a world of its store. -/
def answer (run : Run (StateM σ) α) (journal : Journal) (world : σ) : Except EngineError α :=
  ((run.run.run journal).run world).1.1

/-- A second step is made where the first one ended, and not at all if that failed. -/
theorem answer_bind (run : Run (StateM σ) α) (next : α → Run (StateM σ) β) (journal : Journal)
    (world : σ) : (run >>= next).answer journal world =
      match run.answer journal world with
      | .ok a => (next a).answer ((run.run.run journal).run world).1.2
          ((run.run.run journal).run world).2
      | .error e => .error e := by
  unfold answer ExceptT.run StateT.run
  simp only [Bind.bind, ExceptT.bind, ExceptT.mk, StateT.bind]
  rcases run journal world with ⟨⟨answer | a, journal'⟩, world'⟩
  · rfl
  · rfl

/-- Whatever the run finds, it ends with this answer; with none it ends with some error. -/
def Gives (run : Run (StateM σ) α) (a? : Option α) : Prop :=
  ∀ journal world, (run.answer journal world).toOption = a?

theorem gives_pure (a : α) : (pure a : Run (StateM σ) α).Gives (some a) :=
  fun _ _ => rfl

theorem gives_note (line : JournalLine) : (note line : Run (StateM σ) Unit).Gives (some ()) :=
  fun _ _ => rfl

theorem gives_ofCondition (checked : Except Condition.Error α) :
    (ofCondition checked : Run (StateM σ) α).Gives checked.toOption := by
  intro _ _
  cases checked with
  | error e => rfl
  | ok a => rfl

theorem Gives.bind {run : Run (StateM σ) α} {next : α → Run (StateM σ) β} {a? : Option α}
    {b? : α → Option β} (hrun : run.Gives a?) (hnext : ∀ a, (next a).Gives (b? a)) :
    (run >>= next).Gives (a?.bind b?) := by
  intro journal world
  have hfirst := hrun journal world
  rw [answer_bind]
  cases hanswer : run.answer journal world with
  | error e =>
    rw [hanswer] at hfirst
    obtain rfl := hfirst
    rfl
  | ok a =>
    rw [hanswer] at hfirst
    obtain rfl := hfirst
    exact hnext a _ _

theorem Gives.answer_eq_ok_iff {run : Run (StateM σ) α} {a? : Option α} (h : run.Gives a?)
    (journal : Journal) (world : σ) (a : α) : run.answer journal world = .ok a ↔ a? = some a := by
  rw [← h journal world]
  cases run.answer journal world with
  | error e => exact iff_of_false (nomatch ·) (nomatch ·)
  | ok b => exact ⟨congrArg Except.toOption, fun hb => congrArg Except.ok (Option.some.inj hb)⟩

/-- However often the run is made, it ends in one way. -/
def IsSteady (run : Run (StateM σ) α) : Prop :=
  ∃ a?, run.Gives a?

/-- However often the run is made and whatever it finds, it ends with the same answer or with the
    same error. -/
def IsDetermined (run : Run (StateM σ) α) : Prop :=
  ∀ journal world journal' world', run.answer journal world = run.answer journal' world'

theorem isDetermined_pure (a : α) : (pure a : Run (StateM σ) α).IsDetermined :=
  fun _ _ _ _ => rfl

theorem isDetermined_noteTimes (n : Nat) (line : JournalLine) :
    (noteTimes n line : Run (StateM σ) Unit).IsDetermined :=
  fun _ _ _ _ => rfl

theorem isDetermined_note (line : JournalLine) :
    (note line : Run (StateM σ) Unit).IsDetermined :=
  fun _ _ _ _ => rfl

theorem isDetermined_ofCondition (checked : Except Condition.Error α) :
    (ofCondition checked : Run (StateM σ) α).IsDetermined :=
  fun _ _ _ _ => rfl

/-- A call is determined if its answer is the same in every world. -/
theorem isDetermined_ofStore {call : StateM σ (Except StoreError α)}
    (h : ∀ world other, (call.run world).1 = (call.run other).1) :
    (ofStore call).IsDetermined := by
  intro journal world journal' world'
  show (call.run world).1.mapError EngineError.store = (call.run world').1.mapError .store
  rw [h world world']

theorem IsDetermined.bind {run : Run (StateM σ) α} {next : α → Run (StateM σ) β}
    (hrun : run.IsDetermined) (hnext : ∀ a, (next a).IsDetermined) :
    (run >>= next).IsDetermined := by
  intro journal world journal' world'
  rw [answer_bind, answer_bind, hrun journal world journal' world']
  cases run.answer journal' world' with
  | error e => rfl
  | ok a => exact hnext a _ _ _ _

theorem IsDetermined.isSteady {run : Run (StateM σ) α} (h : run.IsDetermined) :
    run.IsSteady := by
  by_cases hworld : Nonempty σ
  · obtain ⟨world⟩ := hworld
    exact ⟨_, fun journal other => congrArg Except.toOption (h journal other [] world)⟩
  · -- There is no world to run in.
    exact ⟨none, fun _ world => absurd ⟨world⟩ hworld⟩

end Run

/-! ## Steady stores -/

/-- What the store hands out and how it answers a query is the same in every world. -/
structure GraphStore.AnswersSteadily (store : GraphStore (StateM σ)) : Prop where
  fetchNodes : ∀ world other, (store.fetchNodes.run world).1 = (store.fetchNodes.run other).1
  fetchEdges : ∀ world other, (store.fetchEdges.run world).1 = (store.fetchEdges.run other).1
  queryNodes : ∀ q world other,
    ((store.queryNodes q).run world).1 = ((store.queryNodes q).run other).1
  queryEdges : ∀ q world other,
    ((store.queryEdges q).run world).1 = ((store.queryEdges q).run other).1

namespace Engine

section Steady

variable (engine : Engine (StateM σ)) (c : Condition)

theorem isDetermined_compile (kind : EntityKind) : (engine.compile kind c).IsDetermined :=
  (Run.isDetermined_noteTimes _ _).bind fun _ => Run.isDetermined_ofCondition _

theorem isDetermined_select {E R : Type} (kind : EntityKind)
    {query : Query.ReadQuery → StateM σ (Except StoreError (List R))}
    {fetch : StateM σ (Except StoreError (List E))} (evaluate : Condition → List E → List R)
    (hquery : ∀ q world other, ((query q).run world).1 = ((query q).run other).1)
    (hfetch : ∀ world other, (fetch.run world).1 = (fetch.run other).1) :
    (engine.select kind query fetch evaluate c).IsDetermined := by
  unfold select
  refine (Run.isDetermined_ofCondition _).bind fun _ => ?_
  by_cases hpushdown : engine.usesPushdown = true
  · rw [if_pos hpushdown]
    exact (engine.isDetermined_compile c kind).bind fun q => Run.isDetermined_ofStore (hquery q)
  · rw [if_neg hpushdown]
    refine (Run.isDetermined_ofStore hfetch).bind fun es => ?_
    exact (Run.isDetermined_noteTimes _ _).bind fun _ => Run.isDetermined_pure _

/-- What a run gives, with the first of each id kept, has every id once. -/
theorem exists_gives_firstPerId {R : Type} {run : Run (StateM σ) (List R)} (h : run.IsSteady)
    (id : R → EntityId) :
    ∃ found?, (do let found ← run; return firstPerId id found : Run (StateM σ) (List R)).Gives
      found? ∧ ∀ found ∈ found?, (found.map id).Nodup := by
  obtain ⟨raw?, hraw⟩ := h
  refine ⟨_, hraw.bind fun raw => Run.gives_pure (firstPerId id raw), ?_⟩
  intro found hfound
  obtain ⟨raw, -, hfirst⟩ := Option.bind_eq_some_iff.mp hfound
  obtain rfl := Option.some.inj hfirst
  exact nodup_map_firstPerIdFrom [] raw

variable {engine} (hsteady : engine.store.AnswersSteadily)

include hsteady

theorem exists_gives_selectNodes :
    ∃ nodes?, (engine.selectNodes c).Gives nodes? ∧
      ∀ nodes ∈ nodes?, (nodes.map NodeRef.id).Nodup :=
  exists_gives_firstPerId (engine.isDetermined_select c .node Condition.selectNodes
    hsteady.queryNodes hsteady.fetchNodes).isSteady NodeRef.id

theorem exists_gives_selectEdges :
    ∃ edges?, (engine.selectEdges c).Gives edges? ∧
      ∀ edges ∈ edges?, (edges.map EdgeRef.id).Nodup :=
  exists_gives_firstPerId (engine.isDetermined_select c .edge Condition.selectEdges
    hsteady.queryEdges hsteady.fetchEdges).isSteady EdgeRef.id

end Steady

/-! ## The whole from its halves -/

/-- The document of the node half of a request; without one it asks for everything. -/
def Request.nodePayload (request : Request) : Json :=
  request.nodes.getD (Condition.all []).toJson

/-- The document of the edge half of a request; without one it asks for everything. -/
def Request.edgePayload (request : Request) : Json :=
  request.edges.getD (Condition.all []).toJson

/-- Nothing to read and the document that asks for everything are read alike. -/
theorem decodeOrAll_eq (payload : Option Json) :
    decodeOrAll payload = Condition.decode (payload.getD (Condition.all []).toJson) := by
  cases payload with
  | none => rfl
  | some document => rfl

/-- Two questions and then their answers, or each question with its answer: what comes of it is the
    same when all that can go wrong is that there is nothing. -/
theorem bind_bind_interleaved {γ δ τ : Type} (c? : Option γ) (d? : Option δ) (f : γ → Option α)
    (g : δ → Option β) (join : α → β → Option τ) :
    (c?.bind fun c => d?.bind fun d => (f c).bind fun a => (g d).bind fun b => join a b) =
      (c?.bind f).bind fun a => (d?.bind g).bind fun b => join a b := by
  cases c? with
  | none => rfl
  | some c =>
    cases d? with
    | some d => rfl
    | none =>
      show none = (f c).bind fun _ => none
      cases f c with
      | none => rfl
      | some a => rfl

variable {engine : Engine (StateM σ)}

/-- Both halves give something or fail, whatever went before, and the whole request gives what is
    consolidated from the two. -/
theorem exists_gives_filterGraph (hsteady : engine.store.AnswersSteadily) (request : Request) :
    ∃ nodes? edges?, (engine.filterNodes request.nodePayload).Gives nodes? ∧
      (engine.filterEdges request.edgePayload).Gives edges? ∧
      (∀ nodes ∈ nodes?, (nodes.map NodeRef.id).Nodup) ∧
      (∀ edges ∈ edges?, (edges.map EdgeRef.id).Nodup) ∧
      (engine.filterGraph request).Gives (nodes?.bind fun nodes => edges?.bind fun edges =>
        some (Subgraph.consolidate ⟨nodes, edges⟩
          (request.includeSubsidiary.getD engine.options.includeSubsidiary))) := by
  choose nodes? hnodes hnodeIds using fun c => exists_gives_selectNodes c hsteady
  choose edges? hedges hedgeIds using fun c => exists_gives_selectEdges c hsteady
  have hnodeHalf : (engine.filterNodes request.nodePayload).Gives _ :=
    (Run.gives_ofCondition _).bind hnodes
  have hedgeHalf : (engine.filterEdges request.edgePayload).Gives _ :=
    (Run.gives_ofCondition _).bind hedges
  refine ⟨_, _, hnodeHalf, hedgeHalf, ?_, ?_, ?_⟩
  · intro nodes hmem
    obtain ⟨c, -, hfound⟩ := Option.bind_eq_some_iff.mp hmem
    exact hnodeIds c nodes hfound
  · intro edges hmem
    obtain ⟨c, -, hfound⟩ := Option.bind_eq_some_iff.mp hmem
    exact hedgeIds c edges hfound
  · have hwhole : (engine.filterGraph request).Gives
        ((decodeOrAll request.nodes).toOption.bind fun c =>
          (decodeOrAll request.edges).toOption.bind fun d =>
            (nodes? c).bind fun nodes => (edges? d).bind fun edges =>
              some (Subgraph.consolidate ⟨nodes, edges⟩
                (request.includeSubsidiary.getD engine.options.includeSubsidiary))) := by
      refine (Run.gives_ofCondition _).bind fun c => ?_
      refine (Run.gives_ofCondition _).bind fun d => ?_
      refine (hnodes c).bind fun nodes => ?_
      refine (hedges d).bind fun edges => ?_
      exact (Run.gives_note _).bind fun _ => Run.gives_pure _
    rw [decodeOrAll_eq, decodeOrAll_eq, bind_bind_interleaved] at hwhole
    exact hwhole

end Engine

/-! ## Consolidating separate answers -/

namespace Subgraph

/-- How a subgraph is made of nodes and edges that were found apart. -/
structure Joins (graph : Subgraph) (nodes : List NodeRef) (edges : List EdgeRef)
    (withStubs : Bool) : Prop where
  /-- Without stubs the nodes are there as they were found. -/
  same_nodes : withStubs = false → graph.nodes = nodes
  /-- Without stubs the edges are there, as they were found, whose ends were both found. -/
  inner_edges : withStubs = false →
    graph.edges = edges.filter fun edge => edge.ends.all fun i => nodes.any fun node => node.id == i
  /-- With stubs the edges are there as they were found. -/
  same_edges : withStubs = true → graph.edges = edges
  /-- With stubs the nodes are there as they were found, and behind them a node for each end of an
      edge that was not found, marked as one that only stands in for it. -/
  stubs_behind : withStubs = true → ∃ absent : List EntityId,
    graph.nodes = nodes ++ absent.map (fun i => { id := i, subsidiary := true }) ∧ absent.Nodup ∧
    ∀ i, i ∈ absent ↔ i ∉ nodes.map NodeRef.id ∧ ∃ edge ∈ edges, i ∈ edge.ends

/-- Nodes and edges that were found apart, each id once, are joined by consolidation. -/
theorem joins_consolidate {nodes : List NodeRef} {edges : List EdgeRef}
    (hnodes : (nodes.map NodeRef.id).Nodup) (hedges : (edges.map EdgeRef.id).Nodup)
    (withStubs : Bool) : (consolidate ⟨nodes, edges⟩ withStubs).Joins nodes edges withStubs := by
  have hdistinctNodes : distinctNodes ⟨nodes, edges⟩ = nodes := distinctNodes_of_nodup hnodes
  have hdistinctEdges : distinctEdges ⟨nodes, edges⟩ = edges := distinctEdges_of_nodup hedges
  cases withStubs with
  | false =>
    have hends : hasEnds ⟨nodes, edges⟩ =
        fun edge => edge.ends.all fun i => nodes.any fun node => node.id == i := by
      funext edge
      simp only [hasEnds, hasNode, hdistinctNodes, EdgeRef.ends, List.all_cons, List.all_nil,
        Bool.and_true]
    rw [consolidate_false, hends, hdistinctNodes, hdistinctEdges]
    exact ⟨fun _ => rfl, fun _ => rfl, (nomatch ·), (nomatch ·)⟩
  | true =>
    rw [consolidate_true, hdistinctNodes, hdistinctEdges]
    refine ⟨(nomatch ·), (nomatch ·), fun _ => rfl, fun _ => ?_⟩
    refine ⟨_, rfl, nodup_absentEnds _, ?_⟩
    intro i
    rw [mem_absentEnds, hdistinctNodes, hdistinctEdges, and_comm]

end Subgraph

/-! ## Main result -/

namespace Engine

/-- **A request for a subgraph is a request for its nodes and one for its edges.** Over a store that
    answers steadily, whatever was written before and whatever world each request finds: the whole
    is answered if and only if both halves are, and then it joins their answers. -/
theorem filterGraph_agrees {engine : Engine (StateM σ)} (hsteady : engine.store.AnswersSteadily)
    (request : Request) (journal nodeJournal edgeJournal : Journal)
    (world nodeWorld edgeWorld : σ) :
    ((∃ graph, (engine.filterGraph request).answer journal world = .ok graph) ↔
      (∃ nodes, (engine.filterNodes request.nodePayload).answer nodeJournal nodeWorld =
        .ok nodes) ∧
      ∃ edges, (engine.filterEdges request.edgePayload).answer edgeJournal edgeWorld =
        .ok edges) ∧
    ∀ graph nodes edges, (engine.filterGraph request).answer journal world = .ok graph →
      (engine.filterNodes request.nodePayload).answer nodeJournal nodeWorld = .ok nodes →
      (engine.filterEdges request.edgePayload).answer edgeJournal edgeWorld = .ok edges →
      graph.Joins nodes edges
        (request.includeSubsidiary.getD engine.options.includeSubsidiary) := by
  obtain ⟨nodes?, edges?, hnodes, hedges, hnodeIds, hedgeIds, hgraph⟩ :=
    exists_gives_filterGraph hsteady request
  simp only [hnodes.answer_eq_ok_iff, hedges.answer_eq_ok_iff, hgraph.answer_eq_ok_iff,
    Option.bind_eq_some_iff]
  constructor
  · constructor
    · rintro ⟨graph, nodes, hfoundNodes, edges, hfoundEdges, -⟩
      exact ⟨⟨nodes, hfoundNodes⟩, edges, hfoundEdges⟩
    · rintro ⟨⟨nodes, hfoundNodes⟩, edges, hfoundEdges⟩
      exact ⟨_, nodes, hfoundNodes, edges, hfoundEdges, rfl⟩
  · rintro graph nodes edges ⟨foundNodes, hfoundNodes, foundEdges, hfoundEdges, hgraph⟩ hsameNodes
      hsameEdges
    obtain rfl := Option.some.inj (hfoundNodes.symm.trans hsameNodes)
    obtain rfl := Option.some.inj (hfoundEdges.symm.trans hsameEdges)
    obtain rfl := Option.some.inj hgraph
    exact Subgraph.joins_consolidate (hnodeIds _ hfoundNodes) (hedgeIds _ hfoundEdges) _

/-- An engine over a store that counts its calls and answers all of them with repeated ids and an
    edge that misses an end. -/
def counting (withStubs : Bool) : Engine (StateM Nat) where
  store :=
    { name := "counting"
      fetchNodes := fun n => (.error (.unsupported "counting" .fetchNodes), n + 1)
      fetchEdges := fun n => (.error (.unsupported "counting" .fetchEdges), n + 1)
      supportsPushdown := true
      queryNodes := fun _ n => (.ok [⟨1, false⟩, ⟨2, true⟩, ⟨1, true⟩], n + 1)
      queryEdges := fun _ n => (.ok [⟨10, 1, 2⟩, ⟨11, 2, 8⟩, ⟨10, 8, 8⟩], n + 1) }
  options := { includeSubsidiary := withStubs }

theorem answersSteadily_counting (withStubs : Bool) :
    (counting withStubs).store.AnswersSteadily :=
  ⟨fun _ _ => rfl, fun _ _ => rfl, fun _ _ _ => rfl, fun _ _ _ => rfl⟩

/-- The halves of a request without conditions, and what the request joins them to: without stubs
    the edge to a missing end goes, with stubs it stays, and the missing end is a marked node behind
    the others. -/
theorem filterGraph_agrees_counting :
    (∀ withStubs, (counting withStubs).store.AnswersSteadily) ∧
      (∃ graph, ((counting false).filterGraph {}).answer [] 5 = .ok graph ∧
        graph.nodes = [⟨1, false⟩, ⟨2, true⟩] ∧ graph.edges = [⟨10, 1, 2⟩]) ∧
      ∃ graph, ((counting true).filterGraph {}).answer [] 5 = .ok graph ∧
        graph.nodes = [{ id := 1, subsidiary := false }, { id := 2, subsidiary := true },
          { id := 8, subsidiary := true }] ∧
        graph.edges = [⟨10, 1, 2⟩, ⟨11, 2, 8⟩] := by
  have hsteady := answersSteadily_counting
  have hnodes : ∀ withStubs,
      ((counting withStubs).filterNodes (Request.nodePayload {})).answer [] 0 =
        .ok [⟨1, false⟩, ⟨2, true⟩] := fun _ => rfl
  have hedges : ∀ withStubs,
      ((counting withStubs).filterEdges (Request.edgePayload {})).answer [] 1 =
        .ok [⟨10, 1, 2⟩, ⟨11, 2, 8⟩] := fun _ => rfl
  refine ⟨hsteady, ?_, ?_⟩
  · obtain ⟨hanswered, hjoins⟩ := filterGraph_agrees (hsteady false) {} [] [] [] 5 0 1
    obtain ⟨graph, hgraph⟩ := hanswered.mpr ⟨⟨_, hnodes false⟩, _, hedges false⟩
    have hjoined := hjoins graph _ _ hgraph (hnodes false) (hedges false)
    refine ⟨graph, hgraph, hjoined.same_nodes rfl, ?_⟩
    rw [hjoined.inner_edges rfl]
    rfl
  · obtain ⟨hanswered, hjoins⟩ := filterGraph_agrees (hsteady true) {} [] [] [] 5 0 1
    obtain ⟨graph, hgraph⟩ := hanswered.mpr ⟨⟨_, hnodes true⟩, _, hedges true⟩
    have hjoined := hjoins graph _ _ hgraph (hnodes true) (hedges true)
    obtain ⟨absent, hbehind, hdistinct, hmem⟩ := hjoined.stubs_behind rfl
    -- Of the ends 1, 2 and 8 only 8 was not found.
    have habsent : ∀ i, i ∈ absent ↔ i ∈ [(8 : EntityId)] := by
      intro i
      rw [hmem i, List.mem_singleton]
      constructor
      · rintro ⟨hnew, edge, hedge, hend⟩
        have hends : i ∈ [⟨10, 1, 2⟩, ⟨11, 2, 8⟩].flatMap EdgeRef.ends :=
          List.mem_flatMap.mpr ⟨edge, hedge, hend⟩
        simp_all [EdgeRef.ends]
      · rintro rfl
        exact ⟨by decide, ⟨11, 2, 8⟩, by decide, by decide⟩
    have hsame : absent.Perm [8] :=
      (List.perm_ext_iff_of_nodup hdistinct (List.nodup_singleton 8)).mpr habsent
    obtain rfl := List.perm_singleton.mp hsame
    exact ⟨graph, hgraph, hbehind, hjoined.same_edges rfl⟩

end Engine

end GraphFilter
