import GraphFilter.Proofs.Condition.Decoding
import GraphFilter.Proofs.Engine.Calls
import GraphFilter.Proofs.Engine.SeparateAnswers
import GraphFilter.Proofs.Json.Records

/-!
# `GraphFilter.Proofs.Engine.RereadRequests` — requests that were written and read again

A request that is written leaves out the conditions that it does not have. A request that is read
takes a condition that is `null` for one that is not there. Where the two meet, a request is lost:
`null` is no condition and is refused, but once it was written and read again it asks for
everything. Nothing else is lost.

## Contents
- **Reading what was written.** `Request.withoutNulls`, and `Request.ofJson?_toJson`.
- **Errors of a run.** `Run.FailsWithin`, with a law for every kind of step.
- **The error of `null`.** `Request.RefusedForNull`, `answer_of_refusedForNull`, and
  `failsWithin_filterGraph`: no other request ends with that error.
- **Main result.** `reread_answers_alike_iff`.
-/

namespace GraphFilter

open Json (Reader Record Member Rearranges)

/-! ## Reading what was written -/

/-- The document, unless it is `null`. -/
def Json.nonNull? : Json → Option Json
  | .null => none
  | j => some j

theorem Json.nonNull?_ne_null (j : Json) : j.nonNull? ≠ some .null := by
  cases j <;> exact nofun

theorem Json.bind_nonNull? {payload : Option Json} (h : payload ≠ some .null) :
    payload.bind nonNull? = payload := by
  cases payload with
  | none => rfl
  | some j =>
    cases j with
    | null => exact absurd rfl h
    | _ => rfl

theorem Json.bind_nonNull?_ne_null (payload : Option Json) :
    payload.bind nonNull? ≠ some .null := by
  cases payload with
  | none => exact nofun
  | some j => exact nonNull?_ne_null j

/-- Any document is read, and `null` is read as absent. -/
theorem Json.Reader.ofJson?_nullable_json (j : Json) :
    (nullable json).ofJson? j = some j.nonNull? := by
  cases j <;> rfl

theorem Json.Reader.ofJson?_nullable_bool (b : Bool) :
    (nullable bool).ofJson? (.bool b) = some (some b) := rfl

namespace Engine

namespace Request

/-- The documents of a request. -/
def payloads (r : Request) : List Json :=
  r.nodes.toList ++ r.edges.toList

/-- The same request with conditions that are `null` left out. -/
def withoutNulls (r : Request) : Request where
  nodes := r.nodes.bind Json.nonNull?
  edges := r.edges.bind Json.nonNull?
  includeSubsidiary := r.includeSubsidiary

/-- What is read from a written request is the request without its `null`s, also where the order of
    members is another but for the documents of the request itself. -/
theorem ofJson?_toJson {arrange : Json → Json} (h : Rearranges arrange) {r : Request}
    (hfixed : ∀ j ∈ r.payloads, arrange j = j) :
    reader.ofJson? (arrange r.toJson) = some r.withoutNulls := by
  obtain ⟨nodes, edges, includeSubsidiary⟩ := r
  unfold reader toJson
  -- Which members are written depends on which parts the request has.
  cases nodes <;> cases edges <;> cases includeSubsidiary <;>
    rw [Record.ofJson?_arrange h (Record.orderless_of_pairwise
      (by simp [Member.field, Member.commutes_self])
      (by simp [Member.field, Member.commutes_field])) (by simp)] <;>
    simp_all [payloads, withoutNulls, Record.accept, Member.field, Member.take_field, h.bool,
      Reader.ofJson?_nullable_json, Reader.ofJson?_nullable_bool]

end Request

end Engine

/-! ## Errors of a run -/

namespace Run

variable {σ α β : Type} {allowed : EngineError → Prop}

/-- Whatever the run finds, an error that it ends with is an allowed one. -/
def FailsWithin (allowed : EngineError → Prop) (run : Run (StateM σ) α) : Prop :=
  ∀ journal world e, run.answer journal world = .error e → allowed e

theorem failsWithin_pure (a : α) : (pure a : Run (StateM σ) α).FailsWithin allowed :=
  fun _ _ _ h => nomatch h

theorem failsWithin_noteTimes (n : Nat) (line : JournalLine) :
    (noteTimes n line : Run (StateM σ) Unit).FailsWithin allowed :=
  fun _ _ _ h => nomatch h

theorem failsWithin_note (line : JournalLine) :
    (note line : Run (StateM σ) Unit).FailsWithin allowed :=
  fun _ _ _ h => nomatch h

/-- A check fails with its own error, and what follows it runs if it is passed. -/
theorem failsWithin_ofCondition_bind {checked : Except Condition.Error α}
    {next : α → Run (StateM σ) β} (h : ∀ e, checked = .error e → allowed (.condition e))
    (hnext : ∀ a, checked = .ok a → (next a).FailsWithin allowed) :
    (ofCondition checked >>= next).FailsWithin allowed := by
  cases checked with
  | error e =>
    intro journal world e' he'
    obtain rfl := Except.error.inj he'
    exact h e rfl
  | ok a => exact hnext a rfl

theorem failsWithin_ofCondition {checked : Except Condition.Error α}
    (h : ∀ e, checked = .error e → allowed (.condition e)) :
    (ofCondition checked : Run (StateM σ) α).FailsWithin allowed := by
  rw [← bind_pure (ofCondition checked)]
  exact failsWithin_ofCondition_bind h fun a _ => failsWithin_pure a

theorem failsWithin_ofStore (h : ∀ e, allowed (.store e))
    (call : StateM σ (Except StoreError α)) : (ofStore call).FailsWithin allowed := by
  intro journal world e he
  have hanswer : (call.run world).1.mapError EngineError.store = .error e := he
  cases hcall : (call.run world).1 with
  | ok a =>
    rw [hcall] at hanswer
    exact nomatch hanswer
  | error e' =>
    rw [hcall] at hanswer
    obtain rfl := Except.error.inj hanswer
    exact h e'

theorem FailsWithin.bind {run : Run (StateM σ) α} {next : α → Run (StateM σ) β}
    (hrun : run.FailsWithin allowed) (hnext : ∀ a, (next a).FailsWithin allowed) :
    (run >>= next).FailsWithin allowed := by
  intro journal world e he
  rw [answer_bind] at he
  cases hanswer : run.answer journal world with
  | ok a =>
    rw [hanswer] at he
    exact hnext a _ _ e he
  | error e' =>
    rw [hanswer] at he
    obtain rfl := Except.error.inj he
    exact hrun journal world e' hanswer

end Run

/-! ## The error of `null` -/

/-- Only `null` is refused for being `null` at its root. -/
theorem Condition.eq_null_of_decode {payload : Json}
    (h : decode payload = .error (.notAnObject .root .null)) : payload = .null := by
  have houtcome : Outcome .root payload (decode payload) := decodeAt_outcome payload .root
  rw [h] at houtcome
  obtain ⟨place, node, hfound, hdefect, -⟩ := houtcome
  -- The error tells the place, which is the root.
  have hplace : Path.root.indexes ++ place = [] :=
    (congrArg Path.indexes (Option.some.inj hdefect.path?)).symm
  obtain rfl := (List.append_eq_nil_iff.mp hplace).2
  obtain rfl := Option.some.inj hfound
  -- Only the check for an object has this error, and it tells the kind of the root.
  cases hdefect with
  | notAnObject _ hkind =>
    cases hkind with
    | null => rfl

namespace Engine

variable {σ : Type} {engine : Engine (StateM σ)}

/-- The error of a request with a condition that is `null`. -/
def nullRefused : EngineError :=
  .condition (.notAnObject .root .null)

/-- Where the first condition that cannot be read is `null`. -/
def Request.RefusedForNull (r : Request) : Prop :=
  r.nodes = some .null ∨ r.edges = some .null ∧ ∃ c, decodeOrAll r.nodes = .ok c

/-- A condition that is read fails to be read as `null` does only if it is `null`. -/
theorem ne_of_decodeOrAll {payload : Option Json} (hnull : payload ≠ some .null)
    {e : Condition.Error} (h : decodeOrAll payload = .error e) :
    EngineError.condition e ≠ nullRefused := by
  intro he
  obtain rfl := EngineError.condition.inj he
  cases payload with
  | none => exact nomatch h
  | some document => exact hnull (congrArg some (Condition.eq_null_of_decode h))

section Selecting

variable {c : Condition}

theorem failsWithin_compile (kind : EntityKind) :
    (engine.compile kind c).FailsWithin (· ≠ nullRefused) := by
  refine (Run.failsWithin_noteTimes _ _).bind fun _ => Run.failsWithin_ofCondition ?_
  intro e he
  obtain ⟨name, -, rfl⟩ := ((engine.compiler kind).query_failsOn c).eq_error_iff.mp he
  exact nofun

theorem failsWithin_select {E R : Type} (kind : EntityKind)
    (query : Query.ReadQuery → StateM σ (Except StoreError (List R)))
    (fetch : StateM σ (Except StoreError (List E))) (evaluate : Condition → List E → List R)
    (hvalid : c.validate = .ok ()) :
    (engine.select kind query fetch evaluate c).FailsWithin (· ≠ nullRefused) := by
  have hstore : ∀ e, EngineError.store e ≠ nullRefused := fun e => nofun
  unfold select
  refine Run.failsWithin_ofCondition_bind ?_ fun _ _ => ?_
  · -- A condition that was read passes its check.
    intro e he
    exact nomatch hvalid.symm.trans he
  · by_cases hpushdown : engine.usesPushdown = true
    · rw [if_pos hpushdown]
      exact (failsWithin_compile kind).bind fun q => Run.failsWithin_ofStore hstore (query q)
    · rw [if_neg hpushdown]
      refine (Run.failsWithin_ofStore hstore fetch).bind fun es => ?_
      exact (Run.failsWithin_noteTimes _ _).bind fun _ => Run.failsWithin_pure _

theorem failsWithin_selectNodes (hvalid : c.validate = .ok ()) :
    (engine.selectNodes c).FailsWithin (· ≠ nullRefused) :=
  (failsWithin_select .node _ _ _ hvalid).bind fun _ => Run.failsWithin_pure _

theorem failsWithin_selectEdges (hvalid : c.validate = .ok ()) :
    (engine.selectEdges c).FailsWithin (· ≠ nullRefused) :=
  (failsWithin_select .edge _ _ _ hvalid).bind fun _ => Run.failsWithin_pure _

end Selecting

variable {r : Request}

/-- A request without `null`s does not end with the error of `null`. -/
theorem failsWithin_filterGraph (hnodes : r.nodes ≠ some .null) (hedges : r.edges ≠ some .null) :
    (engine.filterGraph r).FailsWithin (· ≠ nullRefused) := by
  refine Run.failsWithin_ofCondition_bind (fun e => ne_of_decodeOrAll hnodes) fun c hc => ?_
  refine Run.failsWithin_ofCondition_bind (fun e => ne_of_decodeOrAll hedges) fun d hd => ?_
  refine (failsWithin_selectNodes (validate_of_decodeOrAll hc)).bind fun nodes => ?_
  refine (failsWithin_selectEdges (validate_of_decodeOrAll hd)).bind fun edges => ?_
  exact (Run.failsWithin_note _).bind fun _ => Run.failsWithin_pure _

theorem isDetermined_filterGraph (hsteady : engine.store.AnswersSteadily) (r : Request) :
    (engine.filterGraph r).IsDetermined := by
  have hnodes : ∀ c, (engine.selectNodes c).IsDetermined := fun c =>
    (engine.isDetermined_select c .node Condition.selectNodes hsteady.queryNodes
      hsteady.fetchNodes).bind fun _ => Run.isDetermined_pure _
  have hedges : ∀ c, (engine.selectEdges c).IsDetermined := fun c =>
    (engine.isDetermined_select c .edge Condition.selectEdges hsteady.queryEdges
      hsteady.fetchEdges).bind fun _ => Run.isDetermined_pure _
  refine (Run.isDetermined_ofCondition _).bind fun c => ?_
  refine (Run.isDetermined_ofCondition _).bind fun d => ?_
  refine (hnodes c).bind fun nodes => ?_
  refine (hedges d).bind fun edges => ?_
  exact (Run.isDetermined_note _).bind fun _ => Run.isDetermined_pure _

theorem answer_of_decode_error {e : Condition.Error} (h : decodeOrAll r.nodes = .error e)
    (journal : Journal) (world : σ) :
    (engine.filterGraph r).answer journal world = .error (.condition e) := by
  unfold filterGraph
  rw [h]
  rfl

/-- Such a request is refused for its `null`. -/
theorem answer_of_refusedForNull (h : r.RefusedForNull) (journal : Journal) (world : σ) :
    (engine.filterGraph r).answer journal world = .error nullRefused := by
  rcases h with hnodes | ⟨hedges, c, hc⟩
  · refine answer_of_decode_error ?_ journal world
    rw [hnodes]
    rfl
  · unfold filterGraph
    rw [hc, hedges]
    rfl

/-! ## Main result -/

/-- **A request that was written and read again is answered alike unless it is refused for a
    `null`.** Over a store that answers steadily, whatever was written before and whatever world
    each of the two finds: what is read is the request without its `null`s, and it ends with the
    same answer or the same error as the request itself, unless that one is refused for a `null`,
    with an error with which the other never ends. -/
theorem reread_answers_alike_iff (hsteady : engine.store.AnswersSteadily) {arrange : Json → Json}
    (harrange : Json.Rearranges arrange) (hfixed : ∀ j ∈ r.payloads, arrange j = j) :
    Request.reader.ofJson? (arrange r.toJson) = some r.withoutNulls ∧
      ∀ journal world journal' world',
        (engine.filterGraph r.withoutNulls).answer journal world =
            (engine.filterGraph r).answer journal' world' ↔ ¬ r.RefusedForNull := by
  refine ⟨Request.ofJson?_toJson harrange hfixed, fun journal world journal' world' => ?_⟩
  constructor
  · intro halike hrefused
    have hnodes : r.withoutNulls.nodes ≠ some .null := Json.bind_nonNull?_ne_null r.nodes
    have hedges : r.withoutNulls.edges ≠ some .null := Json.bind_nonNull?_ne_null r.edges
    -- What is read has no null, so it does not end with the error of one.
    rw [answer_of_refusedForNull hrefused] at halike
    exact failsWithin_filterGraph hnodes hedges journal world nullRefused halike rfl
  · intro hkept
    have hnodes : r.nodes ≠ some .null := fun h => hkept (Or.inl h)
    have hsame : r.withoutNulls.nodes = r.nodes := Json.bind_nonNull? hnodes
    cases hread : decodeOrAll r.nodes with
    | error e =>
      -- The node half fails in both, before the edge half is looked at.
      rw [answer_of_decode_error (hsame ▸ hread), answer_of_decode_error hread]
    | ok c =>
      have hedges : r.edges ≠ some .null := fun h => hkept (Or.inr ⟨h, c, hread⟩)
      have hrequest : r.withoutNulls = r := by
        unfold Request.withoutNulls
        rw [Json.bind_nonNull? hnodes, Json.bind_nonNull? hedges]
      rw [hrequest]
      exact isDetermined_filterGraph hsteady r journal world journal' world'

/-- A request whose node half is no condition either: its edge half is `null`, and the loss of that
    changes nothing about its error. -/
theorem reread_answers_alike_iff_twoDefects :
    let r : Request := { nodes := some (.array [.null]), edges := some .null }
    (counting false).store.AnswersSteadily ∧ Json.Rearranges Json.sorted ∧
      (∀ j ∈ r.payloads, Json.sorted j = j) ∧
      ((counting false).filterGraph { nodes := some (.array [.null]) }).answer [] 3 =
        ((counting false).filterGraph r).answer [] 5 := by
  intro r
  have hsteady := answersSteadily_counting false
  have hfixed : ∀ j ∈ r.payloads, Json.sorted j = j := by
    show ∀ j ∈ [Json.array [.null], .null], Json.sorted j = j
    simp only [List.forall_mem_cons]
    exact ⟨rfl, rfl, List.forall_mem_nil _⟩
  have hrefused : decodeOrAll r.nodes = .error (.notAnObject .root .array) := rfl
  have hkept : ¬ r.RefusedForNull := by
    rintro (hnodes | ⟨-, c, hc⟩)
    · exact nomatch hnodes
    · exact nomatch hrefused.symm.trans hc
  exact ⟨hsteady, Json.rearranges_sorted, hfixed,
    ((reread_answers_alike_iff hsteady Json.rearranges_sorted hfixed).2 [] 3 [] 5).mpr hkept⟩

/-- A request for the nodes of a condition that is `null` is refused. Once it was written and read
    again it is answered with all nodes. -/
theorem reread_forgets_null :
    let r : Request := { nodes := some .null }
    (counting false).store.AnswersSteadily ∧
      ((counting false).filterGraph r).answer [] 0 =
        .error (.condition (.notAnObject .root .null)) ∧
      ∃ reread, Request.reader.ofJson? r.toJson = some reread ∧
        ((counting false).filterGraph reread).answer [] 0 =
          .ok ⟨[⟨1, false⟩, ⟨2, true⟩], [⟨10, 1, 2⟩]⟩ := by
  intro r
  refine ⟨answersSteadily_counting false, ?_, {}, rfl, rfl⟩
  exact answer_of_refusedForNull (Or.inl rfl) [] 0

end Engine

end GraphFilter
