import GraphFilter.Graph.Wire
import GraphFilter.Proofs.Condition.Rereading
import GraphFilter.Proofs.Json.Records
import GraphFilter.Query.ReadQuery

/-!
# `GraphFilter.Proofs.Graph.RoundTrip` — what was written is read back

Graphs, answers, predicates and path requests are written as documents and read from documents. The
rule by which a member is written and the one by which it is read are apart: members are left out
when they are empty or not set, and are optional then. Reading a written document gives back all of
it, but for the form of property values: JSON has one form for each, and a value comes back as what
its document stands for. It does not matter whether the members of objects are in the order in which
they were written or in that of their keys.

## Contents
- **Values.** `Value.ofJson?_reader`: the kinds of values, tried in turn, find the value of a
  document. `Value.ofJson?_properties` for maps.
- **Documents.** One lemma per type, from parts to wholes (`Graph.ofJson?_toJson`,
  `Subgraph.ofJson?_toJson`, `Predicate.ofJson?_toJson`, `PathRequest.ofJson?_toJson`).
- **Values that do not change.** `Value.ofJson_arrange_of_read`: a value that was read.
- **Main result.** `documents_read_back`.
-/

namespace GraphFilter

open Json (Reader Record Member Rearranges)

variable {arrange : Json → Json}

/-! ## Values -/

namespace Value

theorem accept?_eq (j : Json) : accept? j = some (ofJson j) := by
  cases j with
  | number n => cases n <;> rfl
  | _ => rfl

/-- Trying the kinds of values in turn finds the value of a document. -/
theorem ofJson?_reader (j : Json) : reader.ofJson? j = some (ofJson j) := by
  rw [Reader.ofJson?_eq_some, reader, Reader.json]
  simp only [Json.Draft.toJson?, accept?_eq]

theorem ofJson?_properties (h : Rearranges arrange) (d : Dict Value) :
    (Reader.dict reader).ofJson? (arrange d.toJson) =
      some (d.mapValues fun v => .ofJson (arrange v.toJson)) :=
  Reader.ofJson?_dict h fun _ => ofJson?_reader _

end Value

/-! ## Documents -/

/-- The same node with other values. -/
def Node.mapValues (f : Value → Value) (n : Node) : Node :=
  { n with properties := n.properties.mapValues f }

theorem Node.record_orderless : Node.record.Orderless :=
  Record.orderless_of_pairwise (by simp [Node.record, Member.field, Member.commutes_self])
    (by simp [Node.record, Member.field, Member.commutes_field])

theorem Node.ofJson?_toJson (h : Rearranges arrange) (n : Node) :
    Node.reader.ofJson? (arrange n.toJson) =
      some (n.mapValues fun v => .ofJson (arrange v.toJson)) := by
  have hid := Reader.ofJson?_int64 h n.id
  have hlabels : (Reader.list .string).ofJson? (arrange (.array (n.labels.map .string))) =
      some n.labels := by
    simpa using Reader.ofJson?_list h fun label _ => Reader.ofJson?_string h label
  have hproperties := Value.ofJson?_properties h n.properties
  unfold Node.reader Node.toJson
  rw [Record.ofJson?_arrange h Node.record_orderless (by simp)]
  simp [Node.record, Record.accept, Member.field, Member.take_field, hid, hlabels, hproperties,
    Node.mapValues]

/-- The same edge with other values. -/
def Edge.mapValues (f : Value → Value) (e : Edge) : Edge :=
  { e with properties := e.properties.mapValues f }

theorem Edge.record_orderless : Edge.record.Orderless :=
  Record.orderless_of_pairwise (by simp [Edge.record, Member.field, Member.commutes_self])
    (by simp [Edge.record, Member.field, Member.commutes_field])

theorem Edge.ofJson?_toJson (h : Rearranges arrange) (e : Edge) :
    Edge.reader.ofJson? (arrange e.toJson) =
      some (e.mapValues fun v => .ofJson (arrange v.toJson)) := by
  have hids := Reader.ofJson?_int64 h
  have htype := Reader.ofJson?_string h e.type
  have hproperties := Value.ofJson?_properties h e.properties
  unfold Edge.reader Edge.toJson
  rw [Record.ofJson?_arrange h Edge.record_orderless (by simp)]
  simp [Edge.record, Record.accept, Member.field, Member.take_field, hids, htype, hproperties,
    Edge.mapValues]

theorem ListPair.record_orderless {α β : Type} (node : Reader α) (edge : Reader β) :
    (ListPair.record node edge).Orderless :=
  Record.orderless_of_pairwise (by simp [ListPair.record, Member.field, Member.commutes_self])
    (by simp [ListPair.record, Member.field, Member.commutes_field])

/-- Two lists are read item by item, whatever is made of them. -/
theorem ListPair.ofJson?_read (h : Rearranges arrange) {α β γ δ ε : Type} {node : Reader γ}
    {edge : Reader δ} {nodeDocument : α → Json} {edgeDocument : β → Json} {nodeBack : α → γ}
    {edgeBack : β → δ} (hnode : ∀ a, node.ofJson? (arrange (nodeDocument a)) = some (nodeBack a))
    (hedge : ∀ b, edge.ofJson? (arrange (edgeDocument b)) = some (edgeBack b))
    (finish : ListPair γ δ → Option ε) (nodes : List α) (edges : List β) :
    ((ListPair.record node edge).read {} finish).ofJson?
        (arrange (.object [("nodes", .array (nodes.map nodeDocument)),
          ("edges", .array (edges.map edgeDocument))])) =
      finish ⟨some (nodes.map nodeBack), some (edges.map edgeBack)⟩ := by
  have hnodes := Reader.ofJson?_list h fun a (_ : a ∈ nodes) => hnode a
  have hedges := Reader.ofJson?_list h fun b (_ : b ∈ edges) => hedge b
  rw [Record.ofJson?_arrange h (ListPair.record_orderless node edge) (by simp)]
  simp [ListPair.record, Record.accept, Member.field, Member.take_field, hnodes, hedges]

/-- The same graph with other values. -/
def Graph.mapValues (f : Value → Value) (g : Graph) : Graph :=
  ⟨g.nodes.map (Node.mapValues f), g.edges.map (Edge.mapValues f)⟩

theorem Graph.ofJson?_toJson (h : Rearranges arrange) (g : Graph) :
    Graph.reader.ofJson? (arrange g.toJson) =
      some (g.mapValues fun v => .ofJson (arrange v.toJson)) :=
  ListPair.ofJson?_read h (Node.ofJson?_toJson h) (Edge.ofJson?_toJson h) _ g.nodes g.edges

theorem NodeRef.ofJson?_toJson (h : Rearranges arrange) (n : NodeRef) :
    NodeRef.reader.ofJson? (arrange n.toJson) = some n := by
  have hid := Reader.ofJson?_int64 h n.id
  have hmark := Reader.ofJson?_bool h true
  obtain ⟨id, subsidiary⟩ := n
  unfold NodeRef.reader NodeRef.toJson
  -- A node that is no stub is written without the mark, and read as no stub for want of it.
  cases subsidiary <;>
    rw [Record.ofJson?_arrange h (Record.orderless_of_pairwise
      (by simp [Member.field, Member.commutes_self])
      (by simp [Member.field, Member.commutes_field])) (by simp)] <;>
    simp [Record.accept, Member.field, Member.take_field, hid, hmark]

theorem EdgeRef.ofJson?_toJson (h : Rearranges arrange) (e : EdgeRef) :
    EdgeRef.reader.ofJson? (arrange e.toJson) = some e := by
  have hids := Reader.ofJson?_int64 h
  unfold EdgeRef.reader EdgeRef.toJson
  rw [Record.ofJson?_arrange h (Record.orderless_of_pairwise
    (by simp [Member.field, Member.commutes_self])
    (by simp [Member.field, Member.commutes_field])) (by simp)]
  simp [Record.accept, Member.field, Member.take_field, hids]

theorem Subgraph.ofJson?_toJson (h : Rearranges arrange) (s : Subgraph) :
    Subgraph.reader.ofJson? (arrange s.toJson) = some s := by
  have hnode : ∀ n, NodeRef.reader.ofJson? (arrange (NodeRef.toJson n)) = some (id n) :=
    NodeRef.ofJson?_toJson h
  have hedge : ∀ e, EdgeRef.reader.ofJson? (arrange (EdgeRef.toJson e)) = some (id e) :=
    EdgeRef.ofJson?_toJson h
  have hread := ListPair.ofJson?_read h hnode hedge
    (fun s => some (Subgraph.mk (s.nodes.getD []) (s.edges.getD []))) s.nodes s.edges
  rw [List.map_id, List.map_id] at hread
  exact hread

namespace Query

/-- The same predicate with other values. -/
def Predicate.mapValues (f : Value → Value) (p : Predicate) : Predicate :=
  { p with parameters := p.parameters.mapValues f }

/-- The text of a predicate, or `null` for want of one. -/
theorem ofJson?_fragment (h : Rearranges arrange) (fragment : Option String) :
    (Reader.nullable .string).ofJson? (arrange (.ofOption .string fragment)) = some fragment := by
  cases fragment with
  | none =>
    show (Reader.nullable .string).ofJson? (arrange .null) = _
    rw [h.null]
    rfl
  | some text =>
    have hnull : arrange (.string text) ≠ .null := by
      rw [h.string]
      exact Json.noConfusion
    exact Reader.ofJson?_nullable hnull (Reader.ofJson?_string h text)

theorem Predicate.ofJson?_toJson (h : Rearranges arrange) (p : Predicate) :
    Predicate.reader.ofJson? (arrange p.toJson) =
      some (p.mapValues fun v => .ofJson (arrange v.toJson)) := by
  have hfragment := ofJson?_fragment h p.fragment
  have hparameters := Value.ofJson?_properties h p.parameters
  unfold Predicate.reader Predicate.toJson
  rw [Record.ofJson?_arrange h (Record.orderless_of_pairwise
    (by simp [Member.field, Member.commutes_self])
    (by simp [Member.field, Member.commutes_field])) (by simp)]
  simp [Record.accept, Member.field, Member.take_field, hfragment, hparameters,
    Predicate.mapValues]

/-- The same path request with other values. -/
def PathRequest.mapValues (f : Value → Value) (r : PathRequest) : PathRequest :=
  { r with nodePredicate := r.nodePredicate.mapValues f }

theorem PathRequest.ofJson?_toJson (h : Rearranges arrange) (r : PathRequest) :
    PathRequest.reader.ofJson? (arrange r.toJson) =
      some (r.mapValues fun v => .ofJson (arrange v.toJson)) := by
  have hids := Reader.ofJson?_int64 h
  have hpredicate := Predicate.ofJson?_toJson h r.nodePredicate
  have hhops : ∀ n : UInt32, (Reader.nullable .uint32).ofJson?
      (arrange (.int (Int64.ofNat n.toNat))) = some (some n) := by
    intro n
    have hnull : arrange (.int (Int64.ofNat n.toNat)) ≠ .null := by
      rw [Json.int, h.number]
      exact Json.noConfusion
    exact Reader.ofJson?_nullable hnull (Reader.ofJson?_uint32 h n)
  obtain ⟨source, target, maxHops, nodePredicate⟩ := r
  unfold PathRequest.reader PathRequest.toJson
  -- Without a bound the member is left out, and no bound is read for want of it.
  cases maxHops <;>
    rw [Record.ofJson?_arrange h (Record.orderless_of_pairwise
      (by simp [Member.field, Member.commutes_self])
      (by simp [Member.field, Member.commutes_field])) (by simp)] <;>
    simp [Record.accept, Member.field, Member.take_field, hids, hpredicate, hhops, mapValues]

end Query

/-! ## Values that do not change -/

/-- The document of a value that was read is the one it was read from. -/
theorem Value.toJson_ofJson (j : Json) : (ofJson j).toJson = j := by
  cases j with
  | number n =>
    cases n with
    | int n => rfl
    | uint n h =>
      show Json.number (.ofUInt64 n) = _
      rw [Json.Number.ofUInt64, dif_pos h]
    | float x h =>
      show (Value.float x).toJson = _
      rw [toJson, Json.Number.ofFloat?, dif_pos h]
  | _ => rfl

/-- A value that was read from a document in the order at hand comes back as it is. -/
theorem Value.ofJson_arrange_of_read (hidem : ∀ j, arrange (arrange j) = arrange j) {v : Value}
    (h : ∃ j, reader.ofJson? (arrange j) = some v) : ofJson (arrange v.toJson) = v := by
  obtain ⟨j, hj⟩ := h
  rw [ofJson?_reader] at hj
  obtain rfl := Option.some.inj hj
  rw [toJson_ofJson, hidem]

section Values

variable {f : Value → Value}

/-- The values of a dictionary, in key order. -/
def Dict.values {α : Type} (d : Dict α) : List α :=
  d.entries.map Prod.snd

theorem Dict.mapValues_eq_self {α : Type} {f : α → α} {d : Dict α} (h : ∀ v ∈ d.values, f v = v) :
    d.mapValues f = d := by
  refine Dict.ext_entries (map_eq_self fun e he => ?_)
  exact Prod.ext rfl (h e.2 (List.mem_map_of_mem he))

theorem Node.mapValues_eq_self {n : Node} (h : ∀ v ∈ n.properties.values, f v = v) :
    n.mapValues f = n := by
  rw [Node.mapValues, Dict.mapValues_eq_self h]

theorem Edge.mapValues_eq_self {e : Edge} (h : ∀ v ∈ e.properties.values, f v = v) :
    e.mapValues f = e := by
  rw [Edge.mapValues, Dict.mapValues_eq_self h]

/-- The property values of a graph. -/
def Graph.values (g : Graph) : List Value :=
  (g.nodes.flatMap fun n => n.properties.values) ++ g.edges.flatMap fun e => e.properties.values

theorem Graph.mapValues_eq_self {g : Graph} (h : ∀ v ∈ g.values, f v = v) : g.mapValues f = g := by
  have hnodes : ∀ n ∈ g.nodes, n.mapValues f = n := fun n hn =>
    Node.mapValues_eq_self fun v hv =>
      h v (List.mem_append_left _ (List.mem_flatMap.mpr ⟨n, hn, hv⟩))
  have hedges : ∀ e ∈ g.edges, e.mapValues f = e := fun e he =>
    Edge.mapValues_eq_self fun v hv =>
      h v (List.mem_append_right _ (List.mem_flatMap.mpr ⟨e, he, hv⟩))
  rw [Graph.mapValues, map_eq_self hnodes, map_eq_self hedges]

theorem Query.Predicate.mapValues_eq_self {p : Query.Predicate}
    (h : ∀ v ∈ p.parameters.values, f v = v) : p.mapValues f = p := by
  rw [mapValues, Dict.mapValues_eq_self h]

theorem Query.PathRequest.mapValues_eq_self {r : Query.PathRequest}
    (h : ∀ v ∈ r.nodePredicate.parameters.values, f v = v) : r.mapValues f = r := by
  rw [mapValues, Predicate.mapValues_eq_self h]

end Values

/-! ## Main result -/

/-- What is read from a document, and from the same one in key order, is this, with its values as
    the document has them. -/
def ReadsBack {α : Type} (r : Reader α) (document : Json) (back : (Value → Value) → α) : Prop :=
  r.ofJson? document = some (back fun v => .ofJson v.toJson) ∧
  r.ofJson? document.sorted = some (back fun v => .ofJson v.toJson.sorted)

theorem readsBack_of_arrange {α : Type} {r : Reader α} {document : Json}
    {back : (Value → Value) → α}
    (h : ∀ arrange, Rearranges arrange →
      r.ofJson? (arrange document) = some (back fun v => .ofJson (arrange v.toJson))) :
    ReadsBack r document back :=
  ⟨h id Json.rearranges_id, h Json.sorted Json.rearranges_sorted⟩

/-- What is read from a document is this, if its values were read from documents; and likewise from
    documents in key order. -/
def ReadsBackAsIs {α : Type} (r : Reader α) (document : Json) (values : List Value) (x : α) : Prop :=
  ((∀ v ∈ values, ∃ j, Value.reader.ofJson? j = some v) → r.ofJson? document = some x) ∧
  ((∀ v ∈ values, ∃ j, Value.reader.ofJson? (Json.sorted j) = some v) →
    r.ofJson? document.sorted = some x)

theorem ReadsBack.asIs {α : Type} {r : Reader α} {document : Json} {back : (Value → Value) → α}
    {values : List Value} {x : α} (h : ReadsBack r document back)
    (hsame : ∀ f : Value → Value, (∀ v ∈ values, f v = v) → back f = x) :
    ReadsBackAsIs r document values x := by
  constructor
  · intro hread
    have hkept : ∀ v ∈ values, Value.ofJson (id v.toJson) = v :=
      fun v hv => Value.ofJson_arrange_of_read (fun _ => rfl) (hread v hv)
    exact h.1.trans (congrArg some (hsame _ hkept))
  · intro hread
    have hkept : ∀ v ∈ values, Value.ofJson v.toJson.sorted = v :=
      fun v hv => Value.ofJson_arrange_of_read Json.sorted_sorted (hread v hv)
    exact h.2.trans (congrArg some (hsame _ hkept))

/-- **Documents survive being written and read.** What is read from the document of a graph, an
    answer, a predicate or a path request is what was written, each property value or parameter being
    the one that its document stands for. So an answer comes back as it is, and so do a graph, a
    predicate and a path request whose values were read from documents. -/
theorem documents_read_back :
    (∀ g : Graph, ReadsBack Graph.reader g.toJson g.mapValues ∧
      ReadsBackAsIs Graph.reader g.toJson g.values g) ∧
    (∀ s : Subgraph, ReadsBack Subgraph.reader s.toJson fun _ => s) ∧
    (∀ p : Query.Predicate, ReadsBack Query.Predicate.reader p.toJson p.mapValues ∧
      ReadsBackAsIs Query.Predicate.reader p.toJson p.parameters.values p) ∧
    ∀ r : Query.PathRequest, ReadsBack Query.PathRequest.reader r.toJson r.mapValues ∧
      ReadsBackAsIs Query.PathRequest.reader r.toJson r.nodePredicate.parameters.values r := by
  refine ⟨fun g => ?_, fun s => ?_, fun p => ?_, fun r => ?_⟩
  · have hback : ReadsBack Graph.reader g.toJson g.mapValues :=
      readsBack_of_arrange fun _ h => Graph.ofJson?_toJson h g
    exact ⟨hback, hback.asIs fun _ => Graph.mapValues_eq_self⟩
  · exact readsBack_of_arrange fun _ h => Subgraph.ofJson?_toJson h s
  · have hback : ReadsBack Query.Predicate.reader p.toJson p.mapValues :=
      readsBack_of_arrange fun _ h => Query.Predicate.ofJson?_toJson h p
    exact ⟨hback, hback.asIs fun _ => Query.Predicate.mapValues_eq_self⟩
  · have hback : ReadsBack Query.PathRequest.reader r.toJson r.mapValues :=
      readsBack_of_arrange fun _ h => Query.PathRequest.ofJson?_toJson h r
    exact ⟨hback, hback.asIs fun _ => Query.PathRequest.mapValues_eq_self⟩

/-- A film with a year, a list of tags, and an edge to itself. -/
def taggedFilm : Graph where
  nodes :=
    [⟨1, ["Movie"], .ofList
      [("tags", .json (.array [.string "space", .null])), ("released", .int 1979)]⟩]
  edges := [⟨7, "SEQUEL_OF", 1, 1, .empty⟩]

/-- The two values of the film are such as documents stand for, so it comes back as it is. -/
theorem documents_read_back_taggedFilm :
    (∀ v ∈ taggedFilm.values, ∃ j, Value.reader.ofJson? (Json.sorted j) = some v) ∧
      Graph.reader.ofJson? taggedFilm.toJson.sorted = some taggedFilm := by
  have hread : ∀ v ∈ taggedFilm.values, ∃ j, Value.reader.ofJson? (Json.sorted j) = some v := by
    show ∀ v ∈ [Value.int 1979, .json (.array [.string "space", .null])], _
    simp only [List.forall_mem_cons]
    exact ⟨⟨.int 1979, rfl⟩, ⟨.array [.string "space", .null], rfl⟩, List.forall_mem_nil _⟩
  exact ⟨hread, (documents_read_back.1 taggedFilm).2.2 hread⟩

end GraphFilter
