import GraphFilter.Proofs.Condition.Grammar
import GraphFilter.Proofs.Except

/-!
# `GraphFilter.Proofs.Condition.Decoding` — the reader accepts the grammar and finds the first defect

Reading a document and describing it are compared node by node. A node that is read leaves nothing
to complain about below it; a node that is refused hands up the first defect below it, and every
filter that was read before is sound.

## Contents
- **Outcomes.** `FirstDefect` and `Outcome`: what has to be so when reading a node ends.
- **One node.** `decodeRule_cases`, `decodeString_cases`, and from them `decodeType_outcome` and
  `decodeProperty_outcome`.
- **Filters.** `decodeFilters_eq` finds the array, `decodeItems_outcome` goes through it.
- **Main result.** `decodeAt_outcome` by induction on documents, and `decode_follows_grammar`.
-/

namespace GraphFilter.Condition

/-! ## Outcomes -/

/-- In a document that stands at `path` the node at `place` has the first defect: nodes are compared
    by their places, so a node comes before its filters and these come in order. -/
structure FirstDefect (path : Path) (root : Json) (place : List Nat) (node : Json) (e : Error) :
    Prop where
  found : nodeAt? root place = some node
  defect : Defect ⟨path.indexes ++ place⟩ node e
  first : ∀ earlier other, earlier < place → nodeAt? root earlier = some other →
    LocallySound other

/-- What reading a document at a place ends with. -/
def Outcome (path : Path) (root : Json) : Except Error Condition → Prop
  | .ok c => Sound root ∧ Reads root c
  | .error e => ∃ place node, FirstDefect path root place node e

/-- What reading the filters of a node in order ends with, the first under the given index. -/
def ItemsOutcome (path : Path) (index : Nat) (items : List Json) :
    Except Error (List Condition) → Prop
  | .ok filters => (∀ item ∈ items, Sound item) ∧ List.Forall₂ Reads items filters
  | .error e => ∃ before item after place node, items = before ++ item :: after ∧
      (∀ earlier ∈ before, Sound earlier) ∧
      FirstDefect (path.child (index + before.length)) item place node e

variable {path : Path} {node : Json} {members : List (String × Json)}

/-- The root comes first, so its own defect is the first. -/
theorem outcome_of_defect {e : Error} (h : Defect path node e) : Outcome path node (.error e) := by
  refine ⟨[], node, rfl, ?_, ?_⟩
  · rw [List.append_nil]
    exact h
  · intro earlier other hearlier
    exact absurd hearlier (List.not_lt_nil earlier)

theorem outcome_of_leaf {rule : Rule} {c : Condition} (hrule : HasRule node rule)
    (hleaf : rule.isCombinator = false) (hfields : ∀ field ∈ rule.fields, HasField node field)
    (hreads : Reads node c) : Outcome path node (.ok c) := by
  refine ⟨sound_iff.mpr ⟨⟨rule, hrule, hfields⟩, ?_⟩, hreads⟩
  rw [filterItems_of_leaf hrule hleaf]
  exact fun item hitem => absurd hitem List.not_mem_nil

/-- A defect below a filter is one below the node, as long as the node and the filters before are
    sound. -/
theorem FirstDefect.of_item {before after : List Json} {item inner : Json} {place : List Nat}
    {e : Error} (hitems : filterItems node = before ++ item :: after) (hnode : LocallySound node)
    (hbefore : ∀ earlier ∈ before, Sound earlier)
    (h : FirstDefect (path.child before.length) item place inner e) :
    FirstDefect path node (before.length :: place) inner e := by
  have hitem : (before ++ item :: after)[before.length]? = some item := by
    rw [List.getElem?_append_right (Nat.le_refl _), Nat.sub_self, List.getElem?_cons_zero]
  refine ⟨?_, ?_, ?_⟩
  · unfold nodeAt?
    rw [hitems, hitem]
    exact h.found
  · have hdefect := h.defect
    unfold Path.child at hdefect
    rwa [List.append_assoc] at hdefect
  · intro earlier other hearlier hother
    cases earlier with
    | nil =>
      obtain rfl := Option.some.inj hother
      exact hnode
    | cons index rest =>
      unfold nodeAt? at hother
      obtain ⟨sibling, hsibling, hbelow⟩ := Option.bind_eq_some_iff.mp hother
      rw [hitems] at hsibling
      rcases List.cons_lt_cons_iff.mp hearlier with hindex | ⟨rfl, hrest⟩
      · -- An earlier filter, which was read to its end.
        rw [List.getElem?_append_left hindex] at hsibling
        exact hbefore sibling (List.mem_of_getElem? hsibling) rest other hbelow
      · -- The same filter, at an earlier place in it.
        obtain rfl := Option.some.inj (hitem.symm.trans hsibling)
        exact h.first rest other hrest hbelow

/-! ## One node -/

/-- The rule of a node is read, or it is the first thing that is wrong with the node. -/
theorem decodeRule_cases (path : Path) (members : List (String × Json)) :
    (∃ rule, HasRule (.object members) rule ∧ decodeRule path members = .ok rule) ∨
    ∃ e, Defect path (.object members) e ∧ decodeRule path members = .error e := by
  unfold decodeRule
  cases hlookup : lookupEntry "rule" members with
  | none => exact Or.inr ⟨_, .missingRule rfl hlookup, rfl⟩
  | some held =>
    cases held with
    | string name =>
      dsimp only
      by_cases hempty : name.isEmpty = true
      · rw [if_pos hempty]
        refine Or.inr ⟨_, .invalidRule hlookup ?_ (Json.hasKind_string_of_isEmpty hempty), rfl⟩
        intro other hother
        obtain rfl := Json.string.inj hother
        simpa using hempty
      · rw [if_neg hempty]
        cases hname : Rule.ofName? name with
        | some rule =>
          refine Or.inl ⟨rule, ?_, rfl⟩
          unfold HasRule
          rw [Rule.name_of_ofName? hname]
          exact hlookup
        | none =>
          have hunknown := Rule.name_ne_of_ofName?_eq_none hname
          exact Or.inr ⟨_, .unknownRule hlookup (by simpa using hempty) hunknown, rfl⟩
    | _ => exact Or.inr ⟨_, .invalidRule hlookup nofun (Json.hasKind_kind _), rfl⟩

/-- The two fields that hold names hold strings. -/
theorem Field.exists_string_of_accepts {field : Field} {held : Json}
    (hfield : field = .type ∨ field = .property) (h : field.accepts held = true) :
    ∃ s, held = .string s := by
  cases held with
  | string s => exact ⟨s, rfl⟩
  | _ =>
    rcases hfield with rfl | rfl
    · exact nomatch h
    · exact nomatch h

/-- A field that holds a name: it is read, or its check is the first that the node fails. -/
theorem decodeString_cases (path : Path) {rule : Rule} {field : Field} {expected : String}
    {before after : List Field} (hfield : field = .type ∨ field = .property)
    (hexpected : expected = field.expected) (hrule : HasRule (.object members) rule)
    (hsplit : rule.fields = before ++ field :: after)
    (hbefore : ∀ earlier ∈ before, HasField (.object members) earlier) :
    (∃ s, (Json.object members).member? field.name = some (.string s) ∧
      decodeString path rule field expected members = .ok s) ∨
    ∃ e, Defect path (.object members) e ∧
      decodeString path rule field expected members = .error e := by
  subst hexpected
  unfold decodeString
  cases hlookup : lookupEntry field.name members with
  | none => exact Or.inr ⟨_, .missingField hrule hsplit hbefore hlookup, rfl⟩
  | some held =>
    have hrefused (hother : ∀ s, held ≠ .string s) : field.accepts held = false := by
      by_contra haccepted
      obtain ⟨s, rfl⟩ := Field.exists_string_of_accepts hfield (by simpa using haccepted)
      exact hother s rfl
    cases held with
    | string s => exact Or.inl ⟨s, hlookup, rfl⟩
    | _ =>
      exact Or.inr ⟨_, .invalidField hrule hsplit hbefore hlookup (hrefused nofun)
        (Json.hasKind_kind _), rfl⟩

theorem decodeType_outcome (hrule : HasRule (.object members) .ofType) :
    Outcome path (.object members) (decodeType path members) := by
  have hsplit : Rule.ofType.fields = [] ++ Field.type :: [] := rfl
  have hwords : nonEmptyStringWords = Field.type.expected := rfl
  unfold decodeType
  rcases decodeString_cases path (Or.inl rfl) hwords hrule hsplit nofun with
    ⟨name, hheld, hread⟩ | ⟨e, hdefect, hread⟩
  · rw [hread]
    show Outcome path _ (if name.isEmpty = true then _ else _)
    by_cases hempty : name.isEmpty = true
    · rw [if_pos hempty, hwords]
      refine outcome_of_defect (.invalidField hrule hsplit nofun hheld ?_
        (Json.hasKind_string_of_isEmpty hempty))
      show (!name.isEmpty) = false
      rw [hempty]
      rfl
    · rw [if_neg hempty]
      refine outcome_of_leaf hrule rfl ?_ (.ofType hrule hheld)
      intro field hfield
      obtain rfl := List.mem_singleton.mp hfield
      exact ⟨_, hheld, by simpa [Field.accepts] using hempty⟩
  · rw [hread]
    exact outcome_of_defect hdefect

theorem decodeProperty_outcome (hrule : HasRule (.object members) .matchProperty) :
    Outcome path (.object members) (decodeProperty path members) := by
  have hfirst : Rule.matchProperty.fields = [] ++ Field.property :: [Field.value] := rfl
  have hsecond : Rule.matchProperty.fields = [Field.property] ++ Field.value :: [] := rfl
  have hwords : stringWords = Field.property.expected := rfl
  unfold decodeProperty
  rcases decodeString_cases path (Or.inr rfl) hwords hrule hfirst nofun with
    ⟨property, hheld, hread⟩ | ⟨e, hdefect, hread⟩
  · rw [hread]
    have hproperty : HasField (.object members) .property := ⟨_, hheld, rfl⟩
    cases hvalue : lookupEntry Field.value.name members with
    | none =>
      refine outcome_of_defect (.missingField hrule hsecond ?_ hvalue)
      exact List.forall_mem_singleton.mpr hproperty
    | some value =>
      refine outcome_of_leaf hrule rfl ?_ (.matchProperty hrule hheld hvalue)
      exact List.forall_mem_cons.mpr ⟨hproperty, List.forall_mem_singleton.mpr ⟨value, hvalue, rfl⟩⟩
  · rw [hread]
    exact outcome_of_defect hdefect

/-! ## Filters -/

/-- Going through the members for the filters is looking them up. -/
theorem decodeFilters_eq (rule : Rule) :
    decodeFilters path rule members =
      match lookupEntry Field.filters.name members with
      | none => .error (.missingField path rule .filters arrayWords)
      | some (.array items) => decodeItems path 0 items
      | some other => .error (.invalidField path rule .filters arrayWords other.kind) := by
  induction members with
  | nil => rfl
  | cons member rest ih =>
    obtain ⟨key, value⟩ := member
    unfold decodeFilters
    rw [lookupEntry_cons]
    by_cases hkey : key = Field.filters.name
    · rw [if_pos hkey, if_pos hkey]
      cases value <;> rfl
    · rw [if_neg hkey, if_neg hkey, ih]

/-- Filters are read in order, up to the first that is refused. -/
theorem decodeItems_outcome {items : List Json} {index : Nat}
    (ih : ∀ item ∈ items, ∀ path, Outcome path item (decodeAt path item)) :
    ItemsOutcome path index items (decodeItems path index items) := by
  induction items generalizing index with
  | nil => exact ⟨nofun, .nil⟩
  | cons item rest ihrest =>
    obtain ⟨hitem, hrest⟩ := List.forall_mem_cons.mp ih
    have hitem := hitem (path.child index)
    have hrest : ItemsOutcome path (index + 1) rest (decodeItems path (index + 1) rest) :=
      ihrest hrest
    unfold decodeItems
    cases hread : decodeAt (path.child index) item with
    | error e =>
      rw [hread] at hitem
      obtain ⟨place, node, hfirst⟩ := hitem
      exact ⟨[], item, rest, place, node, rfl, nofun, hfirst⟩
    | ok c =>
      rw [hread] at hitem
      obtain ⟨hsound, hreads⟩ := hitem
      cases hlater : decodeItems path (index + 1) rest with
      | error e =>
        rw [hlater] at hrest
        obtain ⟨before, refused, after, place, node, rfl, hbefore, hfirst⟩ := hrest
        refine ⟨item :: before, refused, after, place, node, rfl, ?_, ?_⟩
        · exact List.forall_mem_cons.mpr ⟨hsound, hbefore⟩
        · rwa [Nat.add_assoc, Nat.add_comm 1] at hfirst
      | ok filters =>
        rw [hlater] at hrest
        exact ⟨List.forall_mem_cons.mpr ⟨hsound, hrest.1⟩, .cons hreads hrest.2⟩

/-- Filters that were read make a node, and the first defect among them is that of the node. -/
theorem ItemsOutcome.combine {items : List Json} {combine : List Condition → Condition}
    {read : Except Error (List Condition)} (hitems : filterItems node = items)
    (hnode : LocallySound node)
    (hcombine : ∀ filters, List.Forall₂ Reads items filters → Reads node (combine filters))
    (h : ItemsOutcome path 0 items read) : Outcome path node (combine <$> read) := by
  cases read with
  | error e =>
    obtain ⟨before, item, after, place, inner, hsplit, hbefore, hfirst⟩ := h
    rw [Nat.zero_add] at hfirst
    exact ⟨_, inner, hfirst.of_item (hitems.trans hsplit) hnode hbefore⟩
  | ok filters =>
    obtain ⟨hsound, hreads⟩ := h
    refine ⟨sound_iff.mpr ⟨hnode, ?_⟩, hcombine filters hreads⟩
    rw [hitems]
    exact hsound

/-- A node that combines filters, given that they are read as they should be. -/
theorem decodeFilters_outcome {rule : Rule} {combine : List Condition → Condition}
    (hrule : HasRule (.object members) rule) (hcombinator : rule.isCombinator = true)
    (hcombine : ∀ items filters,
      (Json.object members).member? Field.filters.name = some (.array items) →
      List.Forall₂ Reads items filters → Reads (.object members) (combine filters))
    (ih : ∀ item ∈ filterItems (.object members), ∀ path, Outcome path item (decodeAt path item)) :
    Outcome path (.object members) (combine <$> decodeFilters path rule members) := by
  have hsplit : rule.fields = [] ++ Field.filters :: [] := by
    cases rule with
    | all => rfl
    | any => rfl
    | _ => exact nomatch hcombinator
  rw [decodeFilters_eq]
  cases hlookup : lookupEntry Field.filters.name members with
  | none => exact outcome_of_defect (.missingField hrule hsplit nofun hlookup)
  | some held =>
    cases held with
    | array items =>
      have hitems : filterItems (.object members) = items :=
        filterItems_of_combinator hrule hcombinator hlookup
      have hnode : LocallySound (.object members) := by
        refine ⟨rule, hrule, ?_⟩
        rw [hsplit]
        exact List.forall_mem_singleton.mpr ⟨_, hlookup, rfl⟩
      rw [hitems] at ih
      exact ItemsOutcome.combine hitems hnode (fun filters => hcombine items filters hlookup)
        (decodeItems_outcome ih)
    | _ =>
      exact outcome_of_defect
        (.invalidField hrule hsplit nofun hlookup rfl (Json.hasKind_kind _))

/-! ## Main result -/

/-- **Reading a document does what its grammar says,** wherever it stands. -/
theorem decodeAt_outcome (node : Json) (path : Path) : Outcome path node (decodeAt path node) := by
  -- Only the filters of a node are read in turn, not its other members.
  induction node using node_induction generalizing path with
  | step node ih =>
    cases node with
    | object members =>
      unfold decodeAt
      rcases decodeRule_cases path members with ⟨rule, hrule, hread⟩ | ⟨e, hdefect, hread⟩
      · rw [hread]
        cases rule with
        | ofType => exact decodeType_outcome hrule
        | matchProperty => exact decodeProperty_outcome hrule
        | all => exact decodeFilters_outcome hrule rfl (fun _ _ => .all hrule) ih
        | any => exact decodeFilters_outcome hrule rfl (fun _ _ => .any hrule) ih
      · rw [hread]
        exact outcome_of_defect hdefect
    | _ => exact outcome_of_defect (.notAnObject nofun (Json.hasKind_kind _))

/-- **The reader accepts the grammar and points at the first defect.** A document is read exactly if
    all its nodes are locally sound, and then as the condition that it stands for. Otherwise the
    error leads to the first node that is not locally sound, nodes being met depth first with a node
    before its filters, and it is the error of the first check which that node fails. -/
theorem decode_follows_grammar (payload : Json) :
    ((∃ c, decode payload = .ok c) ↔
      ∀ place node, nodeAt? payload place = some node → LocallySound node) ∧
    (∀ c, decode payload = .ok c → Reads payload c) ∧
    ∀ e, decode payload = .error e →
      ∃ place node, e.path? = some ⟨place⟩ ∧ nodeAt? payload place = some node ∧
        ¬ LocallySound node ∧ Defect ⟨place⟩ node e ∧
        ∀ earlier other, earlier < place → nodeAt? payload earlier = some other →
          LocallySound other := by
  have houtcome : Outcome .root payload (decode payload) := decodeAt_outcome payload .root
  cases hdecode : decode payload with
  | ok c =>
    rw [hdecode] at houtcome
    obtain ⟨hsound, hreads⟩ := houtcome
    refine ⟨iff_of_true ⟨c, rfl⟩ hsound, ?_, nofun⟩
    intro other hother
    obtain rfl := Except.ok.inj hother
    exact hreads
  | error e =>
    rw [hdecode] at houtcome
    obtain ⟨place, node, hfound, hdefect, hfirst⟩ := houtcome
    have hnode : ¬ LocallySound node := hdefect.not_locallySound
    refine ⟨iff_of_false nofun fun hsound => hnode (hsound place node hfound), nofun, ?_⟩
    intro other hother
    obtain rfl := Except.error.inj hother
    exact ⟨place, node, hdefect.path?, hfound, hnode, hdefect, hfirst⟩

/-- A sound node: a property may be tested for `null`, and other members do not matter. -/
def nullTest : Json :=
  .object
    [("note", .bool true), ("property", .string ""), ("rule", .string "match-property"),
      ("value", .null)]

/-- A document with three defects, the first of them in the second filter: a property that is no
    string, a filter that is no object, and an empty rule. -/
def threeDefects : Json :=
  .object
    [("filters", .array
      [nullTest,
        .object
          [("filters", .array
            [.object [("property", .int 3), ("rule", .string "match-property")], .null]),
            ("rule", .string "any")],
        .object [("rule", .string "")]]),
      ("rule", .string "all")]

/-- A document with the sound node and another filter behind it. -/
def besideNullTest (filter : Json) : Json :=
  .object [("filters", .array [nullTest, filter]), ("rule", .string "all")]

/-- The sound node is read, and a document is refused for its first defect: for a property that is
    a number, for filters of other kinds, and for rules of other kinds. -/
theorem decode_follows_grammar_threeDefects :
    Reads nullTest (.matchProperty "" .null) ∧
    decode threeDefects =
      .error (.invalidField ⟨[1, 0]⟩ .matchProperty .property "a string" .number) ∧
    (∃ node, nodeAt? threeDefects [1, 0] = some node ∧ ¬ LocallySound node ∧
      ∀ earlier other, earlier < [1, 0] → nodeAt? threeDefects earlier = some other →
        LocallySound other) ∧
    (∀ held ∈ [Json.null, .bool true, .string "", .string "all", .array []],
      ∃ found, held.HasKind found ∧
        decode (besideNullTest held) = .error (.notAnObject ⟨[1]⟩ found)) ∧
    ∀ held ∈ [Json.null, .bool true, .string "", .array [], .object []],
      ∃ found, held.HasKind found ∧
        decode (besideNullTest (.object [("rule", held)])) = .error (.invalidRule ⟨[1]⟩ found) := by
  have hread : decode nullTest = .ok (.matchProperty "" .null) := rfl
  have hrefused : decode threeDefects =
      .error (.invalidField ⟨[1, 0]⟩ .matchProperty .property "a string" .number) := rfl
  refine ⟨(decode_follows_grammar nullTest).2.1 _ hread, hrefused, ?_, ?_, ?_⟩
  · obtain ⟨place, node, hplace, hfound, hnode, -, hfirst⟩ :=
      (decode_follows_grammar threeDefects).2.2 _ hrefused
    obtain rfl : [1, 0] = place := congrArg Path.indexes (Option.some.inj hplace)
    exact ⟨node, hfound, hnode, hfirst⟩
  · simp only [List.forall_mem_cons]
    exact ⟨⟨_, .null, rfl⟩, ⟨_, .boolean _, rfl⟩, ⟨_, .emptyString, rfl⟩,
      ⟨_, .string (by decide), rfl⟩, ⟨_, .array _, rfl⟩, nofun⟩
  · simp only [List.forall_mem_cons]
    exact ⟨⟨_, .null, rfl⟩, ⟨_, .boolean _, rfl⟩, ⟨_, .emptyString, rfl⟩, ⟨_, .array _, rfl⟩,
      ⟨_, .object _, rfl⟩, nofun⟩

end GraphFilter.Condition
