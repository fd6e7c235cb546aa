import GraphFilter.Proofs.Query.Legible
import GraphFilter.Proofs.Text.Words
import GraphFilter.Settings.Load

/-!
# `GraphFilter.Proofs.Query.OneReading` — the text of a clause has one reading

A clause is written by putting phrases side by side, and names of properties stand among them. Yet
no name can pass for a piece of the query: every name is a word, and whatever the phrases put behind
a word is no character of a word. So a clause and where it ends can be read off a text.

## Contents
- **Phrases.** One equation per kind of clause for its characters in Cypher.
- **Openings.** `Clause.opening` is the word that a clause starts with and the sign behind it; it
  tells which kind of clause there is.
- **Reading.** `Clause.IsReadable`, of one kind of clause after the other, with `Clause.tail_cancel`
  for the parts of a group behind the first, and `Clause.isReadable_of_legible`.
- **Two conditions, one text.** `one_reading`.
-/

namespace GraphFilter

namespace Query

open Text (Stops stops_cons identifier_cancel)

/-- An identifier has no quotes in it that would be written twice. -/
theorem toList_backtickQuoted {name : String} (h : Text.isIdentifier name = true) :
    (backtickQuoted name).toList = '\x60' :: (name.toList ++ ['\x60']) := by
  have hplain : name.toList.flatMap doubleBacktick = name.toList.flatMap fun c => [c] := by
    refine List.flatMap_congr ?_
    intro c hc
    have hword : Text.isIdentifierRest c = true :=
      List.all_eq_true.mp (Text.all_isIdentifierRest h) c hc
    have hquote : c ≠ '\x60' := by
      rintro rfl
      exact absurd hword (by decide)
    exact if_neg hquote
  unfold backtickQuoted
  rw [String.toList_ofList, hplain, List.flatMap_singleton']

/-! ## Phrases -/

/-- The signs between the name of an entity and the word for its property. -/
def Access.before : Access → List Char
  | .bound _ => ['[', '$']
  | .inline _ => ['.', '\x60']

/-- The sign behind the word for a property. -/
def Access.behind : Access → Char
  | .bound _ => ']'
  | .inline _ => '\x60'

theorem Access.isIdentifierRest_behind (access : Access) :
    Text.isIdentifierRest access.behind = false := by
  cases access with
  | bound key => rfl
  | inline property => rfl

/-- An access is its signs and its word. -/
theorem Access.eq_of_before_eq {access other : Access} (hbefore : access.before = other.before)
    (hword : access.word = other.word) : access = other := by
  cases access with
  | bound key =>
    cases other with
    | bound held => exact congrArg Access.bound hword
    | inline property => exact absurd hbefore (by simp [before])
  | inline property =>
    cases other with
    | bound key => exact absurd hbefore (by simp [before])
    | inline named => exact congrArg Access.inline hword

theorem Connective.isIdentifier_word (op : Connective) : Text.isIdentifier op.word = true := by
  cases op <;> decide

theorem Connective.word_injective {op other : Connective} (h : op.word = other.word) :
    op = other := by
  cases op <;> cases other <;> first | rfl | exact absurd h (by decide)

namespace Clause

variable {kind : EntityKind} {binder : String}

/-- The characters of a clause in Cypher. -/
def chars (kind : EntityKind) (binder : String) (clause : Clause) : List Char :=
  (clause.render .cypher kind binder).toList

/-- The characters of the parts of a group behind the first one. -/
def tailChars (kind : EntityKind) (binder : String) (op : Connective) : List Clause → List Char
  | [] => []
  | part :: rest =>
    ' ' :: (op.word.toList ++ ' ' :: (part.chars kind binder ++ tailChars kind binder op rest))

theorem chars_label_append (binder key : String) (u : List Char) :
    (hasType key).chars .node binder ++ u =
      '$' :: (key.toList ++ ' ' :: ("IN labels(".toList ++ (binder.toList ++ ')' :: u))) := by
  simp [chars, render, typeTest, Dialect.cypher, toString]

theorem chars_type_append (binder key : String) (u : List Char) :
    (hasType key).chars .edge binder ++ u =
      "type".toList ++ '(' :: (binder.toList ++ (") = $".toList ++ (key.toList ++ u))) := by
  simp [chars, render, typeTest, Dialect.cypher, toString]

theorem chars_property_append (kind : EntityKind) (binder : String) {access : Access}
    (hword : Text.isIdentifier access.word = true) (key : String) (u : List Char) :
    (property access key).chars kind binder ++ u =
      binder.toList ++ (access.before ++ (access.word.toList ++
        access.behind :: (" = $".toList ++ (key.toList ++ u)))) := by
  cases access with
  | bound held => simp [chars, render, Access.render, Access.before, Access.behind, Access.word,
      Dialect.cypher, toString]
  | inline property =>
    have hquoted := toList_backtickQuoted hword
    rw [Access.word] at hquoted
    simp [chars, render, Access.render, Access.before, Access.behind, Access.word, Dialect.cypher,
      toString, hquoted]

/-- Parts that are joined are the first part and the parts behind it. -/
theorem intercalate_chars (kind : EntityKind) (binder : String) (op : Connective) (part : Clause)
    (rest : List Clause) :
    (" " ++ op.word ++ " ").toList.intercalate ((part :: rest).map (chars kind binder)) =
      part.chars kind binder ++ tailChars kind binder op rest := by
  induction rest generalizing part with
  | nil =>
    rw [tailChars, List.append_nil, List.map_cons, List.map_nil, List.intercalate_singleton]
  | cons next rest ih =>
    have hlater := ih next
    rw [List.map_cons] at hlater
    rw [List.map_cons, List.map_cons, List.intercalate_cons_cons, hlater, tailChars]
    simp

theorem chars_group_append (op : Connective) (part : Clause) (rest : List Clause) (u : List Char) :
    (group op (part :: rest)).chars kind binder ++ u =
      '(' :: (part.chars kind binder ++ (tailChars kind binder op rest ++ ')' :: u)) := by
  have hjoined := intercalate_chars kind binder op part rest
  have hparts : ((part :: rest).map (render .cypher kind binder)).map String.toList =
      (part :: rest).map (chars kind binder) := List.map_map
  rw [chars, render, renderEach_eq_map, String.toList_append, String.toList_append,
    String.toList_intercalate, hparts, hjoined]
  simp

/-- Behind a part there is a blank or the end of the group. -/
theorem stops_tailChars_append (op : Connective) (parts : List Clause) (u : List Char) :
    Stops (tailChars kind binder op parts ++ ')' :: u) := by
  cases parts with
  | nil => exact stops_cons rfl _
  | cons part rest => exact stops_cons rfl _

/-! ## Openings -/

/-- The word that a clause starts with, if it does, and the sign behind it. -/
def opening (kind : EntityKind) (binder : String) : Clause → List Char × Char
  | .hasType _ =>
    match kind with
    | .node => ([], '$')
    | .edge => ("type".toList, '(')
  | .property (.bound _) _ => (binder.toList, '[')
  | .property (.inline _) _ => (binder.toList, '.')
  | .group _ _ => ([], '(')

/-- A legible clause starts with its opening. -/
theorem exists_opening_append (kind : EntityKind) (binder : String) {clause : Clause}
    (h : clause.Legible) (u : List Char) :
    ∃ rest, clause.chars kind binder ++ u =
      (opening kind binder clause).1 ++ (opening kind binder clause).2 :: rest := by
  cases h with
  | @hasType key _ =>
    cases kind with
    | node => exact ⟨_, chars_label_append binder key u⟩
    | edge => exact ⟨_, chars_type_append binder key u⟩
  | @property access key hword _ =>
    have htext := chars_property_append kind binder hword key u
    cases access with
    | bound held => exact ⟨_, htext⟩
    | inline property => exact ⟨_, htext⟩
  | @group op parts hparts _ =>
    obtain ⟨part, rest, rfl⟩ := List.exists_cons_of_ne_nil hparts
    exact ⟨_, chars_group_append op part rest u⟩

/-- An opening is a word, or nothing, and a sign that ends it. -/
theorem opening_is_word (kind : EntityKind) (hbinder : Text.isIdentifier binder = true)
    (clause : Clause) :
    (opening kind binder clause).1.all Text.isIdentifierRest = true ∧
      Text.isIdentifierRest (opening kind binder clause).2 = false := by
  have hword := Text.all_isIdentifierRest hbinder
  cases clause with
  | hasType key => cases kind <;> exact ⟨rfl, rfl⟩
  | property access key => cases access <;> exact ⟨hword, rfl⟩
  | group op parts => exact ⟨rfl, rfl⟩

/-- Texts that go on alike start with one opening. -/
theorem opening_eq_of_append_eq (hbinder : Text.isIdentifier binder = true) {a b : Clause}
    (ha : a.Legible) (hb : b.Legible) {u v : List Char}
    (h : a.chars kind binder ++ u = b.chars kind binder ++ v) :
    opening kind binder a = opening kind binder b := by
  obtain ⟨ra, hra⟩ := exists_opening_append kind binder ha u
  obtain ⟨rb, hrb⟩ := exists_opening_append kind binder hb v
  obtain ⟨hworda, hsigna⟩ := opening_is_word kind hbinder a
  obtain ⟨hwordb, hsignb⟩ := opening_is_word kind hbinder b
  obtain ⟨hwords, hrests⟩ := Text.word_cancel hworda hwordb (stops_cons hsigna ra)
    (stops_cons hsignb rb) (hra.symm.trans (h.trans hrb))
  exact Prod.ext hwords (List.cons.inj hrests).1

/-! An opening tells the kind of clause, and with a property how it is named. -/

theorem eq_hasType_of_opening_eq {key : String} {b : Clause}
    (h : opening kind binder (.hasType key) = opening kind binder b) :
    ∃ held, b = .hasType held := by
  cases b with
  | hasType held => exact ⟨held, rfl⟩
  | property access held =>
    cases kind <;> cases access <;> exact absurd (congrArg Prod.snd h) (by simp [opening])
  | group op parts =>
    cases kind with
    | node => exact absurd (congrArg Prod.snd h) (by simp [opening])
    | edge => exact absurd (congrArg Prod.fst h) (by simp [opening])

theorem eq_property_of_opening_eq {access : Access} {key : String} {b : Clause}
    (h : opening kind binder (.property access key) = opening kind binder b) :
    ∃ other held, b = .property other held ∧ access.before = other.before := by
  cases b with
  | hasType held =>
    cases kind <;> cases access <;> exact absurd (congrArg Prod.snd h) (by simp [opening])
  | property other held =>
    refine ⟨other, held, rfl, ?_⟩
    cases access with
    | bound word =>
      cases other with
      | bound name => rfl
      | inline name => exact absurd (congrArg Prod.snd h) (by simp [opening])
    | inline word =>
      cases other with
      | bound name => exact absurd (congrArg Prod.snd h) (by simp [opening])
      | inline name => rfl
  | group op parts =>
    cases access <;> exact absurd (congrArg Prod.snd h) (by simp [opening])

theorem eq_group_of_opening_eq {op : Connective} {parts : List Clause} {b : Clause}
    (h : opening kind binder (.group op parts) = opening kind binder b) :
    ∃ other held, b = .group other held := by
  cases b with
  | hasType key =>
    cases kind with
    | node => exact absurd (congrArg Prod.snd h) (by simp [opening])
    | edge => exact absurd (congrArg Prod.fst h) (by simp [opening])
  | property access key =>
    cases access <;> exact absurd (congrArg Prod.snd h) (by simp [opening])
  | group other held => exact ⟨other, held, rfl⟩

/-! ## Reading -/

/-- Whatever clause a text starts with that could start with this one, it is this one, up to the
    connective of lone parts, and ends where this one ends. -/
def IsReadable (kind : EntityKind) (binder : String) (a : Clause) : Prop :=
  ∀ {b : Clause}, b.Legible → ∀ {u v : List Char}, Stops u → Stops v →
    a.chars kind binder ++ u = b.chars kind binder ++ v → a.settled = b.settled ∧ u = v

theorem hasType_cancel {key held : String} (hkey : Text.isIdentifier key = true)
    (hheld : Text.isIdentifier held = true) {u v : List Char} (hu : Stops u) (hv : Stops v)
    (h : (hasType key).chars kind binder ++ u = (hasType held).chars kind binder ++ v) :
    key = held ∧ u = v := by
  cases kind with
  | node =>
    rw [chars_label_append, chars_label_append] at h
    obtain ⟨hkeys, hends⟩ := identifier_cancel hkey hheld (stops_cons rfl _) (stops_cons rfl _)
      (List.cons.inj h).2
    have hbehind := List.append_cancel_left (List.append_cancel_left (List.cons.inj hends).2)
    exact ⟨hkeys, (List.cons.inj hbehind).2⟩
  | edge =>
    rw [chars_type_append, chars_type_append] at h
    have hbehind := List.append_cancel_left (List.cons.inj (List.append_cancel_left h)).2
    exact identifier_cancel hkey hheld hu hv (List.append_cancel_left hbehind)

theorem isReadable_hasType (hbinder : Text.isIdentifier binder = true) {key : String}
    (hkey : Text.isIdentifier key = true) : (hasType key).IsReadable kind binder := by
  intro b hb u v hu hv h
  have hopening := opening_eq_of_append_eq hbinder (.hasType hkey) hb h
  obtain ⟨held, rfl⟩ := eq_hasType_of_opening_eq hopening
  cases hb with
  | hasType hheld =>
    obtain ⟨rfl, hends⟩ := hasType_cancel hkey hheld hu hv h
    exact ⟨rfl, hends⟩

theorem property_cancel {access other : Access} {key held : String}
    (hbefore : access.before = other.before) (hword : Text.isIdentifier access.word = true)
    (hother : Text.isIdentifier other.word = true) (hkey : Text.isIdentifier key = true)
    (hheld : Text.isIdentifier held = true) {u v : List Char} (hu : Stops u) (hv : Stops v)
    (h : (property access key).chars kind binder ++ u =
      (property other held).chars kind binder ++ v) :
    access = other ∧ key = held ∧ u = v := by
  rw [chars_property_append kind binder hword, chars_property_append kind binder hother,
    hbefore] at h
  have hwords := List.append_cancel_left (List.append_cancel_left h)
  obtain ⟨hsame, hends⟩ := identifier_cancel hword hother
    (stops_cons access.isIdentifierRest_behind _) (stops_cons other.isIdentifierRest_behind _)
    hwords
  have hkeys := List.append_cancel_left (List.cons.inj hends).2
  exact ⟨Access.eq_of_before_eq hbefore hsame, identifier_cancel hkey hheld hu hv hkeys⟩

theorem isReadable_property (hbinder : Text.isIdentifier binder = true) {access : Access}
    {key : String} (hword : Text.isIdentifier access.word = true)
    (hkey : Text.isIdentifier key = true) : (property access key).IsReadable kind binder := by
  intro b hb u v hu hv h
  have hopening := opening_eq_of_append_eq hbinder (.property hword hkey) hb h
  obtain ⟨other, held, rfl, hbefore⟩ := eq_property_of_opening_eq hopening
  cases hb with
  | property hother hheld =>
    obtain ⟨rfl, rfl, hends⟩ := property_cancel hbefore hword hother hkey hheld hu hv h
    exact ⟨rfl, hends⟩

/-- The parts behind the first are read one after the other, up to the end of the group. Without any
    there is no connective to be read. -/
theorem tail_cancel {op other : Connective} {as bs : List Clause}
    (has : ∀ a ∈ as, a.IsReadable kind binder) (hbs : ∀ b ∈ bs, b.Legible) {u v : List Char}
    (h : tailChars kind binder op as ++ ')' :: u = tailChars kind binder other bs ++ ')' :: v) :
    as.map settled = bs.map settled ∧ (as = [] ∨ op = other) ∧ u = v := by
  induction as generalizing bs with
  | nil =>
    cases bs with
    | nil => exact ⟨rfl, Or.inl rfl, (List.cons.inj h).2⟩
    | cons b bs =>
      -- A parenthesis against the blank in front of a connective.
      exact absurd (List.cons.inj h).1 (by decide)
  | cons a as ih =>
    cases bs with
    | nil => exact absurd (List.cons.inj h).1 (by decide)
    | cons b bs =>
      obtain ⟨ha, has⟩ := List.forall_mem_cons.mp has
      obtain ⟨hb, hbs⟩ := List.forall_mem_cons.mp hbs
      rw [tailChars, tailChars, List.cons_append, List.cons_append, List.append_assoc,
        List.append_assoc, List.cons_append, List.cons_append, List.append_assoc,
        List.append_assoc] at h
      obtain ⟨hops, hparts⟩ := identifier_cancel op.isIdentifier_word other.isIdentifier_word
        (stops_cons rfl _) (stops_cons rfl _) (List.cons.inj h).2
      -- A part ends before a blank or a parenthesis, so it can be read off with its end.
      obtain ⟨hpart, htails⟩ := ha hb (stops_tailChars_append op as u)
        (stops_tailChars_append other bs v) (List.cons.inj hparts).2
      obtain ⟨hrest, -, hends⟩ := ih has hbs htails
      rw [List.map_cons, List.map_cons, hpart, hrest]
      exact ⟨rfl, Or.inr (Connective.word_injective hops), hends⟩

/-- Groups of the same parts are the same if they have one connective or are without need of one. -/
theorem settled_group_eq {op other : Connective} {part held : Clause} {rest later : List Clause}
    (hpart : part.settled = held.settled) (hrest : rest.map settled = later.map settled)
    (hops : rest = [] ∨ op = other) :
    (group op (part :: rest)).settled = (group other (held :: later)).settled := by
  have hparts : settledParts (part :: rest) = settledParts (held :: later) := by
    rw [settledParts_eq_map, settledParts_eq_map, List.map_cons, List.map_cons, hpart, hrest]
  have hlength : (part :: rest).length = (held :: later).length := by
    simpa using congrArg List.length hrest
  rw [settled, settled, hparts, ← hlength]
  rcases hops with rfl | rfl
  · rfl
  · rfl

theorem isReadable_group (hbinder : Text.isIdentifier binder = true) {op : Connective}
    {parts : List Clause} (hlegible : (group op parts).Legible)
    (ih : ∀ part ∈ parts, part.IsReadable kind binder) :
    (group op parts).IsReadable kind binder := by
  intro b hb u v hu hv h
  have hopening := opening_eq_of_append_eq hbinder hlegible hb h
  obtain ⟨other, helds, rfl⟩ := eq_group_of_opening_eq hopening
  cases hlegible with
  | group hparts _ =>
    cases hb with
    | group hhelds hothers =>
      obtain ⟨part, rest, rfl⟩ := List.exists_cons_of_ne_nil hparts
      obtain ⟨held, later, rfl⟩ := List.exists_cons_of_ne_nil hhelds
      obtain ⟨hpart, hrest⟩ := List.forall_mem_cons.mp ih
      obtain ⟨hheld, hlater⟩ := List.forall_mem_cons.mp hothers
      rw [chars_group_append, chars_group_append] at h
      obtain ⟨hfirst, htails⟩ := hpart hheld (stops_tailChars_append op rest u)
        (stops_tailChars_append other later v) (List.cons.inj h).2
      obtain ⟨hbehind, hops, hends⟩ := tail_cancel hrest hlater htails
      exact ⟨settled_group_eq hfirst hbehind hops, hends⟩

/-- **A legible clause, and where it ends, can be read off a text.** -/
theorem isReadable_of_legible (hbinder : Text.isIdentifier binder = true) {clause : Clause}
    (h : clause.Legible) : clause.IsReadable kind binder := by
  induction h with
  | hasType hkey => exact isReadable_hasType hbinder hkey
  | property hword hkey => exact isReadable_property hbinder hword hkey
  | group hparts hlegible ih => exact isReadable_group hbinder (.group hparts hlegible) ih

/-- Clauses of one text are the same, up to the connective of lone parts. -/
theorem settled_eq_of_render_eq (hbinder : Text.isIdentifier binder = true) {a b : Clause}
    (ha : a.Legible) (hb : b.Legible)
    (h : a.render .cypher kind binder = b.render .cypher kind binder) : a.settled = b.settled := by
  have hchars : a.chars kind binder ++ [] = b.chars kind binder ++ [] := by
    rw [chars, chars, h]
  exact (isReadable_of_legible hbinder ha hb Text.stops_nil Text.stops_nil hchars).1

end Clause

/-! ## Two conditions, one text -/

/-- The check of settings has nothing against the name of entities if and only if it is an
    identifier, whichever log filters there are. -/
theorem not_mem_problems_iff (libraries : Settings.Libraries) (s : Settings) :
    SettingsProblem.entityVariable s.entityVariable ∉ libraries.problems s ↔
      Text.isIdentifier s.entityVariable = true := by
  unfold Settings.Libraries.problems
  rw [List.mem_append, not_or]
  constructor
  · rintro ⟨hname, -⟩
    by_contra hidentifier
    rw [if_neg hidentifier] at hname
    exact hname (List.mem_singleton_self _)
  · intro hidentifier
    rw [if_pos hidentifier]
    refine ⟨List.not_mem_nil, ?_⟩
    -- The other check reports log filters only.
    cases libraries.filterDefect? s.logLevel with
    | none => exact List.not_mem_nil
    | some reason => simp

/-- The clause behind the text of a predicate, and what it is made of. -/
theorem exists_clause_of_fragment (k : Compiler) {c : Condition} {built : Built} {text : String}
    (hbuild : Compiler.build k.strategy c = .ok built)
    (htext : (k.render built).fragment = some text) :
    ∃ clause, built.clause = some clause ∧ clause.render k.dialect k.kind k.binder = text ∧
      clause.Legible ∧ clause.Mirrors k.strategy built.parameters c.prune := by
  have hcompiles := Compiler.buildFrom_compiles hbuild
  obtain ⟨clause, hclause, hrender⟩ := Option.map_eq_some_iff.mp htext
  refine ⟨clause, hclause, hrender, Compiler.buildFrom_legible hbuild clause hclause, ?_⟩
  cases hbare : c.isBare with
  | true => exact absurd (hcompiles.clause_of_isBare hbare) (by simp [hclause])
  | false =>
    obtain ⟨mirror, hmirror, hmirrors⟩ := hcompiles.clause_of_not_isBare hbare
    obtain rfl := Option.some.inj (hclause.symm.trans hmirror)
    exact hmirrors

/-- **The text of a predicate has one reading.** Conditions with equal texts have the same groups
    and leaves, once bare subtrees are left out and lone filters are not told apart: one clause of
    that text, which holds the placeholders of every leaf, is what both were built to and mirrors
    them both. -/
theorem one_reading (libraries : Settings.Libraries) (s : Settings) (kind : EntityKind)
    (strategy : IdentifierStrategy) {c d : Condition} {built other : Built} {text : String}
    (hbinder : SettingsProblem.entityVariable s.entityVariable ∉ libraries.problems s)
    (hc : Compiler.build strategy c = .ok built) (hd : Compiler.build strategy d = .ok other)
    (htext : (Compiler.render { kind, binder := s.entityVariable, strategy } built).fragment =
      some text)
    (hsame : (Compiler.render { kind, binder := s.entityVariable, strategy } other).fragment =
      some text) :
    ∃ clause : Clause, clause.render .cypher kind s.entityVariable = text ∧
      built.clause.map Clause.settled = some clause ∧
      other.clause.map Clause.settled = some clause ∧
      clause.Mirrors strategy built.parameters c.prune.settled ∧
      clause.Mirrors strategy other.parameters d.prune.settled ∧
      c.prune.settled.SameOutline (fun property held => strategy = .inline → property = held)
        d.prune.settled := by
  obtain ⟨a, ha, hatext, halegible, hamirrors⟩ :=
    exists_clause_of_fragment { kind, binder := s.entityVariable, strategy } hc htext
  obtain ⟨b, hb, hbtext, hblegible, hbmirrors⟩ :=
    exists_clause_of_fragment { kind, binder := s.entityVariable, strategy } hd hsame
  have hname := (not_mem_problems_iff libraries s).mp hbinder
  have hclauses := Clause.settled_eq_of_render_eq hname halegible hblegible
    (hatext.trans hbtext.symm)
  have hmirrors := hamirrors.settled
  have hothers := hbmirrors.settled
  rw [← hclauses] at hothers
  refine ⟨a.settled, ?_, ?_, ?_, hmirrors, hothers, hmirrors.sameOutline hothers⟩
  · rw [Clause.render_settled]
    exact hatext
  · rw [ha, Option.map_some]
  · rw [hb, Option.map_some, hclauses]

/-- A lone filter beside a bare one in an `all`, and a lone filter in an `any`: the names of the
    properties differ, and give one parameter. -/
theorem one_reading_aliases :
    let c : Condition := .all [.any [], .any [.matchProperty "a b" (.int 1)]]
    let d : Condition := .any [.all [.matchProperty "a_b" (.string "x")]]
    ∃ built other, Compiler.build .dynamicKey c = .ok built ∧
      Compiler.build .dynamicKey d = .ok other ∧
      (Compiler.render { kind := .edge } built).fragment = some "((n[$a_b] = $a_b_value))" ∧
      (Compiler.render { kind := .edge } other).fragment = some "((n[$a_b] = $a_b_value))" ∧
      ∃ clause : Clause, clause.Mirrors .dynamicKey built.parameters c.prune.settled ∧
        clause.Mirrors .dynamicKey other.parameters d.prune.settled := by
  intro c d
  have hbinder := (not_mem_problems_iff .standard {}).mpr (by decide)
  obtain ⟨built, hbuilt, htext⟩ : ∃ built, Compiler.build .dynamicKey c = .ok built ∧
      (Compiler.render { kind := .edge } built).fragment = some "((n[$a_b] = $a_b_value))" :=
    ⟨_, rfl, rfl⟩
  obtain ⟨other, hother, hsame⟩ : ∃ other, Compiler.build .dynamicKey d = .ok other ∧
      (Compiler.render { kind := .edge } other).fragment = some "((n[$a_b] = $a_b_value))" :=
    ⟨_, rfl, rfl⟩
  obtain ⟨clause, -, -, -, hmirrors, hothers, -⟩ :=
    one_reading .standard {} .edge .dynamicKey hbinder hbuilt hother htext hsame
  exact ⟨built, other, hbuilt, hother, htext, hsame, clause, hmirrors, hothers⟩

end Query

end GraphFilter
