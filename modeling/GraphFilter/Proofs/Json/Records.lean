import GraphFilter.Json.Reader
import GraphFilter.Proofs.Except
import Mathlib.Data.List.Nodup
import Mathlib.Data.List.Perm.Basic

/-!
# `GraphFilter.Proofs.Json.Records` — the members of an object in any order

A document lists the members of an object in some order: that in which a record was written, or that
of the keys. A reader should not mind. It gathers the members of a record one by one, and they come
out alike in every order as long as no member looks at what another one has put down.

## Contents
- **Orders.** `Json.sorted` puts the members of all objects in key order, as a document at hand has
  them; `Json.Rearranges` is what any such change of order does.
- **Gathering.** `Record.accept` takes one member of a document at hand, and `ofJson?_object` says
  that a record is read by taking them in turn.
- **Main result.** `ofJson?_object_perm`: the order of members does not matter to a record that is
  `Orderless`.
- **Scalars, lists, maps.** What was written and rearranged is read: `ofJson?_list`, `ofJson?_dict`.
-/

namespace GraphFilter

/-! ## Entries in key order -/

section Entries

variable {α : Type}

theorem map_eq_self {f : α → α} {items : List α} (h : ∀ a ∈ items, f a = a) : items.map f = items :=
  (List.map_congr_left h).trans (List.map_id items)

theorem sortEntries_perm {entries : List (String × α)} (h : (entries.map Prod.fst).Nodup) :
    (sortEntries entries).Perm entries := by
  -- What is inserted so far and what is still to come are all the entries.
  suffices hall : ∀ (later sorted : List (String × α)),
      ((later ++ sorted).map Prod.fst).Nodup →
      (later.foldl (fun sorted e => insertEntry e.1 e.2 sorted) sorted).Perm (later ++ sorted) by
    simpa [sortEntries] using hall entries [] (by simpa using h)
  intro later
  induction later with
  | nil => exact fun sorted _ => List.Perm.refl sorted
  | cons e later ih =>
    intro sorted hnodup
    rw [List.cons_append, List.map_cons, List.nodup_cons] at hnodup
    obtain ⟨hnew, hrest⟩ := hnodup
    rw [List.map_append, List.mem_append, not_or] at hnew
    have hinsert : (insertEntry e.1 e.2 sorted).Perm (e :: sorted) := insertEntry_perm hnew.2
    have hmove : (later ++ insertEntry e.1 e.2 sorted).Perm (e :: (later ++ sorted)) :=
      (hinsert.append_left later).trans List.perm_middle
    have hkeys : ((later ++ insertEntry e.1 e.2 sorted).map Prod.fst).Nodup := by
      rw [(hmove.map Prod.fst).nodup_iff, List.map_cons, List.nodup_cons]
      exact ⟨by rw [List.map_append, List.mem_append, not_or]; exact hnew, hrest⟩
    exact (ih _ hkeys).trans hmove

/-- There is one way only to have entries in key order. -/
theorem KeysIncrease.eq_of_perm {entries entries' : List (String × α)} (h : KeysIncrease entries)
    (h' : KeysIncrease entries') (hperm : entries.Perm entries') : entries = entries' :=
  hperm.eq_of_pairwise (fun _ _ _ _ hlt hgt => absurd (key_lt_trans hlt hgt) (key_lt_irrefl _)) h h'

/-- Sorting brings entries back in order. -/
theorem sortEntries_eq_of_perm {entries entries' : List (String × α)} (h : KeysIncrease entries)
    (hperm : entries'.Perm entries) : sortEntries entries' = entries := by
  have hkeys : (entries'.map Prod.fst).Nodup :=
    (hperm.map Prod.fst).nodup_iff.mpr h.nodup_keys
  exact (keysIncrease_sortEntries entries').eq_of_perm h ((sortEntries_perm hkeys).trans hperm)

theorem sortEntries_eq_self {entries : List (String × α)} (h : KeysIncrease entries) :
    sortEntries entries = entries :=
  sortEntries_eq_of_perm h (List.Perm.refl entries)

/-- Sorting makes no entries up. -/
theorem sortEntries_subset (entries : List (String × α)) : sortEntries entries ⊆ entries := by
  suffices hall : ∀ (later sorted : List (String × α)),
      later.foldl (fun sorted e => insertEntry e.1 e.2 sorted) sorted ⊆ later ++ sorted by
    simpa [sortEntries] using hall entries []
  intro later
  induction later with
  | nil => exact fun sorted => List.Subset.refl sorted
  | cons e later ih =>
    intro sorted x hx
    rcases List.mem_append.mp (ih _ hx) with hlater | hsorted
    · exact List.mem_cons_of_mem e (List.mem_append_left sorted hlater)
    · rcases mem_insertEntry hsorted with rfl | hsorted
      · exact List.mem_cons_self
      · exact List.mem_cons_of_mem e (List.mem_append_right later hsorted)

theorem KeysIncrease.map_values {β : Type} {entries : List (String × α)} (h : KeysIncrease entries)
    (f : α → β) : KeysIncrease (entries.map fun e => (e.1, f e.2)) :=
  List.Pairwise.map _ (fun _ _ hlt => hlt) h

end Entries

/-- The same keys with other values. -/
def Dict.mapValues {α β : Type} (f : α → β) (d : Dict α) : Dict β :=
  ⟨d.entries.map fun e => (e.1, f e.2), d.increasing.map_values f⟩

section Converting

variable {α β : Type} (f : α → β)

theorem insertEntry_map (key : String) (value : α) (entries : List (String × α)) :
    insertEntry key (f value) (entries.map fun e => (e.1, f e.2)) =
      (insertEntry key value entries).map fun e => (e.1, f e.2) := by
  induction entries with
  | nil => rfl
  | cons head rest ih =>
    obtain ⟨k, v⟩ := head
    simp only [insertEntry, List.map_cons]
    by_cases hlt : key < k
    · simp [hlt]
    · by_cases hgt : k < key
      · simp [hlt, hgt, ih]
      · simp [hlt, hgt]

/-- Sorting looks at keys only. -/
theorem sortEntries_map (entries : List (String × α)) :
    sortEntries (entries.map fun e => (e.1, f e.2)) =
      (sortEntries entries).map fun e => (e.1, f e.2) := by
  suffices h : ∀ later sorted : List (String × α),
      (later.map fun e => (e.1, f e.2)).foldl (fun sorted e => insertEntry e.1 e.2 sorted)
          (sorted.map fun e => (e.1, f e.2)) =
        (later.foldl (fun sorted e => insertEntry e.1 e.2 sorted) sorted).map
          fun e => (e.1, f e.2) from h entries []
  intro later
  induction later with
  | nil =>
    intro sorted
    rfl
  | cons e later ih =>
    intro sorted
    have hinsert := insertEntry_map f e.1 e.2 sorted
    simp only [List.map_cons, List.foldl_cons, hinsert, ih]

theorem Dict.ofList_map (entries : List (String × α)) :
    Dict.ofList (entries.map fun e => (e.1, f e.2)) = (Dict.ofList entries).mapValues f :=
  Dict.ext_entries (sortEntries_map f entries)

end Converting

namespace Json

/-! ## Orders -/

mutual

/-- The document with the members of all objects in key order. -/
def sorted : Json → Json
  | .array items => .array (sortedItems items)
  | .object members => .object (sortEntries (sortedMembers members))
  | j => j

/-- The items of an array, each in order. -/
def sortedItems : List Json → List Json
  | [] => []
  | item :: rest => sorted item :: sortedItems rest

/-- The members of an object, each in order. -/
def sortedMembers : List (String × Json) → List (String × Json)
  | [] => []
  | (key, value) :: rest => (key, sorted value) :: sortedMembers rest

end

theorem sortedItems_eq_map (items : List Json) : sortedItems items = items.map sorted := by
  induction items with
  | nil => rfl
  | cons item rest ih => rw [sortedItems, ih, List.map_cons]

theorem sortedMembers_eq_map (members : List (String × Json)) :
    sortedMembers members = members.map fun m => (m.1, sorted m.2) := by
  induction members with
  | nil => rfl
  | cons m rest ih => rw [sortedMembers, ih, List.map_cons]

mutual

/-- A document whose members are in key order stays as it is. -/
theorem sorted_sorted : ∀ j : Json, j.sorted.sorted = j.sorted
  | .array items => by
    have hitems : (sortedItems items).map sorted = sortedItems items :=
      map_eq_self (sorted_of_mem_sortedItems items)
    rw [sorted, sorted, sortedItems_eq_map (sortedItems items), hitems]
  | .object members => by
    have hmembers : (sortEntries (sortedMembers members)).map (fun m => (m.1, sorted m.2)) =
        sortEntries (sortedMembers members) := by
      refine map_eq_self fun m hm => ?_
      exact Prod.ext rfl (sorted_of_mem_sortedMembers members m (sortEntries_subset _ hm))
    rw [sorted, sorted, sortedMembers_eq_map (sortEntries (sortedMembers members)), hmembers,
      sortEntries_eq_self (keysIncrease_sortEntries _)]
  | .null | .bool _ | .number _ | .string _ => rfl

theorem sorted_of_mem_sortedItems : ∀ (items : List Json), ∀ item ∈ sortedItems items,
    item.sorted = item
  | [] => fun _ h => absurd h List.not_mem_nil
  | item :: rest => List.forall_mem_cons.mpr
    ⟨sorted_sorted item, sorted_of_mem_sortedItems rest⟩

theorem sorted_of_mem_sortedMembers : ∀ (members : List (String × Json)),
    ∀ m ∈ sortedMembers members, m.2.sorted = m.2
  | [] => fun _ h => absurd h List.not_mem_nil
  | (_, value) :: rest => List.forall_mem_cons.mpr
    ⟨sorted_sorted value, sorted_of_mem_sortedMembers rest⟩

end

/-- Changes nothing about a document but the order of the members of its objects. -/
structure Rearranges (arrange : Json → Json) : Prop where
  null : arrange .null = .null
  bool : ∀ b, arrange (.bool b) = .bool b
  number : ∀ n, arrange (.number n) = .number n
  string : ∀ s, arrange (.string s) = .string s
  array : ∀ items, arrange (.array items) = .array (items.map arrange)
  object : ∀ members : List (String × Json), (members.map Prod.fst).Nodup →
    ∃ members', arrange (.object members) = .object members' ∧
      members'.Perm (members.map fun m => (m.1, arrange m.2))

theorem rearranges_id : Rearranges id where
  null := rfl
  bool _ := rfl
  number _ := rfl
  string _ := rfl
  array items := by rw [List.map_id, id]
  object members _ := ⟨members, rfl, by simp⟩

theorem rearranges_sorted : Rearranges sorted where
  null := rfl
  bool _ := rfl
  number _ := rfl
  string _ := rfl
  array items := by rw [sorted, sortedItems_eq_map]
  object members h := by
    refine ⟨_, rfl, ?_⟩
    rw [sortedMembers_eq_map]
    refine sortEntries_perm ?_
    rwa [List.map_map]

/-! ## Gathering -/

section Gathering

variable {σ α β : Type}

namespace Member

/-- Take a document for this member, which must not have been given before. -/
def take (m : Member σ) (s : σ) (j : Json) : Option σ :=
  if m.given s then none else (m.fill s (.document j)).toOption

/-- It does not matter which of the two members comes first. -/
def Commutes (m m' : Member σ) : Prop :=
  ∀ s j j', ((m.take s j).bind fun s => m'.take s j') = (m'.take s j').bind fun s => m.take s j

theorem Commutes.symm {m m' : Member σ} (h : m.Commutes m') : m'.Commutes m :=
  fun s j j' => (h s j' j).symm

section Fields

variable {names names' : List String} {r : Reader α} {r' : Reader β} {get : σ → Option α}
  {get' : σ → Option β} {set : σ → α → σ} {set' : σ → β → σ}

/-- A member that puts what it reads into a field, whatever it is called. -/
theorem take_field (s : σ) (j : Json) :
    (Member.mk names (fun s => (get s).isSome) fun s d => set s <$> r d).take s j =
      if (get s).isSome then none else (r.ofJson? j).map (set s) := by
  unfold take Reader.ofJson?
  rw [toOption_map]

/-- A field that keeps what is put down cannot be given twice, in whatever order. -/
theorem commutes_self (h : ∀ s x, get (set s x) = some x) :
    (Member.mk names (fun s => (get s).isSome) fun s d => set s <$> r d).Commutes
      (.mk names (fun s => (get s).isSome) fun s d => set s <$> r d) := by
  have htwice : ∀ s j j', ((Member.mk names (fun s => (get s).isSome)
      fun s d => set s <$> r d).take s j).bind
        (fun s => (Member.mk names (fun s => (get s).isSome)
          fun s d => set s <$> r d).take s j') = none := by
    intro s j j'
    refine Option.bind_eq_none_iff.mpr fun s' hs' => ?_
    rw [take_field] at hs'
    split at hs'
    · exact nomatch hs'
    · obtain ⟨x, -, rfl⟩ := Option.map_eq_some_iff.mp hs'
      rw [take_field, h, if_pos Option.isSome_some]
  intro s j j'
  rw [htwice, htwice]

/-- Fields that do not touch each other may come in either order. -/
theorem commutes_field (hget : ∀ s x, get' (set s x) = get' s)
    (hget' : ∀ s y, get (set' s y) = get s)
    (hset : ∀ s x y, set' (set s x) y = set (set' s y) x) :
    (Member.mk names (fun s => (get s).isSome) fun s d => set s <$> r d).Commutes
      (.mk names' (fun s => (get' s).isSome) fun s d => set' s <$> r' d) := by
  intro s j j'
  simp only [take_field]
  by_cases hgiven : (get s).isSome <;> by_cases hgiven' : (get' s).isSome <;>
    cases r.ofJson? j <;> cases r'.ofJson? j' <;>
    simp [hgiven, hgiven', hget, hget', hset]

end Fields

end Member

namespace Record

/-- Take one member of a document at hand. -/
def accept (r : Record σ) (s : σ) (member : String × Json) : Option σ :=
  match r.members.find? (·.names.contains member.1) with
  | some m => m.take s member.2
  | none => if r.allowsOthers then some s else none

/-- The members of the record do not depend on each other. -/
def Orderless (r : Record σ) : Prop :=
  ∀ m ∈ r.members, ∀ m' ∈ r.members, m.Commutes m'

/-- Members of which each may be given once, and each pair in either order. -/
theorem orderless_of_pairwise {r : Record σ} (hself : ∀ m ∈ r.members, m.Commutes m)
    (hpairs : r.members.Pairwise Member.Commutes) : r.Orderless :=
  fun _ hm _ hm' =>
    hpairs.forall_of_forall_of_flip hself (hpairs.imp Member.Commutes.symm) hm hm'

variable {r : Record σ}

theorem toOption_gather (s : σ) (members : List (String × Json)) :
    (r.gather s (members.map fun m => (some m.1, Draft.document m.2))).toOption =
      members.foldlM r.accept s := by
  induction members generalizing s with
  | nil => rfl
  | cons m rest ih =>
    rw [List.map_cons, gather, List.foldlM_cons, accept]
    cases r.members.find? (·.names.contains m.1) with
    | none =>
      cases r.allowsOthers with
      | false => rfl
      | true => exact ih s
    | some found =>
      simp only [Member.take]
      split
      · rfl
      · rw [toOption_bind]
        exact congrArg _ (funext ih)

/-- A record is read from an object by taking the members in turn. -/
theorem ofJson?_object (start : σ) (finish : σ → Option α) (members : List (String × Json)) :
    (r.read start finish).ofJson? (.object members) =
      (members.foldlM r.accept start).bind finish := by
  rw [← toOption_gather]
  show (r.gather start (members.map fun m => (some m.1, Draft.document m.2)) >>= _).toOption = _
  rw [toOption_bind]
  -- The object of a document at hand is closed, so what is left to do is to finish the record.
  refine congrArg _ (funext fun s => ?_)
  cases hfinish : finish s with
  | none =>
    simp only [Reader.closing, if_true, bind, Except.bind, hfinish]
    rfl
  | some a =>
    simp only [Reader.closing, if_true, bind, Except.bind, hfinish]
    rfl

theorem accept_comm (h : r.Orderless) (s : σ) (m m' : String × Json) :
    ((r.accept s m).bind fun s => r.accept s m') = (r.accept s m').bind fun s => r.accept s m := by
  unfold accept
  cases hm : r.members.find? (·.names.contains m.1) with
  | none => cases hm' : r.members.find? (·.names.contains m'.1) <;> cases r.allowsOthers <;> simp
  | some found =>
    cases hm' : r.members.find? (·.names.contains m'.1) with
    | none => cases r.allowsOthers <;> simp
    | some found' =>
      exact h found (List.mem_of_find?_eq_some hm) found' (List.mem_of_find?_eq_some hm') s _ _

/-- **The order of the members does not matter** to a record whose members do not depend on each
    other. -/
theorem ofJson?_object_perm (h : r.Orderless) {start : σ} {finish : σ → Option α}
    {members members' : List (String × Json)} (hperm : members.Perm members') :
    (r.read start finish).ofJson? (.object members) =
      (r.read start finish).ofJson? (.object members') := by
  suffices hall : ∀ s, members.foldlM r.accept s = members'.foldlM r.accept s by
    rw [ofJson?_object, ofJson?_object, hall]
  induction hperm with
  | nil => exact fun _ => rfl
  | cons m _ ih =>
    intro s
    simp only [List.foldlM_cons]
    exact congrArg _ (funext ih)
  | swap m m' rest =>
    intro s
    simp only [List.foldlM_cons, Option.bind_eq_bind, ← Option.bind_assoc]
    rw [accept_comm h]
  | trans _ _ ih ih' => exact fun s => (ih s).trans (ih' s)

/-- A record is read from an object that was rearranged as from one that was not. -/
theorem ofJson?_arrange {arrange : Json → Json} (harrange : Rearranges arrange) (h : r.Orderless)
    {start : σ} {finish : σ → Option α} {members : List (String × Json)}
    (hkeys : (members.map Prod.fst).Nodup) :
    (r.read start finish).ofJson? (arrange (.object members)) =
      ((members.map fun m => (m.1, arrange m.2)).foldlM r.accept start).bind finish := by
  obtain ⟨members', hobject, hperm⟩ := harrange.object members hkeys
  rw [hobject, ofJson?_object_perm h hperm, ofJson?_object]

end Record

/-! ## Scalars, lists, maps -/

namespace Reader

variable {arrange : Json → Json} {r : Reader β} {encode : α → Json} {decoded : α → β}

theorem ofJson?_eq_some {r : Reader α} {j : Json} {a : α} :
    r.ofJson? j = some a ↔ r (.document j) = .ok a :=
  toOption_eq_some

theorem ofJson?_int64 (h : Rearranges arrange) (n : Int64) :
    int64.ofJson? (arrange (.int n)) = some n := by
  unfold Json.int
  rw [h.number]
  rfl

theorem ofJson?_string (h : Rearranges arrange) (s : String) :
    string.ofJson? (arrange (.string s)) = some s := by
  rw [h.string]
  rfl

theorem ofJson?_bool (h : Rearranges arrange) (b : Bool) :
    bool.ofJson? (arrange (.bool b)) = some b := by
  rw [h.bool]
  rfl

/-- A natural number of 32 bits is written as a signed one of 64 bits, which has room for it. -/
theorem ofJson?_uint32 (h : Rearranges arrange) (n : UInt32) :
    uint32.ofJson? (arrange (.int (Int64.ofNat n.toNat))) = some n := by
  have hbound : n.toNat < UInt32.size := n.toNat_lt
  have hvalue : (Int64.ofNat n.toNat).toInt = n.toNat :=
    Int64.toInt_ofNat_of_lt (Nat.lt_trans hbound (by decide))
  unfold Json.int
  rw [h.number, ofJson?_eq_some]
  show (if 0 ≤ (Int64.ofNat n.toNat).toInt ∧ (Int64.ofNat n.toNat).toInt < UInt32.size
    then Except.ok (UInt32.ofNat (Int64.ofNat n.toNat).toInt.toNat)
    else .error Defect.misshapen) = _
  rw [hvalue, if_pos (by omega), Int.toNat_natCast, UInt32.ofNat_toNat]

/-- What can be `null` is read as one is that cannot, unless it is. -/
theorem ofJson?_nullable {r : Reader α} {j : Json} {a : α} (hnull : j ≠ .null)
    (h : r.ofJson? j = some a) : (nullable r).ofJson? j = some (some a) := by
  rw [ofJson?_eq_some] at h ⊢
  cases j with
  | null => exact absurd rfl hnull
  | _ =>
    show some <$> r _ = _
    rw [h]
    rfl

/-- A list is read item by item. -/
theorem ofJson?_list (harrange : Rearranges arrange) {items : List α}
    (h : ∀ a ∈ items, r.ofJson? (arrange (encode a)) = some (decoded a)) :
    (list r).ofJson? (arrange (.array (items.map encode))) = some (items.map decoded) := by
  have hitems : (((items.map encode).map arrange).map Draft.document).mapM r =
      .ok (items.map decoded) := by
    rw [List.map_map, List.map_map]
    exact mapM_eq_ok fun a ha => ofJson?_eq_some.mp (h a ha)
  rw [harrange.array, ofJson?_eq_some]
  show (((items.map encode).map arrange).map Draft.document).mapM r >>= closing true = _
  rw [hitems]
  rfl

/-- A map is read entry by entry. -/
theorem ofJson?_dict (harrange : Rearranges arrange) {d : Dict α}
    (h : ∀ a, r.ofJson? (arrange (encode a)) = some (decoded a)) :
    (dict r).ofJson? (arrange (.object (d.entries.map fun e => (e.1, encode e.2)))) =
      some (d.mapValues decoded) := by
  obtain ⟨members, hobject, hmembers⟩ :=
    harrange.object _ (d.increasing.map_values encode).nodup_keys
  rw [List.map_map] at hmembers
  -- The members are those of the entries in another order.
  have hrearranged := congrFun (congrFun (List.eq_map_comp_perm
    fun e : String × α => (e.1, arrange (encode e.2))) members) d.entries
  obtain ⟨entries, rfl, hentries⟩ := hrearranged.mpr hmembers
  have hread : ((entries.map fun e => (e.1, arrange (encode e.2))).map
      fun m => (some m.1, Draft.document m.2)).mapM (entry r) =
        .ok (entries.map fun e => (e.1, decoded e.2)) := by
    rw [List.map_map]
    refine mapM_eq_ok fun e _ => ?_
    simp only [Function.comp_apply, entry, ofJson?_eq_some.mp (h e.2)]
    rfl
  have hsorted : Dict.ofList (entries.map fun e => (e.1, decoded e.2)) = d.mapValues decoded :=
    Dict.ext_entries (sortEntries_eq_of_perm (d.increasing.map_values decoded) (hentries.map _))
  rw [hobject, ofJson?_eq_some, ← hsorted]
  show Dict.ofList <$> (List.mapM (entry r) _ >>= closing true) = _
  rw [hread]
  rfl

/-- To read a map of converted values is to read the map and to convert its values. -/
theorem dict_map {α β : Type} {r : Reader α} {r' : Reader β} {f : α → β}
    (h : ∀ d, r' d = f <$> r d) (d : Draft) : dict r' d = (·.mapValues f) <$> dict r d := by
  have hentry : ∀ member, entry r' member = (fun e => (e.1, f e.2)) <$> entry r member := by
    rintro ⟨key, value⟩
    cases key with
    | none => rfl
    | some key =>
      show (key, ·) <$> r' value = _ <$> (key, ·) <$> r value
      rw [h]
      cases r value <;> rfl
  unfold dict
  split
  · next members closed deep _ =>
    by_cases hdeep : deep = true
    · rw [if_pos hdeep, if_pos hdeep]
      rfl
    · rw [if_neg hdeep, if_neg hdeep, mapM_map_eq hentry]
      cases members.mapM (entry r) with
      | error defect => rfl
      | ok entries =>
        cases closed with
        | false => rfl
        | true => exact congrArg Except.ok (Dict.ofList_map f entries)
  · rfl

end Reader

end Gathering

end Json

end GraphFilter
