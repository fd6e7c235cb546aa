/-!
# `GraphFilter.Dict` — dictionaries keyed by text, in key order

A dictionary is a list of entries whose keys strictly increase. Keys are compared by code point, the
order in which every document of the library lists the members of a map.

## Contents
- **Entry lists.** `insertEntry` puts one entry in its place and replaces an entry of the same key;
  `sortEntries` makes any list of entries a sorted one, later entries winning.
- **Dictionaries.** `Dict` pairs an entry list with its order; `get?_insert` and `get?_union` tell
  what is found after a change.
-/

namespace GraphFilter

variable {α : Type}

/-! ## Order of keys -/

theorem key_lt_trans {a b c : String} (h₁ : a < b) (h₂ : b < c) : a < c :=
  String.lt_trans h₁ h₂

theorem key_lt_irrefl (a : String) : ¬ a < a :=
  String.lt_irrefl a

/-- Two keys of which neither comes first are the same key. -/
theorem key_eq_of_not_lt {a b : String} (h₁ : ¬ a < b) (h₂ : ¬ b < a) : a = b :=
  String.le_antisymm h₂ h₁

/-! ## Entry lists -/

/-- Put an entry in its place in a sorted list, replacing an entry of the same key. -/
def insertEntry (key : String) (value : α) : List (String × α) → List (String × α)
  | [] => [(key, value)]
  | (k, v) :: rest =>
    if key < k then (key, value) :: (k, v) :: rest
    else if k < key then (k, v) :: insertEntry key value rest
    else (key, value) :: rest

/-- Sort entries by key; of entries with one key the last stays. -/
def sortEntries (entries : List (String × α)) : List (String × α) :=
  entries.foldl (fun sorted e => insertEntry e.1 e.2 sorted) []

/-- Keys strictly increase along the list. -/
def KeysIncrease (entries : List (String × α)) : Prop :=
  entries.Pairwise (fun a b => a.1 < b.1)

theorem mem_insertEntry {key : String} {value : α} {e : String × α}
    {entries : List (String × α)} (h : e ∈ insertEntry key value entries) :
    e = (key, value) ∨ e ∈ entries := by
  induction entries with
  | nil => simpa [insertEntry] using h
  | cons head rest ih =>
    obtain ⟨k, v⟩ := head
    simp only [insertEntry] at h
    split at h
    · simpa using h
    · split at h
      · rcases List.mem_cons.mp h with h | h
        · exact Or.inr (h ▸ List.mem_cons_self)
        · exact (ih h).imp id (List.mem_cons_of_mem _)
      · rcases List.mem_cons.mp h with h | h
        · exact Or.inl h
        · exact Or.inr (List.mem_cons_of_mem _ h)

theorem keysIncrease_insertEntry (key : String) (value : α) {entries : List (String × α)}
    (h : KeysIncrease entries) : KeysIncrease (insertEntry key value entries) := by
  induction entries with
  | nil => simp [insertEntry, KeysIncrease]
  | cons head rest ih =>
    obtain ⟨k, v⟩ := head
    have hrest := List.pairwise_cons.mp h
    simp only [insertEntry]
    split
    · rename_i hlt
      refine List.pairwise_cons.mpr ⟨fun e he => ?_, h⟩
      rcases List.mem_cons.mp he with rfl | he
      · exact hlt
      · exact key_lt_trans hlt (hrest.1 e he)
    · split
      · rename_i hlt
        refine List.pairwise_cons.mpr ⟨fun e he => ?_, ih hrest.2⟩
        rcases mem_insertEntry he with rfl | he
        · exact hlt
        · exact hrest.1 e he
      · rename_i hlt hgt
        have hkey : key = k := key_eq_of_not_lt hlt hgt
        subst hkey
        exact List.pairwise_cons.mpr ⟨hrest.1, hrest.2⟩

/-- An entry with a new key is put between the others. -/
theorem insertEntry_perm {key : String} {value : α} {entries : List (String × α)}
    (h : key ∉ entries.map Prod.fst) :
    (insertEntry key value entries).Perm ((key, value) :: entries) := by
  induction entries with
  | nil => exact List.Perm.refl _
  | cons head rest ih =>
    obtain ⟨k, v⟩ := head
    rw [List.map_cons, List.mem_cons, not_or] at h
    obtain ⟨hne, hrest⟩ := h
    simp only [insertEntry]
    split
    · exact List.Perm.refl _
    · next hlt =>
      split
      · exact ((ih hrest).cons (k, v)).trans (List.Perm.swap (key, value) (k, v) rest)
      · next hgt => exact absurd (key_eq_of_not_lt hlt hgt) hne

/-- Keys that increase are distinct. -/
theorem KeysIncrease.nodup_keys {entries : List (String × α)} (h : KeysIncrease entries) :
    (entries.map Prod.fst).Nodup := by
  refine List.Pairwise.map Prod.fst ?_ h
  intro a b hlt heq
  exact key_lt_irrefl b.1 (heq ▸ hlt)

theorem keysIncrease_sortEntries (entries : List (String × α)) :
    KeysIncrease (sortEntries entries) := by
  suffices h : ∀ (es acc : List (String × α)), KeysIncrease acc →
      KeysIncrease (es.foldl (fun sorted e => insertEntry e.1 e.2 sorted) acc) from
    h entries [] List.Pairwise.nil
  intro es
  induction es with
  | nil => intro acc hacc; exact hacc
  | cons e es ih => intro acc hacc; exact ih _ (keysIncrease_insertEntry e.1 e.2 hacc)

/-- The value of a key in a list of entries: that of its first entry. -/
def lookupEntry (key : String) : List (String × α) → Option α
  | [] => none
  | (k, v) :: rest => if k = key then some v else lookupEntry key rest

@[simp] theorem lookupEntry_nil (key : String) : lookupEntry (α := α) key [] = none := rfl

@[simp] theorem lookupEntry_cons (key k : String) (v : α) (rest : List (String × α)) :
    lookupEntry key ((k, v) :: rest) = if k = key then some v else lookupEntry key rest := rfl

theorem lookupEntry_insertEntry (key query : String) (value : α) (entries : List (String × α)) :
    lookupEntry query (insertEntry key value entries) =
      if key = query then some value else lookupEntry query entries := by
  induction entries with
  | nil => simp [insertEntry]
  | cons head rest ih =>
    obtain ⟨k, v⟩ := head
    simp only [insertEntry]
    split
    · simp
    · split
      · rename_i hlt
        by_cases hk : k = query
        · have hne : ¬ key = query := by
            intro h
            rw [hk, h] at hlt
            exact key_lt_irrefl _ hlt
          simp [hk, hne]
        · simp [hk, ih]
      · rename_i hlt hgt
        have hkey : key = k := key_eq_of_not_lt hlt hgt
        subst hkey
        by_cases hk : key = query <;> simp [hk]

theorem lookupEntry_isSome {key : String} {entries : List (String × α)} :
    (lookupEntry key entries).isSome ↔ key ∈ entries.map Prod.fst := by
  induction entries with
  | nil => simp
  | cons head rest ih =>
    obtain ⟨k, v⟩ := head
    by_cases h : k = key
    · simp [h]
    · have h' : ¬ key = k := fun e => h e.symm
      simp [h, h', ih]

theorem mem_of_lookupEntry {key : String} {value : α} {entries : List (String × α)}
    (h : lookupEntry key entries = some value) : (key, value) ∈ entries := by
  induction entries with
  | nil => exact nomatch h
  | cons head rest ih =>
    obtain ⟨k, v⟩ := head
    rw [lookupEntry_cons] at h
    by_cases hkey : k = key
    · rw [if_pos hkey] at h
      obtain rfl := Option.some.inj h
      rw [hkey]
      exact List.mem_cons_self
    · rw [if_neg hkey] at h
      exact List.mem_cons_of_mem _ (ih h)

/-- A key that comes before all keys of a list has no entry there. -/
theorem lookupEntry_eq_none_of_lt {key : String} {entries : List (String × α)}
    (h : ∀ e ∈ entries, key < e.1) : lookupEntry key entries = none := by
  rcases hfound : lookupEntry key entries with _ | v
  · rfl
  · have hmem := lookupEntry_isSome.mp (Option.isSome_iff_exists.mpr ⟨v, hfound⟩)
    obtain ⟨e, he, rfl⟩ := List.mem_map.mp hmem
    exact absurd (h e he) (key_lt_irrefl _)

/-! ## Dictionaries -/

/-- A finite map from text to `α`, its entries in key order. -/
structure Dict (α : Type) where
  entries : List (String × α)
  increasing : KeysIncrease entries

namespace Dict

/-- The dictionary without entries. -/
def empty : Dict α := ⟨[], List.Pairwise.nil⟩

instance : Inhabited (Dict α) := ⟨empty⟩

instance [BEq α] : BEq (Dict α) := ⟨fun a b => a.entries == b.entries⟩

instance [Repr α] : Repr (Dict α) := ⟨fun d n => reprPrec d.entries n⟩

/-- The dictionary of a list of entries; of entries with one key the last stays. -/
def ofList (entries : List (String × α)) : Dict α :=
  ⟨sortEntries entries, keysIncrease_sortEntries entries⟩

/-- The value of a key. -/
def get? (d : Dict α) (key : String) : Option α :=
  lookupEntry key d.entries

/-- Whether the key has a value. -/
def contains (d : Dict α) (key : String) : Bool :=
  (d.get? key).isSome

/-- Bind a key, replacing the value it had. -/
def insert (d : Dict α) (key : String) (value : α) : Dict α :=
  ⟨insertEntry key value d.entries, keysIncrease_insertEntry key value d.increasing⟩

/-- Bind every key of the second dictionary on top of the first. -/
def union (d other : Dict α) : Dict α :=
  other.entries.foldl (fun merged e => merged.insert e.1 e.2) d

/-- The keys, increasing. -/
def keys (d : Dict α) : List String :=
  d.entries.map Prod.fst

/-- The number of entries. -/
def size (d : Dict α) : Nat :=
  d.entries.length

@[simp] theorem get?_empty (key : String) : (empty : Dict α).get? key = none := rfl

theorem get?_insert (d : Dict α) (key query : String) (value : α) :
    (d.insert key value).get? query = if key = query then some value else d.get? query :=
  lookupEntry_insertEntry key query value d.entries

@[simp] theorem get?_insert_self (d : Dict α) (key : String) (value : α) :
    (d.insert key value).get? key = some value := by
  simp [get?_insert]

theorem get?_insert_of_ne (d : Dict α) {key query : String} (value : α) (h : key ≠ query) :
    (d.insert key value).get? query = d.get? query := by
  simp [get?_insert, h]

theorem get?_foldl_insert (query : String) (entries : List (String × α))
    (h : KeysIncrease entries) (d : Dict α) :
    (entries.foldl (fun merged e => merged.insert e.1 e.2) d).get? query =
      (lookupEntry query entries).or (d.get? query) := by
  induction entries generalizing d with
  | nil => simp
  | cons head rest ih =>
    obtain ⟨k, v⟩ := head
    have hrest := List.pairwise_cons.mp h
    rw [List.foldl_cons, ih hrest.2, get?_insert, lookupEntry_cons]
    by_cases hk : k = query
    · subst hk
      simp [lookupEntry_eq_none_of_lt hrest.1]
    · simp [hk]

theorem get?_union (d other : Dict α) (query : String) :
    (d.union other).get? query = (other.get? query).or (d.get? query) :=
  get?_foldl_insert query other.entries other.increasing d

theorem contains_iff_mem_keys {d : Dict α} {key : String} :
    d.contains key = true ↔ key ∈ d.keys :=
  lookupEntry_isSome

theorem mem_keys_of_get? {d : Dict α} {key : String} {value : α} (h : d.get? key = some value) :
    key ∈ d.keys := by
  apply contains_iff_mem_keys.mp
  rw [contains, h]
  rfl

/-- Dictionaries with the same entries are the same. -/
theorem ext_entries {a b : Dict α} (h : a.entries = b.entries) : a = b := by
  cases a; cases b; cases h; rfl

end Dict

end GraphFilter
