import GraphFilter.Query.Parameters
import GraphFilter.Proofs.Text.Words
import Mathlib.Data.List.Nodup
import Mathlib.Data.List.Perm.Subperm

/-!
# `GraphFilter.Proofs.Query.FreshKeys` — allocated names are free, and bindings stay

A name for a parameter is taken from a sequence: the base, then the base with 1, 2, 3 and so on. The
names of the sequence are distinct, so among one more of them than there are bindings one is free,
and the search stops there.

## Contents
- **Numbered names.** `numberedKey_injective`, `numberedKey_ne_base`.
- **Allocation.** `Dict.allocate_eq` says which name is given, `Dict.contains_allocate` that it is
  free.
- **Extension.** `Dict.Extends`: every binding of one dictionary is one of the other. Binding an
  allocated name extends.
-/

namespace GraphFilter

/-! ## Numbered names -/

theorem toList_numberedKey (base : String) (n : Nat) :
    (numberedKey base n).toList = base.toList ++ '_' :: Nat.toDigits 10 n := by
  show (base ++ "_" ++ n.repr).toList = _
  simp [Nat.toList_repr]

theorem numberedKey_injective (base : String) : Function.Injective (numberedKey base) := by
  intro m n h
  have hlist := congrArg String.toList h
  rw [toList_numberedKey, toList_numberedKey] at hlist
  exact Text.toDigits_injective (List.cons.inj (List.append_cancel_left hlist)).2

theorem numberedKey_ne_base (base : String) (n : Nat) : numberedKey base n ≠ base := by
  intro h
  have hlength := congrArg (fun s : String => s.toList.length) h
  simp only [toList_numberedKey, List.length_append, List.length_cons] at hlength
  omega

variable {α : Type}

namespace Dict

/-! ## Allocation -/

/-- Among one more distinct names than there are bindings one is free. -/
theorem exists_not_contains (d : Dict α) {names : List String} (hnames : names.Nodup)
    (hlength : d.size < names.length) : ∃ key ∈ names, d.contains key = false := by
  by_contra hall
  have hsub : names ⊆ d.keys := by
    intro key hkey
    refine contains_iff_mem_keys.mp ?_
    by_contra hfree
    exact hall ⟨key, hkey, by simpa using hfree⟩
  have hle : names.length ≤ d.keys.length := (hnames.subperm hsub).length_le
  rw [keys, List.length_map] at hle
  exact absurd hle (Nat.not_le.mpr hlength)

/-- Where the base is taken, one of its first numbers is free, no more of them than bindings. -/
theorem exists_free_number (d : Dict α) {base : String} (h : d.contains base = true) :
    ∃ n < d.size, d.contains (numberedKey base (1 + n)) = false := by
  have hnumbers : ((List.range d.size).map fun n => numberedKey base (1 + n)).Nodup :=
    List.nodup_range.map fun m n hmn => Nat.add_left_cancel (numberedKey_injective base hmn)
  have hbase : base ∉ (List.range d.size).map fun n => numberedKey base (1 + n) := by
    intro hmem
    obtain ⟨n, -, hn⟩ := List.mem_map.mp hmem
    exact numberedKey_ne_base base _ hn
  obtain ⟨key, hkey, hfree⟩ :=
    d.exists_not_contains (List.nodup_cons.mpr ⟨hbase, hnumbers⟩) (by simp)
  -- It is not the base, which is taken, so it is one of the numbers.
  rcases List.mem_cons.mp hkey with rfl | hkey
  · exact absurd h (by simp [hfree])
  · obtain ⟨n, hn, rfl⟩ := List.mem_map.mp hkey
    exact ⟨n, List.mem_range.mp hn, hfree⟩

/-- The search from `n` on ends at the least free number, if there is one among so many. -/
theorem allocateFrom_eq (d : Dict α) (base : String) {tries n : Nat}
    (h : ∃ k < tries, d.contains (numberedKey base (n + k)) = false) :
    ∃ k < tries, d.allocateFrom base tries n = numberedKey base (n + k) ∧
      d.contains (numberedKey base (n + k)) = false ∧
      ∀ i < k, d.contains (numberedKey base (n + i)) = true := by
  induction tries generalizing n with
  | zero =>
    obtain ⟨k, hk, -⟩ := h
    exact absurd hk (Nat.not_lt_zero k)
  | succ tries ih =>
    cases hhere : d.contains (numberedKey base n) with
    | false =>
      refine ⟨0, Nat.succ_pos tries, ?_, hhere, fun i hi => absurd hi (Nat.not_lt_zero i)⟩
      rw [allocateFrom, hhere]
      rfl
    | true =>
      -- This number is taken, so the free one is among the remaining tries.
      have hlater : ∃ k < tries, d.contains (numberedKey base (n + 1 + k)) = false := by
        obtain ⟨k, hk, hfree⟩ := h
        cases k with
        | zero => exact absurd hhere (by simpa using hfree)
        | succ k => exact ⟨k, by omega, by rwa [Nat.add_right_comm, Nat.add_assoc]⟩
      obtain ⟨k, hk, heq, hfree, htaken⟩ := ih hlater
      -- What the rest of the search counts from `n + 1` is counted from `n` here.
      have hshift : ∀ j, n + 1 + j = n + (j + 1) := fun j => by omega
      refine ⟨k + 1, by omega, ?_, hshift k ▸ hfree, fun i hi => ?_⟩
      · rw [allocateFrom, if_pos hhere, heq, hshift]
      · cases i with
        | zero => exact hhere
        | succ i => exact hshift i ▸ htaken i (by omega)

/-- **Which name is given.** The base if it is free; otherwise the base with the least free number,
    which is at most the number of bindings. -/
theorem allocate_eq (d : Dict α) (base : String) :
    (d.contains base = false ∧ d.allocate base = base) ∨
    (d.contains base = true ∧ ∃ n, 1 ≤ n ∧ n ≤ d.size ∧ d.allocate base = numberedKey base n ∧
      d.contains (numberedKey base n) = false ∧
      ∀ i, 1 ≤ i → i < n → d.contains (numberedKey base i) = true) := by
  cases h : d.contains base with
  | false => exact Or.inl ⟨rfl, by simp [allocate, h]⟩
  | true =>
    obtain ⟨k, hk, heq, hfree, htaken⟩ := d.allocateFrom_eq base (d.exists_free_number h)
    refine Or.inr ⟨rfl, 1 + k, by omega, by omega, ?_, hfree, fun i hi hlt => ?_⟩
    · rw [allocate, if_pos h, heq]
    · obtain ⟨j, rfl⟩ := Nat.exists_eq_add_of_le hi
      exact htaken j (by omega)

/-- An allocated name is free. -/
@[simp] theorem contains_allocate (d : Dict α) (base : String) :
    d.contains (d.allocate base) = false := by
  rcases d.allocate_eq base with ⟨hfree, heq⟩ | ⟨-, n, -, -, heq, hfree, -⟩
  · rw [heq, hfree]
  · rw [heq, hfree]

theorem get?_allocate (d : Dict α) (base : String) : d.get? (d.allocate base) = none := by
  have hfree := d.contains_allocate base
  rwa [contains, Option.isSome_eq_false_iff, Option.isNone_iff_eq_none] at hfree

/-! ## Extension -/

/-- Every binding of `small` is a binding of `big`. -/
def Extends (big small : Dict α) : Prop :=
  ∀ key value, small.get? key = some value → big.get? key = some value

theorem Extends.refl (d : Dict α) : d.Extends d := fun _ _ h => h

theorem Extends.trans {a b c : Dict α} (hcb : c.Extends b) (hba : b.Extends a) : c.Extends a :=
  fun key value h => hcb key value (hba key value h)

/-- Binding a free name loses nothing. -/
theorem extends_insert {d : Dict α} {key : String} (value : α) (h : d.get? key = none) :
    (d.insert key value).Extends d := by
  intro k v hk
  have hne : key ≠ k := by
    rintro rfl
    exact absurd (h.symm.trans hk) (by simp)
  rw [get?_insert_of_ne d value hne, hk]

theorem extends_insert_allocate (d : Dict α) (base : String) (value : α) :
    (d.insert (d.allocate base) value).Extends d :=
  extends_insert value (d.get?_allocate base)

end Dict

end GraphFilter
