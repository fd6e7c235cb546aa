import GraphFilter.Proofs.Query.FreshKeys
import Mathlib.Algebra.Group.Nat.Defs

/-!
# `GraphFilter.Proofs.Query.KeySearch` — counting up to a free name

`Dict.allocate` tries as many numbers as there are bindings. Here the same name is found by counting
without such a bound: a machine number starts at one and is increased for as long as its name is
taken. Nothing in the rules says that this ends, or that the number has room to be increased. It
does, for each number that is passed takes up a binding of its own.

## Contents
- **Counting.** `Dict.CountsTo`, one rule for a free number and one for a taken one; a count ends at
  one number only (`Dict.CountsTo.unique`), and it gets past taken ones (`Dict.countsTo_of_taken`).
- **Names.** `Dict.FindsName` tries the base first, and `Dict.findsName_iff` says that what is found
  is what is allocated. `Dict.allocate_least_free` adds which name that is.
-/

namespace GraphFilter

variable {α : Type}

/-! ## Counting -/

/-- The base name with a machine number. -/
def counterKey (base : String) (counter : Int32) : String :=
  s!"{base}_{counter}"

/-- A machine number is written like the natural number that it holds. -/
theorem counterKey_ofNat (base : String) {n : Nat} (h : n < 2 ^ 31) :
    counterKey base (Int32.ofNat n) = numberedKey base n := by
  have htext : toString (Int32.ofNat n) = toString n := by
    show toString (Int32.ofNat n).toInt = toString n
    rw [Int32.toInt_ofNat_of_lt h]
    rfl
  unfold counterKey numberedKey
  rw [htext]

namespace Dict

/-- Counting from one machine number ends at another: it stays where the name is free and goes on
    where it is taken. To go on, the number must have room to be increased. -/
inductive CountsTo (taken : Dict α) (base : String) : Int32 → Int32 → Prop
  | stop {n : Int32} : taken.contains (counterKey base n) = false → CountsTo taken base n n
  | next {n last : Int32} : taken.contains (counterKey base n) = true → n < Int32.maxValue →
      CountsTo taken base (n + 1) last → CountsTo taken base n last

/-- A count ends at one number only. -/
theorem CountsTo.unique {d : Dict α} {base : String} {n last other : Int32}
    (h : d.CountsTo base n last) (hother : d.CountsTo base n other) : last = other := by
  induction h with
  | stop hfree =>
    cases hother with
    | stop => rfl
    | next htaken => exact absurd htaken (by simp [hfree])
  | next htaken _ _ ih =>
    cases hother with
    | stop hfree => exact absurd htaken (by simp [hfree])
    | next _ _ hrest => exact ih hrest

/-- A count gets past numbers that are taken, as long as they are small enough to be increased. -/
theorem countsTo_of_taken {d : Dict α} {base : String} {n steps : Nat} (hroom : n + steps < 2 ^ 31)
    (htaken : ∀ i < steps, d.contains (numberedKey base (n + i)) = true)
    (hfree : d.contains (numberedKey base (n + steps)) = false) :
    d.CountsTo base (Int32.ofNat n) (Int32.ofNat (n + steps)) := by
  induction steps generalizing n with
  | zero =>
    rw [Nat.add_zero] at hroom hfree ⊢
    refine .stop ?_
    rw [counterKey_ofNat base hroom]
    exact hfree
  | succ steps ih =>
    have hshift : ∀ i, n + 1 + i = n + (i + 1) := fun i => by omega
    have hlater : d.CountsTo base (Int32.ofNat (n + 1)) (Int32.ofNat (n + 1 + steps)) := by
      refine ih (by omega) (fun i hi => ?_) ?_
      · rw [hshift]
        exact htaken (i + 1) (by omega)
      · rw [hshift]
        exact hfree
    have hhere : d.contains (numberedKey base n) = true := htaken 0 (Nat.succ_pos steps)
    have hmax : Int32.ofNat n < Int32.maxValue := by
      rw [Int32.lt_iff_toInt_lt, Int32.toInt_ofNat_of_lt (by omega), Int32.toInt_maxValue]
      omega
    rw [hshift, Int32.ofNat_add n 1] at hlater
    refine .next ?_ hmax hlater
    rw [counterKey_ofNat base (by omega)]
    exact hhere

/-! ## Names -/

/-- The search finds a name: the base if it is free, otherwise the base with the number at which
    counting from one ends. -/
inductive FindsName (taken : Dict α) (base : String) : String → Prop
  | base : taken.contains base = false → FindsName taken base base
  | counted {last : Int32} : taken.contains base = true → taken.CountsTo base 1 last →
      FindsName taken base (counterKey base last)

/-- The search finds one name only. -/
theorem FindsName.unique {d : Dict α} {base key other : String} (h : d.FindsName base key)
    (hother : d.FindsName base other) : key = other := by
  cases h with
  | base hfree =>
    cases hother with
    | base => rfl
    | counted htaken => exact absurd htaken (by simp [hfree])
  | counted htaken hcount =>
    cases hother with
    | base hfree => exact absurd htaken (by simp [hfree])
    | counted _ hcount' => rw [hcount.unique hcount']

/-- **The search ends, and finds the allocated name,** if the bindings can be counted. -/
theorem findsName_iff {d : Dict α} (h : d.size < 2 ^ 31) {base key : String} :
    d.FindsName base key ↔ key = d.allocate base := by
  have hfinds : d.FindsName base (d.allocate base) := by
    rcases d.allocate_eq base with ⟨hfree, heq⟩ | ⟨htaken, n, hpos, hle, heq, hfree, hless⟩
    · rw [heq]
      exact .base hfree
    · obtain ⟨steps, rfl⟩ := Nat.exists_eq_add_of_le hpos
      have hcount : d.CountsTo base (Int32.ofNat 1) (Int32.ofNat (1 + steps)) :=
        countsTo_of_taken (by omega) (fun i hi => hless (1 + i) (by omega) (by omega)) hfree
      rw [heq, ← counterKey_ofNat base (by omega)]
      exact .counted htaken hcount
  constructor
  · intro hkey
    exact hkey.unique hfinds
  · rintro rfl
    exact hfinds

/-- **The least free name.** The search ends, at the allocated name and nowhere else, and that name
    is free. It is the base if the base is free; otherwise it is the base with the least number whose
    name is free, written in decimal, and this number is at most the number of bindings. -/
theorem allocate_least_free (d : Dict α) (base : String) (h : d.size < 2 ^ 31) :
    (∀ key, d.FindsName base key ↔ key = d.allocate base) ∧
    d.contains (d.allocate base) = false ∧
    (d.contains base = false → d.allocate base = base) ∧
    (d.contains base = true → ∃ n, 1 ≤ n ∧ n ≤ d.size ∧ d.allocate base = numberedKey base n ∧
      (d.allocate base).toList = base.toList ++ '_' :: Nat.toDigits 10 n ∧
      ∀ i, 1 ≤ i → i < n → d.contains (numberedKey base i) = true) := by
  refine ⟨fun key => findsName_iff h, d.contains_allocate base, ?_, ?_⟩
  · intro hfree
    rcases d.allocate_eq base with ⟨-, heq⟩ | ⟨htaken, -⟩
    · exact heq
    · exact absurd htaken (by simp [hfree])
  · intro htaken
    rcases d.allocate_eq base with ⟨hfree, -⟩ | ⟨-, n, hpos, hle, heq, -, hless⟩
    · exact absurd htaken (by simp [hfree])
    · refine ⟨n, hpos, hle, heq, ?_, hless⟩
      rw [heq, toList_numberedKey]

/-- A dictionary with a gap: the second number is free, the third is not. -/
def gapped : Dict Unit :=
  .ofList [("type", ()), ("type_1", ()), ("type_3", ())]

theorem allocate_least_free_gapped :
    gapped.size < 2 ^ 31 ∧ gapped.FindsName "type" "type_2" ∧ gapped.contains "type_2" = false ∧
      gapped.contains "type" = true ∧
      ∃ n, 1 ≤ n ∧ n ≤ 3 ∧ "type_2" = numberedKey "type" n ∧
        "type_2".toList = "type".toList ++ '_' :: Nat.toDigits 10 n ∧
        ∀ i, 1 ≤ i → i < n → gapped.contains (numberedKey "type" i) = true := by
  have hsize : gapped.size < 2 ^ 31 := by decide
  have hname : gapped.allocate "type" = "type_2" := by decide
  have htaken : gapped.contains "type" = true := by decide
  have hleast := allocate_least_free gapped "type" hsize
  rw [hname] at hleast
  exact ⟨hsize, (hleast.1 "type_2").mpr rfl, hleast.2.1, htaken, hleast.2.2.2 htaken⟩

end Dict

end GraphFilter
