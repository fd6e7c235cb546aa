import GraphFilter.Value
import GraphFilter.Proofs.Value.Doubles

/-!
# `GraphFilter.Proofs.Value.StrictEquality` — strict equality against what values denote

Strict equality is to hold for two values exactly if they denote the same: the null value, a truth
value, a text, or a number, whatever its representation. Two integers are compared exactly, and so are
two doubles. An integer and a double are compared by their doubles, and the conversion rounds: an
integer that no double stands for is taken for its neighbour.

## Contents
- **Denotation.** `Value.denotation?` is what a value denotes, numbers without rounding;
  `Value.DenotesSame` relates the values that denote the same.
- **Neighbours.** `Value.Rounds`: an integer and the double, not equal to it, that it is rounded to.
  Only integers beyond `2^53` are rounded (`Rounds.lt_natAbs`).
- **Strict equality.** `strictEq_iff` says when it holds, and
  `strictEq_exact_iff_not_rounds` for which values it is exact.
-/

namespace GraphFilter.Value

/-! ## Denotation -/

/-- What a value can denote. -/
inductive Denotation
  | null
  | boolean (b : Bool)
  | string (s : String)
  | number (n : ExactNumber)

/-- What a value denotes, numbers to the last digit; nothing for NaN and for nested values. -/
def denotation? : Value → Option Denotation
  | .null => some .null
  | .boolean b => some (.boolean b)
  | .string s => some (.string s)
  | .int n => some (.number (.rational n.toInt))
  | .uint n => some (.number (.rational n.toNat))
  | .float x => (ExactNumber.ofFloat? x).map .number
  | .json _ => none

/-- Two values denote the same, whatever their representations. -/
def DenotesSame (a b : Value) : Prop :=
  ∃ d, a.denotation? = some d ∧ b.denotation? = some d

theorem denotesSame_comm {a b : Value} : DenotesSame a b ↔ DenotesSame b a :=
  exists_congr fun _ => and_comm

theorem denotesSame_iff {a b : Value} {d : Denotation} (ha : a.denotation? = some d) :
    DenotesSame a b ↔ b.denotation? = some d := by
  constructor
  · rintro ⟨d', ha', hb⟩
    rw [hb, ← ha', ha]
  · exact fun hb => ⟨d, ha, hb⟩

theorem DenotesSame.trans {a b c : Value} (hab : DenotesSame a b) (hbc : DenotesSame b c) :
    DenotesSame a c := by
  obtain ⟨d, ha, hb⟩ := hab
  exact ⟨d, ha, (denotesSame_iff hb).mp hbc⟩

theorem denotation?_float_iff {x : Float} {n : ExactNumber} :
    (float x).denotation? = some (.number n) ↔ ExactNumber.ofFloat? x = some n := by
  simp [denotation?]

theorem denotesSame_float_iff {x y : Float} :
    DenotesSame (.float x) (.float y) ↔
      ∃ n, ExactNumber.ofFloat? x = some n ∧ ExactNumber.ofFloat? y = some n := by
  constructor
  · rintro ⟨d, hx, hy⟩
    obtain ⟨n, hn, rfl⟩ := Option.map_eq_some_iff.mp hx
    exact ⟨n, hn, denotation?_float_iff.mp hy⟩
  · rintro ⟨n, hx, hy⟩
    exact ⟨.number n, denotation?_float_iff.mpr hx, denotation?_float_iff.mpr hy⟩

/-! ## Neighbours -/

/-- The integer that an integer value is. -/
def integer? : Value → Option Int
  | .int n => some n.toInt
  | .uint n => some n.toNat
  | _ => none

/-- The first value is an integer that no double stands for, and the second the double that it is
    rounded to. -/
def Rounds (a b : Value) : Prop :=
  ∃ n x, a.integer? = some n ∧ b = .float x ∧ (Float.ofInt n == x) = true ∧
    ∀ y, ExactNumber.ofFloat? y ≠ some (.rational n)

theorem int_or_uint_of_integer? {a : Value} {n : Int} (h : a.integer? = some n) :
    (∃ k : Int64, a = .int k ∧ k.toInt = n) ∨ ∃ k : UInt64, a = .uint k ∧ (k.toNat : Int) = n := by
  cases a with
  | int k => exact .inl ⟨k, rfl, Option.some.inj h⟩
  | uint k => exact .inr ⟨k, rfl, Option.some.inj h⟩
  | _ => exact nomatch h

theorem denotation?_of_integer? {a : Value} {n : Int} (h : a.integer? = some n) :
    a.denotation? = some (.number (.rational n)) := by
  rcases int_or_uint_of_integer? h with ⟨k, rfl, rfl⟩ | ⟨k, rfl, rfl⟩ <;> rfl

theorem toFloat?_of_integer? {a : Value} {n : Int} (h : a.integer? = some n) :
    a.toFloat? = some (Float.ofInt n) := by
  rcases int_or_uint_of_integer? h with ⟨k, rfl, rfl⟩ | ⟨k, rfl, rfl⟩ <;> rfl

/-- An integer is rounded only beyond the 53 digits of a mantissa. -/
theorem Rounds.lt_natAbs {a b : Value} {n : Int} (h : Rounds a b) (ha : a.integer? = some n) :
    2 ^ 53 < n.natAbs := by
  obtain ⟨m, x, hm, -, -, hlost⟩ := h
  obtain rfl : n = m := Option.some.inj (ha.symm.trans hm)
  by_contra hsmall
  exact hlost _ (ofFloat?_ofInt_of_natAbs_le (Nat.le_of_not_lt hsmall))

/-- What is rounded denotes another number than its neighbour. -/
theorem Rounds.not_denotesSame {a b : Value} (h : Rounds a b) : ¬ DenotesSame a b := by
  obtain ⟨n, x, ha, rfl, -, hlost⟩ := h
  rw [denotesSame_iff (denotation?_of_integer? ha), denotation?_float_iff]
  exact hlost x

/-- Only a double can be the neighbour of an integer. -/
theorem not_rounds_integer {a b : Value} {n : Int} (hb : b.integer? = some n) : ¬ Rounds a b := by
  rintro ⟨m, x, -, rfl, -, -⟩
  exact nomatch hb

theorem Rounds.numbers {a b : Value} (h : Rounds a b) : a.toFloat? ≠ none ∧ b.toFloat? ≠ none := by
  obtain ⟨n, x, ha, rfl, -, -⟩ := h
  rw [toFloat?_of_integer? ha]
  exact ⟨Option.some_ne_none _, Option.some_ne_none _⟩

/-- Only integers are rounded. -/
theorem not_rounds_of_integer?_none {a b : Value} (ha : a.integer? = none) : ¬ Rounds a b := by
  rintro ⟨m, x, hm, -, -, -⟩
  exact nomatch ha.symm.trans hm

/-! ## Strict equality -/

/-- The comparison of doubles does not depend on the order. -/
theorem sameNumber_comm (a b : Value) : sameNumber a b = sameNumber b a := by
  unfold sameNumber
  cases a.toFloat? with
  | none => cases b.toFloat? <;> rfl
  | some x =>
    cases b.toFloat? with
    | none => rfl
    | some y =>
      rw [Bool.eq_iff_iff, ofFloat?_beq_iff, ofFloat?_beq_iff]
      exact exists_congr fun n => and_comm

/-- **Strict equality does not depend on the order.** -/
theorem strictEq_comm (a b : Value) : a.strictEq b = b.strictEq a := by
  cases a <;> cases b <;> simp only [strictEq, sameNumber_comm, Bool.beq_comm]

/-- Two integers are strictly equal if they are the same integer, signed or not. -/
theorem strictEq_integers_iff {a b : Value} {m n : Int} (ha : a.integer? = some m)
    (hb : b.integer? = some n) : a.strictEq b = true ↔ m = n := by
  rcases int_or_uint_of_integer? ha with ⟨k, rfl, rfl⟩ | ⟨k, rfl, rfl⟩
  · rcases int_or_uint_of_integer? hb with ⟨l, rfl, rfl⟩ | ⟨l, rfl, rfl⟩
    · simp only [strictEq, beq_iff_eq, Int64.toInt_inj]
    · simp only [strictEq, beq_iff_eq]
  · rcases int_or_uint_of_integer? hb with ⟨l, rfl, rfl⟩ | ⟨l, rfl, rfl⟩
    · simp only [strictEq, beq_iff_eq]
      exact eq_comm
    · simp only [strictEq, beq_iff_eq, Nat.cast_inj, UInt64.toNat_inj]

theorem strictEq_integer_float {a : Value} {n : Int} (ha : a.integer? = some n) (x : Float) :
    a.strictEq (.float x) = (Float.ofInt n == x) := by
  rcases int_or_uint_of_integer? ha with ⟨k, rfl, rfl⟩ | ⟨k, rfl, rfl⟩ <;> rfl

/-- An integer is strictly equal to the doubles that denote it, and to the one that it is rounded
    to. -/
theorem strictEq_float_iff {a : Value} {n : Int} (ha : a.integer? = some n) (x : Float) :
    a.strictEq (.float x) = true ↔ DenotesSame a (.float x) ∨ Rounds a (.float x) := by
  rw [strictEq_integer_float ha, denotesSame_iff (denotation?_of_integer? ha), denotation?_float_iff]
  by_cases hheld : ∃ y, ExactNumber.ofFloat? y = some (.rational n)
  · -- Some double stands for the integer: the conversion finds it.
    obtain ⟨y, hy⟩ := hheld
    have hkept : ExactNumber.ofFloat? (Float.ofInt n) = some (.rational n) := ofFloat?_ofInt hy
    rw [ofFloat?_beq_iff, hkept]
    constructor
    · rintro ⟨number, hleft, hright⟩
      exact .inl (hright.trans hleft.symm)
    · rintro (hx | ⟨m, -, hm, -, -, hlost⟩)
      · exact ⟨.rational n, rfl, hx⟩
      · obtain rfl : n = m := Option.some.inj (ha.symm.trans hm)
        exact absurd hy (hlost y)
  · -- No double stands for the integer: the conversion gives its neighbour.
    constructor
    · exact fun h => .inr ⟨n, x, ha, rfl, h, fun y hy => hheld ⟨y, hy⟩⟩
    · rintro (hx | ⟨m, y, hm, hy, hround, -⟩)
      · exact absurd ⟨x, hx⟩ hheld
      · obtain rfl : n = m := Option.some.inj (ha.symm.trans hm)
        obtain rfl : x = y := Value.float.inj hy
        exact hround

/-- What is no number is strictly equal to what denotes the same. -/
theorem strictEq_iff_of_toFloat?_none {a : Value} (ha : a.toFloat? = none) (b : Value) :
    a.strictEq b = true ↔ DenotesSame a b := by
  cases a with
  | null =>
    rw [denotesSame_iff rfl]
    cases b <;> simp [strictEq, sameNumber, toFloat?, denotation?]
  | boolean x =>
    rw [denotesSame_iff rfl]
    cases b <;> simp [strictEq, sameNumber, toFloat?, denotation?, eq_comm (a := x)]
  | string s =>
    rw [denotesSame_iff rfl]
    cases b <;> simp [strictEq, sameNumber, toFloat?, denotation?, eq_comm (a := s)]
  | json j =>
    have hnothing : ¬ DenotesSame (.json j) b := by
      rintro ⟨d, hd, -⟩
      exact nomatch hd
    rw [iff_false_right hnothing]
    cases b <;> simp [strictEq, sameNumber, toFloat?]
  | _ => exact nomatch ha

theorem integer_or_float {a : Value} (ha : a.toFloat? ≠ none) :
    (∃ n, a.integer? = some n) ∨ ∃ x, a = .float x := by
  cases a with
  | int n => exact .inl ⟨n.toInt, rfl⟩
  | uint n => exact .inl ⟨n.toNat, rfl⟩
  | float x => exact .inr ⟨x, rfl⟩
  | _ => exact absurd rfl ha

/-- **When two values are strictly equal**: they denote the same, or one is an integer that no double
    stands for and the other the double that it is rounded to. -/
theorem strictEq_iff (a b : Value) :
    a.strictEq b = true ↔ DenotesSame a b ∨ Rounds a b ∨ Rounds b a := by
  -- Whichever value is no number decides; two numbers go by whether they are integers or doubles.
  by_cases ha : a.toFloat? = none
  · rw [strictEq_iff_of_toFloat?_none ha, or_iff_left]
    exact not_or.mpr ⟨fun h => h.numbers.1 ha, fun h => h.numbers.2 ha⟩
  by_cases hb : b.toFloat? = none
  · rw [strictEq_comm, strictEq_iff_of_toFloat?_none hb, or_iff_left, denotesSame_comm]
    exact not_or.mpr ⟨fun h => h.numbers.2 hb, fun h => h.numbers.1 hb⟩
  rcases integer_or_float ha with ⟨m, hm⟩ | ⟨x, rfl⟩
  · rcases integer_or_float hb with ⟨n, hn⟩ | ⟨y, rfl⟩
    · have hneither : ¬ (Rounds a b ∨ Rounds b a) :=
        not_or.mpr ⟨not_rounds_integer hn, not_rounds_integer hm⟩
      rw [strictEq_integers_iff hm hn, denotesSame_iff (denotation?_of_integer? hm),
        denotation?_of_integer? hn, or_iff_left hneither]
      simp [eq_comm]
    · have hright : ¬ Rounds (.float y) a := not_rounds_of_integer?_none rfl
      rw [strictEq_float_iff hm, or_iff_left hright]
  · rcases integer_or_float hb with ⟨n, hn⟩ | ⟨y, rfl⟩
    · have hleft : ¬ Rounds (.float x) b := not_rounds_of_integer?_none rfl
      rw [strictEq_comm, strictEq_float_iff hn, denotesSame_comm, or_iff_right hleft]
    · have hneither : ¬ (Rounds (.float x) (.float y) ∨ Rounds (.float y) (.float x)) :=
        not_or.mpr ⟨not_rounds_of_integer?_none rfl, not_rounds_of_integer?_none rfl⟩
      rw [or_iff_left hneither, denotesSame_float_iff]
      exact ofFloat?_beq_iff

theorem strictEq_iff_of_not_rounds {a b : Value} (h : ¬ (Rounds a b ∨ Rounds b a)) :
    a.strictEq b = true ↔ DenotesSame a b := by
  rw [strictEq_iff, or_iff_left h]

/-- Strict equality is right about two values unless one is rounded to the other. -/
theorem strictEq_right_iff (a b : Value) :
    (a.strictEq b = true ↔ DenotesSame a b) ↔ ¬ (Rounds a b ∨ Rounds b a) := by
  refine ⟨fun hright hrounds => ?_, strictEq_iff_of_not_rounds⟩
  have hsame : DenotesSame a b := hright.mp ((strictEq_iff a b).mpr (.inr hrounds))
  rcases hrounds with hab | hba
  · exact hab.not_denotesSame hsame
  · exact hba.not_denotesSame (denotesSame_comm.mp hsame)

/-- **Strict equality is equality of what is denoted, but for integers that are rounded.** It holds
    for two values exactly if they denote the same, unless one is an integer beyond `2^53` that no
    double stands for and the other the double that it is rounded to. It is always symmetric, and it
    passes on from one value to the next as long as neither step is such a pair. -/
theorem strictEq_exact_iff_not_rounds (a b c : Value) :
    ((a.strictEq b = true ↔ DenotesSame a b) ↔ ¬ (Rounds a b ∨ Rounds b a)) ∧
    (∀ n, Rounds a b → a.integer? = some n → 2 ^ 53 < n.natAbs) ∧
    a.strictEq b = b.strictEq a ∧
    (¬ (Rounds a b ∨ Rounds b a) → ¬ (Rounds b c ∨ Rounds c b) →
      a.strictEq b = true → b.strictEq c = true → a.strictEq c = true) := by
  refine ⟨strictEq_right_iff a b, fun n h => h.lt_natAbs, strictEq_comm a b, ?_⟩
  intro hab hbc hfirst hsecond
  have hsame : DenotesSame a c :=
    ((strictEq_iff_of_not_rounds hab).mp hfirst).trans ((strictEq_iff_of_not_rounds hbc).mp hsecond)
  exact (strictEq_iff a c).mpr (.inl hsame)

/-- `2^53` in its three representations: no step is such a pair, so the first is strictly equal to the
    last. -/
theorem strictEq_of_three_representations :
    ¬ (Rounds (.int 9007199254740992) (.uint 9007199254740992) ∨
        Rounds (.uint 9007199254740992) (.int 9007199254740992)) ∧
    ¬ (Rounds (.uint 9007199254740992) (.float 9007199254740992) ∨
        Rounds (.float 9007199254740992) (.uint 9007199254740992)) ∧
    (Value.int 9007199254740992).strictEq (.float 9007199254740992) = true := by
  have hfirst : ¬ (Rounds (.int 9007199254740992) (.uint 9007199254740992) ∨
      Rounds (.uint 9007199254740992) (.int 9007199254740992)) :=
    not_or.mpr ⟨not_rounds_integer rfl, not_rounds_integer rfl⟩
  have hsecond : ¬ (Rounds (.uint 9007199254740992) (.float 9007199254740992) ∨
      Rounds (.float 9007199254740992) (.uint 9007199254740992)) :=
    not_or.mpr ⟨fun h => absurd (h.lt_natAbs rfl) (by decide), not_rounds_integer rfl⟩
  exact ⟨hfirst, hsecond,
    (strictEq_exact_iff_not_rounds (.int 9007199254740992) (.uint 9007199254740992)
      (.float 9007199254740992)).2.2.2 hfirst hsecond (by decide) (by decide)⟩

/-- The integer `2^53 + 1` is strictly equal to the double `2^53`, which denotes another number; and
    that double is strictly equal to the integer `2^53`, which the first integer is not. -/
theorem strictEq_neighbour :
    (Value.int 9007199254740993).strictEq (.float 9007199254740992) = true ∧
    ¬ DenotesSame (.int 9007199254740993) (.float 9007199254740992) ∧
    (Value.float 9007199254740992).strictEq (.int 9007199254740992) = true ∧
    (Value.int 9007199254740993).strictEq (.int 9007199254740992) = false := by
  have hdouble : ExactNumber.ofFloat? 9007199254740992 =
      some (.rational (signed .positive (scaled (2 ^ 52) 1))) := rfl
  refine ⟨by decide, ?_, by decide, by decide⟩
  rw [denotesSame_iff (denotation?_of_integer? (n := 9007199254740993) rfl), denotation?_float_iff,
    hdouble]
  simp only [signed, scaled, Option.some.injEq, ExactNumber.rational.injEq]
  norm_num

end GraphFilter.Value
