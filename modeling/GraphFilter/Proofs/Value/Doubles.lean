import Mathlib

/-!
# `GraphFilter.Proofs.Value.Doubles` — the numbers that doubles stand for

A double is a mantissa and a power of two, and only one of the many ways to write a number like that
is the one in which a double holds it. So doubles are equal exactly if they stand for the same number,
and rounding a number that some double stands for gives that number back.

## Contents
- **Powers of two.** `scaled m e` is `m · 2^e`; numbers that are equal have the same leading digit
  (`totalExponent_eq_of_scaled_eq`).
- **Held forms.** `IsHeld m e`: a double holds the number with this mantissa and exponent.
  `IsHeld.unique`; `isHeld_of_ofFields` and `unpack_pack_finite` for doubles themselves.
- **Rounding.** `roundWithAccuracy_of_isHeld`, `round_of_isHeld`: nothing is lost.
- **Numbers.** `ExactNumber.ofFloat?` is what a double stands for; `ofFloat?_beq_iff`.
- **Whole numbers.** `ofFloat?_ofInt` and `ofFloat?_ofInt_of_natAbs_le`: the conversions that lose
  nothing.
-/

namespace GraphFilter

open Float.Model (UnpackedFloat Format totalExponent)
open Float.Model.UnpackedFloat

/-! ## Powers of two -/

/-- The number with this mantissa and exponent. -/
def scaled (m : Nat) (e : Int) : ℚ :=
  m * 2 ^ e

theorem scaled_pos {m : Nat} (hm : 0 < m) (e : Int) : 0 < scaled m e := by
  unfold scaled
  positivity

/-- Zeros at the end of the mantissa may go to the exponent. -/
theorem scaled_shift (m k : Nat) (e : Int) : scaled (m * 2 ^ k) e = scaled m (e + k) := by
  have htwo : (2 : ℚ) ≠ 0 := by norm_num
  unfold scaled
  rw [zpow_add₀ htwo, zpow_natCast]
  push_cast
  ring

/-- Of two forms of a number, the one with the smaller exponent has the zeros in its mantissa. -/
theorem eq_shift_of_scaled_eq {m m' : Nat} {e e' : Int} (hle : e ≤ e')
    (h : scaled m e = scaled m' e') : m = m' * 2 ^ (e' - e).toNat := by
  have hexponent : e' = e + ((e' - e).toNat : Int) := by omega
  rw [hexponent, ← scaled_shift] at h
  have hpower : (2 : ℚ) ^ e ≠ 0 := by positivity
  have hcast : (m : ℚ) = ((m' * 2 ^ (e' - e).toNat : Nat) : ℚ) := mul_right_cancel₀ hpower h
  exact_mod_cast hcast

theorem log2_mul_two_pow {m : Nat} (hm : 0 < m) (k : Nat) : (m * 2 ^ k).log2 = m.log2 + k := by
  have hne : m * 2 ^ k ≠ 0 := by positivity
  rw [Nat.log2_eq_iff hne]
  constructor
  · rw [Nat.pow_add]
    exact Nat.mul_le_mul_right _ (Nat.log2_self_le hm.ne')
  · rw [Nat.add_right_comm, Nat.pow_add]
    exact Nat.mul_lt_mul_of_pos_right Nat.lt_log2_self (Nat.two_pow_pos k)

theorem totalExponent_shift {m : Nat} (hm : 0 < m) (k : Nat) (e : Int) :
    totalExponent (m * 2 ^ k) e = totalExponent m (e + k) := by
  unfold totalExponent
  rw [log2_mul_two_pow hm]
  omega

/-- The place of the leading digit belongs to the number and not to the form. -/
theorem totalExponent_eq_of_scaled_eq {m m' : Nat} {e e' : Int} (hm : 0 < m) (hm' : 0 < m')
    (h : scaled m e = scaled m' e') : totalExponent m e = totalExponent m' e' := by
  rcases le_total e e' with hle | hle
  · have hexponent : e + ((e' - e).toNat : Int) = e' := by omega
    rw [eq_shift_of_scaled_eq hle h, totalExponent_shift hm', hexponent]
  · have hexponent : e' + ((e - e').toNat : Int) = e := by omega
    rw [eq_shift_of_scaled_eq hle h.symm, totalExponent_shift hm, hexponent]

/-! ## Held forms -/

/-- A double holds a number with this mantissa and exponent, if the exponent is in range: the leading
    digit is the 53rd of the mantissa, or further down if the exponent is the least. -/
def IsHeld (m : Nat) (e : Int) : Prop :=
  Format.binary64.targetExponent (totalExponent m e) = e

theorem targetExponent_eq (m : Nat) (e : Int) :
    Format.binary64.targetExponent (totalExponent m e) = max (m.log2 + e - 52) (-1074) := by
  have hleast : Format.binary64.minExponent = -1074 := rfl
  have hdigits : Format.binary64.mantissaBits = 53 := rfl
  unfold Format.targetExponent totalExponent
  rw [hleast, hdigits]
  omega

theorem isHeld_iff {m : Nat} {e : Int} : IsHeld m e ↔ max (m.log2 + e - 52) (-1074) = e := by
  unfold IsHeld
  rw [targetExponent_eq]

/-- A number is held in one form only. -/
theorem IsHeld.unique {m m' : Nat} {e e' : Int} (hm : 0 < m) (hm' : 0 < m') (hheld : IsHeld m e)
    (hheld' : IsHeld m' e') (h : scaled m e = scaled m' e') : m = m' ∧ e = e' := by
  have hexponent : e = e' := by
    unfold IsHeld at hheld hheld'
    rw [← hheld, ← hheld', totalExponent_eq_of_scaled_eq hm hm' h]
  subst hexponent
  refine ⟨?_, rfl⟩
  have hmantissa : m = m' * 2 ^ (e - e).toNat := eq_shift_of_scaled_eq (le_refl e) h
  simpa using hmantissa

/-- A mantissa with its leading digit in the 53rd place is held with every exponent in range. -/
theorem isHeld_of_log2 {m : Nat} {e : Int} (hlog : m.log2 = 52) (he : -1074 ≤ e) : IsHeld m e := by
  rw [isHeld_iff, hlog]
  omega

/-- A mantissa of fewer digits is held with the least exponent. -/
theorem isHeld_least {m : Nat} (hlog : m.log2 < 52) : IsHeld m (-1074) := by
  rw [isHeld_iff]
  omega

theorem IsHeld.cases {m : Nat} {e : Int} (h : IsHeld m e) :
    (m.log2 = 52 ∧ -1074 ≤ e) ∨ (m.log2 < 52 ∧ e = -1074) := by
  rw [isHeld_iff] at h
  omega

/-! ## Fields -/

/-- What a double holds, by its sign, its exponent field and its mantissa field. Unless the exponent
    field is all zeros, the leading digit is not written. -/
def ofFields (s : Sign) (exponent : BitVec 11) (mantissa : BitVec 52) : UnpackedFloat :=
  if exponent = -1#11 then
    if mantissa = 0#52 then .infinity s else .notANumber
  else if exponent = 0#11 then
    if h : mantissa = 0#52 then .zero s
    else .finite s mantissa.toNat (-1074) (by simpa [BitVec.toNat_pos, BitVec.pos_iff_ne_zero])
  else .finite s (2 ^ 52 + mantissa.toNat) (exponent.toNat - 1075) (by positivity)

/-- The hidden leading digit of a mantissa. -/
theorem toNat_one_append (mantissa : BitVec 52) :
    (1#1 ++ mantissa).toNat = 2 ^ 52 + mantissa.toNat := by
  have hdigit : (1#1).toNat <<< 52 = 2 ^ 52 * 1 := rfl
  rw [BitVec.toNat_append, hdigit, ← Nat.two_pow_add_eq_or_of_lt mantissa.isLt, Nat.mul_one]

theorem unpack_eq_ofFields (bits : BitVec Format.binary64.numBits) :
    UnpackedFloat.unpack Format.binary64 bits =
      ofFields (Sign.ofBitVec (unpackSign bits)) (unpackExponent bits) (unpackMantissa bits) := by
  have hbias : (Format.binary64.exponentBias : Int) = 1023 := rfl
  unfold UnpackedFloat.unpack ofFields
  simp only [hbias, toNat_one_append]
  split
  · rfl
  · split
    · next hzeros =>
      simp only [hzeros]
      rfl
    · congr 1

/-- Bits made from fields have those fields. -/
theorem unpack_packComponents (s : Sign) (exponent : BitVec 11) (mantissa : BitVec 52) :
    UnpackedFloat.unpack Format.binary64 (packComponents Format.binary64 s exponent mantissa) =
      ofFields s exponent mantissa := by
  rw [unpack_eq_ofFields, unpackSign_packComponents, Sign.ofBitVec_toBitVec,
    unpackExponent_packComponents, unpackMantissa_packComponents]

/-- What a double holds is held, with an exponent in range. -/
theorem isHeld_of_ofFields {s s' : Sign} {exponent : BitVec 11} {mantissa : BitVec 52} {m : Nat}
    {e : Int} {hm : 0 < m} (h : ofFields s exponent mantissa = .finite s' m e hm) :
    IsHeld m e ∧ e ≤ 971 := by
  unfold ofFields at h
  split at h
  · split at h <;> cases h
  · next hones =>
    have hbound : exponent.toNat ≠ 2047 := fun h => hones (BitVec.eq_of_toNat_eq h)
    split at h
    · split at h
      · cases h
      · obtain ⟨-, rfl, rfl⟩ := UnpackedFloat.finite.inj h
        exact ⟨isHeld_least ((Nat.log2_lt hm.ne').mpr mantissa.isLt), by decide⟩
    · next hzeros =>
      have hpos : exponent.toNat ≠ 0 := fun h => hzeros (BitVec.eq_of_toNat_eq h)
      have hfield : exponent.toNat < 2048 := exponent.isLt
      obtain ⟨-, rfl, rfl⟩ := UnpackedFloat.finite.inj h
      have hlt : mantissa.toNat < 2 ^ 52 := mantissa.isLt
      have hlog : (2 ^ 52 + mantissa.toNat).log2 = 52 := by
        rw [Nat.log2_eq_iff (by omega)]
        omega
      exact ⟨isHeld_of_log2 hlog (by omega), by omega⟩

/-- The fields of a mantissa with its leading digit in the 53rd place, which is not written. -/
theorem ofFields_of_log2 {s : Sign} {m : Nat} {e : Int} {hm : 0 < m} (hlog : m.log2 = 52)
    (hleast : -1074 ≤ e) (hrange : e ≤ 971) :
    ofFields s (BitVec.ofNat 11 (e + 1075).toNat) (BitVec.ofNat 52 m) = .finite s m e hm := by
  have hdigit : 2 ^ 52 ≤ m ∧ m < 2 ^ 53 := (Nat.log2_eq_iff hm.ne').mp hlog
  have hmantissa : (BitVec.ofNat 52 m).toNat = m - 2 ^ 52 := by
    rw [BitVec.toNat_ofNat]
    omega
  have hexponent : (BitVec.ofNat 11 (e + 1075).toNat).toNat = (e + 1075).toNat := by
    rw [BitVec.toNat_ofNat]
    omega
  have hones : BitVec.ofNat 11 (e + 1075).toNat ≠ -1#11 := by
    intro h
    have hfull : (-1#11).toNat = 2047 := rfl
    rw [h] at hexponent
    omega
  have hzeros : BitVec.ofNat 11 (e + 1075).toNat ≠ 0#11 := by
    intro h
    have hempty : (0#11).toNat = 0 := rfl
    rw [h] at hexponent
    omega
  have hwhole : 2 ^ 52 + (m - 2 ^ 52) = m := by omega
  have hback : ((e + 1075).toNat : Int) - 1075 = e := by omega
  unfold ofFields
  simp only [if_neg hones, if_neg hzeros, hmantissa, hexponent, hwhole, hback]

/-- The fields of a mantissa of fewer digits, all of which are written. -/
theorem ofFields_of_log2_lt {s : Sign} {m : Nat} {hm : 0 < m} (hlog : m.log2 < 52) :
    ofFields s 0#11 (BitVec.ofNat 52 m) = .finite s m (-1074) hm := by
  have hlt : m < 2 ^ 52 := (Nat.log2_lt hm.ne').mp hlog
  have hmantissa : (BitVec.ofNat 52 m).toNat = m := by
    rw [BitVec.toNat_ofNat, Nat.mod_eq_of_lt hlt]
  have hne : BitVec.ofNat 52 m ≠ 0#52 := by
    intro hzero
    rw [hzero] at hmantissa
    exact hm.ne hmantissa
  unfold ofFields
  rw [if_neg (by decide), if_pos rfl, dif_neg hne]
  congr 1

/-- A double made from a held form holds that form. -/
theorem unpack_pack_finite {s : Sign} {m : Nat} {e : Int} {hm : 0 < m} (hheld : IsHeld m e)
    (hrange : e ≤ 971) :
    (Float.Model.pack (.finite s m e hm)).unpack = .finite s m e hm := by
  have hbias : e + (Format.binary64.exponentBias : Int) +
      (Format.binary64.mantissaBitsWithoutImplicit : Int) = e + 1075 := by
    have hsum : (Format.binary64.exponentBias : Int) = 1023 := rfl
    have hdigits : (Format.binary64.mantissaBitsWithoutImplicit : Int) = 52 := rfl
    omega
  have hbits : (2 : Nat) ^ Format.binary64.exponentBits = 2048 := rfl
  have hdigits : Format.binary64.mantissaBits = 53 := rfl
  show UnpackedFloat.unpack Format.binary64 (UnpackedFloat.pack Format.binary64 _) = _
  unfold UnpackedFloat.pack
  simp only [hbias, hbits, hdigits]
  rcases hheld.cases with ⟨hlog, hleast⟩ | ⟨hlog, rfl⟩
  · rw [if_neg (by omega), if_pos (by omega), unpack_packComponents]
    exact ofFields_of_log2 hlog hleast hrange
  · rw [if_neg (by omega), if_neg (by omega), unpack_packComponents]
    exact ofFields_of_log2_lt hlog

/-! ## Rounding -/

/-- Zeros at the end are shifted out without a trace. -/
theorem shiftRight_exact (m k : Nat) :
    (⟨m * 2 ^ k, false, false⟩ : ExtendedMantissa) >>> k = ⟨m, false, false⟩ := by
  show k.repeat ExtendedMantissa.shiftRightOne ⟨m * 2 ^ k, false, false⟩ = _
  induction k generalizing m with
  | zero => simp [Nat.repeat]
  | succ k ih =>
    have hsplit : m * 2 ^ (k + 1) = m * 2 * 2 ^ k := by ring
    rw [hsplit, Nat.repeat, ih]
    simp [ExtendedMantissa.shiftRightOne]

/-- A held form with zeros at the end of its mantissa is shifted back to itself. -/
theorem shiftToTargetExponent_of_isHeld {m : Nat} {e : Int} (hm : 0 < m) (hheld : IsHeld m e)
    (k : Nat) :
    shiftToTargetExponent Format.binary64 (m * 2 ^ k) (e - k) .exact = (⟨m, false, false⟩, e) := by
  have hback : e - k + k = e := by omega
  have hamount : (e - (e - k)).toNat = k := by omega
  unfold shiftToTargetExponent
  rw [totalExponent_shift hm, hback, hheld]
  unfold shiftToExponent
  simp only [hamount, hback, ExtendedMantissa.ofMantissaAndAccuracy, shiftRight_exact]

/-- Rounding a held form with zeros at the end of its mantissa gives the held form. -/
theorem roundWithAccuracy_of_isHeld {s : Sign} {m : Nat} {e : Int} (hm : 0 < m)
    (hheld : IsHeld m e) (k : Nat) :
    roundWithAccuracy Format.binary64 s (m * 2 ^ k) (e - k) .exact = .finite s m e hm := by
  have hfirst := shiftToTargetExponent_of_isHeld hm hheld k
  have hagain : shiftToTargetExponent Format.binary64 m e .exact = (⟨m, false, false⟩, e) := by
    simpa using shiftToTargetExponent_of_isHeld hm hheld 0
  have hkept : (⟨m, false, false⟩ : ExtendedMantissa).roundedMantissa = m := rfl
  unfold roundWithAccuracy
  simp only [hfirst, hkept, hagain, dif_neg hm.ne']

/-- Any form of a number with a smaller exponent than the held form is rounded to the held form. -/
theorem roundWithAccuracy_of_scaled_eq {s : Sign} {m n : Nat} {e e' : Int} (hm : 0 < m)
    (hheld : IsHeld m e) (hle : e' ≤ e) (h : scaled n e' = scaled m e) :
    roundWithAccuracy Format.binary64 s n e' .exact = .finite s m e hm := by
  have hmantissa : n = m * 2 ^ (e - e').toNat := eq_shift_of_scaled_eq hle h
  have hexponent : e - ((e - e').toNat : Int) = e' := by omega
  have hround := roundWithAccuracy_of_isHeld (s := s) hm hheld (e - e').toNat
  rwa [← hmantissa, hexponent] at hround

/-- **Rounding a number that is held in some form gives that form.** -/
theorem round_of_isHeld {s : Sign} {m n : Nat} {e e' : Int} (hm : 0 < m) (hn : 0 < n)
    (hheld : IsHeld m e) (h : scaled n e' = scaled m e) :
    UnpackedFloat.round Format.binary64 s n e' = .finite s m e hm := by
  have htarget : Format.binary64.targetExponent (totalExponent n e') = e := by
    rw [totalExponent_eq_of_scaled_eq hn hm h, hheld]
  unfold UnpackedFloat.round decreaseExponent
  simp only [htarget, Nat.shiftLeft_eq]
  refine roundWithAccuracy_of_scaled_eq hm hheld (by omega) ?_
  have hback : e' - ((e' - e).toNat : Int) + ((e' - e).toNat : Int) = e' := by omega
  rw [scaled_shift, hback, h]

/-! ## Numbers -/

/-- A number without rounding: a rational one, or one of the two infinities. -/
inductive ExactNumber
  | rational (q : ℚ)
  | infinity (s : Sign)

/-- A number with a sign. -/
def signed : Sign → ℚ → ℚ
  | .positive, q => q
  | .negative, q => -q

namespace ExactNumber

/-- The number that an unpacked double stands for; none for NaN. -/
def ofUnpacked? : UnpackedFloat → Option ExactNumber
  | .notANumber => none
  | .infinity s => some (.infinity s)
  | .zero _ => some (.rational 0)
  | .finite s m e _ => some (.rational (signed s (scaled m e)))

/-- The number that a double stands for, to the last digit; none for NaN. -/
def ofFloat? (x : Float) : Option ExactNumber :=
  ofUnpacked? x.toModel.unpack

end ExactNumber

theorem signed_scaled_ne_zero {s : Sign} {m : Nat} {e : Int} (hm : 0 < m) :
    signed s (scaled m e) ≠ 0 := by
  have hpos : 0 < scaled m e := scaled_pos hm e
  cases s with
  | positive => exact hpos.ne'
  | negative => exact neg_ne_zero.mpr hpos.ne'

/-- Held forms of one number have the same sign, mantissa and exponent. -/
theorem signed_scaled_inj {s s' : Sign} {m m' : Nat} {e e' : Int} (hm : 0 < m) (hm' : 0 < m')
    (hheld : IsHeld m e) (hheld' : IsHeld m' e') :
    signed s (scaled m e) = signed s' (scaled m' e') ↔ s = s' ∧ m = m' ∧ e = e' := by
  have hpos : 0 < scaled m e := scaled_pos hm e
  have hpos' : 0 < scaled m' e' := scaled_pos hm' e'
  constructor
  · intro h
    cases s with
    | positive =>
      cases s' with
      | positive => exact ⟨rfl, hheld.unique hm hm' hheld' h⟩
      | negative =>
        simp only [signed] at h
        linarith
    | negative =>
      cases s' with
      | positive =>
        simp only [signed] at h
        linarith
      | negative => exact ⟨rfl, hheld.unique hm hm' hheld' (neg_injective h)⟩
  · rintro ⟨rfl, rfl, rfl⟩
    rfl

/-- What a double holds, if it holds a mantissa and an exponent, is held. -/
def HoldsForm : UnpackedFloat → Prop
  | .finite _ m e _ => IsHeld m e ∧ e ≤ 971
  | _ => True

theorem holdsForm_unpack (x : Float) : HoldsForm x.toModel.unpack := by
  cases hunpack : x.toModel.unpack with
  | finite s m e hm =>
    unfold Float.Model.unpack at hunpack
    rw [unpack_eq_ofFields] at hunpack
    exact isHeld_of_ofFields hunpack
  | _ => trivial

/-- Equality of doubles is equality of the numbers that they stand for. -/
theorem beq_iff_of_holdsForm {u v : UnpackedFloat} (hu : HoldsForm u) (hv : HoldsForm v) :
    u.beq v = true ↔
      ∃ n, ExactNumber.ofUnpacked? u = some n ∧ ExactNumber.ofUnpacked? v = some n := by
  rw [beq_iff_ne_notANumber_and_eq]
  cases u with
  | notANumber => simp [ExactNumber.ofUnpacked?]
  | infinity s =>
    cases v with
    | infinity s' => simpa [ExactNumber.ofUnpacked?] using eq_comm
    | _ => simp [ExactNumber.ofUnpacked?]
  | zero s =>
    cases v with
    | zero s' => cases s <;> cases s' <;> simp [ExactNumber.ofUnpacked?]
    | finite s' m' e' hm' =>
      have hne : signed s' (scaled m' e') ≠ 0 := signed_scaled_ne_zero hm'
      simp [ExactNumber.ofUnpacked?, hne]
    | _ => simp [ExactNumber.ofUnpacked?]
  | finite s m e hm =>
    have hne : signed s (scaled m e) ≠ 0 := signed_scaled_ne_zero hm
    cases v with
    | zero s' => simp [ExactNumber.ofUnpacked?, hne.symm]
    | finite s' m' e' hm' =>
      have hinj : signed s (scaled m e) = signed s' (scaled m' e') ↔ s = s' ∧ m = m' ∧ e = e' :=
        signed_scaled_inj hm hm' hu.1 hv.1
      simp [ExactNumber.ofUnpacked?, ← hinj, eq_comm]
    | _ => simp [ExactNumber.ofUnpacked?]

/-- **Doubles are equal exactly if they stand for the same number.** -/
theorem ofFloat?_beq_iff {x y : Float} :
    (x == y) = true ↔ ∃ n, ExactNumber.ofFloat? x = some n ∧ ExactNumber.ofFloat? y = some n :=
  beq_iff_of_holdsForm (holdsForm_unpack x) (holdsForm_unpack y)

/-! ## Whole numbers -/

theorem scaled_zero (n : Nat) : scaled n 0 = n := by
  unfold scaled
  rw [zpow_zero, mul_one]

theorem normalize_natCast {n : Nat} (hn : 0 < n) :
    UnpackedFloat.normalize Format.binary64 n 0 .positive =
      UnpackedFloat.round Format.binary64 .positive n 0 := by
  have hcompare : compare (n : Int) 0 = .gt := by
    rw [compare_gt_iff_gt]
    omega
  unfold UnpackedFloat.normalize
  rw [hcompare]
  rfl

section WholeNumbers

variable {n m : Nat} {e : Int}

theorem pos_of_scaled_eq (hm : 0 < m) (h : scaled m e = n) : 0 < n := by
  have hpos : 0 < scaled m e := scaled_pos hm e
  rw [h] at hpos
  exact_mod_cast hpos

/-- A small whole number made a double by way of a whole number of 64 bits. -/
theorem unpack_toFloat (hm : 0 < m) (hheld : IsHeld m e) (hrange : e ≤ 971) (h : scaled m e = n)
    (hsmall : n < 2 ^ 53) : n.toUInt64.toFloat.toModel.unpack = .finite .positive m e hm := by
  have hsize : n < UInt64.size := Nat.lt_trans hsmall (by decide)
  have hword : n.toUInt64.toNat = n := UInt64.toNat_ofNat_of_lt' hsize
  have hround : UnpackedFloat.round Format.binary64 .positive n 0 = .finite .positive m e hm := by
    refine round_of_isHeld hm (pos_of_scaled_eq hm h) hheld ?_
    rw [scaled_zero, h]
  show (Float.Model.pack
    (UnpackedFloat.normalize Format.binary64 n.toUInt64.toNat 0 .positive)).unpack = _
  rw [hword, normalize_natCast (pos_of_scaled_eq hm h), hround]
  exact unpack_pack_finite hheld hrange

/-- A small whole number is converted as it is, and multiplied by one. -/
theorem unpack_ofNat_of_lt (hm : 0 < m) (hheld : IsHeld m e) (hrange : e ≤ 971)
    (h : scaled m e = n) (hsmall : n < 2 ^ 53) :
    (Float.ofNat n).toModel.unpack = .finite .positive m e hm := by
  have hone : (Float.ofBits 0x3FF0000000000000).toModel.unpack =
      .finite .positive (2 ^ 52) (-52) (by decide) := rfl
  have hproduct : Float.ofNat n = n.toUInt64.toFloat * Float.ofBits 0x3FF0000000000000 := by
    show Float.ofScientific n false 0 = _
    unfold Float.ofScientific
    rw [dif_pos ⟨hsmall, Nat.zero_le 22⟩]
    rfl
  have hround : roundWithAccuracy Format.binary64 .positive (m * 2 ^ 52) (e - 52) .exact =
      .finite .positive m e hm := roundWithAccuracy_of_isHeld hm hheld 52
  rw [hproduct]
  show (Float.Model.pack (UnpackedFloat.mul Format.binary64 n.toUInt64.toFloat.toModel.unpack
    (Float.ofBits 0x3FF0000000000000).toModel.unpack)).unpack = _
  rw [unpack_toFloat hm hheld hrange h hsmall, hone]
  show (Float.Model.pack
    (roundWithAccuracy Format.binary64 .positive (m * 2 ^ 52) (e - 52) .exact)).unpack = _
  rw [hround]
  exact unpack_pack_finite hheld hrange

/-- A large one is given as many more digits as a mantissa has, and then multiplied by one. -/
theorem ofScientific_zero (format : Format) (hn : 0 < n) :
    UnpackedFloat.ofScientific format n 0 =
      roundWithAccuracy format .positive (n * 2 ^ format.mantissaBits) (-format.mantissaBits)
        .exact := by
  have hpower : (0 : Int) < 2 ^ format.exponentBits := by positivity
  have hlarge : ¬ (0 : Int) < -(2 ^ format.exponentBits + (n.log2 : Int)) := by omega
  unfold UnpackedFloat.ofScientific
  rw [dif_neg hn.ne', if_neg (by omega), if_neg hlarge, if_pos (le_refl 0)]
  simp only [UnpackedFloat.mul, Int.toNat_zero, pow_zero, Nat.mul_one, Int.add_zero,
    Nat.shiftLeft_eq]
  rfl

theorem unpack_ofNat_of_le (hm : 0 < m) (hheld : IsHeld m e) (hrange : e ≤ 971)
    (h : scaled m e = n) (hlarge : 2 ^ 53 ≤ n) :
    (Float.ofNat n).toModel.unpack = .finite .positive m e hm := by
  have hn : 0 < n := pos_of_scaled_eq hm h
  have hleast : -53 ≤ e := by
    have htarget : Format.binary64.targetExponent (totalExponent n 0) = e := by
      rw [totalExponent_eq_of_scaled_eq hn hm (by rw [scaled_zero, h]), hheld]
    rw [targetExponent_eq] at htarget
    omega
  have hvalue : scaled (n * 2 ^ 53) (-53) = scaled m e := by
    rw [scaled_shift, h]
    exact scaled_zero n
  have hround : roundWithAccuracy Format.binary64 .positive (n * 2 ^ 53) (-53) .exact =
      .finite .positive m e hm := roundWithAccuracy_of_scaled_eq hm hheld hleast hvalue
  have hproduct : Float.ofNat n = .ofModel (.pack (roundWithAccuracy Format.binary64 .positive
      (n * 2 ^ 53) (-53) .exact)) := by
    show Float.ofScientific n false 0 = _
    unfold Float.ofScientific
    rw [dif_neg (fun hfast => Nat.not_lt.mpr hlarge hfast.1)]
    exact congrArg (fun r => Float.ofModel (.pack r)) (ofScientific_zero Format.binary64 hn)
  rw [hproduct, hround]
  exact unpack_pack_finite hheld hrange

/-- **A whole number that is held in some form is converted to a double that holds it so.** -/
theorem unpack_ofNat (hm : 0 < m) (hheld : IsHeld m e) (hrange : e ≤ 971) (h : scaled m e = n) :
    (Float.ofNat n).toModel.unpack = .finite .positive m e hm := by
  rcases Nat.lt_or_ge n (2 ^ 53) with hsmall | hlarge
  · exact unpack_ofNat_of_lt hm hheld hrange h hsmall
  · exact unpack_ofNat_of_le hm hheld hrange h hlarge

end WholeNumbers

/-- A whole number whose size is held in some form is converted without loss. -/
theorem ofFloat?_ofInt_of_isHeld {n : Int} {m : Nat} {e : Int} (hm : 0 < m) (hheld : IsHeld m e)
    (hrange : e ≤ 971) (h : scaled m e = n.natAbs) :
    ExactNumber.ofFloat? (Float.ofInt n) = some (.rational n) := by
  unfold ExactNumber.ofFloat?
  cases n with
  | ofNat k =>
    have hvalue : scaled m e = k := h
    show ExactNumber.ofUnpacked? (Float.ofNat k).toModel.unpack = _
    rw [unpack_ofNat hm hheld hrange hvalue]
    simp only [ExactNumber.ofUnpacked?, signed, hvalue]
    rfl
  | negSucc k =>
    have hvalue : scaled m e = (k + 1 : Nat) := h
    have hopposite : ((Int.negSucc k : Int) : ℚ) = -((k + 1 : Nat) : ℚ) := Int.cast_negSucc k
    -- The opposite is converted, and its sign is turned.
    show ExactNumber.ofUnpacked?
      (Float.Model.pack (Float.ofNat (k + 1)).toModel.unpack.neg).unpack = _
    rw [unpack_ofNat hm hheld hrange hvalue]
    show ExactNumber.ofUnpacked? (Float.Model.pack (.finite .negative m e hm)).unpack = _
    rw [unpack_pack_finite hheld hrange]
    simp only [ExactNumber.ofUnpacked?, signed, hvalue, hopposite]

/-- The size of the number that is held with a sign. -/
theorem abs_signed {s : Sign} {q : ℚ} (hq : 0 < q) : |signed s q| = q := by
  cases s with
  | positive => exact abs_of_pos hq
  | negative => rw [signed, abs_neg, abs_of_pos hq]

/-- A double that stands for a number other than zero holds its size in some form. -/
theorem exists_isHeld_of_ofFloat? {q : ℚ} {x : Float} (hq : q ≠ 0)
    (h : ExactNumber.ofFloat? x = some (.rational q)) :
    ∃ m e, 0 < m ∧ IsHeld m e ∧ e ≤ 971 ∧ scaled m e = |q| := by
  have hform : HoldsForm x.toModel.unpack := holdsForm_unpack x
  unfold ExactNumber.ofFloat? at h
  cases hunpack : x.toModel.unpack with
  | finite s m e hm =>
    rw [hunpack] at h hform
    simp only [ExactNumber.ofUnpacked?, Option.some.injEq, ExactNumber.rational.injEq] at h
    refine ⟨m, e, hm, hform.1, hform.2, ?_⟩
    rw [← h, abs_signed (scaled_pos hm e)]
  | zero s =>
    rw [hunpack] at h
    simp only [ExactNumber.ofUnpacked?, Option.some.injEq, ExactNumber.rational.injEq] at h
    exact absurd h.symm hq
  | infinity s =>
    rw [hunpack] at h
    simp [ExactNumber.ofUnpacked?] at h
  | notANumber =>
    rw [hunpack] at h
    simp [ExactNumber.ofUnpacked?] at h

/-- **A whole number that some double stands for is converted without loss.** -/
theorem ofFloat?_ofInt {n : Int} {x : Float} (h : ExactNumber.ofFloat? x = some (.rational n)) :
    ExactNumber.ofFloat? (Float.ofInt n) = some (.rational n) := by
  by_cases hzero : n = 0
  · subst hzero
    rfl
  · have hne : (n : ℚ) ≠ 0 := by exact_mod_cast hzero
    obtain ⟨m, e, hm, hheld, hrange, hsize⟩ := exists_isHeld_of_ofFloat? hne h
    refine ofFloat?_ofInt_of_isHeld hm hheld hrange ?_
    rw [hsize, Nat.cast_natAbs, Int.cast_abs]

/-- A whole number of at most 53 digits is converted without loss: zeros are written behind its digits
    until the mantissa has all of its own. -/
theorem ofFloat?_ofInt_of_log2_lt {n : Int} (hpos : 0 < n.natAbs) (hlog : n.natAbs.log2 < 53) :
    ExactNumber.ofFloat? (Float.ofInt n) = some (.rational n) := by
  have hdigits : (n.natAbs * 2 ^ (52 - n.natAbs.log2)).log2 = 52 := by
    rw [log2_mul_two_pow hpos]
    omega
  have hback : -((52 - n.natAbs.log2 : Nat) : Int) + (52 - n.natAbs.log2 : Nat) = 0 := by omega
  have hheld : IsHeld (n.natAbs * 2 ^ (52 - n.natAbs.log2)) (-((52 - n.natAbs.log2 : Nat) : Int)) :=
    isHeld_of_log2 hdigits (by omega)
  refine ofFloat?_ofInt_of_isHeld (by positivity) hheld (by omega) ?_
  rw [scaled_shift, hback]
  exact scaled_zero n.natAbs

/-- **A whole number up to `2^53` is converted without loss.** -/
theorem ofFloat?_ofInt_of_natAbs_le {n : Int} (h : n.natAbs ≤ 2 ^ 53) :
    ExactNumber.ofFloat? (Float.ofInt n) = some (.rational n) := by
  rcases Nat.eq_zero_or_pos n.natAbs with hzero | hpos
  · obtain rfl : n = 0 := Int.natAbs_eq_zero.mp hzero
    rfl
  rcases Nat.lt_or_eq_of_le h with hlt | heq
  · exact ofFloat?_ofInt_of_log2_lt hpos ((Nat.log2_lt hpos.ne').mpr hlt)
  · have hlog : (2 ^ 52 : Nat).log2 = 52 := by decide
    refine ofFloat?_ofInt_of_isHeld (m := 2 ^ 52) (e := 1) (by positivity)
      (isHeld_of_log2 hlog (by omega)) (by omega) ?_
    rw [heq]
    norm_num [scaled]

end GraphFilter
