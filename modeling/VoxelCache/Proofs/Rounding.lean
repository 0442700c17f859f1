import VoxelCache.Single
import Mathlib.Algebra.Group.Nat.Defs

/-!
# Rounding to single precision

Slots and zoom steps are shown as single-precision numbers.  Such a number holds the integers for
which 24 significant bits suffice.  All others are rounded.

**Results.**
* `round_eq_self_iff`: exactly the integers that are held are not changed by rounding.
* `round_nearest`: no integer that is held is closer than the rounded one.
-/

namespace VoxelCache

section Rounding

namespace Single

/-- Whether 24 significant bits suffice for an integer. -/
def Holds (n : Int) : Prop :=
  ∃ significand place,
    significand < placeValue (fractionBits + 1) ∧ n.natAbs = significand * placeValue place

theorem placeValue_eq (place : Nat) : placeValue place = 2 ^ place := by
  rw [placeValue, Nat.one_shiftLeft]

theorem placeValue_add (m n : Nat) :
    placeValue (m + n) = placeValue m * placeValue n := by
  simp only [placeValue_eq, Nat.pow_add]

theorem placeValue_pos (place : Nat) : 0 < placeValue place := by
  rw [placeValue_eq]
  exact Nat.two_pow_pos place

/-- A number is below the value of the bit that follows its leading one. -/
theorem lt_placeValue_log2 (n : Nat) :
    n < placeValue (fractionBits + 1) * placeValue (n.log2 - fractionBits) := by
  rw [← placeValue_add, placeValue_eq]
  exact Nat.lt_of_lt_of_le Nat.lt_log2_self (Nat.pow_le_pow_right (by decide) (by omega))

/-- The places that are rounded away do not matter to a number that has few significant bits. -/
theorem placeValue_dvd
    {n significand place : Nat}
    (hn : n ≠ 0)
    (hsignificand : significand < placeValue (fractionBits + 1))
    (h : n = significand * placeValue place) :
    placeValue (n.log2 - fractionBits) ∣ n := by
  have hlt : n < 2 ^ (fractionBits + 1 + place) := by
    rw [← placeValue_eq, placeValue_add, h]
    exact Nat.mul_lt_mul_of_pos_right hsignificand (placeValue_pos place)
  have hlog : n.log2 < fractionBits + 1 + place := (Nat.log2_lt hn).mpr hlt
  have hplace : placeValue (n.log2 - fractionBits) ∣ placeValue place := by
    rw [placeValue_eq, placeValue_eq]
    exact Nat.pow_dvd_pow 2 (by omega)
  rw [h] at hplace ⊢
  exact Nat.dvd_mul_left_of_dvd hplace significand

theorem shiftRounded_of_dvd
    {n place : Nat}
    (h : placeValue place ∣ n) :
    shiftRounded n place = n / placeValue place := by
  have hrest : n % placeValue place = 0 := Nat.mod_eq_zero_of_dvd h
  have hpos := placeValue_pos place
  rw [shiftRounded, hrest, if_neg (by omega)]

/-- Rounding keeps a natural number exactly if few significant bits suffice for it. -/
theorem roundNat_eq_self_iff {n : Nat} :
    roundNat n = n ↔ Holds n := by
  constructor
  · intro h
    refine ⟨shiftRounded n (n.log2 - fractionBits), n.log2 - fractionBits, ?_, h.symm⟩
    have hlt : roundNat n <
        placeValue (fractionBits + 1) * placeValue (n.log2 - fractionBits) := by
      rw [h]
      exact lt_placeValue_log2 n
    exact Nat.lt_of_mul_lt_mul_right hlt
  · rintro ⟨significand, place, hsignificand, h⟩
    by_cases hn : n = 0
    · subst hn
      rfl
    · have hdvd := placeValue_dvd hn hsignificand h
      rw [roundNat, shiftRounded_of_dvd hdvd]
      exact Nat.div_mul_cancel hdvd

/-- Single precision keeps an integer exactly if few significant bits suffice for it. -/
theorem round_eq_self_iff {n : Int} :
    round n = n ↔ Holds n := by
  have hnat : Holds n ↔ Holds n.natAbs := Iff.rfl
  rw [hnat, ← roundNat_eq_self_iff, round]
  constructor
  · intro h
    by_cases hn : n = 0
    · subst hn
      rfl
    · have habs := congrArg Int.natAbs h
      rw [Int.natAbs_mul, Int.natAbs_sign_of_ne_zero hn, Nat.one_mul] at habs
      exact habs
  · intro h
    rw [h]
    exact Int.sign_mul_natAbs n

/-- A number that is rounded has no significant places left below its leading ones. -/
theorem dvd_or_lt_of_holds
    {n k : Nat}
    (hk : Holds k) :
    placeValue (n.log2 - fractionBits) ∣ k ∨
      k < placeValue fractionBits * placeValue (n.log2 - fractionBits) ∧
        placeValue fractionBits * placeValue (n.log2 - fractionBits) ≤ n := by
  obtain ⟨significand, place, hsignificand, hvalue⟩ := hk
  rw [Int.natAbs_natCast] at hvalue
  by_cases hplace : n.log2 - fractionBits ≤ place
  · left
    rw [hvalue, placeValue_eq, placeValue_eq]
    exact Nat.dvd_mul_left_of_dvd (Nat.pow_dvd_pow 2 hplace) significand
  · right
    constructor
    · calc k = significand * placeValue place := hvalue
        _ < placeValue (fractionBits + 1) * placeValue place :=
            Nat.mul_lt_mul_of_pos_right hsignificand (placeValue_pos place)
        _ = placeValue (fractionBits + 1 + place) := (placeValue_add _ _).symm
        _ ≤ placeValue (fractionBits + (n.log2 - fractionBits)) := by
            rw [placeValue_eq, placeValue_eq]
            exact Nat.pow_le_pow_right (by decide) (by omega)
        _ = placeValue fractionBits * placeValue (n.log2 - fractionBits) := placeValue_add _ _
    · have hn : n ≠ 0 := by
        rintro rfl
        exact hplace (Nat.zero_le _)
      have hlog : fractionBits + (n.log2 - fractionBits) = n.log2 := by omega
      rw [← placeValue_add, hlog, placeValue_eq]
      exact Nat.log2_self_le hn

/-- A rounded number is as close as the multiples of the place value on both sides. -/
theorem roundNat_close (n : Nat) :
    let step := placeValue (n.log2 - fractionBits)
    ((roundNat n : Int) - n).natAbs ≤ n % step ∧
      ((roundNat n : Int) - n).natAbs ≤ step - n % step := by
  intro step
  have hrest : n % step < step := Nat.mod_lt n (placeValue_pos _)
  have hparts : n / step * step + n % step = n := Nat.div_add_mod' n step
  have hround : roundNat n = shiftRounded n (n.log2 - fractionBits) * step := rfl
  rw [hround, shiftRounded]
  split
  · rename_i hup
    have hsucc : (n / step + 1) * step = n / step * step + step := Nat.succ_mul _ _
    have hhalf : step ≤ 2 * (n % step) := by
      rcases hup with hup | ⟨hup, _⟩
      · exact Nat.le_of_lt hup
      · exact Nat.le_of_eq hup.symm
    show (((n / step + 1) * step : Nat) - (n : Int)).natAbs ≤ n % step ∧
      (((n / step + 1) * step : Nat) - (n : Int)).natAbs ≤ step - n % step
    rw [hsucc]
    omega
  · rename_i hdown
    have hhalf : 2 * (n % step) ≤ step := Nat.le_of_not_lt fun hup => hdown (.inl hup)
    show ((n / step * step : Nat) - (n : Int)).natAbs ≤ n % step ∧
      ((n / step * step : Nat) - (n : Int)).natAbs ≤ step - n % step
    generalize n / step * step = low at hparts ⊢
    omega

/-- No number with few significant bits is closer than the rounded one. -/
theorem roundNat_nearest
    {n k : Nat}
    (hk : Holds k) :
    ((roundNat n : Int) - n).natAbs ≤ ((k : Int) - n).natAbs := by
  let step := placeValue (n.log2 - fractionBits)
  obtain ⟨hbelow, habove⟩ := roundNat_close n
  have hparts : step * (n / step) + n % step = n := Nat.div_add_mod n step
  rcases dvd_or_lt_of_holds (n := n) hk with ⟨quotient, rfl⟩ | ⟨hlt, hle⟩
  · rcases Nat.lt_or_ge (n / step) quotient with hlarge | hsmall
    · have hnext : step * (n / step + 1) ≤ step * quotient := Nat.mul_le_mul_left step hlarge
      rw [Nat.mul_succ] at hnext
      refine Nat.le_trans habove ?_
      show step - n % step ≤ (((step * quotient : Nat) : Int) - n).natAbs
      omega
    · have hback : step * quotient ≤ step * (n / step) := Nat.mul_le_mul_left step hsmall
      refine Nat.le_trans hbelow ?_
      show n % step ≤ (((step * quotient : Nat) : Int) - n).natAbs
      omega
  · have hquotient : placeValue fractionBits ≤ n / step :=
      (Nat.le_div_iff_mul_le (placeValue_pos _)).mpr hle
    have hlead : placeValue fractionBits * step ≤ step * (n / step) := by
      rw [Nat.mul_comm]
      exact Nat.mul_le_mul_left step hquotient
    have hk' : k < placeValue fractionBits * step := hlt
    refine Nat.le_trans hbelow ?_
    show n % step ≤ ((k : Int) - n).natAbs
    omega

/-- No integer with few significant bits is closer than the rounded one. -/
theorem round_nearest
    {n k : Int}
    (hk : Holds k) :
    (round n - n).natAbs ≤ (k - n).natAbs := by
  have hnat := roundNat_nearest (n := n.natAbs) (k := k.natAbs) hk
  have hround : round n = n.sign * roundNat n.natAbs := rfl
  rcases Int.lt_trichotomy n 0 with hneg | rfl | hpos
  · rw [Int.sign_eq_neg_one_of_neg hneg] at hround
    omega
  · exact Nat.zero_le _
  · rw [Int.sign_eq_one_of_pos hpos] at hround
    omega

/-- 24 bits suffice for every number below the value of the next one. -/
theorem holds_of_natAbs_lt
    {n : Int}
    (h : n.natAbs < placeValue (fractionBits + 1)) :
    Holds n :=
  ⟨n.natAbs, 0, h, (Nat.mul_one _).symm⟩

end Single

end Rounding

end VoxelCache
