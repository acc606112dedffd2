import Mathlib.Tactic.Positivity
import Mathlib.Tactic.Ring
import SchemaDraft.Number.Shortest

/-!
What the rounding of quotients and of decimals to binary numbers depends on. Equal quotients have
the same nearest rank, a magnitude of the format is nearest to itself, and moving zeros between the
digits and the power of ten of a decimal changes nothing. Hence the decimal that is taken for a
number is one that rounds to it.
-/

namespace SchemaDraft

namespace BinaryFormat

theorem roundQuotient_mul_right {k : Nat} (n d : Nat) (hk : 0 < k) :
    roundQuotient (n * k) (d * k) = roundQuotient n d := by
  have htwice : 2 * (n * k % (d * k)) = 2 * (n % d) * k := by
    rw [Nat.mul_mod_mul_right, Nat.mul_assoc]
  have hlt : 2 * (n % d) * k < d * k ↔ 2 * (n % d) < d := Nat.mul_lt_mul_right hk
  have heq : 2 * (n % d) * k = d * k ↔ 2 * (n % d) = d := Nat.mul_left_inj (by omega)
  simp only [roundQuotient, Nat.mul_div_mul_right n d hk, htwice, Bool.or_eq_true,
    Bool.and_eq_true, decide_eq_true_eq, beq_iff_eq, hlt, heq]

theorem roundQuotient_mul_self {d : Nat} (q : Nat) (hd : 0 < d) :
    roundQuotient (q * d) d = q := by
  simp [roundQuotient, Nat.mul_div_cancel q hd, hd]

variable (f : BinaryFormat)

theorem nearestRank_mul_right {k : Nat} (n d : Nat) (hk : 0 < k) :
    f.nearestRank (n * k) (d * k) = f.nearestRank n d := by
  have hunits : n * k * Nat.pow 2 f.scale = n * Nat.pow 2 f.scale * k := Nat.mul_right_comm ..
  have hstep (step : Nat) : d * k * step = d * step * k := Nat.mul_right_comm ..
  simp only [nearestRank, hunits, hstep, Nat.mul_div_mul_right _ d hk,
    roundQuotient_mul_right _ _ hk]

/-- Equal quotients, of which each may be extended to the product of the denominators. -/
theorem nearestRank_congr {n d m c : Nat} (h : n * c = m * d) (hd : 0 < d) (hc : 0 < c) :
    f.nearestRank n d = f.nearestRank m c := by
  calc f.nearestRank n d
    _ = f.nearestRank (n * c) (d * c) := (f.nearestRank_mul_right n d hc).symm
    _ = f.nearestRank (m * d) (c * d) := by rw [h, Nat.mul_comm d c]
    _ = f.nearestRank m c := f.nearestRank_mul_right m c hd

/-- The nearest rank of a whole number of units that fits into `shift` binades. -/
private theorem nearestRank_units {significand shift : Nat}
    (hshift : (significand * 2 ^ shift).log2 - f.fraction = shift) :
    f.nearestRank (significand * 2 ^ shift) (2 ^ f.scale) =
      shift * 2 ^ f.fraction + significand := by
  have hunits : significand * 2 ^ shift * 2 ^ f.scale / 2 ^ f.scale = significand * 2 ^ shift :=
    Nat.mul_div_cancel _ (by positivity)
  have hround : roundQuotient (significand * 2 ^ shift * 2 ^ f.scale) (2 ^ f.scale * 2 ^ shift) =
      significand := by
    rw [Nat.mul_assoc, Nat.mul_comm (2 ^ shift)]
    exact roundQuotient_mul_self significand (by positivity)
  simp only [nearestRank, Nat.pow_eq, hunits, hshift, hround]

theorem nearestRank_magnitude (rank : Nat) :
    f.nearestRank (f.magnitude rank) (2 ^ f.scale) = rank := by
  have hbinade : 0 < 2 ^ f.fraction := by positivity
  by_cases hrank : rank < 2 ^ f.fraction
  · -- below the first binade the rank is the number of units
    have hlog : rank.log2 - f.fraction = 0 := by
      by_cases hzero : rank = 0
      · simp [hzero]
      · have hlt := (Nat.log2_lt hzero).mpr hrank
        omega
    have hmagnitude : f.magnitude rank = rank * 2 ^ 0 := by simp [magnitude, hrank]
    rw [hmagnitude, f.nearestRank_units (by simpa using hlog)]
    omega
  · set q := rank / 2 ^ f.fraction with hq
    set r := rank % 2 ^ f.fraction with hr
    have hrlt : r < 2 ^ f.fraction := Nat.mod_lt _ hbinade
    have hqpos : 1 ≤ q := (Nat.one_le_div_iff hbinade).mpr (by omega)
    have hsum : 2 ^ f.fraction * q + r = rank := Nat.div_add_mod ..
    have hlog : ((2 ^ f.fraction + r) * 2 ^ (q - 1)).log2 = f.fraction + (q - 1) := by
      rw [Nat.log2_eq_iff (by positivity)]
      constructor
      · rw [pow_add]
        exact Nat.mul_le_mul_right _ (by omega)
      · rw [show f.fraction + (q - 1) + 1 = (f.fraction + 1) + (q - 1) by omega, pow_add]
        exact Nat.mul_lt_mul_of_pos_right (by rw [pow_succ]; omega) (by positivity)
    have hmagnitude : f.magnitude rank = (2 ^ f.fraction + r) * 2 ^ (q - 1) := by
      simp [magnitude, hrank, ← hq, ← hr]
    have hq' : 2 ^ f.fraction * q = (q - 1) * 2 ^ f.fraction + 2 ^ f.fraction := by
      rw [Nat.mul_comm, ← Nat.succ_mul, Nat.succ_eq_add_one, Nat.sub_add_cancel hqpos]
    rw [hmagnitude, f.nearestRank_units (by omega)]
    omega

theorem eq_zero_of_magnitude {rank : Nat} (h : f.magnitude rank = 0) : rank = 0 := by
  rw [← f.nearestRank_magnitude rank, h]
  simp [nearestRank, roundQuotient]

theorem magnitude_lt (rank : Nat) :
    f.magnitude rank < 2 ^ (f.fraction + rank / 2 ^ f.fraction + 1) := by
  have hbinade : 0 < 2 ^ f.fraction := by positivity
  simp only [magnitude, Nat.pow_eq]
  split
  case isTrue h =>
    exact h.trans_le (Nat.pow_le_pow_right (by decide)
      (Nat.le_succ_of_le (Nat.le_add_right f.fraction _)))
  case isFalse h =>
    have hq : 1 ≤ rank / 2 ^ f.fraction := (Nat.one_le_div_iff hbinade).mpr (by omega)
    have hr : rank % 2 ^ f.fraction < 2 ^ f.fraction := Nat.mod_lt _ hbinade
    calc (2 ^ f.fraction + rank % 2 ^ f.fraction) * 2 ^ (rank / 2 ^ f.fraction - 1)
      _ < 2 ^ (f.fraction + 1) * 2 ^ (rank / 2 ^ f.fraction - 1) :=
        Nat.mul_lt_mul_of_pos_right (by rw [pow_succ]; omega) (by positivity)
      _ = 2 ^ (f.fraction + rank / 2 ^ f.fraction) := by
        rw [← pow_add]
        congr 1
        omega
      _ ≤ 2 ^ (f.fraction + rank / 2 ^ f.fraction + 1) :=
        Nat.pow_le_pow_right (by decide) (by omega)

end BinaryFormat

namespace Decimal

theorem length_toDigits_mul_pow {n : Nat} (k : Nat) (hn : 0 < n) :
    (Nat.toDigits 10 (n * 10 ^ k)).length = (Nat.toDigits 10 n).length + k := by
  induction k with
  | zero => simp
  | succ k ih =>
    have hpos : 0 < n * 10 ^ k := by positivity
    have hdigits := Nat.toDigits_append_toDigits (b := 10) (d := 0) (by decide) hpos (by decide)
    rw [show n * 10 ^ (k + 1) = 10 * (n * 10 ^ k) + 0 by ring, ← hdigits, List.length_append, ih]
    simp
    omega

/-- A decimal within the computed exponents rounds as the quotient it is. -/
theorem nearestRank_of_width {f : BinaryFormat} {negative : Bool} {n least most : Nat}
    {exponent : Int} (hleast : 10 ^ least ≤ n) (hmost : n < 10 ^ most)
    (hlow : -computedExponents ≤ least + 1 + exponent)
    (hhigh : most + exponent ≤ computedExponents) :
    nearestRank f ⟨negative, n, exponent⟩ =
      f.nearestRank (n * 10 ^ exponent.toNat) (10 ^ (-exponent).toNat) := by
  have hzero : n ≠ 0 := (Nat.pow_pos (by decide)).trans_le hleast |>.ne'
  have hmore : least < (Nat.toDigits 10 n).length := by
    by_contra hshort
    have hpos : 0 < least := by
      have hlength := Nat.length_toDigits_pos (b := 10) (n := n)
      omega
    exact absurd hleast (Nat.not_le.mpr
      ((Nat.length_toDigits_le_iff (by decide) hpos).mp (Nat.not_lt.mp hshort)))
  have hless : (Nat.toDigits 10 n).length ≤ most := by
    have hpos : 0 < most := by
      rcases Nat.eq_zero_or_pos most with rfl | hpos
      · simp at hmost
        exact absurd hmost hzero
      · exact hpos
    exact (Nat.length_toDigits_le_iff (by decide) hpos).mpr hmost
  have hnotLow : ¬ ((Nat.toDigits 10 n).length : Int) + exponent < -computedExponents := by omega
  have hnotHigh : ¬ ((Nat.toDigits 10 n).length : Int) + exponent > computedExponents := by omega
  simp [nearestRank, hzero, hnotLow, hnotHigh]

/-- A whole number of units of `2 ^ -scale`, written with all its digits after the point. -/
theorem nearestRank_mul_five {f : BinaryFormat} (negative : Bool) {n scale least most : Nat}
    (hleast : 10 ^ least ≤ n * Nat.pow 5 scale) (hmost : n * Nat.pow 5 scale < 10 ^ most)
    (hlow : -computedExponents ≤ least + 1 + -(scale : Int))
    (hhigh : most + -(scale : Int) ≤ computedExponents) :
    nearestRank f ⟨negative, n * Nat.pow 5 scale, -scale⟩ = f.nearestRank n (2 ^ scale) := by
  have hnone : (-(scale : Int)).toNat = 0 := by omega
  have hcross : n * Nat.pow 5 scale * 10 ^ 0 * 2 ^ scale = n * 10 ^ scale := by
    rw [show 10 = 5 * 2 from rfl, pow_zero, Nat.mul_one, Nat.mul_assoc, mul_pow, Nat.pow_eq]
  rw [nearestRank_of_width hleast hmost hlow hhigh, hnone, neg_neg, Int.toNat_natCast]
  exact f.nearestRank_congr hcross (by positivity) (by positivity)

/-- Zeros at the end of the digits may be counted in the power of ten. -/
theorem nearestRank_mul_pow (f : BinaryFormat) (negative : Bool) (n k : Nat) (exponent : Int) :
    nearestRank f ⟨negative, n * 10 ^ k, exponent⟩ = nearestRank f ⟨negative, n, exponent + k⟩ := by
  rcases Nat.eq_zero_or_pos n with rfl | hn
  · simp [nearestRank]
  · have hzero : n * 10 ^ k ≠ 0 := by positivity
    have hwidth : ((Nat.toDigits 10 (n * 10 ^ k)).length : Int) + exponent =
        (Nat.toDigits 10 n).length + (exponent + k) := by
      rw [length_toDigits_mul_pow k hn]
      omega
    have hcross : n * 10 ^ k * 10 ^ exponent.toNat * 10 ^ (-(exponent + k)).toNat =
        n * 10 ^ (exponent + k).toNat * 10 ^ (-exponent).toNat := by
      simp only [Nat.mul_assoc, ← pow_add]
      congr 2
      omega
    have hquotient := f.nearestRank_congr hcross (by positivity) (by positivity)
    simp only [nearestRank, hzero, hn.ne', hwidth, Nat.pow_eq, hquotient]

end Decimal

namespace Binary64

theorem toBinary64_of_onGrid? {tie : Tie} {x : Binary64} {n d digits : Nat} {exponent : Int}
    (h : onGrid? tie x n d exponent = some digits) :
    (Decimal.mk false digits exponent).toBinary64 = x := by
  simp only [onGrid?] at h
  generalize gridFloor n d exponent = floor at h
  obtain ⟨low, rest, step⟩ := floor
  dsimp only at h
  split at h
  case h_1 => cases h
  case h_2 hlow _ =>
    obtain rfl := Option.some.inj h
    exact beq_iff_eq.mp hlow
  case h_3 _ hhigh =>
    obtain rfl := Option.some.inj h
    exact beq_iff_eq.mp hhigh
  case h_4 hlow hhigh =>
    -- both neighbours read back, and whichever is taken is one of them
    have htaken : digits = low ∨ digits = low + 1 := by
      split at h
      · exact .inl (Option.some.inj h).symm
      · split at h
        · exact .inr (Option.some.inj h).symm
        · cases tie with
          | up => exact .inr (Option.some.inj h).symm
          | even =>
            have heven := Option.some.inj h
            split at heven
            · exact .inl heven.symm
            · exact .inr heven.symm
    rcases htaken with rfl | rfl
    · exact beq_iff_eq.mp hlow
    · exact beq_iff_eq.mp hhigh

theorem toBinary64_of_searchGrids {tie : Tie} {x : Binary64} {n d fuel : Nat} {exponent : Int}
    {found : Nat × Int} (h : searchGrids tie x n d fuel exponent = some found) :
    (Decimal.mk false found.1 found.2).toBinary64 = x := by
  induction fuel generalizing exponent with
  | zero => cases h
  | succ fuel ih =>
    simp only [searchGrids] at h
    split at h
    case h_1 hgrid =>
      obtain rfl := Option.some.inj h
      exact toBinary64_of_onGrid? hgrid
    case h_2 => exact ih h

/-- All digits of the exact value of a number are a decimal that rounds to it. -/
private theorem nearestRank_exact (negative : Bool) (rank : Fin BinaryFormat.double.ranks)
    (hpos : 0 < BinaryFormat.double.magnitude rank) :
    Decimal.nearestRank .double
      ⟨negative, BinaryFormat.double.magnitude rank * Nat.pow 5 BinaryFormat.double.scale,
        -BinaryFormat.double.scale⟩ = rank := by
  have hbinade : rank.val / 2 ^ 52 ≤ 2046 := by
    have hlt : rank.val < 2047 * 2 ^ 52 := rank.isLt
    omega
  have hexponent : 52 + rank.val / 2 ^ 52 + 1 ≤ 2099 := by omega
  have hupper := (BinaryFormat.double.magnitude_lt rank).trans_le
    (Nat.pow_le_pow_right (n := 2) (by decide) hexponent)
  have hfive (k : Nat) : 0 < Nat.pow 5 k := Nat.pow_pos (by decide)
  have hrank := BinaryFormat.double.nearestRank_magnitude rank
  generalize BinaryFormat.double.magnitude rank = n at hpos hupper hrank ⊢
  have hleast : 10 ^ 673 ≤ n * Nat.pow 5 BinaryFormat.double.scale :=
    calc 10 ^ 673
      _ ≤ 1 * Nat.pow 5 BinaryFormat.double.scale := by decide +kernel
      _ ≤ n * Nat.pow 5 BinaryFormat.double.scale := Nat.mul_le_mul_right _ hpos
  have hmost : n * Nat.pow 5 BinaryFormat.double.scale < 10 ^ 1474 :=
    calc n * Nat.pow 5 BinaryFormat.double.scale
      _ < 2 ^ 2099 * Nat.pow 5 BinaryFormat.double.scale :=
        Nat.mul_lt_mul_of_pos_right hupper (hfive _)
      _ ≤ 10 ^ 1474 := by decide +kernel
  exact (Decimal.nearestRank_mul_five negative hleast hmost (by decide) (by decide)).trans hrank

/-- The shortest decimal of a number rounds to the number. -/
theorem nearestRank_shortest (tie : Tie) (negative : Bool)
    (rank : Fin BinaryFormat.double.ranks) :
    Decimal.nearestRank .double ⟨negative, (shortest tie rank).1, (shortest tie rank).2⟩ =
      rank := by
  simp only [shortest]
  split
  case isTrue hzero =>
    have hrank := BinaryFormat.double.eq_zero_of_magnitude hzero
    simp only [Decimal.nearestRank, hrank, decide_true, Bool.true_or, if_true]
  case isFalse hzero =>
    split
    case h_1 found hfound =>
      have hread := toBinary64_of_searchGrids hfound
      simp only [Decimal.toBinary64, ofRank] at hread
      split at hread
      · exact congrArg Fin.val (Binary64.finite.inj hread).2
      · cases hread
    case h_2 => exact nearestRank_exact negative rank (Nat.pos_of_ne_zero hzero)

end Binary64

end SchemaDraft
