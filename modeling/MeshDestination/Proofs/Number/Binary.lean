import Mathlib.Algebra.Order.Field.Power
import Mathlib.Tactic.Linarith
import Mathlib.Tactic.Positivity
import Mathlib.Tactic.Ring
import MeshDestination.Number.Binary

/-!
# Numbers that compare equal

Binary numbers are compared by what they are worth (`Binary.beq_iff`), so that comparison is
symmetric and transitive, and holds of a number and itself unless it is not a number. Among the
numbers of a format two that compare equal are one and the same, but for zeros
(`Binary.eq_or_isZero_of_beq`). Rounding to a format leaves its numbers as they are
(`Binary.toFormat_of_isOf`).
-/

namespace MeshDestination.Number.Binary

/-- What a number is worth: a fraction, or an infinity of a sign. -/
def worth? : Binary → Option (Bool ⊕ ℚ)
  | .nan => none
  | .infinite negative => some (.inl negative)
  | .finite negative m e => some (.inr (if negative then -(m * 2 ^ e) else m * 2 ^ e))

/-! ## Comparison -/

theorem powTwo_eq (e : Int) : ((powTwo e).1 : ℚ) = 2 ^ e * (powTwo e).2 := by
  unfold powTwo
  split
  · next he =>
    obtain ⟨n, rfl⟩ := Int.eq_ofNat_of_zero_le he
    simp [Nat.one_shiftLeft]
  · next he =>
    obtain ⟨n, rfl⟩ : ∃ n : Nat, e = -n := ⟨(-e).toNat, by omega⟩
    simp [Nat.one_shiftLeft]

theorem powTwo_snd_pos (e : Int) : 0 < (powTwo e).2 := by
  unfold powTwo
  split
  · exact Nat.one_pos
  · rw [Nat.one_shiftLeft]
    exact Nat.two_pow_pos _

/-- Fractions are compared by multiplying across. -/
theorem ratio_cross_iff (m n : Nat) (e d : Int) :
    (ratio m e).1 * (ratio n d).2 = (ratio n d).1 * (ratio m e).2 ↔
      (m : ℚ) * 2 ^ e = n * 2 ^ d := by
  have he : ((powTwo e).2 : ℚ) ≠ 0 := Nat.cast_ne_zero.mpr (powTwo_snd_pos e).ne'
  have hd : ((powTwo d).2 : ℚ) ≠ 0 := Nat.cast_ne_zero.mpr (powTwo_snd_pos d).ne'
  unfold ratio
  rw [← Nat.cast_inj (R := ℚ)]
  push_cast
  rw [powTwo_eq e, powTwo_eq d]
  constructor
  · intro h
    have h : (m * 2 ^ e : ℚ) * ((powTwo e).2 * (powTwo d).2) =
        (n * 2 ^ d : ℚ) * ((powTwo e).2 * (powTwo d).2) := by linarith
    exact mul_right_cancel₀ (mul_ne_zero he hd) h
  · intro h
    calc (m * (2 ^ e * (powTwo e).2) * (powTwo d).2 : ℚ)
        = (m * 2 ^ e) * ((powTwo e).2 * (powTwo d).2) := by ring
      _ = (n * 2 ^ d) * ((powTwo e).2 * (powTwo d).2) := by rw [h]
      _ = n * (2 ^ d * (powTwo d).2) * (powTwo e).2 := by ring

/-- Magnitudes with a sign are the same if both are zero or nothing differs. -/
theorem signed_eq_iff {s t : Bool} {x y : ℚ} (hx : 0 ≤ x) (hy : 0 ≤ y) :
    (if s then -x else x) = (if t then -y else y) ↔ x = 0 ∧ y = 0 ∨ s = t ∧ x = y := by
  cases s <;> cases t <;> simp <;> grind

/-- Finite numbers are compared by what they are worth. -/
theorem beq_finite_iff {s t : Bool} {m n : Nat} {e d : Int} :
    (finite s m e).beq (finite t n d) = true ↔
      m = 0 ∧ n = 0 ∨ s = t ∧ (m : ℚ) * 2 ^ e = n * 2 ^ d := by
  rw [← ratio_cross_iff, beq]
  by_cases hzero : m = 0 ∧ n = 0
  · simp [hzero]
  · simp [hzero]

theorem magnitude_eq_zero_iff (m : Nat) (e : Int) : (m : ℚ) * 2 ^ e = 0 ↔ m = 0 := by
  rw [mul_eq_zero, Nat.cast_eq_zero, or_iff_left (zpow_ne_zero e two_ne_zero)]

/-- Numbers compare equal if they are worth the same. -/
theorem beq_iff {x y : Binary} : x.beq y = true ↔ ∃ v, x.worth? = some v ∧ y.worth? = some v := by
  cases x with
  | nan => simp [beq, worth?]
  | infinite s =>
    cases y with
    | nan => simp [beq, worth?]
    | infinite t => simp [beq, worth?, eq_comm (a := t)]
    | finite t n d => simp [beq, worth?]
  | finite s m e =>
    cases y with
    | nan => simp [beq, worth?]
    | infinite t => simp [beq, worth?]
    | finite t n d =>
      have hm : (0 : ℚ) ≤ m * 2 ^ e := by positivity
      have hn : (0 : ℚ) ≤ n * 2 ^ d := by positivity
      rw [beq_finite_iff, ← magnitude_eq_zero_iff m e, ← magnitude_eq_zero_iff n d,
        ← signed_eq_iff hm hn]
      simp [worth?, eq_comm]

/-- A number compares equal to itself unless it is not a number. -/
theorem beq_self (x : Binary) : x.beq x = !x.isNaN := by
  rw [Bool.eq_iff_iff, beq_iff]
  cases x <;> simp [worth?, isNaN]

theorem beq_symm {x y : Binary} (h : x.beq y = true) : y.beq x = true := by
  obtain ⟨v, hx, hy⟩ := beq_iff.mp h
  exact beq_iff.mpr ⟨v, hy, hx⟩

theorem beq_trans {x y z : Binary} (h : x.beq y = true) (h' : y.beq z = true) :
    x.beq z = true := by
  obtain ⟨v, hx, hy⟩ := beq_iff.mp h
  obtain ⟨w, hy', hz⟩ := beq_iff.mp h'
  cases hy.symm.trans hy'
  exact beq_iff.mpr ⟨v, hx, hz⟩

/-! ## Numbers of a format -/

/-- A number of a format: a finite one that is not zero has a significand and an exponent within
bounds, and a significand with a leading bit unless its exponent is the smallest. -/
def IsOf (f : Format) : Binary → Prop
  | .nan => True
  | .infinite _ => True
  | .finite _ m e => m = 0 ∨
      m < 2 ^ f.bits ∧ f.minExponent ≤ e ∧ e ≤ f.maxExponent ∧
        (2 ^ (f.bits - 1) ≤ m ∨ e = f.minExponent)

/-- Of two significands that are worth the same the one with the lower exponent is the larger. -/
theorem significand_eq_of_le {m n : Nat} {e d : Int} (hed : e ≤ d)
    (h : (m : ℚ) * 2 ^ e = n * 2 ^ d) : m = n * 2 ^ (d - e).toNat := by
  obtain ⟨k, rfl⟩ : ∃ k : Nat, d = e + k := ⟨(d - e).toNat, by omega⟩
  have hpow : (2 : ℚ) ^ e ≠ 0 := zpow_ne_zero e two_ne_zero
  rw [zpow_add₀ two_ne_zero, zpow_natCast, mul_comm ((2 : ℚ) ^ e), ← mul_assoc] at h
  have hmn : (m : ℚ) = n * 2 ^ k := mul_right_cancel₀ hpow h
  rw [add_sub_cancel_left, Int.toNat_natCast]
  exact_mod_cast hmn

/-- Numbers of a format that are worth the same have the same exponent. -/
theorem exponent_le_of_isOf {f : Format} {s t : Bool} {m n : Nat} {e d : Int}
    (hm : (finite s m e).IsOf f) (hn : (finite t n d).IsOf f) (hne : n ≠ 0)
    (h : (m : ℚ) * 2 ^ e = n * 2 ^ d) : d ≤ e := by
  by_contra hlt
  have hlt : e < d := not_le.mp hlt
  have hmn := significand_eq_of_le hlt.le h
  obtain ⟨k, hk⟩ : ∃ k : Nat, (d - e).toNat = k + 1 := ⟨(d - e).toNat - 1, by omega⟩
  have htwice : 2 * n ≤ m := by
    rw [hmn, hk, pow_succ]
    nlinarith [Nat.one_le_two_pow (n := k)]
  rcases hm with hm | ⟨hbits, hmin, -, -⟩
  · omega
  rcases hn with hn | ⟨-, -, -, hlead⟩
  · exact hne hn
  have hn : 2 ^ (f.bits - 1) ≤ n := hlead.resolve_right (by omega)
  have hpow : 2 ^ f.bits ≤ 2 * 2 ^ (f.bits - 1) := by
    rw [← pow_succ']
    exact Nat.pow_le_pow_right two_pos (by omega)
  omega

/-- Numbers of a format that compare equal are one and the same, but for zeros. -/
theorem eq_or_isZero_of_beq {f : Format} {x y : Binary} (hx : x.IsOf f) (hy : y.IsOf f)
    (h : x.beq y = true) : x = y ∨ x.isZero = true ∧ y.isZero = true := by
  cases x with
  | nan => simp [beq] at h
  | infinite s =>
    cases y with
    | infinite t => simp_all [beq]
    | nan => simp [beq] at h
    | finite t n d => simp [beq] at h
  | finite s m e =>
    cases y with
    | nan => simp [beq] at h
    | infinite t => simp [beq] at h
    | finite t n d =>
      rcases beq_finite_iff.mp h with ⟨rfl, rfl⟩ | ⟨rfl, hworth⟩
      · exact .inr ⟨rfl, rfl⟩
      by_cases hm : m = 0
      · subst hm
        have hn : n = 0 := by
          rw [Nat.cast_zero, zero_mul, eq_comm, magnitude_eq_zero_iff] at hworth
          exact hworth
        subst hn
        exact .inr ⟨rfl, rfl⟩
      have hn : n ≠ 0 := by
        rintro rfl
        rw [Nat.cast_zero, zero_mul, magnitude_eq_zero_iff] at hworth
        exact hm hworth
      have hed : e = d := le_antisymm (exponent_le_of_isOf hy hx hm hworth.symm)
        (exponent_le_of_isOf hx hy hn hworth)
      subst hed
      have hmn : m = n := by simpa using significand_eq_of_le le_rfl hworth
      rw [hmn]
      exact .inl rfl

/-! ## Rounding to a format -/

theorem le_roundHalfEven {num den bound : Nat} (hden : 0 < den) (h : bound * den ≤ num) :
    bound ≤ roundHalfEven num den := by
  have hq : bound ≤ num / den := (Nat.le_div_iff_mul_le hden).mpr h
  unfold roundHalfEven
  grind

theorem roundHalfEven_le {num den bound : Nat} (h : num < bound * den) :
    roundHalfEven num den ≤ bound := by
  have hq : num / den < bound := Nat.div_lt_of_lt_mul (by rwa [Nat.mul_comm])
  unfold roundHalfEven
  grind

/-- Scaled by a power of two, a fraction is compared with one by multiplying across. -/
theorem mul_powTwo_lt_iff (num den : Nat) (e : Int) :
    num * (powTwo e).2 < den * (powTwo e).1 ↔ (num : ℚ) < 2 ^ e * den := by
  have he : (0 : ℚ) < (powTwo e).2 := Nat.cast_pos.mpr (powTwo_snd_pos e)
  rw [← Nat.cast_lt (α := ℚ)]
  push_cast
  rw [powTwo_eq e, ← mul_assoc, mul_lt_mul_iff_left₀ he, mul_comm (den : ℚ)]

/-- The order of magnitude of a fraction is what it says. -/
theorem magnitude_bounds {num den : Nat} (hnum : num ≠ 0) (hden : den ≠ 0) :
    (2 : ℚ) ^ magnitude num den * den ≤ num ∧ num < (2 : ℚ) ^ (magnitude num den + 1) * den := by
  have hnum_le : (2 : ℚ) ^ (num.log2 : Int) ≤ num := by
    exact_mod_cast Nat.log2_self_le hnum
  have hnum_lt : (num : ℚ) < 2 ^ ((num.log2 : Int) + 1) := by
    exact_mod_cast Nat.lt_log2_self (n := num)
  have hden_le : (2 : ℚ) ^ (den.log2 : Int) ≤ den := by
    exact_mod_cast Nat.log2_self_le hden
  have hden_lt : (den : ℚ) < 2 ^ ((den.log2 : Int) + 1) := by
    exact_mod_cast Nat.lt_log2_self (n := den)
  unfold magnitude
  simp only [mul_powTwo_lt_iff]
  generalize hg : (num.log2 : Int) - den.log2 = g
  split
  · next hlt =>
    refine ⟨?_, by rwa [sub_add_cancel]⟩
    calc (2 : ℚ) ^ (g - 1) * den ≤ 2 ^ (g - 1) * 2 ^ ((den.log2 : Int) + 1) := by gcongr
      _ = 2 ^ (num.log2 : Int) := by
        rw [← zpow_add₀ two_ne_zero]
        congr 1
        omega
      _ ≤ num := hnum_le
  · next hlt =>
    refine ⟨not_lt.mp hlt, ?_⟩
    calc (num : ℚ) < 2 ^ ((num.log2 : Int) + 1) := hnum_lt
      _ = 2 ^ (g + 1) * 2 ^ (den.log2 : Int) := by
        rw [← zpow_add₀ two_ne_zero]
        congr 1
        omega
      _ ≤ 2 ^ (g + 1) * den := by gcongr

/-- A fraction that is small enough for its exponent is rounded to a significand within bounds. -/
theorem significand_le {num den bits : Nat} {e : Int} (h : (num : ℚ) < 2 ^ (e + bits) * den) :
    roundHalfEven (num * (powTwo e).2) (den * (powTwo e).1) ≤ 2 ^ bits := by
  refine roundHalfEven_le ?_
  rw [← mul_assoc, mul_powTwo_lt_iff]
  push_cast
  rwa [zpow_add₀ two_ne_zero, zpow_natCast, mul_assoc] at h

/-- One that is large enough is rounded to a significand with a leading bit. -/
theorem le_significand {num den bits : Nat} {e : Int} (hden : den ≠ 0)
    (h : 2 ^ (e + bits) * den ≤ (num : ℚ)) :
    2 ^ bits ≤ roundHalfEven (num * (powTwo e).2) (den * (powTwo e).1) := by
  have hpos : 0 < den * (powTwo e).1 := by
    have hfst : (0 : ℚ) < (powTwo e).1 := by
      rw [powTwo_eq]
      exact mul_pos (by positivity) (Nat.cast_pos.mpr (powTwo_snd_pos e))
    exact Nat.mul_pos (Nat.pos_of_ne_zero hden) (Nat.cast_pos.mp hfst)
  refine le_roundHalfEven hpos ?_
  rw [← mul_assoc, ← not_lt, mul_powTwo_lt_iff, not_lt]
  push_cast
  rwa [zpow_add₀ two_ne_zero, zpow_natCast, mul_assoc] at h

/-- What is rounded to a format is a number of it. -/
theorem isOf_ofRatio {f : Format} (hbits : f.bits ≠ 0) (negative : Bool) (num : Nat) {den : Nat}
    (hden : den ≠ 0) : (ofRatio f negative num den).IsOf f := by
  unfold ofRatio
  split
  · exact .inl rfl
  next hnum =>
  extract_lets e p m carried m' e'
  obtain ⟨hlow, hhigh⟩ := magnitude_bounds hnum hden
  have he : e = max f.minExponent (magnitude num den - (f.bits - 1)) := rfl
  have hm_le : m ≤ 2 ^ f.bits := by
    refine significand_le (hhigh.trans_le ?_)
    exact mul_le_mul_of_nonneg_right (zpow_le_zpow_right₀ one_le_two (by omega)) den.cast_nonneg
  have hm_ge : f.minExponent < e → 2 ^ (f.bits - 1) ≤ m := by
    intro hmin
    have hexponent : e + (f.bits - 1 : Nat) = magnitude num den := by omega
    exact le_significand hden (by rwa [hexponent])
  have hpow : 2 ^ (f.bits - 1) < 2 ^ f.bits := Nat.pow_lt_pow_right (by omega) (by omega)
  -- a significand that rounding carries over the bound moves to the next exponent
  by_cases hcarry : m = 2 ^ f.bits
  · have hm' : m' = 2 ^ (f.bits - 1) := by simp [m', carried, hcarry, Nat.one_shiftLeft]
    have he' : e' = e + 1 := by simp [e', carried, hcarry, Nat.one_shiftLeft]
    split
    · exact trivial
    · exact .inr ⟨by omega, by omega, by omega, .inl hm'.ge⟩
  · have hm' : m' = m := by simp [m', carried, hcarry, Nat.one_shiftLeft]
    have he' : e' = e := by simp [e', carried, hcarry, Nat.one_shiftLeft]
    split
    · exact trivial
    · refine .inr ⟨by omega, by omega, by omega, ?_⟩
      rw [hm', he']
      rcases eq_or_lt_of_le (show f.minExponent ≤ e by omega) with h | h
      · exact .inr h.symm
      · exact .inl (hm_ge h)

/-! ## Numbers that need no rounding -/

theorem roundHalfEven_mul {den : Nat} (hden : 0 < den) (n : Nat) :
    roundHalfEven (n * den) den = n := by
  simp [roundHalfEven, Nat.mul_div_cancel n hden, Nat.mul_mod_left, hden]

/-- A number of a format has the exponent that rounding would give it. -/
theorem exponent_of_isOf {f : Format} {s : Bool} {m : Nat} {e : Int}
    (h : (finite s m e).IsOf f) (hm : m ≠ 0) :
    max f.minExponent (magnitude (ratio m e).1 (ratio m e).2 - (f.bits - 1)) = e := by
  obtain ⟨hlt, hmin, -, hlead⟩ := h.resolve_left hm
  have hne : (ratio m e).2 ≠ 0 := (powTwo_snd_pos e).ne'
  have hden : (0 : ℚ) < (ratio m e).2 := Nat.cast_pos.mpr (powTwo_snd_pos e)
  have hworth : ((ratio m e).1 : ℚ) = m * 2 ^ e * (ratio m e).2 := by
    rw [ratio, Nat.cast_mul, powTwo_eq, mul_assoc]
  have hpos : (ratio m e).1 ≠ 0 := by
    rw [← Nat.cast_ne_zero (R := ℚ), hworth]
    exact mul_ne_zero (mul_ne_zero (Nat.cast_ne_zero.mpr hm) (zpow_ne_zero e two_ne_zero)) hden.ne'
  obtain ⟨hlow, hhigh⟩ := magnitude_bounds hpos hne
  generalize magnitude (ratio m e).1 (ratio m e).2 = k at hlow hhigh ⊢
  have hlow : (2 : ℚ) ^ k ≤ m * 2 ^ e := le_of_mul_le_mul_right (hlow.trans_eq hworth) hden
  have hhigh : (m : ℚ) * 2 ^ e < 2 ^ (k + 1) :=
    lt_of_mul_lt_mul_right (hworth.symm.trans_lt hhigh) hden.le
  have hle : k < f.bits + e := by
    refine (zpow_lt_zpow_iff_right₀ (one_lt_two (α := ℚ))).mp (hlow.trans_lt ?_)
    rw [zpow_add₀ two_ne_zero, zpow_natCast]
    have hcast : (m : ℚ) < 2 ^ f.bits := by exact_mod_cast hlt
    gcongr
  rcases hlead with hlead | rfl
  · have hge : (f.bits - 1 : Nat) + e < k + 1 := by
      refine (zpow_lt_zpow_iff_right₀ (one_lt_two (α := ℚ))).mp (lt_of_le_of_lt ?_ hhigh)
      rw [zpow_add₀ two_ne_zero, zpow_natCast]
      have hcast : (2 : ℚ) ^ (f.bits - 1) ≤ m := by exact_mod_cast hlead
      gcongr
    omega
  · omega

/-- Rounding leaves a number of the format as it is. -/
theorem toFormat_of_isOf {f : Format} {s : Bool} {m : Nat} {e : Int}
    (h : (finite s m e).IsOf f) (hm : m ≠ 0) : (finite s m e).toFormat f = finite s m e := by
  obtain ⟨hlt, -, hmax, -⟩ := h.resolve_left hm
  have hexponent := exponent_of_isOf h hm
  have hfst : 0 < (powTwo e).1 := by
    rw [← Nat.cast_pos (α := ℚ), powTwo_eq]
    exact mul_pos (zpow_pos two_pos e) (Nat.cast_pos.mpr (powTwo_snd_pos e))
  have hnum : (ratio m e).1 ≠ 0 := Nat.mul_ne_zero hm hfst.ne'
  have hround :
      roundHalfEven ((ratio m e).1 * (powTwo e).2) ((ratio m e).2 * (powTwo e).1) = m := by
    rw [ratio, Nat.mul_assoc, Nat.mul_comm (powTwo e).2]
    exact roundHalfEven_mul (Nat.mul_pos hfst (powTwo_snd_pos e)) m
  simp only [toFormat, ofRatio, if_neg hnum, hexponent, hround, Nat.one_shiftLeft,
    beq_eq_false_iff_ne.mpr hlt.ne, Bool.false_eq_true, if_false, if_neg (not_lt.mpr hmax)]

/-- Rounding to its format gives a number that compares equal. -/
theorem beq_toFormat_of_isOf {f : Format} {s : Bool} {m : Nat} {e : Int}
    (h : (finite s m e).IsOf f) : (finite s m e).beq ((finite s m e).toFormat f) = true := by
  by_cases hm : m = 0
  · subst hm
    simp [toFormat, ratio, ofRatio, zero, beq]
  · rw [toFormat_of_isOf h hm, beq_self]
    rfl

end MeshDestination.Number.Binary
