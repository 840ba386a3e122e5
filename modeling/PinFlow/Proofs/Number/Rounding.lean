import Mathlib.Data.Nat.Log
import Mathlib.Tactic.Ring
import PinFlow.Number.Binary64

set_option autoImplicit false

/-!
# Integers as binary numbers

An integer is read as the nearest number with 53 significant bits. The reading keeps the order of
integers, and it moves no integer that has at most 53 significant bits; so two integers are told
apart if both are such, or if one of them is below `2 ^ 53` in size.
-/

namespace PinFlow.Binary64

theorem roundDiv_cases (num den : Nat) :
    roundDiv num den = num / den ∧ 2 * (num % den) ≤ den ∨
      roundDiv num den = num / den + 1 ∧ den ≤ 2 * (num % den) := by
  unfold roundDiv
  dsimp only
  split_ifs with hbelow habove
  · exact .inl ⟨rfl, hbelow.le⟩
  · exact .inr ⟨rfl, habove.le⟩
  · rcases Nat.mod_two_eq_zero_or_one (num / den) with heven | hodd
    · exact .inl ⟨by rw [heven, Nat.add_zero], by omega⟩
    · exact .inr ⟨by rw [hodd], by omega⟩

theorem roundDiv_mul (k : Nat) {den : Nat} (hden : 0 < den) : roundDiv (k * den) den = k := by
  unfold roundDiv
  simp [Nat.mul_div_cancel k hden, hden]

theorem roundDiv_mul_mul (num den : Nat) {c : Nat} (hc : 0 < c) :
    roundDiv (num * c) (den * c) = roundDiv num den := by
  unfold roundDiv
  have hdouble : 2 * (num % den * c) = 2 * (num % den) * c := by ring
  simp only [Nat.mul_div_mul_right _ _ hc, Nat.mul_mod_mul_right, hdouble,
    Nat.mul_lt_mul_right hc]

theorem roundDiv_mono {num num' : Nat} (h : num ≤ num') (den : Nat) :
    roundDiv num den ≤ roundDiv num' den := by
  have hquotient : num / den ≤ num' / den := Nat.div_le_div_right h
  rcases hquotient.lt_or_eq with hlt | heq
  · have hlow := roundDiv_cases num den
    have hhigh := roundDiv_cases num' den
    omega
  · -- With one quotient, the larger remainder rounds up if the smaller one does.
    have hrest : num % den ≤ num' % den := by
      have hnum := Nat.div_add_mod num den
      have hnum' := Nat.div_add_mod num' den
      rw [← heq] at hnum'
      omega
    unfold roundDiv
    dsimp only
    rw [← heq]
    have hparity := Nat.mod_two_eq_zero_or_one (num / den)
    split_ifs <;> omega

theorem le_roundDiv {num den k : Nat} (hden : 0 < den) (h : k * den ≤ num) :
    k ≤ roundDiv num den := by
  have hmono := roundDiv_mono h den
  rwa [roundDiv_mul k hden] at hmono

theorem roundDiv_le {num den k : Nat} (hden : 0 < den) (h : num ≤ k * den) :
    roundDiv num den ≤ k := by
  have hmono := roundDiv_mono h den
  rwa [roundDiv_mul k hden] at hmono

theorem roundDiv_eq {num den k : Nat} (hden : 0 < den) (hlow : 2 * (k * den) ≤ 2 * num + den)
    (hhigh : 2 * num ≤ 2 * (k * den) + den)
    (htie : k % 2 = 0 ∨ 2 * (k * den) ≠ 2 * num + den ∧ 2 * num ≠ 2 * (k * den) + den) :
    roundDiv num den = k := by
  have hrest := Nat.mod_lt num hden
  have hnum := Nat.div_add_mod num den
  rw [Nat.mul_comm] at hnum
  unfold roundDiv
  dsimp only
  generalize num / den = quotient at *
  generalize num % den = rest at *
  -- The integer is the quotient or the one above it.
  have hle : k ≤ quotient + 1 := by
    by_contra hgt
    have hmul := Nat.mul_le_mul_right den (show quotient + 2 ≤ k by omega)
    rw [Nat.add_mul] at hmul
    omega
  have hge : quotient ≤ k := by
    by_contra hlt
    have hmul := Nat.mul_le_mul_right den (show k + 1 ≤ quotient by omega)
    rw [Nat.add_mul] at hmul
    omega
  obtain rfl | rfl : k = quotient ∨ k = quotient + 1 := by omega
  · split_ifs <;> omega
  · rw [Nat.add_mul] at *
    split_ifs <;> omega

theorem excessBits_eq (n : Nat) : excessBits n = n.log2 - 52 := by
  unfold excessBits
  omega

/-- The nearest number of at most 53 significant bits. -/
def nearestNat (n : Nat) : Nat := roundDiv n (2 ^ excessBits n) * 2 ^ excessBits n

theorem nearestNat_of_dvd {n : Nat} (h : 2 ^ excessBits n ∣ n) : nearestNat n = n := by
  obtain ⟨k, hk⟩ := h
  have hround : roundDiv n (2 ^ excessBits n) = k := by
    nth_rewrite 1 [hk]
    rw [Nat.mul_comm, roundDiv_mul k (Nat.two_pow_pos _)]
  rw [nearestNat, hround, Nat.mul_comm, ← hk]

theorem excessBits_of_lt {n : Nat} (h : n < 2 ^ 53) : excessBits n = 0 := by
  rcases Nat.eq_zero_or_pos n with rfl | hpos
  · rfl
  · have hlog : n.log2 < 53 := (Nat.log2_lt hpos.ne').2 h
    rw [excessBits_eq]
    omega

theorem dvd_of_le {n : Nat} (h : n ≤ 2 ^ 53) : 2 ^ excessBits n ∣ n := by
  rcases h.lt_or_eq with hlt | rfl
  · rw [excessBits_of_lt hlt, pow_zero]
    exact one_dvd n
  · rw [excessBits_eq, Nat.log2_two_pow]
    exact pow_dvd_pow 2 (by omega)

theorem two_pow_log2_le_nearestNat {n : Nat} (hn : n ≠ 0) : 2 ^ n.log2 ≤ nearestNat n := by
  rcases Nat.lt_or_ge n.log2 52 with hsmall | hlarge
  · have hlt : n < 2 ^ 53 := (Nat.log2_lt hn).1 (by omega)
    rw [nearestNat_of_dvd (dvd_of_le hlt.le)]
    exact Nat.log2_self_le hn
  · have hsplit : 2 ^ n.log2 = 2 ^ 52 * 2 ^ excessBits n := by
      rw [excessBits_eq, ← pow_add, Nat.add_sub_cancel' hlarge]
    have hround := le_roundDiv (Nat.two_pow_pos _) (hsplit ▸ Nat.log2_self_le hn)
    rw [hsplit]
    exact Nat.mul_le_mul_right _ hround

theorem nearestNat_le_two_pow (n : Nat) : nearestNat n ≤ 2 ^ (n.log2 + 1) := by
  rcases Nat.lt_or_ge n.log2 52 with hsmall | hlarge
  · have hlt : n < 2 ^ 53 := Nat.lt_log2_self.trans_le (Nat.pow_le_pow_right two_pos (by omega))
    rw [nearestNat_of_dvd (dvd_of_le hlt.le)]
    exact Nat.lt_log2_self.le
  · have hsplit : 2 ^ (n.log2 + 1) = 2 ^ 53 * 2 ^ excessBits n := by
      rw [excessBits_eq, ← pow_add]
      congr 1
      omega
    have hround := roundDiv_le (Nat.two_pow_pos _) (hsplit ▸ (Nat.lt_log2_self (n := n)).le)
    rw [hsplit]
    exact Nat.mul_le_mul_right _ hround

theorem nearestNat_mono {m n : Nat} (h : m ≤ n) : nearestNat m ≤ nearestNat n := by
  rcases Nat.eq_zero_or_pos m with rfl | hm
  · exact Nat.zero_le _
  have hn : n ≠ 0 := by omega
  have hlog : m.log2 ≤ n.log2 := (Nat.le_log2 hn).2 ((Nat.log2_self_le hm.ne').trans h)
  rcases hlog.lt_or_eq with hlt | heq
  · -- A power of two lies between them.
    calc nearestNat m ≤ 2 ^ (m.log2 + 1) := nearestNat_le_two_pow m
      _ ≤ 2 ^ n.log2 := Nat.pow_le_pow_right two_pos hlt
      _ ≤ nearestNat n := two_pow_log2_le_nearestNat hn
  · have hstep : excessBits m = excessBits n := by rw [excessBits_eq, excessBits_eq, heq]
    unfold nearestNat
    rw [hstep]
    exact Nat.mul_le_mul_right _ (roundDiv_mono h _)

theorem nearestNat_exact (n : Nat) : 2 ^ excessBits (nearestNat n) ∣ nearestNat n := by
  rcases Nat.eq_zero_or_pos n with rfl | hpos
  · exact dvd_zero _
  have hlow := two_pow_log2_le_nearestNat hpos.ne'
  rcases (nearestNat_le_two_pow n).lt_or_eq with hlt | heq
  · have hne : nearestNat n ≠ 0 := ((Nat.two_pow_pos _).trans_le hlow).ne'
    have hstep : excessBits (nearestNat n) = excessBits n := by
      rw [excessBits_eq, excessBits_eq, (Nat.log2_eq_iff hne).2 ⟨hlow, hlt⟩]
    rw [hstep]
    exact dvd_mul_left _ _
  · rw [heq, excessBits_eq, Nat.log2_two_pow]
    exact pow_dvd_pow 2 (by omega)

theorem log2_mul_two_pow {n : Nat} (hn : n ≠ 0) (j : Nat) : (n * 2 ^ j).log2 = n.log2 + j := by
  have hpos : n * 2 ^ j ≠ 0 := Nat.mul_ne_zero hn (Nat.two_pow_pos j).ne'
  rw [Nat.log2_eq_iff hpos, Nat.add_right_comm, pow_add, pow_add]
  exact ⟨Nat.mul_le_mul_right _ (Nat.log2_self_le hn),
    Nat.mul_lt_mul_of_pos_right Nat.lt_log2_self (Nat.two_pow_pos j)⟩

theorem excessBits_mul_two_pow {n : Nat} (hn : n ≠ 0) (j : Nat) :
    excessBits (n * 2 ^ j) = n.log2 + j - 52 := by
  rw [excessBits_eq, log2_mul_two_pow hn]

/-- Counted in small enough parts, a number is rounded as it is itself: it has no more bits. -/
theorem roundUnits_mul_two_pow (n : Nat) {j : Nat} (hj : 52 ≤ j) :
    roundUnits (n * 2 ^ j) 1 = nearestNat n * 2 ^ j := by
  simp only [roundUnits, Nat.div_one, Nat.one_mul, Nat.pow_eq]
  rcases Nat.eq_zero_or_pos n with rfl | hpos
  · simp [nearestNat, roundDiv]
  rw [excessBits_mul_two_pow hpos.ne']
  rcases Nat.lt_or_ge n.log2 53 with hsmall | hlarge
  · -- The step divides `2 ^ j`, so that nothing is rounded.
    obtain ⟨k, hk⟩ : 2 ^ (n.log2 + j - 52) ∣ n * 2 ^ j :=
      dvd_mul_of_dvd_right (pow_dvd_pow 2 (by omega)) n
    rw [nearestNat_of_dvd (dvd_of_le ((Nat.log2_lt hpos.ne').1 hsmall).le), hk, Nat.mul_comm _ k,
      roundDiv_mul k (Nat.two_pow_pos _)]
  · have hstep : 2 ^ (n.log2 + j - 52) = 2 ^ excessBits n * 2 ^ j := by
      rw [excessBits_eq, ← pow_add]
      congr 1
      omega
    rw [hstep, roundDiv_mul_mul _ _ (Nat.two_pow_pos j), nearestNat, Nat.mul_assoc]

theorem oneUnits_eq : oneUnits = 2 ^ 1074 := by decide +kernel

theorem oneUnits_pos : 0 < oneUnits := by decide +kernel

theorem roundUnits_mul_oneUnits (n : Nat) :
    roundUnits (n * oneUnits) 1 = nearestNat n * oneUnits :=
  oneUnits_eq ▸ roundUnits_mul_two_pow n (by decide)

theorem nearestNat_mul_oneUnits_lt {n : Nat} (h : n < 2 ^ 64) :
    nearestNat n * oneUnits < overflowUnits := by
  have hle : nearestNat n ≤ 2 ^ 64 := by
    have hmono := nearestNat_mono h.le
    rwa [nearestNat_of_dvd (n := 2 ^ 64) (by decide)] at hmono
  calc nearestNat n * oneUnits ≤ 2 ^ 64 * oneUnits := Nat.mul_le_mul_right _ hle
    _ < overflowUnits := by decide +kernel

def nearest (n : Int) : Int := signedUnits (decide (n < 0)) (nearestNat n.natAbs)

/-- The integer has at most 53 significant bits. -/
def Exact (n : Int) : Prop := 2 ^ excessBits n.natAbs ∣ n.natAbs

instance (n : Int) : Decidable (Exact n) := inferInstanceAs (Decidable (_ ∣ _))

/-- Rounding tells the integers apart: one of them is below `2 ^ 53` in size, or neither moves. -/
def Apart (m n : Int) : Prop :=
  m.natAbs < 2 ^ 53 ∨ n.natAbs < 2 ^ 53 ∨ Exact m ∧ Exact n

instance (m n : Int) : Decidable (Apart m n) := inferInstanceAs (Decidable (_ ∨ _ ∨ _ ∧ _))

theorem signedUnits_mul (negative : Bool) (k units : Nat) :
    signedUnits negative (k * units) = signedUnits negative k * units := by
  unfold signedUnits
  split_ifs <;> push_cast <;> ring

theorem nearest_eq (n : Int) :
    nearest n = if n < 0 then -(nearestNat n.natAbs : Int) else nearestNat n.natAbs := by
  simp [nearest, signedUnits]

theorem nearest_of_exact {n : Int} (h : Exact n) : nearest n = n := by
  rw [nearest_eq, nearestNat_of_dvd h]
  split_ifs <;> omega

theorem exact_of_le {n : Int} (h : n.natAbs ≤ 2 ^ 53) : Exact n := dvd_of_le h

theorem nearest_mono {m n : Int} (h : m ≤ n) : nearest m ≤ nearest n := by
  rw [nearest_eq, nearest_eq]
  split_ifs with hm hn
  · have hsize := nearestNat_mono (show n.natAbs ≤ m.natAbs by omega)
    omega
  · omega
  · omega
  · have hsize := nearestNat_mono (show m.natAbs ≤ n.natAbs by omega)
    omega

theorem nearest_lt_nearest {m n : Int} (h : m < n) (hapart : Apart m n) :
    nearest m < nearest n := by
  rcases hapart with hm | hn | ⟨hm, hn⟩
  · -- The successor does not move either.
    have hnext := nearest_mono (show m + 1 ≤ n by omega)
    rw [nearest_of_exact (exact_of_le (show (m + 1).natAbs ≤ 2 ^ 53 by omega))] at hnext
    rw [nearest_of_exact (exact_of_le hm.le)]
    omega
  · have hprevious := nearest_mono (show m ≤ n - 1 by omega)
    rw [nearest_of_exact (exact_of_le (show (n - 1).natAbs ≤ 2 ^ 53 by omega))] at hprevious
    rw [nearest_of_exact (exact_of_le hn.le)]
    omega
  · rwa [nearest_of_exact hm, nearest_of_exact hn]

theorem Apart.symm {m n : Int} (h : Apart m n) : Apart n m := by
  unfold Apart at h ⊢
  tauto

theorem nearest_lt_iff {m n : Int} (h : Apart m n) : nearest m < nearest n ↔ m < n :=
  ⟨fun hlt => not_le.1 fun hle => not_lt.2 (nearest_mono hle) hlt,
    fun hlt => nearest_lt_nearest hlt h⟩

theorem signedUnits_nearestNat (n : Int) :
    signedUnits (decide (n < 0)) (nearestNat n.natAbs * oneUnits) = nearest n * oneUnits :=
  signedUnits_mul _ _ _

theorem oneUnits_cast_pos : 0 < (oneUnits : Int) := by exact_mod_cast oneUnits_pos

theorem ofInt_congr {m n : Int} (hsign : m < 0 ↔ n < 0)
    (hsize : nearestNat m.natAbs = nearestNat n.natAbs) : ofInt m = ofInt n := by
  unfold ofInt ofUnits
  rw [roundUnits_mul_oneUnits, roundUnits_mul_oneUnits, hsize, decide_eq_decide.2 hsign]

theorem nearest_congr {m n : Int} (hsign : m < 0 ↔ n < 0)
    (hsize : nearestNat m.natAbs = nearestNat n.natAbs) : nearest m = nearest n := by
  rw [nearest, nearest, hsize, decide_eq_decide.2 hsign]

section

variable {m n : Int} (hm : m.natAbs < 2 ^ 64) (hn : n.natAbs < 2 ^ 64)

include hn

theorem ofInt_eq : ofInt n = .finite (decide (n < 0)) (nearestNat n.natAbs * oneUnits) := by
  unfold ofInt ofUnits
  dsimp only
  rw [roundUnits_mul_oneUnits, if_pos (nearestNat_mul_oneUnits_lt hn)]

theorem floor?_ofInt : (ofInt n).floor? = some (nearest n) := by
  rw [ofInt_eq hn, floor?, signedUnits_nearestNat, Int.mul_ediv_cancel _ oneUnits_cast_pos.ne']

theorem ceil?_ofInt : (ofInt n).ceil? = some (nearest n) := by
  rw [ofInt_eq hn, ceil?, signedUnits_nearestNat, ← Int.neg_mul,
    Int.mul_ediv_cancel _ oneUnits_cast_pos.ne', Int.neg_neg]

theorem truncate?_ofInt : (ofInt n).truncate? = some (nearest n) := by
  rw [ofInt_eq hn, truncate?, Nat.mul_div_cancel _ oneUnits_pos]
  rfl

theorem isNaN_ofInt : (ofInt n).isNaN = false := by
  rw [ofInt_eq hn]
  rfl

include hm

theorem eq_ofInt : (ofInt m).eq (ofInt n) = decide (nearest m = nearest n) := by
  rw [ofInt_eq hm, ofInt_eq hn, eq, signedUnits_nearestNat, signedUnits_nearestNat]
  exact decide_eq_decide.2 (Int.mul_eq_mul_right_iff oneUnits_cast_pos.ne')

theorem lt_ofInt : (ofInt m).lt (ofInt n) = decide (nearest m < nearest n) := by
  rw [ofInt_eq hm, ofInt_eq hn, lt, signedUnits_nearestNat, signedUnits_nearestNat]
  exact decide_eq_decide.2 (Int.mul_lt_mul_right oneUnits_cast_pos)

theorem le_ofInt : (ofInt m).le (ofInt n) = decide (nearest m ≤ nearest n) := by
  rw [le, lt_ofInt hm hn, eq_ofInt hm hn, ← Bool.decide_or]
  exact decide_eq_decide.2 le_iff_lt_or_eq.symm

end

end PinFlow.Binary64
