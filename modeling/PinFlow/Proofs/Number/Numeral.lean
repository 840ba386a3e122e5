import Mathlib.Tactic.Positivity
import PinFlow.Proofs.Number.Rounding
import PinFlow.Value.Coercion

set_option autoImplicit false

/-!
# The text of whole numbers

The search for the fewest digits tries coarse grids first. Around an integer of at most 53
significant bits that is below `2 ^ 54` in size, the numerals that read back as it are so near that
no other integer of a coarser grid is among them: whatever grid the search stops at, the digits are
those of the integer itself.
-/

namespace PinFlow

namespace Decimal

open Binary64 (oneUnits excessBits Exact)

/-- The numeral is that of a natural number, without its last zeros or some of them. -/
structure Denotes (d : Decimal) (n : Nat) : Prop where
  whole : 0 ≤ d.exponent
  value : d.digits * 10 ^ d.exponent.toNat = n

variable {n : Nat}

theorem numeral_mul_pow {digits : Nat} (h : 0 < digits) (zeros : Nat) :
    numeral (digits * 10 ^ zeros) = numeral digits ++ List.replicate zeros '0' := by
  induction zeros with
  | zero => simp
  | succ zeros ih =>
    have hpos : 0 < digits * 10 ^ zeros := by positivity
    have hnext : digits * 10 ^ (zeros + 1) = 10 * (digits * 10 ^ zeros) + 0 := by ring
    have hdigit : Nat.toDigits 10 0 = ['0'] := rfl
    unfold numeral at ih ⊢
    rw [hnext, ← Nat.toDigits_append_toDigits (by decide) hpos (by decide), ih, hdigit,
      List.replicate_succ', List.append_assoc]

theorem Denotes.positional {d : Decimal} (h : d.Denotes n) (hn : 0 < n) :
    d.positional = numeral n := by
  have hdigits : 0 < d.digits := by
    rw [← h.value] at hn
    exact Nat.pos_of_mul_pos_right hn
  rw [Decimal.positional, if_pos h.whole, ← numeral_mul_pow hdigits, h.value]

theorem Denotes.trim {d : Decimal} (h : d.Denotes n) (fuel : Nat) : (trim fuel d).Denotes n := by
  induction fuel generalizing d with
  | zero => exact h
  | succ fuel ih =>
    rw [Decimal.trim]
    split_ifs with hzero
    · apply ih
      have hwhole := h.whole
      have hexponent : (d.exponent + 1).toNat = d.exponent.toNat + 1 := by omega
      refine ⟨Int.add_nonneg hwhole (by decide), ?_⟩
      calc d.digits / 10 * 10 ^ (d.exponent + 1).toNat
          = d.digits / 10 * 10 * 10 ^ d.exponent.toNat := by rw [hexponent]; ring
        _ = n := by rw [Nat.div_mul_cancel (Nat.dvd_of_mod_eq_zero hzero), h.value]
    · exact h

theorem two_pow_excessBits_le (bits : Nat) (hn : n ≠ 0) (h : n < 2 ^ (53 + bits)) :
    2 ^ excessBits (n * oneUnits) ≤ 2 ^ bits * oneUnits := by
  have hlog : n.log2 < 53 + bits := (Nat.log2_lt hn).2 h
  rw [Binary64.oneUnits_eq, Binary64.excessBits_mul_two_pow hn, ← pow_add]
  exact Nat.pow_le_pow_right two_pos (by omega)

theorem Reach.contains_natCast (r : Reach) (digits e : Nat) :
    r.contains digits e =
      if r.closed then
        decide (r.low ≤ 4 * (digits * 10 ^ e) * oneUnits ∧
          4 * (digits * 10 ^ e) * oneUnits ≤ r.high)
      else
        decide (r.low < 4 * (digits * 10 ^ e) * oneUnits ∧
          4 * (digits * 10 ^ e) * oneUnits < r.high) := by
  have hpoint : 4 * oneUnits * digits * 10 ^ e =
      4 * (digits * 10 ^ e) * oneUnits := by ring
  have hunit : (-(e : Int)).toNat = 0 := by omega
  simp only [Reach.contains, hunit, Int.toNat_natCast, Nat.pow_eq, pow_zero, Nat.mul_one, hpoint]

/-- A numeral reads back as an integer only if it is within half a step of it. -/
theorem Reach.near_of_contains {width digits e : Nat}
    (hstep : 2 ^ excessBits (n * oneUnits) ≤ width * oneUnits)
    (h : (Reach.ofUnits (n * oneUnits)).contains digits e = true) :
    2 * n ≤ 2 * (digits * 10 ^ e) + width ∧ 2 * (digits * 10 ^ e) ≤ 2 * n + width := by
  -- The interval counts quarters of a unit.
  have hbounds : 4 * (n * oneUnits) ≤
        4 * (digits * 10 ^ e) * oneUnits + 2 * (width * oneUnits) ∧
      4 * (digits * 10 ^ e) * oneUnits ≤
        4 * (n * oneUnits) + 2 * (width * oneUnits) := by
    rw [Reach.contains_natCast] at h
    simp only [Reach.ofUnits, Nat.pow_eq] at h
    split_ifs at h <;> simp only [decide_eq_true_eq] at h <;> omega
  have hhalf : 0 < 2 * oneUnits := Nat.mul_pos two_pos Binary64.oneUnits_pos
  constructor
  · refine Nat.le_of_mul_le_mul_right ?_ hhalf
    calc 2 * n * (2 * oneUnits) = 4 * (n * oneUnits) := by ring
      _ ≤ 4 * (digits * 10 ^ e) * oneUnits + 2 * (width * oneUnits) := hbounds.1
      _ = (2 * (digits * 10 ^ e) + width) * (2 * oneUnits) := by ring
  · refine Nat.le_of_mul_le_mul_right ?_ hhalf
    calc 2 * (digits * 10 ^ e) * (2 * oneUnits) = 4 * (digits * 10 ^ e) * oneUnits := by ring
      _ ≤ 4 * (n * oneUnits) + 2 * (width * oneUnits) := hbounds.2
      _ = (2 * n + width) * (2 * oneUnits) := by ring

theorem eq_of_contains {digits e : Nat} (hn : n ≠ 0) (hexact : Exact n)
    (hsmall : n < 2 ^ 54)
    (h : (Reach.ofUnits (n * oneUnits)).contains digits (e + 1 : Nat) = true) :
    digits * 10 ^ (e + 1) = n := by
  rcases Nat.lt_or_ge n (2 ^ 53) with hlt | hge
  · have hnear := Reach.near_of_contains (two_pow_excessBits_le 0 hn hlt) h
    omega
  · have hlog : n.log2 = 53 := (Nat.log2_eq_iff hn).2 ⟨hge, hsmall⟩
    have heven : 2 ∣ n := by
      unfold Exact at hexact
      rwa [Int.natAbs_natCast, Binary64.excessBits_eq, hlog] at hexact
    have hten : 2 ∣ digits * 10 ^ (e + 1) :=
      dvd_mul_of_dvd_right (dvd_pow (by decide) e.succ_ne_zero) digits
    have hnear := Reach.near_of_contains (two_pow_excessBits_le 1 hn hsmall) h
    omega

theorem Tie.nearest_mul (tie : Tie) (k : Nat) {den : Nat} (hden : 0 < den) :
    tie.nearest (k * den) den = k := by
  cases tie with
  | even => exact Binary64.roundDiv_mul k hden
  | upper =>
    have hhalf : 2 * (k * den) + den = den + k * (2 * den) := by ring
    rw [Tie.nearest, hhalf, Nat.add_mul_div_right _ _ (by omega), Nat.div_eq_of_lt (by omega),
      Nat.zero_add]

theorem contains_self (hn : n ≠ 0) :
    (Reach.ofUnits (n * oneUnits)).contains n (0 : Nat) = true := by
  have hstep := Nat.two_pow_pos (excessBits (n * oneUnits))
  have hunits : 0 < n * oneUnits := Nat.mul_pos (by omega) Binary64.oneUnits_pos
  have hpoint : 4 * (n * 10 ^ 0) * oneUnits = 4 * (n * oneUnits) := by ring
  rw [Reach.contains_natCast, hpoint]
  simp only [Reach.ofUnits, Nat.pow_eq]
  split_ifs <;> simp only [decide_eq_true_eq] <;> omega

theorem onGrid?_natCast (tie : Tie) (reach : Reach) (e : Nat) :
    onGrid? tie (n * oneUnits) reach e =
      match reach.contains (n / 10 ^ e) e, reach.contains (n / 10 ^ e + 1) e with
      | true, true => some (tie.nearest (n * oneUnits) (10 ^ e * oneUnits))
      | true, false => some (n / 10 ^ e)
      | false, true => some (n / 10 ^ e + 1)
      | false, false => none := by
  have hunit : (-(e : Int)).toNat = 0 := by omega
  have hquotient : n * oneUnits / (10 ^ e * oneUnits) = n / 10 ^ e :=
    Nat.mul_div_mul_right _ _ Binary64.oneUnits_pos
  cases hbelow : reach.contains (n / 10 ^ e) e <;>
    cases habove : reach.contains (n / 10 ^ e + 1) e <;>
    simp only [onGrid?, hunit, Int.toNat_natCast, Nat.pow_eq, pow_zero, Nat.mul_one,
      Nat.mul_comm oneUnits, hquotient, hbelow, habove]

theorem onGrid?_zero (tie : Tie) (hn : n ≠ 0) :
    onGrid? tie (n * oneUnits) (Reach.ofUnits (n * oneUnits)) (0 : Nat) =
      some n := by
  rw [onGrid?_natCast]
  simp only [pow_zero, Nat.div_one, contains_self hn, Nat.one_mul,
    tie.nearest_mul n Binary64.oneUnits_pos]
  cases (Reach.ofUnits (n * oneUnits)).contains (n + 1) (0 : Nat) <;> rfl

theorem eq_of_onGrid? {tie : Tie} {digits e : Nat} (hn : n ≠ 0) (hexact : Exact n)
    (hsmall : n < 2 ^ 54)
    (h : onGrid? tie (n * oneUnits) (Reach.ofUnits (n * oneUnits)) e =
      some digits) :
    digits * 10 ^ e = n := by
  cases e with
  | zero =>
    rw [onGrid?_zero tie hn] at h
    cases h
    exact Nat.mul_one n
  | succ e =>
    have hunique : ∀ digits,
        (Reach.ofUnits (n * oneUnits)).contains digits (e + 1 : Nat) = true →
          digits * 10 ^ (e + 1) = n := fun _ => eq_of_contains hn hexact hsmall
    rw [onGrid?_natCast] at h
    split at h
    · -- Two neighbours of the grid cannot both be the integer.
      rename_i hbelow habove
      have hsame := (hunique _ hbelow).trans (hunique _ habove).symm
      have hequal := Nat.eq_of_mul_eq_mul_right (by positivity) hsame
      omega
    · rename_i hbelow _
      cases h
      exact hunique _ hbelow
    · rename_i _ habove
      cases h
      exact hunique _ habove
    · cases h

theorem shortestFrom_denotes (tie : Tie) (hn : n ≠ 0) (hexact : Exact n)
    (hsmall : n < 2 ^ 54) {tries e : Nat} (htries : e < tries) :
    (shortestFrom tie (n * oneUnits) (Reach.ofUnits (n * oneUnits)) tries
      e).Denotes n := by
  induction tries generalizing e with
  | zero => omega
  | succ tries ih =>
    rw [shortestFrom]
    split
    · rename_i digits hgrid
      apply Denotes.trim
      exact ⟨Int.natCast_nonneg e, eq_of_onGrid? hn hexact hsmall hgrid⟩
    · rename_i hgrid
      cases e with
      | zero =>
        rw [onGrid?_zero tie hn] at hgrid
        cases hgrid
      | succ e =>
        rw [Int.natCast_succ, Int.add_sub_cancel]
        exact ih (by omega)

theorem digitCount_mul_pow (hn : n ≠ 0) (zeros : Nat) :
    digitCount (n * Nat.pow 10 zeros) = digitCount n + zeros := by
  have hnumeral := congrArg List.length (numeral_mul_pow (Nat.pos_of_ne_zero hn) zeros)
  rwa [List.length_append, List.length_replicate] at hnumeral

theorem leadingExponent_mul_oneUnits (hn : n ≠ 0) :
    leadingExponent (n * oneUnits) = (digitCount n - 1 : Nat) := by
  have hpos : 0 < digitCount n := Nat.length_toDigits_pos
  unfold leadingExponent
  -- The power of ten stays a symbol, so that it is never computed.
  generalize hzeros : 324 = zeros
  rw [Nat.mul_right_comm, Nat.mul_div_cancel _ Binary64.oneUnits_pos, digitCount_mul_pow hn]
  omega

theorem shortest_denotes (tie : Tie) (hn : n ≠ 0) (hexact : Exact n)
    (hsmall : n < 2 ^ 54) : (shortest tie (n * oneUnits)).Denotes n := by
  have hcount : digitCount n ≤ 17 :=
    (Nat.length_toDigits_le_iff (by decide) (by decide)).2 (hsmall.trans (by decide))
  have hunits : n * oneUnits ≠ 0 := Nat.mul_ne_zero hn Binary64.oneUnits_pos.ne'
  rw [shortest, if_neg hunits, leadingExponent_mul_oneUnits hn]
  exact shortestFrom_denotes tie hn hexact hsmall (by omega)

end Decimal

theorem toString_int_eq (n : Int) :
    toString n = String.ofList ((if n < 0 then ['-'] else []) ++ Decimal.numeral n.natAbs) := by
  rw [Int.toString_eq_repr, Int.repr_eq_if, Decimal.numeral, Nat.repr_eq_ofList_toDigits,
    Nat.repr_eq_ofList_toDigits]
  rcases lt_or_ge n 0 with hneg | hnonneg
  · have hsize : (-n).toNat = n.natAbs := by omega
    rw [if_neg (by omega), if_pos hneg, hsize, String.ofList_append]
  · have hsize : n.toNat = n.natAbs := by omega
    rw [if_pos hnonneg, if_neg (by omega), hsize, List.nil_append]

theorem Binary64.toPlainText_ofInt {n : Int} (hn : n ≠ 0) (hexact : Exact n)
    (hsmall : n.natAbs < 2 ^ 54) : (ofInt n).toPlainText = toString n := by
  have hsize : n.natAbs ≠ 0 := Int.natAbs_ne_zero.2 hn
  have hshortest := Decimal.shortest_denotes .upper hsize hexact hsmall
  rw [ofInt_eq (by omega), nearestNat_of_dvd hexact, toPlainText,
    hshortest.positional (Nat.pos_of_ne_zero hsize), toString_int_eq]
  simp only [decide_eq_true_eq]

theorem Value.numberText_ofInt {n : Int} (hexact : Binary64.Exact n)
    (hsmall : n.natAbs < 2 ^ 54) : numberText (.ofInt n) = toString n := by
  have hn : n.natAbs < 2 ^ 64 := hsmall.trans (by decide)
  rw [numberText, Binary64.truncate?_ofInt hn, Binary64.nearest_of_exact hexact]
  dsimp only
  split_ifs with hshort
  · rfl
  · rcases eq_or_ne n 0 with rfl | hne
    · exact absurd (by decide +kernel) hshort
    · exact Binary64.toPlainText_ofInt hne hexact hsmall

end PinFlow
