import Mathlib.Data.List.TakeWhile
import PinFlow.Proofs.Number.Numeral

set_option autoImplicit false

/-!
# Text that reads back

The text of a whole number is the numeral of an integer that is rounded to that number again,
however large the number is. What lies in the interval of a number is rounded to it, and the search
for the fewest digits finds a numeral in the interval: from `10 ^ 16` on the grid of the seventeenth
digit is finer than the spacing of the numbers. A numeral is read as the integer whose it is.
-/

namespace PinFlow

open Binary64 (oneUnits excessBits nearestNat)

namespace Decimal

variable {n : Nat}

/-- The interval of an integer that is a multiple of the spacing, in quarters of the integer one. -/
theorem Reach.contains_eq {c step : Nat}
    (hstep : 2 ^ excessBits (c * step * oneUnits) = step * oneUnits) (hone : 1 < step)
    (digits e : Nat) :
    (Reach.ofUnits (c * step * oneUnits)).contains digits e =
      if c % 2 = 0 then
        decide (4 * (c * step) - (if c = 2 ^ 52 then step else 2 * step) ≤ 4 * (digits * 10 ^ e) ∧
          4 * (digits * 10 ^ e) ≤ 4 * (c * step) + 2 * step)
      else
        decide (4 * (c * step) - (if c = 2 ^ 52 then step else 2 * step) < 4 * (digits * 10 ^ e) ∧
          4 * (digits * 10 ^ e) < 4 * (c * step) + 2 * step) := by
  have hunits := Binary64.oneUnits_pos
  have hpos : 0 < step * oneUnits := Nat.mul_pos (by omega) hunits
  have hexcess : 0 < excessBits (c * step * oneUnits) := by
    by_contra hzero
    rw [Nat.eq_zero_of_not_pos hzero, pow_zero] at hstep
    have hlarge := hone.trans_le (Nat.le_mul_of_pos_right step hunits)
    exact hlarge.ne hstep
  have hassoc : c * step * oneUnits = c * (step * oneUnits) := Nat.mul_assoc _ _ _
  have hpower : (0 < excessBits (c * step * oneUnits) ∧
      c * step * oneUnits = Nat.pow 2 52 * (step * oneUnits)) ↔ c = 2 ^ 52 := by
    rw [and_iff_right hexcess, hassoc, Nat.pow_eq, Nat.mul_left_inj hpos.ne']
  have hlow : 4 * (c * step * oneUnits) -
      (if c = 2 ^ 52 then step * oneUnits else 2 * (step * oneUnits)) =
      (4 * (c * step) - if c = 2 ^ 52 then step else 2 * step) * oneUnits := by
    rw [Nat.sub_mul]
    split_ifs
    · ring_nf
    · ring_nf
  have hhigh : 4 * (c * step * oneUnits) + 2 * (step * oneUnits) =
      (4 * (c * step) + 2 * step) * oneUnits := by ring
  have hsignificand : c * step * oneUnits / (step * oneUnits) = c := by
    rw [hassoc, Nat.mul_div_cancel _ hpos]
  rw [Reach.contains_natCast]
  unfold Reach.ofUnits
  simp only [Nat.pow_eq, hstep] at hpower ⊢
  simp only [hpower, hlow, hhigh, hsignificand, Nat.mul_le_mul_right_iff hunits,
    Nat.mul_lt_mul_right hunits, beq_iff_eq]

/-- A large number of 53 significant bits and the spacing of such numbers, `2 ^ (l + 1)`. -/
structure Spaced (n c l : Nat) : Prop where
  eq : n = c * 2 ^ (l + 1)
  log2 : n.log2 = l + 53
  lower : 2 ^ 52 ≤ c
  upper : c < 2 ^ 53

theorem exists_spaced (hlarge : 2 ^ 53 ≤ n) (hexact : 2 ^ excessBits n ∣ n) :
    ∃ c l, Spaced n c l := by
  have hn : n ≠ 0 := by omega
  have hlog : 53 ≤ n.log2 := (Nat.le_log2 hn).2 hlarge
  obtain ⟨l, hl⟩ := Nat.exists_eq_add_of_le' hlog
  rw [Binary64.excessBits_eq, hl] at hexact
  obtain ⟨c, hc⟩ := hexact
  have hstep : l + 53 - 52 = l + 1 := by omega
  rw [hstep, Nat.mul_comm] at hc
  have hlow := Nat.log2_self_le hn
  have hhigh := Nat.lt_log2_self (n := n)
  rw [hl, hc] at hlow hhigh
  have hpow : 2 ^ (l + 53) = 2 ^ 52 * 2 ^ (l + 1) := by ring
  have hpow' : 2 ^ (l + 53 + 1) = 2 ^ 53 * 2 ^ (l + 1) := by ring
  rw [hpow] at hlow
  rw [hpow'] at hhigh
  exact ⟨c, l, hc, hl, Nat.le_of_mul_le_mul_right hlow (Nat.two_pow_pos _),
    Nat.lt_of_mul_lt_mul_right hhigh⟩

theorem Spaced.contains_eq {c l : Nat} (h : Spaced n c l) (digits e : Nat) :
    (Reach.ofUnits (n * oneUnits)).contains digits e =
      if c % 2 = 0 then
        decide (4 * n - (if c = 2 ^ 52 then 2 ^ (l + 1) else 2 * 2 ^ (l + 1)) ≤
            4 * (digits * 10 ^ e) ∧ 4 * (digits * 10 ^ e) ≤ 4 * n + 2 * 2 ^ (l + 1))
      else
        decide (4 * n - (if c = 2 ^ 52 then 2 ^ (l + 1) else 2 * 2 ^ (l + 1)) <
            4 * (digits * 10 ^ e) ∧ 4 * (digits * 10 ^ e) < 4 * n + 2 * 2 ^ (l + 1)) := by
  have hstep : 2 ^ excessBits (n * oneUnits) = 2 ^ (l + 1) * oneUnits := by
    have hn : n ≠ 0 := by
      rintro rfl
      cases h.log2
    have hbits : l + 53 + 1074 - 52 = l + 1 + 1074 := by omega
    rw [Binary64.oneUnits_eq, Binary64.excessBits_mul_two_pow hn, h.log2, hbits, pow_add]
  have hone : 1 < 2 ^ (l + 1) := Nat.one_lt_two_pow (Nat.succ_ne_zero l)
  rw [h.eq] at hstep ⊢
  exact Reach.contains_eq hstep hone digits e

theorem Spaced.bounds {c l : Nat} (h : Spaced n c l) :
    n = c * (2 * 2 ^ l) ∧ 2 ^ 53 * 2 ^ l ≤ n ∧ n + 2 * 2 ^ l ≤ 2 ^ 54 * 2 ^ l ∧
      (c ≠ 2 ^ 52 → 2 ^ 53 * 2 ^ l + 2 * 2 ^ l ≤ n) := by
  have hn : n = c * (2 * 2 ^ l) := by rw [h.eq, pow_succ']
  have hlower := Nat.mul_le_mul_right (2 * 2 ^ l) h.lower
  have hupper := Nat.mul_le_mul_right (2 * 2 ^ l) (Nat.succ_le_of_lt h.upper)
  rw [Nat.succ_mul, ← hn] at hupper
  rw [← hn] at hlower
  refine ⟨hn, by omega, by omega, fun hne => ?_⟩
  have hnext := Nat.mul_le_mul_right (2 * 2 ^ l)
    (show 2 ^ 52 + 1 ≤ c from Nat.lt_of_le_of_ne h.lower hne.symm)
  rw [Nat.succ_mul, ← hn] at hnext
  omega

theorem Spaced.near_of_contains {c l digits e : Nat} (h : Spaced n c l)
    (hcontains : (Reach.ofUnits (n * oneUnits)).contains digits e = true) :
    (c = 2 ^ 52 → 2 * n ≤ 2 * (digits * 10 ^ e) + 2 ^ l) ∧
      n ≤ digits * 10 ^ e + 2 ^ l ∧ digits * 10 ^ e ≤ n + 2 ^ l ∧
      (c % 2 = 0 ∨ n ≠ digits * 10 ^ e + 2 ^ l ∧ digits * 10 ^ e ≠ n + 2 ^ l) := by
  rw [h.contains_eq, pow_succ'] at hcontains
  split_ifs at hcontains <;> simp only [decide_eq_true_eq] at hcontains <;> omega

theorem nearestNat_of_log2 {k l : Nat} (hlow : 2 ^ (l + 52) ≤ k) (hhigh : k < 2 ^ (l + 53)) :
    nearestNat k = Binary64.roundDiv k (2 ^ l) * 2 ^ l := by
  have hk : k ≠ 0 := ((Nat.two_pow_pos _).trans_le hlow).ne'
  have hexcess : excessBits k = l := by
    rw [Binary64.excessBits_eq, (Nat.log2_eq_iff hk).2 ⟨hlow, hhigh⟩, Nat.add_sub_cancel]
  rw [nearestNat, hexcess]

theorem nearestNat_of_contains {digits e : Nat} (hn : n ≠ 0) (hexact : 2 ^ excessBits n ∣ n)
    (h : (Reach.ofUnits (n * oneUnits)).contains digits e = true) :
    nearestNat (digits * 10 ^ e) = n := by
  rcases Nat.lt_or_ge n (2 ^ 53) with hsmall | hlarge
  · have hnear := Reach.near_of_contains (two_pow_excessBits_le 0 hn hsmall) h
    have heq : digits * 10 ^ e = n := by omega
    rw [heq, Binary64.nearestNat_of_dvd hexact]
  obtain ⟨c, l, hspaced⟩ := exists_spaced hlarge hexact
  obtain ⟨hpower, hlow, hhigh, htie⟩ := hspaced.near_of_contains h
  obtain ⟨heq, hleast, hmost, hnext⟩ := hspaced.bounds
  have hpos := Nat.two_pow_pos l
  generalize digits * 10 ^ e = k at *
  have hpow (b : Nat) : 2 ^ (l + b) = 2 ^ b * 2 ^ l := by rw [Nat.add_comm, pow_add]
  rcases Nat.lt_or_ge k (2 ^ 53 * 2 ^ l) with hbelow | habove
  · -- Only below a power of two there are numerals with one bit less.
    have hc : c = 2 ^ 52 := by
      by_contra hne
      have := hnext hne
      omega
    have hhalf := hpower hc
    have hdouble : n = 2 ^ 53 * 2 ^ l := by
      rw [heq, hc]
      ring
    rw [nearestNat_of_log2 (l := l) (by rw [hpow]; omega) (by rw [hpow]; omega), hdouble,
      Binary64.roundDiv_eq hpos (k := 2 ^ 53) (by omega) (by omega) (.inl (by decide))]
  · have hstep : l + 1 + 52 = l + 53 := by omega
    have hstep' : l + 1 + 53 = l + 54 := by omega
    rw [nearestNat_of_log2 (l := l + 1) (by rw [hstep, hpow]; omega) (by rw [hstep', hpow]; omega),
      pow_succ', Binary64.roundDiv_eq (by omega) (k := c) (by omega) (by omega) (by omega), heq]

/-- A grid that is finer than the spacing meets the interval at one of the two points around the
    number. -/
theorem contains_around {e : Nat} (hexact : 2 ^ excessBits n ∣ n)
    (hfine : 10 ^ 16 * 10 ^ (e + 1) ≤ n) :
    (Reach.ofUnits (n * oneUnits)).contains (n / 10 ^ (e + 1)) (e + 1 : Nat) = true ∨
      (Reach.ofUnits (n * oneUnits)).contains (n / 10 ^ (e + 1) + 1) (e + 1 : Nat) = true := by
  have hgrid : 0 < 10 ^ (e + 1) := by positivity
  obtain ⟨c, l, hspaced⟩ := exists_spaced (by omega) hexact
  obtain ⟨heq, hleast, hmost, -⟩ := hspaced.bounds
  have hdouble : c = 2 ^ 52 → n = 2 ^ 53 * 2 ^ l := by
    rintro rfl
    rw [heq]
    ring
  have hdiv := Nat.div_add_mod n (10 ^ (e + 1))
  have hmod := Nat.mod_lt n hgrid
  rw [Nat.mul_comm] at hdiv
  have hstep : 2 ^ (l + 1) = 2 * 2 ^ l := pow_succ' 2 l
  rw [hspaced.contains_eq, hspaced.contains_eq, Nat.add_mul, Nat.one_mul, hstep]
  clear heq hexact hspaced hstep
  generalize n / 10 ^ (e + 1) * 10 ^ (e + 1) = below at *
  generalize n % 10 ^ (e + 1) = rest at *
  generalize 10 ^ (e + 1) = grid at *
  generalize 2 ^ l = half at *
  split_ifs with heven hpower hpower
  all_goals simp only [decide_eq_true_eq]
  · have := hdouble hpower
    omega
  · omega
  · have := hdouble hpower
    omega
  · omega

theorem Tie.nearest_cases (tie : Tie) (num den : Nat) (hden : 0 < den) :
    tie.nearest num den = num / den ∨ tie.nearest num den = num / den + 1 := by
  cases tie with
  | even =>
    rcases Binary64.roundDiv_cases num den with ⟨h, -⟩ | ⟨h, -⟩
    · exact .inl h
    · exact .inr h
  | upper =>
    have hrest := Nat.mod_lt num hden
    have hnum := Nat.div_add_mod num den
    have hdouble : 2 * num + den = 2 * (num % den) + den + num / den * (2 * den) := by
      rw [Nat.mul_comm] at hnum
      calc 2 * num + den = 2 * (num / den * den + num % den) + den := by rw [hnum]
        _ = 2 * (num % den) + den + num / den * (2 * den) := by ring
    have hquotient : (2 * (num % den) + den) / (2 * den) < 2 :=
      Nat.div_lt_of_lt_mul (by omega)
    rw [Tie.nearest, hdouble, Nat.add_mul_div_right _ _ (by omega)]
    generalize (2 * (num % den) + den) / (2 * den) = carry at hquotient
    clear hdouble hnum hrest
    omega

theorem contains_of_onGrid? {tie : Tie} {reach : Reach} {digits e : Nat}
    (h : onGrid? tie (n * oneUnits) reach e = some digits) : reach.contains digits e = true := by
  rw [onGrid?_natCast] at h
  split at h
  · rename_i hbelow habove
    have hden : 0 < 10 ^ e * oneUnits := Nat.mul_pos (by positivity) Binary64.oneUnits_pos
    have hquotient : n * oneUnits / (10 ^ e * oneUnits) = n / 10 ^ e :=
      Nat.mul_div_mul_right _ _ Binary64.oneUnits_pos
    cases h
    rcases tie.nearest_cases (n * oneUnits) _ hden with hnearest | hnearest
    · rw [hnearest, hquotient]
      exact hbelow
    · rw [hnearest, hquotient]
      exact habove
  · rename_i hbelow _
    cases h
    exact hbelow
  · rename_i _ habove
    cases h
    exact habove
  · cases h

theorem onGrid?_ne_none (tie : Tie) {e : Nat} (hexact : 2 ^ excessBits n ∣ n)
    (hfine : 10 ^ 16 * 10 ^ (e + 1) ≤ n) :
    onGrid? tie (n * oneUnits) (Reach.ofUnits (n * oneUnits)) (e + 1 : Nat) ≠ none := by
  rw [onGrid?_natCast]
  rcases contains_around hexact hfine with hbelow | habove
  · rw [hbelow]
    split <;> simp_all
  · rw [habove]
    split <;> simp_all

/-- The search comes to an end: at the latest where the grid is that of the integers or finer than
    the spacing. -/
theorem shortestFrom_reads_back (tie : Tie) (hn : n ≠ 0) (hexact : 2 ^ excessBits n ∣ n)
    {tries e : Nat} (htries : e ≤ tries ∨ 10 ^ 16 * 10 ^ (e - tries) ≤ n) :
    ∃ k, (shortestFrom tie (n * oneUnits) (Reach.ofUnits (n * oneUnits)) (tries + 1) e).Denotes k ∧
      nearestNat k = n := by
  have hfound {digits e : Nat}
      (hgrid : onGrid? tie (n * oneUnits) (Reach.ofUnits (n * oneUnits)) e = some digits) :
      ∃ k, (trim (digitCount digits) ⟨digits, e⟩).Denotes k ∧ nearestNat k = n :=
    ⟨digits * 10 ^ e, Denotes.trim ⟨Int.natCast_nonneg e, rfl⟩ _,
      nearestNat_of_contains hn hexact (contains_of_onGrid? hgrid)⟩
  have hcoarse {e : Nat}
      (hgrid : onGrid? tie (n * oneUnits) (Reach.ofUnits (n * oneUnits)) e = none) : e ≠ 0 := by
    rintro rfl
    rw [onGrid?_zero tie hn] at hgrid
    cases hgrid
  induction tries generalizing e with
  | zero =>
    rw [shortestFrom]
    cases hgrid : onGrid? tie (n * oneUnits) (Reach.ofUnits (n * oneUnits)) e with
    | some digits => exact hfound hgrid
    | none =>
      obtain ⟨e, rfl⟩ := Nat.exists_eq_succ_of_ne_zero (hcoarse hgrid)
      have hfine := htries.resolve_left (Nat.not_succ_le_zero e)
      exact absurd hgrid (onGrid?_ne_none tie hexact hfine)
  | succ tries ih =>
    rw [shortestFrom]
    cases hgrid : onGrid? tie (n * oneUnits) (Reach.ofUnits (n * oneUnits)) e with
    | some digits => exact hfound hgrid
    | none =>
      obtain ⟨e, rfl⟩ := Nat.exists_eq_succ_of_ne_zero (hcoarse hgrid)
      dsimp only
      rw [Int.natCast_succ, Int.add_sub_cancel]
      rw [Nat.succ_sub_succ] at htries
      exact ih (htries.imp_left Nat.le_of_succ_le_succ)

theorem shortest_reads_back (tie : Tie) (hn : n ≠ 0) (hexact : 2 ^ excessBits n ∣ n) :
    ∃ k, (shortest tie (n * oneUnits)).Denotes k ∧ nearestNat k = n := by
  have hunits : n * oneUnits ≠ 0 := Nat.mul_ne_zero hn Binary64.oneUnits_pos.ne'
  rw [shortest, if_neg hunits, leadingExponent_mul_oneUnits hn]
  refine shortestFrom_reads_back tie hn hexact ?_
  rcases le_or_gt (digitCount n - 1) 16 with hshort | hlong
  · exact .inl hshort
  · -- A number has at least the size of its first digit.
    have hsize : 10 ^ (digitCount n - 1) ≤ n := by
      by_contra hlt
      have hcount : digitCount n ≤ digitCount n - 1 :=
        (Nat.length_toDigits_le_iff (by decide) (by omega)).2 (Nat.lt_of_not_le hlt)
      omega
    refine .inr (le_of_eq_of_le ?_ hsize)
    rw [← pow_add, Nat.add_sub_cancel' hlong.le]

end Decimal

theorem toNat_of_isDigit {c : Char} (h : c.isDigit = true) : 48 ≤ c.toNat ∧ c.toNat ≤ 57 := by
  simp only [Char.isDigit, ge_iff_le, Bool.and_eq_true, decide_eq_true_eq] at h
  exact h

namespace Text

theorem isBlank_of_isDigit {c : Char} (h : c.isDigit = true) : isBlank c = false := by
  have hbounds := toNat_of_isDigit h
  rw [Bool.eq_false_iff]
  intro hblank
  simp [isBlank, CharClass.contains, blank] at hblank
  omega

theorem trimChars_of_forall {cs : List Char} (h : ∀ c ∈ cs, isBlank c = false) :
    trimChars cs = cs := by
  have hkeep {l : List Char} (hl : ∀ c ∈ l, isBlank c = false) : l.dropWhile isBlank = l :=
    List.dropWhile_eq_self_iff.2 fun hpos => by simp [hl _ (List.getElem_mem hpos)]
  have hreverse : ∀ c ∈ cs.reverse, isBlank c = false := fun c hc => h c (List.mem_reverse.1 hc)
  rw [trimChars, hkeep h, hkeep hreverse, List.reverse_reverse]

end Text

namespace Binary64

theorem lowered_ne_word {d : Char} (hd : d.isDigit = true) (rest : List Char) (letter : Char)
    (letters : List Char) (hletter : 57 < letter.toNat) :
    String.ofList ((d :: rest).map Char.toLower) ≠ String.ofList (letter :: letters) := by
  have hbounds := toNat_of_isDigit hd
  have hlower : d.toLower = d := by
    unfold Char.toLower
    rw [dif_neg]
    rintro ⟨hupper, -⟩
    have : 65 ≤ d.toNat := hupper
    omega
  intro heq
  have hhead := (List.cons.inj (String.ofList_injective heq)).1
  rw [hlower] at hhead
  rw [hhead] at hbounds
  omega

theorem ofText?_digits {digits : List Char} (hne : digits ≠ [])
    (hdigits : ∀ c ∈ digits, c.isDigit = true) (negative : Bool) :
    ofText? ((if negative then ['-'] else []) ++ digits) =
      some ((⟨NumberLiteral.digitsValue digits, 0⟩ : Decimal).toBinary64 negative) := by
  have htake := List.takeWhile_eq_self_iff.2 hdigits
  have hdrop := List.dropWhile_eq_nil_iff.2 hdigits
  obtain ⟨d, rest, rfl⟩ := List.exists_cons_of_ne_nil hne
  have hd := hdigits d List.mem_cons_self
  have hsign : d ≠ '-' ∧ d ≠ '+' := by
    constructor <;>
      · rintro rfl
        exact absurd hd (by decide)
  have hinf := lowered_ne_word hd rest 'i' ['n', 'f'] (by decide)
  have hinfinity := lowered_ne_word hd rest 'i' ['n', 'f', 'i', 'n', 'i', 't', 'y'] (by decide)
  have hnan := lowered_ne_word hd rest 'n' ['a', 'n'] (by decide)
  cases negative with
  | true =>
    simp [-List.map_cons, ofText?, NumberLiteral.split?, htake, hdrop, hinf, hinfinity, hnan,
      NumberLiteral.toBinary64, NumberLiteral.decimal]
  | false =>
    simp [-List.map_cons, ofText?, NumberLiteral.split?, htake, hdrop, hinf, hinfinity, hnan,
      NumberLiteral.toBinary64, NumberLiteral.decimal, hsign]

theorem ofInt_zero : ofInt 0 = .finite false 0 := by
  rw [ofInt_eq (by decide), Int.natAbs_zero, nearestNat_of_dvd (dvd_zero _), Nat.zero_mul]
  rfl

theorem ofText?_toString {k : Int} (hk : k.natAbs < 10 ^ 20) :
    ofText? (toString k).toList = some (ofInt k) := by
  have hne : Decimal.numeral k.natAbs ≠ [] := Nat.toDigits_ne_nil
  have hread := ofText?_digits hne
    (fun c hc => Nat.isDigit_of_mem_toDigits (by decide) (by decide) hc) (decide (k < 0))
  have hvalue : NumberLiteral.digitsValue (Decimal.numeral k.natAbs) = k.natAbs :=
    Nat.ofDigitChars_toDigits (by decide) (by decide)
  simp only [decide_eq_true_eq] at hread
  rw [toString_int_eq, String.toList_ofList, hread, hvalue]
  refine congrArg some ?_
  unfold Decimal.toBinary64
  rcases eq_or_ne k 0 with rfl | hzero
  · exact ofInt_zero.symm
  have hpos : 0 < Decimal.digitCount k.natAbs := Nat.length_toDigits_pos
  have hcount : Decimal.digitCount k.natAbs ≤ 20 :=
    (Nat.length_toDigits_le_iff (by decide) (by decide)).2 hk
  have hscale : Decimal.scale ⟨k.natAbs, 0⟩ = Decimal.digitCount k.natAbs - 1 := Int.add_zero _
  rw [if_neg (Int.natAbs_ne_zero.2 hzero), hscale, if_neg (by omega), if_neg (by omega),
    if_pos le_rfl]
  simp [ofInt]

theorem natAbs_nearest (n : Int) : (nearest n).natAbs = nearestNat n.natAbs := by
  rw [nearest_eq]
  split_ifs <;> omega

theorem nearestNat_pos {n : Nat} (hn : n ≠ 0) : 0 < nearestNat n :=
  (Nat.two_pow_pos _).trans_le (two_pow_log2_le_nearestNat hn)

theorem nearest_neg_iff (n : Int) : nearest n < 0 ↔ n < 0 := by
  rw [nearest_eq]
  split_ifs with hneg
  · have hpos := nearestNat_pos (n := n.natAbs) (by omega)
    omega
  · omega

theorem lt_of_nearestNat_le {k bits : Nat} (h : nearestNat k ≤ 2 ^ bits) : k < 2 ^ (bits + 1) := by
  rcases eq_or_ne k 0 with rfl | hk
  · exact Nat.two_pow_pos _
  · have hlog := (two_pow_log2_le_nearestNat hk).trans h
    have hbits := (Nat.pow_le_pow_iff_right (by decide)).1 hlog
    exact (Nat.log2_lt hk).1 (by omega)

end Binary64

namespace Value

open Binary64 (nearest)

theorem numberOfText_toString {k : Int} (hk : k.natAbs < 10 ^ 20) :
    numberOfText (toString k) = .ofInt k := by
  have hchars : ∀ c ∈ (toString k).toList, Text.isBlank c = false := by
    rw [toString_int_eq, String.toList_ofList]
    intro c hc
    rcases List.mem_append.1 hc with hsign | hdigit
    · split_ifs at hsign
      · rw [List.mem_singleton.1 hsign]
        decide
      · cases hsign
    · exact Text.isBlank_of_isDigit
        (Nat.isDigit_of_mem_toDigits (by decide) (by decide) hdigit)
  have hne : (toString k).toList ≠ [] := by
    rw [toString_int_eq, String.toList_ofList]
    exact List.append_ne_nil_of_right_ne_nil _ Nat.toDigits_ne_nil
  unfold numberOfText
  dsimp only
  rw [Text.trimChars_of_forall hchars, List.isEmpty_eq_false_iff.2 hne, if_neg Bool.false_ne_true,
    Binary64.ofText?_toString hk, Option.getD_some]

theorem numberText_ofInt_eq_numeral {n : Int} (hn : n.natAbs < 2 ^ 64) :
    ∃ k : Int, numberText (.ofInt n) = toString k ∧ (k < 0 ↔ n < 0) ∧
      nearestNat k.natAbs = nearestNat n.natAbs := by
  rw [numberText, Binary64.truncate?_ofInt hn]
  dsimp only
  split_ifs with hshort
  · refine ⟨nearest n, rfl, Binary64.nearest_neg_iff n, ?_⟩
    rw [Binary64.natAbs_nearest, Binary64.nearestNat_of_dvd (Binary64.nearestNat_exact _)]
  · have hzero : n.natAbs ≠ 0 := by
      rintro hzero
      obtain rfl := Int.natAbs_eq_zero.1 hzero
      exact hshort (by decide +kernel)
    obtain ⟨k, hdenotes, hk⟩ := Decimal.shortest_reads_back .upper
      (Binary64.nearestNat_pos hzero).ne' (Binary64.nearestNat_exact n.natAbs)
    have hpos : 0 < k := by
      refine Nat.pos_of_ne_zero ?_
      rintro rfl
      exact (Binary64.nearestNat_pos hzero).ne (hk.symm.trans rfl).symm
    have hsign : (if n < 0 then -(k : Int) else k) < 0 ↔ n < 0 := by
      split_ifs <;> omega
    have hsize : (if n < 0 then -(k : Int) else k).natAbs = k := by
      split_ifs <;> omega
    refine ⟨if n < 0 then -k else k, ?_, hsign, by rw [hsize, hk]⟩
    rw [Binary64.ofInt_eq hn, Binary64.toPlainText, hdenotes.positional hpos, toString_int_eq,
      hsize]
    simp only [hsign, decide_eq_true_eq]

/-- The text of an integer is the numeral of an integer that is rounded to the same number, and is
    read as that number. -/
theorem numberText_reads_back {n : Int} (hn : n.natAbs < 2 ^ 64) :
    ∃ k : Int, numberText (.ofInt n) = toString k ∧ nearest k = nearest n ∧
      numberOfText (toString k) = .ofInt n := by
  obtain ⟨k, htext, hsign, hsize⟩ := numberText_ofInt_eq_numeral hn
  have hle : nearestNat k.natAbs ≤ 2 ^ 64 := by
    have hmono := Binary64.nearestNat_mono hn.le
    rwa [Binary64.nearestNat_of_dvd (n := 2 ^ 64) (by decide), ← hsize] at hmono
  have hbound : k.natAbs < 10 ^ 20 := (Binary64.lt_of_nearestNat_le hle).trans (by decide)
  refine ⟨k, htext, Binary64.nearest_congr hsign hsize, ?_⟩
  rw [numberOfText_toString hbound, Binary64.ofInt_congr hsign hsize]

end Value

end PinFlow
