import PinFlow.Proofs.Number.ReadBack
import PinFlow.PureFunction

set_option autoImplicit false

/-!
# Pure functions of integers

Numbers are compared, and drawn between, as binary numbers of 53 significant bits. Integers of more
bits may be taken for their neighbours: a comparison then answers as it does for equal integers, and
never the other way round, and a random integer may lie outside of its bounds. The identifier of a
domain object has all digits of a number, display text those of its 53 bits.
-/

namespace PinFlow

def Number.Holds (n : Int) : Prop := leastInt ≤ n ∧ n ≤ greatestInt

instance (n : Int) : Decidable (Number.Holds n) := inferInstanceAs (Decidable (_ ∧ _))

theorem Number.Holds.natAbs_lt {n : Int} (h : Number.Holds n) : n.natAbs < 2 ^ 64 := by
  obtain ⟨hleast, hgreatest⟩ := h
  unfold leastInt at hleast
  unfold greatestInt at hgreatest
  omega

theorem Value.toNumber_int (n : Int) : toNumber (some (.int n)) = .ofInt n := rfl

theorem Value.int_inj {m n : Int} : Value.int m = .int n ↔ m = n := by
  simp [Value.int]

namespace PureFunction

open Binary64 (nearest Exact Apart)

variable {m n : Int} {inputs : Fields Value}

def comparisons : List (PureFunction × (Int → Int → Bool)) :=
  [(.compareEqual, fun m n => decide (m = n)), (.compareNotEqual, fun m n => !decide (m = n)),
    (.compareGreater, fun m n => decide (n < m)), (.compareGreaterEqual, fun m n => decide (n ≤ m)),
    (.compareLess, fun m n => decide (m < n)), (.compareLessEqual, fun m n => decide (m ≤ n))]

theorem comparison_congr {f : PureFunction} {test : Int → Int → Bool}
    (h : (f, test) ∈ comparisons) {k l : Int} (hlt : k < l ↔ m < n) (hgt : l < k ↔ n < m) :
    test k l = test m n := by
  have heq : k = l ↔ m = n := by omega
  have hle : k ≤ l ↔ m ≤ n := by omega
  have hge : l ≤ k ↔ n ≤ m := by omega
  simp only [comparisons, List.mem_cons, Prod.mk.injEq, List.not_mem_nil, or_false] at h
  rcases h with ⟨-, rfl⟩ | ⟨-, rfl⟩ | ⟨-, rfl⟩ | ⟨-, rfl⟩ | ⟨-, rfl⟩ | ⟨-, rfl⟩ <;>
    simp only [hlt, hgt, heq, hle, hge]

theorem evaluate_comparison (hm : Number.Holds m) (hn : Number.Holds n)
    (ha : inputs.get? "a" = some (.int m)) (hb : inputs.get? "b" = some (.int n)) (draw : Nat)
    {f : PureFunction} {test : Int → Int → Bool} (h : (f, test) ∈ comparisons) :
    f.evaluate inputs draw = some (.bool (test (nearest m) (nearest n))) := by
  have hm := hm.natAbs_lt
  have hn := hn.natAbs_lt
  have hequal : Value.looseEq (some (.int m)) (some (.int n)) =
      decide (nearest m = nearest n) := by
    rw [← Binary64.eq_ofInt hm hn]
    rfl
  simp only [comparisons, List.mem_cons, Prod.mk.injEq, List.not_mem_nil, or_false] at h
  rcases h with ⟨rfl, rfl⟩ | ⟨rfl, rfl⟩ | ⟨rfl, rfl⟩ | ⟨rfl, rfl⟩ | ⟨rfl, rfl⟩ | ⟨rfl, rfl⟩ <;>
    simp only [evaluate, ha, hb, hequal, Value.toNumber_int, Binary64.lt_ofInt hm hn,
      Binary64.lt_ofInt hn hm, Binary64.le_ofInt hm hn, Binary64.le_ofInt hn hm]

theorem comparison_nearest {f : PureFunction} {test : Int → Int → Bool}
    (h : (f, test) ∈ comparisons) (hapart : Apart m n) :
    test (nearest m) (nearest n) = test m n :=
  comparison_congr h (Binary64.nearest_lt_iff hapart) (Binary64.nearest_lt_iff hapart.symm)

theorem comparison_nearest_or {f : PureFunction} {test : Int → Int → Bool}
    (h : (f, test) ∈ comparisons) (m n : Int) :
    test (nearest m) (nearest n) = test m n ∨ test (nearest m) (nearest n) = test n n := by
  have hle : m ≤ n → nearest m ≤ nearest n := Binary64.nearest_mono
  have hge : n ≤ m → nearest n ≤ nearest m := Binary64.nearest_mono
  rcases eq_or_ne (nearest m) (nearest n) with hequal | hdiffer
  · exact .inr (comparison_congr h (by omega) (by omega))
  · exact .inl (comparison_congr h (by omega) (by omega))

def idProjections : List (PureFunction × String) :=
  [(.userId, "user"), (.channelId, "channel"), (.guildId, "guild"), (.roleId, "role")]

theorem evaluate_idProjection (n : Int) {f : PureFunction} {pin : String}
    (h : (f, pin) ∈ idProjections) (hpin : inputs.get? pin = some (.int n)) (draw : Nat) :
    f.evaluate inputs draw = some (.string (toString n)) := by
  simp only [idProjections, List.mem_cons, Prod.mk.injEq, List.not_mem_nil, or_false] at h
  rcases h with ⟨rfl, rfl⟩ | ⟨rfl, rfl⟩ | ⟨rfl, rfl⟩ | ⟨rfl, rfl⟩ <;>
    simp only [evaluate, hpin, Value.int, idOf?, Number.text]

theorem evaluate_asString (hvalue : inputs.get? "value" = some (.int n)) (draw : Nat) :
    evaluate .asString inputs draw = some (.string (Value.numberText (.ofInt n))) := by
  simp only [evaluate, hvalue]
  rfl

/-- Integers are compared as numbers of 53 significant bits: as they are if rounding tells them
    apart, and else perhaps as if they were equal. Display text has the digits of an integer of
    this precision below `2 ^ 54`; of every integer it has the digits of one that is rounded to the
    same number, and is read as this number again. Identifiers have the digits of every integer. -/
theorem integers_compared_and_written {m n : Int} (hm : Number.Holds m) (hn : Number.Holds n) :
    (∀ (inputs : Fields Value) (draw : Nat), inputs.get? "a" = some (.int m) →
      inputs.get? "b" = some (.int n) → ∀ f test, (f, test) ∈ comparisons →
        f.evaluate inputs draw = some (.bool (test (nearest m) (nearest n))) ∧
        (Apart m n → f.evaluate inputs draw = some (.bool (test m n))) ∧
        (f.evaluate inputs draw = some (.bool (test m n)) ∨
          f.evaluate inputs draw = some (.bool (test n n)))) ∧
    (∀ (inputs : Fields Value) (draw : Nat), inputs.get? "value" = some (.int n) →
      Exact n → n.natAbs < 2 ^ 54 →
        evaluate .asString inputs draw = some (.string (toString n))) ∧
    (∀ (inputs : Fields Value) (draw : Nat), inputs.get? "value" = some (.int n) →
      ∃ k : Int, evaluate .asString inputs draw = some (.string (toString k)) ∧
        nearest k = nearest n ∧ Value.toNumber (some (.string (toString k))) = .ofInt n) ∧
    ∀ (inputs : Fields Value) (draw : Nat) (f : PureFunction) (pin : String),
      (f, pin) ∈ idProjections → inputs.get? pin = some (.int n) →
        f.evaluate inputs draw = some (.string (toString n)) := by
  refine ⟨?_, ?_, ?_, ?_⟩
  · intro inputs draw ha hb f test hf
    have hresult := evaluate_comparison hm hn ha hb draw hf
    refine ⟨hresult, fun hapart => ?_, ?_⟩
    · rw [hresult, comparison_nearest hf hapart]
    · rcases comparison_nearest_or hf m n with hright | hequal
      · exact .inl (hresult.trans (by rw [hright]))
      · exact .inr (hresult.trans (by rw [hequal]))
  · intro inputs draw hvalue hexact hsmall
    rw [evaluate_asString hvalue, Value.numberText_ofInt hexact hsmall]
  · intro inputs draw hvalue
    obtain ⟨k, htext, hnearest, hread⟩ := Value.numberText_reads_back hn.natAbs_lt
    exact ⟨k, by rw [evaluate_asString hvalue, htext], hnearest, hread⟩
  · intro inputs draw f pin hf hpin
    exact evaluate_idProjection n hf hpin draw

/-- The largest integer below `2 ^ 53` is told apart from an integer of 54 bits, and it is written
    in full although it is beyond the range of short integers. The greatest integer of all is
    written with the digits of another one that is the same number. -/
theorem integers_compared_and_written_brink :
    Number.Holds 9007199254740993 ∧ Number.Holds 9007199254740991 ∧
      Apart 9007199254740993 9007199254740991 ∧
      evaluate .compareGreater [("a", .int 9007199254740993), ("b", .int 9007199254740991)] 0 =
        some (.bool true) ∧
      evaluate .asString [("value", .int 9007199254740991)] 0 =
        some (.string "9007199254740991") ∧
      evaluate .guildId [("guild", .int 9007199254740991)] 0 =
        some (.string "9007199254740991") ∧
      Number.Holds 18446744073709551615 ∧
      ∃ k : Int, toString k = "18446744073709552000" ∧
        evaluate .asString [("value", .int 18446744073709551615)] 0 =
          some (.string (toString k)) ∧
        nearest k = nearest 18446744073709551615 ∧
        Value.toNumber (some (.string (toString k))) = .ofInt 18446744073709551615 := by
  have hm : Number.Holds 9007199254740993 := by decide
  have hn : Number.Holds 9007199254740991 := by decide
  have hapart : Apart 9007199254740993 9007199254740991 := .inr (.inl (by decide))
  have hexact : Exact 9007199254740991 := Binary64.exact_of_le (by decide)
  have hgreater : (PureFunction.compareGreater, fun m n : Int => decide (n < m)) ∈ comparisons := by
    simp [comparisons]
  have hgreatest : Number.Holds 18446744073709551615 := by decide
  have hdigits : Value.numberText (.ofInt 18446744073709551615) = "18446744073709552000" := by
    decide +kernel
  obtain ⟨hcompare, htext, -, hid⟩ := integers_compared_and_written hm hn
  obtain ⟨-, -, hread, -⟩ := integers_compared_and_written hm hgreatest
  obtain ⟨k, hk, hnearest, hnumber⟩ := hread [("value", .int 18446744073709551615)] 0 rfl
  refine ⟨hm, hn, hapart, ?_, ?_, ?_, hgreatest, k, ?_, hk, hnearest, hnumber⟩
  · exact (hcompare [("a", .int 9007199254740993), ("b", .int 9007199254740991)] 0 rfl rfl _ _
      hgreater).2.1 hapart
  · exact htext _ 0 rfl hexact (by decide)
  · exact hid _ 0 .guildId "guild" (by decide) rfl
  · rw [evaluate_asString rfl, hdigits] at hk
    exact (Value.string.inj (Option.some.inj hk)).symm

/-- From `2 ^ 53` on, neighbours are taken for each other. -/
theorem integers_blurred :
    Number.Holds 9007199254740992 ∧ Number.Holds 9007199254740993 ∧
      evaluate .compareEqual [("a", .int 9007199254740992), ("b", .int 9007199254740993)] 0 =
        some (.bool true) ∧
      evaluate .compareLess [("a", .int 9007199254740992), ("b", .int 9007199254740993)] 0 =
        some (.bool false) ∧
      evaluate .asString [("value", .int 9007199254740993)] 0 =
        some (.string "9007199254740992") ∧
      evaluate .userId [("user", .int 9007199254740993)] 0 =
        some (.string "9007199254740993") := by
  have hm : Number.Holds 9007199254740992 := by decide
  have hn : Number.Holds 9007199254740993 := by decide
  have hsame : nearest 9007199254740992 = nearest 9007199254740993 := by decide +kernel
  have hbinary : Binary64.ofInt 9007199254740993 = .ofInt 9007199254740992 := by decide +kernel
  have hequal : (PureFunction.compareEqual, fun m n : Int => decide (m = n)) ∈ comparisons := by
    simp [comparisons]
  have hless : (PureFunction.compareLess, fun m n : Int => decide (m < n)) ∈ comparisons := by
    simp [comparisons]
  refine ⟨hm, hn, ?_, ?_, ?_, ?_⟩
  · rw [evaluate_comparison hm hn rfl rfl 0 hequal, decide_eq_true hsame]
  · rw [evaluate_comparison hm hn rfl rfl 0 hless, decide_eq_false hsame.not_lt]
  · rw [evaluate_asString rfl, hbinary,
      Value.numberText_ofInt (Binary64.exact_of_le (by decide)) (by decide)]
    rfl
  · exact evaluate_idProjection 9007199254740993 (show (.userId, "user") ∈ idProjections by
      decide) rfl 0

def drawnBetween (a b : Int) : Int × Int :=
  (clampWord (nearest (min a b)), clampWord (nearest (max a b)))

/-- Neither bound is moved outwards by the reading as a number and as an integer of 64 bits. -/
def KeepsBounds (a b : Int) : Prop :=
  min a b ≤ (drawnBetween a b).1 ∧ (drawnBetween a b).2 ≤ max a b

theorem clampWord_mono (h : m ≤ n) : clampWord m ≤ clampWord n := by
  unfold clampWord
  omega

theorem clampWord_of_le (h : n.natAbs ≤ 2 ^ 53) : clampWord n = n := by
  unfold clampWord leastWord greatestWord
  omega

theorem drawnBetween_le (a b : Int) : (drawnBetween a b).1 ≤ (drawnBetween a b).2 :=
  clampWord_mono (Binary64.nearest_mono min_le_max)

theorem keepsBounds_of_le {a b : Int} (ha : a.natAbs ≤ 2 ^ 53) (hb : b.natAbs ≤ 2 ^ 53) :
    KeepsBounds a b := by
  have hleast : (min a b).natAbs ≤ 2 ^ 53 := by omega
  have hgreatest : (max a b).natAbs ≤ 2 ^ 53 := by omega
  unfold KeepsBounds drawnBetween
  rw [Binary64.nearest_of_exact (Binary64.exact_of_le hleast), clampWord_of_le hleast,
    Binary64.nearest_of_exact (Binary64.exact_of_le hgreatest), clampWord_of_le hgreatest]
  exact ⟨le_refl _, le_refl _⟩

theorem wordBound_ofInt {whole? : Binary64 → Option Int} (hn : n.natAbs < 2 ^ 64)
    (h : whole? (.ofInt n) = some (nearest n)) :
    wordBound whole? (.ofInt n) = clampWord (nearest n) := by
  rw [Binary64.ofInt_eq hn] at h ⊢
  change clampWord ((whole? _).getD 0) = _
  rw [h, Option.getD_some]

theorem randomRange?_eq_some {x y low high : Binary64} {least greatest : Int}
    (hx : x.isNaN = false) (hy : y.isNaN = false)
    (hsorted : (if x.le y then (x, y) else (y, x)) = (low, high))
    (hleast : wordBound Binary64.ceil? low = least)
    (hgreatest : wordBound Binary64.floor? high = greatest) (h : least ≤ greatest) :
    randomRange? x y = some (least, greatest) := by
  unfold randomRange?
  rw [hx, hy, hsorted, if_neg (by decide)]
  dsimp only
  rw [hleast, hgreatest, if_neg (not_lt.2 h)]

theorem randomRange?_ofInt {a b : Int} (ha : a.natAbs < 2 ^ 64) (hb : b.natAbs < 2 ^ 64) :
    randomRange? (.ofInt a) (.ofInt b) = some (drawnBetween a b) := by
  have hceil {n : Int} (hn : n.natAbs < 2 ^ 64) := wordBound_ofInt hn (Binary64.ceil?_ofInt hn)
  have hfloor {n : Int} (hn : n.natAbs < 2 ^ 64) := wordBound_ofInt hn (Binary64.floor?_ofInt hn)
  have hmin : nearest (min a b) = min (nearest a) (nearest b) :=
    Monotone.map_min fun _ _ => Binary64.nearest_mono
  have hmax : nearest (max a b) = max (nearest a) (nearest b) :=
    Monotone.map_max fun _ _ => Binary64.nearest_mono
  have hnanA := Binary64.isNaN_ofInt ha
  have hnanB := Binary64.isNaN_ofInt hb
  unfold drawnBetween
  rw [hmin, hmax]
  rcases le_or_gt (nearest a) (nearest b) with hle | hgt
  · have hsorted : (Binary64.ofInt a).le (.ofInt b) = true := by
      rw [Binary64.le_ofInt ha hb, decide_eq_true hle]
    rw [min_eq_left hle, max_eq_right hle]
    exact randomRange?_eq_some hnanA hnanB (if_pos hsorted) (hceil ha) (hfloor hb)
      (clampWord_mono hle)
  · have hsorted : ¬ (Binary64.ofInt a).le (.ofInt b) = true := by
      rw [Binary64.le_ofInt ha hb, decide_eq_false (not_le.2 hgt)]
      decide
    rw [min_eq_right hgt.le, max_eq_left hgt.le]
    exact randomRange?_eq_some hnanA hnanB (if_neg hsorted) (hceil hb) (hfloor ha)
      (clampWord_mono hgt.le)

theorem pick_mem {range : Int × Int} (h : range.1 ≤ range.2) (draw : Nat) :
    range.1 ≤ pick range draw ∧ pick range draw ≤ range.2 := by
  have hsize : 0 < (range.2 - range.1 + 1).toNat := by omega
  have hrest := Nat.mod_lt draw hsize
  unfold pick
  omega

theorem exists_pick {range : Int × Int} {r : Int} (hleast : range.1 ≤ r) (hgreatest : r ≤ range.2) :
    ∃ draw, pick range draw = r := by
  refine ⟨(r - range.1).toNat, ?_⟩
  have hsmall : (r - range.1).toNat < (range.2 - range.1 + 1).toNat := by omega
  rw [pick, Nat.mod_eq_of_lt hsmall]
  omega

theorem evaluate_randomInt {a b : Int} (ha : Number.Holds a) (hb : Number.Holds b)
    (hmin : inputs.get? "min" = some (.int a)) (hmax : inputs.get? "max" = some (.int b))
    (draw : Nat) :
    evaluate .randomInt inputs draw = some (.int (pick (drawnBetween a b) draw)) := by
  simp only [evaluate, hmin, hmax, Value.toNumber_int,
    randomRange?_ofInt ha.natAbs_lt hb.natAbs_lt, Option.map_some]

theorem forall_pick_iff {range : Int × Int} (h : range.1 ≤ range.2) (least greatest : Int) :
    (∀ draw, least ≤ pick range draw ∧ pick range draw ≤ greatest) ↔
      least ≤ range.1 ∧ range.2 ≤ greatest := by
  constructor
  · intro hall
    obtain ⟨first, hfirst⟩ := exists_pick (le_refl range.1) h
    obtain ⟨last, hlast⟩ := exists_pick h (le_refl range.2)
    exact ⟨hfirst ▸ (hall first).1, hlast ▸ (hall last).2⟩
  · intro hbounds draw
    have hpick := pick_mem h draw
    omega

/-- Between integers an integer is always drawn, and from a range that is never empty: every integer
    of the range is drawn by some draw, and no other. The range lies within the bounds exactly if
    neither is moved outwards, as with bounds of up to `2 ^ 53` in size. -/
theorem randomInt_drawn_between {inputs : Fields Value} {a b : Int} (ha : Number.Holds a)
    (hb : Number.Holds b) (hmin : inputs.get? "min" = some (.int a))
    (hmax : inputs.get? "max" = some (.int b)) :
    ∃ least greatest, least ≤ greatest ∧
      randomRange? (Value.toNumber (inputs.get? "min")) (Value.toNumber (inputs.get? "max")) =
        some (least, greatest) ∧
      (∀ draw, ∃ r, evaluate .randomInt inputs draw = some (.int r) ∧
        least ≤ r ∧ r ≤ greatest) ∧
      (∀ r, least ≤ r → r ≤ greatest → ∃ draw, evaluate .randomInt inputs draw = some (.int r)) ∧
      ((∀ draw r, evaluate .randomInt inputs draw = some (.int r) →
        min a b ≤ r ∧ r ≤ max a b) ↔ KeepsBounds a b) ∧
      (a.natAbs ≤ 2 ^ 53 → b.natAbs ≤ 2 ^ 53 → KeepsBounds a b) := by
  have hordered := drawnBetween_le a b
  have hdrawn := evaluate_randomInt ha hb hmin hmax
  refine ⟨(drawnBetween a b).1, (drawnBetween a b).2, hordered, ?_, ?_, ?_, ?_, keepsBounds_of_le⟩
  · rw [hmin, hmax, Value.toNumber_int, Value.toNumber_int]
    exact randomRange?_ofInt ha.natAbs_lt hb.natAbs_lt
  · exact fun draw => ⟨_, hdrawn draw, pick_mem hordered draw⟩
  · intro r hleast hgreatest
    obtain ⟨draw, rfl⟩ := exists_pick hleast hgreatest
    exact ⟨draw, hdrawn draw⟩
  · simp only [hdrawn, Option.some.injEq, Value.int_inj, forall_eq']
    exact forall_pick_iff hordered _ _

/-- The widest bounds that are surely kept, in the reverse order. -/
def widestBounds : Fields Value :=
  [("max", .int (-9007199254740992)), ("min", .int 9007199254740992)]

theorem randomInt_drawn_between_widest :
    Number.Holds 9007199254740992 ∧ Number.Holds (-9007199254740992) ∧
      KeepsBounds 9007199254740992 (-9007199254740992) ∧
      ∀ draw r, evaluate .randomInt widestBounds draw = some (.int r) →
        -9007199254740992 ≤ r ∧ r ≤ 9007199254740992 := by
  have ha : Number.Holds 9007199254740992 := by decide
  have hb : Number.Holds (-9007199254740992) := by decide
  have hmin : widestBounds.get? "min" = some (.int 9007199254740992) := rfl
  have hmax : widestBounds.get? "max" = some (.int (-9007199254740992)) := rfl
  obtain ⟨_, _, _, _, _, _, hwithin, hkeeps⟩ := randomInt_drawn_between ha hb hmin hmax
  have hkept := hkeeps (by decide) (by decide)
  exact ⟨ha, hb, hkept, hwithin.2 hkept⟩

/-- An integer of 64 bits without a sign, and one of 54 bits, are out of the reach of draws. -/
theorem randomInt_drawn_outside :
    Number.Holds 18446744073709551615 ∧ Number.Holds 9007199254740993 ∧
      (∀ draw, evaluate .randomInt
          [("max", .int 18446744073709551615), ("min", .int 18446744073709551615)] draw =
        some (.int 9223372036854775807)) ∧
      ∀ draw, evaluate .randomInt
          [("max", .int 9007199254740993), ("min", .int 9007199254740993)] draw =
        some (.int 9007199254740992) := by
  have hgreatest : Number.Holds 18446744073709551615 := by decide
  have hbrink : Number.Holds 9007199254740993 := by decide
  have honly (k : Int) (draw : Nat) : pick (k, k) draw = k := by
    have hpick := @pick_mem (k, k) (le_refl k) draw
    exact le_antisymm hpick.2 hpick.1
  refine ⟨hgreatest, hbrink, fun draw => ?_, fun draw => ?_⟩
  · have hrange : drawnBetween 18446744073709551615 18446744073709551615 =
        (9223372036854775807, 9223372036854775807) := by decide +kernel
    rw [evaluate_randomInt hgreatest hgreatest rfl rfl, hrange, honly]
  · have hrange : drawnBetween 9007199254740993 9007199254740993 =
        (9007199254740992, 9007199254740992) := by decide +kernel
    rw [evaluate_randomInt hbrink hbrink rfl rfl, hrange, honly]

end PureFunction

end PinFlow
