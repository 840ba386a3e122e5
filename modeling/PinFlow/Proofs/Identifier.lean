import Mathlib.Data.String.Basic
import Mathlib.Tactic.Positivity
import Mathlib.Tactic.Ring
import PinFlow.Identifier

set_option autoImplicit false

/-!
# The text of identifiers

The digits of an identifier have a fixed number, the most significant first, and stand in the order
of the alphabet; so texts are ordered as the identifiers are. Reading takes back what writing gives,
and all other texts of 26 digits in either case as well: 26 digits hold two bits more than an
identifier, which are lost.
-/

namespace PinFlow

namespace Ulid

def ofDigits (ds : List Nat) : Nat := ds.foldl (fun n d => 32 * n + d) 0

theorem foldl_digits (ds : List Nat) (start : Nat) :
    ds.foldl (fun n d => 32 * n + d) start = start * 32 ^ ds.length + ofDigits ds := by
  induction ds generalizing start with
  | nil => simp [ofDigits]
  | cons d ds ih =>
    rw [ofDigits, List.foldl_cons, List.foldl_cons, ih, ih (32 * 0 + d), List.length_cons]
    ring

theorem ofDigits_cons (d : Nat) (ds : List Nat) :
    ofDigits (d :: ds) = d * 32 ^ ds.length + ofDigits ds := by
  rw [ofDigits, List.foldl_cons, foldl_digits, Nat.mul_zero, Nat.zero_add]

theorem ofDigits_lt {ds : List Nat} (h : ∀ d ∈ ds, d < 32) : ofDigits ds < 32 ^ ds.length := by
  induction ds with
  | nil => decide
  | cons d ds ih =>
    have hfirst : d < 32 := h d List.mem_cons_self
    have hrest := ih fun e he => h e (List.mem_cons_of_mem d he)
    rw [ofDigits_cons, List.length_cons]
    calc d * 32 ^ ds.length + ofDigits ds < d * 32 ^ ds.length + 32 ^ ds.length := by omega
      _ = (d + 1) * 32 ^ ds.length := by ring
      _ ≤ 32 * 32 ^ ds.length := Nat.mul_le_mul_right _ hfirst
      _ = 32 ^ (ds.length + 1) := by ring

theorem length_digits (count n : Nat) : (digits count n).length = count := by
  induction count with
  | zero => rfl
  | succ count ih => rw [digits, List.length_cons, ih]

theorem lt_of_mem_digits {count n d : Nat} (h : d ∈ digits count n) : d < 32 := by
  induction count with
  | zero => cases h
  | succ count ih =>
    rcases List.mem_cons.1 h with rfl | hrest
    · exact Nat.mod_lt _ (by decide)
    · exact ih hrest

theorem mod_pow_succ (n count : Nat) :
    n % 32 ^ (count + 1) = n / 32 ^ count % 32 * 32 ^ count + n % 32 ^ count := by
  rw [pow_succ, Nat.mod_mul]
  ring

theorem ofDigits_digits (count n : Nat) : ofDigits (digits count n) = n % 32 ^ count := by
  induction count with
  | zero => simp [digits, ofDigits, Nat.mod_one]
  | succ count ih =>
    rw [digits, ofDigits_cons, length_digits, ih, mod_pow_succ]
    rfl

theorem digits_congr {count m n : Nat} (h : m % 32 ^ count = n % 32 ^ count) :
    digits count m = digits count n := by
  induction count with
  | zero => rfl
  | succ count ih =>
    have hfirst : m / 32 ^ count % 32 = n / 32 ^ count % 32 := by
      rw [← Nat.mod_mul_right_div_self m, ← Nat.mod_mul_right_div_self n, ← pow_succ, h]
    have hrest : m % 32 ^ count = n % 32 ^ count := by
      have hdvd : 32 ^ count ∣ 32 ^ (count + 1) := pow_dvd_pow 32 count.le_succ
      rw [← Nat.mod_mod_of_dvd m hdvd, ← Nat.mod_mod_of_dvd n hdvd, h]
    rw [digits, digits, ih hrest]
    exact congrArg (· :: digits count n) hfirst

theorem digits_ofDigits {ds : List Nat} (h : ∀ d ∈ ds, d < 32) :
    digits ds.length (ofDigits ds) = ds := by
  induction ds with
  | nil => rfl
  | cons d ds ih =>
    have hrest := fun e he => h e (List.mem_cons_of_mem d he)
    have hlt := ofDigits_lt hrest
    have hfirst : (d * 32 ^ ds.length + ofDigits ds) / 32 ^ ds.length % 32 = d := by
      rw [Nat.add_comm, Nat.add_mul_div_right _ _ (by positivity), Nat.div_eq_of_lt hlt,
        Nat.zero_add, Nat.mod_eq_of_lt (h d List.mem_cons_self)]
    have htail : digits ds.length (d * 32 ^ ds.length + ofDigits ds) = ds := by
      rw [digits_congr (Nat.mul_add_mod_self_right d _ _), ih hrest]
    rw [ofDigits_cons, List.length_cons, digits, htail]
    exact congrArg (· :: ds) hfirst

theorem alphabet_increasing : alphabet.Pairwise (· < ·) := by decide

theorem length_alphabet : alphabet.length = 32 := by decide

theorem digitChar_eq {d : Nat} (h : d < alphabet.length) : digitChar d = alphabet[d] :=
  (List.getElem_eq_getD '0').symm

theorem digitChar_mem {d : Nat} (h : d < 32) : digitChar d ∈ alphabet := by
  rw [← length_alphabet] at h
  rw [digitChar_eq h]
  exact List.getElem_mem h

theorem digitChar_lt {d e : Nat} (h : d < e) (he : e < 32) : digitChar d < digitChar e := by
  have he : e < alphabet.length := length_alphabet ▸ he
  have hd : d < alphabet.length := h.trans he
  rw [digitChar_eq hd, digitChar_eq he]
  exact List.pairwise_iff_getElem.1 alphabet_increasing d e hd he h

theorem digitChar_inj {d e : Nat} (hd : d < 32) (he : e < 32) :
    digitChar d = digitChar e ↔ d = e := by
  refine ⟨fun h => ?_, fun h => h ▸ rfl⟩
  rcases Nat.lt_trichotomy d e with hlt | heq | hgt
  · exact absurd h (digitChar_lt hlt he).ne
  · exact heq
  · exact absurd h (digitChar_lt hgt hd).ne'

theorem digitValue?_eq_some_iff {c : Char} {d : Nat} :
    digitValue? c = some d ↔ d < 32 ∧ c.toUpper = digitChar d := by
  have hplace {i : Nat} (h : i < 32) (hi : alphabet.idxOf c.toUpper = i) :
      digitChar i = c.toUpper := by
    subst hi
    rw [← length_alphabet] at h
    rw [digitChar_eq h, List.getElem_idxOf]
  simp only [digitValue?, Option.ite_none_right_eq_some, Option.some.injEq]
  constructor
  · rintro ⟨hlt, rfl⟩
    exact ⟨hlt, (hplace hlt rfl).symm⟩
  · rintro ⟨hd, hc⟩
    have hmem : c.toUpper ∈ alphabet := hc ▸ digitChar_mem hd
    have hlt : alphabet.idxOf c.toUpper < 32 := length_alphabet ▸ List.idxOf_lt_length_iff.2 hmem
    exact ⟨hlt, (digitChar_inj hlt hd).1 ((hplace hlt rfl).trans hc)⟩

def IsDigit (c : Char) : Prop := ∃ d ∈ alphabet, c = d ∨ c = d.toLower

theorem toUpper_eq_or_toLower_toUpper (c : Char) : c.toUpper = c ∨ c.toUpper.toLower = c := by
  by_cases hsmall : 'a'.val ≤ c.val ∧ c.val ≤ 'z'.val
  · have hval : c.toUpper.val = c.val + ('A'.val - 'a'.val) := by
      delta Char.toUpper
      rw [dif_pos hsmall]
    have hcapital : c.toUpper.val ≥ 'A'.val ∧ c.toUpper.val ≤ 'Z'.val := by
      rw [hval]
      simp only [ge_iff_le, UInt32.le_iff_toNat_le, UInt32.toNat_add] at hsmall ⊢
      simp at hsmall ⊢
      omega
    have hback : c.toUpper.toLower.val = c.toUpper.val + ('a'.val - 'A'.val) := by
      delta Char.toLower
      rw [dif_pos hcapital]
    right
    apply Char.ext
    rw [hback, hval, UInt32.add_assoc]
    exact UInt32.add_zero c.val
  · exact .inl (dif_neg hsmall)

theorem toUpper_of_mem_alphabet {c : Char} (h : c ∈ alphabet) :
    c.toUpper = c ∧ c.toLower.toUpper = c := by
  have hall : alphabet.all fun c => decide (c.toUpper = c ∧ c.toLower.toUpper = c) := by decide
  exact of_decide_eq_true (List.all_eq_true.1 hall c h)

theorem isDigit_iff {c : Char} : IsDigit c ↔ c.toUpper ∈ alphabet := by
  constructor
  · rintro ⟨d, hd, hc⟩
    rcases hc with rfl | rfl
    · rwa [(toUpper_of_mem_alphabet hd).1]
    · rwa [(toUpper_of_mem_alphabet hd).2]
  · intro hmem
    refine ⟨c.toUpper, hmem, ?_⟩
    rcases toUpper_eq_or_toLower_toUpper c with h | h
    · exact .inl h.symm
    · exact .inr h.symm

instance (c : Char) : Decidable (IsDigit c) := decidable_of_iff _ isDigit_iff.symm

theorem isDigit_of_toUpper_eq {c : Char} {d : Nat} (hd : d < 32) (h : c.toUpper = digitChar d) :
    IsDigit c :=
  isDigit_iff.2 (h ▸ digitChar_mem hd)

theorem utf8Size_of_isDigit {c : Char} (h : IsDigit c) : c.utf8Size = 1 := by
  obtain ⟨d, hd, hc⟩ := h
  have hall : alphabet.all fun d => decide (d.utf8Size = 1 ∧ d.toLower.utf8Size = 1) := by decide
  obtain ⟨hcapital, hsmall⟩ := of_decide_eq_true (List.all_eq_true.1 hall d hd)
  rcases hc with rfl | rfl
  · exact hcapital
  · exact hsmall

theorem utf8ByteSize_of_isDigit {cs : List Char} (h : ∀ c ∈ cs, IsDigit c) :
    (String.ofList cs).utf8ByteSize = cs.length := by
  induction cs with
  | nil => rfl
  | cons c cs ih =>
    have hfirst : (String.ofList [c]).utf8ByteSize = 1 := by
      rw [← utf8Size_of_isDigit (h c List.mem_cons_self)]
      exact String.utf8ByteSize_singleton
    have hrest := ih fun e he => h e (List.mem_cons_of_mem c he)
    rw [← List.singleton_append, String.ofList_append, String.utf8ByteSize_append, hfirst, hrest,
      List.length_append, List.length_singleton]

/-- The text writes the digits of an identifier in either case. -/
structure Spells (s : String) (ds : List Nat) : Prop where
  length : ds.length = 26
  digit : ∀ d ∈ ds, d < 32
  capitals : s.toList.map Char.toUpper = ds.map digitChar

def IsText (s : String) : Prop := s.length = 26 ∧ ∀ c ∈ s.toList, IsDigit c

instance (s : String) : Decidable (IsText s) :=
  decidable_of_iff (s.length = 26 ∧ s.toList.all fun c => decide (IsDigit c)) (by simp [IsText])

theorem mapM_digitValue?_eq_some_iff {cs : List Char} {ds : List Nat} :
    cs.mapM digitValue? = some ds ↔
      (∀ d ∈ ds, d < 32) ∧ cs.map Char.toUpper = ds.map digitChar := by
  induction cs generalizing ds with
  | nil => cases ds <;> simp
  | cons c cs ih =>
    have hread : (c :: cs).mapM digitValue? = some ds ↔
        ∃ d rest, digitValue? c = some d ∧ cs.mapM digitValue? = some rest ∧ d :: rest = ds := by
      simp [List.mapM_cons, Option.bind_eq_some_iff]
    rw [hread]
    constructor
    · rintro ⟨d, rest, hfirst, hrest, rfl⟩
      obtain ⟨hd, hc⟩ := digitValue?_eq_some_iff.1 hfirst
      obtain ⟨hlt, hcs⟩ := ih.1 hrest
      exact ⟨List.forall_mem_cons.2 ⟨hd, hlt⟩, by rw [List.map_cons, List.map_cons, hc, hcs]⟩
    · rintro ⟨hlt, hcs⟩
      cases ds with
      | nil => cases hcs
      | cons d rest =>
        obtain ⟨hd, hrest⟩ := List.forall_mem_cons.1 hlt
        obtain ⟨hfirst, hmap⟩ := List.cons_eq_cons.1 hcs
        exact ⟨d, rest, digitValue?_eq_some_iff.2 ⟨hd, hfirst⟩, ih.2 ⟨hrest, hmap⟩, rfl⟩

section

variable {s : String} {ds : List Nat}

theorem isDigit_of_capitals {cs : List Char} (hdigit : ∀ d ∈ ds, d < 32)
    (h : cs.map Char.toUpper = ds.map digitChar) : ∀ c ∈ cs, IsDigit c := by
  intro c hc
  have hmem : c.toUpper ∈ ds.map digitChar := h ▸ List.mem_map_of_mem hc
  obtain ⟨d, hd, hchar⟩ := List.mem_map.1 hmem
  exact isDigit_of_toUpper_eq (hdigit d hd) hchar.symm

theorem utf8ByteSize_of_capitals (hdigit : ∀ d ∈ ds, d < 32)
    (h : s.toList.map Char.toUpper = ds.map digitChar) : s.utf8ByteSize = ds.length := by
  have hlength := congrArg List.length h
  have hsize := utf8ByteSize_of_isDigit (isDigit_of_capitals hdigit h)
  rw [List.length_map, List.length_map] at hlength
  rwa [String.ofList_toList, hlength] at hsize

theorem read_eq_ok_iff {u : Ulid} :
    read s = .ok u ↔ ∃ ds, Spells s ds ∧ ofNat (ofDigits ds) = u := by
  unfold read
  constructor
  · intro h
    split_ifs at h with hsize
    split at h
    · rename_i ds hread
      obtain ⟨hdigit, hcapitals⟩ := mapM_digitValue?_eq_some_iff.1 hread
      have hlength := (utf8ByteSize_of_capitals hdigit hcapitals).symm.trans hsize
      exact ⟨ds, ⟨hlength, hdigit, hcapitals⟩, Except.ok.inj h⟩
    · cases h
  · rintro ⟨ds, hspells, rfl⟩
    have hsize := utf8ByteSize_of_capitals hspells.digit hspells.capitals
    rw [if_pos (hsize.trans hspells.length),
      mapM_digitValue?_eq_some_iff.2 ⟨hspells.digit, hspells.capitals⟩]
    rfl

theorem isText_iff : IsText s ↔ ∃ ds, Spells s ds := by
  constructor
  · rintro ⟨hlength, hdigits⟩
    refine ⟨s.toList.map fun c => alphabet.idxOf c.toUpper, ?_, ?_, ?_⟩
    · rw [List.length_map, String.length_toList, hlength]
    · intro d hd
      obtain ⟨c, hc, rfl⟩ := List.mem_map.1 hd
      exact length_alphabet ▸ List.idxOf_lt_length_iff.2 (isDigit_iff.1 (hdigits c hc))
    · rw [List.map_map]
      apply List.map_congr_left
      intro c hc
      have hplace := List.idxOf_lt_length_iff.2 (isDigit_iff.1 (hdigits c hc))
      rw [Function.comp_apply, digitChar_eq hplace, List.getElem_idxOf]
  · rintro ⟨ds, hspells⟩
    refine ⟨?_, isDigit_of_capitals hspells.digit hspells.capitals⟩
    have hlength := congrArg List.length hspells.capitals
    rwa [List.length_map, List.length_map, hspells.length, String.length_toList] at hlength

theorem Spells.unique {es : List Nat} (hd : Spells s ds) (he : Spells s es) : ds = es := by
  have hread := mapM_digitValue?_eq_some_iff.2 ⟨hd.digit, hd.capitals⟩
  rw [mapM_digitValue?_eq_some_iff.2 ⟨he.digit, he.capitals⟩] at hread
  exact (Option.some.inj hread).symm

theorem toList_text (u : Ulid) : u.text.toList = (digits 26 u.value.val).map digitChar :=
  String.toList_ofList

theorem map_toUpper_digitChar (h : ∀ d ∈ ds, d < 32) :
    (ds.map digitChar).map Char.toUpper = ds.map digitChar := by
  rw [List.map_map]
  exact List.map_congr_left fun d hd => (toUpper_of_mem_alphabet (digitChar_mem (h d hd))).1

theorem spells_text (u : Ulid) : Spells u.text (digits 26 u.value.val) := by
  refine ⟨length_digits _ _, fun d hd => lt_of_mem_digits hd, ?_⟩
  rw [toList_text, map_toUpper_digitChar fun d hd => lt_of_mem_digits hd]

theorem Spells.toList_toUpper (h : Spells s ds) : s.toUpper.toList = ds.map digitChar := by
  rw [String.toUpper, String.toList_map, h.capitals]

theorem Spells.toUpper (h : Spells s ds) : Spells s.toUpper ds := by
  refine ⟨h.length, h.digit, ?_⟩
  rw [h.toList_toUpper, map_toUpper_digitChar h.digit]

theorem ofNat_val (u : Ulid) : ofNat u.value.val = u := by
  have hvalue : (⟨u.value.val % Nat.pow 2 128, Nat.mod_lt _ (by decide)⟩ : Fin (Nat.pow 2 128)) =
      u.value := Fin.ext (Nat.mod_eq_of_lt u.value.isLt)
  exact congrArg Ulid.mk hvalue

theorem ofDigits_digits_val (u : Ulid) : ofDigits (digits 26 u.value.val) = u.value.val := by
  have hlt : u.value.val < 32 ^ 26 := u.value.isLt.trans (by decide)
  rw [ofDigits_digits, Nat.mod_eq_of_lt hlt]

theorem read_text (u : Ulid) : read u.text = .ok u :=
  read_eq_ok_iff.2 ⟨_, spells_text u, by rw [ofDigits_digits_val, ofNat_val]⟩

theorem val_ofNat (n : Nat) : (ofNat n).value.val = n % 2 ^ 128 := rfl

/-- What is read is written with the same digits exactly if no bits are lost. -/
theorem Spells.text_eq_iff (h : Spells s ds) :
    (ofNat (ofDigits ds)).text = s.toUpper ↔ ofDigits ds < 2 ^ 128 := by
  constructor
  · intro htext
    have hdigits := (htext ▸ spells_text (ofNat (ofDigits ds))).unique h.toUpper
    rw [← hdigits, ofDigits_digits_val]
    exact (ofNat (ofDigits ds)).value.isLt
  · intro hlt
    have hdigits : digits 26 (ofDigits ds) = ds := h.length ▸ digits_ofDigits h.digit
    rw [← String.toList_inj, toList_text, val_ofNat, Nat.mod_eq_of_lt hlt, hdigits,
      h.toList_toUpper]

theorem Spells.ofDigits_lt_iff (h : Spells s ds) :
    ofDigits ds < 2 ^ 128 ↔ ∃ c, s.toList.head? = some c ∧ c ≤ '7' := by
  obtain ⟨hlength, hdigit, hcapitals⟩ := h
  match ds, s.toList, hcapitals with
  | d :: rest, c :: cs, hcapitals =>
    obtain ⟨hd, hrest⟩ := List.forall_mem_cons.1 hdigit
    have hchar : c.toUpper = digitChar d := (List.cons_eq_cons.1 hcapitals).1
    have hlow : c ≤ '7' ↔ d ≤ 7 := by
      have hall : ∀ d < 32, (digitChar d ≤ '7' ↔ d ≤ 7) ∧
          ((digitChar d).toLower ≤ '7' ↔ d ≤ 7) := by decide
      rcases toUpper_eq_or_toLower_toUpper c with hsame | hsmall
      · rw [← hsame, hchar]
        exact (hall d hd).1
      · rw [← hsmall, hchar]
        exact (hall d hd).2
    have hcount : rest.length = 25 := by simpa using hlength
    have hlt := ofDigits_lt hrest
    rw [hcount] at hlt
    simp only [ofDigits_cons, hcount, List.head?_cons, Option.some.injEq, exists_eq_left', hlow]
    omega

theorem map_digitChar_lt {count m n : Nat} (h : m % 32 ^ count < n % 32 ^ count) :
    (digits count m).map digitChar < (digits count n).map digitChar := by
  induction count with
  | zero => simp [Nat.mod_one] at h
  | succ count ih =>
    have hm := Nat.mod_lt (m / 32 ^ count) (show 32 > 0 by decide)
    have hn := Nat.mod_lt (n / 32 ^ count) (show 32 > 0 by decide)
    rw [mod_pow_succ, mod_pow_succ] at h
    simp only [digits, Nat.pow_eq, List.map_cons, List.cons_lt_cons_iff]
    rcases Nat.lt_trichotomy (m / 32 ^ count % 32) (n / 32 ^ count % 32) with hlt | heq | hgt
    · exact .inl (digitChar_lt hlt hn)
    · rw [heq] at h ⊢
      exact .inr ⟨rfl, ih (by omega)⟩
    · -- A larger first digit outweighs all others.
      have hweight := Nat.mul_le_mul_right (32 ^ count) (Nat.succ_le_of_lt hgt)
      rw [Nat.succ_mul] at hweight
      have hrest := Nat.mod_lt n (show 32 ^ count > 0 by positivity)
      omega

theorem text_lt_text {u v : Ulid} (h : u.value.val < v.value.val) : u.text < v.text := by
  have hu : u.value.val < 32 ^ 26 := u.value.isLt.trans (by decide)
  have hv : v.value.val < 32 ^ 26 := v.value.isLt.trans (by decide)
  rw [String.lt_iff_toList_lt, toList_text, toList_text]
  exact map_digitChar_lt (by rwa [Nat.mod_eq_of_lt hu, Nat.mod_eq_of_lt hv])

end

end Ulid

namespace Identifier

variable {kind : IdKind}

theorem toList_marked (kind : IdKind) (t : String) :
    (kind.tag ++ "_" ++ t).toList = (kind.tag ++ "_").toList ++ t.toList :=
  String.toList_append

theorem unmarked_marked (kind : IdKind) (t : String) :
    unmarked kind (kind.tag ++ "_" ++ t) = t := by
  have hprefix : (kind.tag ++ "_").toList.isPrefixOf (kind.tag ++ "_" ++ t).toList = true := by
    rw [toList_marked, List.isPrefixOf_iff_prefix]
    exact List.prefix_append _ _
  unfold unmarked
  dsimp only
  rw [if_pos hprefix, toList_marked, List.drop_left, String.ofList_toList]

theorem unmarked_cases (kind : IdKind) (s : String) :
    s = unmarked kind s ∨ s = kind.tag ++ "_" ++ unmarked kind s := by
  unfold unmarked
  dsimp only
  split_ifs with hprefix
  · right
    obtain ⟨rest, hrest⟩ := List.isPrefixOf_iff_prefix.1 hprefix
    rw [← String.toList_inj, toList_marked, ← hrest, List.drop_left, String.toList_ofList]
  · exact .inl rfl

theorem not_isText_marked (kind : IdKind) (t : String) : ¬ Ulid.IsText (kind.tag ++ "_" ++ t) := by
  rintro ⟨-, hdigits⟩
  have hmark : '_' ∈ (kind.tag ++ "_" ++ t).toList := by
    rw [toList_marked, String.toList_append]
    simp
  have hupper := Ulid.isDigit_iff.1 (hdigits _ hmark)
  exact absurd hupper (by decide)

theorem unmarked_eq {s t : String} (h : s = t ∨ s = kind.tag ++ "_" ++ t) (ht : Ulid.IsText t) :
    unmarked kind s = t := by
  rcases h with rfl | rfl
  · rcases unmarked_cases kind s with hsame | hmarked
    · exact hsame.symm
    · exact absurd (hmarked ▸ ht) (not_isText_marked kind _)
  · exact unmarked_marked kind t

theorem read_eq_ok_iff {s : String} {id : Identifier kind} :
    read kind s = .ok id ↔ Ulid.read (unmarked kind s) = .ok id.ulid := by
  unfold read
  split
  · rename_i ulid hread
    rw [hread, Except.ok.injEq, Except.ok.injEq]
    exact ⟨fun h => h ▸ rfl, fun h => congrArg Identifier.mk h⟩
  · rename_i reason hread
    simp [hread]

theorem exists_read_iff {s : String} :
    (∃ id, read kind s = .ok id) ↔
      ∃ t, (s = t ∨ s = kind.tag ++ "_" ++ t) ∧ Ulid.IsText t := by
  constructor
  · rintro ⟨id, hread⟩
    obtain ⟨ds, hspells, -⟩ := Ulid.read_eq_ok_iff.1 (read_eq_ok_iff.1 hread)
    exact ⟨unmarked kind s, unmarked_cases kind s, Ulid.isText_iff.2 ⟨ds, hspells⟩⟩
  · rintro ⟨t, hs, ht⟩
    obtain ⟨ds, hspells⟩ := Ulid.isText_iff.1 ht
    refine ⟨⟨.ofNat (Ulid.ofDigits ds)⟩, read_eq_ok_iff.2 ?_⟩
    rw [unmarked_eq hs ht]
    exact Ulid.read_eq_ok_iff.2 ⟨ds, hspells, rfl⟩

theorem read_written {s : String} (id : Identifier kind)
    (h : s = id.ulid.text ∨ s = kind.tag ++ "_" ++ id.ulid.text) : read kind s = .ok id := by
  rw [read_eq_ok_iff, unmarked_eq h (Ulid.isText_iff.2 ⟨_, Ulid.spells_text id.ulid⟩)]
  exact Ulid.read_text id.ulid

theorem not_read_other {other : IdKind} (h : other ≠ kind) (id : Identifier other) :
    ¬ ∃ id' : Identifier kind, read kind id.text = .ok id' := by
  rw [exists_read_iff]
  rintro ⟨t, hsame | hmarked, ht⟩
  · subst hsame
    exact not_isText_marked other id.ulid.text ht
  · have hfirst := congrArg (fun s => s.toList.head?) hmarked
    cases other <;> cases kind <;> simp [text, IdKind.tag, String.toList_append] at h hfirst

theorem text_lt_text {a b : Identifier kind} (h : a.ulid.value.val < b.ulid.value.val) :
    a.text < b.text := by
  rw [String.lt_iff_toList_lt, text, text, toList_marked, toList_marked]
  exact List.append_left_lt (String.lt_iff_toList_lt.1 (Ulid.text_lt_text h))

theorem compare_eq (a b : Identifier kind) : a.compare b = Ord.compare a.text b.text := by
  unfold Identifier.compare
  split_ifs with hlt heq
  · exact (compare_lt_iff_lt.2 (text_lt_text hlt)).symm
  · have hulid : a.ulid = b.ulid := by
      rw [← Ulid.ofNat_val a.ulid, heq, Ulid.ofNat_val]
    have htext : a.text = b.text := by rw [text, text, hulid]
    exact (compare_eq_iff_eq.2 htext).symm
  · exact (compare_gt_iff_gt.2 (text_lt_text (by omega))).symm

theorem compare_of_millis_lt {a b : Identifier kind} (h : a.ulid.millis < b.ulid.millis) :
    a.compare b = .lt :=
  if_pos (Nat.lt_of_div_lt_div h)

/-- Identifiers are read back from their texts, with or without the marker, and are ordered as
    their texts are, those of earlier times first. Reading takes exactly the texts of 26 digits in
    either case, and no text of the other kind; it gives the identifier with these digits exactly
    if the first of them is at most seven. -/
theorem text_reads_back_and_sorts (kind : IdKind) :
    (∀ id : Identifier kind, read kind id.text = .ok id ∧ read kind id.ulid.text = .ok id) ∧
    (∀ a b : Identifier kind, a.compare b = Ord.compare a.text b.text) ∧
    (∀ a b : Identifier kind, a.ulid.millis < b.ulid.millis → a.compare b = .lt) ∧
    (∀ s, (∃ id, read kind s = .ok id) ↔
      ∃ t, (s = t ∨ s = kind.tag ++ "_" ++ t) ∧ Ulid.IsText t) ∧
    (∀ (other : IdKind) (id : Identifier other), other ≠ kind →
      ¬ ∃ id', read kind id.text = .ok id') ∧
    ∀ s t, (s = t ∨ s = kind.tag ++ "_" ++ t) → Ulid.IsText t →
      ∃ id, read kind s = .ok id ∧
        (id.text = kind.tag ++ "_" ++ t.toUpper ↔ ∃ c, t.toList.head? = some c ∧ c ≤ '7') := by
  refine ⟨?_, compare_eq, fun a b => compare_of_millis_lt, fun s => exists_read_iff, ?_, ?_⟩
  · exact fun id => ⟨read_written id (.inr rfl), read_written id (.inl rfl)⟩
  · exact fun other id hother => not_read_other hother id
  · intro s t hs ht
    obtain ⟨ds, hspells⟩ := Ulid.isText_iff.1 ht
    refine ⟨⟨.ofNat (Ulid.ofDigits ds)⟩, ?_, ?_⟩
    · rw [read_eq_ok_iff, unmarked_eq hs ht]
      exact Ulid.read_eq_ok_iff.2 ⟨ds, hspells, rfl⟩
    · rw [← hspells.ofDigits_lt_iff, ← hspells.text_eq_iff]
      exact String.append_right_inj _

/-- Small letters are read as capitals, and of eight as the first digit nothing is left. -/
theorem text_reads_back_and_sorts_small :
    Ulid.IsText "7zzzzzzzzzzzzzzzzzzzzzzzzz" ∧ Ulid.IsText "8zzzzzzzzzzzzzzzzzzzzzzzzz" ∧
      (∃ id : RunId, read .run "run_7zzzzzzzzzzzzzzzzzzzzzzzzz" = .ok id ∧
        id.text = "run_7ZZZZZZZZZZZZZZZZZZZZZZZZZ") ∧
      (∃ id : RunId, read .run "8zzzzzzzzzzzzzzzzzzzzzzzzz" = .ok id ∧
        id.text ≠ "run_8ZZZZZZZZZZZZZZZZZZZZZZZZZ") ∧
      ¬ ∃ id : RunId, read .run (⟨.ofParts 1000 7⟩ : BotId).text = .ok id := by
  have hsmallSeven : Ulid.IsText "7zzzzzzzzzzzzzzzzzzzzzzzzz" := by decide
  have hsmallEight : Ulid.IsText "8zzzzzzzzzzzzzzzzzzzzzzzzz" := by decide
  have hwroteSeven : IdKind.run.tag ++ "_" ++ "7zzzzzzzzzzzzzzzzzzzzzzzzz".toUpper =
      "run_7ZZZZZZZZZZZZZZZZZZZZZZZZZ" := by decide +kernel
  have hwroteEight : IdKind.run.tag ++ "_" ++ "8zzzzzzzzzzzzzzzzzzzzzzzzz".toUpper =
      "run_8ZZZZZZZZZZZZZZZZZZZZZZZZZ" := by decide +kernel
  obtain ⟨-, -, -, -, hother, hdigits⟩ := text_reads_back_and_sorts .run
  refine ⟨hsmallSeven, hsmallEight, ?_, ?_, hother .bot _ (by decide)⟩
  · obtain ⟨id, hread, htext⟩ := hdigits "run_7zzzzzzzzzzzzzzzzzzzzzzzzz" _ (.inr rfl) hsmallSeven
    exact ⟨id, hread, (htext.2 ⟨'7', rfl, by decide⟩).trans hwroteSeven⟩
  · obtain ⟨id, hread, htext⟩ := hdigits "8zzzzzzzzzzzzzzzzzzzzzzzzz" _ (.inl rfl) hsmallEight
    refine ⟨id, hread, fun heq => ?_⟩
    obtain ⟨c, hc, hlow⟩ := htext.1 (heq.trans hwroteEight.symm)
    cases hc
    exact absurd hlow (by decide)

end Identifier

end PinFlow
