import VaultQuery.Duration
import VaultQuery.Proofs.Text
import VaultQuery.Proofs.Vocabulary
import Mathlib.Data.List.Induction
import Mathlib.Data.Nat.Digits.Defs

/-!
How large the numbers are that numerals denote.  A numeral of decimal digits is read unless it has
more than `digitLimit` of them, and denotes an integer below ten to the number of its digits; one
with a point is always read.  A finite real number without a fraction is an integer of at most 309
digits, and an integer of at most 308 digits is near a finite real number.
-/

namespace VaultQuery

/-! ## Digits -/

namespace Text

theorem digitValue?_lt {c : Char} {n : Nat} (h : digitValue? c = some n) : n < 10 := by
  rw [digitValue?] at h
  split at h
  case isTrue =>
      split at h
      case isTrue hd =>
          obtain rfl := Option.some.inj h
          simp only [Char.isDigit, Bool.and_eq_true, decide_eq_true_eq, ge_iff_le,
            UInt32.le_iff_toNat_le] at hd
          have h57 : c.val.toNat ≤ 57 := hd.2
          show c.val.toNat - 48 < 10
          omega
      case isFalse => cases h
  case isFalse =>
      obtain ⟨z, hz, rfl⟩ := Option.map_eq_some_iff.mp h
      have hnear := List.find?_some hz
      simp only [Bool.and_eq_true, decide_eq_true_eq] at hnear
      omega

theorem decimalValue_append_singleton (ds : List Char) (c : Char) :
    decimalValue (ds ++ [c]) = 10 * decimalValue ds + (digitValue? c).getD 0 := by
  simp [decimalValue]

/-- A run of digits spells a number below ten to its length. -/
theorem decimalValue_lt (ds : List Char) : decimalValue ds < 10 ^ ds.length := by
  induction ds using List.reverseRecOn with
  | nil => simp [decimalValue]
  | append_singleton ds c ih =>
      have hlast : (digitValue? c).getD 0 < 10 := by
        cases h : digitValue? c with
        | none => decide
        | some n => exact digitValue?_lt h
      rw [decimalValue_append_singleton, List.length_append, List.length_singleton, Nat.pow_succ]
      omega

theorem digitValue?_of_isDigit {c : Char} (h : c.isDigit = true) :
    digitValue? c = some (c.toNat - '0'.toNat) := by
  rw [digitValue?, if_pos (toNat_lt_of_isDigit h), if_pos h]
  rfl

theorem isDigit_of_ascii {c : Char} (h : c.isDigit = true) : isDigit c = true := by
  rw [isDigit, digitValue?_of_isDigit h]
  rfl

theorem isDigit_of_mem_toDigits {n : Nat} {c : Char} (h : c ∈ Nat.toDigits 10 n) :
    isDigit c = true :=
  isDigit_of_ascii (Nat.isDigit_of_mem_toDigits (by decide) (by decide) h)

/-- The digits of a number spell it. -/
theorem decimalValue_toDigits (n : Nat) : decimalValue (Nat.toDigits 10 n) = n := by
  have hvalue : ∀ (ds : List Char) (m : Nat), (∀ c ∈ ds, c.isDigit = true) →
      ds.foldl (fun n c => 10 * n + (digitValue? c).getD 0) m = Nat.ofDigitChars 10 ds m := by
    intro ds
    induction ds with
    | nil => intro m _; rfl
    | cons c ds ih =>
        intro m h
        obtain ⟨hc, hds⟩ := List.forall_mem_cons.mp h
        rw [List.foldl_cons, ih _ hds, Nat.ofDigitChars_cons, digitValue?_of_isDigit hc]
        rfl
  rw [decimalValue, hvalue _ _ fun c hc => Nat.isDigit_of_mem_toDigits (by decide) (by decide) hc,
    Nat.ofDigitChars_ten_toDigits]

theorem ne_of_isDigit {c d : Char} (hc : isDigit c = true) (hd : isDigit d = false) : c ≠ d := by
  rintro rfl
  rw [hc] at hd
  cases hd

end Text

/-! ## Numerals -/

namespace Numeral

/-- A numeral: a sign, digits, and a point with more digits. -/
def plain (negative : Bool) (ds fs : List Char) : List Char :=
  (if negative then ['-'] else []) ++ (ds ++ if fs.isEmpty then [] else '.' :: fs)

/-- The digits after a point at the start of a text. -/
def fraction (cs : List Char) : List Char :=
  match cs with
  | '.' :: rest => rest.takeWhile Text.isDigit
  | _ => []

theorem isDigit_of_mem_fraction {cs : List Char} : ∀ c ∈ fraction cs, Text.isDigit c = true := by
  intro c hc
  unfold fraction at hc
  split at hc
  case h_1 => exact List.mem_takeWhile_imp hc
  case h_2 => cases hc

/-- The number of digits of a numeral without a point; one with a point has no limit. -/
def integerDigits (cs : List Char) : Nat :=
  if cs.contains '.' then 0 else cs.countP Text.isDigit

variable {negative : Bool} {ds fs : List Char}

theorem digits?_of_digits (h : ∀ c ∈ ds, Text.isDigit c = true) (hne : ds ≠ []) (after : Bool) :
    digits? after ds = some ds := by
  induction ds generalizing after with
  | nil => exact absurd rfl hne
  | cons c ds ih =>
      have hc := h c List.mem_cons_self
      rw [digits?, if_pos hc]
      cases ds with
      | nil => rfl
      | cons d ds => rw [ih (fun x hx => h x (List.mem_cons_of_mem c hx)) (by simp)]; rfl

theorem digitsOrNone?_of_digits (h : ∀ c ∈ ds, Text.isDigit c = true) :
    digitsOrNone? ds = some ds := by
  rw [digitsOrNone?]
  split
  case isTrue hnil => rw [List.isEmpty_iff.mp hnil]
  case isFalse hne => exact digits?_of_digits h (by simpa using hne) false

theorem mem_plain (hds : ∀ c ∈ ds, Text.isDigit c = true) (hfs : ∀ c ∈ fs, Text.isDigit c = true)
    {c : Char} (h : c ∈ plain negative ds fs) : Text.isDigit c = true ∨ c = '-' ∨ c = '.' := by
  rw [plain, List.mem_append, List.mem_append] at h
  rcases h with h | h | h
  · cases negative with
    | false => cases h
    | true => exact .inr (.inl (List.mem_singleton.mp h))
  · exact .inl (hds c h)
  · split at h
    case isTrue => cases h
    case isFalse =>
        rcases List.mem_cons.mp h with rfl | h
        · exact .inr (.inr rfl)
        · exact .inl (hfs c h)

/-- No blanks stand around a numeral. -/
theorem bare_plain (hds : ∀ c ∈ ds, Text.isDigit c = true) (hne : ds ≠ [])
    (hfs : ∀ c ∈ fs, Text.isDigit c = true) :
    bare (plain negative ds fs) = plain negative ds fs := by
  have hblank : ∀ c ∈ plain negative ds fs, isBlank c = false := by
    intro c hc
    rcases mem_plain hds hfs hc with h | rfl | rfl
    · cases hb : Text.isBlank c with
      | false => simp [isBlank, hb]
      | true => rw [Text.isDigit_eq_false_of_isBlank hb] at h; cases h
    · decide
    · decide
  have hplain : plain negative ds fs ≠ [] := by simp [plain, hne]
  generalize plain negative ds fs = cs at hblank hplain
  rw [bare, List.dropWhile_eq_self_iff.mpr fun hl => by simp [hblank],
    Vocabulary.dropEndWhile_eq_self hplain fun c hc => hblank c (List.mem_of_getLast? hc)]

theorem sign_plain (hds : ∀ c ∈ ds, Text.isDigit c = true) (hne : ds ≠ []) :
    sign (plain negative ds fs) = (negative, ds ++ if fs.isEmpty then [] else '.' :: fs) := by
  cases negative with
  | true => rfl
  | false =>
      obtain ⟨c, ds, rfl⟩ := List.exists_cons_of_ne_nil hne
      have hc := hds c List.mem_cons_self
      show sign (c :: (ds ++ _)) = _
      unfold sign
      split
      case h_1 heq => exact absurd (List.cons.inj heq).1 (Text.ne_of_isDigit hc (by decide))
      case h_2 heq => exact absurd (List.cons.inj heq).1 (Text.ne_of_isDigit hc (by decide))
      case h_3 => rfl

theorem contains_point (hds : ∀ c ∈ ds, Text.isDigit c = true) :
    (plain negative ds fs).contains '.' = !fs.isEmpty := by
  have hpoint : '.' ∉ ds := fun h => absurd (hds _ h) (by decide)
  cases negative <;> cases fs <;> simp [plain, hpoint]

theorem integerDigits_plain (hds : ∀ c ∈ ds, Text.isDigit c = true) :
    integerDigits (plain negative ds fs) = if fs.isEmpty then ds.length else 0 := by
  have hcount : ds.countP Text.isDigit = ds.length := List.countP_eq_length.mpr hds
  have hdash : Text.isDigit '-' = false := by decide
  rw [integerDigits, contains_point hds]
  cases fs with
  | nil => cases negative <;> simp [plain, hcount, hdash]
  | cons f fs => rfl

/-- A numeral without a point is read unless it has too many digits. -/
theorem read_integer (hds : ∀ c ∈ ds, Text.isDigit c = true) (hne : ds ≠ []) :
    read (String.ofList (plain negative ds [])) =
      if digitLimit < ds.length then .error (.tooManyDigits ds.length)
      else .ok (.int (signed negative ds)) := by
  have hrun : ds.takeWhile (fun c => Text.isDigit c || c == '_') = ds :=
    List.takeWhile_eq_self_iff.mpr fun c hc => by simp [hds c hc]
  rw [read, String.toList_ofList, contains_point hds]
  simp only [List.isEmpty_nil, Bool.not_true, Bool.false_eq_true, if_false]
  rw [readInt, String.toList_ofList, bare_plain hds hne (by simp), sign_plain hds hne]
  simp only [List.isEmpty_nil, if_true, List.append_nil, hrun, digits?_of_digits hds hne]
  split
  case isTrue => rfl
  case isFalse => rw [if_neg (Nat.lt_irrefl _)]; rfl

theorem read_digits (hds : ∀ c ∈ ds, Text.isDigit c = true) (hne : ds ≠ []) :
    read (String.ofList ds) =
      if digitLimit < ds.length then .error (.tooManyDigits ds.length)
      else .ok (.int (Text.decimalValue ds)) := by
  have hplain : plain false ds [] = ds := by simp [plain]
  have hread : read (String.ofList (plain false ds [])) = _ := read_integer hds hne
  rw [hplain] at hread
  exact hread

theorem exists_unsignedReal? (negative : Bool) (hds : ∀ c ∈ ds, Text.isDigit c = true)
    (hne : ds ≠ []) (hfs : ∀ c ∈ fs, Text.isDigit c = true) :
    ∃ x, unsignedReal? negative (ds ++ '.' :: fs) = some x := by
  have hdigit : ∀ c, Text.isDigit c = true → (!(c == 'e' || c == 'E')) = true := by
    intro c hc
    simp [Text.ne_of_isDigit hc (d := 'e') (by decide),
      Text.ne_of_isDigit hc (d := 'E') (by decide)]
  have hmark : ∀ c ∈ ds ++ '.' :: fs, (!(c == 'e' || c == 'E')) = true := by
    intro c hc
    rcases List.mem_append.mp hc with h | h
    · exact hdigit c (hds c h)
    · rcases List.mem_cons.mp h with rfl | h
      · decide
      · exact hdigit c (hfs c h)
  have hwhole : ∀ c ∈ ds, (c != '.') = true := fun c hc => by
    simpa using Text.ne_of_isDigit (hds c hc) (by decide)
  have htake : (ds ++ '.' :: fs).takeWhile (· != '.') = ds := by
    rw [List.takeWhile_append_of_pos hwhole, List.takeWhile_cons_of_neg (by simp), List.append_nil]
  have hdrop : (ds ++ '.' :: fs).dropWhile (· != '.') = '.' :: fs := by
    rw [List.dropWhile_append_of_pos hwhole, List.dropWhile_cons_of_neg (by simp)]
  have hbody := List.takeWhile_eq_self_iff.mpr hmark
  have hrest := List.dropWhile_eq_nil_iff.mpr hmark
  refine ⟨Binary64.ofDecimal negative (Text.decimalValue (ds ++ fs)) (0 - fs.length), ?_⟩
  simp only [unsignedReal?, hbody, hrest, htake, hdrop, List.drop_succ_cons, List.drop_zero,
    digitsOrNone?_of_digits hds, digitsOrNone?_of_digits hfs]
  simp [hne, exponent?]

/-- A numeral with a point is always read. -/
theorem read_real (negative : Bool) (hds : ∀ c ∈ ds, Text.isDigit c = true) (hne : ds ≠ [])
    (hfs : ∀ c ∈ fs, Text.isDigit c = true) (hfne : fs ≠ []) :
    ∃ x, read (String.ofList (plain negative ds fs)) = .ok (.real x) := by
  have hempty : fs.isEmpty = false := by simpa using hfne
  obtain ⟨x, hx⟩ := exists_unsignedReal? negative hds hne hfs
  rw [read, String.toList_ofList, contains_point hds, hempty, readReal?, String.toList_ofList,
    bare_plain hds hne hfs, sign_plain hds hne, hempty]
  simp only [Bool.false_eq_true, if_false, hx]
  cases special? negative (ds ++ '.' :: fs) with
  | none => exact ⟨x, rfl⟩
  | some y => exact ⟨y, rfl⟩

end Numeral

/-! ## Real numbers -/

namespace Binary64

theorem magnitude_ofMagnitude {m : Nat} (h : m < signBit) (negative : Bool) :
    (ofMagnitude negative m).magnitude = m := by
  rw [signBit] at h
  cases negative with
  | false =>
      have hm : m % 2 ^ 64 = m := Nat.mod_eq_of_lt (by omega)
      simp only [ofMagnitude, magnitude, signBit, Bool.false_eq_true, if_false,
        UInt64.toNat_ofNat', hm]
      omega
  | true =>
      have hm : (0x8000000000000000 + m) % 2 ^ 64 = 0x8000000000000000 + m :=
        Nat.mod_eq_of_lt (by omega)
      simp only [ofMagnitude, magnitude, signBit, if_true, UInt64.toNat_ofNat', hm]
      omega

theorem infinityBits_lt : infinityBits < signBit := by decide

theorem ratioLog_one {n : Nat} (h : n ≠ 0) : ratioLog n 1 = n.log2 := by
  have hle : 2 ^ n.log2 ≤ n := Nat.log2_self_le h
  have hone : Nat.log2 1 = 0 := by decide
  rw [ratioLog, hone]
  simp [hle]

/-- The quotient that is rounded has at most 53 binary digits. -/
theorem quotient_lt (n : Nat) : n * 2 ^ (52 - n.log2) / 2 ^ (n.log2 - 52) < 2 ^ 53 := by
  have hn : n < 2 ^ (n.log2 + 1) := Nat.lt_log2_self
  rw [Nat.div_lt_iff_lt_mul (Nat.two_pow_pos _), ← Nat.pow_add]
  calc n * 2 ^ (52 - n.log2)
      < 2 ^ (n.log2 + 1) * 2 ^ (52 - n.log2) := Nat.mul_lt_mul_of_pos_right hn (Nat.two_pow_pos _)
    _ = 2 ^ (n.log2 + 1 + (52 - n.log2)) := (Nat.pow_add ..).symm
    _ ≤ 2 ^ (53 + (n.log2 - 52)) := Nat.pow_le_pow_right (by decide) (by omega)

theorem quotient_lt_of_large {n : Nat} (h : n < 10 ^ 308) (hlog : n.log2 = 1023) :
    n * 2 ^ (52 - n.log2) / 2 ^ (n.log2 - 52) < 2 ^ 53 - 1 := by
  have hsub : 1023 - 52 = 971 := by decide
  rw [hlog, Nat.div_lt_iff_lt_mul (Nat.two_pow_pos _), hsub,
    Nat.sub_eq_zero_of_le (by decide : 52 ≤ 1023), Nat.pow_zero, Nat.mul_one]
  refine Nat.lt_of_lt_of_le h ?_
  decide +kernel

/-- An integer of at most 308 digits is near a finite number. -/
theorem roundRatio_lt {n : Nat} (h : n < 10 ^ 308) : roundRatio n 1 < infinityBits := by
  rw [roundRatio]
  split
  case isTrue => decide
  case isFalse hn =>
  have hlog : n.log2 < 1024 := (Nat.log2_lt hn).mpr (h.trans (by decide +kernel))
  have hmax : max (ratioLog n 1 - 52) (-1074) = (n.log2 : Int) - 52 := by
    rw [ratioLog_one hn]
    omega
  have hneg : (-((n.log2 : Int) - 52)).toNat = 52 - n.log2 := by omega
  have hpos : ((n.log2 : Int) - 52).toNat = n.log2 - 52 := by omega
  have hplace : ((n.log2 : Int) - 52 + 1074).toNat = n.log2 + 1022 := by omega
  have hq : n * Nat.pow 2 (52 - n.log2) / Nat.pow 2 (n.log2 - 52) < 2 ^ 53 := quotient_lt n
  have hlarge : n.log2 = 1023 →
      n * Nat.pow 2 (52 - n.log2) / Nat.pow 2 (n.log2 - 52) < 2 ^ 53 - 1 := quotient_lt_of_large h
  have hup : ∀ b : Bool, (if b then 1 else 0) ≤ 1 := by decide
  dsimp only
  rw [hmax, hneg, hpos, hplace, Nat.one_mul]
  refine Nat.lt_of_le_of_lt (Nat.min_le_left _ _) ?_
  refine Nat.lt_of_le_of_lt (Nat.add_le_add_left (hup _) _) ?_
  rw [unitBit, infinityBits, unitBit]
  omega

theorem isFinite_ofInt {n : Int} (h : n.natAbs < 10 ^ 308) : (ofInt n).isFinite = true := by
  have hfinite : ∀ m, m < infinityBits → (ofMagnitude (n < 0) m).isFinite = true := by
    intro m hm
    rw [isFinite, magnitude_ofMagnitude (hm.trans infinityBits_lt)]
    exact decide_eq_true hm
  rw [ofInt, ofDecimal]
  split
  case isTrue => exact hfinite 0 (by decide)
  case isFalse =>
  split
  case isTrue hfar => exact absurd hfar (by decide)
  case isFalse =>
  apply hfinite
  simpa using roundRatio_lt h

theorem significand_lt (x : Binary64) : x.significand < 2 * unitBit := by
  have hpos : 0 < unitBit := by decide
  rw [significand]
  split
  case isTrue => omega
  case isFalse =>
      have := Nat.mod_lt x.magnitude hpos
      omega

theorem exponent_le {x : Binary64} (h : x.isFinite = true) : x.exponent ≤ 971 := by
  have hm : x.magnitude < 0x7FF * unitBit := of_decide_eq_true h
  have hdiv : x.magnitude / unitBit < 0x7FF := Nat.div_lt_of_lt_mul (by rwa [Nat.mul_comm] at hm)
  rw [exponent]
  split <;> omega

/-- A finite number without a fraction is an integer of at most 309 digits. -/
theorem natAbs_toInt? {x : Binary64} {n : Int} (h : x.toInt? = some n) : n.natAbs < 10 ^ 309 := by
  rw [toInt?] at h
  split at h
  case isFalse => cases h
  case isTrue hfinite =>
  have hexp : x.exponent.toNat ≤ 971 := by
    have := exponent_le hfinite
    omega
  have hsize : x.significand * Nat.pow 2 x.exponent.toNat < 10 ^ 309 := by
    calc x.significand * 2 ^ x.exponent.toNat
        ≤ 2 ^ 53 * 2 ^ 971 :=
          Nat.mul_le_mul (Nat.le_of_lt x.significand_lt) (Nat.pow_le_pow_right (by decide) hexp)
      _ < 10 ^ 309 := by decide +kernel
  dsimp only at h
  split at h
  case isFalse => cases h
  case isTrue =>
      obtain rfl := Option.some.inj h
      have hdiv := Nat.div_le_self (x.significand * Nat.pow 2 x.exponent.toNat)
        (Nat.pow 2 (-x.exponent).toNat)
      have hlt := Nat.lt_of_le_of_lt hdiv hsize
      split
      case isTrue => rwa [Int.natAbs_neg, Int.natAbs_natCast]
      case isFalse => rwa [Int.natAbs_natCast]

end Binary64

/-! ## Numbers of a given length -/

namespace Number

/-- An integer of at most `n` digits, or a real number. -/
def Within (n : Nat) : Number → Prop
  | .int k => k.natAbs < 10 ^ n
  | .real _ => True

variable {n : Nat} {k : Number}

theorem Within.neg (h : k.Within n) : k.neg.Within n := by
  cases k with
  | int k =>
      rw [Number.neg, Within, Int.natAbs_neg]
      exact h
  | real x => trivial

theorem ten_pow_le {m : Nat} (h : n ≤ m) : 10 ^ n ≤ 10 ^ m :=
  Nat.pow_le_pow_right (by decide) h

theorem Within.mono {m : Nat} (h : k.Within n) (hm : n ≤ m) : k.Within m := by
  cases k with
  | int k => exact Nat.lt_of_lt_of_le h (ten_pow_le hm)
  | real x => trivial

/-- A digit as a factor makes a number longer by one digit at most. -/
theorem Within.scale (h : k.Within n) {factor : Nat} (hf : factor ≤ 10) :
    (k.scale factor).Within (n + 1) := by
  cases k with
  | int k =>
      rw [Number.scale, Within, Int.natAbs_mul, Int.natAbs_natCast, Nat.pow_succ]
      have hk : k.natAbs < 10 ^ n := h
      calc k.natAbs * factor
          ≤ k.natAbs * 10 := Nat.mul_le_mul_left _ hf
        _ < 10 ^ n * 10 := Nat.mul_lt_mul_of_pos_right hk (by decide)
  | real x => trivial

theorem Within.settle (h : k.Within n) (hn : 309 ≤ n) : k.settle.Within n := by
  cases k with
  | int k => exact h
  | real x =>
      rw [Number.settle]
      split
      case h_1 m hm =>
          exact Nat.lt_of_lt_of_le (Binary64.natAbs_toInt? hm) (ten_pow_le hn)
      case h_2 => trivial

theorem isOverlong_of_within (h : k.Within digitLimit) : k.isOverlong = false := by
  cases k with
  | int k =>
      have hlength := Nat.toDigits_length 10 k.natAbs digitLimit (by decide) h
      exact decide_eq_false (Nat.not_lt.mpr hlength)
  | real x => rfl

end Number

/-- A numeral is read, as a number of no more digits than it has, or has too many of them. -/
theorem Numeral.read_plain (negative : Bool) {ds fs : List Char}
    (hds : ∀ c ∈ ds, Text.isDigit c = true) (hne : ds ≠ [])
    (hfs : ∀ c ∈ fs, Text.isDigit c = true) :
    (∃ k, read (String.ofList (plain negative ds fs)) = .ok k ∧
        k.Within (integerDigits (plain negative ds fs))) ∨
      digitLimit < integerDigits (plain negative ds fs) ∧
        read (String.ofList (plain negative ds fs)) =
          .error (.tooManyDigits (integerDigits (plain negative ds fs))) := by
  rw [integerDigits_plain hds]
  cases fs with
  | nil =>
      have hlt := Text.decimalValue_lt ds
      rw [read_integer hds hne]
      by_cases hmany : digitLimit < ds.length
      · exact .inr ⟨hmany, if_pos hmany⟩
      · refine .inl ⟨_, if_neg hmany, ?_⟩
        rw [Number.Within, signed]
        split
        case isTrue => rwa [Int.natAbs_neg, Int.natAbs_natCast]
        case isFalse => rwa [Int.natAbs_natCast]
  | cons f fs =>
      obtain ⟨x, hx⟩ := read_real negative hds hne hfs (by simp)
      exact .inl ⟨_, hx, trivial⟩

/-! ## Durations -/

namespace Duration

/-- A duration is written unless its amount has as many digits as an integer may have: weeks are
written in days, which may take one digit more. -/
theorem write_eq_ok {d : Duration} {n : Nat} (h : d.amount.Within n) (hn : n < digitLimit) :
    d.write = .ok d.text := by
  have hmono := h.mono (Nat.le_sub_one_of_lt hn)
  have hoverlong : d.isOverlong = false := by
    apply Number.isOverlong_of_within
    rw [normal]
    split
    case isTrue => exact (hmono.scale (by decide)).settle (by decide)
    case isFalse => exact (hmono.mono (by decide)).settle (by decide)
  rw [write, hoverlong]
  rfl

/-- The sign of a text and what follows it. -/
def afterSign (cs : List Char) : List Char × List Char :=
  match cs with
  | '-' :: cs => (['-'], cs)
  | cs => ([], cs)

/-- The numeral of a sign, digits and a fraction, and the word that ends the text after them. -/
def splitAt? (sign whole fs cs : List Char) : Option (String × String) :=
  let point := if fs.isEmpty then [] else '.' :: fs
  let cs := (cs.drop point.length).dropWhile Text.isBlank
  let word := cs.takeWhile Char.isAlpha
  if whole.isEmpty || word.isEmpty || !(cs.drop word.length).all Text.isBlank then none
  else some (String.ofList (sign ++ whole ++ point), String.ofList word)

theorem split?_eq (cs : List Char) :
    split? cs =
      let x := afterSign (cs.dropWhile Text.isBlank)
      let whole := x.2.takeWhile Text.isDigit
      splitAt? x.1 whole (Numeral.fraction (x.2.drop whole.length)) (x.2.drop whole.length) :=
  rfl

theorem of_splitAt? {sign whole fs cs : List Char} {numeral word : String}
    (h : splitAt? sign whole fs cs = some (numeral, word)) :
    whole ≠ [] ∧
      numeral = String.ofList (sign ++ whole ++ if fs.isEmpty then [] else '.' :: fs) := by
  unfold splitAt? at h
  generalize (if fs.isEmpty then [] else '.' :: fs) = point at h ⊢
  dsimp only at h
  split at h
  case isTrue => cases h
  case isFalse hfilled =>
      simp only [Bool.or_eq_true, List.isEmpty_iff, not_or] at hfilled
      exact ⟨hfilled.1.1, (Prod.mk.inj (Option.some.inj h)).1.symm⟩

theorem afterSign_eq (cs : List Char) :
    ∃ negative : Bool, (afterSign cs).1 = if negative then ['-'] else [] := by
  unfold afterSign
  split
  case h_1 => exact ⟨true, rfl⟩
  case h_2 => exact ⟨false, rfl⟩

/-- What stands before the word of a duration is a numeral. -/
theorem plain_of_split? {cs : List Char} {numeral word : String}
    (h : split? cs = some (numeral, word)) :
    ∃ negative ds fs, (∀ c ∈ ds, Text.isDigit c = true) ∧ ds ≠ [] ∧
      (∀ c ∈ fs, Text.isDigit c = true) ∧
      numeral = String.ofList (Numeral.plain negative ds fs) := by
  rw [split?_eq] at h
  obtain ⟨negative, hsign⟩ := afterSign_eq (cs.dropWhile Text.isBlank)
  obtain ⟨hwhole, hnumeral⟩ := of_splitAt? h
  rw [hsign, List.append_assoc] at hnumeral
  exact ⟨negative, _, _, fun c hc => List.mem_takeWhile_imp hc, hwhole,
    Numeral.isDigit_of_mem_fraction, hnumeral⟩

end Duration

end VaultQuery
