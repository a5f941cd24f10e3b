import VaultQuery.Proofs.Expr.Derived
import VaultQuery.Proofs.Number
import VaultQuery.Proofs.Token.Weave

/-!
Moments and their texts.  A text of the shape of a date is one token, and what it names is read off
its runs of digits: there is such a moment exactly if the day exists in the calendar and the clock
shows the time, and only one.  The text of a moment has that shape too, so a moment is read back from
its text, and a date that is read stays the same when it is written and read again
(`moment_is_read_back`).
-/

namespace VaultQuery

/-! ## The calendar -/

/-- The lengths of the months of a year, the first month first. -/
def monthLengths (year : Nat) : List Nat :=
  let february := if year % 4 = 0 ∧ (year % 100 ≠ 0 ∨ year % 400 = 0) then 29 else 28
  [31, february, 31, 30, 31, 30, 31, 31, 30, 31, 30, 31]

/-- A month that a year has, and a day that the month has. -/
def IsDay (year month day : Nat) : Prop :=
  1 ≤ month ∧ 1 ≤ day ∧ ∃ length, (monthLengths year)[month - 1]? = some length ∧ day ≤ length

theorem getElem?_monthLengths {year month : Nat} (h : 1 ≤ month) :
    (monthLengths year)[month - 1]? = if month ≤ 12 then some (daysInMonth year month) else none := by
  have hleap : (if year % 4 = 0 ∧ (year % 100 ≠ 0 ∨ year % 400 = 0) then 29 else 28) =
      if isLeapYear year = true then 29 else 28 := by
    simp [isLeapYear]
  split
  case isTrue hle =>
      have hmonth : month = 1 ∨ month = 2 ∨ month = 3 ∨ month = 4 ∨ month = 5 ∨ month = 6 ∨
          month = 7 ∨ month = 8 ∨ month = 9 ∨ month = 10 ∨ month = 11 ∨ month = 12 := by
        omega
      rw [monthLengths, hleap]
      rcases hmonth with rfl | rfl | rfl | rfl | rfl | rfl | rfl | rfl | rfl | rfl | rfl | rfl <;>
        rfl
  case isFalse hgt =>
      refine List.getElem?_eq_none ?_
      simp only [monthLengths, List.length_cons, List.length_nil]
      omega

theorem isDay_iff {year month day : Nat} :
    IsDay year month day ↔
      (1 ≤ month ∧ month ≤ 12) ∧ 1 ≤ day ∧ day ≤ daysInMonth year month := by
  constructor
  · rintro ⟨hmonth, hday, length, hlength, hle⟩
    rw [getElem?_monthLengths hmonth] at hlength
    split at hlength
    case isTrue hle12 =>
        obtain rfl := Option.some.inj hlength
        exact ⟨⟨hmonth, hle12⟩, hday, hle⟩
    case isFalse => cases hlength
  · rintro ⟨⟨hmonth, hle12⟩, hday, hle⟩
    exact ⟨hmonth, hday, _, (getElem?_monthLengths hmonth).trans (if_pos hle12), hle⟩

/-! ## Digits with zeros around them -/

namespace Text

theorem decimalValue_append (ds es : List Char) :
    decimalValue (ds ++ es) = decimalValue ds * 10 ^ es.length + decimalValue es := by
  induction es using List.reverseRecOn with
  | nil => simp [decimalValue]
  | append_singleton es c ih =>
      rw [← List.append_assoc, decimalValue_append_singleton, ih, decimalValue_append_singleton,
        List.length_append, List.length_singleton, Nat.pow_succ]
      ring

theorem decimalValue_zeros (n : Nat) : decimalValue (List.replicate n '0') = 0 := by
  induction n with
  | zero => rfl
  | succ n ih =>
      rw [List.replicate_succ', decimalValue_append_singleton, ih]
      rfl

theorem isDigit_zero : isDigit '0' = true :=
  isDigit_of_ascii (by decide)

end Text

namespace Binary64

variable {width n : Nat}

theorem isDigit_of_mem_padded {c : Char} (h : c ∈ padded width n) : Text.isDigit c = true := by
  rw [padded, List.mem_append] at h
  rcases h with h | h
  · rw [List.eq_of_mem_replicate h]
    exact Text.isDigit_zero
  · exact Text.isDigit_of_mem_toDigits h

theorem length_padded (hwidth : 0 < width) (h : n < 10 ^ width) :
    (padded width n).length = width := by
  have hle := (Nat.length_toDigits_le_iff (by decide) hwidth).mpr h
  simp only [padded, List.length_append, List.length_replicate]
  omega

theorem decimalValue_padded (width n : Nat) : Text.decimalValue (padded width n) = n := by
  rw [padded, Text.decimalValue_append, Text.decimalValue_zeros, Text.decimalValue_toDigits]
  omega

end Binary64

/-! ## The shape of a date -/

namespace MomentShape

/-- A run of `least` to `most` digits. -/
def isRun (least most : Nat) (ds : List Char) : Bool :=
  ds.all Text.isDigit && least ≤ ds.length && ds.length ≤ most

/-- The shape of a date as a token: a day, or a day and a time to the minute, to the second, or to a
fraction of a second with any number of digits. -/
def isWritten (s : MomentShape) : Bool :=
  isRun 4 4 s.year && isRun 1 2 s.month && isRun 1 2 s.day &&
    match s.clock, s.second, s.fraction with
    | none, none, none => true
    | some (hour, minute), none, none => isRun 1 2 hour && isRun 2 2 minute
    | some (hour, minute), some second, none =>
      isRun 1 2 hour && isRun 2 2 minute && isRun 2 2 second
    | some (hour, minute), some second, some fraction =>
      isRun 1 2 hour && isRun 2 2 minute && isRun 2 2 second && isRun 1 fraction.length fraction
    | _, _, _ => false

/-- Hour and minute with the marks around them. -/
def clockChars : Option (List Char × List Char) → List Char
  | none => []
  | some (hour, minute) => 'T' :: (hour ++ ':' :: minute)

/-- A run of digits with the mark before it. -/
def markedChars (mark : Char) : Option (List Char) → List Char
  | none => []
  | some ds => mark :: ds

/-- The characters of a written moment. -/
def chars (s : MomentShape) : List Char :=
  s.year ++ '-' :: (s.month ++ '-' :: (s.day ++
    (clockChars s.clock ++ (markedChars ':' s.second ++ markedChars '.' s.fraction))))

/-- The text of a written moment. -/
def text (s : MomentShape) : String :=
  String.ofList s.chars

/-! ### Taking the runs off a text -/

/-- A text that does not go on with a digit. -/
def Stops (rest : List Char) : Prop :=
  ∀ c ∈ rest.head?, Text.isDigit c = false

theorem stops_nil : Stops [] := by
  intro c h
  cases h

theorem stops_cons {c : Char} (h : Text.isDigit c = false) (cs : List Char) : Stops (c :: cs) := by
  intro d hd
  obtain rfl := Option.some.inj hd
  exact h

section Runs

variable {least most : Nat} {ds rest : List Char}

theorem isRun_iff :
    isRun least most ds = true ↔
      (∀ c ∈ ds, Text.isDigit c = true) ∧ least ≤ ds.length ∧ ds.length ≤ most := by
  simp [isRun, and_assoc]

theorem takeDigits_run (h : isRun least most ds = true) (hrest : Stops rest) :
    takeDigits least most (ds ++ rest) = some (ds, rest) := by
  obtain ⟨hds, hleast, hmost⟩ := isRun_iff.mp h
  have hstop : ∀ c ∈ (rest.take (most - ds.length)).head?, Text.isDigit c = false := by
    intro c hc
    rw [List.head?_take] at hc
    split at hc
    case isTrue => cases hc
    case isFalse => exact hrest c hc
  have hrun : ((ds ++ rest).take most).takeWhile Text.isDigit = ds := by
    rw [List.take_append, List.take_of_length_le hmost]
    exact Token.takeWhile_exact hds hstop
  simp only [takeDigits, hrun, if_neg (Nat.not_lt.mpr hleast), List.drop_left]

theorem takeDigits_all (h : isRun least most ds = true) :
    takeDigits least most ds = some (ds, []) := by
  simpa using takeDigits_run h stops_nil

@[simp] theorem takeChar_self (c : Char) (cs : List Char) : takeChar c (c :: cs) = some cs := by
  simp [takeChar]

theorem isRun_of_takeDigits {cs : List Char} (h : takeDigits least most cs = some (ds, rest)) :
    isRun least most ds = true := by
  obtain ⟨-, hleast, -⟩ := takeDigits_eq_some h
  have hds : (cs.take most).takeWhile Text.isDigit = ds := by
    unfold takeDigits at h
    dsimp only at h
    split at h
    case isTrue => cases h
    case isFalse => exact (Prod.mk.inj (Option.some.inj h)).1
  have hmost : ds.length ≤ most := by
    rw [← hds]
    exact (List.takeWhile_prefix _).length_le.trans (List.length_take_le most cs)
  refine isRun_iff.mpr ⟨?_, hleast, hmost⟩
  intro c hc
  rw [← hds] at hc
  exact List.mem_takeWhile_imp hc

end Runs

section Readings

variable {s : MomentShape} {year month day hour minute second fraction rest : List Char}

theorem takeDay_run (hyear : isRun 4 4 year = true) (hmonth : isRun 1 2 month = true)
    (hday : isRun 1 2 day = true) (hrest : Stops rest) :
    takeDay (year ++ '-' :: (month ++ '-' :: (day ++ rest))) = some ({ year, month, day }, rest) := by
  have hdash : ∀ cs, Stops ('-' :: cs) := stops_cons (by decide)
  simp only [takeDay, takeDigits_run hyear (hdash _), takeDigits_run hmonth (hdash _),
    takeDigits_run hday hrest, takeChar_self, Option.bind_eq_bind, Option.bind_some]
  rfl

theorem takeClock_run (s : MomentShape) (hhour : isRun 1 2 hour = true)
    (hminute : isRun 2 2 minute = true) (hrest : Stops rest) :
    takeClock s (clockChars (some (hour, minute)) ++ rest) =
      some ({ s with clock := some (hour, minute) }, rest) := by
  have hcolon : ∀ cs, Stops (':' :: cs) := stops_cons (by decide)
  simp only [clockChars, List.cons_append, List.append_assoc, takeClock, takeChar_self,
    takeDigits_run hhour (hcolon _), takeDigits_run hminute hrest, Option.bind_eq_bind,
    Option.bind_some]
  rfl

theorem takeSecond_run (s : MomentShape) (hsecond : isRun 2 2 second = true)
    (hrest : Stops rest) :
    takeSecond s (markedChars ':' (some second) ++ rest) =
      some ({ s with second := some second }, rest) := by
  simp only [markedChars, List.cons_append, takeSecond, takeChar_self,
    takeDigits_run hsecond hrest, Option.bind_eq_bind, Option.bind_some]
  rfl

theorem takeFraction_run (s : MomentShape) (h : isRun 1 fraction.length fraction = true) :
    takeFraction s (markedChars '.' (some fraction)) =
      some ({ s with fraction := some fraction }, []) := by
  simp only [markedChars, takeFraction, takeChar_self, takeDigits_all h, Option.bind_eq_bind,
    Option.bind_some]
  rfl

theorem stops_fraction (fraction : Option (List Char)) : Stops (markedChars '.' fraction) := by
  cases fraction with
  | none => exact stops_nil
  | some ds => exact stops_cons (by decide) ds

theorem stops_second (second fraction : Option (List Char)) :
    Stops (markedChars ':' second ++ markedChars '.' fraction) := by
  cases second with
  | none => exact stops_fraction fraction
  | some ds => exact stops_cons (by decide) _

theorem stops_clock (clock : Option (List Char × List Char))
    (second fraction : Option (List Char)) :
    Stops (clockChars clock ++ (markedChars ':' second ++ markedChars '.' fraction)) := by
  cases clock with
  | none => exact stops_second second fraction
  | some time => exact stops_cons (by decide) _

/-- The longest way to read a written moment takes all of it. -/
theorem head?_readings (h : s.isWritten = true) : (readings s.chars).head? = some (s, []) := by
  obtain ⟨year, month, day, clock, second, fraction⟩ := s
  simp only [isWritten, Bool.and_eq_true] at h
  obtain ⟨⟨⟨hyear, hmonth⟩, hday⟩, htime⟩ := h
  have hread := takeDay_run hyear hmonth hday (stops_clock clock second fraction)
  unfold readings chars
  rw [hread]
  match clock, second, fraction, htime with
  | none, none, none, _ => rfl
  | some (hour, minute), none, none, htime =>
      obtain ⟨hhour, hminute⟩ := Bool.and_eq_true_iff.mp htime
      have hclock := takeClock_run { year, month, day } hhour hminute (stops_second none none)
      dsimp only
      rw [hclock]
      rfl
  | some (hour, minute), some second, none, htime =>
      simp only [Bool.and_eq_true] at htime
      obtain ⟨⟨hhour, hminute⟩, hsecond⟩ := htime
      have hclock := takeClock_run { year, month, day } hhour hminute
        (stops_second (some second) none)
      have hlast := takeSecond_run { year, month, day, clock := some (hour, minute) } hsecond
        (stops_fraction none)
      dsimp only
      rw [hclock]
      dsimp only
      rw [hlast]
      rfl
  | some (hour, minute), some second, some fraction, htime =>
      simp only [Bool.and_eq_true] at htime
      obtain ⟨⟨⟨hhour, hminute⟩, hsecond⟩, hfraction⟩ := htime
      have hclock := takeClock_run { year, month, day } hhour hminute
        (stops_second (some second) (some fraction))
      have hlast := takeSecond_run { year, month, day, clock := some (hour, minute) } hsecond
        (stops_fraction (some fraction))
      have hall := takeFraction_run
        { year, month, day, clock := some (hour, minute), second := some second } hfraction
      dsimp only
      rw [hclock]
      dsimp only
      rw [hlast]
      dsimp only
      rw [hall]
      rfl

/-! ### What was taken -/

section Taken

variable {cs : List Char} {r : MomentShape × List Char}

theorem shape_of_takeDay (h : takeDay cs = some r) :
    ∃ year month day, r.1 = { year, month, day } ∧ isRun 4 4 year = true ∧
      isRun 1 2 month = true ∧ isRun 1 2 day = true ∧
      cs = year ++ '-' :: (month ++ '-' :: (day ++ r.2)) := by
  obtain ⟨⟨year, cs₁⟩, h₁, h⟩ := Option.bind_eq_some_iff.mp h
  obtain ⟨cs₂, h₂, h⟩ := Option.bind_eq_some_iff.mp h
  obtain ⟨⟨month, cs₃⟩, h₃, h⟩ := Option.bind_eq_some_iff.mp h
  obtain ⟨cs₄, h₄, h⟩ := Option.bind_eq_some_iff.mp h
  obtain ⟨⟨day, cs₅⟩, h₅, h⟩ := Option.bind_eq_some_iff.mp h
  obtain rfl := Option.some.inj h
  refine ⟨year, month, day, rfl, isRun_of_takeDigits h₁, isRun_of_takeDigits h₃,
    isRun_of_takeDigits h₅, ?_⟩
  rw [(takeDigits_eq_some h₁).1, takeChar_eq_some h₂, (takeDigits_eq_some h₃).1,
    takeChar_eq_some h₄, (takeDigits_eq_some h₅).1]

theorem shape_of_takeClock (h : takeClock s cs = some r) :
    ∃ hour minute, r.1 = { s with clock := some (hour, minute) } ∧ isRun 1 2 hour = true ∧
      isRun 2 2 minute = true ∧ cs = clockChars (some (hour, minute)) ++ r.2 := by
  obtain ⟨cs₁, h₁, h⟩ := Option.bind_eq_some_iff.mp h
  obtain ⟨⟨hour, cs₂⟩, h₂, h⟩ := Option.bind_eq_some_iff.mp h
  obtain ⟨cs₃, h₃, h⟩ := Option.bind_eq_some_iff.mp h
  obtain ⟨⟨minute, cs₄⟩, h₄, h⟩ := Option.bind_eq_some_iff.mp h
  obtain rfl := Option.some.inj h
  refine ⟨hour, minute, rfl, isRun_of_takeDigits h₂, isRun_of_takeDigits h₄, ?_⟩
  rw [takeChar_eq_some h₁, (takeDigits_eq_some h₂).1, takeChar_eq_some h₃,
    (takeDigits_eq_some h₄).1, clockChars, List.cons_append, List.append_assoc, List.cons_append]

theorem shape_of_takeSecond (h : takeSecond s cs = some r) :
    ∃ second, r.1 = { s with second := some second } ∧ isRun 2 2 second = true ∧
      cs = markedChars ':' (some second) ++ r.2 := by
  obtain ⟨cs₁, h₁, h⟩ := Option.bind_eq_some_iff.mp h
  obtain ⟨⟨second, cs₂⟩, h₂, h⟩ := Option.bind_eq_some_iff.mp h
  obtain rfl := Option.some.inj h
  refine ⟨second, rfl, isRun_of_takeDigits h₂, ?_⟩
  rw [takeChar_eq_some h₁, (takeDigits_eq_some h₂).1]
  rfl

theorem shape_of_takeFraction (h : takeFraction s cs = some r) :
    ∃ fraction, r.1 = { s with fraction := some fraction } ∧
      isRun 1 fraction.length fraction = true ∧ cs = markedChars '.' (some fraction) ++ r.2 := by
  obtain ⟨cs₁, h₁, h⟩ := Option.bind_eq_some_iff.mp h
  obtain ⟨⟨fraction, cs₂⟩, h₂, h⟩ := Option.bind_eq_some_iff.mp h
  obtain rfl := Option.some.inj h
  obtain ⟨hdigits, hleast, -⟩ := isRun_iff.mp (isRun_of_takeDigits h₂)
  refine ⟨fraction, rfl, isRun_iff.mpr ⟨hdigits, hleast, Nat.le_refl _⟩, ?_⟩
  rw [takeChar_eq_some h₁, (takeDigits_eq_some h₂).1]
  rfl

/-- Each way to read a moment takes a written moment off the text. -/
theorem isWritten_of_mem_readings (h : r ∈ readings cs) :
    r.1.isWritten = true ∧ cs = r.1.chars ++ r.2 := by
  unfold readings at h
  split at h
  case h_1 => cases h
  case h_2 day hday =>
  obtain ⟨year, month, d, hshape, hyear, hmonth, hd, rfl⟩ := shape_of_takeDay hday
  have hdayRead : day.1.isWritten = true ∧
      year ++ '-' :: (month ++ '-' :: (d ++ day.2)) = day.1.chars ++ day.2 := by
    rw [hshape]
    simp [isWritten, chars, clockChars, markedChars, hyear, hmonth, hd]
  split at h
  case h_1 =>
      obtain rfl := List.mem_singleton.mp h
      exact hdayRead
  case h_2 clock hclock =>
  obtain ⟨hour, minute, hclockShape, hhour, hminute, hclockChars⟩ := shape_of_takeClock hclock
  have hclockRead : clock.1.isWritten = true ∧
      year ++ '-' :: (month ++ '-' :: (d ++ day.2)) = clock.1.chars ++ clock.2 := by
    rw [hclockShape, hshape, hclockChars]
    simp [isWritten, chars, clockChars, markedChars, hyear, hmonth, hd, hhour, hminute]
  split at h
  case h_1 =>
      simp only [List.mem_cons, List.not_mem_nil, or_false] at h
      rcases h with rfl | rfl
      · exact hclockRead
      · exact hdayRead
  case h_2 second hsecond =>
  obtain ⟨ss, hsecondShape, hss, hsecondChars⟩ := shape_of_takeSecond hsecond
  simp only [List.mem_append, Option.mem_toList, List.mem_cons, List.not_mem_nil, or_false] at h
  rcases h with h | rfl | rfl | rfl
  · obtain ⟨fs, hfractionShape, hfs, hfractionChars⟩ := shape_of_takeFraction h
    rw [hfractionShape, hsecondShape, hclockShape, hshape, hclockChars, hsecondChars,
      hfractionChars]
    simp [isWritten, chars, clockChars, markedChars, hyear, hmonth, hd, hhour, hminute, hss, hfs]
  · rw [hsecondShape, hclockShape, hshape, hclockChars, hsecondChars]
    simp [isWritten, chars, clockChars, markedChars, hyear, hmonth, hd, hhour, hminute, hss]
  · exact hclockRead
  · exact hdayRead

end Taken

theorem isRun_year (h : s.isWritten = true) : isRun 4 4 s.year = true := by
  simp only [isWritten, Bool.and_eq_true] at h
  exact h.1.1.1

theorem chars_eq_cons (h : s.isWritten = true) :
    ∃ c cs, s.chars = c :: cs ∧ Text.isDigit c = true := by
  obtain ⟨hdigits, hleast, -⟩ := isRun_iff.mp (isRun_year h)
  obtain ⟨c, cs, hyear⟩ := List.exists_cons_of_length_pos (Nat.lt_of_lt_of_le (by decide) hleast)
  have hdigit : Text.isDigit c = true := hdigits c (hyear ▸ List.mem_cons_self)
  rw [chars, hyear]
  exact ⟨c, _, List.cons_append, hdigit⟩

end Readings

/-! ### What a shape names -/

/-- The shape is that of a day which exists, and of a time that a clock shows. -/
structure IsValid (s : MomentShape) : Prop where
  year : Text.decimalValue s.year ≠ 0
  day : IsDay (Text.decimalValue s.year) (Text.decimalValue s.month) (Text.decimalValue s.day)
  hour : ∀ time ∈ s.clock, Text.decimalValue time.1 ≤ 23
  minute : ∀ time ∈ s.clock, Text.decimalValue time.2 ≤ 59
  second : ∀ ds ∈ s.second, Text.decimalValue ds ≤ 59

/-- The day with the year, the month and the day of a shape. -/
structure NamesDate (s : MomentShape) (d : Date) : Prop where
  year : d.year = Text.decimalValue s.year
  month : d.month = Text.decimalValue s.month
  day : d.day = Text.decimalValue s.day

/-- The first six digits of a fraction, with zeros if there are fewer. -/
def sixDigits (fraction : List Char) : List Char :=
  (fraction ++ List.replicate 6 '0').take 6

/-- The time with the given hour and minute and with the second and the fraction of a shape; of the
fraction only six digits count. -/
structure NamesTime (s : MomentShape) (hour minute : List Char) (t : Clock) : Prop where
  hour : t.hour = Text.decimalValue hour
  minute : t.minute = Text.decimalValue minute
  second : t.second = Text.decimalValue (s.second.getD [])
  micro : t.micro = Text.decimalValue (sixDigits (s.fraction.getD []))

/-- The moment that a shape names. -/
inductive Names (s : MomentShape) : Moment → Prop
  | day {d : Date} : s.clock = none → s.NamesDate d → Names s (.day d)
  | instant {d : Date} {t : Clock} {hour minute : List Char} : s.clock = some (hour, minute) →
      s.NamesDate d → s.NamesTime hour minute t → Names s (.instant d t)

theorem micros_eq (fraction : List Char) :
    micros fraction = Text.decimalValue (sixDigits fraction) := by
  have hzeros : (List.replicate 6 '0').take (6 - fraction.length) =
      List.replicate (6 - fraction.length) '0' := by
    rw [List.take_replicate]
    congr 1
    omega
  have hlength : 6 - (fraction.take 6).length = 6 - fraction.length := by
    rw [List.length_take]
    omega
  rw [sixDigits, List.take_append, hzeros, Text.decimalValue_append, Text.decimalValue_zeros,
    List.length_replicate, Nat.add_zero, micros, hlength]
  rfl

theorem micros_lt (fraction : List Char) : micros fraction < 1000000 := by
  have hlength : (sixDigits fraction).length ≤ 6 := List.length_take_le 6 _
  rw [micros_eq]
  exact Nat.lt_of_lt_of_le (Text.decimalValue_lt _) (Number.ten_pow_le hlength)

section Values

variable {s : MomentShape}

theorem toDate_eq_ok_iff {d : Date} : s.toDate = .ok d ↔ s.NamesDate d := by
  constructor
  · intro h
    unfold toDate at h
    dsimp only at h
    split at h
    case isFalse => cases h
    case isTrue =>
    split at h
    case isFalse => cases h
    case isTrue =>
    split at h
    case isFalse => cases h
    case isTrue =>
        obtain rfl := Except.ok.inj h
        exact ⟨rfl, rfl, rfl⟩
  · obtain ⟨year, month, day, hyear, hmonth, hday⟩ := d
    rintro ⟨h₁, h₂, h₃⟩
    dsimp only at h₁ h₂ h₃
    subst h₁ h₂ h₃
    simp only [toDate, dif_pos hyear, dif_pos hmonth, dif_pos hday]

theorem toClock_eq_ok_iff {hour minute second : Nat} {fraction : List Char} {t : Clock} :
    toClock hour minute second fraction = .ok t ↔
      t.hour = hour ∧ t.minute = minute ∧ t.second = second ∧ t.micro = micros fraction := by
  constructor
  · intro h
    unfold toClock at h
    split at h
    case isFalse => cases h
    case isTrue =>
    split at h
    case isFalse => cases h
    case isTrue =>
    split at h
    case isFalse => cases h
    case isTrue =>
    split at h
    case isFalse => cases h
    case isTrue =>
        obtain rfl := Except.ok.inj h
        exact ⟨rfl, rfl, rfl, rfl⟩
  · obtain ⟨hour', minute', second', micro, hhour, hminute, hsecond, hmicro⟩ := t
    rintro ⟨h₁, h₂, h₃, h₄⟩
    dsimp only at h₁ h₂ h₃ h₄
    subst h₁ h₂ h₃ h₄
    simp only [toClock, dif_pos hhour, dif_pos hminute, dif_pos hsecond, dif_pos hmicro]

/-- The parts of a shape are put together to the moment that the shape names. -/
theorem toMoment_eq_ok_iff {m : Moment} : s.toMoment = .ok m ↔ s.Names m := by
  unfold toMoment
  rw [bind_eq_ok]
  constructor
  · rintro ⟨d, hd, h⟩
    have hdate := toDate_eq_ok_iff.mp hd
    split at h
    case h_1 hclock =>
        obtain rfl := Except.ok.inj h
        exact .day hclock hdate
    case h_2 hour minute hclock =>
        obtain ⟨t, ht, h⟩ := bind_eq_ok.mp h
        obtain rfl := Except.ok.inj h
        obtain ⟨h₁, h₂, h₃, h₄⟩ := toClock_eq_ok_iff.mp ht
        exact .instant hclock hdate ⟨h₁, h₂, h₃, h₄.trans (micros_eq _)⟩
  · intro h
    cases h with
    | @day d hclock hdate =>
        refine ⟨d, toDate_eq_ok_iff.mpr hdate, ?_⟩
        rw [hclock]
        rfl
    | @instant d t hour minute hclock hdate htime =>
        refine ⟨d, toDate_eq_ok_iff.mpr hdate, ?_⟩
        have ht := toClock_eq_ok_iff.mpr
          ⟨htime.hour, htime.minute, htime.second, htime.micro.trans (micros_eq _).symm⟩
        rw [hclock]
        exact bind_eq_ok.mpr ⟨t, ht, rfl⟩

/-- A shape with a year of four digits names a moment exactly if it is valid. -/
theorem exists_names_iff (h : s.isWritten = true) : (∃ m, s.Names m) ↔ s.IsValid := by
  have hyear : Text.decimalValue s.year ≤ 9999 := by
    obtain ⟨-, hleast, hmost⟩ := isRun_iff.mp (isRun_year h)
    have hlt := Text.decimalValue_lt s.year
    rw [Nat.le_antisymm hmost hleast] at hlt
    exact Nat.le_of_lt_succ hlt
  have hdate : ∀ {d : Date}, s.NamesDate d → Text.decimalValue s.year ≠ 0 ∧
      IsDay (Text.decimalValue s.year) (Text.decimalValue s.month) (Text.decimalValue s.day) := by
    rintro d ⟨hy, hm, hd⟩
    rw [← hy, ← hm, ← hd]
    exact ⟨Nat.one_le_iff_ne_zero.mp d.year_range.1, isDay_iff.mpr ⟨d.month_range, d.day_range⟩⟩
  constructor
  · rintro ⟨m, hm⟩
    cases hm with
    | day hclock hd =>
        have hnone : s.second = none := by
          simp only [isWritten, hclock, Bool.and_eq_true] at h
          cases hs : s.second with
          | none => rfl
          | some ds => simp [hs] at h
        exact ⟨(hdate hd).1, (hdate hd).2, by simp [hclock], by simp [hclock], by simp [hnone]⟩
    | @instant d t hour minute hclock hd ht =>
        refine ⟨(hdate hd).1, (hdate hd).2, ?_, ?_, ?_⟩
        · intro time htime
          obtain rfl := Option.some.inj (hclock.symm.trans htime)
          exact ht.hour ▸ t.hour_range
        · intro time htime
          obtain rfl := Option.some.inj (hclock.symm.trans htime)
          exact ht.minute ▸ t.minute_range
        · intro ds hds
          have hsecond := t.second_range
          rw [ht.second, hds] at hsecond
          exact hsecond
  · rintro ⟨hpositive, hday, hhour, hminute, hsecond⟩
    obtain ⟨hmonth, hdays⟩ := isDay_iff.mp hday
    have hd : s.NamesDate ⟨_, _, _, ⟨Nat.one_le_iff_ne_zero.mpr hpositive, hyear⟩, hmonth, hdays⟩ :=
      ⟨rfl, rfl, rfl⟩
    cases hclock : s.clock with
    | none => exact ⟨_, .day hclock hd⟩
    | some time =>
        have hshown : Text.decimalValue (s.second.getD []) ≤ 59 := by
          cases hs : s.second with
          | none => decide
          | some ds => exact hsecond ds hs
        exact ⟨_, .instant (t := ⟨_, _, _, _, hhour time hclock, hminute time hclock, hshown,
          micros_lt (s.fraction.getD [])⟩) hclock hd ⟨rfl, rfl, rfl, micros_eq _⟩⟩

end Values

end MomentShape

/-! ## The text of a moment -/

namespace Moment

section Whole

variable {s : MomentShape}

theorem find?_readings (h : s.isWritten = true) {p : MomentShape × List Char → Bool}
    (hp : p (s, []) = true) : (MomentShape.readings s.chars).find? p = some (s, []) := by
  obtain ⟨rest, hrest⟩ := List.head?_eq_some_iff.mp (MomentShape.head?_readings h)
  rw [hrest, List.find?_cons_of_pos hp]

theorem read_text (h : s.isWritten = true) : read s.text = s.toMoment := by
  unfold read
  rw [MomentShape.text, String.toList_ofList, find?_readings h rfl]

theorem length?_chars (h : s.isWritten = true) : length? s.chars = some s.chars.length := by
  unfold length?
  dsimp only
  rw [find?_readings h rfl]
  rfl

/-- A text is a date as a whole exactly if it is a written moment. -/
theorem length?_eq_length_iff {cs : List Char} :
    length? cs = some cs.length ↔ ∃ s : MomentShape, s.isWritten = true ∧ s.chars = cs := by
  constructor
  · intro h
    obtain ⟨r, hr, hlength⟩ := Option.map_eq_some_iff.mp h
    obtain ⟨hwritten, rfl⟩ :=
      MomentShape.isWritten_of_mem_readings (List.mem_of_find?_eq_some hr)
    obtain ⟨c, rest, hchars, -⟩ := MomentShape.chars_eq_cons hwritten
    have hnil : r.2 = [] := by
      rw [hchars, List.length_append, List.length_cons] at hlength
      exact List.eq_nil_of_length_eq_zero (by omega)
    refine ⟨r.1, hwritten, ?_⟩
    rw [hnil, List.append_nil]
  · rintro ⟨s, hwritten, rfl⟩
    exact length?_chars hwritten

end Whole

/-- The runs of digits in the text of a day. -/
def dateShape (d : Date) : MomentShape :=
  { year := Binary64.padded 4 d.year
    month := Binary64.padded 2 d.month
    day := Binary64.padded 2 d.day }

/-- The runs of digits in the text of a moment. -/
def shape : Moment → MomentShape
  | .day d => dateShape d
  | .instant d t =>
    { dateShape d with
      clock := some (Binary64.padded 2 t.hour, Binary64.padded 2 t.minute)
      second := some (Binary64.padded 2 t.second)
      fraction := if t.micro = 0 then none else some (Binary64.padded 6 t.micro) }

theorem text_shape (m : Moment) : m.shape.text = m.text := by
  apply String.ext
  cases m with
  | day d =>
      simp [MomentShape.text, MomentShape.chars, MomentShape.clockChars, MomentShape.markedChars,
        shape, dateShape, Moment.text, dateText, pad]
  | instant d t =>
      by_cases hmicro : t.micro = 0 <;>
        simp [MomentShape.text, MomentShape.chars, MomentShape.clockChars, MomentShape.markedChars,
          shape, dateShape, Moment.text, dateText, clockText, pad, hmicro]

theorem isRun_padded {width n least : Nat} (hleast : least ≤ width) (hwidth : 0 < width)
    (h : n < 10 ^ width) : MomentShape.isRun least width (Binary64.padded width n) = true := by
  rw [MomentShape.isRun_iff, Binary64.length_padded hwidth h]
  exact ⟨fun _ => Binary64.isDigit_of_mem_padded, hleast, Nat.le_refl width⟩

theorem daysInMonth_le (year month : Nat) : daysInMonth year month ≤ 31 := by
  unfold daysInMonth
  split_ifs <;> decide

theorem isWritten_shape (m : Moment) : m.shape.isWritten = true := by
  have hdate : ∀ d : Date, MomentShape.isRun 4 4 (Binary64.padded 4 d.year) = true ∧
      MomentShape.isRun 1 2 (Binary64.padded 2 d.month) = true ∧
      MomentShape.isRun 1 2 (Binary64.padded 2 d.day) = true := by
    intro d
    have hyear := d.year_range
    have hmonth := d.month_range
    have hday := Nat.le_trans d.day_range.2 (daysInMonth_le d.year d.month)
    exact ⟨isRun_padded (by decide) (by decide) (by omega),
      isRun_padded (by decide) (by decide) (by omega),
      isRun_padded (by decide) (by decide) (by omega)⟩
  have htwo : ∀ {least n : Nat}, least ≤ 2 → n ≤ 59 →
      MomentShape.isRun least 2 (Binary64.padded 2 n) = true := by
    intro least n hleast hn
    exact isRun_padded hleast (by decide) (by omega)
  cases m with
  | day d => simp [MomentShape.isWritten, shape, dateShape, hdate d]
  | instant d t =>
      have hhour := htwo (by decide : 1 ≤ 2) (Nat.le_trans t.hour_range (by decide))
      have hminute := htwo (Nat.le_refl 2) t.minute_range
      have hsecond := htwo (Nat.le_refl 2) t.second_range
      by_cases hmicro : t.micro = 0
      · simp [MomentShape.isWritten, shape, dateShape, hdate d, hmicro, hhour, hminute, hsecond]
      · have hlength := Binary64.length_padded (by decide : 0 < 6) t.micro_range
        have hfraction := isRun_padded (by decide : 1 ≤ 6) (by decide) t.micro_range
        simp [MomentShape.isWritten, shape, dateShape, hdate d, hmicro, hhour, hminute, hsecond,
          hlength, hfraction]

/-- The text of a moment names it. -/
theorem names_shape (m : Moment) : m.shape.Names m := by
  have hdate : ∀ {s : MomentShape} {d : Date}, s.year = Binary64.padded 4 d.year →
      s.month = Binary64.padded 2 d.month → s.day = Binary64.padded 2 d.day → s.NamesDate d := by
    intro s d hyear hmonth hday
    refine ⟨?_, ?_, ?_⟩
    · rw [hyear, Binary64.decimalValue_padded]
    · rw [hmonth, Binary64.decimalValue_padded]
    · rw [hday, Binary64.decimalValue_padded]
  cases m with
  | day d => exact .day rfl (hdate rfl rfl rfl)
  | instant d t =>
      refine .instant rfl (hdate rfl rfl rfl) ⟨?_, ?_, ?_, ?_⟩
      · exact (Binary64.decimalValue_padded 2 t.hour).symm
      · exact (Binary64.decimalValue_padded 2 t.minute).symm
      · exact (Binary64.decimalValue_padded 2 t.second).symm
      · by_cases hmicro : t.micro = 0
        · simp only [shape, hmicro, if_pos]
          rfl
        · have hlength := Binary64.length_padded (by decide : 0 < 6) t.micro_range
          have hsix : MomentShape.sixDigits (Binary64.padded 6 t.micro) =
              Binary64.padded 6 t.micro :=
            List.take_left' hlength
          simp only [shape, if_neg hmicro, Option.getD_some, hsix, Binary64.decimalValue_padded]

end Moment

/-! ## Dates in expressions -/

namespace Expr

/-- A date that stands alone is read as a literal, if it names a moment. -/
theorem expression_date (c : Clause) {t : Token} (hk : t.kind = .date) {e : Expr} :
    expression c [t] = .ok (e, []) ↔ ∃ m, e = .literal (.moment m) ∧ Moment.read t.text = .ok m := by
  cases hm : Moment.read t.text with
  | error fault =>
      simp only [expression, logical, comparison, sum, product, Reader.chain, unary, access,
        primary, hk, hm]
      constructor
      · intro h
        cases h
      · rintro ⟨_, _, h⟩
        cases h
  | ok m =>
      simp only [expression, logical, comparison, sum, product, Reader.chain, unary, access,
        primary, hk, hm]
      constructor
      · intro h
        cases h
        exact ⟨m, rfl, rfl⟩
      · rintro ⟨_, rfl, h⟩
        cases h
        rfl

/-- A text with the shape of a date is one token. -/
theorem tokenize_moment {s : MomentShape} (h : s.isWritten = true) :
    ∃ t stop : Token, t.kind = .date ∧ t.text = s.text ∧ stop.kind = .endOfText ∧
      Token.tokenize s.text = .ok ([t] ++ [stop]) := by
  obtain ⟨c, cs, hchars, hc⟩ := MomentShape.chars_eq_cons h
  have hlex : Token.Lexes none c cs (.ok (.token .date s.text s.chars.length)) := by
    have hlength := Moment.length?_chars h
    rw [hchars] at hlength
    have hdate : Token.Lexes none c cs _ := .date hc hlength
    rwa [List.take_length, ← hchars] at hdate
  have hcut : Token.Cut none [⟨[], s.chars, .date, s.text, s.chars.length⟩] [] := by
    refine .piece .nil ((List.append_nil _).trans hchars) hlex.lexeme_eq ?_ .done
    rw [← hchars, List.take_length]
  have htext : s.text.toList = Token.joined [⟨[], s.chars, .date, s.text, s.chars.length⟩] [] := by
    simp [MomentShape.text, Token.joined]
  obtain ⟨stop, hstop, -, htokens⟩ := Token.tokenize_of_cut hcut .nil htext
  exact ⟨_, stop, rfl, rfl, hstop, htokens⟩

/-- A text with the shape of a date is read as the moment that the shape names. -/
theorem read_moment {s : MomentShape} (h : s.isWritten = true) {limit : Int} {e : Expr} :
    Expr.read s.text limit = .ok e ↔ ∃ m, e = .literal (.moment m) ∧ s.Names m := by
  obtain ⟨t, stop, hkind, htext, hstop, htokens⟩ := tokenize_moment h
  have hbody : ∀ t' ∈ [t], t'.kind ≠ .endOfText := by simp [hkind]
  rw [Expr.read, htokens]
  show Segment.readAll (Clause.ofTokens s.text limit ([t] ++ [stop])) "expression" _ = .ok e ↔ _
  rw [readAll_eq_ok, tokens_ofTokens hbody hstop, expression_date _ hkind, htext,
    Moment.read_text h]
  simp only [MomentShape.toMoment_eq_ok_iff]

end Expr

/-- A moment is read back from its text.  The texts that are a date as a whole are the written
moments.  One of them is read exactly if the day exists in the calendar and the clock shows the time;
it is read as the moment that its runs of digits name, and what is read stays the same when it is
written and read again. -/
theorem moment_is_read_back (limit : Int) :
    (∀ m : Moment, Expr.read m.text limit = .ok (.literal (.moment m))) ∧
    (∀ cs, Moment.length? cs = some cs.length ↔
      ∃ s : MomentShape, s.isWritten = true ∧ s.chars = cs) ∧
    ∀ s : MomentShape, s.isWritten = true →
      ((∃ e, Expr.read s.text limit = .ok e) ↔ s.IsValid) ∧
      ∀ e, Expr.read s.text limit = .ok e →
        ∃ m, e = .literal (.moment m) ∧ s.Names m ∧ Expr.read m.text limit = .ok e := by
  have hback : ∀ m : Moment, Expr.read m.text limit = .ok (.literal (.moment m)) := by
    intro m
    rw [← m.text_shape]
    exact (Expr.read_moment m.isWritten_shape).mpr ⟨m, rfl, m.names_shape⟩
  refine ⟨hback, fun cs => Moment.length?_eq_length_iff, ?_⟩
  intro s h
  constructor
  · rw [← MomentShape.exists_names_iff h]
    constructor
    · rintro ⟨e, he⟩
      obtain ⟨m, -, hm⟩ := (Expr.read_moment h).mp he
      exact ⟨m, hm⟩
    · rintro ⟨m, hm⟩
      exact ⟨_, (Expr.read_moment h).mpr ⟨m, rfl, hm⟩⟩
  · intro e he
    obtain ⟨m, rfl, hm⟩ := (Expr.read_moment h).mp he
    exact ⟨m, rfl, hm, hback m⟩

/-- A time on the 29th of February, to a seventh digit, with the year that is given. -/
def lateFebruary (year : List Char) : MomentShape :=
  { year, month := ['2'], day := ['2', '9'], clock := some (['9'], ['0', '5'])
    second := some ['0', '7'], fraction := some ['1', '2', '3', '4', '5', '6', '7'] }

theorem moment_is_read_back_leap_day :
    (lateFebruary ['2', '0', '2', '4']).isWritten = true ∧
    (lateFebruary ['2', '0', '2', '3']).isWritten = true ∧
    (∃ m, Expr.read (lateFebruary ['2', '0', '2', '4']).text 100 = .ok (.literal (.moment m)) ∧
      Expr.read m.text 100 = .ok (.literal (.moment m))) ∧
    ¬ ∃ e, Expr.read (lateFebruary ['2', '0', '2', '3']).text 100 = .ok e := by
  have hleap : (lateFebruary ['2', '0', '2', '4']).isWritten = true := by decide
  have hcommon : (lateFebruary ['2', '0', '2', '3']).isWritten = true := by decide
  obtain ⟨-, -, h⟩ := moment_is_read_back 100
  refine ⟨hleap, hcommon, ?_, ?_⟩
  · have hvalid : (lateFebruary ['2', '0', '2', '4']).IsValid :=
      ⟨by decide, isDay_iff.mpr (by decide), by decide, by decide, by decide⟩
    obtain ⟨e, he⟩ := (h _ hleap).1.mpr hvalid
    obtain ⟨m, rfl, -, hback⟩ := (h _ hleap).2 e he
    exact ⟨m, he, hback⟩
  · intro hread
    have hday := ((h _ hcommon).1.mp hread).day
    exact absurd (isDay_iff.mp hday) (by decide)

end VaultQuery
