import Mathlib.Algebra.BigOperators.Group.List.Basic
import Mathlib.Algebra.Ring.Int.Defs
import Mathlib.Order.Monotone.Basic
import Mathlib.Tactic.IntervalCases

/-! Date arithmetic of ECMAScript in UTC: instants are milliseconds since the
epoch, days are counted in the proleptic Gregorian calendar, and a day of the
month that is too large runs over into the following month. -/
namespace Calendar

def msPerDay : Int := 86400000

/-- `Day(t)`; the division rounds down, also before the epoch. -/
def day (t : Int) : Int := t / msPerDay

def timeWithinDay (t : Int) : Int := t % msPerDay

def isLeapYear (year : Int) : Bool :=
  year % 4 == 0 && (year % 100 != 0 || year % 400 == 0)

/-- `DayFromYear(y)`, the day number of the first of January. -/
def dayFromYear (year : Int) : Int :=
  365 * (year - 1970) + (year - 1969) / 4 - (year - 1901) / 100 + (year - 1601) / 400

/-- The largest year that has begun on the given day. The mean length of a year
gives an estimate that is at most one year off. -/
def yearFromDay (d : Int) : Int :=
  let estimate := 1970 + 400 * d / 146097
  if dayFromYear (estimate + 1) ≤ d then estimate + 1
  else if dayFromYear estimate ≤ d then estimate
  else estimate - 1

def monthLengths (leap : Bool) : List Int :=
  [31, if leap then 29 else 28, 31, 30, 31, 30, 31, 31, 30, 31, 30, 31]

/-- The number of days of the year before a month, counted from zero. -/
def monthStart (leap : Bool) (month : Nat) : Int := ((monthLengths leap).take month).sum

/-- `MonthFromTime(t)` for a day: the months of the year that began before it. -/
def monthFromDay (d : Int) : Nat :=
  let year := yearFromDay d
  ((List.range 11).filter fun m =>
    decide (monthStart (isLeapYear year) (m + 1) ≤ d - dayFromYear year)).length

/-- `DateFromTime(t)` for a day, counted from one. -/
def dateFromDay (d : Int) : Int :=
  d - dayFromYear (yearFromDay d) - monthStart (isLeapYear (yearFromDay d)) (monthFromDay d) + 1

/-- `MakeDay(year, month, date)`. Months beyond the year carry into the year. -/
def makeDay (year month date : Int) : Int :=
  let year' := year + month / 12
  dayFromYear year' + monthStart (isLeapYear year') (month % 12).toNat + date - 1

def makeDate (d time : Int) : Int := d * msPerDay + time

/-- The instants of a day. -/
theorem day_eq_iff {t d : Int} : day t = d ↔ makeDate d 0 ≤ t ∧ t < makeDate (d + 1) 0 := by
  unfold day makeDate msPerDay
  omega

theorem makeDate_le_iff {d t : Int} : makeDate d 0 ≤ t ↔ d ≤ day t := by
  unfold day makeDate msPerDay
  omega

theorem lt_makeDate_iff {d t : Int} : t < makeDate d 0 ↔ day t < d := by
  unfold day makeDate msPerDay
  omega

/-- `date.setMonth(month)` for the date at instant `t`. -/
def setMonth (t month : Int) : Int :=
  makeDate (makeDay (yearFromDay (day t)) month (dateFromDay (day t))) (timeWithinDay t)

/-- `date.setFullYear(year)` for the date at instant `t`. -/
def setFullYear (t year : Int) : Int :=
  makeDate (makeDay year (monthFromDay (day t)) (dateFromDay (day t))) (timeWithinDay t)

/-- Decimal digits with leading zeros up to the given width. -/
def padded (width value : Nat) : String :=
  let digits := Nat.toDigits 10 value
  String.ofList (List.replicate (width - digits.length) '0' ++ digits)

/-- Four digits, or a sign and six digits outside the years 0 to 9999. -/
def yearText (year : Int) : String :=
  if 0 ≤ year ∧ year ≤ 9999 then padded 4 year.toNat
  else (if year < 0 then "-" else "+") ++ padded 6 year.natAbs

/-- `date.toISOString()` for the date at instant `t`. -/
def toISOString (t : Int) : String :=
  let ms := timeWithinDay t
  yearText (yearFromDay (day t)) ++ "-" ++ padded 2 (monthFromDay (day t) + 1) ++ "-" ++
    padded 2 (dateFromDay (day t)).toNat ++ "T" ++ padded 2 (ms / 3600000).toNat ++ ":" ++
    padded 2 (ms / 60000 % 60).toNat ++ ":" ++ padded 2 (ms / 1000 % 60).toNat ++ "." ++
    padded 3 (ms % 1000).toNat ++ "Z"

/-- The value of decimal digits. -/
def digits? (text : List Char) : Option Nat :=
  if text.all Char.isDigit then some (Nat.ofDigitChars 10 text 0) else none

/-- `new Date(text + "T00:00:00.000Z")` for a text of the form YYYY-MM-DD. The day may
be larger than the month is long, up to 31. -/
def parseMidnight (text : String) : Option Int :=
  match text.toList with
  | [y₁, y₂, y₃, y₄, '-', m₁, m₂, '-', d₁, d₂] => do
      let year ← digits? [y₁, y₂, y₃, y₄]
      let month ← digits? [m₁, m₂]
      let date ← digits? [d₁, d₂]
      if 1 ≤ month ∧ month ≤ 12 ∧ 1 ≤ date ∧ date ≤ 31 then some (makeDate (makeDay year (month - 1) date) 0) else none
  | _ => none

theorem isLeapYear_iff {year : Int} : isLeapYear year = true ↔ year % 4 = 0 ∧ (year % 100 ≠ 0 ∨ year % 400 = 0) := by
  simp [isLeapYear]

theorem dayFromYear_succ (year : Int) :
    dayFromYear (year + 1) = dayFromYear year + if isLeapYear year then 366 else 365 := by
  unfold dayFromYear
  split
  · next hLeap =>
      have hMod := isLeapYear_iff.mp hLeap
      omega
  · next hPlain =>
      have hMod : ¬ (year % 4 = 0 ∧ (year % 100 ≠ 0 ∨ year % 400 = 0)) := fun h => hPlain (isLeapYear_iff.mpr h)
      omega

/-- A day lies in the year that is computed for it. -/
theorem dayFromYear_yearFromDay (d : Int) :
    dayFromYear (yearFromDay d) ≤ d ∧ d < dayFromYear (yearFromDay d + 1) := by
  unfold yearFromDay
  simp only
  split
  · next h =>
      refine ⟨h, ?_⟩
      unfold dayFromYear
      omega
  · next h =>
      split
      · next h' => exact ⟨h', not_le.mp h⟩
      · next h' =>
          rw [Int.sub_add_cancel]
          refine ⟨?_, not_le.mp h'⟩
          unfold dayFromYear
          omega

theorem monthStart_year (leap : Bool) : monthStart leap 12 = if leap then 366 else 365 := by
  cases leap <;> rfl

/-- The number of days of a month of a year. -/
def monthLength (year : Int) (month : Nat) : Int := (monthLengths (isLeapYear year)).getD month 0

theorem monthStart_succ (year : Int) (month : Nat) :
    monthStart (isLeapYear year) (month + 1) = monthStart (isLeapYear year) month + monthLength year month := by
  unfold monthStart monthLength
  generalize monthLengths (isLeapYear year) = lengths
  rw [List.getD_eq_getElem?_getD]
  by_cases h : month < lengths.length
  · rw [List.take_succ_eq_append_getElem h, List.sum_append_int]
    simp [h]
  · rw [List.take_of_length_le (by omega), List.take_of_length_le (by omega)]
    simp [h]

/-- A predicate that holds below every number for which it holds is counted up
to the first number for which it does not. -/
theorem lt_length_filter_range {p : Nat → Bool} (hDown : ∀ i j, i ≤ j → p j = true → p i = true) {n m : Nat}
    (hRange : m < n) : m < ((List.range n).filter p).length ↔ p m = true := by
  induction n with
  | zero => exact absurd hRange (Nat.not_lt_zero m)
  | succ n ih =>
      rw [List.range_succ, List.filter_append, List.length_append]
      by_cases hLast : p n = true
      · have hAll : (List.range n).filter p = List.range n :=
          List.filter_eq_self.mpr fun i hi => hDown i n (Nat.le_of_lt (List.mem_range.mp hi)) hLast
        have hHolds : p m = true := hDown m n (Nat.lt_succ_iff.mp hRange) hLast
        refine iff_of_true ?_ hHolds
        rw [hAll, List.length_range, List.filter_singleton, hLast]
        exact hRange
      · rw [List.filter_singleton, Bool.eq_false_iff.mpr hLast, cond_false, List.length_nil, Nat.add_zero]
        rcases Nat.lt_succ_iff_lt_or_eq.mp hRange with hBefore | rfl
        · exact ih hBefore
        · have hLength := List.length_filter_le p (List.range m)
          rw [List.length_range] at hLength
          exact iff_of_false (Nat.not_lt.mpr hLength) hLast

theorem monthLength_bounds (year : Int) {month : Nat} (hMonth : month < 12) :
    28 ≤ monthLength year month ∧ monthLength year month ≤ 31 := by
  unfold monthLength
  cases isLeapYear year <;> interval_cases month <;> decide

theorem monthStart_mono (year : Int) {first second : Nat} (h : first ≤ second) :
    monthStart (isLeapYear year) first ≤ monthStart (isLeapYear year) second := by
  refine monotone_nat_of_le_succ (fun month => ?_) h
  rw [monthStart_succ]
  by_cases hMonth : month < 12
  · have hLength := (monthLength_bounds year hMonth).1
    omega
  · have hNone : monthLength year month = 0 := by
      rw [monthLength, List.getD_eq_getElem?_getD, List.getElem?_eq_none (not_lt.mp hMonth)]
      rfl
    omega

/-- A day lies in the month of its year that is computed for it. -/
theorem monthStart_monthFromDay (d : Int) :
    monthFromDay d < 12 ∧
      monthStart (isLeapYear (yearFromDay d)) (monthFromDay d) ≤ d - dayFromYear (yearFromDay d) ∧
        d - dayFromYear (yearFromDay d) < monthStart (isLeapYear (yearFromDay d)) (monthFromDay d + 1) := by
  obtain ⟨hBegun, hEnds⟩ := dayFromYear_yearFromDay d
  rw [dayFromYear_succ, ← monthStart_year] at hEnds
  have hCount : ∀ month < 11, month < monthFromDay d ↔
      monthStart (isLeapYear (yearFromDay d)) (month + 1) ≤ d - dayFromYear (yearFromDay d) := by
    intro month hMonth
    have hFilter := @lt_length_filter_range (fun m => decide (monthStart (isLeapYear (yearFromDay d)) (m + 1) ≤
      d - dayFromYear (yearFromDay d))) (fun i j hij hj => decide_eq_true
        ((monthStart_mono (yearFromDay d) (Nat.succ_le_succ hij)).trans (of_decide_eq_true hj))) 11 month hMonth
    rw [decide_eq_true_iff] at hFilter
    exact hFilter
  have hBound : monthFromDay d ≤ 11 := List.length_filter_le _ _
  refine ⟨Nat.lt_succ_of_le hBound, ?_, ?_⟩
  · cases hMonth : monthFromDay d with
    | zero =>
        show (0 : Int) ≤ _
        omega
    | succ month => exact (hCount month (by omega)).mp (by omega)
  · rcases Nat.lt_or_eq_of_le hBound with hEarlier | hLast
    · exact not_le.mp fun h => absurd ((hCount _ hEarlier).mpr h) (Nat.lt_irrefl _)
    · rw [hLast]
      show _ < monthStart _ 12
      omega

/-- The day number of the first of a month; months are counted from January of year zero. -/
def firstOfMonth (month : Int) : Int :=
  dayFromYear (month / 12) + monthStart (isLeapYear (month / 12)) (month % 12).toNat

/-- The month of a day, counted in the same way. -/
def monthOfDay (d : Int) : Int := 12 * yearFromDay d + monthFromDay d

theorem monthOfDay_div (d : Int) : monthOfDay d / 12 = yearFromDay d := by
  have hMonth := (monthStart_monthFromDay d).1
  unfold monthOfDay
  omega

theorem monthOfDay_mod (d : Int) : (monthOfDay d % 12).toNat = monthFromDay d := by
  have hMonth := (monthStart_monthFromDay d).1
  unfold monthOfDay
  omega

/-- Months beyond the year carry into the year, and days run over the month. -/
theorem makeDay_eq (year month date : Int) : makeDay year month date = firstOfMonth (12 * year + month) + date - 1 := by
  have hYear : (12 * year + month) / 12 = year + month / 12 := by omega
  have hMonth : (12 * year + month) % 12 = month % 12 := by omega
  rw [makeDay, firstOfMonth, hYear, hMonth]

theorem firstOfMonth_succ (month : Int) :
    firstOfMonth (month + 1) = firstOfMonth month + monthLength (month / 12) (month % 12).toNat := by
  rw [firstOfMonth, firstOfMonth, add_assoc, ← monthStart_succ]
  by_cases hLast : month % 12 = 11
  · have hYear : (month + 1) / 12 = month / 12 + 1 := by omega
    have hFirst : ((month + 1) % 12).toNat = 0 := by omega
    have hMonth : (month % 12).toNat + 1 = 12 := by omega
    rw [hYear, hFirst, hMonth, monthStart_year, dayFromYear_succ]
    exact add_zero _
  · have hYear : (month + 1) / 12 = month / 12 := by omega
    have hMonth : ((month + 1) % 12).toNat = (month % 12).toNat + 1 := by omega
    rw [hYear, hMonth]

/-- No month is empty. -/
theorem firstOfMonth_lt_iff {first second : Int} : firstOfMonth first < firstOfMonth second ↔ first < second := by
  have hMono : StrictMono firstOfMonth := by
    refine strictMono_int_of_lt_succ fun month => ?_
    have hLength := (monthLength_bounds (month / 12) (show (month % 12).toNat < 12 by omega)).1
    rw [firstOfMonth_succ]
    omega
  exact hMono.lt_iff_lt

theorem firstOfMonth_mono {first second : Int} (h : first ≤ second) : firstOfMonth first ≤ firstOfMonth second :=
  not_lt.mp fun hLess => absurd (firstOfMonth_lt_iff.mp hLess) (not_lt.mpr h)

theorem dateFromDay_eq (d : Int) : dateFromDay d = d - firstOfMonth (monthOfDay d) + 1 := by
  rw [dateFromDay, firstOfMonth, monthOfDay_div, monthOfDay_mod]
  omega

/-- The month of a day is the one that it lies in. -/
theorem monthOfDay_eq_iff {d month : Int} :
    monthOfDay d = month ↔ firstOfMonth month ≤ d ∧ d < firstOfMonth (month + 1) := by
  have hLies : firstOfMonth (monthOfDay d) ≤ d ∧ d < firstOfMonth (monthOfDay d + 1) := by
    obtain ⟨_, hBegun, hEnds⟩ := monthStart_monthFromDay d
    rw [firstOfMonth_succ, firstOfMonth, monthOfDay_div, monthOfDay_mod]
    rw [monthStart_succ] at hEnds
    omega
  constructor
  · rintro rfl
    exact hLies
  · rintro ⟨hBegun, hEnds⟩
    have hNotLater := firstOfMonth_lt_iff.mp (lt_of_le_of_lt hBegun hLies.2)
    have hNotEarlier := firstOfMonth_lt_iff.mp (lt_of_le_of_lt hLies.1 hEnds)
    omega

theorem monthOfDay_mono {first second : Int} (h : first ≤ second) : monthOfDay first ≤ monthOfDay second := by
  have hFirst := (monthOfDay_eq_iff.mp (Eq.refl (monthOfDay first))).1
  have hSecond := (monthOfDay_eq_iff.mp (Eq.refl (monthOfDay second))).2
  have hLess := firstOfMonth_lt_iff.mp (lt_of_le_of_lt (hFirst.trans h) hSecond)
  omega

theorem one_le_dateFromDay (d : Int) : 1 ≤ dateFromDay d := by
  have hBegun := (monthOfDay_eq_iff.mp (Eq.refl (monthOfDay d))).1
  rw [dateFromDay_eq]
  omega

/-- A day is before a month exactly when its own month is. -/
theorem lt_firstOfMonth_iff {d month : Int} : d < firstOfMonth month ↔ monthOfDay d < month := by
  obtain ⟨hBegun, hEnds⟩ := monthOfDay_eq_iff.mp (Eq.refl (monthOfDay d))
  constructor
  · intro hLess
    exact firstOfMonth_lt_iff.mp (lt_of_le_of_lt hBegun hLess)
  · intro hMonth
    have hFirst := firstOfMonth_mono (show monthOfDay d + 1 ≤ month by omega)
    omega

/-- The leap day comes before March. -/
theorem monthStart_leap (leap : Bool) {month : Nat} (hMonth : month < 12) :
    monthStart leap month = monthStart false month + if leap = true ∧ 2 ≤ month then 1 else 0 := by
  cases leap <;> interval_cases month <;> decide

/-- From one month to the same of the next year; the year decides in which the February
lies that comes next. -/
theorem firstOfMonth_nextYear (month : Int) :
    firstOfMonth (month + 12) = firstOfMonth month + if isLeapYear ((month + 10) / 12) then 366 else 365 := by
  have hYear : (month + 12) / 12 = month / 12 + 1 := by omega
  have hMonth : (month + 12) % 12 = month % 12 := by omega
  have hPlace : (month % 12).toNat < 12 := by omega
  rw [firstOfMonth, firstOfMonth, hYear, hMonth, dayFromYear_succ, monthStart_leap _ hPlace,
    monthStart_leap (isLeapYear (month / 12)) hPlace]
  by_cases hMarch : 2 ≤ (month % 12).toNat
  · have hNext : (month + 10) / 12 = month / 12 + 1 := by omega
    rw [hNext]
    cases isLeapYear (month / 12) <;> cases isLeapYear (month / 12 + 1) <;> simp [hMarch] <;> omega
  · have hSame : (month + 10) / 12 = month / 12 := by omega
    rw [hSame]
    cases isLeapYear (month / 12) <;> simp [hMarch] <;> omega

/-- The twenty-ninth of February. -/
def IsLeapDay (d : Int) : Prop := monthFromDay d = 1 ∧ dateFromDay d = 29

theorem firstOfFebruary (year : Int) : firstOfMonth (12 * year + 1) = firstOfMonth (12 * year) + 31 := by
  have hYear : 12 * year / 12 = year := by omega
  have hMonth : (12 * year % 12).toNat = 0 := by omega
  rw [firstOfMonth_succ, hYear, hMonth, monthLength]
  cases isLeapYear year <;> rfl

theorem monthLength_february (year : Int) : monthLength year 1 = if isLeapYear year then 29 else 28 := rfl

theorem firstOfMarch {year : Int} (hLeap : isLeapYear year = true) :
    firstOfMonth (12 * year + 2) = firstOfMonth (12 * year + 1) + 29 := by
  have hYear : (12 * year + 1) / 12 = year := by omega
  have hMonth : ((12 * year + 1) % 12).toNat = 1 := by omega
  rw [show 12 * year + 2 = 12 * year + 1 + 1 by omega, firstOfMonth_succ, hYear, hMonth, monthLength_february, if_pos hLeap]

/-- Leap days are the days before the first of March in leap years. -/
theorem isLeapDay_iff {d : Int} :
    IsLeapDay d ↔ ∃ year, isLeapYear year = true ∧ d + 1 = firstOfMonth (12 * year + 2) := by
  constructor
  · rintro ⟨hMonth, hDate⟩
    have hLies := monthOfDay_eq_iff.mp (Eq.refl (monthOfDay d))
    have hYear : monthOfDay d / 12 = yearFromDay d := monthOfDay_div d
    rw [dateFromDay_eq] at hDate
    rw [firstOfMonth_succ, hYear, monthOfDay_mod, hMonth, monthLength_february] at hLies
    have hLeap : isLeapYear (yearFromDay d) = true := by
      by_contra hPlain
      rw [if_neg hPlain] at hLies
      omega
    refine ⟨yearFromDay d, hLeap, ?_⟩
    have hFebruary : monthOfDay d = 12 * yearFromDay d + 1 := by
      rw [monthOfDay, hMonth]
      rfl
    rw [firstOfMarch hLeap, ← hFebruary]
    omega
  · rintro ⟨year, hLeap, hDay⟩
    rw [firstOfMarch hLeap] at hDay
    have hMonth : monthOfDay d = 12 * year + 1 := by
      have hMarch := firstOfMarch hLeap
      rw [monthOfDay_eq_iff, show 12 * year + 1 + 1 = 12 * year + 2 by omega]
      omega
    refine ⟨?_, ?_⟩
    · rw [← monthOfDay_mod, hMonth]
      omega
    · rw [dateFromDay_eq, hMonth]
      omega

/-- A time of a day belongs to that day. -/
theorem day_makeDate {d time : Int} (h : 0 ≤ time ∧ time < msPerDay) : day (makeDate d time) = d := by
  unfold day makeDate
  unfold msPerDay at *
  omega

theorem timeWithinDay_makeDate {d time : Int} (h : 0 ≤ time ∧ time < msPerDay) :
    timeWithinDay (makeDate d time) = time := by
  unfold timeWithinDay makeDate
  unfold msPerDay at *
  omega

theorem timeWithinDay_bounds (t : Int) : 0 ≤ timeWithinDay t ∧ timeWithinDay t < msPerDay := by
  unfold timeWithinDay msPerDay
  omega

/-- What is read as midnight is the midnight of its day. -/
theorem makeDate_of_parseMidnight {text : String} {midnight : Int} (h : parseMidnight text = some midnight) :
    makeDate (day midnight) 0 = midnight := by
  unfold parseMidnight at h
  split at h
  · simp only [Option.bind_eq_bind, Option.bind_eq_some_iff] at h
    obtain ⟨year, _, month, _, date, _, hDate⟩ := h
    rw [← Option.some.inj (Option.ite_none_right_eq_some.mp hDate).2, day_makeDate ⟨le_refl 0, by decide⟩]
  · cases h

/-- Instants at the same time of their days are whole days apart. -/
theorem eq_add_of_sameTime {s t : Int} (h : timeWithinDay t = timeWithinDay s) : t = s + (day t - day s) * msPerDay := by
  unfold timeWithinDay at h
  unfold day
  unfold msPerDay at *
  omega

/-- Instants are ordered by their days and then by the time within the day. -/
theorem le_iff {s t : Int} : s ≤ t ↔ day s < day t ∨ (day s = day t ∧ timeWithinDay s ≤ timeWithinDay t) := by
  unfold day timeWithinDay msPerDay
  omega

end Calendar
