import SpotqPayment.System.Service

/-! The end of a paid period. `setMonth` and `setFullYear` keep the day of the
month, and a day that the month does not have runs over into the next one. -/
namespace SpotqPayment

open Calendar

namespace SubscriptionPlan

/-- The year and the month, counted from zero, that follow the start by one cycle. -/
def endMonth (plan : SubscriptionPlan) (startDate : Instant) : Int × Nat :=
  let year := yearFromDay (day startDate)
  let month := monthFromDay (day startDate)
  if plan.billingCycle = .yearly then (year + 1, month)
  else if month = 11 then (year + 1, 0)
  else (year, month + 1)

/-- The length of that month. -/
def endMonthLength (plan : SubscriptionPlan) (startDate : Instant) : Int :=
  monthLength (plan.endMonth startDate).1 (plan.endMonth startDate).2

/-- The end of the period lies in the next month or year, at the same time of
the same day, or of the last day of a month that is shorter. -/
structure Advances (plan : SubscriptionPlan) (startDate periodEnd : Instant) : Prop where
  time : timeWithinDay periodEnd = timeWithinDay startDate
  month : (yearFromDay (day periodEnd), monthFromDay (day periodEnd)) = plan.endMonth startDate
  date : dateFromDay (day periodEnd) = min (dateFromDay (day startDate)) (plan.endMonthLength startDate)

/-- The period ends when the calendar says so, and one that starts later does
not end earlier. -/
structure EndsInOrder (plan : SubscriptionPlan) (startDate : Instant) : Prop where
  advances : plan.Advances startDate (plan.calculatePeriodEnd startDate)
  ordered : ∀ later, startDate ≤ later → plan.calculatePeriodEnd startDate ≤ plan.calculatePeriodEnd later

/-- The months of a billing cycle. -/
def months (plan : SubscriptionPlan) : Int := if plan.billingCycle = .yearly then 12 else 1

variable {plan : SubscriptionPlan} {startDate later : Instant}

theorem calculatePeriodEnd_eq : plan.calculatePeriodEnd startDate =
    makeDate (firstOfMonth (monthOfDay (day startDate) + plan.months) + dateFromDay (day startDate) - 1)
      (timeWithinDay startDate) := by
  unfold calculatePeriodEnd months
  split
  · have hMonth : 12 * (yearFromDay (day startDate) + 1) + (monthFromDay (day startDate) : Int) =
        monthOfDay (day startDate) + 12 := by
      unfold monthOfDay
      omega
    rw [setFullYear, makeDay_eq, hMonth]
  · rw [setMonth, makeDay_eq, ← add_assoc]
    rfl

theorem endMonth_eq : plan.endMonth startDate =
    ((monthOfDay (day startDate) + plan.months) / 12,
      ((monthOfDay (day startDate) + plan.months) % 12).toNat) := by
  have hYear := monthOfDay_div (day startDate)
  have hMonth := monthOfDay_mod (day startDate)
  unfold endMonth months
  simp only
  split
  · refine Prod.ext ?_ ?_ <;> simp only <;> omega
  · split
    · refine Prod.ext ?_ ?_ <;> simp only <;> omega
    · refine Prod.ext ?_ ?_ <;> simp only <;> omega

theorem endMonthLength_eq : plan.endMonthLength startDate =
    monthLength ((monthOfDay (day startDate) + plan.months) / 12)
      ((monthOfDay (day startDate) + plan.months) % 12).toNat := by
  rw [endMonthLength, endMonth_eq]

theorem day_calculatePeriodEnd : day (plan.calculatePeriodEnd startDate) =
    firstOfMonth (monthOfDay (day startDate) + plan.months) + dateFromDay (day startDate) - 1 := by
  rw [calculatePeriodEnd_eq, day_makeDate (timeWithinDay_bounds startDate)]

theorem timeWithinDay_calculatePeriodEnd :
    timeWithinDay (plan.calculatePeriodEnd startDate) = timeWithinDay startDate := by
  rw [calculatePeriodEnd_eq, timeWithinDay_makeDate (timeWithinDay_bounds startDate)]

/-- The end is in the month it should be in when that month has the day. -/
theorem monthOfDay_calculatePeriodEnd :
    monthOfDay (day (plan.calculatePeriodEnd startDate)) = monthOfDay (day startDate) + plan.months ↔
      dateFromDay (day startDate) ≤ plan.endMonthLength startDate := by
  have hDate := one_le_dateFromDay (day startDate)
  rw [monthOfDay_eq_iff, firstOfMonth_succ, day_calculatePeriodEnd, endMonthLength_eq]
  constructor
  · rintro ⟨_, hEnds⟩
    omega
  · intro hFits
    constructor <;> omega

/-- A month is named by its year and its place in the year. -/
theorem month_eq_iff {d month : Int} :
    (yearFromDay d, monthFromDay d) = (month / 12, (month % 12).toNat) ↔ monthOfDay d = month := by
  rw [← monthOfDay_div, ← monthOfDay_mod, Prod.mk.injEq]
  constructor
  · rintro ⟨hYear, hMonth⟩
    omega
  · rintro rfl
    exact ⟨rfl, rfl⟩

theorem advances_iff_fits : plan.Advances startDate (plan.calculatePeriodEnd startDate) ↔
    dateFromDay (day startDate) ≤ plan.endMonthLength startDate := by
  rw [← monthOfDay_calculatePeriodEnd]
  constructor
  · intro hAdvances
    have hMonth := hAdvances.month
    rw [endMonth_eq] at hMonth
    exact month_eq_iff.mp hMonth
  · intro hMonth
    refine ⟨timeWithinDay_calculatePeriodEnd, ?_, ?_⟩
    · rw [endMonth_eq]
      exact month_eq_iff.mpr hMonth
    · rw [min_eq_left (monthOfDay_calculatePeriodEnd.mp hMonth), dateFromDay_eq, hMonth, day_calculatePeriodEnd]
      omega

/-- A start in the same month, on a later day, ends on a later day, and one in a
later month ends after the month of the earlier end. -/
theorem calculatePeriodEnd_le_of_fits (hFits : dateFromDay (day startDate) ≤ plan.endMonthLength startDate)
    (hLater : startDate ≤ later) : plan.calculatePeriodEnd startDate ≤ plan.calculatePeriodEnd later := by
  have hDate := one_le_dateFromDay (day later)
  have hStart := dateFromDay_eq (day startDate)
  have hOther := dateFromDay_eq (day later)
  have hEnd := @day_calculatePeriodEnd plan startDate
  have hOtherEnd := @day_calculatePeriodEnd plan later
  rw [le_iff, timeWithinDay_calculatePeriodEnd, timeWithinDay_calculatePeriodEnd]
  rcases le_iff.mp hLater with hDay | ⟨hDay, hTime⟩
  · refine Or.inl ?_
    rcases lt_or_eq_of_le (monthOfDay_mono hDay.le) with hMonth | hMonth
    · have hEnds := (monthOfDay_eq_iff.mp (monthOfDay_calculatePeriodEnd.mpr hFits)).2
      have hFirst := firstOfMonth_mono
        (show monthOfDay (day startDate) + plan.months + 1 ≤ monthOfDay (day later) + plan.months by omega)
      omega
    · rw [hMonth] at hEnd hStart
      omega
  · refine Or.inr ⟨?_, hTime⟩
    rw [hEnd, hOtherEnd, hDay]

end SubscriptionPlan

/-- A period ends in the calendar's order exactly when the month in which it
ends has the day of the month on which it starts. -/
theorem endsInOrder_iff (plan : SubscriptionPlan) (startDate : Instant) :
    plan.EndsInOrder startDate ↔ dateFromDay (day startDate) ≤ plan.endMonthLength startDate := by
  rw [← SubscriptionPlan.advances_iff_fits]
  constructor
  · exact SubscriptionPlan.EndsInOrder.advances
  · intro hAdvances
    have hFits := SubscriptionPlan.advances_iff_fits.mp hAdvances
    exact ⟨hAdvances, fun later hLater => SubscriptionPlan.calculatePeriodEnd_le_of_fits hFits hLater⟩

/-- The last of January in 2026. -/
def lastOfJanuary : Instant := makeDate (makeDay 2026 0 31) 0

/-- A month from then ends on the third of March. -/
theorem endsInOrder_fails : ¬ ∀ (plan : SubscriptionPlan) (startDate : Instant), plan.EndsInOrder startDate := by
  intro h
  have hMonth := (h Sample.monthlyPlan lastOfJanuary).advances.month
  exact absurd hMonth (by decide)

end SpotqPayment
