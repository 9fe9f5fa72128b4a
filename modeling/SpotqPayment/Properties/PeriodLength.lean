import SpotqPayment.Properties.PeriodEnd

/-! How long a paid period is: a month of 28 to 31 days, or a year of 365 days and of
366 when it passes a leap day. -/
namespace SpotqPayment

open Calendar

namespace SubscriptionPlan

variable {plan : SubscriptionPlan} {startDate : Instant}

/-- The period lasts as long as the months from that of the start to that of the end. -/
theorem day_calculatePeriodEnd_sub : day (plan.calculatePeriodEnd startDate) - day startDate =
    firstOfMonth (monthOfDay (day startDate) + plan.months) - firstOfMonth (monthOfDay (day startDate)) := by
  rw [day_calculatePeriodEnd, dateFromDay_eq]
  omega

theorem monthly_days (hMonthly : plan.billingCycle = .monthly) :
    28 ≤ day (plan.calculatePeriodEnd startDate) - day startDate ∧
      day (plan.calculatePeriodEnd startDate) - day startDate ≤ 31 := by
  have hMonths : plan.months = 1 := by rw [months, hMonthly, if_neg (by decide)]
  have hPlace : (monthOfDay (day startDate) % 12).toNat < 12 := by omega
  have hLength := monthLength_bounds (monthOfDay (day startDate) / 12) hPlace
  rw [day_calculatePeriodEnd_sub, hMonths, firstOfMonth_succ]
  omega

theorem yearly_days (hYearly : plan.billingCycle = .yearly) :
    day (plan.calculatePeriodEnd startDate) - day startDate =
      if isLeapYear ((monthOfDay (day startDate) + 10) / 12) then 366 else 365 := by
  have hMonths : plan.months = 12 := by rw [months, if_pos hYearly]
  rw [day_calculatePeriodEnd_sub, hMonths, firstOfMonth_nextYear]
  omega

theorem day_lt_calculatePeriodEnd (plan : SubscriptionPlan) (startDate : Instant) :
    day startDate < day (plan.calculatePeriodEnd startDate) := by
  have hMonths : 0 < plan.months := by
    unfold months
    split <;> decide
  have hFirst := firstOfMonth_lt_iff.mpr (show monthOfDay (day startDate) < monthOfDay (day startDate) + plan.months by omega)
  have hDays := @day_calculatePeriodEnd_sub plan startDate
  omega

/-- The day of a month is not beyond its length. -/
theorem dateFromDay_le (d : Int) : dateFromDay d ≤ monthLength (monthOfDay d / 12) (monthOfDay d % 12).toNat := by
  have hEnds := (monthOfDay_eq_iff.mp (Eq.refl (monthOfDay d))).2
  rw [firstOfMonth_succ] at hEnds
  rw [dateFromDay_eq]
  omega

/-- A period that ends after a leap day ends after its February. -/
theorem le_endMonth_of_leapDay {year : Int} (hYearly : plan.billingCycle = .yearly) (hLeap : isLeapYear year = true)
    (hEnd : firstOfMonth (12 * year + 2) ≤ day (plan.calculatePeriodEnd startDate)) :
    12 * year + 2 ≤ monthOfDay (day startDate) + 12 := by
  have hMonths : plan.months = 12 := by rw [months, if_pos hYearly]
  have hDate := dateFromDay_le (day startDate)
  have hMarch := firstOfMarch hLeap
  rw [day_calculatePeriodEnd, hMonths] at hEnd
  by_contra hEarly
  by_cases hFebruary : monthOfDay (day startDate) + 12 = 12 * year + 1
  · have hPlace : (monthOfDay (day startDate) % 12).toNat = 1 := by omega
    rw [hPlace, monthLength_february] at hDate
    rw [hFebruary] at hEnd
    split at hDate <;> omega
  · have hLength := (monthLength_bounds (monthOfDay (day startDate) / 12)
      (show (monthOfDay (day startDate) % 12).toNat < 12 by omega)).2
    have hJanuary := firstOfFebruary year
    have hFirst := firstOfMonth_mono (show monthOfDay (day startDate) + 12 ≤ 12 * year by omega)
    omega

/-- The only leap day that a year can pass is in the February that comes next. -/
theorem passes_leapDay_iff (hYearly : plan.billingCycle = .yearly) :
    (∃ leapDay, IsLeapDay leapDay ∧ day startDate ≤ leapDay ∧ leapDay < day (plan.calculatePeriodEnd startDate)) ↔
      isLeapYear ((monthOfDay (day startDate) + 10) / 12) = true := by
  have hMonths : plan.months = 12 := by rw [months, if_pos hYearly]
  have hEnd := @day_calculatePeriodEnd plan startDate
  have hDate := one_le_dateFromDay (day startDate)
  rw [hMonths] at hEnd
  constructor
  · rintro ⟨leapDay, hLeapDay, hAfter, hBefore⟩
    obtain ⟨year, hLeap, hMarch⟩ := isLeapDay_iff.mp hLeapDay
    have hFirst : monthOfDay (day startDate) < 12 * year + 2 := lt_firstOfMonth_iff.mp (by omega)
    have hLast := le_endMonth_of_leapDay hYearly hLeap (show _ ≤ day (plan.calculatePeriodEnd startDate) by omega)
    rwa [show (monthOfDay (day startDate) + 10) / 12 = year by omega]
  · intro hLeap
    generalize hYear : (monthOfDay (day startDate) + 10) / 12 = year at hLeap
    have hStart := lt_firstOfMonth_iff.mpr (show monthOfDay (day startDate) < 12 * year + 2 by omega)
    have hMarch := firstOfMonth_mono (show 12 * year + 2 ≤ monthOfDay (day startDate) + 12 by omega)
    refine ⟨firstOfMonth (12 * year + 2) - 1, isLeapDay_iff.mpr ⟨year, hLeap, Int.sub_add_cancel _ 1⟩, ?_, ?_⟩
    · omega
    · omega

end SubscriptionPlan

/-- For every plan and every start: the period is a whole number of days, from 28 to 31
for a month and 365 or 366 for a year, and it has 366 exactly when a leap day lies in it.
It ends after it starts. -/
theorem period_length (plan : SubscriptionPlan) (startDate : Instant) : ∃ days : Int,
    plan.calculatePeriodEnd startDate = startDate + days * msPerDay ∧
    timeWithinDay (plan.calculatePeriodEnd startDate) = timeWithinDay startDate ∧
    (plan.billingCycle = .monthly → 28 ≤ days ∧ days ≤ 31) ∧
    (plan.billingCycle = .yearly → (days = 365 ∨ days = 366) ∧
      (days = 366 ↔ ∃ leapDay, IsLeapDay leapDay ∧ day startDate ≤ leapDay ∧
        leapDay < day (plan.calculatePeriodEnd startDate))) ∧
    startDate < plan.calculatePeriodEnd startDate := by
  have hTime := @SubscriptionPlan.timeWithinDay_calculatePeriodEnd plan startDate
  refine ⟨_, eq_add_of_sameTime hTime, hTime,
    SubscriptionPlan.monthly_days, ?_, ?_⟩
  · intro hYearly
    rw [SubscriptionPlan.passes_leapDay_iff hYearly, SubscriptionPlan.yearly_days hYearly]
    cases isLeapYear ((monthOfDay (day startDate) + 10) / 12) <;> decide
  · rw [lt_iff_not_ge, le_iff, hTime]
    have hDays := SubscriptionPlan.day_lt_calculatePeriodEnd plan startDate
    omega

end SpotqPayment
