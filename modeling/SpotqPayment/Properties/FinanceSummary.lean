import Mathlib.Data.Finset.Card
import SpotqPayment.Infrastructure.FinanceQuery
import SpotqPayment.System.Service

/-! The finance summary over the schema that the migrations leave. Its aggregates are
right wherever the query can be resolved, but the last migration drops a table that
the query still names. -/
namespace SpotqPayment

open Sql FinanceQuery

/-- The schema that all migrations leave. -/
def schema : Catalog := (migrate Migrations.all).toOption.getD Catalog.empty

namespace FinanceTables

variable (db : FinanceTables) (now : Instant)

/-- A column added up over the INR wallets. -/
def inrTotal (column : PlatformWallet → Int) : Int :=
  ((db.wallets.rows.filter fun wallet => wallet.currency = "INR").map column).sum

/-- A customer payment into an INR wallet on the same day in India. -/
def isTurnover (entry : PlatformLedgerTransaction) : Bool :=
  (db.wallets.get? entry.platformWalletId).any (fun wallet => wallet.currency = "INR") &&
    entry.type = .customerPaymentIntake && localDate entry.createdAt = localDate now

/-- A subscription to an INR plan that is ACTIVE and in its period. -/
def isRecurring (subscription : Subscription) : Bool :=
  subscription.status = .active && subscription.currentPeriodStart ≤ now && now ≤ subscription.currentPeriodEnd &&
    (db.plans.get? subscription.planId).any fun plan => plan.currency = "INR"

def turnover : Int := ((db.ledger.rows.filter (db.isTurnover now)).map PlatformLedgerTransaction.amountPaise).sum

def recurring : List Subscription := db.subscriptions.rows.filter (db.isRecurring now)

def recurringRevenue : Int :=
  ((db.recurring now).map fun subscription => (db.plans.get? subscription.planId).elim 0 monthlyPrice).sum

def activeVenues : Nat := ((db.recurring now).map Subscription.restaurantId).toFinset.card

def payoutQueue : Int :=
  ((db.settlements.rows.filter fun settlement =>
    (settlement.status = .pending || settlement.status = .calculating) && settlement.settlementDate ≤ localDate now).map
      Settlement.netCreditPaise).sum

/-- The totals have a bigint, and the number of venues an integer. -/
structure InRange : Prop where
  masterBalance : Fits 64 (db.inrTotal PlatformWallet.totalPlatformBalancePaise)
  disbursed : Fits 64 (db.inrTotal PlatformWallet.totalDisbursedToVenuesPaise)
  refunded : Fits 64 (db.inrTotal PlatformWallet.totalRefundedPaise)
  turnover : Fits 64 (db.turnover now)
  payoutQueue : Fits 64 (db.payoutQueue now)
  recurringRevenue : Fits 64 (db.recurringRevenue now)
  activeVenues : Fits 32 (db.activeVenues now)

/-- What the summary is to say. -/
structure Summarised (summary : PlatformFinanceSummaryReadModel) : Prop where
  masterBalance : summary.masterBalancePaise = db.inrTotal PlatformWallet.totalPlatformBalancePaise
  disbursed : summary.lifetimeDisbursedPaise = db.inrTotal PlatformWallet.totalDisbursedToVenuesPaise
  refunded : summary.totalRefundsProcessedPaise = db.inrTotal PlatformWallet.totalRefundedPaise
  turnover : summary.todayTurnoverPaise = db.turnover now
  recurringRevenue : summary.saasSubscriptionMrrPaise = db.recurringRevenue now
  activeVenues : summary.activeVenuesCount = db.activeVenues now

end FinanceTables

/-- The call succeeds with the right summary. -/
def SummaryRight (db : FinanceTables) (now : Instant)
    (result : Except FinanceError PlatformFinanceSummaryReadModel) : Prop :=
  ∃ summary, result = .ok summary ∧ db.Summarised now summary

section Aggregates

variable {db : FinanceTables} {now instant : Instant}

/-- The bounds of the day enclose the instants of the day in India. -/
theorem localDate_eq_iff : localDate instant = localDate now ↔
    startOfDate (localDate now) ≤ instant ∧ instant < startOfDate (localDate now + 1) := by
  unfold startOfDate
  rw [sub_le_iff_le_add, lt_sub_iff_add_lt]
  exact Calendar.day_eq_iff

theorem turnoverRows_map (db : FinanceTables) (now : Instant) :
    (turnoverRows db now).map (fun row => row.1.1.amountPaise) =
      (db.ledger.rows.filter (db.isTurnover now)).map PlatformLedgerTransaction.amountPaise := by
  unfold turnoverRows dateBounds
  rw [crossJoin_singleton, List.filter_map, List.map_map]
  refine innerJoin_filter_map (fun plt => Table.filter_key db.wallets plt.platformWalletId) ?_ ?_ ?_
  · intro plt hNone
    rw [FinanceTables.isTurnover, hNone]
    rfl
  · intro plt pw hSome
    rw [FinanceTables.isTurnover, hSome]
    simp only [Function.comp_apply, Option.any_some, Bool.and_assoc]
    congr 2
    rw [← Bool.decide_and, decide_eq_decide]
    exact localDate_eq_iff.symm
  · intro plt pw _
    rfl

theorem subscriptionRows_map {Value : Type} (db : FinanceTables) (now : Instant)
    {value : Subscription × SubscriptionPlan → Value} {leftValue : Subscription → Value}
    (hValue : ∀ s sp, db.plans.get? s.planId = some sp → value (s, sp) = leftValue s) :
    (subscriptionRows db now).map value = (db.recurring now).map leftValue := by
  refine innerJoin_filter_map (fun s => Table.filter_key db.plans s.planId) ?_ ?_ hValue
  · intro s hNone
    rw [FinanceTables.isRecurring, hNone]
    exact Bool.and_false _
  · intro s sp hSome
    rw [FinanceTables.isRecurring, hSome]
    rfl

theorem payoutRows_map (db : FinanceTables) (now : Instant) :
    (payoutRows db now).map (fun row => row.1.netCreditPaise) =
      (db.settlements.rows.filter fun settlement =>
        (settlement.status = .pending || settlement.status = .calculating) &&
          settlement.settlementDate ≤ localDate now).map Settlement.netCreditPaise := by
  unfold payoutRows dateBounds
  rw [crossJoin_singleton, List.filter_map, List.map_map]
  rfl

/-- The number of distinct restaurants. -/
theorem countDistinct_restaurants (db : FinanceTables) (now : Instant) :
    countDistinct ((subscriptionRows db now).map fun row => row.1.restaurantId) = db.activeVenues now := by
  rw [@subscriptionRows_map _ db now _ Subscription.restaurantId fun _ _ _ => rfl, FinanceTables.activeVenues,
    List.card_toFinset]
  rfl

theorem toBigint_sum {values : List Int} (h : Fits 64 values.sum) :
    toBigint (coalesce (sum values) 0) = .ok values.sum := by
  rw [coalesce_sum]
  exact cast_of_fits h

theorem toBigint_inrTotal {column : PlatformWallet → Int} (h : Fits 64 (db.inrTotal column)) :
    toBigint (coalesce (sum ((inrWallets db).map column)) 0) = .ok (db.inrTotal column) :=
  toBigint_sum h

theorem walletMetrics_eq (h : db.InRange now) : walletMetrics db = .ok [{
    masterBalancePaise := db.inrTotal PlatformWallet.totalPlatformBalancePaise
    lifetimeDisbursedPaise := db.inrTotal PlatformWallet.totalDisbursedToVenuesPaise
    totalRefundsProcessedPaise := db.inrTotal PlatformWallet.totalRefundedPaise }] := by
  unfold walletMetrics
  rw [toBigint_inrTotal h.masterBalance, toBigint_inrTotal h.disbursed, toBigint_inrTotal h.refunded]
  rfl

theorem turnoverMetrics_eq (h : db.InRange now) : turnoverMetrics db now = .ok [db.turnover now] := by
  unfold turnoverMetrics
  rw [turnoverRows_map, toBigint_sum h.turnover]
  rfl

theorem settlementMetrics_eq (h : db.InRange now) : settlementMetrics db now = .ok [db.payoutQueue now] := by
  unfold settlementMetrics
  rw [payoutRows_map, toBigint_sum h.payoutQueue]
  rfl

theorem subscriptionMetrics_eq (h : db.InRange now) : subscriptionMetrics db now = .ok [{
    saasSubscriptionMrrPaise := db.recurringRevenue now
    activeVenuesCount := db.activeVenues now }] := by
  have hPrice : ∀ (s : Subscription) (sp : SubscriptionPlan), db.plans.get? s.planId = some sp →
      monthlyPrice sp = (db.plans.get? s.planId).elim 0 monthlyPrice := by
    intro s sp hPlan
    rw [hPlan]
    rfl
  have hCount : toInteger (db.activeVenues now : Int) = .ok (db.activeVenues now : Int) := cast_of_fits h.activeVenues
  unfold subscriptionMetrics
  rw [countDistinct_restaurants, subscriptionRows_map db now hPrice, toBigint_sum h.recurringRevenue, hCount]
  rfl

/-- The query has one row, with every metric taken on its own. -/
theorem eval_summarised (h : db.InRange now) :
    ∃ summary, FinanceQuery.eval db now = .ok [summary] ∧ db.Summarised now summary ∧
      summary.tonightEodPayoutQueuePaise = db.payoutQueue now := by
  unfold FinanceQuery.eval
  rw [walletMetrics_eq h, turnoverMetrics_eq h, settlementMetrics_eq h, subscriptionMetrics_eq h]
  exact ⟨_, rfl, ⟨rfl, rfl, rfl, rfl, rfl, rfl⟩, rfl⟩

end Aggregates

section Resolution

variable {catalog : Catalog} {db : FinanceTables} {now : Instant}

theorem getPlatformSummary_of_error {error : Error} (h : catalog.analyse references = .error error) :
    getPlatformSummary catalog db now = .error (.database error) := by
  unfold getPlatformSummary
  rw [h]
  rfl

theorem getPlatformSummary_of_eval {summary : PlatformFinanceSummaryReadModel}
    (hCatalog : catalog.analyse references = .ok ()) (hEval : FinanceQuery.eval db now = .ok [summary]) :
    getPlatformSummary catalog db now = .ok summary := by
  have hRows : (do catalog.analyse references; FinanceQuery.eval db now : Except Error _) = .ok [summary] := by
    rw [hCatalog]
    exact hEval
  unfold getPlatformSummary
  rw [hRows]
  rfl

/-- The schema that the first migrations leave. -/
def schemaAfter (count : Nat) : Catalog := (migrate (Migrations.all.take count)).toOption.getD Catalog.empty

theorem migrate_ok : ∀ count ≤ 8, migrate (Migrations.all.take count) = .ok (schemaAfter count) := by
  decide +kernel

/-- The query can be resolved from the third migration to the last but one. -/
theorem analyse_iff : ∀ count ≤ 8, (schemaAfter count).analyse references = .ok () ↔ 3 ≤ count ∧ count ≤ 7 := by
  decide +kernel

theorem analyse_schema : schema.analyse references = .error (.undefinedTable "settlements") := by
  decide +kernel

/-- The summary, with the payouts of tonight, is right over the schemas that have its
tables and no others. -/
theorem summary_right_iff (count : Nat) (hRange : db.InRange now) :
    ∃ catalog, migrate (Migrations.all.take count) = .ok catalog ∧
      ((∃ summary, getPlatformSummary catalog db now = .ok summary ∧ db.Summarised now summary ∧
        summary.tonightEodPayoutQueuePaise = db.payoutQueue now) ↔ 3 ≤ count ∧ count ≤ 7) := by
  -- from the last migration on nothing more is applied
  have hTake : Migrations.all.take count = Migrations.all.take (min count 8) :=
    List.take_eq_take_iff.mpr (by rw [show Migrations.all.length = 8 from rfl, min_assoc, min_self])
  have hCount : 3 ≤ count ∧ count ≤ 7 ↔ 3 ≤ min count 8 ∧ min count 8 ≤ 7 := by omega
  have hLast : min count 8 ≤ 8 := min_le_right count 8
  refine ⟨schemaAfter (min count 8), hTake ▸ migrate_ok _ hLast, ?_⟩
  rw [hCount, ← analyse_iff _ hLast]
  constructor
  · rintro ⟨summary, hResult, -⟩
    cases hAnalysed : (schemaAfter (min count 8)).analyse references with
    | ok => rfl
    | error error =>
        rw [getPlatformSummary_of_error hAnalysed] at hResult
        cases hResult
  · intro hCatalog
    obtain ⟨summary, hEval, hSummary⟩ := eval_summarised hRange
    exact ⟨summary, getPlatformSummary_of_eval hCatalog hEval, hSummary⟩

namespace Sample

def finances : FinanceTables where
  wallets := {
    rows := [{
      id := 1
      totalPlatformBalancePaise := 249900
      totalDisbursedToVenuesPaise := 100000
      totalRefundedPaise := 20000
      currency := "INR" }]
    keys_nodup := by decide
    unique := by decide
    checked := fun _ _ => rfl }
  ledger := {
    rows := [{
      id := 2
      platformWalletId := 1
      type := .customerPaymentIntake
      amountPaise := 50000
      referenceId := some "pay_1"
      createdAt := 1000 }]
    keys_nodup := by decide
    unique := by decide
    checked := fun _ _ => rfl }
  settlements := {
    rows := [{ id := 3, settlementNumber := "SET-1", settlementDate := 0, netCreditPaise := 30000, status := .pending }]
    keys_nodup := by decide
    unique := by decide
    checked := fun _ _ => rfl }
  subscriptions := {
    rows := [{
      id := 4
      restaurantId := 21
      planId := 6
      status := .active
      currentPeriodStart := 0
      currentPeriodEnd := 31536000000
      canceledAt := none
      createdAt := 0
      updatedAt := 0 }]
    keys_nodup := by decide
    unique := by decide
    checked := fun _ _ => rfl }
  plans := plans

theorem finances_inRange : finances.InRange 2000 where
  masterBalance := by decide
  disbursed := by decide
  refunded := by decide
  turnover := by decide
  payoutQueue := by decide
  recurringRevenue := by decide
  activeVenues := by decide

end Sample

/-- A payment of the day, a payout of the night and a yearly plan, before the last migration. -/
theorem summary_right_iff_yearly : ∃ catalog summary, migrate (Migrations.all.take 7) = .ok catalog ∧
    getPlatformSummary catalog Sample.finances 2000 = .ok summary ∧ summary.todayTurnoverPaise = 50000 ∧
      summary.saasSubscriptionMrrPaise = 83250 ∧ summary.tonightEodPayoutQueuePaise = 30000 := by
  obtain ⟨catalog, hMigrated, hRight⟩ := summary_right_iff 7 Sample.finances_inRange
  obtain ⟨summary, hResult, hSummary, hPayouts⟩ := hRight.mpr (by decide)
  exact ⟨catalog, summary, hMigrated, hResult, hSummary.turnover.trans (by decide),
    hSummary.recurringRevenue.trans (by decide), hPayouts.trans (by decide)⟩

/-- Over the schema that all migrations leave no call gives a summary. -/
theorem summary_never_right (db : FinanceTables) (now : Instant) :
    ¬ SummaryRight db now (getPlatformSummary schema db now) := by
  rintro ⟨summary, hResult, _⟩
  rw [getPlatformSummary_of_error analyse_schema] at hResult
  cases hResult

end Resolution

/-- The query names a table that does not exist, also when there is nothing to add up. -/
theorem summaryRight_fails : ¬ ∀ (db : FinanceTables) (now : Instant),
    SummaryRight db now (getPlatformSummary schema db now) := by
  intro h
  obtain ⟨summary, hResult, _⟩ := h
    { wallets := Table.empty, ledger := Table.empty, settlements := Table.empty, subscriptions := Table.empty
      plans := Table.empty } 0
  rw [getPlatformSummary_of_error analyse_schema] at hResult
  cases hResult

end SpotqPayment
