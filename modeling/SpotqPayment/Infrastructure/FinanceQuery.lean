import SpotqPayment.Library.Calendar
import SpotqPayment.Domain.Entities
import SpotqPayment.Infrastructure.Schema

/-! The finance summary of the platform: one raw query over wallets, ledger,
settlements, subscriptions and plans, which the database resolves against its
catalog before it reads a row. -/
namespace SpotqPayment

open Sql

inductive PlatformTransactionType where
  | customerPaymentIntake | settlementDisbursed | refundExpense
  deriving DecidableEq, Repr

structure PlatformWallet where
  id : Uuid
  totalPlatformBalancePaise : Int
  totalDisbursedToVenuesPaise : Int
  totalRefundedPaise : Int
  currency : String
  deriving DecidableEq, Repr

instance : Record PlatformWallet where
  key := PlatformWallet.id
  unique := [fun wallet => some wallet.currency]

structure PlatformLedgerTransaction where
  id : Uuid
  platformWalletId : Uuid
  type : PlatformTransactionType
  amountPaise : Int
  referenceId : Option String
  createdAt : Instant
  deriving DecidableEq, Repr

instance : Record PlatformLedgerTransaction where
  key := PlatformLedgerTransaction.id
  unique := [PlatformLedgerTransaction.referenceId]

inductive SettlementStatus where
  | pending | calculating | creditedToWallet | failed | onHold
  deriving DecidableEq, Repr

/-- A settlement, with its date as the number of the day. -/
structure Settlement where
  id : Uuid
  settlementNumber : String
  settlementDate : Int
  netCreditPaise : Int
  status : SettlementStatus
  deriving DecidableEq, Repr

instance : Record Settlement where
  key := Settlement.id
  unique := [fun settlement => some settlement.settlementNumber]

/-- The rows of the tables that the summary names. -/
structure FinanceTables where
  wallets : Table PlatformWallet
  ledger : Table PlatformLedgerTransaction
  settlements : Table Settlement
  subscriptions : Table Subscription
  plans : Table SubscriptionPlan

structure PlatformFinanceSummaryReadModel where
  currency : String
  masterBalancePaise : Int
  todayTurnoverPaise : Int
  tonightEodPayoutQueuePaise : Int
  lifetimeDisbursedPaise : Int
  totalRefundsProcessedPaise : Int
  saasSubscriptionMrrPaise : Int
  activeVenuesCount : Int
  deriving DecidableEq, Repr

namespace FinanceQuery

/-- The tables, columns and enumeration values that the text of the query names. -/
def references : List Reference := [
  { table := "platform_wallets"
    columns := [("id", .uuid), ("total_platform_balance_paise", .bigint),
      ("total_disbursed_to_venues_paise", .bigint), ("total_refunded_paise", .bigint), ("currency", .varchar 10)]
    literals := [] },
  { table := "platform_ledger_transactions"
    columns := [("amount_paise", .bigint), ("platform_wallet_id", .uuid), ("type", .enum "PlatformTransactionType"),
      ("created_at", .timestamptz)]
    literals := [("PlatformTransactionType", "CUSTOMER_PAYMENT_INTAKE")] },
  { table := "settlements"
    columns := [("net_credit_paise", .bigint), ("status", .enum "SettlementStatus"), ("settlement_date", .date)]
    literals := [("SettlementStatus", "PENDING"), ("SettlementStatus", "CALCULATING")] },
  { table := "subscriptions"
    columns := [("restaurant_id", .uuid), ("plan_id", .uuid), ("status", .enum "SubscriptionStatus"),
      ("current_period_start", .timestamptz), ("current_period_end", .timestamptz)]
    literals := [("SubscriptionStatus", "ACTIVE")] },
  { table := "subscription_plans"
    columns := [("id", .uuid), ("billing_cycle", .enum "PlanBillingCycle"), ("price_paise", .integer),
      ("currency", .text)]
    literals := [("PlanBillingCycle", "YEARLY")] }]

/-- The offset of Asia/Kolkata from UTC, in milliseconds. -/
def kolkataOffset : Int := 19800000

/-- `timestamp AT TIME ZONE 'Asia/Kolkata'`, as the date. -/
def localDate (instant : Instant) : Int := Calendar.day (instant + kolkataOffset)

/-- Midnight of a date in Asia/Kolkata. -/
def startOfDate (date : Int) : Instant := Calendar.makeDate date 0 - kolkataOffset

structure DateBounds where
  today : Int
  startOfDay : Instant
  startOfTomorrow : Instant

def dateBounds (now : Instant) : List DateBounds :=
  [{ today := localDate now
     startOfDay := startOfDate (localDate now)
     startOfTomorrow := startOfDate (localDate now + 1) }]

structure WalletMetrics where
  masterBalancePaise : Int
  lifetimeDisbursedPaise : Int
  totalRefundsProcessedPaise : Int

variable (db : FinanceTables) (now : Instant)

def inrWallets : List PlatformWallet := db.wallets.rows.filter fun wallet => wallet.currency = "INR"

def walletMetrics : Except Error (List WalletMetrics) := do
  let masterBalancePaise ← toBigint (coalesce (sum ((inrWallets db).map PlatformWallet.totalPlatformBalancePaise)) 0)
  let lifetimeDisbursedPaise ←
    toBigint (coalesce (sum ((inrWallets db).map PlatformWallet.totalDisbursedToVenuesPaise)) 0)
  let totalRefundsProcessedPaise ← toBigint (coalesce (sum ((inrWallets db).map PlatformWallet.totalRefundedPaise)) 0)
  return [{ masterBalancePaise, lifetimeDisbursedPaise, totalRefundsProcessedPaise }]

/-- The rows that `turnover_metrics` adds up. -/
def turnoverRows : List ((PlatformLedgerTransaction × PlatformWallet) × DateBounds) :=
  (crossJoin (innerJoin db.ledger.rows db.wallets.rows fun plt pw => pw.id = plt.platformWalletId)
    (dateBounds now)).filter fun row =>
      row.1.2.currency = "INR" && row.1.1.type = .customerPaymentIntake &&
        row.2.startOfDay ≤ row.1.1.createdAt && row.1.1.createdAt < row.2.startOfTomorrow

def turnoverMetrics : Except Error (List Int) := do
  let todayTurnoverPaise ← toBigint (coalesce (sum ((turnoverRows db now).map fun row => row.1.1.amountPaise)) 0)
  return [todayTurnoverPaise]

/-- The rows that `settlement_metrics` adds up. -/
def payoutRows : List (Settlement × DateBounds) :=
  (crossJoin db.settlements.rows (dateBounds now)).filter fun row =>
    (row.1.status = .pending || row.1.status = .calculating) && row.1.settlementDate ≤ row.2.today

def settlementMetrics : Except Error (List Int) := do
  let tonightEodPayoutQueuePaise ← toBigint (coalesce (sum ((payoutRows db now).map fun row => row.1.netCreditPaise)) 0)
  return [tonightEodPayoutQueuePaise]

/-- The price of a plan for a month; that of a year is divided among its months. -/
def monthlyPrice (plan : SubscriptionPlan) : Int :=
  if plan.billingCycle = .yearly then roundQuotient plan.pricePaise 12 else plan.pricePaise

structure SubscriptionMetrics where
  saasSubscriptionMrrPaise : Int
  activeVenuesCount : Int

/-- The rows that `subscription_metrics` adds up. -/
def subscriptionRows : List (Subscription × SubscriptionPlan) :=
  (innerJoin db.subscriptions.rows db.plans.rows fun s sp => sp.id = s.planId).filter fun row =>
    row.1.status = .active && row.1.currentPeriodStart ≤ now && now ≤ row.1.currentPeriodEnd &&
      row.2.currency = "INR"

def subscriptionMetrics : Except Error (List SubscriptionMetrics) := do
  let saasSubscriptionMrrPaise ←
    toBigint (coalesce (sum ((subscriptionRows db now).map fun row => monthlyPrice row.2)) 0)
  let activeVenuesCount ← toInteger (countDistinct ((subscriptionRows db now).map fun row => row.1.restaurantId))
  return [{ saasSubscriptionMrrPaise, activeVenuesCount }]

/-- The final projection. -/
def eval : Except Error (List PlatformFinanceSummaryReadModel) := do
  let walletRows ← walletMetrics db
  let turnoverRows ← turnoverMetrics db now
  let settlementRows ← settlementMetrics db now
  let subscriptionRows ← subscriptionMetrics db now
  return (crossJoin (crossJoin (crossJoin walletRows turnoverRows) settlementRows) subscriptionRows).map
    fun (((wm, turnover), settlement), subm) => {
      currency := "INR"
      masterBalancePaise := wm.masterBalancePaise
      todayTurnoverPaise := turnover
      tonightEodPayoutQueuePaise := settlement
      lifetimeDisbursedPaise := wm.lifetimeDisbursedPaise
      totalRefundsProcessedPaise := wm.totalRefundsProcessedPaise
      saasSubscriptionMrrPaise := subm.saasSubscriptionMrrPaise
      activeVenuesCount := subm.activeVenuesCount }

end FinanceQuery

inductive FinanceError where
  | database (error : Error)
  | persistence (message : String)
  deriving DecidableEq, Repr

/-- `PrismaFinanceQueryRepository.getPlatformSummary`. -/
def getPlatformSummary (catalog : Catalog) (db : FinanceTables) (now : Instant) :
    Except FinanceError PlatformFinanceSummaryReadModel := do
  let rows ← ((do
    catalog.analyse FinanceQuery.references
    FinanceQuery.eval db now).mapError FinanceError.database)
  match rows with
  | [] => throw (.persistence "Failed to retrieve platform finance summary")
  | summary :: _ => return summary

end SpotqPayment
