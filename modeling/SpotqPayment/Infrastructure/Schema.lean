import SpotqPayment.Library.Sql

/-! The schema of the database: the tables, columns and enumerations that the
migrations create, change and drop, one after another. Their statements about rows,
indexes and constraints leave the catalog alone. -/
namespace SpotqPayment

open Sql

namespace Migrations

def required (name : String) (type : ColumnType) : Column := { name, type, nullable := false }

def nullable (name : String) (type : ColumnType) : Column := { name, type, nullable := true }

def subscriptionPlansTable : TableDef where
  name := "subscription_plans"
  columns := [
    required "id" .uuid, required "code" .text, required "name" .text, nullable "description" .text,
    required "price_paise" .integer, required "currency" .text,
    required "billing_cycle" (.enum "PlanBillingCycle"), required "features" .jsonb,
    required "is_active" .boolean, required "created_at" .timestamptz, required "updated_at" .timestamptz]

def subscriptionsTable : TableDef where
  name := "subscriptions"
  columns := [
    required "id" .uuid, required "restaurant_id" .uuid, required "plan_id" .uuid,
    required "status" (.enum "SubscriptionStatus"), required "current_period_start" .timestamptz,
    required "current_period_end" .timestamptz, nullable "canceled_at" .timestamptz,
    required "created_at" .timestamptz, required "updated_at" .timestamptz]

def paymentTransactionsTable : TableDef where
  name := "payment_transactions"
  columns := [
    required "id" .uuid, required "restaurant_id" .uuid, nullable "subscription_id" .uuid,
    required "plan_id" .uuid, required "razorpay_order_id" .text, nullable "razorpay_payment_id" .text,
    nullable "razorpay_signature" .text, required "amount_paise" .integer, required "currency" .text,
    required "status" (.enum "PaymentStatus"), nullable "failure_reason" .text,
    nullable "metadata" .jsonb, required "created_at" .timestamptz, required "updated_at" .timestamptz]

def outboxEventsTable : TableDef where
  name := "outbox_events"
  columns := [
    required "id" .uuid, required "event_type" .text, required "aggregate_id" .text,
    required "payload" .jsonb, required "status" (.enum "OutboxStatus"), required "retry_count" .integer,
    nullable "last_error" .text, required "created_at" .timestamptz, nullable "published_at" .timestamptz]

def webhookLogsTable : TableDef where
  name := "webhook_logs"
  columns := [
    required "id" .uuid, required "event_id" .text, required "event_type" .text,
    required "payload" .jsonb, required "processed" .boolean, nullable "processed_at" .timestamptz,
    required "created_at" .timestamptz]

def initSubscriptionModels : Migration where
  name := "20260907174000_init_subscription_models"
  statements := [
    .createEnum "PlanBillingCycle" ["MONTHLY", "YEARLY"],
    .createEnum "SubscriptionStatus" ["PENDING", "ACTIVE", "EXPIRED", "CANCELLED", "PAST_DUE"],
    .createEnum "PaymentStatus" ["CREATED", "SUCCESS", "FAILED", "REFUNDED"],
    .createEnum "OutboxStatus" ["PENDING", "PUBLISHED", "FAILED"],
    .createTable subscriptionPlansTable,
    .createTable subscriptionsTable,
    .createTable paymentTransactionsTable,
    .createTable outboxEventsTable,
    .createTable webhookLogsTable]

def renameSelfServiceProToSelfPro : Migration where
  name := "20260914201000_rename_self_service_pro_to_self_pro"
  statements := []

def billingInvoicesTable : TableDef where
  name := "billing_invoices"
  columns := [
    required "id" .uuid, required "restaurant_id" .uuid, nullable "subscription_id" .uuid,
    nullable "payment_transaction_id" .uuid, required "invoice_number" .text,
    required "amount_paise" .integer, required "currency" .text,
    required "status" (.enum "InvoiceStatus"), nullable "invoice_pdf_key" .text,
    nullable "pdf_generated_at" .timestamptz, required "created_at" .timestamptz,
    required "updated_at" .timestamptz, nullable "paid_at" .timestamptz]

def paymentRefundsTable : TableDef where
  name := "payment_refunds"
  columns := [
    required "id" .uuid, required "payment_transaction_id" .uuid, required "razorpay_refund_id" .text,
    required "amount_paise" .integer, required "currency" .text,
    required "status" (.enum "RefundStatus"), nullable "reason" .text, nullable "arn" .text,
    nullable "payment_method" .text, nullable "destination" .text, required "created_at" .timestamptz,
    nullable "processed_at" .timestamptz]

def restaurantWalletsTable : TableDef where
  name := "restaurant_wallets"
  columns := [
    required "id" .uuid, required "restaurant_id" .uuid, required "balance_paise" .bigint,
    required "currency" .text, required "is_locked" .boolean, nullable "razorpay_fund_account_id" .text,
    nullable "bank_name" .text, nullable "bank_account_last4" .text, required "created_at" .timestamptz,
    required "updated_at" .timestamptz]

def walletLedgerEntriesTable : TableDef where
  name := "wallet_ledger_entries"
  columns := [
    required "id" .uuid, required "wallet_id" .uuid, nullable "settlement_id" .uuid,
    required "type" (.enum "WalletLedgerType"), required "amount_paise" .bigint,
    required "balance_before" .bigint, required "balance_after" .bigint, required "description" .text,
    nullable "reference_id" .text, nullable "utr_number" .text, required "created_at" .timestamptz]

def settlementsTable : TableDef where
  name := "settlements"
  columns := [
    required "id" .uuid, required "settlement_number" .text, required "restaurant_id" .uuid,
    required "settlement_date" .date, required "orders_count" .integer,
    required "gross_sales_paise" .bigint, required "total_refunds_paise" .bigint,
    required "net_credit_paise" .bigint, required "status" (.enum "SettlementStatus"),
    nullable "credited_at" .timestamptz, required "created_at" .timestamptz,
    required "updated_at" .timestamptz]

def platformWalletsTable : TableDef where
  name := "platform_wallets"
  columns := [
    required "id" .uuid, required "total_platform_balance_paise" .bigint,
    required "total_disbursed_to_venues_paise" .bigint, required "total_refunded_paise" .bigint,
    required "currency" (.varchar 10), required "updated_at" .timestamptz]

def platformLedgerTransactionsTable : TableDef where
  name := "platform_ledger_transactions"
  columns := [
    required "id" .uuid, required "platform_wallet_id" .uuid,
    required "type" (.enum "PlatformTransactionType"), required "amount_paise" .bigint,
    required "running_balance_paise" .bigint, nullable "reference_id" (.varchar 100),
    nullable "restaurant_id" .uuid, required "created_at" .timestamptz]

def initOrdersInvoicesWalletsAndRefunds : Migration where
  name := "20261027202017_init_orders_invoices_wallets_and_refunds"
  statements := [
    .createEnum "InvoiceStatus" ["DRAFT", "PAID", "VOID"],
    .createEnum "SettlementStatus" ["PENDING", "CALCULATING", "CREDITED_TO_WALLET", "FAILED", "ON_HOLD"],
    .createEnum "RefundStatus" ["PENDING", "PROCESSED", "FAILED"],
    .createEnum "WalletLedgerType" ["CREDIT_SETTLEMENT", "DEBIT_PAYOUT_WITHDRAWAL", "CREDIT_REFUND_ADJUSTMENT"],
    .createEnum "PlatformTransactionType" ["CUSTOMER_PAYMENT_INTAKE", "SETTLEMENT_DISBURSED", "REFUND_EXPENSE"],
    .addEnumValue "PaymentStatus" "CAPTURED",
    .addColumn "payment_transactions" (nullable "customer_id" .uuid),
    .addColumn "payment_transactions" (nullable "order_id" .uuid),
    .setNullable "payment_transactions" "plan_id" true,
    .createTable billingInvoicesTable,
    .createTable paymentRefundsTable,
    .createTable restaurantWalletsTable,
    .createTable walletLedgerEntriesTable,
    .createTable settlementsTable,
    .createTable platformWalletsTable,
    .createTable platformLedgerTransactionsTable]

def removeWalletLedgerDescription : Migration where
  name := "20261027202643_remove_wallet_ledger_description"
  statements := [
    .dropColumn "wallet_ledger_entries" "description"]

def addStatusToWalletLedgerEntry : Migration where
  name := "20261105012447_add_status_to_wallet_ledger_entry"
  statements := [
    .createEnum "PayoutStatus" ["PROCESSING", "PROCESSED", "REVERSED", "FAILED"],
    .addColumn "wallet_ledger_entries" (nullable "status" (.enum "PayoutStatus"))]

def makeWalletLedgerStatusNotNull : Migration where
  name := "20261105013519_make_wallet_ledger_status_not_null"
  statements := [
    .setNullable "wallet_ledger_entries" "status" false]

def addWalletLedgerPendingPayoutIndex : Migration where
  name := "20261105023518_add_wallet_ledger_pending_payout_index"
  statements := []

def removeSettlementUpdateWalletLedgerType : Migration where
  name := "20261105101236_remove_settlement_update_wallet_ledger_type"
  statements := [
    .createEnum "WalletLedgerType_new"
      ["CREDIT_ORDER_PAYMENT", "DEBIT_PAYOUT_WITHDRAWAL", "DEBIT_ORDER_REFUND", "CREDIT_PAYOUT_REVERSAL"],
    .alterType "wallet_ledger_entries" "type" (.enum "WalletLedgerType_new"),
    .renameEnum "WalletLedgerType" "WalletLedgerType_old",
    .renameEnum "WalletLedgerType_new" "WalletLedgerType",
    .dropEnum "WalletLedgerType_old",
    .dropColumn "wallet_ledger_entries" "settlement_id",
    .dropTable "settlements",
    .dropEnum "SettlementStatus"]

/-- The migrations in their order. -/
def all : List Migration :=
  [initSubscriptionModels,
    renameSelfServiceProToSelfPro,
    initOrdersInvoicesWalletsAndRefunds,
    removeWalletLedgerDescription,
    addStatusToWalletLedgerEntry,
    makeWalletLedgerStatusNotNull,
    addWalletLedgerPendingPayoutIndex,
    removeSettlementUpdateWalletLedgerType]

end Migrations

end SpotqPayment
