import SpotqPayment.Library.Engine
import SpotqPayment.Domain.Entities

/-! The database behind Prisma: its tables, the statements the repositories
issue, and the row writes each statement amounts to. A write that breaks a key or
a check of its table, or whose amount has no integer, is refused. Foreign keys are
not modelled as checks, since no modelled operation deletes a row and every
reference that is written was read from the row it names. -/
namespace SpotqPayment

structure Database where
  transactions : Table PaymentTransaction
  refunds : Table PaymentRefund
  subscriptions : Table Subscription
  invoices : Table BillingInvoice
  outbox : Table OutboxEvent
  plans : Table SubscriptionPlan

namespace Database

/-- Empty tables, except for the plans, which no operation writes. -/
def initial (plans : Table SubscriptionPlan) : Database where
  transactions := Table.empty
  refunds := Table.empty
  subscriptions := Table.empty
  invoices := Table.empty
  outbox := Table.empty
  plans := plans

end Database

/-- What the service does not control during a call: the clock, the uuids and
the choice among equally ranked rows of the database, the generated invoice
number, and the answers of the payment gateway. -/
structure Env where
  now : Instant
  uuidFloor : Nat
  tie : Nat
  invoiceNumber : String
  gatewayOrderId : Option String
  gatewayRefund : Option PaymentRefundResult

/-- A write of one row, the unit that the database locks and logs. -/
inductive Write where
  | transaction (row : PaymentTransaction)
  | refund (row : PaymentRefund)
  | subscription (row : Subscription)
  | invoice (row : BillingInvoice)
  | outbox (row : OutboxEvent)
  deriving DecidableEq

/-- The row that a write locks. -/
inductive RowLock where
  | transaction (id : Uuid)
  | refund (id : Uuid)
  | subscription (id : Uuid)
  | invoice (id : Uuid)
  | outbox (id : Uuid)
  deriving DecidableEq

def Write.lock : Write → RowLock
  | .transaction row => .transaction row.id
  | .refund row => .refund row.id
  | .subscription row => .subscription row.id
  | .invoice row => .invoice row.id
  | .outbox row => .outbox row.id

/-- Apply one write, unless it breaks a constraint of its table. -/
def Database.write (db : Database) : Write → Option Database
  | .transaction row => (db.transactions.put row).map fun table => { db with transactions := table }
  | .refund row => (db.refunds.put row).map fun table => { db with refunds := table }
  | .subscription row => (db.subscriptions.put row).map fun table => { db with subscriptions := table }
  | .invoice row => (db.invoices.put row).map fun table => { db with invoices := table }
  | .outbox row => (db.outbox.put row).map fun table => { db with outbox := table }

abbrev Database.writeAll (db : Database) (writes : List Write) : Option Database :=
  Engine.applyAll Database.write db writes

/-- `where` by one of the unique columns of a payment transaction. -/
inductive TransactionKey where
  | id (id : Uuid)
  | razorpayOrderId (value : String)
  | razorpayPaymentId (value : String)

def Database.findTransaction (db : Database) : TransactionKey → Option PaymentTransaction
  | .id id => db.transactions.get? id
  | .razorpayOrderId value => db.transactions.lookup (fun tx => some tx.razorpayOrderId) value
  | .razorpayPaymentId value => db.transactions.lookup PaymentTransaction.razorpayPaymentId value

def Database.findRefund (db : Database) (razorpayRefundId : String) : Option PaymentRefund :=
  db.refunds.lookup (fun refund => some refund.razorpayRefundId) razorpayRefundId

structure CreatePaymentTransactionInput where
  restaurantId : Uuid
  planId : Option Uuid
  orderId : Option Uuid
  customerId : Option Uuid
  razorpayOrderId : String
  amountPaise : Int
  currency : String
  metadata : Option JsonObject

structure CreateRefundInput where
  paymentTransactionId : Uuid
  razorpayRefundId : String
  amountPaise : Int
  currency : String
  status : RefundStatus
  reason : Option String
  arn : Option String
  paymentMethod : Option String
  processedAt : Option Instant

structure CreateSubscriptionInput where
  restaurantId : Uuid
  planId : Uuid
  status : SubscriptionStatus
  currentPeriodStart : Instant
  currentPeriodEnd : Instant

structure CreateBillingInvoiceInput where
  restaurantId : Uuid
  subscriptionId : Option Uuid
  paymentTransactionId : Option Uuid
  invoiceNumber : String
  amountPaise : Int
  currency : String
  status : InvoiceStatus
  paidAt : Option Instant

structure CreateOutboxEventInput where
  eventType : EventType
  aggregateId : Uuid
  payload : OutboxPayload

/-- The Prisma client calls of the repositories, one statement each. -/
inductive Statement where
  | findTransaction (key : TransactionKey)
  | findFirstTransaction (matching : PaymentTransaction → Bool)
  | createTransaction (data : CreatePaymentTransactionInput)
  | updateTransaction (key : TransactionKey) (data : PaymentTransaction → PaymentTransaction)
  | updateManyTransactions (matching : PaymentTransaction → Bool)
      (data : PaymentTransaction → PaymentTransaction)
  | findRefund (razorpayRefundId : String)
  | createRefund (data : CreateRefundInput)
  | updateRefund (id : Uuid) (data : PaymentRefund → PaymentRefund)
  | findSubscription (id : Uuid)
  | findFirstSubscription (matching : Subscription → Bool)
  | findManySubscriptionsWithPlan (matching : Subscription → Bool)
  | createSubscription (data : CreateSubscriptionInput)
  | updateManySubscriptions (matching : Subscription → Bool) (data : Subscription → Subscription)
  | findFirstInvoice (matching : BillingInvoice → Bool)
  | createInvoice (data : CreateBillingInvoiceInput)
  | updateInvoice (id : Uuid) (data : BillingInvoice → BillingInvoice)
  | updateManyInvoices (matching : BillingInvoice → Bool) (data : BillingInvoice → BillingInvoice)
  | createOutboxEvent (data : CreateOutboxEventInput)
  | findPlan (id : Uuid)

@[reducible] def Statement.Answer : Statement → Type
  | .findTransaction _ => Option PaymentTransaction
  | .findFirstTransaction _ => Option PaymentTransaction
  | .createTransaction _ => PaymentTransaction
  | .updateTransaction _ _ => PaymentTransaction
  | .updateManyTransactions _ _ => Nat
  | .findRefund _ => Option PaymentRefund
  | .createRefund _ => PaymentRefund
  | .updateRefund _ _ => PaymentRefund
  | .findSubscription _ => Option Subscription
  | .findFirstSubscription _ => Option Subscription
  | .findManySubscriptionsWithPlan _ => List (Subscription × SubscriptionPlan)
  | .createSubscription _ => Subscription
  | .updateManySubscriptions _ _ => Nat
  | .findFirstInvoice _ => Option BillingInvoice
  | .createInvoice _ => BillingInvoice
  | .updateInvoice _ _ => BillingInvoice
  | .updateManyInvoices _ _ => Nat
  | .createOutboxEvent _ => OutboxEvent
  | .findPlan _ => Option SubscriptionPlan

/-- The rows that `create` inserts: the given columns and the schema's defaults. -/
def CreatePaymentTransactionInput.toRow (data : CreatePaymentTransactionInput) (id : Uuid)
    (now : Instant) : PaymentTransaction where
  id := id
  restaurantId := data.restaurantId
  subscriptionId := none
  planId := data.planId
  orderId := data.orderId
  customerId := data.customerId
  razorpayOrderId := data.razorpayOrderId
  razorpayPaymentId := none
  razorpaySignature := none
  amountPaise := data.amountPaise
  currency := data.currency
  status := .created
  failureReason := none
  metadata := data.metadata
  createdAt := now
  updatedAt := now

def CreateRefundInput.toRow (data : CreateRefundInput) (id : Uuid) (now : Instant) :
    PaymentRefund where
  id := id
  paymentTransactionId := data.paymentTransactionId
  razorpayRefundId := data.razorpayRefundId
  amountPaise := data.amountPaise
  currency := data.currency
  status := data.status
  reason := data.reason
  arn := data.arn
  paymentMethod := data.paymentMethod
  createdAt := now
  processedAt := data.processedAt

def CreateSubscriptionInput.toRow (data : CreateSubscriptionInput) (id : Uuid) (now : Instant) :
    Subscription where
  id := id
  restaurantId := data.restaurantId
  planId := data.planId
  status := data.status
  currentPeriodStart := data.currentPeriodStart
  currentPeriodEnd := data.currentPeriodEnd
  canceledAt := none
  createdAt := now
  updatedAt := now

def CreateBillingInvoiceInput.toRow (data : CreateBillingInvoiceInput) (id : Uuid) (now : Instant) :
    BillingInvoice where
  id := id
  restaurantId := data.restaurantId
  subscriptionId := data.subscriptionId
  paymentTransactionId := data.paymentTransactionId
  invoiceNumber := data.invoiceNumber
  amountPaise := data.amountPaise
  currency := data.currency
  status := data.status
  invoicePdfKey := none
  paidAt := data.paidAt
  createdAt := now
  updatedAt := now

def CreateOutboxEventInput.toRow (data : CreateOutboxEventInput) (id : Uuid) (now : Instant) :
    OutboxEvent where
  id := id
  eventType := data.eventType
  aggregateId := data.aggregateId
  payload := data.payload
  status := .pending
  retryCount := 0
  lastError := none
  createdAt := now
  publishedAt := none

namespace Statement

/-- The answer of a statement on the rows it can see, and the rows it writes. -/
def eval (env : Env) (db : Database) :
    (statement : Statement) → Except ServiceError (statement.Answer × List Write)
  | .findTransaction key => .ok (db.findTransaction key, [])
  | .findFirstTransaction matching =>
      .ok (db.transactions.findFirst env.tie PaymentTransaction.createdAt matching, [])
  | .createTransaction data =>
      let row := data.toRow (db.transactions.freshKey env.uuidFloor) env.now
      .ok (row, [.transaction row])
  | .updateTransaction key data =>
      match db.findTransaction key with
      | none => .error .recordNotFound
      | some row => .ok (data row, [.transaction (data row)])
  | .updateManyTransactions matching data =>
      let rows := db.transactions.rows.filter matching
      .ok (rows.length, rows.map fun row => .transaction (data row))
  | .findRefund razorpayRefundId => .ok (db.findRefund razorpayRefundId, [])
  | .createRefund data =>
      let row := data.toRow (db.refunds.freshKey env.uuidFloor) env.now
      .ok (row, [.refund row])
  | .updateRefund id data =>
      match db.refunds.get? id with
      | none => .error .recordNotFound
      | some row => .ok (data row, [.refund (data row)])
  | .findSubscription id => .ok (db.subscriptions.get? id, [])
  | .findFirstSubscription matching =>
      .ok (db.subscriptions.findFirst env.tie Subscription.currentPeriodEnd matching, [])
  | .findManySubscriptionsWithPlan matching =>
      .ok ((db.subscriptions.rows.filter matching).filterMap fun row =>
        (db.plans.get? row.planId).map fun plan => (row, plan), [])
  | .createSubscription data =>
      let row := data.toRow (db.subscriptions.freshKey env.uuidFloor) env.now
      .ok (row, [.subscription row])
  | .updateManySubscriptions matching data =>
      let rows := db.subscriptions.rows.filter matching
      .ok (rows.length, rows.map fun row => .subscription (data row))
  | .findFirstInvoice matching => .ok (db.invoices.findFirst env.tie (fun _ => 0) matching, [])
  | .createInvoice data =>
      let row := data.toRow (db.invoices.freshKey env.uuidFloor) env.now
      .ok (row, [.invoice row])
  | .updateInvoice id data =>
      match db.invoices.get? id with
      | none => .error .recordNotFound
      | some row => .ok (data row, [.invoice (data row)])
  | .updateManyInvoices matching data =>
      let rows := db.invoices.rows.filter matching
      .ok (rows.length, rows.map fun row => .invoice (data row))
  | .createOutboxEvent data =>
      let row := data.toRow (db.outbox.freshKey env.uuidFloor) env.now
      .ok (row, [.outbox row])
  | .findPlan id => .ok (db.plans.get? id, [])

end Statement

/-- The database as an engine for the statements of the repositories. -/
def engine (env : Env) : Engine ServiceError Statement.Answer Database Write where
  eval := fun statement db => statement.eval env db
  apply := Database.write
  refused := .constraintViolation

end SpotqPayment
