import SpotqPayment.Infrastructure.Database

/-! The Prisma repositories as processes over the statements they await. Every
method that opens a `$transaction` is the body of that transaction. `updatedAt`
columns are set by Prisma itself where the code does not set them. -/
namespace SpotqPayment

open Process

abbrev Repository (Value : Type) := Process ServiceError Statement.Answer Value

/-- Await one statement. -/
abbrev query (statement : Statement) : Repository statement.Answer := call statement

structure CaptureOrderPaymentWithOutboxParams where
  transaction : PaymentTransaction
  outbox : CreateOutboxEventInput

structure FailOrderPaymentWithOutboxParams where
  transaction : PaymentTransaction
  outbox : CreateOutboxEventInput

structure RefundInput where
  razorpayRefundId : String
  amountPaise : Int
  currency : String
  status : RefundStatus
  reason : Option String
  arn : Option String
  paymentMethod : Option String

structure ProcessOrderRefundParams where
  transaction : PaymentTransaction
  refund : RefundInput

structure SyncRefundFromWebhookParams where
  razorpayRefundId : String
  razorpayPaymentId : Option String
  status : RefundStatus
  amountPaise : Option Int
  currency : Option String
  arn : Option String
  reason : Option String

structure ActivationPayment where
  razorpayOrderId : String
  razorpayPaymentId : String
  razorpaySignature : String

structure ActivateSubscriptionWithOutboxParams where
  subscription : CreateSubscriptionInput
  payment : ActivationPayment
  outbox : CreateOutboxEventInput

namespace PaymentTransactionRepository

def findByOrderId (razorpayOrderId : String) : Repository (Option PaymentTransaction) :=
  query (.findTransaction (.razorpayOrderId razorpayOrderId))

def findByCustomerOrderId (orderId : Uuid) : Repository (Option PaymentTransaction) :=
  query (.findFirstTransaction fun tx => tx.orderId = some orderId)

def findPendingByRestaurantAndPlan (restaurantId planId : Uuid) (now : Instant) :
    Repository (Option PaymentTransaction) :=
  query (.findFirstTransaction fun tx =>
    tx.restaurantId = restaurantId && tx.planId = some planId && tx.subscriptionId.isNone &&
      (tx.status = .created || tx.status = .failed) && now - pendingOrderReuseWindowMs ≤ tx.createdAt)

def create (data : CreatePaymentTransactionInput) : Repository PaymentTransaction :=
  query (.createTransaction data)

/-- The columns that a capture stores, all taken from the entity it was given. -/
def capturedRow (transaction : PaymentTransaction) (row : PaymentTransaction) : PaymentTransaction :=
  { row with
    status := transaction.status
    razorpayPaymentId := transaction.razorpayPaymentId
    razorpaySignature := (truthy transaction.razorpaySignature).or row.razorpaySignature
    metadata := transaction.metadata.or row.metadata
    updatedAt := transaction.updatedAt }

/-- The second half of a capture: the update by id and the outbox insert. -/
def storeCapture (params : CaptureOrderPaymentWithOutboxParams) : Repository PaymentTransaction := do
  let updated ← query (.updateTransaction (.id params.transaction.id) (capturedRow params.transaction))
  let _ ← query (.createOutboxEvent params.outbox)
  return updated

def captureOrderPaymentWithOutbox (params : CaptureOrderPaymentWithOutboxParams) :
    Repository PaymentTransaction := do
  match ← query (.findTransaction (.id params.transaction.id)) with
  | none => throw .paymentOrderNotFound
  | some existing =>
    if existing.status = .captured then return existing
    else storeCapture params

/-- The columns that a failure stores, all taken from the entity it was given. -/
def failedRow (transaction : PaymentTransaction) (row : PaymentTransaction) : PaymentTransaction :=
  { row with
    status := transaction.status
    failureReason := transaction.failureReason
    updatedAt := transaction.updatedAt }

def storeFailure (params : FailOrderPaymentWithOutboxParams) : Repository PaymentTransaction := do
  let updated ← query (.updateTransaction (.id params.transaction.id) (failedRow params.transaction))
  let _ ← query (.createOutboxEvent params.outbox)
  return updated

def failOrderPaymentWithOutbox (params : FailOrderPaymentWithOutboxParams) :
    Repository PaymentTransaction := do
  match ← query (.findTransaction (.id params.transaction.id)) with
  | none => throw .paymentOrderNotFound
  | some existing =>
    if existing.status = .captured ∨ existing.status = .success ∨ existing.status = .failed then
      return existing
    else storeFailure params

/-- Status and update time as a refund sets them on its transaction. -/
def statusRow (status : PaymentStatus) (updatedAt : Instant) (row : PaymentTransaction) :
    PaymentTransaction :=
  { row with status := status, updatedAt := updatedAt }

/-- What a refund does to the invoices of its transaction. -/
def voidInvoice (now : Instant) (invoice : BillingInvoice) : BillingInvoice :=
  { invoice with status := .void, invoicePdfKey := none, updatedAt := now }

def voidInvoices (transactionId : Uuid) (now : Instant) : Repository Nat :=
  query (.updateManyInvoices (fun invoice => invoice.paymentTransactionId = some transactionId)
    (voidInvoice now))

def processOrderRefund (params : ProcessOrderRefundParams) (now : Instant) :
    Repository (PaymentTransaction × PaymentRefund) := do
  match ← query (.findTransaction (.id params.transaction.id)) with
  | none => throw .paymentOrderNotFound
  | some existing =>
    if existing.status = .refunded then throw .paymentAlreadyRefunded
    else
      let updatedTx ← query (.updateTransaction (.id params.transaction.id)
        (statusRow params.transaction.status params.transaction.updatedAt))
      let refundRecord ← query (.createRefund {
        paymentTransactionId := params.transaction.id
        razorpayRefundId := params.refund.razorpayRefundId
        amountPaise := params.refund.amountPaise
        currency := params.refund.currency
        status := params.refund.status
        reason := params.refund.reason
        arn := params.refund.arn
        paymentMethod := params.refund.paymentMethod
        processedAt := if params.refund.status = .processed then some now else none })
      let _ ← voidInvoices params.transaction.id now
      return (updatedTx, refundRecord)

/-- What a refund webhook changes in a refund that the service knows. -/
def syncedRefund (params : SyncRefundFromWebhookParams) (now : Instant) (refund : PaymentRefund) :
    PaymentRefund :=
  { refund with
    status := params.status
    arn := (truthy params.arn).or refund.arn
    processedAt := if params.status = .processed then some now else refund.processedAt }

/-- A processed refund marks the transaction REFUNDED and voids its invoices. -/
def settleRefund (transactionId : Uuid) (now : Instant) : Repository Unit := do
  let _ ← query (.updateTransaction (.id transactionId) (statusRow .refunded now))
  let _ ← voidInvoices transactionId now
  return ()

def syncRefundFromWebhook (params : SyncRefundFromWebhookParams) (now : Instant) : Repository Unit := do
  match ← query (.findRefund params.razorpayRefundId) with
  | some existingRefund =>
    let _ ← query (.updateRefund existingRefund.id (syncedRefund params now))
    if params.status = .processed then settleRefund existingRefund.paymentTransactionId now
    else return ()
  | none =>
    match truthy params.razorpayPaymentId with
    | none => return ()
    | some razorpayPaymentId =>
      match ← query (.findTransaction (.razorpayPaymentId razorpayPaymentId)) with
      | none => return ()
      | some txRecord =>
        let _ ← query (.createRefund {
          paymentTransactionId := txRecord.id
          razorpayRefundId := params.razorpayRefundId
          amountPaise := params.amountPaise.getD txRecord.amountPaise
          currency := params.currency.getD txRecord.currency
          status := params.status
          reason := params.reason
          arn := params.arn
          paymentMethod :=
            some ((PaymentTransaction.methodOf txRecord.metadata).getD defaultPaymentMethod)
          processedAt := if params.status = .processed then some now else none })
        if params.status = .processed then settleRefund txRecord.id now
        else return ()

def markFailed (razorpayOrderId failureReason : String) (now : Instant) :
    Repository PaymentTransaction :=
  query (.updateTransaction (.razorpayOrderId razorpayOrderId) fun row =>
    { row with status := .failed, failureReason := some failureReason, updatedAt := now })

def resetToCreated (razorpayOrderId : String) (now : Instant) : Repository PaymentTransaction :=
  query (.updateTransaction (.razorpayOrderId razorpayOrderId) (statusRow .created now))

end PaymentTransactionRepository

namespace SubscriptionRepository

def findActiveByRestaurantId (restaurantId : Uuid) (now : Instant) :
    Repository (Option Subscription) :=
  query (.findFirstSubscription fun subscription =>
    subscription.restaurantId = restaurantId && subscription.status = .active &&
      now ≤ subscription.currentPeriodEnd)

def findById (id : Uuid) : Repository (Option Subscription) := query (.findSubscription id)

/-- The columns that the compare-and-set of an activation stores. -/
def paidRow (payment : ActivationPayment) (now : Instant) (row : PaymentTransaction) :
    PaymentTransaction :=
  { row with
    status := .success
    razorpayPaymentId := some payment.razorpayPaymentId
    razorpaySignature := some payment.razorpaySignature
    updatedAt := now }

/-- The event payload with the id of the new subscription added to it. -/
def withSubscriptionId (payload : OutboxPayload) (id : Uuid) : OutboxPayload :=
  match payload with
  | .subscriptionActivated restaurantId planCode status periodStart periodEnd timestamp _ =>
      .subscriptionActivated restaurantId planCode status periodStart periodEnd timestamp (some id)
  | other => other

/-- The invoice of an activation. It is searched by the transaction read at the
beginning; without one the filter is undefined and Prisma drops it. -/
def recordInvoice (params : ActivateSubscriptionWithOutboxParams)
    (existingTx : Option PaymentTransaction) (subscriptionId : Uuid) (invoiceNumber : String)
    (now : Instant) : Repository Unit := do
  let existingInvoice ← query (.findFirstInvoice fun invoice =>
    match existingTx with
    | some tx => invoice.paymentTransactionId = some tx.id
    | none => true)
  match existingInvoice, existingTx with
  | some invoice, _ =>
    let _ ← query (.updateInvoice invoice.id fun row =>
      { row with
        subscriptionId := some subscriptionId, status := .paid, paidAt := some now, updatedAt := now })
    return ()
  | none, some tx =>
    let _ ← query (.createInvoice {
      restaurantId := params.subscription.restaurantId
      subscriptionId := some subscriptionId
      paymentTransactionId := some tx.id
      invoiceNumber := invoiceNumber
      amountPaise := tx.amountPaise
      currency := tx.currency
      status := .paid
      paidAt := some now })
    return ()
  | none, none => return ()

/-- The last part of an activation: subscription, link, invoice and event. -/
def openSubscription (params : ActivateSubscriptionWithOutboxParams)
    (existingTx : Option PaymentTransaction) (invoiceNumber : String) (now : Instant) :
    Repository Subscription := do
  let subRecord ← query (.createSubscription params.subscription)
  let _ ← query (.updateTransaction (.razorpayOrderId params.payment.razorpayOrderId) fun row =>
    { row with subscriptionId := some subRecord.id, updatedAt := now })
  recordInvoice params existingTx subRecord.id invoiceNumber now
  let _ ← query (.createOutboxEvent {
    params.outbox with payload := withSubscriptionId params.outbox.payload subRecord.id })
  return subRecord

/-- The subscription that a transaction already links to, if it can be found. -/
def linkedSubscription (tx : Option PaymentTransaction) : Repository (Option Subscription) :=
  match tx.bind (·.subscriptionId) with
  | none => pure none
  | some id => query (.findSubscription id)

/-- The middle part of an activation: the compare-and-set on the status, and a
second look for a linked subscription when another activation came first. -/
def claimAndOpen (params : ActivateSubscriptionWithOutboxParams)
    (existingTx : Option PaymentTransaction) (invoiceNumber : String) (now : Instant) :
    Repository Subscription := do
  let count ← query (.updateManyTransactions
    (fun row => row.razorpayOrderId = params.payment.razorpayOrderId && row.status ≠ .success)
    (paidRow params.payment now))
  if count = 0 then
    let updatedTx ← query (.findTransaction (.razorpayOrderId params.payment.razorpayOrderId))
    match ← linkedSubscription updatedTx with
    | some existingSub => return existingSub
    | none => openSubscription params existingTx invoiceNumber now
  else openSubscription params existingTx invoiceNumber now

def activateSubscriptionWithOutbox (params : ActivateSubscriptionWithOutboxParams)
    (invoiceNumber : String) (now : Instant) : Repository Subscription := do
  let existingTx ← query (.findTransaction (.razorpayOrderId params.payment.razorpayOrderId))
  let paid := existingTx.filter fun tx => tx.status = .success
  match ← linkedSubscription paid with
  | some existingSub => return existingSub
  | none => claimAndOpen params existingTx invoiceNumber now

end SubscriptionRepository

def SubscriptionPlanRepository.findById (id : Uuid) : Repository (Option SubscriptionPlan) :=
  query (.findPlan id)

def BillingInvoiceRepository.create (data : CreateBillingInvoiceInput) : Repository BillingInvoice :=
  query (.createInvoice data)

namespace PaymentSubscriptionExpiryService

def findPastDue (now : Instant) : Repository (List (Subscription × SubscriptionPlan)) :=
  query (.findManySubscriptionsWithPlan fun subscription =>
    subscription.status = .active && subscription.currentPeriodEnd < now)

/-- The event of a subscription found past due. -/
def expiryEvent (now : Instant) (sub : Subscription) (plan : SubscriptionPlan) :
    CreateOutboxEventInput where
  eventType := .subscriptionExpired
  aggregateId := sub.restaurantId
  payload := .subscriptionExpired sub.id sub.restaurantId plan.code .expired now
    sub.currentPeriodEnd now

/-- One event for each subscription that was found past due. -/
def announceExpiry (now : Instant) : List (Subscription × SubscriptionPlan) → Repository Unit
  | [] => return ()
  | (sub, plan) :: rest => do
    let _ ← query (.createOutboxEvent (expiryEvent now sub plan))
    announceExpiry now rest

/-- The body of the expiry transaction; the status update goes by id alone. -/
def expire (pastDue : List (Subscription × SubscriptionPlan)) (now : Instant) : Repository Unit := do
  let _ ← query (.updateManySubscriptions (fun row => (pastDue.map (·.1.id)).contains row.id) fun row =>
    { row with status := .expired, updatedAt := now })
  announceExpiry now pastDue

end PaymentSubscriptionExpiryService
end SpotqPayment
