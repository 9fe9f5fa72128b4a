import SpotqPayment.Application.Ports

/-! The use cases of subscriptions: opening an order for a plan, verifying its
payment, and expiring the subscriptions that are past due. -/
namespace SpotqPayment

open Process

structure CreateSubscriptionOrderInput where
  restaurantId : Option Uuid
  planId : Uuid

structure CreateSubscriptionOrderOutput where
  orderId : String
  amount : Int
  currency : String
  keyId : String
  plan : Uuid × String × String
  deriving DecidableEq

structure VerifyPaymentInput where
  razorpayOrderId : String
  razorpayPaymentId : String
  razorpaySignature : String
  restaurantId : Option Uuid

structure VerifyPaymentOutput where
  subscriptionId : Uuid
  restaurantId : Uuid
  planCode : String
  status : SubscriptionStatus
  currentPeriodStart : Instant
  currentPeriodEnd : Instant
  deriving DecidableEq

/-- `ReceiptId.forSubscription` on the text of a uuid. -/
def receiptForSubscription (restaurantId : Uuid) (timestamp : Instant) : String :=
  "rcpt_" ++ ((toString restaurantId).take 10).toString ++ "_" ++ toString timestamp

def subscriptionOrderResponse (config : Config) (orderId : String) (amount : Int)
    (currency : String) (plan : SubscriptionPlan) : CreateSubscriptionOrderOutput where
  orderId := orderId
  amount := amount
  currency := currency
  keyId := config.keyId
  plan := (plan.id, plan.name, plan.code)

/-- The transaction stored for a new gateway order of a plan. -/
def subscriptionTransaction (restaurantId : Uuid) (plan : SubscriptionPlan) (orderId : String)
    (now : Instant) : CreatePaymentTransactionInput where
  restaurantId := restaurantId
  planId := some plan.id
  orderId := none
  customerId := none
  razorpayOrderId := orderId
  amountPaise := plan.pricePaise
  currency := plan.currency
  metadata := some [("receiptId", .str (receiptForSubscription restaurantId now)),
    ("planName", .str plan.name), ("planCode", .str plan.code)]

def draftInvoice (restaurantId : Uuid) (plan : SubscriptionPlan) (transactionId : Uuid)
    (invoiceNumber : String) : CreateBillingInvoiceInput where
  restaurantId := restaurantId
  subscriptionId := none
  paymentTransactionId := some transactionId
  invoiceNumber := invoiceNumber
  amountPaise := plan.pricePaise
  currency := plan.currency
  status := .draft
  paidAt := none

/-- The last part of `createSubscriptionOrder`: a new gateway order with its
transaction and draft invoice, written one after the other. -/
def openSubscriptionOrder (config : Config) (restaurantId : Uuid) (plan : SubscriptionPlan)
    (invoiceNumber : String) (now : Instant) : UseCase CreateSubscriptionOrderOutput := do
  let orderId ← call (Port.createOrder plan.pricePaise plan.currency)
  let txRecord ← repository (.createTransaction (subscriptionTransaction restaurantId plan orderId now))
  let _ ← repository (.createInvoice (draftInvoice restaurantId plan txRecord.id invoiceNumber))
  return subscriptionOrderResponse config orderId plan.pricePaise plan.currency plan

/-- The middle part of `createSubscriptionOrder`: a pending order of the last
fifteen minutes is used again, after a reset when its payment had failed. -/
def reuseOrOpenOrder (config : Config) (restaurantId : Uuid) (plan : SubscriptionPlan)
    (invoiceNumber : String) (now : Instant) : UseCase CreateSubscriptionOrderOutput := do
  match ← repository (.findPendingByRestaurantAndPlan restaurantId plan.id) with
  | none => openSubscriptionOrder config restaurantId plan invoiceNumber now
  | some pendingTx =>
    let response := subscriptionOrderResponse config pendingTx.razorpayOrderId
      pendingTx.amountPaise pendingTx.currency plan
    if pendingTx.status = .failed then
      let _ ← repository (.resetToCreated pendingTx.razorpayOrderId)
      return response
    else return response

/-- `CreateSubscriptionOrderUseCase.execute`. The invoice repository is optional
in the constructor and always bound by the container. -/
def createSubscriptionOrder (config : Config) (input : CreateSubscriptionOrderInput)
    (invoiceNumber : String) (now : Instant) : UseCase CreateSubscriptionOrderOutput := do
  match input.restaurantId with
  | none => throw .unauthorizedRestaurant
  | some restaurantId =>
    match ← repository (.findPlanById input.planId) with
    | none => throw .planNotFound
    | some plan =>
      if plan.isActive = false then throw .planNotFound
      else
        let existingSub ← repository (.findActiveByRestaurantId restaurantId)
        if existingSub.any (·.isActive now) then throw .activeSubscriptionAlreadyExists
        else reuseOrOpenOrder config restaurantId plan invoiceNumber now

/-- The activation that a paid transaction of a plan asks the repository for. -/
def activationParams (tx : PaymentTransaction) (plan : SubscriptionPlan)
    (paymentId signature : String) (now : Instant) : ActivateSubscriptionWithOutboxParams :=
  let currentPeriodEnd := plan.calculatePeriodEnd now
  { subscription := {
      restaurantId := tx.restaurantId
      planId := plan.id
      status := .active
      currentPeriodStart := now
      currentPeriodEnd := currentPeriodEnd }
    payment := {
      razorpayOrderId := tx.razorpayOrderId
      razorpayPaymentId := paymentId
      razorpaySignature := signature }
    outbox := {
      eventType := .subscriptionActivated
      aggregateId := tx.restaurantId
      payload := .subscriptionActivated tx.restaurantId plan.code .active now currentPeriodEnd now
        none } }

/-- The idempotent answer of `verifyPayment` for a completed transaction. -/
def completedResponse (tx : PaymentTransaction) (subscriptionId : Uuid) (now : Instant) :
    UseCase VerifyPaymentOutput := do
  let existingSub ← repository (.findSubscriptionById subscriptionId)
  let plan ← match tx.planId with
    | some planId => repository (.findPlanById planId)
    | none => pure none
  return {
    subscriptionId := subscriptionId
    restaurantId := tx.restaurantId
    planCode := (plan.map (·.code)).getD ""
    status := (existingSub.map (·.status)).getD .active
    currentPeriodStart := (existingSub.map (·.currentPeriodStart)).getD now
    currentPeriodEnd := (existingSub.map (·.currentPeriodEnd)).getD now }

/-- The last part of `verifyPayment`, for a transaction that is not completed. -/
def activateVerified (input : VerifyPaymentInput) (tx : PaymentTransaction) (now : Instant) :
    UseCase VerifyPaymentOutput := do
  match tx.planId with
  | none => throw .planNotFound
  | some planId =>
    match ← repository (.findPlanById planId) with
    | none => throw .planNotFound
    | some plan =>
      let subscription ← repository (.activateSubscriptionWithOutbox
        (activationParams tx plan input.razorpayPaymentId input.razorpaySignature now))
      return {
        subscriptionId := subscription.id
        restaurantId := tx.restaurantId
        planCode := plan.code
        status := subscription.status
        currentPeriodStart := subscription.currentPeriodStart
        currentPeriodEnd := subscription.currentPeriodEnd }

/-- The subscription of a transaction that is SUCCESS and linked to one. -/
def completedSubscription (tx : PaymentTransaction) : Option Uuid :=
  if tx.status = .success then tx.subscriptionId else none

/-- `VerifyPaymentUseCase.execute`. -/
def verifyPayment (config : Config) (input : VerifyPaymentInput) (now : Instant) :
    UseCase VerifyPaymentOutput := do
  if RazorpayGateway.verifyPaymentSignature config input.razorpayOrderId input.razorpayPaymentId
      input.razorpaySignature = false then
    throw .invalidPaymentSignature
  else
    match ← repository (.findByOrderId input.razorpayOrderId) with
    | none => throw .paymentOrderNotFound
    | some tx =>
      if input.restaurantId.any (· ≠ tx.restaurantId) then throw .unauthorizedRestaurant
      else
        match completedSubscription tx with
        | some subscriptionId => completedResponse tx subscriptionId now
        | none => activateVerified input tx now

/-- `expirePastDueSubscriptions(now)` of a service that is not running already. -/
def expirePastDueSubscriptions (now : Instant) : UseCase Nat := do
  let pastDue ← repository (.findPastDueSubscriptions now)
  if pastDue.isEmpty then return 0
  else
    repository (.expireSubscriptions pastDue now)
    return pastDue.length

end SpotqPayment
