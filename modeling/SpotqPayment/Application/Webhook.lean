import SpotqPayment.Application.SubscriptionPayment

/-! The webhook use case. The payload is the parsed JSON body; every field of it
may be absent, and a null field counts as absent, since the code reads them with
`?.`, `||` and `??` only. -/
namespace SpotqPayment

open Process

inductive WebhookEvent where
  | paymentCaptured | orderPaid | paymentFailed | refundProcessed | refundFailed
  | other (name : String)
  deriving DecidableEq, Repr

structure WebhookPaymentEntity where
  id : Option String
  orderId : Option String
  method : Option JsonValue
  errorDescription : Option String
  errorReason : Option String
  deriving DecidableEq

structure WebhookOrderEntity where
  id : Option String
  deriving DecidableEq

structure WebhookRefundEntity where
  id : Option String
  paymentId : Option String
  amount : Option Int
  currency : Option String
  arn : Option String
  reason : Option String
  deriving DecidableEq

structure WebhookPayload where
  event : WebhookEvent
  payment : Option WebhookPaymentEntity
  order : Option WebhookOrderEntity
  refund : Option WebhookRefundEntity
  deriving DecidableEq

structure HandleWebhookInput where
  rawBody : String
  signature : String
  parsedPayload : WebhookPayload
  deriving DecidableEq

structure HandleWebhookOutput where
  received : Bool
  deriving DecidableEq

/-- `config.razorpay.webhookSecret || config.razorpay.keySecret`. -/
def webhookSecret (config : Config) : String := (orElse config.webhookSecret (some config.keySecret)).getD ""

/-- A webhook goes on when there is no secret or its signature verifies. -/
def webhookAccepted (config : Config) (input : HandleWebhookInput) : Bool :=
  webhookSecret config = "" ||
    RazorpayGateway.verifyWebhookSignature config input.rawBody input.signature (webhookSecret config)

def WebhookEvent.isSuccess (event : WebhookEvent) : Bool :=
  event = .paymentCaptured || event = .orderPaid

/-- `paymentEntity?.order_id || orderEntity?.id`, unless it is empty. -/
def WebhookPayload.successOrderId (payload : WebhookPayload) : Option String :=
  truthy (orElse (payload.payment.bind (·.orderId)) (payload.order.bind (·.id)))

def WebhookPayload.paymentId (payload : WebhookPayload) : Option String :=
  payload.payment.bind (·.id)

/-- `paymentEntity?.method ?? DEFAULT_PAYMENT_METHOD`. -/
def WebhookPayload.method (payload : WebhookPayload) : JsonValue :=
  (payload.payment.bind (·.method)).getD (.str defaultPaymentMethod)

/-- The first reason given by the failed payment that is not empty. -/
def WebhookPaymentEntity.failureReason (entity : WebhookPaymentEntity) : String :=
  (orElse entity.errorDescription (orElse entity.errorReason (some defaultPaymentFailureReason))).getD ""

/-- `paymentId ?? existingTx.razorpayPaymentId`. -/
def WebhookPayload.capturedPaymentId (payload : WebhookPayload) (tx : PaymentTransaction) :
    Option String :=
  payload.paymentId.or tx.razorpayPaymentId

/-- What a success event passes to `capture`. -/
def WebhookPayload.captureParams (payload : WebhookPayload) (tx : PaymentTransaction) :
    CaptureParams where
  paymentId := payload.capturedPaymentId tx
  signature := some none
  metadata := some [("method", payload.method)]

def WebhookPayload.capturedEvent (payload : WebhookPayload) (tx : PaymentTransaction)
    (foodOrderId : Uuid) (now : Instant) : CreateOutboxEventInput where
  eventType := .orderCaptured
  aggregateId := foodOrderId
  payload := .orderCaptured tx.id foodOrderId tx.customerId tx.restaurantId tx.amountPaise
    tx.currency (payload.capturedPaymentId tx) (some payload.method) now

/-- A success event of a food order. -/
def captureFromWebhook (payload : WebhookPayload) (tx : PaymentTransaction) (foodOrderId : Uuid)
    (now : Instant) : UseCase Unit := do
  if tx.status = .captured then return ()
  else
    let captured ← check (tx.capture (payload.captureParams tx) now)
    let _ ← repository (.captureOrderPaymentWithOutbox {
      transaction := captured
      outbox := payload.capturedEvent tx foodOrderId now })
    return ()

/-- `paymentId || existingTx.razorpayPaymentId || ''`. -/
def activationPaymentId (payload : WebhookPayload) (tx : PaymentTransaction) : String :=
  (orElse payload.paymentId (orElse tx.razorpayPaymentId (some ""))).getD ""

/-- A success event of a subscription order. -/
def activateFromWebhook (payload : WebhookPayload) (tx : PaymentTransaction) (now : Instant) :
    UseCase Unit := do
  match completedSubscription tx, tx.planId with
  | some _, _ => return ()
  | none, none => return ()
  | none, some planId =>
    match ← repository (.findPlanById planId) with
    | none => return ()
    | some plan =>
      let _ ← repository (.activateSubscriptionWithOutbox
        (activationParams tx plan (activationPaymentId payload tx) "" now))
      return ()

/-- `payment.captured` and `order.paid`. -/
def handleSuccess (payload : WebhookPayload) (now : Instant) : UseCase Unit := do
  match payload.successOrderId with
  | none => return ()
  | some orderId =>
    match ← repository (.findByOrderId orderId) with
    | none => return ()
    | some tx =>
      match tx.orderId with
      | some foodOrderId => captureFromWebhook payload tx foodOrderId now
      | none => activateFromWebhook payload tx now

def WebhookPaymentEntity.failedEvent (entity : WebhookPaymentEntity) (tx : PaymentTransaction)
    (foodOrderId : Uuid) (now : Instant) : CreateOutboxEventInput where
  eventType := .orderFailed
  aggregateId := foodOrderId
  payload := .orderFailed tx.id foodOrderId tx.customerId tx.restaurantId tx.amountPaise
    tx.currency entity.failureReason now

/-- The stored effect of a failed payment, on a food order and on another one. -/
def failFromWebhook (entity : WebhookPaymentEntity) (orderId : String) (tx : PaymentTransaction)
    (now : Instant) : UseCase Unit := do
  match tx.orderId with
  | some foodOrderId =>
    let _ ← repository (.failOrderPaymentWithOutbox {
      transaction := tx.markFailed entity.failureReason now
      outbox := entity.failedEvent tx foodOrderId now })
    return ()
  | none =>
    let _ ← repository (.markFailed orderId entity.failureReason)
    return ()

/-- `payment.failed`. -/
def handleFailure (payload : WebhookPayload) (now : Instant) : UseCase Unit := do
  match payload.payment with
  | none => return ()
  | some entity =>
    match truthy entity.orderId with
    | none => return ()
    | some orderId =>
      match ← repository (.findByOrderId orderId) with
      | none => return ()
      | some tx =>
        if tx.status = .success ∨ tx.status = .captured then return ()
        else failFromWebhook entity orderId tx now

/-- The arguments for `syncRefundFromWebhook` that a refund event carries. -/
def WebhookPayload.syncParams (payload : WebhookPayload) (refund : WebhookRefundEntity)
    (refundId : String) : SyncRefundFromWebhookParams where
  razorpayRefundId := refundId
  razorpayPaymentId := truthy (orElse refund.paymentId payload.paymentId)
  status := if payload.event = .refundProcessed then .processed else .failed
  amountPaise := refund.amount
  currency := refund.currency
  arn := refund.arn
  reason := refund.reason

/-- `refund.processed` and `refund.failed`. -/
def handleRefund (payload : WebhookPayload) : UseCase Unit := do
  match payload.refund with
  | none => return ()
  | some refund =>
    match truthy refund.id with
    | none => return ()
    | some refundId => repository (.syncRefundFromWebhook (payload.syncParams refund refundId))

/-- The part of `HandleWebhookUseCase.execute` after the signature check. -/
def dispatchWebhook (payload : WebhookPayload) (now : Instant) : UseCase Unit :=
  match payload.event with
  | .paymentCaptured | .orderPaid =>
    if payload.payment.isSome ∨ payload.order.isSome then handleSuccess payload now else return ()
  | .paymentFailed => handleFailure payload now
  | .refundProcessed | .refundFailed => handleRefund payload
  | .other _ => return ()

/-- `HandleWebhookUseCase.execute`. -/
def handleWebhook (config : Config) (input : HandleWebhookInput) (now : Instant) :
    UseCase HandleWebhookOutput := do
  if webhookAccepted config input = false then return { received := false }
  else
    dispatchWebhook input.parsedPayload now
    return { received := true }

end SpotqPayment
