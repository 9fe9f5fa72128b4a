import SpotqPayment.Application.Ports

/-! The use cases of food orders: opening a gateway order, verifying a payment,
reporting its status and refunding it. The relay of the outbox that a capture triggers in the
background is not awaited and is no part of the call. -/
namespace SpotqPayment

open Process

/-- A request body accepted by `createOrderPaymentSchema`. -/
structure CreateOrderPaymentInput where
  orderId : Uuid
  customerId : Uuid
  restaurantId : Uuid
  amountPaise : Int
  currency : Option String
  amountPaise_pos : 0 < amountPaise

structure CreateOrderPaymentOutput where
  paymentId : Uuid
  orderId : Option Uuid
  razorpayOrderId : String
  amountPaise : Int
  currency : String
  keyId : String
  deriving DecidableEq

structure VerifyOrderPaymentInput where
  orderId : Uuid
  razorpayOrderId : String
  razorpayPaymentId : String
  razorpaySignature : String
  customerId : Option Uuid

structure VerifyOrderPaymentOutput where
  paymentId : Uuid
  orderId : Option Uuid
  gatewayPaymentId : String
  status : PaymentStatus
  verifiedAt : Instant
  deriving DecidableEq

structure GetOrderPaymentStatusInput where
  orderId : Uuid
  customerId : Option Uuid

structure GetOrderPaymentStatusOutput where
  orderId : Option Uuid
  paymentId : Uuid
  gatewayPaymentId : Option String
  razorpayOrderId : String
  amountPaise : Int
  currency : String
  status : PaymentStatus
  method : Option String
  createdAt : Instant
  deriving DecidableEq

structure ProcessOrderRefundInput where
  orderId : Uuid
  amountPaise : Option Int
  reason : Option String

structure ProcessOrderRefundOutput where
  refundId : String
  transactionId : Uuid
  orderId : Option Uuid
  amountPaise : Int
  currency : String
  status : RefundStatus
  processedAt : Option Instant
  deriving DecidableEq

namespace OrderPaymentMapper

def toCreateResponse (transaction : PaymentTransaction) (keyId : String) :
    CreateOrderPaymentOutput where
  paymentId := transaction.id
  orderId := transaction.orderId
  razorpayOrderId := transaction.razorpayOrderId
  amountPaise := transaction.amountPaise
  currency := transaction.currency
  keyId := keyId

def toStatusResponse (transaction : PaymentTransaction) : GetOrderPaymentStatusOutput where
  orderId := transaction.orderId
  paymentId := transaction.id
  gatewayPaymentId := transaction.razorpayPaymentId
  razorpayOrderId := transaction.razorpayOrderId
  amountPaise := transaction.amountPaise
  currency := transaction.currency
  status := transaction.status
  method := transaction.paymentMethod
  createdAt := transaction.createdAt

def toVerifyResponse (transaction : PaymentTransaction) (verifiedAt : Option Instant) :
    VerifyOrderPaymentOutput where
  paymentId := transaction.id
  orderId := transaction.orderId
  gatewayPaymentId := transaction.razorpayPaymentId.getD ""
  status := .captured
  verifiedAt := verifiedAt.getD transaction.updatedAt

end OrderPaymentMapper

def OrderRefundMapper.toResponse (transaction : PaymentTransaction) (refund : PaymentRefund) :
    ProcessOrderRefundOutput where
  refundId := refund.razorpayRefundId
  transactionId := transaction.id
  orderId := transaction.orderId
  amountPaise := refund.amountPaise
  currency := refund.currency
  status := refund.status
  processedAt := refund.processedAt

/-- The transaction stored for a new gateway order. -/
def CreateOrderPaymentInput.transaction (input : CreateOrderPaymentInput) (gatewayOrderId : String) :
    CreatePaymentTransactionInput where
  restaurantId := input.restaurantId
  planId := none
  orderId := some input.orderId
  customerId := some input.customerId
  razorpayOrderId := gatewayOrderId
  amountPaise := input.amountPaise
  currency := (truthy input.currency).getD defaultCurrency
  metadata := some [("orderId", .str (toString input.orderId)),
    ("customerId", .str (toString input.customerId)),
    ("restaurantId", .str (toString input.restaurantId))]

/-- The second half of `createOrderPayment`, when no transaction is reused. -/
def openGatewayOrder (config : Config) (input : CreateOrderPaymentInput) :
    UseCase CreateOrderPaymentOutput := do
  let currency := (truthy input.currency).getD defaultCurrency
  let gatewayOrderId ← call (Port.createOrder input.amountPaise currency)
  let transaction ← repository (.createTransaction (input.transaction gatewayOrderId))
  return OrderPaymentMapper.toCreateResponse transaction config.keyId

/-- `CreateOrderPaymentUseCase.execute`. Of all transactions of the order only
the newest one is looked at. -/
def createOrderPayment (config : Config) (input : CreateOrderPaymentInput) :
    UseCase CreateOrderPaymentOutput := do
  match ← repository (.findByCustomerOrderId input.orderId) with
  | none => openGatewayOrder config input
  | some existingTx =>
    if existingTx.status = .captured ∨ existingTx.status = .success then
      throw .orderPaymentAlreadyCaptured
    else if existingTx.status = .created ∧ existingTx.amountPaise = input.amountPaise then
      return OrderPaymentMapper.toCreateResponse existingTx config.keyId
    else openGatewayOrder config input

/-- What a verified payment passes to `capture`. -/
def VerifyOrderPaymentInput.captureParams (input : VerifyOrderPaymentInput) : CaptureParams where
  paymentId := some input.razorpayPaymentId
  signature := some (some input.razorpaySignature)
  metadata := none

/-- The event of a verified payment; it does not name the method. -/
def VerifyOrderPaymentInput.capturedEvent (input : VerifyOrderPaymentInput) (tx : PaymentTransaction)
    (now : Instant) : CreateOutboxEventInput where
  eventType := .orderCaptured
  aggregateId := input.orderId
  payload := .orderCaptured tx.id input.orderId tx.customerId tx.restaurantId tx.amountPaise
    tx.currency (some input.razorpayPaymentId) none now

/-- The last part of `verifyOrderPayment`, once the signature is accepted. -/
def captureVerified (input : VerifyOrderPaymentInput) (tx : PaymentTransaction) (now : Instant) :
    UseCase VerifyOrderPaymentOutput := do
  let captured ← check (tx.capture input.captureParams now)
  let updatedTx ← repository (.captureOrderPaymentWithOutbox {
    transaction := captured
    outbox := input.capturedEvent tx now })
  return OrderPaymentMapper.toVerifyResponse updatedTx (some now)

/-- `VerifyOrderPaymentUseCase.execute`. -/
def verifyOrderPayment (config : Config) (input : VerifyOrderPaymentInput) (now : Instant) :
    UseCase VerifyOrderPaymentOutput := do
  match ← repository (.findByOrderId input.razorpayOrderId) with
  | none => throw .paymentOrderNotFound
  | some tx =>
    check (tx.assertBelongsToOrder input.orderId)
    check (tx.assertOwnership input.customerId)
    if tx.status = .captured then
      return OrderPaymentMapper.toVerifyResponse tx none
    else if RazorpayGateway.verifyPaymentSignature config input.razorpayOrderId
        input.razorpayPaymentId input.razorpaySignature = false then
      throw .invalidPaymentSignature
    else captureVerified input tx now

/-- `GetOrderPaymentStatusUseCase.execute`. -/
def getOrderPaymentStatus (input : GetOrderPaymentStatusInput) : UseCase GetOrderPaymentStatusOutput := do
  match ← repository (.findByCustomerOrderId input.orderId) with
  | none => throw .orderPaymentNotFound
  | some tx =>
    check (tx.assertOwnership input.customerId)
    return OrderPaymentMapper.toStatusResponse tx

/-- The refund status for the answer of the gateway. -/
def refundStatusOf (status : Option String) : RefundStatus :=
  if status.map String.toLower = some "processed" then .processed else .pending

/-- The refund that is recorded for the answer of the gateway. -/
def refundInput (input : ProcessOrderRefundInput) (tx : PaymentTransaction) (amountPaise : Int)
    (gatewayRefund : PaymentRefundResult) : RefundInput where
  razorpayRefundId := gatewayRefund.refundId
  amountPaise := amountPaise
  currency := tx.currency
  status := refundStatusOf gatewayRefund.status
  reason := input.reason
  arn := gatewayRefund.arn
  paymentMethod := tx.paymentMethod

/-- The part of `processOrderRefund` after the gateway has made the refund. -/
def recordRefund (input : ProcessOrderRefundInput) (tx : PaymentTransaction) (amountPaise : Int)
    (gatewayRefund : PaymentRefundResult) (now : Instant) : UseCase ProcessOrderRefundOutput := do
  let refunded ← check (tx.markRefunded now)
  let (updatedTx, refund) ← repository (.processOrderRefund {
    transaction := refunded
    refund := refundInput input tx amountPaise gatewayRefund })
  return OrderRefundMapper.toResponse updatedTx refund

/-- The part of `processOrderRefund` that asks the gateway; every failure of the
remote call becomes a `PaymentGatewayError`. -/
def requestRefund (input : ProcessOrderRefundInput) (tx : PaymentTransaction) (now : Instant) :
    UseCase ProcessOrderRefundOutput := do
  match truthy tx.razorpayPaymentId with
  | none => throw .cannotRefundUncapturedPayment
  | some gatewayPaymentId =>
    let refundAmountPaise := input.amountPaise.getD tx.amountPaise
    match ← attempt (Port.createRefund gatewayPaymentId refundAmountPaise) with
    | .error _ => throw .paymentGatewayError
    | .ok gatewayRefund => recordRefund input tx refundAmountPaise gatewayRefund now

/-- `ProcessOrderRefundUseCase.execute`. -/
def processOrderRefund (input : ProcessOrderRefundInput) (now : Instant) :
    UseCase ProcessOrderRefundOutput := do
  match ← repository (.findByCustomerOrderId input.orderId) with
  | none => throw .paymentOrderNotFound
  | some tx =>
    check (tx.assertCanRefund input.amountPaise)
    requestRefund input tx now

end SpotqPayment
