import SpotqPayment.Library.Table
import SpotqPayment.Library.Calendar

/-! The entities of the payment service with their constants and errors. A
database row and the entity that the repositories map it to have the same
fields, so one structure stands for both. -/
namespace SpotqPayment

/-- Identifiers of rows and of the parties outside the service. Only equality
and freshness of a uuid matter. -/
abbrev Uuid := Nat

/-- Milliseconds since the epoch, UTC. -/
abbrev Instant := Int

/-- A JSON value of a column or inside a metadata object, with strings told apart
from the rest as the code does by `typeof`. -/
inductive JsonValue where
  | null
  | str (value : String)
  | other (text : String)
  deriving DecidableEq, Repr

abbrev JsonObject := List (String × JsonValue)

/-- Object spread `{ ...base, ...extra }`: a common field keeps its place and
takes the value of the second object. -/
def JsonObject.merge (base extra : JsonObject) : JsonObject :=
  base.map (fun field => (field.1, (extra.lookup field.1).getD field.2)) ++
    extra.filter (fun field => (base.lookup field.1).isNone)

/-- A string that JavaScript takes as true: present and not empty. -/
def truthy (value : Option String) : Option String := value.filter (· ≠ "")

theorem truthy_eq_some {value : Option String} {text : String} (h : truthy value = some text) :
    value = some text ∧ text ≠ "" := by
  obtain ⟨hValue, hText⟩ := Option.filter_eq_some_iff.mp h
  exact ⟨hValue, by simpa using hText⟩

/-- `a || b` on optional strings. -/
def orElse (first second : Option String) : Option String :=
  match truthy first with
  | some value => some value
  | none => second

/-- The characters that `trim` removes. -/
def isTrimmed (c : Char) : Bool :=
  [0x09, 0x0A, 0x0B, 0x0C, 0x0D, 0x20, 0xA0, 0x1680, 0x2028, 0x2029, 0x202F, 0x205F, 0x3000, 0xFEFF].contains c.toNat ||
    (0x2000 ≤ c.toNat && c.toNat ≤ 0x200A)

def trim (text : String) : String :=
  String.ofList ((text.toList.dropWhile isTrimmed).reverse.dropWhile isTrimmed).reverse

/-- Errors thrown by the domain and the use cases, then those raised by Prisma
and by the gateway client. -/
inductive ServiceError where
  | planNotFound
  | activeSubscriptionAlreadyExists
  | paymentOrderNotFound
  | orderPaymentNotFound
  | invalidPaymentSignature
  | unauthorizedRestaurant
  | customerUnauthorized
  | orderPaymentAlreadyCaptured
  | invalidPaymentStateTransition
  | paymentAlreadyRefunded
  | cannotRefundUncapturedPayment
  | refundAmountExceedsBalance
  | refundAmountInvalid
  | paymentGatewayError
  | constraintViolation
  | recordNotFound
  | gatewayFailure
  | databaseFailure
  deriving DecidableEq, Repr

def defaultCurrency : String := "INR"

def defaultPaymentMethod : String := "ONLINE"

def defaultPaymentFailureReason : String := "Payment failed on gateway"

/-- `PENDING_ORDER_REUSE_WINDOW_MS`. -/
def pendingOrderReuseWindowMs : Int := 15 * 60 * 1000

/-- What the column of an amount takes: a positive value, by its CHECK, of four bytes. -/
def amountFits (amountPaise : Int) : Bool := 0 < amountPaise && amountPaise ≤ 2147483647

inductive PaymentStatus where
  | created | captured | success | failed | refunded
  deriving DecidableEq, Repr

structure PaymentTransaction where
  id : Uuid
  restaurantId : Uuid
  subscriptionId : Option Uuid
  planId : Option Uuid
  orderId : Option Uuid
  customerId : Option Uuid
  razorpayOrderId : String
  razorpayPaymentId : Option String
  razorpaySignature : Option String
  amountPaise : Int
  currency : String
  status : PaymentStatus
  failureReason : Option String
  metadata : Option JsonObject
  createdAt : Instant
  updatedAt : Instant
  deriving DecidableEq, Repr

instance : Record PaymentTransaction where
  key := PaymentTransaction.id
  unique := [fun tx => some tx.razorpayOrderId, PaymentTransaction.razorpayPaymentId]
  check := fun tx => amountFits tx.amountPaise

/-- Arguments of `capture`: `signature` tells an absent field from a null one. -/
structure CaptureParams where
  paymentId : Option String
  signature : Option (Option String)
  metadata : Option JsonObject

namespace PaymentTransaction

/-- The method recorded in an object of metadata, if it is a string. -/
def methodOf (metadata : Option JsonObject) : Option String :=
  match metadata.bind (·.lookup "method") with
  | some (.str method) => some method
  | _ => none

def paymentMethod (tx : PaymentTransaction) : Option String :=
  match methodOf tx.metadata with
  | some method => some method
  | none => if tx.status = .captured then some defaultPaymentMethod else none

def isOwnedBy (tx : PaymentTransaction) (customerId : Uuid) : Bool :=
  match tx.customerId with
  | none => true
  | some owner => owner == customerId

def assertOwnership (tx : PaymentTransaction) (customerId : Option Uuid) : Except ServiceError Unit :=
  match tx.customerId, customerId with
  | none, _ => .ok ()
  | some _, none => .error .customerUnauthorized
  | some _, some caller => if tx.isOwnedBy caller then .ok () else .error .customerUnauthorized

def belongsToOrder (tx : PaymentTransaction) (orderId : Uuid) : Bool := tx.orderId == some orderId

def assertBelongsToOrder (tx : PaymentTransaction) (orderId : Uuid) : Except ServiceError Unit :=
  if tx.belongsToOrder orderId then .ok () else .error .paymentOrderNotFound

/-- The fields that a capture writes once the status allows it. -/
def captureFields (tx : PaymentTransaction) (params : CaptureParams) (now : Instant) :
    PaymentTransaction :=
  { tx with
    status := .captured
    razorpayPaymentId := params.paymentId.or tx.razorpayPaymentId
    razorpaySignature := params.signature.getD tx.razorpaySignature
    metadata := match params.metadata with
      | some extra => some (JsonObject.merge (tx.metadata.getD []) extra)
      | none => tx.metadata
    updatedAt := now }

/-- Only CAPTURED and FAILED are guarded; every other status is overwritten. -/
def capture (tx : PaymentTransaction) (params : CaptureParams) (now : Instant) :
    Except ServiceError PaymentTransaction :=
  if tx.status = .captured then .ok tx
  else if tx.status = .failed then .error .invalidPaymentStateTransition
  else .ok (tx.captureFields params now)

def markFailed (tx : PaymentTransaction) (reason : String) (now : Instant) : PaymentTransaction :=
  if tx.status = .captured ∨ tx.status = .success then tx
  else { tx with status := .failed, failureReason := some reason, updatedAt := now }

def assertCanRefund (tx : PaymentTransaction) (requestedAmountPaise : Option Int) :
    Except ServiceError Unit :=
  if tx.status = .refunded then .error .paymentAlreadyRefunded
  else if tx.status ≠ .captured ∧ tx.status ≠ .success then .error .cannotRefundUncapturedPayment
  else if truthy tx.razorpayPaymentId = none then .error .cannotRefundUncapturedPayment
  else match requestedAmountPaise with
    | none => .ok ()
    | some amount =>
      if amount > tx.amountPaise then .error .refundAmountExceedsBalance
      else if amount < tx.amountPaise then .error .refundAmountInvalid
      else .ok ()

def markRefunded (tx : PaymentTransaction) (now : Instant) : Except ServiceError PaymentTransaction :=
  if tx.status ≠ .captured ∧ tx.status ≠ .success then .error .invalidPaymentStateTransition
  else .ok { tx with status := .refunded, updatedAt := now }

end PaymentTransaction

inductive RefundStatus where
  | pending | processed | failed
  deriving DecidableEq, Repr

structure PaymentRefund where
  id : Uuid
  paymentTransactionId : Uuid
  razorpayRefundId : String
  amountPaise : Int
  currency : String
  status : RefundStatus
  reason : Option String
  arn : Option String
  paymentMethod : Option String
  createdAt : Instant
  processedAt : Option Instant
  deriving DecidableEq, Repr

instance : Record PaymentRefund where
  key := PaymentRefund.id
  unique := [fun refund => some refund.razorpayRefundId]
  check := fun refund => amountFits refund.amountPaise

/-- The answer of the remote gateway to a refund request. -/
structure PaymentRefundResult where
  refundId : String
  status : Option String
  arn : Option String

inductive SubscriptionStatus where
  | pending | active | expired | cancelled | pastDue
  deriving DecidableEq, Repr

structure Subscription where
  id : Uuid
  restaurantId : Uuid
  planId : Uuid
  status : SubscriptionStatus
  currentPeriodStart : Instant
  currentPeriodEnd : Instant
  canceledAt : Option Instant
  createdAt : Instant
  updatedAt : Instant
  deriving DecidableEq, Repr

instance : Record Subscription where
  key := Subscription.id
  unique := []

def Subscription.isActive (subscription : Subscription) (now : Instant) : Bool :=
  subscription.status = .active && now ≤ subscription.currentPeriodEnd

inductive PlanBillingCycle where
  | monthly | yearly
  deriving DecidableEq, Repr

structure SubscriptionPlan where
  id : Uuid
  code : String
  name : String
  description : Option String
  pricePaise : Int
  currency : String
  billingCycle : PlanBillingCycle
  features : JsonValue
  isActive : Bool
  deriving DecidableEq, Repr

instance : Record SubscriptionPlan where
  key := SubscriptionPlan.id
  unique := [fun plan => some plan.code]

/-- The calendar date one month or one year after the start, by the overflow
rules of `setMonth` and `setFullYear`. -/
def SubscriptionPlan.calculatePeriodEnd (plan : SubscriptionPlan) (startDate : Instant) : Instant :=
  if plan.billingCycle = .yearly then
    Calendar.setFullYear startDate (Calendar.yearFromDay (Calendar.day startDate) + 1)
  else
    Calendar.setMonth startDate (Calendar.monthFromDay (Calendar.day startDate) + 1)

inductive InvoiceStatus where
  | draft | paid | void
  deriving DecidableEq, Repr

structure BillingInvoice where
  id : Uuid
  restaurantId : Uuid
  subscriptionId : Option Uuid
  paymentTransactionId : Option Uuid
  invoiceNumber : String
  amountPaise : Int
  currency : String
  status : InvoiceStatus
  invoicePdfKey : Option String
  paidAt : Option Instant
  createdAt : Instant
  updatedAt : Instant
  deriving DecidableEq, Repr

instance : Record BillingInvoice where
  key := BillingInvoice.id
  unique := [fun invoice => some invoice.invoiceNumber]
  check := fun invoice => amountFits invoice.amountPaise

/-- The event types written by the service; the column itself is a string. -/
inductive EventType where
  | subscriptionActivated | subscriptionExpired | orderCaptured | orderFailed
  | other (name : String)
  deriving DecidableEq, Repr

inductive OutboxStatus where
  | pending | published | failed
  deriving DecidableEq, Repr

/-- The payload objects that the use cases and the expiry service build. -/
inductive OutboxPayload where
  | orderCaptured (paymentId orderId : Uuid) (customerId : Option Uuid) (restaurantId : Uuid)
      (amountPaise : Int) (currency : String) (gatewayPaymentId : Option String)
      (method : Option JsonValue) (timestamp : Instant)
  | orderFailed (paymentId orderId : Uuid) (customerId : Option Uuid) (restaurantId : Uuid)
      (amountPaise : Int) (currency : String) (failureReason : String) (timestamp : Instant)
  | subscriptionActivated (restaurantId : Uuid) (planCode : String) (status : SubscriptionStatus)
      (currentPeriodStart currentPeriodEnd timestamp : Instant) (subscriptionId : Option Uuid)
  | subscriptionExpired (subscriptionId restaurantId : Uuid) (planCode : String)
      (status : SubscriptionStatus) (expiredAt currentPeriodEnd timestamp : Instant)
  deriving DecidableEq, Repr

/-- The transaction that a payload names. -/
def OutboxPayload.paymentId? : OutboxPayload → Option Uuid
  | .orderCaptured paymentId .. => some paymentId
  | .orderFailed paymentId .. => some paymentId
  | _ => none

/-- The subscription that a payload names. -/
def OutboxPayload.subscriptionId? : OutboxPayload → Option Uuid
  | .subscriptionActivated _ _ _ _ _ _ subscriptionId => subscriptionId
  | .subscriptionExpired subscriptionId .. => some subscriptionId
  | _ => none

/-- The status of a food order that an event announces. -/
def EventType.outcome? : EventType → Option PaymentStatus
  | .orderCaptured => some .captured
  | .orderFailed => some .failed
  | _ => none

structure OutboxEvent where
  id : Uuid
  eventType : EventType
  aggregateId : Uuid
  payload : OutboxPayload
  status : OutboxStatus
  retryCount : Nat
  lastError : Option String
  createdAt : Instant
  publishedAt : Option Instant
  deriving DecidableEq, Repr

instance : Record OutboxEvent where
  key := OutboxEvent.id
  unique := []

end SpotqPayment
