import SpotqPayment.Library.Run
import SpotqPayment.Application.OrderPayment
import SpotqPayment.Application.Webhook

/-! The service as one system: the calls of its use cases, each with what the
environment contributes, and the states they reach when completed one after
another from empty tables. -/
namespace SpotqPayment

open Process

inductive Call where
  | createOrderPayment (input : CreateOrderPaymentInput)
  | verifyOrderPayment (input : VerifyOrderPaymentInput)
  | processOrderRefund (input : ProcessOrderRefundInput)
  | createSubscriptionOrder (input : CreateSubscriptionOrderInput)
  | verifyPayment (input : VerifyPaymentInput)
  | handleWebhook (input : HandleWebhookInput)
  | expirePastDueSubscriptions

inductive Reply where
  | orderPayment (output : CreateOrderPaymentOutput)
  | orderVerification (output : VerifyOrderPaymentOutput)
  | orderRefund (output : ProcessOrderRefundOutput)
  | subscriptionOrder (output : CreateSubscriptionOrderOutput)
  | verification (output : VerifyPaymentOutput)
  | webhook (output : HandleWebhookOutput)
  | expired (count : Nat)
  deriving DecidableEq

def Call.process (config : Config) (env : Env) : Call → UseCase Reply
  | .createOrderPayment input => .orderPayment <$> SpotqPayment.createOrderPayment config input
  | .verifyOrderPayment input =>
      .orderVerification <$> SpotqPayment.verifyOrderPayment config input env.now
  | .processOrderRefund input => .orderRefund <$> SpotqPayment.processOrderRefund input env.now
  | .createSubscriptionOrder input =>
      .subscriptionOrder <$> SpotqPayment.createSubscriptionOrder config input env.invoiceNumber env.now
  | .verifyPayment input => .verification <$> SpotqPayment.verifyPayment config input env.now
  | .handleWebhook input => .webhook <$> SpotqPayment.handleWebhook config input env.now
  | .expirePastDueSubscriptions => .expired <$> SpotqPayment.expirePastDueSubscriptions env.now

/-- The gateway order of a payment event. -/
def WebhookPayload.reportedOrder (payload : WebhookPayload) : Option String :=
  match payload.event with
  | .paymentCaptured | .orderPaid => payload.successOrderId
  | .paymentFailed => truthy (payload.payment.bind (·.orderId))
  | _ => none

/-- A call and its environment. -/
structure Request where
  call : Call
  env : Env

/-- A completed call: its reply or error, and the state it leaves. -/
def Request.result (config : Config) (request : Request) (world : World) :
    Except ServiceError Reply × World :=
  exec (Port.perform request.env) (request.call.process config request.env) world

/-- Requests whose calls are of one kind. -/
abbrev RequestOf (kind : Call → Prop) := { request : Request // kind request.call }

/-- The step of the system. -/
def serve (config : Config) (world : World) (request : Request) : World :=
  (request.result config world).2

/-! A deployment on which runs can be evaluated: its secrets, the digests of the
messages that are signed with them, and one builder for each kind of request. -/
namespace Sample

def capturedBody : String :=
  "\x7b\"event\":\"payment.captured\",\"payload\":\x7b\"payment\":\x7b\"entity\":\x7b\"id\":\"pay_1\",\"order_id\":\"order_1\"\x7d\x7d\x7d\x7d"

def failedBody : String :=
  "\x7b\"event\":\"payment.failed\",\"payload\":\x7b\"payment\":\x7b\"entity\":\x7b\"id\":\"pay_0\",\"order_id\":\"order_1\"\x7d\x7d\x7d\x7d"

def refundProcessedBody : String :=
  "\x7b\"event\":\"refund.processed\",\"payload\":\x7b\"refund\":\x7b\"entity\":\x7b\"id\":\"rfnd_1\",\"payment_id\":\"pay_1\"\x7d\x7d\x7d\x7d"

def refundFailedBody : String :=
  "\x7b\"event\":\"refund.failed\",\"payload\":\x7b\"refund\":\x7b\"entity\":\x7b\"id\":\"rfnd_1\",\"payment_id\":\"pay_1\"\x7d\x7d\x7d\x7d"

def partialRefundBody : String :=
  "\x7b\"event\":\"refund.processed\",\"payload\":\x7b\"refund\":\x7b\"entity\":\x7b\"id\":\"rfnd_1\",\"payment_id\":\"pay_1\",\"amount\":20000\x7d\x7d\x7d\x7d"

/-- HMAC-SHA256 on the messages that occur in the samples. -/
def digests : List ((String × String) × String) :=
  [(("key-secret", "order_1|pay_1"),
      "5e0781daf9ca49ca8bcdbe2023ee024d94ba973ed2534739a2970c200144e8cc"),
    (("key-secret", "order_2|pay_2"),
      "a0feb1302dfd25e3e08d7be43f2bb44101e6b0398d79236ab5a0bd87bfaef1b5"),
    (("hook-secret", capturedBody),
      "f53be578f35785fa9c1680874b986c991e46d68d3fe76fd9f46c6f027e3ce6a7"),
    (("hook-secret", failedBody),
      "6e78a6b745575ffa54969a5e141199c7ef766a09a35d9f8b7fb4e36e890acbeb"),
    (("hook-secret", refundProcessedBody),
      "0de365a6184ace71f0784600deb12e984d18cc45c2e447f07bd3ec4682abda04"),
    (("hook-secret", refundFailedBody),
      "5722c7376ce1684b2548331b770cc4a0e7410149ddaf4571a8fccec57b220785"),
    (("hook-secret", partialRefundBody),
      "5ff7e63ab216e70382f69a9cb69ec8f519e1c55ee488de253b2419f8cab10ee2")]

def config : Config where
  keyId := "rzp_test_key"
  keySecret := "key-secret"
  webhookSecret := some "hook-secret"
  hmacSha256Hex := fun secret message => (digests.lookup (secret, message)).getD ""

def env (now : Instant) : Env where
  now := now
  uuidFloor := 0
  tie := 0
  invoiceNumber := "INV-" ++ toString now
  gatewayOrderId := none
  gatewayRefund := none

/-- A plan of 999 rupees for a month and one of 9990 rupees for a year. -/
def monthlyPlan : SubscriptionPlan where
  id := 5
  code := "PRO_MONTHLY"
  name := "Pro"
  description := none
  pricePaise := 99900
  currency := "INR"
  billingCycle := .monthly
  features := .other "[]"
  isActive := true

def yearlyPlan : SubscriptionPlan :=
  { monthlyPlan with id := 6, code := "PRO_YEARLY", pricePaise := 999000, billingCycle := .yearly }

def plans : Table SubscriptionPlan where
  rows := [monthlyPlan, yearlyPlan]
  keys_nodup := by decide
  unique := by decide
  checked := fun _ _ => rfl

/-- The signature of the checkout for a payment of an order. -/
def signature (razorpayOrderId razorpayPaymentId : String) : String :=
  config.hmacSha256Hex config.keySecret (razorpayOrderId ++ "|" ++ razorpayPaymentId)

theorem price_pos : (0 : Int) < 50000 := by decide

theorem dearerPrice_pos : (0 : Int) < 60000 := by decide

def createOrderPayment (now : Instant) (orderId : Uuid) (amountPaise : Int)
    (amountPaise_pos : 0 < amountPaise) (razorpayOrderId : String) : Request where
  call := .createOrderPayment {
    orderId := orderId
    customerId := 11
    restaurantId := 21
    amountPaise := amountPaise
    currency := none
    amountPaise_pos := amountPaise_pos }
  env := { env now with gatewayOrderId := some razorpayOrderId }

def verifyOrderPayment (now : Instant) (orderId : Uuid) (razorpayOrderId razorpayPaymentId : String) :
    Request where
  call := .verifyOrderPayment {
    orderId := orderId
    razorpayOrderId := razorpayOrderId
    razorpayPaymentId := razorpayPaymentId
    razorpaySignature := signature razorpayOrderId razorpayPaymentId
    customerId := some 11 }
  env := env now

/-- A refund request for the whole amount, with the answer of the gateway. -/
def processOrderRefund (now : Instant) (orderId : Uuid) (refundId status : String) : Request where
  call := .processOrderRefund { orderId := orderId, amountPaise := none, reason := none }
  env := { env now with gatewayRefund := some { refundId := refundId, status := some status, arn := none } }

def createSubscriptionOrder (now : Instant) (planId : Uuid) (razorpayOrderId : String) : Request where
  call := .createSubscriptionOrder { restaurantId := some 21, planId := planId }
  env := { env now with gatewayOrderId := some razorpayOrderId }

def verifyPayment (now : Instant) (razorpayOrderId razorpayPaymentId : String) : Request where
  call := .verifyPayment {
    razorpayOrderId := razorpayOrderId
    razorpayPaymentId := razorpayPaymentId
    razorpaySignature := signature razorpayOrderId razorpayPaymentId
    restaurantId := some 21 }
  env := env now

/-- A webhook signed with the webhook secret. -/
def signedInput (rawBody : String) (payload : WebhookPayload) : HandleWebhookInput where
  rawBody := rawBody
  signature := config.hmacSha256Hex "hook-secret" rawBody
  parsedPayload := payload

def webhook (now : Instant) (rawBody : String) (payload : WebhookPayload) : Request where
  call := .handleWebhook (signedInput rawBody payload)
  env := env now

def paymentPayload (event : WebhookEvent) (orderId paymentId : String) : WebhookPayload where
  event := event
  payment := some {
    id := some paymentId
    orderId := some orderId
    method := none
    errorDescription := none
    errorReason := none }
  order := none
  refund := none

def refundPayload (event : WebhookEvent) (refundId paymentId : String) (amount : Option Int) :
    WebhookPayload where
  event := event
  payment := none
  order := none
  refund := some {
    id := some refundId
    paymentId := some paymentId
    amount := amount
    currency := none
    arn := none
    reason := none }

/-- The delivery of `payment.captured` for the payment `pay_1` of `order_1`. -/
def captured (now : Instant) : Request :=
  webhook now capturedBody (paymentPayload .paymentCaptured "order_1" "pay_1")

/-- The delivery of `payment.failed` for an earlier attempt on `order_1`. -/
def failed (now : Instant) : Request :=
  webhook now failedBody (paymentPayload .paymentFailed "order_1" "pay_0")

def refundProcessed (now : Instant) : Request :=
  webhook now refundProcessedBody (refundPayload .refundProcessed "rfnd_1" "pay_1" none)

def refundFailed (now : Instant) : Request :=
  webhook now refundFailedBody (refundPayload .refundFailed "rfnd_1" "pay_1" none)

/-- A subscription order that waits for its payment. -/
def openOrder : World := serve Sample.config (World.initial plans) (createSubscriptionOrder 1000 5 "order_1")

/-- A food order that waits for its payment. -/
def openFoodOrder : World :=
  serve Sample.config (World.initial Table.empty) (createOrderPayment 1000 7 50000 Sample.price_pos "order_1")

end Sample

end SpotqPayment
