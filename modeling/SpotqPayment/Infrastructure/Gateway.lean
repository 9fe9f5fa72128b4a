import SpotqPayment.Domain.Entities

/-! The Razorpay gateway: the signature checks of the adapter, which are pure,
and a log of the orders and refunds that the remote gateway has made. -/
namespace SpotqPayment

/-- The Razorpay part of the configuration, with the hexadecimal HMAC-SHA256 of
the crypto library as a function of the secret and the message. -/
structure Config where
  keyId : String
  keySecret : String
  webhookSecret : Option String
  hmacSha256Hex : String → String → String

namespace RazorpayGateway

def verifyPaymentSignature (config : Config) (orderId paymentId signature : String) : Bool :=
  if config.keySecret = "" ∨ signature = "" then false
  else config.hmacSha256Hex config.keySecret (orderId ++ "|" ++ paymentId) == signature

def verifyWebhookSignature (config : Config) (rawBody signature webhookSecret : String) : Bool :=
  if webhookSecret = "" ∨ signature = "" ∨ rawBody = "" then false
  else config.hmacSha256Hex webhookSecret rawBody == signature

end RazorpayGateway

structure GatewayOrder where
  orderId : String
  amountInPaise : Int
  currency : String
  deriving DecidableEq, Repr

structure GatewayRefund where
  refundId : String
  paymentId : String
  amountInPaise : Int
  deriving DecidableEq, Repr

/-- What the remote gateway has done on behalf of the service. -/
structure Gateway where
  orders : List GatewayOrder
  refunds : List GatewayRefund

/-- The amounts of the refunds made for one payment, oldest first. -/
def Gateway.refundsOf (gateway : Gateway) (paymentId : String) : List Int :=
  (gateway.refunds.filter fun refund => refund.paymentId = paymentId).map GatewayRefund.amountInPaise

def Gateway.refundedPaise (gateway : Gateway) (paymentId : String) : Int :=
  (gateway.refundsOf paymentId).sum

end SpotqPayment
