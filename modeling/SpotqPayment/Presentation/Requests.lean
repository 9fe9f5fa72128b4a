import SpotqPayment.Application.Webhook
import SpotqPayment.Presentation.Schemas

/-! The requests that the routes receive, on their way to a handler, and the payload of a
webhook. -/
namespace SpotqPayment

open Router

inductive HttpMethod where
  | get | head | post
  | other (name : String)
  deriving DecidableEq

/-- A route for GET takes HEAD as well. -/
def HttpMethod.handles (requested route : HttpMethod) : Bool :=
  requested = route || (requested = .head && route = .get)

/-- The headers that the routes read. -/
structure HttpHeaders where
  authorization : Option String
  idempotencyKey : List String
  razorpaySignature : Option String
  restaurantId : Option String
  userId : Option String
  userRole : Option String
  userEmail : Option String
  deriving DecidableEq

/-- `req.user`. -/
structure RequestUser where
  userId : String
  email : String
  role : String
  deriving DecidableEq

/-- `res.locals`, where the validated parameters and query are left for the handler. -/
structure Locals where
  params : Option Params := none
  query : Option ParsedQuery := none
  deriving DecidableEq

/-- A request with its path cut at the slashes, without a trailing one. The body is what
`express.json` has parsed until a schema takes its place, `rawBody` the text that it came
from. Express parses `query` anew at each look, so that no middleware can replace it. -/
structure HttpRequest where
  method : HttpMethod
  path : List String
  headers : HttpHeaders
  query : Query
  rawBody : String
  body : Option Json
  user : Option RequestUser
  locals : Locals
  deriving DecidableEq

/-- `processOrderRefundHeadersSchema`. -/
def processOrderRefundHeadersSchema (headers : HttpHeaders) : Bool :=
  match headers.idempotencyKey with
  | [key] => key ≠ ""
  | _ => false

section Webhook

def WebhookEvent.ofName : String → WebhookEvent
  | "payment.captured" => .paymentCaptured
  | "order.paid" => .orderPaid
  | "payment.failed" => .paymentFailed
  | "refund.processed" => .refundProcessed
  | "refund.failed" => .refundFailed
  | name => .other name

def JsonValue.ofBody : Json → JsonValue
  | .null => .null
  | .str text => .str text
  | json => .other json.stringify

variable (json : Json)

def WebhookPaymentEntity.ofJson : WebhookPaymentEntity where
  id := (json.field? "id").bind Json.str?
  orderId := (json.field? "order_id").bind Json.str?
  method := ((json.field? "method").bind Json.nullish?).map JsonValue.ofBody
  errorDescription := (json.field? "error_description").bind Json.str?
  errorReason := (json.field? "error_reason").bind Json.str?

def WebhookOrderEntity.ofJson : WebhookOrderEntity where
  id := (json.field? "id").bind Json.str?

def WebhookRefundEntity.ofJson : WebhookRefundEntity where
  id := (json.field? "id").bind Json.str?
  paymentId := (json.field? "payment_id").bind Json.str?
  amount := (json.field? "amount").bind Json.num?
  currency := (json.field? "currency").bind Json.str?
  arn := (json.field? "arn").bind Json.str?
  reason := ((json.field? "notes").bind (Json.field? "reason")).bind Json.str?

/-- `payload.payload?.<name>?.entity`. -/
def webhookEntity? (name : String) : Option Json :=
  (((json.field? "payload").bind (Json.field? name)).bind (Json.field? "entity")).bind Json.nullish?

/-- The payload of a body whose fields have the types of the DTO. -/
def WebhookPayload.ofJson : WebhookPayload where
  event := WebhookEvent.ofName (((json.field? "event").bind Json.str?).getD "")
  payment := (webhookEntity? json "payment").map WebhookPaymentEntity.ofJson
  order := (webhookEntity? json "order").map WebhookOrderEntity.ofJson
  refund := (webhookEntity? json "refund").map WebhookRefundEntity.ofJson

end Webhook

end SpotqPayment
