import SpotqPayment.Presentation.RefundRoute
import SpotqPayment.Presentation.Requests
import SpotqPayment.Presentation.TransactionRoutes
import SpotqPayment.System.Service

/-! The routers of the service with their middlewares, and the calls that the controllers
make for the requests that reach them. -/
namespace SpotqPayment

open Process Router

def unauthorizedError (message : String) : AppError where
  message := message
  statusCode := 401
  code := "UNAUTHORIZED"

def forbiddenError (message : String) : AppError where
  message := message
  statusCode := 403
  code := "FORBIDDEN"

/-- The answer to a `ZodError`, without the issues. -/
def validationError : AppError where
  message := "Invalid request parameters"
  statusCode := 422
  code := "VALIDATION_ERROR"

inductive RouteMiddleware where
  | adminAuth | customerAuth | restaurantAdminAuth | internalS2SAuth | idempotency
  | validateRequestBody (schema : BodySchema)
  | validateRequestParams (schema : ParamsSchema)
  | validateRequestQuery (schema : QuerySchema)
  | validateRequestHeaders
  deriving DecidableEq

/-- A middleware ends a request with an error or with a stored answer. -/
inductive EarlyAnswer where
  | error (error : AppError)
  | replay (body : Json)
  deriving DecidableEq

/-- `adminAuthMiddleware`. -/
def adminAuthMiddleware (request : HttpRequest) : Except AppError HttpRequest :=
  match truthy request.headers.userId with
  | none => .error (unauthorizedError "Unauthorized request from gateway")
  | some userId =>
    match truthy (request.headers.userRole.map fun role => trim role.toLower) with
    | none => .error (forbiddenError "Forbidden: Admin access required")
    | some role =>
      if role = "admin" then
        .ok { request with user := some { userId, email := (truthy request.headers.userEmail).getD "", role } }
      else .error (forbiddenError "Forbidden: Admin access required")

/-- `customerAuthMiddleware`; a request without a role is one of a customer. -/
def customerAuthMiddleware (request : HttpRequest) : Except AppError HttpRequest :=
  match truthy request.headers.userId with
  | none => .error (unauthorizedError "Customer authentication required")
  | some userId =>
    match truthy (request.headers.userRole.map String.toLower) with
    | some role =>
      if role = "customer" then
        .ok { request with user := some {
          userId
          email := (truthy request.headers.userEmail).getD ""
          role := (truthy request.headers.userRole).getD "CUSTOMER" } }
      else .error (forbiddenError "Unauthorized customer access")
    | none =>
        .ok { request with user := some {
          userId
          email := (truthy request.headers.userEmail).getD ""
          role := (truthy request.headers.userRole).getD "CUSTOMER" } }

def HttpHeaders.restaurant (headers : HttpHeaders) : RestaurantHeaders where
  restaurantId := headers.restaurantId
  userId := headers.userId
  userRole := headers.userRole

def Refusal.error : Refusal → AppError
  | .unauthorized => unauthorizedError "Authentication token missing or invalid."
  | .forbidden => forbiddenError "Access denied. Insufficient permissions."

section Validation

variable (request : HttpRequest) (gate : Gate)

/-- The output of the schema takes the place of the body. -/
def HttpRequest.validateRequestBody (schema : BodySchema) : Option HttpRequest :=
  (schema.parse gate (request.body.getD (.obj []))).map fun output => { request with body := some output }

def HttpRequest.validateRequestParams (schema : ParamsSchema) (params : Params) : Option HttpRequest :=
  (schema.parse gate params).map fun output => { request with locals := { request.locals with params := some output } }

def HttpRequest.validateRequestQuery (schema : QuerySchema) : Option HttpRequest :=
  (schema.parse gate request.query).map fun output =>
    { request with locals := { request.locals with query := some output } }

/-- The headers are looked at only. -/
def HttpRequest.validateRequestHeaders : Option HttpRequest :=
  if processOrderRefundHeadersSchema request.headers then some request else none

/-- A schema that throws ends the request. -/
def validate (parsed : Option HttpRequest) : Except EarlyAnswer HttpRequest :=
  match parsed with
  | some request => .ok request
  | none => .error (.error validationError)

end Validation

/-- The idempotency middleware on the cache that it finds. -/
def passIdempotency (redis : Redis) (request : HttpRequest) : Except EarlyAnswer HttpRequest :=
  match (exec (CacheCall.perform true)
    (idempotencyMiddleware refundIdempotency request.headers.idempotencyKey) redis).1 with
  | .error error => .error (.error error)
  | .ok (.replay body) => .error (.replay body)
  | .ok (.next _ _) => .ok request

def RouteMiddleware.perform (gate : Gate) (redis : Redis) (middleware : RouteMiddleware) (params : Params)
    (request : HttpRequest) : Except EarlyAnswer HttpRequest :=
  match middleware with
  | .adminAuth => (adminAuthMiddleware request).mapError .error
  | .customerAuth => (customerAuthMiddleware request).mapError .error
  | .restaurantAdminAuth =>
      ((restaurantAdminAuthMiddleware request.headers.restaurant).mapError fun refusal => .error refusal.error).map
        fun _ => request
  | .internalS2SAuth => ((gate.authMiddleware request.headers.authorization).mapError .error).map fun _ => request
  | .idempotency => passIdempotency redis request
  | .validateRequestBody schema => validate (request.validateRequestBody gate schema)
  | .validateRequestParams schema => validate (request.validateRequestParams gate schema params)
  | .validateRequestQuery schema => validate (request.validateRequestQuery gate schema)
  | .validateRequestHeaders => validate request.validateRequestHeaders

/-- The methods of the controllers that the routes lead to. -/
inductive RouteHandler where
  | check | metrics
  | getPlans | createOrder | verifyPayment | getStatus | handleWebhook
  | listTransactions | getTransactionDetail
  | getSummary | getLedger | exportLedgerCsv
  | verifyOrderPayment | getOrderStatus
  | createGatewayOrder | processRefund
  | listSubscribers | getSubscriberDetails
  deriving DecidableEq

abbrev Routes := List (Layer HttpMethod RouteMiddleware RouteHandler)

def healthRouter : Routes :=
  [.route .get [.literal "health"] [] .check, .route .get [.literal "ready"] [] .check]

def metricsRouter : Routes := [.route .get [.literal "metrics"] [] .metrics]

def subscriptionRouter : Routes :=
  [.route .get [.literal "plans"] [] .getPlans,
    .route .post [.literal "subscriptions", .literal "order"] [] .createOrder,
    .route .post [.literal "subscriptions", .literal "verify"] [] .verifyPayment,
    .route .get [.literal "subscriptions", .literal "status"] [] .getStatus,
    .route .get [.literal "subscriptions", .literal "status", .param "restaurantId"] [] .getStatus,
    .route .post [.literal "webhook"] [] .handleWebhook]

def restaurantTransactionRouter : Routes :=
  [.use .restaurantAdminAuth, .route .get [] [] .listTransactions,
    .route .get [.param "id"] [] .getTransactionDetail]

def platformFinanceRouter : Routes :=
  [.use .adminAuth, .route .get [.literal "summary"] [] .getSummary,
    .route .get [.literal "ledger"] [.validateRequestQuery .getPlatformMasterLedger] .getLedger,
    .route .get [.literal "ledger", .literal "export.csv"] [.validateRequestQuery .exportPlatformMasterLedger]
      .exportLedgerCsv]

def orderPaymentRouter : Routes :=
  [.route .post [.literal "orders", .literal "verify"] [.customerAuth, .validateRequestBody .verifyOrderPayment]
      .verifyOrderPayment,
    .route .get [.literal "orders", .param "orderId", .literal "status"]
      [.customerAuth, .validateRequestParams .getOrderPaymentStatusParams] .getOrderStatus]

def internalOrderPaymentRouter : Routes :=
  [.use .internalS2SAuth,
    .route .post [.literal "payments", .literal "orders"] [.validateRequestBody .createOrderPayment]
      .createGatewayOrder,
    .route .post [.literal "payments", .literal "refunds"]
      [.validateRequestHeaders, .validateRequestBody .processOrderRefund, .idempotency] .processRefund]

def adminSubscriberRouter : Routes :=
  [.use .adminAuth, .route .get [] [.validateRequestQuery .listAdminSubscribers] .listSubscribers,
    .route .get [.param "subscriberId"] [.validateRequestParams .getAdminSubscriberDetailsParams] .getSubscriberDetails]

/-- `index.routes.ts`. -/
def router : Routes :=
  [.mount [] healthRouter, .mount [] metricsRouter, .mount [] subscriptionRouter,
    .mount ["transactions"] restaurantTransactionRouter,
    .mount ["api", "v1", "payments", "transactions"] restaurantTransactionRouter,
    .mount ["admin", "finance"] platformFinanceRouter, .mount [] orderPaymentRouter,
    .mount ["api", "internal", "v1"] internalOrderPaymentRouter, .mount ["subscribers"] adminSubscriberRouter,
    .mount ["api", "v1", "subscribers"] adminSubscriberRouter]

/-- A request on its way through the routers. -/
def HttpRequest.dispatch (gate : Gate) (redis : Redis) (request : HttpRequest) :
    Outcome EarlyAnswer HttpRequest RouteHandler :=
  dispatchAll (RouteMiddleware.perform gate redis) request.method.handles request.path request router

section Controllers

variable (gate : Gate) (request : HttpRequest)

/-- The customer that a controller takes from `req.user`. -/
def HttpRequest.customerId : Option Uuid := request.user.bind fun user => gate.uuid user.userId

/-- The controller of a subscription order. The restaurant of the header goes before that of
the body; a header that names no restaurant lets the use case end in an error. -/
def SubscriptionController.createOrder : Option CreateSubscriptionOrderInput := do
  let validated ← createSubscriptionOrderSchema gate (← request.body)
  match truthy request.headers.restaurantId with
  | none => if validated.restaurantId.isSome then return validated else none
  | some text => return { validated with restaurantId := some (← gate.uuid text) }

/-- The restaurant is that of the header only. A header that names none lets the use case
end in an error here as well. -/
def SubscriptionController.verifyPayment : Option VerifyPaymentInput := do
  match truthy request.headers.restaurantId with
  | none => verifyPaymentSchema (← request.body) none
  | some text => verifyPaymentSchema (← request.body) (some (← gate.uuid text))

def SubscriptionController.handleWebhook : Option HandleWebhookInput := do
  return {
    rawBody := request.rawBody
    signature := request.headers.razorpaySignature.getD ""
    parsedPayload := WebhookPayload.ofJson (← request.body) }

/-- The call that a handler makes for a request. The other handlers read only. -/
def RouteHandler.call? : RouteHandler → Option Call
  | .createOrder => (SubscriptionController.createOrder gate request).map .createSubscriptionOrder
  | .verifyPayment => (SubscriptionController.verifyPayment gate request).map .verifyPayment
  | .handleWebhook => (SubscriptionController.handleWebhook request).map .handleWebhook
  | .createGatewayOrder => (request.body.bind (createOrderPaymentSchema gate)).map .createOrderPayment
  | .verifyOrderPayment =>
      (request.body.bind fun body => verifyOrderPaymentSchema gate body (request.customerId gate)).map
        .verifyOrderPayment
  | .processRefund => (request.body.bind (processOrderRefundSchema gate)).map .processOrderRefund
  | .check | .metrics | .getPlans | .getStatus | .listTransactions | .getTransactionDetail | .getSummary | .getLedger
  | .exportLedgerCsv | .getOrderStatus | .listSubscribers | .getSubscriberDetails => none

/-- The call that a request leads to. -/
def HttpRequest.call? (redis : Redis) : Option Call :=
  match request.dispatch gate redis with
  | .reached handler _ final => handler.call? gate final
  | .passed _ | .answered _ => none

/-- The controller of the status of an order. `req.params` are the validated ones. -/
def OrderPaymentController.getStatus (params : Params) : Option GetOrderPaymentStatusInput := do
  let params := request.locals.params.getD params
  return { orderId := ← (params.lookup "orderId").bind gate.uuid, customerId := request.customerId gate }

/-- The request for the status of an order that a request leads to. -/
def HttpRequest.orderStatus? (redis : Redis) : Option GetOrderPaymentStatusInput :=
  match request.dispatch gate redis with
  | .reached .getOrderStatus params final => OrderPaymentController.getStatus gate final params
  | _ => none

end Controllers

/-! Requests by which runs can be evaluated. -/
namespace Sample

/-- The order service has one token. -/
def gate : Gate where
  uuid := parseUuid
  email := fun text => text.contains '@'
  number := String.toInt?
  authMiddleware token :=
    if token = some "Bearer order-service" then .ok () else .error (unauthorizedError "Unauthorized")

def orderText : String := "00000000-0000-4000-8000-000000000007"

def customerText : String := "00000000-0000-4000-8000-00000000000b"

def restaurantText : String := "00000000-0000-4000-8000-000000000015"

def headers : HttpHeaders where
  authorization := none
  idempotencyKey := []
  razorpaySignature := none
  restaurantId := none
  userId := none
  userRole := none
  userEmail := none

def verificationBody : Json :=
  .obj [("orderId", .str orderText), ("razorpayOrderId", .str "order_1"), ("razorpayPaymentId", .str "pay_1"),
    ("razorpaySignature", .str (signature "order_1" "pay_1"))]

def gatewayOrderBody (fields : List (String × Json)) : Json :=
  .obj ([("orderId", .str orderText), ("customerId", .str customerText), ("restaurantId", .str restaurantText),
    ("amountPaise", .num 50000)] ++ fields)

/-- The order service asks for a gateway order. -/
def gatewayOrderRequest (fields : List (String × Json)) : HttpRequest where
  method := .post
  path := ["api", "internal", "v1", "payments", "orders"]
  headers := { headers with authorization := some "Bearer order-service" }
  query := []
  rawBody := ""
  body := some (gatewayOrderBody fields)
  user := none
  locals := {}

/-- A customer looks at the status of the order. -/
def statusRequest (userId : String) : HttpRequest where
  method := .get
  path := ["orders", orderText, "status"]
  headers := { headers with userId := some userId, userRole := some "CUSTOMER" }
  query := []
  rawBody := ""
  body := none
  user := none
  locals := {}

/-- A customer brings a signed payment for the order. -/
def verificationRequest (userId : String) : HttpRequest where
  method := .post
  path := ["orders", "verify"]
  headers := { headers with userId := some userId, userRole := some "CUSTOMER" }
  query := []
  rawBody := verificationBody.stringify
  body := some verificationBody
  user := none
  locals := {}

end Sample

end SpotqPayment
