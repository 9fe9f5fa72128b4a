import SpotqPayment.Application.OrderPayment
import SpotqPayment.Presentation.Idempotency

/-! The refund route: the idempotency middleware, the controller behind it and the
error middleware, for a request that is served to its end before the next one. -/
namespace SpotqPayment

open Process

/-- What an error of the domain carries. -/
structure DomainError where
  message : String
  code : String

/-- The errors of Prisma and of the gateway client are no domain errors. -/
def ServiceError.domainError? : ServiceError → Option DomainError
  | .planNotFound => some { message := "Subscription plan not found", code := "PLAN_NOT_FOUND" }
  | .activeSubscriptionAlreadyExists =>
      some { message := "Restaurant already has an active subscription", code := "ACTIVE_SUBSCRIPTION_EXISTS" }
  | .paymentOrderNotFound => some { message := "Payment order not found", code := "PAYMENT_ORDER_NOT_FOUND" }
  | .orderPaymentNotFound =>
      some { message := "Payment order not found for this food order", code := "ORDER_PAYMENT_NOT_FOUND" }
  | .invalidPaymentSignature =>
      some { message := "Invalid payment signature provided", code := "INVALID_PAYMENT_SIGNATURE" }
  | .unauthorizedRestaurant =>
      some { message := "Unauthorized or missing restaurant identification", code := "UNAUTHORIZED_RESTAURANT" }
  | .customerUnauthorized => some { message := "Unauthorized customer access", code := "CUSTOMER_UNAUTHORIZED" }
  | .orderPaymentAlreadyCaptured =>
      some { message := "Order payment has already been captured", code := "PAYMENT_ALREADY_PROCESSED" }
  | .invalidPaymentStateTransition =>
      some { message := "Cannot capture a payment that has already failed", code := "INVALID_PAYMENT_STATE_TRANSITION" }
  | .paymentAlreadyRefunded =>
      some { message := "Payment transaction has already been refunded", code := "PAYMENT_ALREADY_REFUNDED" }
  | .cannotRefundUncapturedPayment =>
      some { message := "Cannot refund payment that is not captured", code := "CANNOT_REFUND_UNCAPTURED_PAYMENT" }
  | .refundAmountExceedsBalance =>
      some { message := "Requested refund amount exceeds refundable balance", code := "REFUND_AMOUNT_EXCEEDS_BALANCE" }
  | .refundAmountInvalid =>
      some { message := "Refund amount does not match transaction amount", code := "BAD_REQUEST" }
  | .paymentGatewayError => some { message := "Payment gateway refund request failed", code := "REFUND_GATEWAY_ERROR" }
  | .constraintViolation | .recordNotFound | .gatewayFailure | .databaseFailure => none

/-- `DOMAIN_ERROR_STATUS_MAP`. -/
def domainErrorStatusMap : List (String × Nat) :=
  [("PLAN_NOT_FOUND", 404), ("PAYMENT_ORDER_NOT_FOUND", 404), ("ORDER_PAYMENT_NOT_FOUND", 404),
    ("RESOURCE_NOT_FOUND", 404), ("NOT_FOUND", 404), ("SUBSCRIBER_NOT_FOUND", 404),
    ("TRANSACTION_NOT_FOUND", 404), ("ACTIVE_SUBSCRIPTION_EXISTS", 409), ("PAYMENT_ALREADY_PROCESSED", 409),
    ("INVALID_PAYMENT_STATE_TRANSITION", 409), ("CONFLICT", 409), ("UNAUTHORIZED_RESTAURANT", 401),
    ("UNAUTHORIZED", 401), ("CUSTOMER_UNAUTHORIZED", 403), ("FORBIDDEN", 403),
    ("INVALID_PAYMENT_SIGNATURE", 400), ("BAD_REQUEST", 400), ("PAYMENT_ALREADY_REFUNDED", 409),
    ("CANNOT_REFUND_UNCAPTURED_PAYMENT", 422), ("REFUND_AMOUNT_EXCEEDS_BALANCE", 400),
    ("REFUND_GATEWAY_ERROR", 502), ("GATEWAY_ERROR", 502)]

def getStatusCodeForDomainError (code : String) (fallback : Nat) : Nat :=
  (domainErrorStatusMap.lookup code).getD fallback

/-- `sendErrorResponse`, without details. -/
def sendErrorResponse (message error : String) (statusCode : Nat) (now : Instant) : HttpAnswer where
  statusCode := statusCode
  body := .obj [("success", .bool false), ("message", .str message), ("error", .str error),
    ("timestamp", .str (Calendar.toISOString now))]

def sendSuccessResponse (data : Json) (message : String) (statusCode : Nat) (now : Instant) : HttpAnswer where
  statusCode := statusCode
  body := .obj [("success", .bool true), ("message", .str message), ("data", data),
    ("timestamp", .str (Calendar.toISOString now))]

/-- The branch of `errorMiddleware` for the errors of the application. -/
def AppError.answer (error : AppError) (now : Instant) : HttpAnswer :=
  sendErrorResponse error.message error.code error.statusCode now

/-- Its branches for domain errors and, in production, for all other errors. -/
def ServiceError.answer (error : ServiceError) (now : Instant) : HttpAnswer :=
  match error.domainError? with
  | some domainError =>
      sendErrorResponse domainError.message domainError.code (getStatusCodeForDomainError domainError.code 400) now
  | none => sendErrorResponse "An unexpected error occurred" "INTERNAL_SERVER_ERROR" 500 now

def RefundStatus.text : RefundStatus → String
  | .pending => "PENDING"
  | .processed => "PROCESSED"
  | .failed => "FAILED"

def ProcessOrderRefundOutput.toJson (output : ProcessOrderRefundOutput) : Json :=
  .obj [("refundId", .str output.refundId), ("transactionId", .str (toString output.transactionId)),
    ("orderId", .str ((output.orderId.map toString).getD "")), ("amountPaise", .num output.amountPaise),
    ("currency", .str output.currency), ("status", .str output.status.text),
    ("processedAt", (output.processedAt.map fun processedAt => .str (Calendar.toISOString processedAt)).getD .null)]

/-- A refund request as the middleware receives it, with its environment. -/
structure RoutedRefund where
  header : List String
  input : ProcessOrderRefundInput
  env : Env

/-- The controller `processRefund`, or the error middleware in its place. -/
def processRefund (result : Except ServiceError ProcessOrderRefundOutput) (now : Instant) : HttpAnswer :=
  match result with
  | .ok output => sendSuccessResponse output.toJson "Refund processed successfully and reversal initiated" 200 now
  | .error error => error.answer now

/-- A request that has been answered, and the result of its use case if it came so far. -/
structure ServedRefund where
  request : RoutedRefund
  refund : Option (Except ServiceError ProcessOrderRefundOutput)
  answer : HttpAnswer

/-- The service behind the route, its cache, and the refund requests served so far,
oldest first. -/
structure RefundService where
  world : World
  redis : Redis
  served : List ServedRefund

/-- The use case behind the controller. -/
def RoutedRefund.execute (request : RoutedRefund) (world : World) :
    Except ServiceError ProcessOrderRefundOutput × World :=
  exec (Port.perform request.env) (processOrderRefund request.input request.env.now) world

/-- What the hooks do once the handler has answered: the answer is stored, the
response ends, and the lock is released. -/
def Hooks.settle (options : IdempotencyMiddlewareOptions) (hooks : Hooks) (answer : HttpAnswer) (redis : Redis) : Redis :=
  let written := (hooks.json answer).write options redis
  (written.2.releaseLockSafely.release written.1).1

/-- The turn of the handler. -/
def RefundService.handle (service : RefundService) (request : RoutedRefund) (hooks : Hooks) (redis : Redis) :
    RefundService :=
  let result := request.execute service.world
  let answer := processRefund result.1 request.env.now
  { world := result.2
    redis := hooks.settle refundIdempotency answer redis
    served := service.served ++ [{ request, refund := some result.1, answer }] }

/-- A request without a turn of the handler. -/
def RefundService.reply (service : RefundService) (request : RoutedRefund) (answer : HttpAnswer) (redis : Redis) :
    RefundService :=
  { service with redis, served := service.served ++ [{ request, refund := none, answer }] }

/-- One refund request from the middleware to its answer. -/
def RefundService.refund (service : RefundService) (request : RoutedRefund) : RefundService :=
  match exec (CacheCall.perform true) (idempotencyMiddleware refundIdempotency request.header) service.redis with
  | (.error error, redis) => service.reply request (error.answer request.env.now) redis
  | (.ok (.replay body), redis) => service.reply request { statusCode := 200, body } redis
  | (.ok (.next cacheKey lockKey), redis) => service.handle request (Hooks.installed cacheKey lockKey) redis

/-- The ends of the middleware: it refuses the request, it finds an answer, or it
calls the handler with the lock. -/
inductive MiddlewareEnds (header : List String) (redis : Redis) : Except AppError Passage × Redis → Prop
  | refused {error : AppError} (hStatus : error.statusCode ≠ 200) : MiddlewareEnds header redis (.error error, redis)
  | replay {key : String} {body : Json} (hKey : idempotencyKey header = some key)
      (hStored : storedAnswer key redis = some body) : MiddlewareEnds header redis (.ok (.replay body), redis)
  | next {key : String} (hKey : idempotencyKey header = some key) (entry : Expiring String) :
      MiddlewareEnds header redis (.ok (.next (refundIdempotency.cacheKey key) (refundIdempotency.lockKey key)),
        redis.put (refundIdempotency.lockKey key) entry)

section Middleware

variable {header : List String} {key : String} {redis : Redis} {body : Json}

/-- With a key the middleware reads the cache and goes on from what it finds. -/
theorem exec_afterRead (hKey : idempotencyKey header = some key) :
    exec (CacheCall.perform true) (idempotencyMiddleware refundIdempotency header) redis =
      exec (CacheCall.perform true) (refundIdempotency.afterRead key (storedAnswer key redis)) redis := by
  unfold idempotencyMiddleware
  rw [hKey]
  simp only
  rw [IdempotencyMiddlewareOptions.readCache_eq]
  rfl

theorem exec_stored (hKey : idempotencyKey header = some key) (hStored : storedAnswer key redis = some body) :
    exec (CacheCall.perform true) (idempotencyMiddleware refundIdempotency header) redis =
      (.ok (.replay body), redis) := by
  rw [exec_afterRead hKey, hStored]
  rfl

/-- Without an answer the lock decides. -/
theorem exec_unstored (hKey : idempotencyKey header = some key) (hNone : storedAnswer key redis = none) :
    exec (CacheCall.perform true) (idempotencyMiddleware refundIdempotency header) redis =
      let result := RedisService.acquireLock true redis (refundIdempotency.lockKey key) refundIdempotency.lockTtlSeconds
      exec (CacheCall.perform true) (if result.1 = false then
        throw (conflictError "A conflict occurred with the current state of the resource")
        else return .next (refundIdempotency.cacheKey key) (refundIdempotency.lockKey key)) result.2 := by
  rw [exec_afterRead hKey, hNone]
  rfl

theorem exec_free (hKey : idempotencyKey header = some key) (hNone : storedAnswer key redis = none)
    (hFree : redis.find? (refundIdempotency.lockKey key) = none) :
    exec (CacheCall.perform true) (idempotencyMiddleware refundIdempotency header) redis =
      (.ok (.next (refundIdempotency.cacheKey key) (refundIdempotency.lockKey key)),
        redis.put (refundIdempotency.lockKey key)
          { value := "locked", expiresAt := some (redis.expiry refundIdempotency.lockTtlSeconds) }) := by
  have hTtl : refundIdempotency.lockTtlSeconds ≠ 0 := by decide
  rw [exec_unstored hKey hNone, RedisService.acquireLock_free hTtl hFree]
  rfl

theorem exec_taken (hKey : idempotencyKey header = some key) (hNone : storedAnswer key redis = none)
    (hTaken : redis.find? (refundIdempotency.lockKey key) ≠ none) :
    exec (CacheCall.perform true) (idempotencyMiddleware refundIdempotency header) redis =
      (.error (conflictError "A conflict occurred with the current state of the resource"), redis) := by
  have hTtl : refundIdempotency.lockTtlSeconds ≠ 0 := by decide
  rw [exec_unstored hKey hNone, RedisService.acquireLock_taken hTtl hTaken]
  rfl

theorem idempotencyMiddleware_ends (header : List String) (redis : Redis) :
    MiddlewareEnds header redis
      (exec (CacheCall.perform true) (idempotencyMiddleware refundIdempotency header) redis) := by
  cases hKey : idempotencyKey header with
  | none =>
      unfold idempotencyMiddleware
      rw [hKey]
      exact .refused (by decide)
  | some key =>
      cases hStored : storedAnswer key redis with
      | some body =>
          rw [exec_stored hKey hStored]
          exact .replay hKey hStored
      | none =>
          by_cases hFree : redis.find? (refundIdempotency.lockKey key) = none
          · rw [exec_free hKey hStored hFree]
            exact .next hKey _
          · rw [exec_taken hKey hStored hFree]
            exact .refused (by decide)

end Middleware

/-- No code stands for success. -/
theorem getStatusCodeForDomainError_ge (code : String) {fallback : Nat} (hFallback : 400 ≤ fallback) :
    400 ≤ getStatusCodeForDomainError code fallback := by
  have hAll : ∀ entry ∈ domainErrorStatusMap, 400 ≤ entry.2 := by decide
  unfold getStatusCodeForDomainError
  cases hFound : domainErrorStatusMap.lookup code with
  | none => exact hFallback
  | some statusCode =>
      obtain ⟨before, after, hSplit, _⟩ := List.lookup_eq_some_iff.mp hFound
      exact hAll (code, statusCode) (hSplit ▸ List.mem_append_right _ List.mem_cons_self)

/-- An error is never answered with success. -/
theorem ServiceError.answer_statusCode (error : ServiceError) (now : Instant) : 400 ≤ (error.answer now).statusCode := by
  unfold ServiceError.answer
  split
  · exact getStatusCodeForDomainError_ge _ le_rfl
  · exact (by decide : 400 ≤ 500)

theorem processRefund_successful {result : Except ServiceError ProcessOrderRefundOutput} {now : Instant}
    (h : (processRefund result now).Successful) : ∃ output, result = .ok output := by
  cases result with
  | ok output => exact ⟨output, rfl⟩
  | error error => exact absurd h.2 (not_lt.mpr (error.answer_statusCode now))

section Settle

variable {answer : HttpAnswer} {cacheKey lockKey key other : String} {redis : Redis}

theorem settle_of_successful (h : answer.Successful) :
    (Hooks.installed cacheKey lockKey).settle refundIdempotency answer redis =
      (RedisService.set true redis cacheKey answer.body.stringify (some refundIdempotency.ttlSeconds)).delete lockKey := by
  unfold Hooks.settle Hooks.json Hooks.installed
  rw [if_pos h]
  rfl

theorem settle_of_failure (h : ¬ answer.Successful) :
    (Hooks.installed cacheKey lockKey).settle refundIdempotency answer redis = redis.delete lockKey := by
  unfold Hooks.settle Hooks.json Hooks.installed
  rw [if_neg h]
  rfl

/-- A successful answer is stored under the key of the request and under no other. -/
theorem storedAnswer_settle :
    storedAnswer other ((Hooks.installed (refundIdempotency.cacheKey key) (refundIdempotency.lockKey key)).settle
      refundIdempotency answer redis) =
        if answer.Successful ∧ other = key then some answer.body else storedAnswer other redis := by
  by_cases hSuccess : answer.Successful
  · rw [settle_of_successful hSuccess, storedAnswer_delete_lock]
    by_cases hOther : other = key
    · rw [hOther, storedAnswer_set_self, if_pos ⟨hSuccess, rfl⟩]
    · rw [storedAnswer_set_other hOther, if_neg fun h => hOther h.2]
  · rw [settle_of_failure hSuccess, storedAnswer_delete_lock, if_neg fun h => hSuccess h.1]

end Settle

section Replay

variable {service : RefundService} {request first second : RoutedRefund} {key : String} {body : Json}

theorem refund_stored (hKey : idempotencyKey request.header = some key)
    (hStored : storedAnswer key service.redis = some body) :
    service.refund request = service.reply request { statusCode := 200, body } service.redis := by
  unfold RefundService.refund
  rw [exec_stored hKey hStored]

theorem refund_free (hKey : idempotencyKey request.header = some key) (hNone : storedAnswer key service.redis = none)
    (hFree : service.redis.find? (refundIdempotency.lockKey key) = none) :
    service.refund request =
      service.handle request (Hooks.installed (refundIdempotency.cacheKey key) (refundIdempotency.lockKey key))
        (service.redis.put (refundIdempotency.lockKey key)
          { value := "locked", expiresAt := some (service.redis.expiry refundIdempotency.lockTtlSeconds) }) := by
  unfold RefundService.refund
  rw [exec_free hKey hNone hFree]

/-- Whatever the second request asks for, it receives the answer of the first. -/
theorem refund_replayed (hFirst : idempotencyKey first.header = some key) (hSecond : idempotencyKey second.header = some key)
    (hNone : storedAnswer key service.redis = none)
    (hFree : service.redis.find? (refundIdempotency.lockKey key) = none)
    (hSuccess : (processRefund (first.execute service.world).1 first.env.now).Successful) :
    (service.refund first).refund second = (service.refund first).reply second {
      statusCode := 200
      body := (processRefund (first.execute service.world).1 first.env.now).body } (service.refund first).redis := by
  refine refund_stored hSecond ?_
  rw [refund_free hFirst hNone hFree]
  exact storedAnswer_settle.trans (if_pos ⟨hSuccess, rfl⟩)

end Replay

end SpotqPayment
