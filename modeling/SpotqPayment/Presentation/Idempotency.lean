import SpotqPayment.Library.Json
import SpotqPayment.Library.Process
import SpotqPayment.Domain.Entities
import SpotqPayment.Infrastructure.Redis

/-! The idempotency middleware of the refund route. Up to the call of the next
handler it is a process over the cache; from then on its hooks react to the answer
of the handler and to the end of the response. -/
namespace SpotqPayment

open Process

structure AppError where
  message : String
  statusCode : Nat
  code : String
  deriving DecidableEq, Repr

def badRequestError (message : String) : AppError where
  message := message
  statusCode := 400
  code := "BAD_REQUEST"

def conflictError (message : String) : AppError where
  message := message
  statusCode := 409
  code := "CONFLICT"

/-- The first value of a header, which may come several times or not at all. -/
def getHeaderValue (header : List String) : Option String := header.head?

/-- `rawKey?.trim()`, as far as it is true. -/
def idempotencyKey (header : List String) : Option String := truthy ((getHeaderValue header).map trim)

structure IdempotencyMiddlewareOptions where
  hasCacheService : Bool
  keyPrefix : String
  lockPrefix : String
  ttlSeconds : Nat
  lockTtlSeconds : Nat

/-- The options of the refund route, which are the defaults too. -/
def refundIdempotency : IdempotencyMiddlewareOptions where
  hasCacheService := true
  keyPrefix := "idempotency:refund:"
  lockPrefix := "lock:refund:"
  ttlSeconds := 86400
  lockTtlSeconds := 15

/-- What the middleware awaits before it calls the next handler. -/
inductive CacheCall where
  | get (key : String)
  | acquireLock (key : String) (ttlSeconds : Nat)

@[reducible] def CacheCall.Answer : CacheCall → Type
  | .get _ => Option String
  | .acquireLock _ _ => Bool

/-- The end of the middleware: the stored answer, or the next handler with the
hooks for these keys. -/
inductive Passage where
  | replay (body : Json)
  | next (cacheKey lockKey : String)

abbrev Middleware := Process AppError CacheCall.Answer Passage

namespace IdempotencyMiddlewareOptions

def cacheKey (options : IdempotencyMiddlewareOptions) (idempotencyKey : String) : String :=
  options.keyPrefix ++ idempotencyKey

def lockKey (options : IdempotencyMiddlewareOptions) (idempotencyKey : String) : String :=
  options.lockPrefix ++ idempotencyKey

/-- The part of the middleware that takes the lock. -/
def takeLock (options : IdempotencyMiddlewareOptions) (idempotencyKey : String) : Middleware := do
  let acquired ← call (CacheCall.acquireLock (options.lockKey idempotencyKey) options.lockTtlSeconds)
  if acquired = false then throw (conflictError "A conflict occurred with the current state of the resource")
  else return .next (options.cacheKey idempotencyKey) (options.lockKey idempotencyKey)

/-- The part that looks for a stored answer, ignoring one that cannot be parsed. -/
def readCache (options : IdempotencyMiddlewareOptions) (idempotencyKey : String) : Middleware := do
  let cached ← call (CacheCall.get (options.cacheKey idempotencyKey))
  match (truthy cached).bind Json.parse with
  | some body => return .replay body
  | none => options.takeLock idempotencyKey

/-- How a request goes on with what the cache held. -/
def afterRead (options : IdempotencyMiddlewareOptions) (idempotencyKey : String) : Option Json → Middleware
  | some body => .ret (.replay body)
  | none => options.takeLock idempotencyKey

theorem readCache_eq (options : IdempotencyMiddlewareOptions) (idempotencyKey : String) :
    options.readCache idempotencyKey = (do
      let cached ← call (CacheCall.get (options.cacheKey idempotencyKey))
      options.afterRead idempotencyKey ((truthy cached).bind Json.parse)) := by
  unfold readCache
  congr 1

end IdempotencyMiddlewareOptions

/-- `idempotencyMiddleware`, for a request with these values of the header. -/
def idempotencyMiddleware (options : IdempotencyMiddlewareOptions) (header : List String) : Middleware :=
  match idempotencyKey header with
  | none => throw (badRequestError "Idempotency-Key header is required")
  | some key =>
    if options.hasCacheService = false then
      throw {
        message := "CacheService must be configured for idempotencyMiddleware"
        statusCode := 500
        code := "INTERNAL_SERVER_ERROR" }
    else options.readCache key

/-- The answer of the cache service over Redis. -/
def CacheCall.perform (reachable : Bool) :
    (cacheCall : CacheCall) → Redis → Except AppError cacheCall.Answer × Redis
  | .get key, redis => (.ok (RedisService.get reachable redis key), redis)
  | .acquireLock key ttlSeconds, redis =>
      let result := RedisService.acquireLock reachable redis key ttlSeconds
      (.ok result.1, result.2)

structure HttpAnswer where
  statusCode : Nat
  body : Json
  deriving DecidableEq

/-- A status from 200 to 399, with which `res.json` stores the body. -/
def HttpAnswer.Successful (answer : HttpAnswer) : Prop := 200 ≤ answer.statusCode ∧ answer.statusCode < 400

instance (answer : HttpAnswer) : Decidable answer.Successful :=
  inferInstanceAs (Decidable (200 ≤ answer.statusCode ∧ answer.statusCode < 400))

/-- What a client is sent: the body of `res.json`, or the text of `res.end`,
`res.redirect` and whatever else a handler can answer with. -/
inductive SentBody where
  | json (body : Json)
  | text (body : String)
  deriving DecidableEq

def SentBody.isText : SentBody → Bool
  | .json _ => false
  | .text _ => true

structure SentAnswer where
  statusCode : Nat
  body : SentBody
  deriving DecidableEq

def SentAnswer.Successful (answer : SentAnswer) : Prop := 200 ≤ answer.statusCode ∧ answer.statusCode < 400

instance (answer : SentAnswer) : Decidable answer.Successful :=
  inferInstanceAs (Decidable (200 ≤ answer.statusCode ∧ answer.statusCode < 400))

def HttpAnswer.sent (answer : HttpAnswer) : SentAnswer where
  statusCode := answer.statusCode
  body := .json answer.body

/-- A request behind the middleware: what the handler has answered, the cache writes
and the release that are under way, and the flag of `releaseLockSafely`. -/
structure Hooks where
  cacheKey : String
  lockKey : String
  answer : Option SentAnswer
  writing : List Json
  lockReleased : Bool
  releasing : Bool

def Hooks.installed (cacheKey lockKey : String) : Hooks where
  cacheKey := cacheKey
  lockKey := lockKey
  answer := none
  writing := []
  lockReleased := false
  releasing := false

/-- The patched `res.json`: it starts the cache write and does not wait for it. Once
the handler has answered, Express sends nothing more, but the write is started. -/
def Hooks.json (hooks : Hooks) (answer : HttpAnswer) : Hooks :=
  { hooks with
    answer := hooks.answer.or (some answer.sent)
    writing := if answer.Successful then hooks.writing ++ [answer.body] else hooks.writing }

/-- An answer that does not go through `res.json`, which nothing here patches. -/
def Hooks.send (hooks : Hooks) (statusCode : Nat) (text : String) : Hooks :=
  { hooks with answer := hooks.answer.or (some { statusCode, body := .text text }) }

/-- `releaseLockSafely`, the listener of `finish` and of `close`. -/
def Hooks.releaseLockSafely (hooks : Hooks) : Hooks :=
  if hooks.lockReleased then hooks else { hooks with lockReleased := true, releasing := true }

/-- Redis executes the oldest cache write that is under way. -/
def Hooks.write (options : IdempotencyMiddlewareOptions) (hooks : Hooks) (redis : Redis) : Redis × Hooks :=
  match hooks.writing with
  | body :: later =>
      (RedisService.set true redis hooks.cacheKey body.stringify (some options.ttlSeconds),
        { hooks with writing := later })
  | [] => (redis, hooks)

/-- Redis executes the release that is under way. -/
def Hooks.release (hooks : Hooks) (redis : Redis) : Redis × Hooks :=
  if hooks.releasing then
    (RedisService.releaseLock true redis hooks.lockKey, { hooks with releasing := false })
  else (redis, hooks)

/-- One request, before and after the call of the next handler. -/
inductive Exchange where
  | passing (middleware : Middleware)
  | handling (hooks : Hooks)

def Exchange.ofMiddleware : Middleware → Exchange
  | .ret (.next cacheKey lockKey) => .handling (Hooks.installed cacheKey lockKey)
  | middleware => .passing middleware

def Exchange.start (options : IdempotencyMiddlewareOptions) (header : List String) : Exchange :=
  .ofMiddleware (idempotencyMiddleware options header)

/-- What happens next to a request: the middleware goes on, the handler calls
`res.json` or answers in another way, Redis executes a write, the response finishes
or its connection closes, Redis executes the release. -/
inductive ExchangeStep where
  | proceed
  | json (answer : HttpAnswer)
  | send (statusCode : Nat) (text : String)
  | write
  | close
  | release

/-- The effect of a step, with Redis reachable. A step that is not due has none. -/
def Exchange.step (options : IdempotencyMiddlewareOptions) (step : ExchangeStep) (exchange : Exchange)
    (redis : Redis) : Redis × Exchange :=
  match step, exchange with
  | .proceed, .passing middleware =>
      let result := middleware.advance (CacheCall.perform true) redis
      (result.1, .ofMiddleware result.2)
  | .json answer, .handling hooks => (redis, .handling (hooks.json answer))
  | .send statusCode text, .handling hooks => (redis, .handling (hooks.send statusCode text))
  | .write, .handling hooks =>
      let result := hooks.write options redis
      (result.1, .handling result.2)
  | .close, .handling hooks => (redis, .handling hooks.releaseLockSafely)
  | .release, .handling hooks =>
      let result := hooks.release redis
      (result.1, .handling result.2)
  | _, exchange => (redis, exchange)

/-- The answer that the middleware would send from the cache. -/
def storedAnswer (key : String) (redis : Redis) : Option Json :=
  (truthy (redis.get? (refundIdempotency.cacheKey key))).bind Json.parse

section StoredAnswer

variable {key other : String} {redis : Redis}

theorem IdempotencyMiddlewareOptions.cacheKey_inj {options : IdempotencyMiddlewareOptions} :
    options.cacheKey key = options.cacheKey other ↔ key = other :=
  String.append_right_inj options.keyPrefix

/-- The keys of the cache and of the locks are apart. -/
theorem cacheKey_ne_lockKey (key other : String) : refundIdempotency.cacheKey key ≠ refundIdempotency.lockKey other := by
  intro hSame
  have hList := congrArg String.toList hSame
  simp [IdempotencyMiddlewareOptions.cacheKey, IdempotencyMiddlewareOptions.lockKey, refundIdempotency] at hList

/-- What is done to a lock does not change a stored answer. -/
theorem storedAnswer_put_lock (entry : Expiring String) :
    storedAnswer key (redis.put (refundIdempotency.lockKey other) entry) = storedAnswer key redis := by
  unfold storedAnswer ExpiringStore.get?
  rw [ExpiringStore.find?_put_other (cacheKey_ne_lockKey key other)]

theorem storedAnswer_delete_lock :
    storedAnswer key (redis.delete (refundIdempotency.lockKey other)) = storedAnswer key redis := by
  unfold storedAnswer ExpiringStore.get?
  rw [ExpiringStore.find?_delete_other (cacheKey_ne_lockKey key other)]

/-- An answer that has been written is found. -/
theorem storedAnswer_set_self (body : Json) :
    storedAnswer key (RedisService.set true redis (refundIdempotency.cacheKey key) body.stringify
      (some refundIdempotency.ttlSeconds)) = some body := by
  have hFound : (RedisService.set true redis (refundIdempotency.cacheKey key) body.stringify
      (some refundIdempotency.ttlSeconds)).find? (refundIdempotency.cacheKey key) =
        some { value := body.stringify, expiresAt := some (redis.expiry refundIdempotency.ttlSeconds) } := by
    refine ExpiringStore.find?_put_self fun expiry hExpiry => ?_
    cases hExpiry
    show redis.now < redis.now + 1000 * (86400 : Nat)
    omega
  have hTrue : truthy (some body.stringify) = some body.stringify := by
    simp [truthy, Option.filter_some, Json.stringify_ne_empty]
  unfold storedAnswer ExpiringStore.get?
  rw [hFound, Option.map_some, hTrue, Option.bind_some, Json.parse_stringify]

theorem storedAnswer_set_other (hOther : key ≠ other) (value : String) :
    storedAnswer key (RedisService.set true redis (refundIdempotency.cacheKey other) value
      (some refundIdempotency.ttlSeconds)) = storedAnswer key redis := by
  have hKey : refundIdempotency.cacheKey key ≠ refundIdempotency.cacheKey other :=
    fun hSame => hOther (IdempotencyMiddlewareOptions.cacheKey_inj.mp hSame)
  have hSet : RedisService.set true redis (refundIdempotency.cacheKey other) value
      (some refundIdempotency.ttlSeconds) = redis.put (refundIdempotency.cacheKey other)
        { value, expiresAt := some (redis.expiry refundIdempotency.ttlSeconds) } := rfl
  unfold storedAnswer ExpiringStore.get?
  rw [hSet, ExpiringStore.find?_put_other hKey]

/-- Time brings no answer back. -/
theorem storedAnswer_elapse {milliseconds : Nat} {body : Json}
    (h : storedAnswer key (redis.elapse milliseconds) = some body) : storedAnswer key redis = some body := by
  unfold storedAnswer ExpiringStore.get? at h ⊢
  cases hFound : (redis.elapse milliseconds).find? (refundIdempotency.cacheKey key) with
  | none =>
      rw [hFound] at h
      cases h
  | some entry =>
      rw [ExpiringStore.find?_elapse hFound, ← hFound]
      exact h

end StoredAnswer

end SpotqPayment
