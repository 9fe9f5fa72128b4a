import Mathlib.Data.List.Sort
import SpotqPayment.Library.Process
import SpotqPayment.Domain.Entities
import SpotqPayment.Infrastructure.Redis

/-! The relay that hands pending outbox events to the message brokers, with the
messages it builds from their payloads. Every await of the relay is an operation
of its port. -/
namespace SpotqPayment

open Process

/-- The value of one field of a message. -/
inductive FieldValue where
  | null
  | uuid (id : Uuid)
  | text (value : String)
  | number (value : Int)
  | instant (value : Instant)
  | json (value : JsonValue)
  deriving DecidableEq, Repr

abbrev Fields := List (String × FieldValue)

/-- `{ ...base, ...extra }`. -/
def Fields.spread (base extra : Fields) : Fields :=
  base.map (fun field => (field.1, (extra.lookup field.1).getD field.2)) ++
    extra.filter fun field => (base.lookup field.1).isNone

def SubscriptionStatus.name : SubscriptionStatus → String
  | .pending => "PENDING"
  | .active => "ACTIVE"
  | .expired => "EXPIRED"
  | .cancelled => "CANCELLED"
  | .pastDue => "PAST_DUE"

/-- The payload as the object that is stored. A field without a value is null,
except for the method of a payment, which only a webhook names, and for the
subscription, which the activation adds. -/
def OutboxPayload.fields : OutboxPayload → Fields
  | .orderCaptured paymentId orderId customerId restaurantId amountPaise currency gatewayPaymentId method
      timestamp =>
      [("paymentId", .uuid paymentId), ("orderId", .uuid orderId),
        ("customerId", customerId.elim .null .uuid), ("restaurantId", .uuid restaurantId),
        ("amountPaise", .number amountPaise), ("currency", .text currency),
        ("gatewayPaymentId", gatewayPaymentId.elim .null .text)] ++
      method.toList.map (fun value => ("method", .json value)) ++ [("timestamp", .instant timestamp)]
  | .orderFailed paymentId orderId customerId restaurantId amountPaise currency failureReason timestamp =>
      [("paymentId", .uuid paymentId), ("orderId", .uuid orderId),
        ("customerId", customerId.elim .null .uuid), ("restaurantId", .uuid restaurantId),
        ("amountPaise", .number amountPaise), ("currency", .text currency),
        ("failureReason", .text failureReason), ("timestamp", .instant timestamp)]
  | .subscriptionActivated restaurantId planCode status currentPeriodStart currentPeriodEnd timestamp
      subscriptionId =>
      [("restaurantId", .uuid restaurantId), ("planCode", .text planCode), ("status", .text status.name),
        ("currentPeriodStart", .instant currentPeriodStart), ("currentPeriodEnd", .instant currentPeriodEnd),
        ("timestamp", .instant timestamp)] ++
      subscriptionId.toList.map fun id => ("subscriptionId", .uuid id)
  | .subscriptionExpired subscriptionId restaurantId planCode status expiredAt currentPeriodEnd timestamp =>
      [("subscriptionId", .uuid subscriptionId), ("restaurantId", .uuid restaurantId),
        ("planCode", .text planCode), ("status", .text status.name), ("expiredAt", .instant expiredAt),
        ("currentPeriodEnd", .instant currentPeriodEnd), ("timestamp", .instant timestamp)]

def EventType.name : EventType → String
  | .subscriptionActivated => "subscription.activated"
  | .subscriptionExpired => "subscription.expired"
  | .orderCaptured => "payment.order.captured"
  | .orderFailed => "payment.order.failed"
  | .other name => name

/-- A job name of the BullMQ queue of subscription events, or a queue of RabbitMQ. -/
inductive Broker where
  | bullMQ (job : String)
  | rabbitMQ (queue : String)
  deriving DecidableEq, Repr

def orderEventsQueue : String := "order-events"

/-- `{ ...payload, eventId: event.id }`. -/
def OutboxEvent.jobPayload (event : OutboxEvent) : Fields :=
  Fields.spread event.payload.fields [("eventId", .uuid event.id)]

/-- The message to the order queue, with the payload spread over the envelope. -/
def OutboxEvent.orderMessage (event : OutboxEvent) : Fields :=
  Fields.spread
    [("eventId", .uuid event.id), ("eventType", .text event.eventType.name),
      ("aggregateId", .uuid event.aggregateId)] event.payload.fields

/-- What the catch clause of the relay can get hold of. -/
inductive RelayError where
  | error (message : String)
  | unknown
  deriving DecidableEq, Repr

def RelayError.message : RelayError → String
  | .error message => message
  | .unknown => "Unknown outbox publishing error"

/-- The relay of one replica; RabbitMQ is an optional dependency. -/
structure OutboxRelayService where
  replica : Nat
  hasRabbitMQ : Bool

/-- What the relay awaits, and its accesses to the flag of its replica. A message
comes with the row it is sent for. -/
inductive RelayPort where
  | isProcessing (replica : Nat)
  | setProcessing (replica : Nat) (value : Bool)
  | acquireLock (key : String) (ttlSeconds : Nat)
  | releaseLock (key : String)
  | findPendingEvents (limit : Nat)
  | addJob (event : Uuid) (job : String) (payload : Fields)
  | publishToQueue (event : Uuid) (queue : String) (message : Fields)
  | markPublished (id : Uuid)
  | findRetryCount (id : Uuid)
  | updateFailure (id : Uuid) (retryCount : Nat) (lastError : String) (status : OutboxStatus)
  | replayDeadLetter (id : Uuid)

@[reducible] def RelayPort.Answer : RelayPort → Type
  | .isProcessing _ => Bool
  | .setProcessing _ _ => Unit
  | .acquireLock _ _ => Bool
  | .releaseLock _ => Unit
  | .findPendingEvents _ => List OutboxEvent
  | .addJob _ _ _ => Unit
  | .publishToQueue _ _ _ => Bool
  | .markPublished _ => Unit
  | .findRetryCount _ => Option Nat
  | .updateFailure _ _ _ _ => Unit
  | .replayDeadLetter _ => OutboxEvent

abbrev Relay (Value : Type) := Process RelayError RelayPort.Answer Value

def maxOutboxRetries : Nat := 5

def relayLockKey : String := "lock:outbox-relay"

def relayLockTtlSeconds : Nat := 10

def relayBatchSize : Nat := 20

/-- `PrismaOutboxRepository.recordFailure`, two statements without a transaction. -/
def recordFailure (id : Uuid) (error : String) (maxRetries : Nat) : Relay (Bool × Nat) := do
  let current ← call (RelayPort.findRetryCount id)
  let nextRetryCount := current.getD 0 + 1
  let isDeadLetter := maxRetries ≤ nextRetryCount
  call (RelayPort.updateFailure id nextRetryCount error (if isDeadLetter then .failed else .pending))
  return (isDeadLetter, nextRetryCount)

/-- `SubscriptionEventProducer.publishSubscriptionActivated`, which rethrows errors. -/
def publishSubscriptionActivated (event : Uuid) (payload : Fields) : Relay Unit :=
  call (RelayPort.addJob event "subscription.activated" payload)

/-- `SubscriptionEventProducer.publishSubscriptionExpired`. -/
def publishSubscriptionExpired (event : Uuid) (payload : Fields) : Relay Unit :=
  call (RelayPort.addJob event "subscription.expired" payload)

/-- The dispatch on the type of an event. An unknown type is only logged. -/
def OutboxRelayService.publish (service : OutboxRelayService) (event : OutboxEvent) : Relay Unit := do
  match event.eventType with
  | .subscriptionActivated => publishSubscriptionActivated event.id event.jobPayload
  | .subscriptionExpired => publishSubscriptionExpired event.id event.jobPayload
  | .orderCaptured | .orderFailed =>
    if service.hasRabbitMQ = false then
      throw (.error ("RabbitMQService is not configured to relay order event '" ++ event.eventType.name ++ "'"))
    else
      let published ← call (RelayPort.publishToQueue event.id orderEventsQueue event.orderMessage)
      if published = false then
        throw (.error ("Failed to publish event '" ++ event.eventType.name ++ "' to RabbitMQ queue '" ++
          orderEventsQueue ++ "'"))
      else return ()
  | .other _ => return ()

/-- One turn of the loop; an error of the failure report itself ends the loop. -/
def OutboxRelayService.relayEvent (service : OutboxRelayService) (event : OutboxEvent) : Relay Unit :=
  tryCatch
    (do
      service.publish event
      call (RelayPort.markPublished event.id))
    fun err => do
      let _ ← recordFailure event.id err.message maxOutboxRetries
      return ()

def OutboxRelayService.relayEvents (service : OutboxRelayService) : List OutboxEvent → Relay Unit
  | [] => return ()
  | event :: rest => do
    service.relayEvent event
    service.relayEvents rest

/-- `OutboxRelayService.processPendingEvents`. -/
def OutboxRelayService.processPendingEvents (service : OutboxRelayService) : Relay Unit := do
  if ← call (RelayPort.isProcessing service.replica) then return ()
  else if ← call (RelayPort.acquireLock relayLockKey relayLockTtlSeconds) then
    call (RelayPort.setProcessing service.replica true)
    tryFinally
      (do
        let pendingEvents ← call (RelayPort.findPendingEvents relayBatchSize)
        service.relayEvents pendingEvents)
      (do
        call (RelayPort.setProcessing service.replica false)
        call (RelayPort.releaseLock relayLockKey))
  else return ()

/-- `OutboxRelayService.replayDeadLetterEvent`. -/
def replayDeadLetterEvent (id : Uuid) : Relay Unit := do
  let _ ← call (RelayPort.replayDeadLetter id)
  return ()

/-- A message that the relay has handed to a broker for a row. -/
structure BrokerDelivery where
  event : Uuid
  broker : Broker
  message : Fields
  accepted : Bool
  deriving DecidableEq

/-- What the relays share: the outbox table, the brokers, Redis and the replicas
whose flag is set. -/
structure RelayWorld where
  outbox : Table OutboxEvent
  deliveries : List BrokerDelivery
  redis : Redis
  processing : List Nat

/-- What the environment contributes to one operation: the clock, the order of
rows of one instant, the error with which the operation fails, whether it takes
effect all the same, and the answer of RabbitMQ. -/
structure RelayTurn where
  now : Instant
  tie : Uuid → Nat
  redisReachable : Bool
  failure : Option RelayError
  takesEffect : Bool
  confirmed : Bool

/-- The first pending events, by their creation. -/
def pendingEvents (outbox : Table OutboxEvent) (tie : Uuid → Nat) (limit : Nat) : List OutboxEvent :=
  ((outbox.rows.filter fun event => event.status = .pending).insertionSort fun first second =>
    first.createdAt < second.createdAt ∨
      (first.createdAt = second.createdAt ∧ tie first.id ≤ tie second.id)).take limit

theorem pending_of_pendingEvents {outbox : Table OutboxEvent} {tie : Uuid → Nat} {limit : Nat} {event : OutboxEvent}
    (h : event ∈ pendingEvents outbox tie limit) : event ∈ outbox.rows ∧ event.status = .pending := by
  have hSorted := List.mem_of_mem_take h
  rw [List.mem_insertionSort, List.mem_filter, decide_eq_true_iff] at hSorted
  exact hSorted

def markedPublished (now : Instant) (event : OutboxEvent) : OutboxEvent :=
  { event with status := .published, publishedAt := some now }

def failureRecorded (retryCount : Nat) (lastError : String) (status : OutboxStatus) (event : OutboxEvent) :
    OutboxEvent :=
  { event with retryCount := retryCount, lastError := some lastError, status := status }

def replayed (event : OutboxEvent) : OutboxEvent :=
  { event with status := .pending, retryCount := 0, lastError := none }

namespace RelayWorld

/-- The outbox after an update of one row, and the updated row. -/
def update (world : RelayWorld) (id : Uuid) (data : OutboxEvent → OutboxEvent) :
    Option (OutboxEvent × RelayWorld) :=
  (world.outbox.get? id).bind fun event =>
    (world.outbox.put (data event)).map fun table => (data event, { world with outbox := table })

/-- An update by id, which fails when there is no such row. -/
def performUpdate (world : RelayWorld) (turn : RelayTurn) (id : Uuid) (data : OutboxEvent → OutboxEvent) :
    Except RelayError OutboxEvent × RelayWorld :=
  match world.update id data, turn.failure with
  | none, failure => (.error (failure.getD (.error "Record to update not found")), world)
  | some (event, after), none => (.ok event, after)
  | some (_, after), some error => (.error error, if turn.takesEffect then after else world)

/-- A message that goes to a broker, or gets lost on the way. -/
def send (world : RelayWorld) (turn : RelayTurn) (delivery : BrokerDelivery) : RelayWorld :=
  if turn.failure.isSome && !turn.takesEffect then world
  else { world with deliveries := world.deliveries ++ [delivery] }

end RelayWorld

/-- The answer and the effect of one operation of the relay. -/
def RelayPort.perform (turn : RelayTurn) :
    (port : RelayPort) → RelayWorld → Except RelayError port.Answer × RelayWorld
  | .isProcessing replica, world => (.ok (world.processing.contains replica), world)
  | .setProcessing replica value, world =>
      (.ok (), { world with
        processing := if value then replica :: world.processing else world.processing.filter (· ≠ replica) })
  | .acquireLock key ttlSeconds, world =>
      let result := RedisService.acquireLock turn.redisReachable world.redis key ttlSeconds
      (.ok result.1, { world with redis := result.2 })
  | .releaseLock key, world =>
      (.ok (), { world with redis := RedisService.releaseLock turn.redisReachable world.redis key })
  | .findPendingEvents limit, world =>
      (match turn.failure with
        | none => .ok (pendingEvents world.outbox turn.tie limit)
        | some error => .error error, world)
  | .addJob event job payload, world =>
      (match turn.failure with
        | none => .ok ()
        | some error => .error error,
        world.send turn { event, broker := .bullMQ job, message := payload, accepted := turn.failure.isNone })
  | .publishToQueue event queue message, world =>
      (match turn.failure with
        | none => .ok turn.confirmed
        | some error => .error error,
        world.send turn { event, broker := .rabbitMQ queue, message := message
                          accepted := turn.failure.isNone && turn.confirmed })
  | .markPublished id, world =>
      let result := world.performUpdate turn id (markedPublished turn.now)
      (result.1.map fun _ => (), result.2)
  | .findRetryCount id, world =>
      (match turn.failure with
        | none => .ok ((world.outbox.get? id).map (·.retryCount))
        | some error => .error error, world)
  | .updateFailure id retryCount lastError status, world =>
      let result := world.performUpdate turn id (failureRecorded retryCount lastError status)
      (result.1.map fun _ => (), result.2)
  | .replayDeadLetter id, world => world.performUpdate turn id replayed

/-- The row that an operation updates, and how. -/
def RelayPort.update? (turn : RelayTurn) : RelayPort → Option (Uuid × (OutboxEvent → OutboxEvent))
  | .markPublished id => some (id, markedPublished turn.now)
  | .updateFailure id retryCount lastError status => some (id, failureRecorded retryCount lastError status)
  | .replayDeadLetter id => some (id, replayed)
  | _ => none

variable {turn : RelayTurn} {world : RelayWorld}

theorem RelayWorld.update_eq_some {id : Uuid} {data : OutboxEvent → OutboxEvent} {row : OutboxEvent}
    {after : RelayWorld} :
    world.update id data = some (row, after) ↔ ∃ event table, world.outbox.get? id = some event ∧
      world.outbox.put (data event) = some table ∧ data event = row ∧ { world with outbox := table } = after := by
  unfold update
  rw [Option.bind_eq_some_iff]
  simp only [Option.map_eq_some_iff, Prod.mk.injEq]
  constructor
  · rintro ⟨event, hEvent, table, hTable, hRow, hAfter⟩
    exact ⟨event, table, hEvent, hTable, hRow, hAfter⟩
  · rintro ⟨event, table, hEvent, hTable, hRow, hAfter⟩
    exact ⟨event, hEvent, table, hTable, hRow, hAfter⟩

/-- The database executes the statement, whether or not the relay learns of it. -/
def RelayTurn.Executes (turn : RelayTurn) : Prop := turn.failure = none ∨ turn.takesEffect = true

/-- An update does nothing, or it stores the changed row. -/
theorem RelayWorld.performUpdate_cases (id : Uuid) (data : OutboxEvent → OutboxEvent) :
    (world.performUpdate turn id data).2 = world ∨ turn.Executes ∧ ∃ event table,
      world.outbox.get? id = some event ∧ world.outbox.put (data event) = some table ∧
        (world.performUpdate turn id data).2 = { world with outbox := table } := by
  unfold performUpdate
  cases hUpdate : world.update id data with
  | none => exact Or.inl rfl
  | some outcome =>
      obtain ⟨event, table, hEvent, hTable, _, hAfter⟩ := update_eq_some.mp hUpdate
      cases hFailure : turn.failure with
      | none => exact Or.inr ⟨Or.inl hFailure, event, table, hEvent, hTable, hAfter.symm⟩
      | some error =>
          simp only
          split
          · next hEffect => exact Or.inr ⟨Or.inr hEffect, event, table, hEvent, hTable, hAfter.symm⟩
          · exact Or.inl rfl

/-- An update that is executed stores the changed row. -/
theorem RelayWorld.performUpdate_of_executes {id : Uuid} {data : OutboxEvent → OutboxEvent} {event : OutboxEvent}
    {table : Table OutboxEvent} (hExecutes : turn.Executes) (hEvent : world.outbox.get? id = some event)
    (hTable : world.outbox.put (data event) = some table) :
    (world.performUpdate turn id data).2 = { world with outbox := table } := by
  have hUpdate : world.update id data = some (data event, { world with outbox := table }) :=
    update_eq_some.mpr ⟨event, table, hEvent, hTable, rfl, rfl⟩
  unfold performUpdate
  rw [hUpdate]
  cases hFailure : turn.failure with
  | none => rfl
  | some error =>
      rcases hExecutes with hNone | hEffect
      · cases hFailure.symm.trans hNone
      · exact if_pos hEffect

theorem RelayPort.perform_update {port : RelayPort} {id : Uuid} {data : OutboxEvent → OutboxEvent}
    (h : port.update? turn = some (id, data)) :
    (port.perform turn world).2 = (world.performUpdate turn id data).2 := by
  cases port <;> cases h <;> rfl

theorem RelayWorld.send_outbox (delivery : BrokerDelivery) : (world.send turn delivery).outbox = world.outbox := by
  unfold send
  split <;> rfl

/-- Only the updates touch the outbox, and they touch one row. -/
theorem RelayPort.perform_outbox (port : RelayPort) :
    (port.perform turn world).2.outbox = world.outbox ∨ turn.Executes ∧ ∃ id data event,
      port.update? turn = some (id, data) ∧ world.outbox.get? id = some event ∧
        world.outbox.put (data event) = some (port.perform turn world).2.outbox := by
  cases hUpdate : port.update? turn with
  | some update =>
      obtain ⟨id, data⟩ := update
      rw [perform_update hUpdate]
      rcases @RelayWorld.performUpdate_cases turn world id data with
        hSame | ⟨hExecutes, event, table, hEvent, hTable, hAfter⟩
      · exact Or.inl (congrArg RelayWorld.outbox hSame)
      · rw [hAfter]
        exact Or.inr ⟨hExecutes, id, data, event, rfl, hEvent, hTable⟩
  | none =>
      refine Or.inl ?_
      cases port with
      | markPublished id => cases hUpdate
      | updateFailure id retryCount lastError status => cases hUpdate
      | replayDeadLetter id => cases hUpdate
      | addJob event job payload => exact RelayWorld.send_outbox _
      | publishToQueue event queue message => exact RelayWorld.send_outbox _
      | _ => rfl

/-- The identity and the contents of an event, which no operation of the relay changes. -/
structure OutboxEvent.SameEvent (row event : OutboxEvent) : Prop where
  id : row.id = event.id
  eventType : row.eventType = event.eventType
  aggregateId : row.aggregateId = event.aggregateId
  payload : row.payload = event.payload
  createdAt : row.createdAt = event.createdAt

theorem RelayPort.sameEvent_of_update {port : RelayPort} {id : Uuid} {data : OutboxEvent → OutboxEvent}
    (h : port.update? turn = some (id, data)) (event : OutboxEvent) : (data event).SameEvent event := by
  cases port <;> cases h <;> exact ⟨rfl, rfl, rfl, rfl, rfl⟩

end SpotqPayment
