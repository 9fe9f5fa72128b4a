import SpotqPayment.Infrastructure.OutboxRelay

/-! One cycle of a single relay, from its first await to its last. No operation of a
cycle is awaited twice, so what the environment contributes is given operation by
operation. -/
namespace SpotqPayment

open Process Engine

/-- Redis as the cycle finds it, and the turn of each operation. -/
structure RelayCycle where
  redis : Redis
  turn : RelayPort → RelayTurn

/-- An operation of a message broker. -/
def RelayPort.toBroker : RelayPort → Bool
  | .addJob _ _ _ => true
  | .publishToQueue _ _ _ => true
  | _ => false

namespace RelayCycle

def perform (cycle : RelayCycle) (port : RelayPort) (world : RelayWorld) :
    Except RelayError port.Answer × RelayWorld :=
  port.perform (cycle.turn port) world

/-- Only the brokers may fail. -/
def Steady (cycle : RelayCycle) : Prop := ∀ port : RelayPort, port.toBroker = false → (cycle.turn port).failure = none

/-- The answer of the lock. -/
def hasLock (cycle : RelayCycle) : Bool :=
  (RedisService.acquireLock (cycle.turn (.acquireLock relayLockKey relayLockTtlSeconds)).redisReachable cycle.redis
    relayLockKey relayLockTtlSeconds).1

/-- The rows that the cycle fetches. -/
def batch (cycle : RelayCycle) (outbox : Table OutboxEvent) : List OutboxEvent :=
  pendingEvents outbox (cycle.turn (.findPendingEvents relayBatchSize)).tie relayBatchSize

end RelayCycle

/-- A type that the relay hands to a broker; events of other types are only logged. -/
def EventType.HasBroker : EventType → Prop
  | .other _ => False
  | _ => True

instance : DecidablePred EventType.HasBroker
  | .other _ => isFalse id
  | .subscriptionActivated | .subscriptionExpired | .orderCaptured | .orderFailed => isTrue trivial

/-- An outbox before the first cycle. -/
def RelayWorld.over (outbox : Table OutboxEvent) : RelayWorld where
  outbox := outbox
  deliveries := []
  redis := ExpiringStore.empty
  processing := []

def RelayWorld.empty : RelayWorld := RelayWorld.over Table.empty

namespace OutboxRelayService

variable (service : OutboxRelayService) (cycle : RelayCycle)

/-- A whole cycle. -/
def runCycle (world : RelayWorld) (cycle : RelayCycle) : RelayWorld :=
  (exec cycle.perform service.processPendingEvents { world with redis := cycle.redis }).2

/-- What becomes of an event at its broker: the result, and the messages that arrive. -/
def dispatch (event : OutboxEvent) : Except RelayError Unit × List BrokerDelivery :=
  let result := exec cycle.perform (service.publish event) RelayWorld.empty
  (result.1, result.2.deliveries)

/-- What the broker of an event answers: whether it takes the event. -/
def brokerTakes (event : OutboxEvent) : Bool :=
  match event.eventType with
  | .subscriptionActivated =>
    (cycle.turn (.addJob event.id "subscription.activated" event.jobPayload)).failure.isNone
  | .subscriptionExpired =>
    (cycle.turn (.addJob event.id "subscription.expired" event.jobPayload)).failure.isNone
  | .orderCaptured | .orderFailed =>
    let turn := cycle.turn (.publishToQueue event.id orderEventsQueue event.orderMessage)
    service.hasRabbitMQ && (turn.failure.isNone && turn.confirmed)
  | .other _ => false

/-- The row of an event once the relay is done with it. -/
def settle (event : OutboxEvent) : OutboxEvent :=
  match (service.dispatch cycle event).1 with
  | .ok _ => markedPublished (cycle.turn (.markPublished event.id)).now event
  | .error err => failureRecorded (event.retryCount + 1) err.message
      (if maxOutboxRetries ≤ event.retryCount + 1 then .failed else .pending) event

end OutboxRelayService

namespace RelayWorld

def log (world : RelayWorld) (messages : List BrokerDelivery) : RelayWorld :=
  { world with deliveries := world.deliveries ++ messages }

theorem log_nil (world : RelayWorld) : world.log [] = world := by
  unfold log
  rw [List.append_nil]

theorem log_log (world : RelayWorld) (first second : List BrokerDelivery) :
    (world.log first).log second = world.log (first ++ second) := by
  unfold log
  rw [List.append_assoc]

theorem send_eq_log (world : RelayWorld) (turn : RelayTurn) (delivery : BrokerDelivery) :
    world.send turn delivery = world.log (empty.send turn delivery).deliveries := by
  unfold send
  split
  · exact (log_nil world).symm
  · rfl

end RelayWorld

section Batch

variable {outbox : Table OutboxEvent} {tie : Uuid → Nat} {limit : Nat} {event earlier later : OutboxEvent}

/-- The order in which pending rows are fetched. -/
def FetchedBefore (tie : Uuid → Nat) (first second : OutboxEvent) : Prop :=
  first.createdAt < second.createdAt ∨ (first.createdAt = second.createdAt ∧ tie first.id ≤ tie second.id)

instance : DecidableRel (FetchedBefore tie) := fun _ _ => inferInstanceAs (Decidable (_ ∨ _))

instance : Std.Total (FetchedBefore tie) where
  total := by
    intro first second
    rcases lt_trichotomy first.createdAt second.createdAt with hLess | hSame | hMore
    · exact Or.inl (Or.inl hLess)
    · rcases Nat.le_total (tie first.id) (tie second.id) with hTie | hTie
      · exact Or.inl (Or.inr ⟨hSame, hTie⟩)
      · exact Or.inr (Or.inr ⟨hSame.symm, hTie⟩)
    · exact Or.inr (Or.inl hMore)

instance : IsTrans OutboxEvent (FetchedBefore tie) where
  trans := by
    intro first second third hFirst hSecond
    rcases hFirst with hLess | ⟨hSame, hTie⟩
    · rcases hSecond with hNext | ⟨hNext, _⟩
      · exact Or.inl (hLess.trans hNext)
      · exact Or.inl (hLess.trans_eq hNext)
    · rcases hSecond with hNext | ⟨hNext, hNextTie⟩
      · exact Or.inl (hSame.trans_lt hNext)
      · exact Or.inr ⟨hSame.trans hNext, hTie.trans hNextTie⟩

def sortedPending (outbox : Table OutboxEvent) (tie : Uuid → Nat) : List OutboxEvent :=
  (outbox.rows.filter fun event => event.status = .pending).insertionSort (FetchedBefore tie)

theorem pendingEvents_eq : pendingEvents outbox tie limit = (sortedPending outbox tie).take limit := rfl

theorem mem_sortedPending : event ∈ sortedPending outbox tie ↔ event ∈ outbox.rows ∧ event.status = .pending := by
  rw [sortedPending, List.mem_insertionSort, List.mem_filter, decide_eq_true_iff]

theorem pendingEvents_nodup : ((pendingEvents outbox tie limit).map OutboxEvent.id).Nodup := by
  have hPerm := (List.perm_insertionSort (FetchedBefore tie)
    (outbox.rows.filter fun event => event.status = .pending)).map OutboxEvent.id
  have hSorted : ((sortedPending outbox tie).map OutboxEvent.id).Nodup :=
    hPerm.nodup_iff.mpr (outbox.keys_nodup.sublist (List.filter_sublist.map OutboxEvent.id))
  exact hSorted.sublist ((List.take_sublist limit _).map OutboxEvent.id)

/-- A batch that is not full has every pending row. -/
theorem mem_pendingEvents_of_length_lt (hLength : (pendingEvents outbox tie limit).length < limit)
    (hEvent : event ∈ outbox.rows) (hPending : event.status = .pending) : event ∈ pendingEvents outbox tie limit := by
  rw [pendingEvents_eq, List.length_take] at hLength
  rw [pendingEvents_eq, List.take_of_length_le (by omega)]
  exact mem_sortedPending.mpr ⟨hEvent, hPending⟩

/-- Every pending row that is older than a row of the batch stands before it in the batch. -/
theorem pendingEvents_older (hLater : later ∈ pendingEvents outbox tie limit) (hEarlier : earlier ∈ outbox.rows)
    (hPending : earlier.status = .pending) (hOlder : earlier.createdAt < later.createdAt) :
    ∃ before after, pendingEvents outbox tie limit = before ++ later :: after ∧ earlier ∈ before := by
  have hSorted : (sortedPending outbox tie).Pairwise (FetchedBefore tie) := List.pairwise_insertionSort _ _
  have hMem : earlier ∈ sortedPending outbox tie := mem_sortedPending.mpr ⟨hEarlier, hPending⟩
  have hNot : ¬ FetchedBefore tie later earlier := by
    rintro (hLess | ⟨hSame, _⟩)
    · exact lt_asymm hOlder hLess
    · exact hOlder.ne' hSame
  obtain ⟨before, after, hBatch⟩ := List.append_of_mem hLater
  have hAll : sortedPending outbox tie = before ++ later :: (after ++ (sortedPending outbox tie).drop limit) := by
    rw [← List.cons_append, ← List.append_assoc, ← hBatch, pendingEvents_eq, List.take_append_drop]
  rw [hAll] at hSorted hMem
  refine ⟨before, after, hBatch, ?_⟩
  rcases List.mem_append.mp hMem with hBefore | hFrom
  · exact hBefore
  · rcases List.mem_cons.mp hFrom with rfl | hAfter
    · exact absurd hOlder (lt_irrefl _)
    · exact absurd (List.rel_of_pairwise_cons (List.pairwise_append.mp hSorted).2.1 hAfter) hNot

end Batch

section Publish

variable {service : OutboxRelayService} {cycle : RelayCycle} {event : OutboxEvent} {world : RelayWorld}
variable {Value Result : Type}

/-- A process that does nothing but send messages, and learns nothing but the answers to them. -/
def OnlySends (cycle : RelayCycle) (p : Relay Value) : Prop :=
  ∀ world, exec cycle.perform p world = ((exec cycle.perform p .empty).1,
    world.log (exec cycle.perform p .empty).2.deliveries)

theorem OnlySends.ret (value : Value) : OnlySends cycle (.ret value) :=
  fun world => congrArg (Prod.mk _) (world.log_nil).symm

theorem OnlySends.fail (error : RelayError) : OnlySends cycle (.fail error : Relay Value) :=
  fun world => congrArg (Prod.mk _) (world.log_nil).symm

theorem OnlySends.bind {first : Relay Value} {next : Value → Relay Result} (hFirst : OnlySends cycle first)
    (hNext : ∀ value, OnlySends cycle (next value)) : OnlySends cycle (first >>= next) := by
  intro world
  rw [exec_bind, exec_bind, hFirst world]
  cases hResult : exec cycle.perform first .empty with
  | mk result middle =>
      have hMiddle : middle = RelayWorld.empty.log middle.deliveries := by
        have hEmpty := hFirst .empty
        rw [hResult] at hEmpty
        exact congrArg Prod.snd hEmpty
      cases result with
      | error error => rfl
      | ok value =>
          show exec cycle.perform (next value) (world.log middle.deliveries) =
            ((exec cycle.perform (next value) middle).1, world.log (exec cycle.perform (next value) middle).2.deliveries)
          rw [hNext value (world.log middle.deliveries), hNext value middle, RelayWorld.log_log]
          rfl

theorem OnlySends.call {port : RelayPort} (h : port.toBroker = true) : OnlySends cycle (call port) := by
  intro world
  rw [exec_call, exec_call]
  cases port with
  | addJob id job payload => exact congrArg (Prod.mk _) (RelayWorld.send_eq_log _ _ _)
  | publishToQueue id queue message => exact congrArg (Prod.mk _) (RelayWorld.send_eq_log _ _ _)
  | _ => cases h

theorem publish_onlySends : OnlySends cycle (service.publish event) := by
  have hOrder (sent : Relay Bool) (unconfigured refused : RelayError) (hSent : OnlySends cycle sent) :
      OnlySends cycle (if service.hasRabbitMQ = false then throw unconfigured
        else do if (← sent) = false then throw refused else return ()) := by
    split
    · exact .fail _
    · refine hSent.bind fun published => ?_
      split
      · exact .fail _
      · exact .ret _
  unfold OutboxRelayService.publish
  cases event.eventType with
  | other name => exact .ret _
  | subscriptionActivated => exact .call rfl
  | subscriptionExpired => exact .call rfl
  | orderCaptured => exact hOrder _ _ _ (.call rfl)
  | orderFailed => exact hOrder _ _ _ (.call rfl)

/-- A publish depends on the brokers alone and adds its messages to the log. -/
theorem exec_publish : exec cycle.perform (service.publish event) world =
    ((service.dispatch cycle event).1, world.log (service.dispatch cycle event).2) :=
  publish_onlySends world

/-- How a publish ends, as the broker takes the event or not. -/
inductive Dispatched (event : OutboxEvent) : Bool → Except RelayError Unit × List BrokerDelivery → Prop
  | skipped (hType : ¬ event.eventType.HasBroker) : Dispatched event false (.ok (), [])
  | accepted (hType : event.eventType.HasBroker) {delivery : BrokerDelivery} (hEvent : delivery.event = event.id)
      (hAccepted : delivery.accepted = true) : Dispatched event true (.ok (), [delivery])
  | refused (hType : event.eventType.HasBroker) {error : RelayError} {messages : List BrokerDelivery}
      (hMessages : ∀ delivery ∈ messages, delivery.event = event.id ∧ delivery.accepted = false) :
      Dispatched event false (.error error, messages)

theorem RelayWorld.mem_send_empty {turn : RelayTurn} {delivery sent : BrokerDelivery}
    (h : sent ∈ (RelayWorld.empty.send turn delivery).deliveries) : sent = delivery := by
  unfold send at h
  split at h
  · cases h
  · exact List.mem_singleton.mp h

theorem addJob_dispatched (hType : event.eventType.HasBroker) (job : String) (payload : Fields) :
    Dispatched event (cycle.turn (.addJob event.id job payload)).failure.isNone
      ((cycle.perform (.addJob event.id job payload) .empty).1,
        (cycle.perform (.addJob event.id job payload) .empty).2.deliveries) := by
  cases hFailure : (cycle.turn (.addJob event.id job payload)).failure with
  | none =>
      simp only [RelayCycle.perform, RelayPort.perform, RelayWorld.send, hFailure]
      exact .accepted hType rfl rfl
  | some error =>
      simp only [RelayCycle.perform, RelayPort.perform, hFailure]
      refine .refused hType fun delivery hDelivery => ?_
      rw [RelayWorld.mem_send_empty hDelivery]
      exact ⟨rfl, rfl⟩

theorem publishToQueue_dispatched (hType : event.eventType.HasBroker) (queue : String) (message : Fields)
    (unconfigured refused : RelayError) :
    let turn := cycle.turn (.publishToQueue event.id queue message)
    let result := exec cycle.perform (if service.hasRabbitMQ = false then throw unconfigured
      else do if (← call (RelayPort.publishToQueue event.id queue message)) = false then throw refused
              else return ()) RelayWorld.empty
    Dispatched event (service.hasRabbitMQ && (turn.failure.isNone && turn.confirmed))
      (result.1, result.2.deliveries) := by
  cases hConfigured : service.hasRabbitMQ with
  | false => exact .refused hType fun delivery hDelivery => absurd hDelivery List.not_mem_nil
  | true =>
      simp only [Bool.true_eq_false, if_false, Bool.true_and]
      rw [exec_call_bind]
      cases hFailure : (cycle.turn (.publishToQueue event.id queue message)).failure with
      | some error =>
          simp only [RelayCycle.perform, RelayPort.perform, hFailure]
          refine .refused hType fun delivery hDelivery => ?_
          rw [RelayWorld.mem_send_empty hDelivery]
          exact ⟨rfl, rfl⟩
      | none =>
          cases hConfirmed : (cycle.turn (.publishToQueue event.id queue message)).confirmed with
          | true =>
              simp only [RelayCycle.perform, RelayPort.perform, RelayWorld.send, hFailure, hConfirmed]
              exact .accepted hType rfl rfl
          | false =>
              simp only [RelayCycle.perform, RelayPort.perform, hFailure, hConfirmed]
              refine .refused hType fun delivery hDelivery => ?_
              rw [RelayWorld.mem_send_empty hDelivery]
              exact ⟨rfl, rfl⟩

theorem dispatch_ends (service : OutboxRelayService) (cycle : RelayCycle) (event : OutboxEvent) :
    Dispatched event (service.brokerTakes cycle event) (service.dispatch cycle event) := by
  unfold OutboxRelayService.dispatch OutboxRelayService.publish OutboxRelayService.brokerTakes
  cases hType : event.eventType with
  | other name => exact .skipped (by rw [hType]; exact id)
  | subscriptionActivated =>
      simp only [publishSubscriptionActivated, exec_call]
      exact addJob_dispatched (by rw [hType]; trivial) _ _
  | subscriptionExpired =>
      simp only [publishSubscriptionExpired, exec_call]
      exact addJob_dispatched (by rw [hType]; trivial) _ _
  | orderCaptured => exact publishToQueue_dispatched (by rw [hType]; trivial) _ _ _ _
  | orderFailed => exact publishToQueue_dispatched (by rw [hType]; trivial) _ _ _ _

/-- An accepted message is that of an event whose broker takes it. -/
theorem dispatch_accepted {delivery : BrokerDelivery} (h : delivery ∈ (service.dispatch cycle event).2)
    (hAccepted : delivery.accepted = true) : service.brokerTakes cycle event = true := by
  have hEnds := dispatch_ends service cycle event
  generalize service.dispatch cycle event = outcome at hEnds h
  generalize service.brokerTakes cycle event = taken at hEnds ⊢
  cases hEnds with
  | skipped hType => cases h
  | accepted hType hEvent hTaken => rfl
  | refused hType hMessages =>
      rw [(hMessages delivery h).2] at hAccepted
      cases hAccepted

theorem dispatch_event {delivery : BrokerDelivery} (h : delivery ∈ (service.dispatch cycle event).2) :
    delivery.event = event.id := by
  have hEnds := dispatch_ends service cycle event
  generalize service.dispatch cycle event = outcome at hEnds h
  generalize service.brokerTakes cycle event = taken at hEnds
  cases hEnds with
  | skipped hType => cases h
  | accepted hType hEvent hAccepted => rw [List.mem_singleton.mp h, hEvent]
  | refused hType hMessages => exact (hMessages delivery h).1

/-- An event that its broker takes is logged once. -/
theorem dispatch_of_takes (h : service.brokerTakes cycle event = true) : event.eventType.HasBroker ∧
    ∃ delivery, delivery.event = event.id ∧ delivery.accepted = true ∧
      service.dispatch cycle event = (.ok (), [delivery]) := by
  have hEnds := dispatch_ends service cycle event
  rw [h] at hEnds
  generalize service.dispatch cycle event = outcome at hEnds ⊢
  cases hEnds with
  | accepted hType hEvent hAccepted => exact ⟨hType, _, hEvent, hAccepted, rfl⟩

/-- A publish returns when the broker takes the event, or there is none. -/
theorem dispatch_ok_iff :
    (service.dispatch cycle event).1 = .ok () ↔
      (event.eventType.HasBroker → service.brokerTakes cycle event = true) := by
  have hEnds := dispatch_ends service cycle event
  generalize service.dispatch cycle event = outcome at hEnds ⊢
  generalize service.brokerTakes cycle event = taken at hEnds ⊢
  cases hEnds with
  | skipped hType => exact iff_of_true rfl fun hBroker => absurd hBroker hType
  | accepted hType hEvent hAccepted => exact iff_of_true rfl fun _ => rfl
  | refused hType hMessages => exact iff_of_false nofun fun hTaken => absurd (hTaken hType) Bool.false_ne_true

theorem settle_of_ok (h : (service.dispatch cycle event).1 = .ok ()) :
    service.settle cycle event = markedPublished (cycle.turn (.markPublished event.id)).now event := by
  unfold OutboxRelayService.settle
  rw [h]

theorem settle_of_error {error : RelayError} (h : (service.dispatch cycle event).1 = .error error) :
    service.settle cycle event = failureRecorded (event.retryCount + 1) error.message
      (if maxOutboxRetries ≤ event.retryCount + 1 then .failed else .pending) event := by
  unfold OutboxRelayService.settle
  rw [h]

theorem settle_published_iff :
    (service.settle cycle event).status = .published ↔ (service.dispatch cycle event).1 = .ok () := by
  cases hResult : (service.dispatch cycle event).1 with
  | ok => exact iff_of_true (by rw [settle_of_ok hResult]; rfl) rfl
  | error error =>
      refine iff_of_false (fun hPublished => ?_) nofun
      rw [settle_of_error hResult] at hPublished
      change (if maxOutboxRetries ≤ event.retryCount + 1 then OutboxStatus.failed else .pending) = _ at hPublished
      split at hPublished <;> cases hPublished

/-- An event is given up when its broker refuses it and no retries are left. -/
theorem settle_failed_iff : (service.settle cycle event).status = .failed ↔
    (service.dispatch cycle event).1 ≠ .ok () ∧ maxOutboxRetries ≤ event.retryCount + 1 := by
  cases hResult : (service.dispatch cycle event).1 with
  | ok =>
      refine iff_of_false (fun hFailed => ?_) fun h => h.1 rfl
      rw [settle_of_ok hResult] at hFailed
      cases hFailed
  | error error =>
      rw [settle_of_error hResult]
      show (if maxOutboxRetries ≤ event.retryCount + 1 then OutboxStatus.failed else .pending) = _ ↔ _
      split
      · next hLast => exact iff_of_true rfl ⟨nofun, hLast⟩
      · next hRetries => exact iff_of_false nofun fun h => hRetries h.2

theorem settle_sameEvent (service : OutboxRelayService) (cycle : RelayCycle) (event : OutboxEvent) :
    (service.settle cycle event).SameEvent event := by
  unfold OutboxRelayService.settle
  split <;> exact ⟨rfl, rfl, rfl, rfl, rfl⟩

end Publish

section Cycle

variable {service : OutboxRelayService} {cycle : RelayCycle} {event : OutboxEvent} {world : RelayWorld}
variable {table : Table OutboxEvent}

theorem RelayWorld.performUpdate_of_steady {turn : RelayTurn} {id : Uuid} {data : OutboxEvent → OutboxEvent}
    (hFailure : turn.failure = none) (hEvent : world.outbox.get? id = some event)
    (hTable : world.outbox.put (data event) = some table) :
    world.performUpdate turn id data = (.ok (data event), { world with outbox := table }) := by
  have hUpdate : world.update id data = some (data event, { world with outbox := table }) :=
    update_eq_some.mpr ⟨event, table, hEvent, hTable, rfl, rfl⟩
  unfold performUpdate
  rw [hUpdate, hFailure]

theorem exec_markPublished (hSteady : cycle.Steady) (hEvent : world.outbox.get? event.id = some event)
    (hTable : world.outbox.put (markedPublished (cycle.turn (.markPublished event.id)).now event) = some table) :
    exec cycle.perform (call (RelayPort.markPublished event.id)) world = (.ok (), { world with outbox := table }) := by
  have hUpdated := RelayWorld.performUpdate_of_steady (hSteady (.markPublished event.id) rfl) hEvent hTable
  rw [exec_call]
  simp only [RelayCycle.perform, RelayPort.perform, hUpdated]
  rfl

theorem exec_recordFailure (hSteady : cycle.Steady) (hEvent : world.outbox.get? event.id = some event)
    {message : String} (hTable : world.outbox.put (failureRecorded (event.retryCount + 1) message
      (if maxOutboxRetries ≤ event.retryCount + 1 then .failed else .pending) event) = some table) :
    exec cycle.perform (recordFailure event.id message maxOutboxRetries) world =
      (.ok (decide (maxOutboxRetries ≤ event.retryCount + 1), event.retryCount + 1),
        { world with outbox := table }) := by
  have hCount : cycle.perform (.findRetryCount event.id) world = (.ok (some event.retryCount), world) := by
    simp only [RelayCycle.perform, RelayPort.perform, hSteady (.findRetryCount event.id) rfl, hEvent, Option.map_some]
  have hUpdated (status : OutboxStatus)
      (hPut : world.outbox.put (failureRecorded (event.retryCount + 1) message status event) = some table) :
      cycle.perform (.updateFailure event.id (event.retryCount + 1) message status) world =
        (.ok (), { world with outbox := table }) := by
    have hRow := RelayWorld.performUpdate_of_steady
      (hSteady (.updateFailure event.id (event.retryCount + 1) message status) rfl) hEvent hPut
    simp only [RelayCycle.perform, RelayPort.perform, hRow]
    rfl
  unfold recordFailure
  rw [exec_call_bind_of_answer hCount]
  exact exec_call_bind_of_answer (hUpdated _ hTable) _

/-- One turn of the loop settles the row of the event. -/
theorem exec_relayEvent (hSteady : cycle.Steady) (hEvent : world.outbox.get? event.id = some event)
    (hTable : world.outbox.put (service.settle cycle event) = some table) :
    exec cycle.perform (service.relayEvent event) world =
      (.ok (), { world.log (service.dispatch cycle event).2 with outbox := table }) := by
  unfold OutboxRelayService.relayEvent
  rw [exec_handle, exec_bind, exec_publish]
  cases hResult : (service.dispatch cycle event).1 with
  | ok =>
      rw [settle_of_ok hResult] at hTable
      have hMarked : exec cycle.perform (call (RelayPort.markPublished event.id))
          (world.log (service.dispatch cycle event).2) =
            (.ok (), { world.log (service.dispatch cycle event).2 with outbox := table }) :=
        exec_markPublished hSteady hEvent hTable
      simp only [hMarked]
  | error error =>
      rw [settle_of_error hResult] at hTable
      have hRecorded : exec cycle.perform (recordFailure event.id error.message maxOutboxRetries)
          (world.log (service.dispatch cycle event).2) =
            (.ok (decide (maxOutboxRetries ≤ event.retryCount + 1), event.retryCount + 1),
              { world.log (service.dispatch cycle event).2 with outbox := table }) :=
        @exec_recordFailure cycle event (world.log (service.dispatch cycle event).2) table hSteady hEvent _ hTable
      simp only [exec_bind, hRecorded]
      rfl

/-- The loop settles the rows of a batch one after another. -/
theorem exec_relayEvents (hSteady : cycle.Steady) {batch : List OutboxEvent} (hNodup : (batch.map OutboxEvent.id).Nodup)
    (hBatch : ∀ event ∈ batch, world.outbox.get? event.id = some event) :
    ∃ table, world.outbox.putAll (batch.map (service.settle cycle)) = some table ∧
      exec cycle.perform (service.relayEvents batch) world =
        (.ok (), { world.log (batch.flatMap fun event => (service.dispatch cycle event).2) with outbox := table }) := by
  induction batch generalizing world with
  | nil =>
      refine ⟨world.outbox, rfl, ?_⟩
      rw [List.flatMap_nil, RelayWorld.log_nil]
      rfl
  | cons event rest ih =>
      obtain ⟨hNew, hRest⟩ := List.nodup_cons.mp hNodup
      have hEvent := hBatch event List.mem_cons_self
      obtain ⟨table, hTable⟩ := world.outbox.exists_put_of_no_unique (service.settle cycle event) rfl rfl
      have hLater : ∀ later ∈ rest, table.get? later.id = some later := by
        intro later hLater
        rw [Table.get?_put_of_ne hTable fun hSame => hNew ?_]
        · exact hBatch later (List.mem_cons_of_mem event hLater)
        · have hId : event.id = later.id := (settle_sameEvent service cycle event).id.symm.trans hSame
          rw [hId]
          exact List.mem_map_of_mem hLater
      obtain ⟨final, hFinal, hExec⟩ :=
        @ih { world.log (service.dispatch cycle event).2 with outbox := table } hRest hLater
      refine ⟨final, Table.putAll_cons.mpr ⟨table, hTable, hFinal⟩, ?_⟩
      show exec cycle.perform (service.relayEvent event >>= fun _ => service.relayEvents rest) world = _
      rw [exec_bind, exec_relayEvent hSteady hEvent hTable]
      simp only [hExec]
      rw [List.flatMap_cons, ← RelayWorld.log_log]
      rfl

/-- The rows that the cycle gets to, none if another relay has the lock. -/
def RelayCycle.attempted (cycle : RelayCycle) (outbox : Table OutboxEvent) : List OutboxEvent :=
  if cycle.hasLock then cycle.batch outbox else []

theorem RelayCycle.mem_of_attempted {outbox : Table OutboxEvent} (h : event ∈ cycle.attempted outbox) :
    event ∈ outbox.rows ∧ event.status = .pending := by
  unfold attempted at h
  split at h
  · exact pending_of_pendingEvents h
  · cases h

theorem RelayCycle.attempted_nodup (cycle : RelayCycle) (outbox : Table OutboxEvent) :
    ((cycle.attempted outbox).map OutboxEvent.id).Nodup := by
  unfold attempted
  split
  · exact pendingEvents_nodup
  · exact List.nodup_nil

/-- What is pending and older than an event of the cycle is attempted before it. -/
theorem RelayCycle.attempted_older {outbox : Table OutboxEvent} {earlier later : OutboxEvent}
    (hLater : later ∈ cycle.attempted outbox) (hEarlier : earlier ∈ outbox.rows) (hPending : earlier.status = .pending)
    (hOlder : earlier.createdAt < later.createdAt) :
    ∃ before after, cycle.attempted outbox = before ++ later :: after ∧ earlier ∈ before := by
  unfold attempted at hLater ⊢
  split at hLater
  · next hLock =>
      rw [if_pos hLock]
      exact pendingEvents_older hLater hEarlier hPending hOlder
  · cases hLater

/-- All that a cycle does. -/
structure CycleEffect (service : OutboxRelayService) (cycle : RelayCycle) (world after : RelayWorld) : Prop where
  outbox : world.outbox.putAll ((cycle.attempted world.outbox).map (service.settle cycle)) = some after.outbox
  deliveries : after.deliveries =
    world.deliveries ++ (cycle.attempted world.outbox).flatMap fun event => (service.dispatch cycle event).2
  processing : after.processing = world.processing

/-- The part of a cycle under the lock. -/
def OutboxRelayService.relayBatch (service : OutboxRelayService) : Relay Unit :=
  tryFinally
    (do
      let pendingEvents ← call (RelayPort.findPendingEvents relayBatchSize)
      service.relayEvents pendingEvents)
    (do
      call (RelayPort.setProcessing service.replica false)
      call (RelayPort.releaseLock relayLockKey))

/-- Under the lock the whole batch is relayed, and the flag of the replica is taken back. -/
theorem exec_relayBatch (hSteady : cycle.Steady) {others : List Nat} (hOthers : service.replica ∉ others)
    (hProcessing : world.processing = service.replica :: others) :
    let after := (exec cycle.perform service.relayBatch world).2
    world.outbox.putAll ((cycle.batch world.outbox).map (service.settle cycle)) = some after.outbox ∧
      after.deliveries =
        world.deliveries ++ (cycle.batch world.outbox).flatMap (fun event => (service.dispatch cycle event).2) ∧
      after.processing = others := by
  have hNodup : ((cycle.batch world.outbox).map OutboxEvent.id).Nodup := pendingEvents_nodup
  have hMem : ∀ event ∈ cycle.batch world.outbox, world.outbox.get? event.id = some event :=
    fun event hEvent => Table.get?_key (pending_of_pendingEvents hEvent).1
  obtain ⟨table, hTable, hExec⟩ := @exec_relayEvents service cycle world hSteady _ hNodup hMem
  have hFetched : cycle.perform (.findPendingEvents relayBatchSize) world = (.ok (cycle.batch world.outbox), world) := by
    simp only [RelayCycle.perform, RelayPort.perform, hSteady (.findPendingEvents relayBatchSize) rfl]
    rfl
  have hFlag : (service.replica :: others).filter (· ≠ service.replica) = others := by
    rw [List.filter_cons_of_neg (by simp), List.filter_eq_self.mpr]
    intro other hOther
    exact decide_eq_true fun hSame => hOthers (hSame ▸ hOther)
  unfold OutboxRelayService.relayBatch
  rw [exec_tryFinally, exec_call_bind_of_answer hFetched, hExec]
  refine ⟨hTable, rfl, ?_⟩
  show world.processing.filter (· ≠ service.replica) = others
  rw [hProcessing, hFlag]

theorem runCycle_effect (hSteady : cycle.Steady) (hIdle : service.replica ∉ world.processing) :
    CycleEffect service cycle world (service.runCycle world cycle) := by
  have hIdleFlag : cycle.perform (.isProcessing service.replica) { world with redis := cycle.redis } =
      (.ok false, { world with redis := cycle.redis }) := by
    have hContains : world.processing.contains service.replica = false := by simpa using hIdle
    simp only [RelayCycle.perform, RelayPort.perform, hContains]
  have hLock : cycle.perform (.acquireLock relayLockKey relayLockTtlSeconds) { world with redis := cycle.redis } =
      (.ok cycle.hasLock, { world with redis := (RedisService.acquireLock
        (cycle.turn (.acquireLock relayLockKey relayLockTtlSeconds)).redisReachable cycle.redis relayLockKey
        relayLockTtlSeconds).2 }) := rfl
  unfold OutboxRelayService.runCycle OutboxRelayService.processPendingEvents
  rw [exec_call_bind_of_answer hIdleFlag]
  simp only [Bool.false_eq_true, if_false]
  rw [exec_call_bind_of_answer hLock]
  cases hHas : cycle.hasLock with
  | false =>
      have hNone : cycle.attempted world.outbox = [] := if_neg (by rw [hHas]; exact Bool.false_ne_true)
      refine ⟨?_, ?_, rfl⟩
      · rw [hNone]
        rfl
      · rw [hNone, List.flatMap_nil, List.append_nil]
        rfl
  | true =>
      have hBatch : cycle.attempted world.outbox = cycle.batch world.outbox := if_pos hHas
      have hUnderLock := @exec_relayBatch service cycle
        { world with
          redis := (RedisService.acquireLock (cycle.turn (.acquireLock relayLockKey relayLockTtlSeconds)).redisReachable
            cycle.redis relayLockKey relayLockTtlSeconds).2
          processing := service.replica :: world.processing } hSteady world.processing hIdle rfl
      obtain ⟨hOutbox, hDeliveries, hProcessing⟩ := hUnderLock
      refine ⟨?_, ?_, hProcessing⟩
      · rw [hBatch]
        exact hOutbox
      · rw [hBatch]
        exact hDeliveries

/-- The rows after a cycle: each as it was, or settled if the cycle got to it. -/
theorem CycleEffect.mem_rows {after : RelayWorld} (h : CycleEffect service cycle world after) {row : OutboxEvent} :
    row ∈ after.outbox.rows ↔ ∃ old ∈ world.outbox.rows,
      row = if old ∈ cycle.attempted world.outbox then service.settle cycle old else old :=
  Table.mem_updateSome (fun event => (settle_sameEvent service cycle event).id)
    (fun _ hIn => (RelayCycle.mem_of_attempted hIn).1) (cycle.attempted_nodup world.outbox) h.outbox

theorem CycleEffect.get? {after : RelayWorld} (h : CycleEffect service cycle world after) (id : Uuid) :
    after.outbox.get? id = (world.outbox.get? id).map fun old =>
      if old ∈ cycle.attempted world.outbox then service.settle cycle old else old :=
  Table.get?_updateSome (fun event => (settle_sameEvent service cycle event).id)
    (fun _ hIn => (RelayCycle.mem_of_attempted hIn).1) (cycle.attempted_nodup world.outbox) h.outbox id

section Effect

variable {after : RelayWorld} {row : OutboxEvent}

theorem CycleEffect.row_cases (h : CycleEffect service cycle world after) (hRow : row ∈ after.outbox.rows) :
    row ∈ world.outbox.rows ∧ row ∉ cycle.attempted world.outbox ∨
      ∃ old ∈ cycle.attempted world.outbox, row = service.settle cycle old := by
  obtain ⟨old, hOld, rfl⟩ := h.mem_rows.mp hRow
  split
  · next hIn => exact Or.inr ⟨old, hIn, rfl⟩
  · next hOut => exact Or.inl ⟨hOld, hOut⟩

theorem CycleEffect.settled_mem (h : CycleEffect service cycle world after) (hIn : row ∈ cycle.attempted world.outbox) :
    service.settle cycle row ∈ after.outbox.rows :=
  h.mem_rows.mpr ⟨row, (RelayCycle.mem_of_attempted hIn).1, (if_pos hIn).symm⟩

/-- No row loses its id or its place in the order. -/
theorem CycleEffect.exists_row (h : CycleEffect service cycle world after) (hRow : row ∈ world.outbox.rows) :
    ∃ later ∈ after.outbox.rows, later.SameEvent row := by
  by_cases hIn : row ∈ cycle.attempted world.outbox
  · exact ⟨_, h.settled_mem hIn, settle_sameEvent service cycle row⟩
  · exact ⟨row, h.mem_rows.mpr ⟨row, hRow, (if_neg hIn).symm⟩, ⟨rfl, rfl, rfl, rfl, rfl⟩⟩

/-- Where the messages of a cycle come from. -/
theorem CycleEffect.delivery_cases (h : CycleEffect service cycle world after) {delivery : BrokerDelivery}
    (hDelivery : delivery ∈ after.deliveries) :
    delivery ∈ world.deliveries ∨
      ∃ event ∈ cycle.attempted world.outbox, delivery ∈ (service.dispatch cycle event).2 ∧ delivery.event = event.id := by
  rw [h.deliveries, List.mem_append, List.mem_flatMap] at hDelivery
  rcases hDelivery with hOld | ⟨event, hEvent, hNew⟩
  · exact Or.inl hOld
  · exact Or.inr ⟨event, hEvent, hNew, dispatch_event hNew⟩

theorem CycleEffect.deliveries_subset (h : CycleEffect service cycle world after) : world.deliveries ⊆ after.deliveries := by
  rw [h.deliveries]
  exact List.subset_append_left _ _

end Effect

end Cycle

namespace Sample

/-- A turn in which everything works. -/
def workingTurn : RelayTurn where
  now := 9000
  tie := id
  redisReachable := true
  failure := none
  takesEffect := false
  confirmed := true

/-- A cycle in which the brokers refuse the messages of some events. -/
def refusing (refused : List Uuid) : RelayCycle where
  redis := ExpiringStore.empty
  turn := fun port =>
    match port with
    | .addJob event _ _ =>
      if event ∈ refused then { workingTurn with failure := some (.error "Redis connection timeout") } else workingTurn
    | _ => workingTurn

def relay : OutboxRelayService where
  replica := 1
  hasRabbitMQ := true

theorem refusing_steady (refused : List Uuid) : (refusing refused).Steady := by
  intro port hPort
  cases port with
  | addJob event job payload => cases hPort
  | _ => rfl

/-- The subscription of restaurant 21 expires and is renewed. -/
def expiredEvent : OutboxEvent where
  id := 1
  eventType := .subscriptionExpired
  aggregateId := 21
  payload := .subscriptionExpired 31 21 "PRO" .expired 1000 900 1000
  status := .pending
  retryCount := 0
  lastError := none
  createdAt := 1000
  publishedAt := none

def activatedEvent : OutboxEvent where
  id := 2
  eventType := .subscriptionActivated
  aggregateId := 21
  payload := .subscriptionActivated 21 "PRO" .active 2000 3000 2000 (some 32)
  status := .pending
  retryCount := 0
  lastError := none
  createdAt := 2000
  publishedAt := none

def renewalOutbox : Table OutboxEvent where
  rows := [expiredEvent, activatedEvent]
  keys_nodup := by decide
  unique := by
    intro column hColumn
    cases hColumn
  checked := fun _ _ => rfl

end Sample

end SpotqPayment
