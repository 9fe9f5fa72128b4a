import SpotqPayment.System.Deployment

/-! No event is dropped silently: an outbox row becomes PUBLISHED only after the
broker of its type has accepted a message for it, and every message carries the
event id and the whole payload. The branch of the relay that publishes nothing is
out of reach, since no operation of the service writes a type it does not know. -/
namespace SpotqPayment

open Process Transition Engine ReadCommitted

/-- The broker responsible for a type of events. -/
def EventType.broker? : EventType → Option Broker
  | .subscriptionActivated => some (.bullMQ "subscription.activated")
  | .subscriptionExpired => some (.bullMQ "subscription.expired")
  | .orderCaptured => some (.rabbitMQ orderEventsQueue)
  | .orderFailed => some (.rabbitMQ orderEventsQueue)
  | .other _ => none

/-- The message names the event and has all fields of its payload. -/
structure BrokerDelivery.Carries (delivery : BrokerDelivery) (event : OutboxEvent) : Prop where
  row : delivery.event = event.id
  broker : event.eventType.broker? = some delivery.broker
  eventId : delivery.message.lookup "eventId" = some (.uuid event.id)
  payload : ∀ name value, event.payload.fields.lookup name = some value →
    delivery.message.lookup name = some value

/-- Every published row has been accepted by its broker, and every message that
was sent for a row carries it. -/
structure NoSilentDrop (outbox : Table OutboxEvent) (deliveries : List BrokerDelivery) : Prop where
  published : ∀ event ∈ outbox.rows, event.status = .published →
    ∃ delivery ∈ deliveries, delivery.accepted = true ∧ delivery.Carries event
  carries : ∀ delivery ∈ deliveries, ∃ event ∈ outbox.rows, delivery.Carries event

section Messages

variable {base extra : Fields} {name : String}

theorem lookup_overwritten :
    (base.map fun field => (field.1, (extra.lookup field.1).getD field.2)).lookup name =
      (base.lookup name).map fun value => (extra.lookup name).getD value := by
  induction base with
  | nil => rfl
  | cons field rest ih =>
      rw [List.map_cons, List.lookup_cons, List.lookup_cons, ih]
      by_cases hSame : name = field.1
      · simp [hSame]
      · have hOther : (name == field.1) = false := beq_false_of_ne hSame
        rw [hOther]

theorem lookup_added :
    (extra.filter fun field => (base.lookup field.1).isNone).lookup name =
      if (base.lookup name).isNone then extra.lookup name else none := by
  induction extra with
  | nil => simp
  | cons field rest ih =>
      rw [List.filter_cons]
      by_cases hSame : name = field.1
      · rw [hSame] at ih ⊢
        cases hBase : base.lookup field.1 with
        | none =>
            simp only [Option.isNone_none, if_true]
            rw [List.lookup_cons, List.lookup_cons, beq_self_eq_true]
        | some value =>
            rw [hBase] at ih
            simpa using ih
      · have hOther : (name == field.1) = false := beq_false_of_ne hSame
        rw [List.lookup_cons, hOther]
        cases base.lookup field.1 with
        | none =>
            simp only [Option.isNone_none, if_true]
            rw [List.lookup_cons, hOther]
            exact ih
        | some value => exact ih

/-- A field of a spread comes from the second object if it has one. -/
theorem lookup_spread : (Fields.spread base extra).lookup name = (extra.lookup name).or (base.lookup name) := by
  rw [Fields.spread, List.lookup_append, lookup_overwritten, lookup_added]
  cases base.lookup name <;> cases extra.lookup name <;> rfl

/-- No payload has a field of the envelope. -/
theorem lookup_envelope (payload : OutboxPayload) :
    payload.fields.lookup "eventId" = none ∧ payload.fields.lookup "eventType" = none := by
  cases payload with
  | orderCaptured paymentId orderId customerId restaurantId amountPaise currency gatewayPaymentId method timestamp =>
      cases method <;> exact ⟨rfl, rfl⟩
  | orderFailed => exact ⟨rfl, rfl⟩
  | subscriptionActivated restaurantId planCode status periodStart periodEnd timestamp subscriptionId =>
      cases subscriptionId <;> exact ⟨rfl, rfl⟩
  | subscriptionExpired => exact ⟨rfl, rfl⟩

end Messages

/-- What the relay sends over BullMQ. -/
def OutboxEvent.jobDelivery (event : OutboxEvent) (job : String) (accepted : Bool) : BrokerDelivery where
  event := event.id
  broker := .bullMQ job
  message := event.jobPayload
  accepted := accepted

/-- What it sends over RabbitMQ. -/
def OutboxEvent.orderDelivery (event : OutboxEvent) (queue : String) (accepted : Bool) : BrokerDelivery where
  event := event.id
  broker := .rabbitMQ queue
  message := event.orderMessage
  accepted := accepted

theorem jobDelivery_carries {event : OutboxEvent} {job : String}
    (hBroker : event.eventType.broker? = some (.bullMQ job)) (accepted : Bool) :
    (event.jobDelivery job accepted).Carries event where
  row := rfl
  broker := hBroker
  eventId := lookup_spread
  payload := by
    intro name value hField
    show event.jobPayload.lookup name = some value
    rw [OutboxEvent.jobPayload, lookup_spread, List.lookup_cons]
    by_cases hName : name = "eventId"
    · rw [hName, (lookup_envelope _).1] at hField
      cases hField
    · rw [beq_false_of_ne hName]
      exact hField

/-- No field of a payload overwrites the event id in the envelope. -/
theorem orderDelivery_carries {event : OutboxEvent} {queue : String}
    (hBroker : event.eventType.broker? = some (.rabbitMQ queue)) (accepted : Bool) :
    (event.orderDelivery queue accepted).Carries event where
  row := rfl
  broker := hBroker
  eventId := by
    show event.orderMessage.lookup "eventId" = _
    rw [OutboxEvent.orderMessage, lookup_spread, (lookup_envelope _).1]
    rfl
  payload := by
    intro name value hField
    show event.orderMessage.lookup name = some value
    rw [OutboxEvent.orderMessage, lookup_spread, hField]
    rfl

/-- Some row of the table is the event, perhaps with another status by now. -/
def RelayWorld.Stores (world : RelayWorld) (event : OutboxEvent) : Prop :=
  ∃ row ∈ world.outbox.rows, row.SameEvent event

/-- The invariant of the relays: only the service has written the events. -/
structure RelayWorld.Delivers (world : RelayWorld) : Prop where
  produced : ∀ event ∈ world.outbox.rows, event.data.Produced
  sound : NoSilentDrop world.outbox world.deliveries

/-- Events stay, and so do the messages sent. -/
structure RelayWorld.Grows (world later : RelayWorld) : Prop where
  stores : ∀ event ∈ world.outbox.rows, later.Stores event
  deliveries : ∀ delivery ∈ world.deliveries, delivery ∈ later.deliveries

theorem OutboxEvent.SameEvent.refl (event : OutboxEvent) : event.SameEvent event := ⟨rfl, rfl, rfl, rfl, rfl⟩

theorem OutboxEvent.SameEvent.trans {first second third : OutboxEvent} (h : first.SameEvent second)
    (hSecond : second.SameEvent third) : first.SameEvent third :=
  ⟨h.id.trans hSecond.id, h.eventType.trans hSecond.eventType, h.aggregateId.trans hSecond.aggregateId,
    h.payload.trans hSecond.payload, h.createdAt.trans hSecond.createdAt⟩

theorem BrokerDelivery.Carries.later {delivery : BrokerDelivery} {event row : OutboxEvent} (h : delivery.Carries event)
    (hSame : row.SameEvent event) : delivery.Carries row where
  row := h.row.trans hSame.id.symm
  broker := by rw [hSame.eventType, h.broker]
  eventId := by rw [hSame.id, h.eventId]
  payload := by
    rw [hSame.payload]
    exact h.payload

theorem OutboxEvent.SameEvent.produced {event row : OutboxEvent} (h : row.SameEvent event)
    (hProduced : event.data.Produced) : row.data.Produced := by
  have hData : row.data = event.data := by
    unfold OutboxEvent.data
    rw [h.eventType, h.aggregateId, h.payload]
  rw [hData]
  exact hProduced

/-- A type that the service writes has its broker. -/
theorem broker?_of_produced {event : OutboxEvent} (h : event.data.Produced) : event.eventType.broker? ≠ none := by
  unfold OutboxEvent.data CreateOutboxEventInput.Produced at h
  cases hPayload : event.payload <;> simp only [hPayload] at h <;> rw [h] <;> exact nofun

namespace RelayWorld

variable {world after : RelayWorld} {event row : OutboxEvent}

theorem Grows.refl (world : RelayWorld) : world.Grows world :=
  ⟨fun event hEvent => ⟨event, hEvent, .refl event⟩, fun _ => id⟩

theorem Stores.later (h : world.Stores event) (hGrows : world.Grows after) : after.Stores event := by
  obtain ⟨row, hRow, hSame⟩ := h
  obtain ⟨next, hNext, hSameNext⟩ := hGrows.stores row hRow
  exact ⟨next, hNext, hSameNext.trans hSame⟩

theorem Grows.trans {first second third : RelayWorld} (h : first.Grows second) (hSecond : second.Grows third) :
    first.Grows third :=
  ⟨fun event hEvent => Stores.later (h.stores event hEvent) hSecond,
    fun delivery hDelivery => hSecond.deliveries delivery (h.deliveries delivery hDelivery)⟩

/-- A row is replaced by the same event, published only after its delivery. -/
theorem Delivers.put (h : world.Delivers) {table : Table OutboxEvent} (hEvent : event ∈ world.outbox.rows)
    (hSame : row.SameEvent event) (hPut : world.outbox.put row = some table)
    (hPublished : row.status = .published →
      ∃ delivery ∈ world.deliveries, delivery.accepted = true ∧ delivery.Carries event) :
    RelayWorld.Delivers { world with outbox := table } ∧ world.Grows { world with outbox := table } := by
  have hStores : ∀ old ∈ world.outbox.rows, ∃ kept ∈ table.rows, kept.SameEvent old := by
    intro old hOld
    by_cases hId : old.id = row.id
    · have hEq : old = event := Table.eq_of_key hOld hEvent (hId.trans hSame.id)
      rw [hEq]
      exact ⟨row, (Table.mem_put hPut).mpr (Or.inl rfl), hSame⟩
    · exact ⟨old, (Table.mem_put hPut).mpr (Or.inr ⟨hOld, hId⟩), .refl old⟩
  refine ⟨⟨fun other hOther => ?_, ⟨fun other hOther hStatus => ?_, fun delivery hDelivery => ?_⟩⟩,
    ⟨hStores, fun _ => id⟩⟩
  · rcases (Table.mem_put hPut).mp hOther with rfl | ⟨hOld, _⟩
    · exact hSame.produced (h.produced event hEvent)
    · exact h.produced other hOld
  · rcases (Table.mem_put hPut).mp hOther with rfl | ⟨hOld, _⟩
    · obtain ⟨delivery, hDelivery, hAccepted, hCarries⟩ := hPublished hStatus
      exact ⟨delivery, hDelivery, hAccepted, hCarries.later hSame⟩
    · exact h.sound.published other hOld hStatus
  · obtain ⟨old, hOld, hCarries⟩ := h.sound.carries delivery hDelivery
    obtain ⟨kept, hKept, hKeptSame⟩ := hStores old hOld
    exact ⟨kept, hKept, hCarries.later hKeptSame⟩

/-- A message for a stored event is sent. -/
theorem Delivers.send (h : world.Delivers) (turn : RelayTurn) {delivery : BrokerDelivery} (hEvent : world.Stores event)
    (hCarries : delivery.Carries event) :
    (world.send turn delivery).Delivers ∧ world.Grows (world.send turn delivery) := by
  unfold RelayWorld.send
  split
  · exact ⟨h, .refl world⟩
  · obtain ⟨row, hRow, hSame⟩ := hEvent
    refine ⟨⟨h.produced, ⟨fun other hOther hStatus => ?_, fun sent hSent => ?_⟩⟩,
      ⟨fun other hOther => ⟨other, hOther, .refl other⟩, fun _ hSent => List.mem_append_left _ hSent⟩⟩
    · obtain ⟨found, hFound, hAccepted⟩ := h.sound.published other hOther hStatus
      exact ⟨found, List.mem_append_left _ hFound, hAccepted⟩
    · rcases List.mem_append.mp hSent with hOld | hNew
      · exact h.sound.carries sent hOld
      · rw [List.mem_singleton.mp hNew]
        exact ⟨row, hRow, hCarries.later hSame⟩

/-- The service adds events that are pending. -/
theorem Delivers.create (h : world.Delivers) {outbox : Table OutboxEvent} {events : List OutboxEvent}
    (hEvents : ∀ event ∈ events, event.status = .pending ∧ event.data.Produced)
    (hRows : ∀ event, event ∈ outbox.rows ↔ event ∈ world.outbox.rows ∨ event ∈ events) :
    RelayWorld.Delivers { world with outbox := outbox } ∧ world.Grows { world with outbox := outbox } := by
  have hKept : ∀ event ∈ world.outbox.rows, event ∈ outbox.rows := fun event hEvent =>
    (hRows event).mpr (Or.inl hEvent)
  refine ⟨⟨fun event hEvent => ?_, ⟨fun event hEvent hStatus => ?_, fun delivery hDelivery => ?_⟩⟩,
    ⟨fun event hEvent => ⟨event, hKept event hEvent, .refl event⟩, fun _ => id⟩⟩
  · rcases (hRows event).mp hEvent with hOld | hNew
    · exact h.produced event hOld
    · exact (hEvents event hNew).2
  · rcases (hRows event).mp hEvent with hOld | hNew
    · exact h.sound.published event hOld hStatus
    · rw [(hEvents event hNew).1] at hStatus
      cases hStatus
  · obtain ⟨event, hEvent, hCarries⟩ := h.sound.carries delivery hDelivery
    exact ⟨event, hKept event hEvent, hCarries⟩

end RelayWorld

/-- What an answer of the port says about the events and the messages. -/
def ReturnsDelivered : (port : RelayPort) → RelayWorld → port.Answer → Prop
  | .findPendingEvents _, world, events => ∀ event ∈ events, world.Stores event
  | .addJob event job payload, world, _ =>
      { event, broker := .bullMQ job, message := payload, accepted := true } ∈ world.deliveries
  | .publishToQueue event queue message, world, confirmed =>
      confirmed = true → { event, broker := .rabbitMQ queue, message, accepted := true } ∈ world.deliveries
  | _, _, _ => True

/-- What the relays keep to, whatever the others do. -/
def relayContract : Contract relayStore Unit where
  invariant := RelayWorld.Delivers
  guarantee := RelayWorld.Grows
  refl := RelayWorld.Grows.refl
  trans := RelayWorld.Grows.trans
  logged := fun _ _ => False
  returns := ReturnsDelivered
  result := fun _ _ => True
  stable := fun _ _ => trivial

section Relays

variable {world : RelayWorld} {event : OutboxEvent}

/-- The accepted message of an event, for the types that have a broker. -/
def Accepted (event : OutboxEvent) (world : RelayWorld) : Prop :=
  ∀ broker, event.eventType.broker? = some broker →
    ∃ delivery ∈ world.deliveries, delivery.accepted = true ∧ delivery.Carries event

/-- A part of a relay, with nothing asked of its errors. -/
abbrev RelayEnds {Part : Type} (onValue : Part → RelayWorld → Prop) (part : Relay Part) (world : RelayWorld) :
    Prop :=
  Contract.Ends relayContract onValue (fun _ _ => True) part world

theorem relay_carried {turn : RelayTurn} {port : RelayPort}
    (h : (port.perform turn world).2.Delivers ∧ world.Grows (port.perform turn world).2)
    (hReturns : ∀ value, (port.perform turn world).1 = .ok value →
      ReturnsDelivered port (port.perform turn world).2 value) : relayContract.Carried turn port world :=
  Contract.carried_at_once rfl h.1 h.2 nofun hReturns

/-- An operation that changes neither the events nor the messages. -/
theorem relay_quiet {turn : RelayTurn} {port : RelayPort} (hWorld : world.Delivers)
    (hOutbox : (port.perform turn world).2.outbox = world.outbox)
    (hDeliveries : (port.perform turn world).2.deliveries = world.deliveries)
    (hReturns : ∀ value, (port.perform turn world).1 = .ok value →
      ReturnsDelivered port (port.perform turn world).2 value) : relayContract.Carried turn port world := by
  refine relay_carried ⟨⟨?_, ?_⟩, ⟨fun event hEvent => ⟨event, ?_, .refl event⟩, ?_⟩⟩ hReturns
  · rw [hOutbox]
    exact hWorld.produced
  · rw [hOutbox, hDeliveries]
    exact hWorld.sound
  · rw [hOutbox]
    exact hEvent
  · rw [hDeliveries]
    exact fun _ => id

/-- An update of a row keeps the contract unless it publishes the row too early. -/
theorem relay_update {turn : RelayTurn} {port : RelayPort} {id : Uuid} {data : OutboxEvent → OutboxEvent}
    (hWorld : world.Delivers) (hPort : port.update? turn = some (id, data))
    (hDeliveries : (port.perform turn world).2.deliveries = world.deliveries)
    (hPublished : ∀ event ∈ world.outbox.rows, event.id = id → (data event).status = .published →
      ∃ delivery ∈ world.deliveries, delivery.accepted = true ∧ delivery.Carries event)
    (hReturns : ∀ later value, ReturnsDelivered port later value) : relayContract.Carried turn port world := by
  rcases @RelayPort.perform_outbox turn world port with hSame | ⟨_, _, _, event, hUpdate, hEvent, hPut⟩
  · exact relay_quiet hWorld hSame hDeliveries fun value _ => hReturns _ value
  · cases hPort.symm.trans hUpdate
    obtain ⟨hMem, hId⟩ := Table.get?_eq_some.mp hEvent
    have hKept := hWorld.put hMem (RelayPort.sameEvent_of_update hPort event) hPut (hPublished event hMem hId)
    refine relay_carried ?_ fun value _ => hReturns _ value
    obtain ⟨⟨hProduced, hSound⟩, hGrows⟩ := hKept
    refine ⟨⟨hProduced, ?_⟩, ⟨hGrows.stores, ?_⟩⟩
    · rw [hDeliveries]
      exact hSound
    · rw [hDeliveries]
      exact fun _ hDelivery => hDelivery

theorem performUpdate_deliveries (turn : RelayTurn) (world : RelayWorld) (id : Uuid)
    (data : OutboxEvent → OutboxEvent) : (world.performUpdate turn id data).2.deliveries = world.deliveries := by
  rcases @RelayWorld.performUpdate_cases turn world id data with hSame | ⟨_, _, _, _, _, hAfter⟩
  · rw [hSame]
  · rw [hAfter]

/-- Recording a failure is always possible; the row is not published by it. -/
theorem ends_recordFailure (id : Uuid) (error : String) (maxRetries : Nat) :
    RelayEnds (fun _ _ => True) (recordFailure id error maxRetries) world := by
  refine Contract.Ends.bind (Contract.Ends.call (fun turn later _ hWorld => ?_) (fun later current _ _ _ => ?_)
    fun _ _ _ => trivial)
  · exact relay_quiet hWorld rfl rfl fun _ _ => trivial
  · refine Contract.Ends.bind (Contract.Ends.call (fun turn later _ hWorld => ?_) (fun _ _ _ _ _ => trivial)
      fun _ _ _ => trivial)
    refine relay_update hWorld rfl (performUpdate_deliveries turn later id _) (fun event _ _ hStatus => ?_)
      fun _ _ => trivial
    exfalso
    revert hStatus
    show (if _ then OutboxStatus.failed else .pending) = .published → False
    split <;> exact nofun

variable (service : OutboxRelayService)

theorem send_deliveries {turn : RelayTurn} {delivery : BrokerDelivery} (h : turn.failure = none) :
    delivery ∈ (world.send turn delivery).deliveries := by
  unfold RelayWorld.send
  rw [h]
  exact List.mem_append_right _ List.mem_cons_self

/-- A job is added to BullMQ. -/
theorem ends_addJob {job : String} (hEvent : world.Stores event)
    (hBroker : event.eventType.broker? = some (.bullMQ job)) :
    RelayEnds (fun _ later => Accepted event later) (call (RelayPort.addJob event.id job event.jobPayload))
      world := by
  refine Contract.Ends.call (fun turn later hLater hWorld => ?_) (fun later _ _ _ hSent broker _ => ?_)
    fun _ _ _ => trivial
  · refine relay_carried (hWorld.send turn (hEvent.later hLater) (jobDelivery_carries hBroker turn.failure.isNone)) ?_
    intro value hValue
    cases hFailure : turn.failure with
    | none =>
        have hDelivery := @send_deliveries later turn (event.jobDelivery job true) hFailure
        simp only [ReturnsDelivered, RelayPort.perform, hFailure]
        exact hDelivery
    | some error =>
        simp only [RelayPort.perform, hFailure] at hValue
        cases hValue
  · exact ⟨event.jobDelivery job true, hSent, rfl, jobDelivery_carries hBroker true⟩

/-- A message is confirmed by RabbitMQ, or the relay raises an error. -/
theorem ends_publishToQueue {queue : String} (hEvent : world.Stores event)
    (hBroker : event.eventType.broker? = some (.rabbitMQ queue)) (error : RelayError) :
    RelayEnds (fun _ later => Accepted event later)
      (call (RelayPort.publishToQueue event.id queue event.orderMessage) >>= fun published =>
        if published = false then throw error else return ()) world := by
  refine Contract.Ends.bind (Contract.Ends.call (fun turn later hLater hWorld => ?_)
    (fun later confirmed _ _ hSent => ?_) fun _ _ _ => trivial)
  · refine relay_carried (hWorld.send turn (hEvent.later hLater)
      (orderDelivery_carries hBroker (turn.failure.isNone && turn.confirmed))) ?_
    intro value hValue hConfirmed
    cases hFailure : turn.failure with
    | none =>
        simp only [RelayPort.perform, hFailure] at hValue
        cases hValue
        have hDelivery := @send_deliveries later turn (event.orderDelivery queue turn.confirmed) hFailure
        rw [hConfirmed] at hDelivery
        simp only [RelayPort.perform, hFailure, hConfirmed]
        exact hDelivery
    | some error =>
        simp only [RelayPort.perform, hFailure] at hValue
        cases hValue
  · cases confirmed with
    | false => trivial
    | true =>
        exact fun broker _ => ⟨event.orderDelivery queue true, hSent rfl, rfl, orderDelivery_carries hBroker true⟩

/-- The dispatch ends without an error only when the broker of the type has accepted. -/
theorem ends_publish (hEvent : world.Stores event) :
    RelayEnds (fun _ later => Accepted event later) (service.publish event) world := by
  unfold OutboxRelayService.publish
  cases hType : event.eventType with
  | subscriptionActivated => exact ends_addJob hEvent (by rw [hType]; rfl)
  | subscriptionExpired => exact ends_addJob hEvent (by rw [hType]; rfl)
  | orderCaptured =>
      simp only
      split
      · trivial
      · exact ends_publishToQueue hEvent (by rw [hType]; rfl) _
  | orderFailed =>
      simp only
      split
      · trivial
      · exact ends_publishToQueue hEvent (by rw [hType]; rfl) _
  | other name =>
      intro broker hBroker
      rw [hType] at hBroker
      cases hBroker

/-- An event whose message has been accepted may be marked as published. -/
theorem ends_markPublished (hEvent : world.Stores event) (hAccepted : Accepted event world) :
    RelayEnds (fun _ _ => True) (call (RelayPort.markPublished event.id)) world := by
  refine Contract.Ends.call (fun turn later hLater hWorld => ?_) (fun _ _ _ _ _ => trivial) fun _ _ _ => trivial
  refine relay_update hWorld rfl (performUpdate_deliveries turn later event.id _) (fun row hRow hId _ => ?_)
    fun _ _ => trivial
  obtain ⟨stored, hStored, hSame⟩ := hEvent.later hLater
  have hEq : row = stored := Table.eq_of_key hRow hStored (hId.trans hSame.id.symm)
  have hBroker := broker?_of_produced (hWorld.produced row hRow)
  rw [hEq, hSame.eventType] at hBroker
  obtain ⟨broker, hSome⟩ := Option.ne_none_iff_exists'.mp hBroker
  obtain ⟨delivery, hDelivery, hTrue, hCarries⟩ := hAccepted broker hSome
  exact ⟨delivery, hLater.deliveries delivery hDelivery, hTrue, hCarries.later (hEq ▸ hSame)⟩

theorem ends_relayEvent (hEvent : world.Stores event) :
    RelayEnds (fun _ _ => True) (service.relayEvent event) world := by
  have hPublish : RelayEnds (fun _ _ => True)
      (service.publish event >>= fun _ => call (RelayPort.markPublished event.id)) world := by
    refine Contract.Ends.bind ((Contract.Ends.since (ends_publish service hEvent) (.refl world)).mono ?_
      fun _ _ _ => trivial)
    rintro _ later ⟨hAccepted, hGrows⟩
    exact ends_markPublished (hEvent.later hGrows) hAccepted
  refine Contract.Ends.handle (hPublish.mono (fun _ _ _ => trivial) fun err later _ => ?_)
  exact Contract.Ends.bind ((ends_recordFailure event.id err.message maxOutboxRetries).mono
    (fun _ _ _ => trivial) fun _ _ _ => trivial)

/-- The loop, by induction on the rest of the batch. -/
theorem ends_relayEvents {events : List OutboxEvent} (hEvents : ∀ event ∈ events, world.Stores event) :
    RelayEnds (fun _ _ => True) (service.relayEvents events) world := by
  induction events generalizing world with
  | nil => trivial
  | cons event rest ih =>
      have hFirst := ends_relayEvent service (hEvents event List.mem_cons_self)
      refine Contract.Ends.bind ((hFirst.since (.refl world)).mono ?_ fun _ _ _ => trivial)
      rintro _ later ⟨_, hGrows⟩
      exact ih fun other hOther => (hEvents other (List.mem_cons_of_mem event hOther)).later hGrows

theorem ends_quiet {port : RelayPort} {onValue : port.Answer → RelayWorld → Prop}
    (hOutbox : ∀ turn world, (port.perform turn world).2.outbox = world.outbox)
    (hDeliveries : ∀ turn world, (port.perform turn world).2.deliveries = world.deliveries)
    (hReturns : ∀ world value, ReturnsDelivered port world value)
    (hValue : ∀ value later, onValue value later) : RelayEnds onValue (call port) world := by
  refine Contract.Ends.call (fun turn later _ hWorld => ?_) (fun later value _ _ _ => hValue value later)
    fun _ _ _ => trivial
  exact relay_quiet hWorld (hOutbox turn later) (hDeliveries turn later) fun value _ => hReturns _ value

theorem ends_processPendingEvents : RelayEnds (fun _ _ => True) service.processPendingEvents world := by
  refine Contract.Ends.bind (ends_quiet (fun _ _ => rfl) (fun _ _ => rfl) (fun _ _ => trivial) fun busy later => ?_)
  split
  · trivial
  refine Contract.Ends.bind (ends_quiet (fun _ _ => rfl) (fun _ _ => rfl) (fun _ _ => trivial) fun hasLock later => ?_)
  split
  · refine Contract.Ends.bind (ends_quiet (fun _ _ => rfl) (fun _ _ => rfl) (fun _ _ => trivial) fun _ later => ?_)
    have hFinally : ∀ later, RelayEnds (fun _ _ => True) (do
        call (RelayPort.setProcessing service.replica false)
        call (RelayPort.releaseLock relayLockKey)) later := by
      intro later
      refine Contract.Ends.bind (ends_quiet (fun _ _ => rfl) (fun _ _ => rfl) (fun _ _ => trivial) fun _ last => ?_)
      exact ends_quiet (fun _ _ => rfl) (fun _ _ => rfl) (fun _ _ => trivial) fun _ _ => trivial
    have hBatch : RelayEnds (fun _ _ => True)
        (call (RelayPort.findPendingEvents relayBatchSize) >>= service.relayEvents) later := by
      refine Contract.Ends.bind (Contract.Ends.call (fun turn last _ hWorld => ?_) (fun last events _ _ hStored => ?_)
        fun _ _ _ => trivial)
      · refine relay_quiet hWorld rfl rfl fun events hEvents event hEvent => ?_
        simp only [RelayPort.perform] at hEvents
        split at hEvents
        · cases hEvents
          exact ⟨event, (pending_of_pendingEvents hEvent).1, .refl event⟩
        · cases hEvents
      · exact ends_relayEvents service hStored
    exact Contract.Ends.tryFinally (hBatch.mono (fun _ last _ => hFinally last) fun _ last _ => hFinally last)
  · trivial

/-- Every cycle and every replay keeps the contract. -/
theorem follows_relayJob (job : RelayJob) : relayContract.Follows job.process world := by
  refine Contract.Follows.of_ends ?_
  cases job with
  | processPendingEvents service => exact ends_processPendingEvents service
  | replayDeadLetterEvent id =>
      refine Contract.Ends.bind (Contract.Ends.call (fun turn later _ hWorld => ?_) (fun _ _ _ _ _ => trivial)
        fun _ _ _ => trivial)
      exact relay_update hWorld rfl (performUpdate_deliveries turn later id _) (fun _ _ _ => nofun) fun _ _ => trivial

end Relays

section Deployments

variable {config : Config} {kind : Call → Prop} {deployment : Deployment}

theorem relayNext_holds {relays : Relays} (h : relayContract.Holds relays)
    (move : Move RelayJob (Event RelayTurn RelayError)) : relayContract.Holds (relayNext relays move) := by
  cases move with
  | start job => exact Contract.Holds.start h (follows_relayJob job) rfl
  | advance index event =>
      refine Contract.Holds.advance h fun session _ _ => ?_
      rintro writes committed _ hLogged
      exact absurd hLogged id

/-- No move of the deployment spoils the deliveries: the service only adds pending
events, and the relays follow their contract. -/
theorem deployment_delivers (hSessions : (commitContract config kind).Holds deployment.sessions)
    (h : relayContract.Holds deployment.relayPool) (move : DeploymentMove kind) :
    relayContract.Holds (deployment.next config move).relayPool := by
  cases move with
  | service move =>
      have hKept : RelayWorld.Delivers (deployment.next config (.service move)).relayPool.shared ∧
          deployment.relayPool.shared.Grows (deployment.next config (.service move)).relayPool.shared := by
        rcases step_commits hSessions move with hSame | ⟨announced, writes, hCommit, _, hWritten⟩
        · have hShared : (deployment.next config (.service move)).relayPool.shared =
              deployment.relayPool.shared := by
            show RelayWorld.mk (isolate config deployment.sessions move).shared.db.outbox _ _ _ = _
            rw [hSame]
            rfl
          rw [hShared]
          exact ⟨h.shared, .refl _⟩
        · refine h.shared.create (fun event hEvent => ?_) (hCommit.mem_outbox hWritten)
          obtain ⟨_, data, id, now, rfl, hData⟩ := hCommit.events event (Commit.mem_events.mp hEvent)
          exact ⟨rfl, hData⟩
      exact Contract.Holds.interfere h hKept.1 hKept.2 fun _ _ write => nomatch write
  | relay move =>
      by_cases hWaits : deployment.Waits move
      · rw [deployment_waits hWaits]
        exact h
      · rw [deployment_relay hWaits]
        exact relayNext_holds h move
  | elapse milliseconds =>
      refine Contract.Holds.interfere h ⟨h.shared.produced, h.shared.sound⟩ ?_ fun _ _ write => nomatch write
      exact ⟨fun event hEvent => ⟨event, hEvent, .refl event⟩, fun _ => id⟩

/-- From empty tables, in every state of every run of all calls and any number of
relays, with failures and crashes at every await. -/
theorem noSilentDrop_always (config : Config) (kind : Call → Prop) (plans : Table SubscriptionPlan)
    (moves : List (DeploymentMove kind)) :
    Always (Deployment.next config) (World.initial plans).deployed moves fun deployment =>
      NoSilentDrop deployment.outbox deployment.deliveries := by
  have hStart : relayContract.Holds (World.initial plans).deployed.relayPool := by
    refine Pool.Invariant.empty ⟨fun _ hEvent => absurd hEvent List.not_mem_nil, ⟨?_, ?_⟩⟩
    · exact fun _ hEvent => absurd hEvent List.not_mem_nil
    · exact fun _ hDelivery => absurd hDelivery List.not_mem_nil
  intro past _
  have hReached := run_invariant
    (fun deployment : Deployment => (commitContract config kind).Holds deployment.sessions ∧
      relayContract.Holds deployment.relayPool)
    (fun deployment move h => ⟨deployment_holds h.1 move, deployment_delivers h.1 h.2 move⟩)
    ⟨holds_quiet (World.initial plans), hStart⟩ past
  exact hReached.2.shared.sound

end Deployments

end SpotqPayment
