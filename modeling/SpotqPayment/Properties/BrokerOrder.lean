import SpotqPayment.Library.Log
import SpotqPayment.Library.Run
import SpotqPayment.Infrastructure.Database
import SpotqPayment.Infrastructure.RelayCycle

/-! The order in which the events of one aggregate reach the brokers. A cycle goes on
after a refused event, which waits for the next cycle with its retries, so that a
younger event of the same aggregate can overtake it. -/
namespace SpotqPayment

open Transition Log

/-- What happens to the outbox of a single relay: an event is added, younger than
all that are stored, or a cycle runs in which only the brokers may fail. -/
inductive RelayStep where
  | add (data : CreateOutboxEventInput) (floor : Uuid) (now : Instant)
  | cycle (cycle : RelayCycle) (steady : cycle.Steady)

/-- A time that is not later than all rows adds nothing. -/
def RelayWorld.add (world : RelayWorld) (data : CreateOutboxEventInput) (floor : Uuid) (now : Instant) : RelayWorld :=
  if ∀ row ∈ world.outbox.rows, row.createdAt < now then
    { world with outbox := (world.outbox.put (data.toRow (world.outbox.freshKey floor) now)).getD world.outbox }
  else world

def OutboxRelayService.next (service : OutboxRelayService) (world : RelayWorld) : RelayStep → RelayWorld
  | .add data floor now => world.add data floor now
  | .cycle cycle _ => service.runCycle world cycle

/-- The event was PUBLISHED at the beginning. -/
def PublishedIn (outbox : Table OutboxEvent) (id : Uuid) : Prop :=
  ∃ row ∈ outbox.rows, row.id = id ∧ row.status = .published

instance (outbox : Table OutboxEvent) (id : Uuid) : Decidable (PublishedIn outbox id) :=
  inferInstanceAs (Decidable (∃ row ∈ outbox.rows, _))

/-- A broker has accepted the event: before the beginning, or as the log says. -/
def AcceptedBy (outbox : Table OutboxEvent) (log : List BrokerDelivery) (id : Uuid) : Prop :=
  PublishedIn outbox id ∨ ∃ delivery ∈ log, delivery.event = id ∧ delivery.accepted = true

/-- The later of two events of an aggregate is accepted only after the earlier one, or
when that has been given up. -/
def InOrder (outbox : Table OutboxEvent) (earlierId laterId : Uuid) (world : RelayWorld) : Prop :=
  ∀ earlier ∈ world.outbox.rows, ∀ later ∈ world.outbox.rows, earlier.id = earlierId → later.id = laterId →
    earlier.aggregateId = later.aggregateId → earlier.createdAt < later.createdAt →
      ∀ before delivery after, world.deliveries = before ++ delivery :: after →
        delivery.event = laterId → delivery.accepted = true →
          AcceptedBy outbox before earlierId ∨ earlier.status = .failed

/-- The cycle leaves an event behind without its broker having taken it: the broker
refuses it with retries left, or there is no broker for its type. -/
def OutboxRelayService.LeavesBehind (service : OutboxRelayService) (outbox : Table OutboxEvent) (cycle : RelayCycle)
    (event : OutboxEvent) : Prop :=
  event.status = .pending ∧ service.brokerTakes cycle event = false ∧
      (event.eventType.HasBroker → event.retryCount + 1 < maxOutboxRetries) ∨
    event.status = .published ∧ ¬ event.eventType.HasBroker ∧ ¬ PublishedIn outbox event.id

instance (service : OutboxRelayService) (outbox : Table OutboxEvent) (cycle : RelayCycle) (event : OutboxEvent) :
    Decidable (service.LeavesBehind outbox cycle event) :=
  inferInstanceAs (Decidable (_ ∧ _ ∧ _ ∨ _))

/-- No cycle has the later event taken and leaves the earlier one behind. -/
def KeepsOrder (service : OutboxRelayService) (outbox : Table OutboxEvent) (earlierId laterId : Uuid)
    (world : RelayWorld) : RelayStep → Prop
  | .add _ _ _ => True
  | .cycle cycle _ =>
      ∀ earlier ∈ world.outbox.rows, ∀ later ∈ cycle.attempted world.outbox,
        earlier.id = earlierId → later.id = laterId → earlier.aggregateId = later.aggregateId →
          earlier.createdAt < later.createdAt → service.brokerTakes cycle later = true →
            ¬ service.LeavesBehind outbox cycle earlier

/-- What a single relay knows of its log and its rows. -/
structure RelayHistory (service : OutboxRelayService) (outbox : Table OutboxEvent) (world : RelayWorld) : Prop where
  idle : service.replica ∉ world.processing
  kept : ∀ event ∈ outbox.rows, ∃ row ∈ world.outbox.rows, row.id = event.id
  known : ∀ delivery ∈ world.deliveries, ∃ row ∈ world.outbox.rows, row.id = delivery.event
  taken : ∀ delivery ∈ world.deliveries, delivery.accepted = true → ∀ row ∈ world.outbox.rows,
    row.id = delivery.event → row.status = .published ∧ row.eventType.HasBroker
  published : ∀ row ∈ world.outbox.rows, row.status = .published → row.eventType.HasBroker →
    AcceptedBy outbox world.deliveries row.id
  begun : ∀ row ∈ world.outbox.rows, PublishedIn outbox row.id → row.status = .published

variable {service : OutboxRelayService} {outbox : Table OutboxEvent} {cycle : RelayCycle}
variable {world after : RelayWorld} {event earlier later row : OutboxEvent} {earlierId laterId id : Uuid}
variable {log more : List BrokerDelivery}

theorem AcceptedBy.mono (h : AcceptedBy outbox log id) (hMore : log ⊆ more) : AcceptedBy outbox more id := by
  rcases h with hStart | ⟨delivery, hDelivery, hAccepted⟩
  · exact Or.inl hStart
  · exact Or.inr ⟨delivery, hMore hDelivery, hAccepted⟩

theorem relayHistory_over (service : OutboxRelayService) (outbox : Table OutboxEvent) :
    RelayHistory service outbox (RelayWorld.over outbox) where
  idle := List.not_mem_nil
  kept := fun event hEvent => ⟨event, hEvent, rfl⟩
  known := fun _ hDelivery => absurd hDelivery List.not_mem_nil
  taken := fun _ hDelivery => absurd hDelivery List.not_mem_nil
  published := fun row hRow hPublished _ => Or.inl ⟨row, hRow, rfl, hPublished⟩
  begun := by
    rintro row hRow ⟨other, hOther, hId, hPublished⟩
    rw [← Table.eq_of_key hOther hRow hId]
    exact hPublished

section Add

variable {data : CreateOutboxEventInput} {floor : Uuid} {now : Instant}

/-- An event is added, or nothing happens. -/
theorem RelayWorld.add_cases (world : RelayWorld) (data : CreateOutboxEventInput) (floor : Uuid) (now : Instant) :
    world.add data floor now = world ∨
      (∀ row ∈ world.outbox.rows, row.createdAt < now) ∧
        ∃ table, table.rows = world.outbox.rows ++ [data.toRow (world.outbox.freshKey floor) now] ∧
          world.add data floor now = { world with outbox := table } := by
  unfold add
  split
  · next hLater =>
      obtain ⟨table, hTable⟩ :=
        world.outbox.exists_put_of_no_unique (data.toRow (world.outbox.freshKey floor) now) rfl rfl
      refine Or.inr ⟨hLater, table, Table.rows_put_fresh hTable Table.get?_freshKey, ?_⟩
      rw [hTable]
      rfl
  · exact Or.inl rfl

/-- A new row is pending, and no message has been sent for it. -/
theorem RelayHistory.add (h : RelayHistory service outbox world) : RelayHistory service outbox (world.add data floor now) := by
  rcases world.add_cases data floor now with hSame | ⟨_, table, hRows, hAfter⟩
  · rw [hSame]
    exact h
  · have hFresh : ∀ row ∈ world.outbox.rows, row.id ≠ world.outbox.freshKey floor :=
      fun row hRow => (Table.key_lt_freshKey hRow).ne
    have hCases : ∀ row ∈ table.rows, row ∈ world.outbox.rows ∨ row = data.toRow (world.outbox.freshKey floor) now := by
      intro row hRow
      rw [hRows, List.mem_append, List.mem_singleton] at hRow
      exact hRow
    have hOld : ∀ row ∈ world.outbox.rows, row ∈ table.rows := fun row hRow => by
      rw [hRows]
      exact List.mem_append_left _ hRow
    rw [hAfter]
    exact {
      idle := h.idle
      kept := fun event hEvent => (h.kept event hEvent).imp fun row hRow => ⟨hOld row hRow.1, hRow.2⟩
      known := fun delivery hDelivery => (h.known delivery hDelivery).imp fun row hRow => ⟨hOld row hRow.1, hRow.2⟩
      taken := by
        intro delivery hDelivery hAccepted row hRow hId
        rcases hCases row hRow with hRow | rfl
        · exact h.taken delivery hDelivery hAccepted row hRow hId
        · obtain ⟨other, hOther, hOtherId⟩ := h.known delivery hDelivery
          exact absurd (hOtherId.trans hId.symm) (hFresh other hOther)
      published := by
        intro row hRow hPublished hBroker
        rcases hCases row hRow with hRow | rfl
        · exact h.published row hRow hPublished hBroker
        · cases hPublished
      begun := by
        intro row hRow hStart
        rcases hCases row hRow with hRow | rfl
        · exact h.begun row hRow hStart
        · obtain ⟨event, hEvent, hId, _⟩ := hStart
          obtain ⟨other, hOther, hOtherId⟩ := h.kept event hEvent
          exact absurd (hOtherId.trans hId) (hFresh other hOther) }

/-- An event that is added is younger than all others. -/
theorem InOrder.add (h : InOrder outbox earlierId laterId world) (hHistory : RelayHistory service outbox world) :
    InOrder outbox earlierId laterId (world.add data floor now) := by
  rcases world.add_cases data floor now with hSame | ⟨hLater, table, hRows, hAfter⟩
  · rw [hSame]
    exact h
  · rw [hAfter]
    intro earlier hEarlier later hLate hEarlierId hLaterId hAggregate hOlder before delivery after hLog hEvent hAccepted
    change earlier ∈ table.rows at hEarlier
    change later ∈ table.rows at hLate
    rw [hRows, List.mem_append, List.mem_singleton] at hEarlier hLate
    have hIn : delivery ∈ world.deliveries := by
      rw [hLog]
      exact List.mem_append_right before List.mem_cons_self
    rcases hLate with hLate | rfl
    · rcases hEarlier with hEarlier | rfl
      · exact h earlier hEarlier later hLate hEarlierId hLaterId hAggregate hOlder before delivery after hLog hEvent
          hAccepted
      · exact absurd hOlder (hLater later hLate).le.not_gt
    · obtain ⟨row, hRow, hRowId⟩ := hHistory.known delivery hIn
      exact absurd (hRowId.trans (hEvent.trans hLaterId.symm)) (Table.key_lt_freshKey hRow).ne

end Add

section Cycle

theorem CycleEffect.accepted_of_takes (h : CycleEffect service cycle world after)
    (hIn : event ∈ cycle.attempted world.outbox) (hTakes : service.brokerTakes cycle event = true) :
    AcceptedBy outbox after.deliveries event.id := by
  obtain ⟨_, delivery, hEvent, hAccepted, hDispatch⟩ := dispatch_of_takes hTakes
  refine Or.inr ⟨delivery, ?_, hEvent, hAccepted⟩
  rw [h.deliveries]
  refine List.mem_append_right _ (List.mem_flatMap.mpr ⟨event, hIn, ?_⟩)
  rw [hDispatch]
  exact List.mem_singleton_self delivery

theorem RelayHistory.runCycle (h : RelayHistory service outbox world) (hEffect : CycleEffect service cycle world after) :
    RelayHistory service outbox after where
  idle := hEffect.processing ▸ h.idle
  kept := by
    intro event hEvent
    obtain ⟨row, hRow, hId⟩ := h.kept event hEvent
    obtain ⟨next, hNext, hSame⟩ := hEffect.exists_row hRow
    exact ⟨next, hNext, hSame.id.trans hId⟩
  known := by
    intro delivery hDelivery
    have hRow : ∃ row ∈ world.outbox.rows, row.id = delivery.event := by
      rcases hEffect.delivery_cases hDelivery with hOld | ⟨event, hEvent, _, hId⟩
      · exact h.known delivery hOld
      · exact ⟨event, (RelayCycle.mem_of_attempted hEvent).1, hId.symm⟩
    obtain ⟨row, hRow, hId⟩ := hRow
    obtain ⟨next, hNext, hSame⟩ := hEffect.exists_row hRow
    exact ⟨next, hNext, hSame.id.trans hId⟩
  taken := by
    intro delivery hDelivery hAccepted row hRow hId
    rcases hEffect.delivery_cases hDelivery with hOldDelivery | ⟨event, hEvent, hNew, hEventId⟩
    · rcases hEffect.row_cases hRow with ⟨hOld, _⟩ | ⟨old, hOld, rfl⟩
      · exact h.taken delivery hOldDelivery hAccepted row hOld hId
      · obtain ⟨hMem, hPending⟩ := RelayCycle.mem_of_attempted hOld
        rw [(settle_sameEvent service cycle old).id] at hId
        have hPublished := (h.taken delivery hOldDelivery hAccepted old hMem hId).1
        rw [hPending] at hPublished
        cases hPublished
    · have hMem := (RelayCycle.mem_of_attempted hEvent).1
      rcases hEffect.row_cases hRow with ⟨hOld, hNot⟩ | ⟨old, hOld, rfl⟩
      · rw [Table.eq_of_key hOld hMem (hId.trans hEventId)] at hNot
        exact absurd hEvent hNot
      · obtain ⟨hSettledId, hType, _⟩ := settle_sameEvent service cycle old
        have hSame : old = event := Table.eq_of_key (RelayCycle.mem_of_attempted hOld).1 hMem
          (hSettledId.symm.trans (hId.trans hEventId))
        have hTakes := dispatch_accepted hNew hAccepted
        rw [hType, hSame, settle_published_iff]
        exact ⟨dispatch_ok_iff.mpr fun _ => hTakes, (dispatch_of_takes hTakes).1⟩
  published := by
    intro row hRow hPublished hBroker
    rcases hEffect.row_cases hRow with ⟨hOld, _⟩ | ⟨old, hOld, rfl⟩
    · exact (h.published row hOld hPublished hBroker).mono hEffect.deliveries_subset
    · rw [(settle_sameEvent service cycle old).eventType] at hBroker
      have hTakes := dispatch_ok_iff.mp (settle_published_iff.mp hPublished) hBroker
      rw [(settle_sameEvent service cycle old).id]
      exact hEffect.accepted_of_takes hOld hTakes
  begun := by
    intro row hRow hStart
    rcases hEffect.row_cases hRow with ⟨hOld, _⟩ | ⟨old, hOld, rfl⟩
    · exact h.begun row hOld hStart
    · obtain ⟨hMem, hPending⟩ := RelayCycle.mem_of_attempted hOld
      rw [(settle_sameEvent service cycle old).id] at hStart
      have hPublished := h.begun old hMem hStart
      rw [hPending] at hPublished
      cases hPublished

/-- The messages for the first events of the cycle. -/
def OutboxRelayService.messages (service : OutboxRelayService) (cycle : RelayCycle) (events : List OutboxEvent) :
    List BrokerDelivery :=
  events.flatMap fun event => (service.dispatch cycle event).2

theorem mem_messages {events : List OutboxEvent} {delivery : BrokerDelivery}
    (h : delivery ∈ service.messages cycle events) :
    ∃ event ∈ events, delivery ∈ (service.dispatch cycle event).2 ∧ delivery.event = event.id := by
  obtain ⟨event, hEvent, hDelivery⟩ := List.mem_flatMap.mp h
  exact ⟨event, hEvent, hDelivery, dispatch_event hDelivery⟩

/-- The row after a cycle of an event with a known id. -/
theorem CycleEffect.row_of_id (h : CycleEffect service cycle world after) (hRow : row ∈ after.outbox.rows) :
    ∃ old ∈ world.outbox.rows, row.SameEvent old ∧ (old.status ≠ .pending → row = old) ∧
      (old ∈ cycle.attempted world.outbox → row = service.settle cycle old) := by
  rcases h.row_cases hRow with ⟨hOld, hNot⟩ | ⟨old, hOld, rfl⟩
  · exact ⟨row, hOld, ⟨rfl, rfl, rfl, rfl, rfl⟩, fun _ => rfl, fun hIn => absurd hIn hNot⟩
  · obtain ⟨hMem, hPending⟩ := RelayCycle.mem_of_attempted hOld
    exact ⟨old, hMem, settle_sameEvent service cycle old, fun hOther => absurd hPending hOther, fun _ => rfl⟩

/-- An event that is not left behind has been accepted before a younger one is, or is
given up in this cycle at the latest. -/
theorem InOrder.of_kept (hHistory : RelayHistory service outbox world) (hEarlier : earlier ∈ world.outbox.rows)
    (hLater : later ∈ cycle.attempted world.outbox) (hOlder : earlier.createdAt < later.createdAt)
    (hKept : ¬ service.LeavesBehind outbox cycle earlier) :
    (earlier.status = .failed ∨
        earlier ∈ cycle.attempted world.outbox ∧ (service.settle cycle earlier).status = .failed) ∨
      Throughout (fun before delivery => delivery.event = later.id →
          AcceptedBy outbox (world.deliveries ++ before) earlier.id)
        (service.messages cycle (cycle.attempted world.outbox)) := by
  cases hStatus : earlier.status with
  | failed => exact Or.inl (Or.inl rfl)
  | published =>
      refine Or.inr (throughout_of_forall fun before delivery _ _ => ?_)
      by_cases hBroker : earlier.eventType.HasBroker
      · exact (hHistory.published earlier hEarlier hStatus hBroker).mono (List.subset_append_left _ _)
      · by_contra hNot
        exact hKept (Or.inr ⟨hStatus, hBroker, fun hStart => hNot (Or.inl hStart)⟩)
  | pending =>
      obtain ⟨before, after, hAttempted, hBefore⟩ := RelayCycle.attempted_older hLater hEarlier hStatus hOlder
      cases hTakes : service.brokerTakes cycle earlier with
      | false =>
          have hGivenUp : earlier.eventType.HasBroker ∧ maxOutboxRetries ≤ earlier.retryCount + 1 := by
            by_contra hNot
            refine hKept (Or.inl ⟨hStatus, hTakes, fun hBroker => ?_⟩)
            exact Nat.lt_of_not_le fun hLast => hNot ⟨hBroker, hLast⟩
          refine Or.inl (Or.inr ⟨?_, settle_failed_iff.mpr ⟨fun hOk => ?_, hGivenUp.2⟩⟩)
          · rw [hAttempted]
            exact List.mem_append_left _ hBefore
          · rw [dispatch_ok_iff.mp hOk hGivenUp.1] at hTakes
            cases hTakes
      | true =>
          obtain ⟨_, delivery, hEvent, hAccepted, hDispatch⟩ := dispatch_of_takes hTakes
          have hSent : delivery ∈ service.messages cycle before := by
            refine List.mem_flatMap.mpr ⟨earlier, hBefore, ?_⟩
            rw [hDispatch]
            exact List.mem_singleton_self delivery
          have hNodup := cycle.attempted_nodup world.outbox
          rw [hAttempted, List.map_append, List.nodup_append] at hNodup
          refine Or.inr ?_
          rw [hAttempted]
          unfold OutboxRelayService.messages
          rw [List.flatMap_append, throughout_append]
          constructor
          · refine throughout_of_forall fun _ other hOther hOtherEvent => ?_
            obtain ⟨event, hIn, _, hId⟩ := mem_messages hOther
            exact absurd (hId.symm.trans hOtherEvent)
              (hNodup.2.2 _ (List.mem_map_of_mem hIn) _ (List.mem_map_of_mem List.mem_cons_self))
          · refine throughout_of_forall fun rest other _ _ => Or.inr ⟨delivery, ?_, hEvent, hAccepted⟩
            exact List.mem_append_right _ (List.mem_append_left _ hSent)

theorem InOrder.runCycle (h : InOrder outbox earlierId laterId world) (hHistory : RelayHistory service outbox world)
    (hEffect : CycleEffect service cycle world after) {hSteady : cycle.Steady}
    (hKeeps : KeepsOrder service outbox earlierId laterId world (.cycle cycle hSteady)) :
    InOrder outbox earlierId laterId after := by
  intro earlier hEarlier later hLater hEarlierId hLaterId hAggregate hOlder
  obtain ⟨first, hFirst, hFirstSame, hFirstKept, hFirstSettled⟩ := hEffect.row_of_id hEarlier
  obtain ⟨second, hSecond, hSecondSame, _, _⟩ := hEffect.row_of_id hLater
  rw [hFirstSame.id] at hEarlierId
  rw [hSecondSame.id] at hLaterId
  rw [hFirstSame.aggregateId, hSecondSame.aggregateId] at hAggregate
  rw [hFirstSame.createdAt, hSecondSame.createdAt] at hOlder
  have hOld := h first hFirst second hSecond hEarlierId hLaterId hAggregate hOlder
  have hFailed : first.status = .failed → earlier.status = .failed := fun hFailed => by
    rw [hFirstKept (by rw [hFailed]; decide), hFailed]
  show Throughout (fun before delivery => delivery.event = laterId → delivery.accepted = true →
    AcceptedBy outbox before earlierId ∨ earlier.status = .failed) after.deliveries
  rw [hEffect.deliveries, throughout_append]
  refine ⟨Throughout.imp hOld fun before delivery _ hBefore hEvent hAccepted => ?_, ?_⟩
  · exact (hBefore hEvent hAccepted).imp_right hFailed
  by_cases hTaken : second ∈ cycle.attempted world.outbox ∧ service.brokerTakes cycle second = true
  · have hKept := hKeeps first hFirst second hTaken.1 hEarlierId hLaterId hAggregate hOlder hTaken.2
    rcases InOrder.of_kept hHistory hFirst hTaken.1 hOlder hKept with hGivenUp | hAccepted
    · have hDone : earlier.status = .failed := hGivenUp.elim hFailed fun hSettled => by
        rw [hFirstSettled hSettled.1]
        exact hSettled.2
      exact throughout_of_forall fun _ _ _ _ _ => Or.inr hDone
    · refine Throughout.imp hAccepted fun before delivery _ hBefore hEvent _ => Or.inl ?_
      rw [← hEarlierId]
      exact hBefore (hEvent.trans hLaterId.symm)
  · refine throughout_of_forall fun before delivery hDelivery hEvent hAccepted => absurd ?_ hTaken
    obtain ⟨event, hIn, hNew, hId⟩ := mem_messages hDelivery
    have hSame : event = second := Table.eq_of_key (RelayCycle.mem_of_attempted hIn).1 hSecond
      (hId.symm.trans (hEvent.trans hLaterId.symm))
    rw [← hSame]
    exact ⟨hIn, dispatch_accepted hNew hAccepted⟩

/-- What is accepted before an event of the cycle was not left behind by it. -/
theorem RelayHistory.not_leavesBehind (h : RelayHistory service outbox world) (hEarlier : earlier ∈ world.outbox.rows)
    {before : List OutboxEvent} (hBefore : ∀ event ∈ before, event ∈ cycle.attempted world.outbox)
    (hAccepted : AcceptedBy outbox (world.deliveries ++ service.messages cycle before) earlier.id) :
    ¬ service.LeavesBehind outbox cycle earlier := by
  intro hLeaves
  rcases hAccepted with hStart | ⟨delivery, hDelivery, hEvent, hAccepted⟩
  · have hPublished := h.begun earlier hEarlier hStart
    rcases hLeaves with ⟨hPending, _⟩ | ⟨_, _, hNot⟩
    · rw [hPending] at hPublished
      cases hPublished
    · exact hNot hStart
  · rcases List.mem_append.mp hDelivery with hOld | hNew
    · obtain ⟨hPublished, hBroker⟩ := h.taken delivery hOld hAccepted earlier hEarlier hEvent.symm
      rcases hLeaves with ⟨hPending, _⟩ | ⟨_, hNot, _⟩
      · rw [hPending] at hPublished
        cases hPublished
      · exact hNot hBroker
    · obtain ⟨event, hIn, hSent, hId⟩ := mem_messages hNew
      obtain ⟨hMem, hPending⟩ := RelayCycle.mem_of_attempted (hBefore event hIn)
      have hSame : event = earlier := Table.eq_of_key hMem hEarlier (hId.symm.trans hEvent)
      rw [hSame] at hSent hPending
      rcases hLeaves with ⟨_, hRefused, _⟩ | ⟨hPublished, _⟩
      · rw [dispatch_accepted hSent hAccepted] at hRefused
        cases hRefused
      · rw [hPending] at hPublished
        cases hPublished

/-- An event that is left behind is not given up in the cycle. -/
theorem OutboxRelayService.LeavesBehind.not_failed (h : service.LeavesBehind outbox cycle earlier) :
    (service.settle cycle earlier).status ≠ .failed ∨ earlier.status = .published := by
  rcases h with ⟨_, hRefused, hRetries⟩ | ⟨hPublished, _⟩
  · refine Or.inl fun hFailed => ?_
    obtain ⟨hError, hLast⟩ := settle_failed_iff.mp hFailed
    have hBroker : earlier.eventType.HasBroker := by
      by_contra hNone
      exact hError (dispatch_ok_iff.mpr fun hBroker => absurd hBroker hNone)
    exact absurd (hRetries hBroker) hLast.not_gt
  · exact Or.inr hPublished

/-- A younger event that is taken shows that the older one was not left behind. -/
theorem InOrder.keepsOrder (hHistory : RelayHistory service outbox world)
    (hEffect : CycleEffect service cycle world after) (hAfter : InOrder outbox earlierId laterId after)
    {hSteady : cycle.Steady} : KeepsOrder service outbox earlierId laterId world (.cycle cycle hSteady) := by
  intro earlier hEarlier later hLater hEarlierId hLaterId hAggregate hOlder hTakes hLeaves
  obtain ⟨before, rest, hAttempted⟩ := List.append_of_mem hLater
  obtain ⟨_, delivery, hEvent, hAccepted, hDispatch⟩ := dispatch_of_takes hTakes
  have hLog : after.deliveries =
      (world.deliveries ++ service.messages cycle before) ++ delivery :: service.messages cycle rest := by
    rw [hEffect.deliveries, hAttempted, List.flatMap_append, List.flatMap_cons, hDispatch, List.append_assoc]
    rfl
  obtain ⟨laterRow, hLaterRow, hLaterSame⟩ := hEffect.exists_row (RelayCycle.mem_of_attempted hLater).1
  have hOrder : ∀ row ∈ after.outbox.rows, row.SameEvent earlier →
      AcceptedBy outbox (world.deliveries ++ service.messages cycle before) earlier.id ∨ row.status = .failed := by
    intro row hRow hSame
    rw [hEarlierId]
    refine hAfter row hRow laterRow hLaterRow (hSame.id.trans hEarlierId) (hLaterSame.id.trans hLaterId) ?_ ?_ _ _ _
      hLog (hEvent.trans hLaterId) hAccepted
    · rw [hSame.aggregateId, hLaterSame.aggregateId, hAggregate]
    · rw [hSame.createdAt, hLaterSame.createdAt]
      exact hOlder
  have hBefore : ∀ event ∈ before, event ∈ cycle.attempted world.outbox := fun event hIn => by
    rw [hAttempted]
    exact List.mem_append_left _ hIn
  have hNot : ∃ row ∈ after.outbox.rows, row.SameEvent earlier ∧ row.status ≠ .failed := by
    by_cases hIn : earlier ∈ cycle.attempted world.outbox
    · have hPending := (RelayCycle.mem_of_attempted hIn).2
      refine ⟨_, hEffect.settled_mem hIn, settle_sameEvent service cycle earlier, ?_⟩
      exact hLeaves.not_failed.resolve_right fun hPublished => by
        rw [hPending] at hPublished
        cases hPublished
    · refine ⟨earlier, hEffect.mem_rows.mpr ⟨earlier, hEarlier, (if_neg hIn).symm⟩, ⟨rfl, rfl, rfl, rfl, rfl⟩, ?_⟩
      rcases hLeaves with ⟨hPending, _⟩ | ⟨hPublished, _⟩
      · rw [hPending]
        decide
      · rw [hPublished]
        decide
  obtain ⟨row, hRow, hSame, hLive⟩ := hNot
  exact hHistory.not_leavesBehind hEarlier hBefore ((hOrder row hRow hSame).resolve_right hLive) hLeaves

end Cycle

/-- Two events of one aggregate reach the brokers in order exactly when no cycle has the
later one taken and leaves the earlier one behind. -/
theorem inOrder_iff (service : OutboxRelayService) (outbox : Table OutboxEvent) (earlierId laterId : Uuid)
    (steps : List RelayStep) :
    Always service.next (RelayWorld.over outbox) steps (InOrder outbox earlierId laterId) ↔
      EveryStep service.next (RelayWorld.over outbox) steps (KeepsOrder service outbox earlierId laterId) := by
  refine always_iff_everyStep
    (fun world => RelayHistory service outbox world ∧ InOrder outbox earlierId laterId world) (fun _ h => h.2) ?_ ?_
    steps ⟨relayHistory_over service outbox, fun _ _ _ _ _ _ _ _ before delivery after hLog => ?_⟩
  · rintro world (⟨data, floor, now⟩ | ⟨cycle, hSteady⟩) ⟨hHistory, hOrder⟩ hKeeps
    · exact ⟨hHistory.add, hOrder.add hHistory⟩
    · have hEffect := @runCycle_effect service cycle world hSteady hHistory.idle
      exact ⟨hHistory.runCycle hEffect, hOrder.runCycle hHistory hEffect hKeeps⟩
  · rintro world (⟨data, floor, now⟩ | ⟨cycle, hSteady⟩) ⟨hHistory, _⟩ hAfter
    · trivial
    · exact hAfter.keepsOrder hHistory (runCycle_effect hSteady hHistory.idle)
  · exact absurd hLog (List.append_ne_nil_of_right_ne_nil before (List.cons_ne_nil delivery after)).symm

/-- The renewal of a subscription reaches its broker before the expiry, which was refused
once and waits for the next cycle. -/
theorem inOrder_fails : ¬ ∀ (service : OutboxRelayService) (outbox : Table OutboxEvent) (earlierId laterId : Uuid)
    (steps : List RelayStep), (outbox.rows.map OutboxEvent.createdAt).Nodup →
      Always service.next (RelayWorld.over outbox) steps (InOrder outbox earlierId laterId) := by
  intro h
  have hOrder := (inOrder_iff Sample.relay Sample.renewalOutbox 1 2 _).mp
    (h Sample.relay Sample.renewalOutbox 1 2 [.cycle (Sample.refusing [1]) (Sample.refusing_steady [1])] (by decide))
  have hKeeps := hOrder [] _ List.prefix_rfl Sample.expiredEvent (by decide) Sample.activatedEvent (by decide)
    rfl rfl rfl (by decide) (by decide)
  exact hKeeps (by decide)

end SpotqPayment
