import SpotqPayment.Library.Draining
import SpotqPayment.Infrastructure.RelayCycle

/-! The relay drains the outbox. A cycle sees only the oldest pending events, and those
that fail come back to the head of the queue, but every attempt costs an event one of
the retries that it has left. -/
namespace SpotqPayment

open Transition Draining

/-- The attempts that an event has left until it is either handed on or given up. -/
def OutboxEvent.attemptsLeft (event : OutboxEvent) : Nat :=
  if event.status = .pending then max 1 (maxOutboxRetries - event.retryCount) else 0

/-- Handed on, or given up with the error of the last attempt. -/
def OutboxEvent.Settled (event : OutboxEvent) : Prop :=
  event.status = .published ∨
    event.status = .failed ∧ maxOutboxRetries ≤ event.retryCount ∧ event.lastError.isSome

instance (event : OutboxEvent) : Decidable event.Settled := inferInstanceAs (Decidable (_ ∨ _))

def RelayWorld.pendingIds (world : RelayWorld) : Finset Uuid :=
  ((world.outbox.rows.filter fun event => event.status = .pending).map OutboxEvent.id).toFinset

def RelayWorld.attemptsLeft (world : RelayWorld) (id : Uuid) : Nat :=
  (world.outbox.get? id).elim 0 OutboxEvent.attemptsLeft

/-- What has become of a row since the beginning. -/
structure Relayed (event row : OutboxEvent) : Prop where
  sameEvent : row.SameEvent event
  pending : row.status = .pending → event.status = .pending
  settled : event.status = .pending → row.status = .pending ∨ row.Settled

/-- The state of a relay that drains the outbox of the beginning. -/
structure Drains (service : OutboxRelayService) (start world : RelayWorld) : Prop where
  idle : service.replica ∉ world.processing
  rows : ∀ row ∈ world.outbox.rows, ∃ event ∈ start.outbox.rows, Relayed event row
  kept : ∀ event ∈ start.outbox.rows, ∃ row, world.outbox.get? event.id = some row

variable {service : OutboxRelayService} {cycle : RelayCycle} {event row : OutboxEvent}
variable {start world after : RelayWorld}

theorem OutboxEvent.attemptsLeft_pos : 0 < event.attemptsLeft ↔ event.status = .pending := by
  unfold attemptsLeft
  split
  · next hPending => exact iff_of_true (by omega) hPending
  · next hOther => exact iff_of_false (by omega) hOther

theorem OutboxEvent.attemptsLeft_le (event : OutboxEvent) : event.attemptsLeft ≤ maxOutboxRetries := by
  unfold attemptsLeft maxOutboxRetries
  split <;> omega

/-- An attempt costs a pending event one of the attempts it has left. -/
theorem settle_attemptsLeft (hPending : event.status = .pending) :
    (service.settle cycle event).attemptsLeft < event.attemptsLeft := by
  have hLeft : event.attemptsLeft = max 1 (maxOutboxRetries - event.retryCount) := if_pos hPending
  cases hResult : (service.dispatch cycle event).1 with
  | ok =>
      have hDone : (service.settle cycle event).attemptsLeft = 0 := by
        rw [settle_of_ok hResult]
        rfl
      omega
  | error error =>
      rw [settle_of_error hResult, hLeft]
      by_cases hLast : maxOutboxRetries ≤ event.retryCount + 1
      · have hDone : (failureRecorded (event.retryCount + 1) error.message .failed event).attemptsLeft = 0 := rfl
        rw [if_pos hLast, hDone]
        omega
      · have hAgain : (failureRecorded (event.retryCount + 1) error.message .pending event).attemptsLeft =
            max 1 (maxOutboxRetries - (event.retryCount + 1)) := rfl
        rw [if_neg hLast, hAgain]
        omega

/-- After an attempt an event is pending still or settled. -/
theorem settle_settled (service : OutboxRelayService) (cycle : RelayCycle) (event : OutboxEvent) :
    (service.settle cycle event).status = .pending ∨ (service.settle cycle event).Settled := by
  cases hResult : (service.dispatch cycle event).1 with
  | ok =>
      rw [settle_of_ok hResult]
      exact Or.inr (Or.inl rfl)
  | error error =>
      rw [settle_of_error hResult]
      by_cases hLast : maxOutboxRetries ≤ event.retryCount + 1
      · rw [if_pos hLast]
        exact Or.inr (Or.inr ⟨rfl, hLast, rfl⟩)
      · rw [if_neg hLast]
        exact Or.inl rfl

theorem Relayed.settle (h : Relayed event row) (hPending : row.status = .pending) :
    Relayed event (service.settle cycle row) where
  sameEvent := by
    obtain ⟨hId, hType, hAggregate, hPayload, hCreated⟩ := settle_sameEvent service cycle row
    obtain ⟨hId', hType', hAggregate', hPayload', hCreated'⟩ := h.sameEvent
    exact ⟨hId.trans hId', hType.trans hType', hAggregate.trans hAggregate', hPayload.trans hPayload',
      hCreated.trans hCreated'⟩
  pending := fun _ => h.pending hPending
  settled := fun _ => settle_settled service cycle row

theorem RelayWorld.mem_pendingIds {id : Uuid} :
    id ∈ world.pendingIds ↔ ∃ event ∈ world.outbox.rows, event.status = .pending ∧ event.id = id := by
  simp [pendingIds, and_assoc]

theorem Drains.next (h : Drains service start world) (hEffect : CycleEffect service cycle world after) :
    Drains service start after where
  idle := hEffect.processing ▸ h.idle
  rows := by
    intro row hRow
    obtain ⟨old, hOld, rfl⟩ := hEffect.mem_rows.mp hRow
    obtain ⟨event, hEvent, hRelayed⟩ := h.rows old hOld
    refine ⟨event, hEvent, ?_⟩
    split
    · next hIn => exact hRelayed.settle (RelayCycle.mem_of_attempted hIn).2
    · exact hRelayed
  kept := by
    intro event hEvent
    obtain ⟨row, hRow⟩ := h.kept event hEvent
    exact ⟨_, (hEffect.get? event.id).trans (congrArg _ hRow)⟩

theorem RelayWorld.attemptsLeft_of_get? {id : Uuid} (h : world.outbox.get? id = some row) :
    world.attemptsLeft id = row.attemptsLeft := by
  rw [attemptsLeft, h]
  rfl

/-- The ids that a cycle gets to. -/
def RelayCycle.servedIds (cycle : RelayCycle) (world : RelayWorld) : Finset Uuid :=
  ((cycle.attempted world.outbox).map OutboxEvent.id).toFinset

theorem RelayCycle.mem_servedIds {id : Uuid} :
    id ∈ cycle.servedIds world ↔ ∃ event ∈ cycle.attempted world.outbox, event.id = id := by
  simp [servedIds]

/-- A cycle is a round over the events that were pending at the beginning. -/
theorem CycleEffect.round (h : CycleEffect service cycle world after) (hLock : cycle.hasLock = true)
    (hDrains : Drains service start world) :
    Round start.pendingIds relayBatchSize (cycle.servedIds world) world.attemptsLeft after.attemptsLeft where
  opened := by
    intro id hId
    obtain ⟨event, hEvent, rfl⟩ := RelayCycle.mem_servedIds.mp hId
    obtain ⟨hRow, hPending⟩ := RelayCycle.mem_of_attempted hEvent
    obtain ⟨first, hFirst, hRelayed⟩ := hDrains.rows event hRow
    have hGet : world.outbox.get? event.id = some event := Table.get?_key hRow
    refine Finset.mem_filter.mpr ⟨RelayWorld.mem_pendingIds.mpr ⟨first, hFirst, hRelayed.pending hPending, ?_⟩, ?_⟩
    · exact hRelayed.sameEvent.id.symm
    · rw [RelayWorld.attemptsLeft_of_get? hGet]
      exact OutboxEvent.attemptsLeft_pos.mpr hPending
  full_or_all := by
    have hBatch : cycle.attempted world.outbox = cycle.batch world.outbox := if_pos hLock
    by_cases hFull : (cycle.batch world.outbox).length < relayBatchSize
    · refine Or.inr fun id hOpen => ?_
      obtain ⟨hId, hLeft⟩ := Finset.mem_filter.mp hOpen
      obtain ⟨event, hEvent, _, rfl⟩ := RelayWorld.mem_pendingIds.mp hId
      obtain ⟨row, hRow⟩ := hDrains.kept event hEvent
      obtain ⟨hMem, hKey⟩ := Table.get?_eq_some.mp hRow
      rw [RelayWorld.attemptsLeft_of_get? hRow] at hLeft
      refine RelayCycle.mem_servedIds.mpr ⟨row, ?_, hKey⟩
      rw [hBatch]
      exact mem_pendingEvents_of_length_lt hFull hMem (OutboxEvent.attemptsLeft_pos.mp hLeft)
    · refine Or.inl ?_
      rw [RelayCycle.servedIds, List.toFinset_card_of_nodup (cycle.attempted_nodup world.outbox), List.length_map,
        hBatch]
      exact Nat.le_of_not_lt hFull
  spends := by
    intro id hId
    obtain ⟨event, hEvent, rfl⟩ := RelayCycle.mem_servedIds.mp hId
    obtain ⟨hRow, hPending⟩ := RelayCycle.mem_of_attempted hEvent
    have hBefore : world.outbox.get? event.id = some event := Table.get?_key hRow
    have hAfter : after.outbox.get? event.id = some (service.settle cycle event) := by
      rw [h.get?, hBefore, Option.map_some, if_pos hEvent]
    rw [RelayWorld.attemptsLeft_of_get? hBefore, RelayWorld.attemptsLeft_of_get? hAfter]
    exact settle_attemptsLeft hPending
  keeps := by
    intro id hId hNot
    obtain ⟨event, hEvent, _, rfl⟩ := RelayWorld.mem_pendingIds.mp hId
    obtain ⟨row, hRow⟩ := hDrains.kept event hEvent
    have hOther : row ∉ cycle.attempted world.outbox := fun hIn =>
      hNot (RelayCycle.mem_servedIds.mpr ⟨row, hIn, (Table.get?_eq_some.mp hRow).2⟩)
    have hAfter : after.outbox.get? event.id = some row := by
      rw [h.get?, hRow, Option.map_some, if_neg hOther]
    rw [RelayWorld.attemptsLeft_of_get? hRow, RelayWorld.attemptsLeft_of_get? hAfter]

/-- A cycle of a relay that gets the lock and whose database does not fail. -/
def RelayCycle.Works (_ : RelayWorld) (cycle : RelayCycle) : Prop := cycle.Steady ∧ cycle.hasLock = true

theorem runCycle_rounds (service : OutboxRelayService) (start : RelayWorld) :
    Rounds start.pendingIds relayBatchSize service.runCycle RelayWorld.attemptsLeft (Drains service start)
      RelayCycle.Works := by
  intro world cycle hDrains hWorks
  have hEffect := @runCycle_effect service cycle world hWorks.1 hDrains.idle
  exact ⟨hDrains.next hEffect, _, hEffect.round hWorks.2 hDrains⟩

theorem drains_over (service : OutboxRelayService) (outbox : Table OutboxEvent) :
    Drains service (RelayWorld.over outbox) (RelayWorld.over outbox) where
  idle := List.not_mem_nil
  rows := fun row hRow => ⟨row, hRow, ⟨rfl, rfl, rfl, rfl, rfl⟩, id, Or.inl⟩
  kept := fun event hEvent => ⟨event, Table.get?_key hEvent⟩

theorem RelayWorld.attemptsLeft_le (world : RelayWorld) (id : Uuid) : world.attemptsLeft id ≤ maxOutboxRetries := by
  unfold attemptsLeft
  cases world.outbox.get? id with
  | none => exact Nat.zero_le _
  | some row => exact row.attemptsLeft_le

theorem RelayWorld.card_pendingIds (world : RelayWorld) :
    world.pendingIds.card = (world.outbox.rows.filter fun event => event.status = .pending).length := by
  have hNodup : ((world.outbox.rows.filter fun event => event.status = .pending).map OutboxEvent.id).Nodup :=
    world.outbox.keys_nodup.sublist (List.filter_sublist.map OutboxEvent.id)
  rw [pendingIds, List.toFinset_card_of_nodup hNodup, List.length_map]

/-- After one cycle for every four pending events and five more nothing is pending, and
each event that was is handed on or given up. -/
theorem outbox_drained (service : OutboxRelayService) (outbox : Table OutboxEvent) (cycles : List RelayCycle)
    (hWorks : ∀ cycle ∈ cycles, cycle.Steady ∧ cycle.hasLock = true)
    (hEnough : (outbox.rows.filter fun event => event.status = .pending).length / 4 + 5 ≤ cycles.length) :
    let final := run service.runCycle (RelayWorld.over outbox) cycles
    (∀ row ∈ final.outbox.rows, row.status ≠ .pending) ∧
      ∀ event ∈ outbox.rows, event.status = .pending →
        ∃ row ∈ final.outbox.rows, row.SameEvent event ∧ row.Settled := by
  intro final
  have hSteps : EveryStep service.runCycle (RelayWorld.over outbox) cycles RelayCycle.Works :=
    fun past cycle hPast => hWorks cycle (hPast.subset (List.mem_append_right past (List.mem_singleton_self cycle)))
  have hDrains : Drains service (RelayWorld.over outbox) final :=
    always_of_everyStep _ (fun world cycle hDrains hCycle => (runCycle_rounds service _ world cycle hDrains hCycle).1)
      (drains_over service outbox) hSteps cycles List.prefix_rfl
  have hRounds : maxOutboxRetries * (RelayWorld.over outbox).pendingIds.card / relayBatchSize + maxOutboxRetries ≤
      cycles.length := by
    rw [RelayWorld.card_pendingIds]
    show 5 * (outbox.rows.filter fun event => event.status = .pending).length / 20 + 5 ≤ cycles.length
    omega
  have hEmpty := drained (by decide) (runCycle_rounds service _) (drains_over service outbox) hSteps
    (fun id _ => RelayWorld.attemptsLeft_le _ id) hRounds
  have hNone : ∀ row ∈ final.outbox.rows, row.status ≠ .pending := by
    intro row hRow hPending
    obtain ⟨event, hEvent, hRelayed⟩ := hDrains.rows row hRow
    have hId : row.id ∈ (RelayWorld.over outbox).pendingIds :=
      RelayWorld.mem_pendingIds.mpr ⟨event, hEvent, hRelayed.pending hPending, hRelayed.sameEvent.id.symm⟩
    have hGet : final.outbox.get? row.id = some row := Table.get?_key hRow
    have hLeft : final.attemptsLeft row.id = 0 := openJobs_eq_empty.mp hEmpty row.id hId
    rw [RelayWorld.attemptsLeft_of_get? hGet] at hLeft
    exact absurd hLeft (OutboxEvent.attemptsLeft_pos.mpr hPending).ne'
  refine ⟨hNone, fun event hEvent hPending => ?_⟩
  obtain ⟨row, hRow⟩ := hDrains.kept event hEvent
  obtain ⟨hMem, hKey⟩ := Table.get?_eq_some.mp hRow
  obtain ⟨first, hFirst, hRelayed⟩ := hDrains.rows row hMem
  have hSame : first = event := Table.eq_of_key hFirst hEvent (hRelayed.sameEvent.id.symm.trans hKey)
  rw [hSame] at hRelayed
  exact ⟨row, hMem, hRelayed.sameEvent, (hRelayed.settled hPending).resolve_left (hNone row hMem)⟩

/-- Two events, the first of which is refused for ever. -/
theorem outbox_drained_renewal :
    let cycles := List.replicate 5 (Sample.refusing [1])
    let final := run Sample.relay.runCycle (RelayWorld.over Sample.renewalOutbox) cycles
    (∀ row ∈ final.outbox.rows, row.status ≠ .pending) ∧
      ∀ event ∈ Sample.renewalOutbox.rows, event.status = .pending →
        ∃ row ∈ final.outbox.rows, row.SameEvent event ∧ row.Settled :=
  outbox_drained Sample.relay Sample.renewalOutbox (List.replicate 5 (Sample.refusing [1]))
    (fun cycle hCycle => List.eq_of_mem_replicate hCycle ▸ ⟨Sample.refusing_steady [1], by decide⟩) (by decide)

end SpotqPayment
