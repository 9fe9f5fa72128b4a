import SpotqPayment.Properties.EventsDelivered
import SpotqPayment.Properties.OutboxComplete
import SpotqPayment.Properties.OutboxDrained
import SpotqPayment.Properties.PublishedTerminal

/-! What has changed is told. Whatever has happened to the service and its relays, once
one relay works through the outbox every payment that is CAPTURED or FAILED and every
subscription that was opened or has EXPIRED is known to its broker, or given up with a
record in the outbox. -/
namespace SpotqPayment

open Process Transition Engine ReadCommitted Draining

variable {config : Config} {kind : Call → Prop} {deployment : Deployment}

section Announced

theorem OutboxEvent.SameEvent.data {event row : OutboxEvent} (h : row.SameEvent event) : row.data = event.data := by
  unfold OutboxEvent.data
  rw [h.eventType, h.aggregateId, h.payload]

/-- Events that stay go on announcing. -/
theorem Database.Announced.grow {db : Database} (h : db.Announced) {outbox : Table OutboxEvent}
    (hRows : ∀ event ∈ db.outbox.rows, ∃ row ∈ outbox.rows, row.SameEvent event) :
    Database.Announced { db with outbox } := by
  have hStays : ∀ Announces : CreateOutboxEventInput → Prop, (∃ event ∈ db.outbox.rows, Announces event.data) →
      ∃ row ∈ outbox.rows, Announces row.data := by
    rintro Announces ⟨event, hEvent, hAnnounces⟩
    obtain ⟨row, hRow, hSame⟩ := hRows event hEvent
    exact ⟨row, hRow, hSame.data ▸ hAnnounces⟩
  constructor
  · exact fun tx hTx orderId hOrder hStatus =>
      hStays (fun data => data.AnnouncesCapture tx orderId) (h.captured tx hTx orderId hOrder hStatus)
  · exact fun tx hTx orderId hOrder hStatus =>
      hStays (fun data => data.AnnouncesFailure tx orderId) (h.failed tx hTx orderId hOrder hStatus)
  · exact fun subscription hRow =>
      hStays (fun data => data.AnnouncesActivation subscription.id) (h.activated subscription hRow)
  · exact fun subscription hRow hStatus =>
      hStays (fun data => data.AnnouncesExpiry subscription.id) (h.expired subscription hRow hStatus)

/-- A relay keeps every event. -/
theorem relayNext_sameEvent (relays : Relays) (move : Move RelayJob (Event RelayTurn RelayError))
    {event : OutboxEvent} (hEvent : event ∈ relays.shared.outbox.rows) :
    ∃ row ∈ (relayNext relays move).shared.outbox.rows, row.SameEvent event := by
  rcases relayNext_outbox relays move with hSame | ⟨_, turn, port, updated, data, old, _, _, _, hPort, hOld, hPut⟩
  · exact ⟨event, hSame ▸ hEvent, .refl event⟩
  · have hSame := RelayPort.sameEvent_of_update hPort old
    by_cases hId : event.id = (data old).id
    · have hEq : event = old := Table.eq_of_key hEvent (Table.get?_eq_some.mp hOld).1 (hId.trans hSame.id)
      exact ⟨data old, (Table.mem_put hPut).mpr (Or.inl rfl), hEq ▸ hSame⟩
    · exact ⟨event, (Table.mem_put hPut).mpr (Or.inr ⟨hEvent, hId⟩), .refl event⟩

theorem deployment_announced (hSessions : (commitContract config kind).Holds deployment.sessions)
    (h : deployment.sessions.shared.db.Announced) (move : DeploymentMove kind) :
    (deployment.next config move).sessions.shared.db.Announced := by
  cases move with
  | service move =>
      show (isolate config deployment.sessions move).shared.db.Announced
      rcases step_commits hSessions move with hSame | ⟨announced, writes, hCommit, hFulfilled, hWritten⟩
      · rw [hSame]
        exact h
      · exact hCommit.announced hWritten hFulfilled h
  | relay move =>
      by_cases hWaits : deployment.Waits move
      · rw [deployment_waits hWaits]
        exact h
      · rw [deployment_relay hWaits]
        exact h.grow fun event hEvent => relayNext_sameEvent deployment.relayPool move hEvent
  | elapse milliseconds => exact h

end Announced

/-- The broker has accepted a message that carries the event, or the event has been given up. -/
def RelayWorld.Told (world : RelayWorld) (Announces : CreateOutboxEventInput → Prop) : Prop :=
  ∃ event ∈ world.outbox.rows, Announces event.data ∧
    ((∃ delivery ∈ world.deliveries, delivery.accepted = true ∧ delivery.Carries event) ∨ event.status = .failed)

/-- Every announced state of the database has been told. -/
structure Database.ToldIn (db : Database) (world : RelayWorld) : Prop where
  captured : ∀ tx ∈ db.transactions.rows, ∀ orderId, tx.orderId = some orderId → tx.status = .captured →
    world.Told fun data => data.AnnouncesCapture tx orderId
  failed : ∀ tx ∈ db.transactions.rows, ∀ orderId, tx.orderId = some orderId → tx.status = .failed →
    world.Told fun data => data.AnnouncesFailure tx orderId
  activated : ∀ subscription ∈ db.subscriptions.rows,
    world.Told fun data => data.AnnouncesActivation subscription.id
  expired : ∀ subscription ∈ db.subscriptions.rows, subscription.status = .expired →
    world.Told fun data => data.AnnouncesExpiry subscription.id

section Cycles

variable {service : OutboxRelayService} {world : RelayWorld} {cycles : List RelayCycle}

/-- A whole cycle keeps the contract of the relays. -/
theorem runCycle_delivers (hWorld : world.Delivers) (cycle : RelayCycle) :
    (service.runCycle world cycle).Delivers ∧ world.Grows (service.runCycle world cycle) := by
  have hEnds : RelayEnds (fun _ _ => True) service.processPendingEvents { world with redis := cycle.redis } :=
    ends_processPendingEvents service
  have hPerform : ∀ (port : RelayPort) state, ∃ turn, relayStore.carry turn port state = .inl (cycle.perform port state) :=
    fun port _ => ⟨cycle.turn port, rfl⟩
  obtain ⟨hAfter, hGrows⟩ := hEnds.exec hPerform ⟨hWorld.produced, hWorld.sound⟩
  exact ⟨hAfter, hGrows.stores, hGrows.deliveries⟩

theorem runCycles_deliver (hWorld : world.Delivers) (cycles : List RelayCycle) :
    (run service.runCycle world cycles).Delivers ∧ world.Grows (run service.runCycle world cycles) := by
  induction cycles generalizing world with
  | nil => exact ⟨hWorld, .refl world⟩
  | cons cycle cycles ih =>
      obtain ⟨hNext, hFirst⟩ := @runCycle_delivers service world hWorld cycle
      obtain ⟨hLast, hRest⟩ := ih hNext
      exact ⟨hLast, hFirst.trans hRest⟩

/-- Enough cycles leave nothing pending, from any state in which the relay is idle. -/
theorem none_pending (hIdle : service.replica ∉ world.processing)
    (hWorks : ∀ cycle ∈ cycles, cycle.Steady ∧ cycle.hasLock = true)
    (hEnough : (world.outbox.rows.filter fun event => event.status = .pending).length / 4 + 5 ≤ cycles.length) :
    ∀ row ∈ (run service.runCycle world cycles).outbox.rows, row.status ≠ .pending := by
  have hStart : Drains service world world :=
    ⟨hIdle, fun row hRow => ⟨row, hRow, .refl row, id, Or.inl⟩, fun event hEvent => ⟨event, Table.get?_key hEvent⟩⟩
  have hSteps : EveryStep service.runCycle world cycles RelayCycle.Works :=
    fun past cycle hPast => hWorks cycle (hPast.subset (List.mem_append_right past (List.mem_singleton_self cycle)))
  have hDrains : Drains service world (run service.runCycle world cycles) :=
    always_of_everyStep _ (fun state cycle hDrains hCycle => (runCycle_rounds service world state cycle hDrains hCycle).1)
      hStart hSteps cycles List.prefix_rfl
  have hRounds : maxOutboxRetries * world.pendingIds.card / relayBatchSize + maxOutboxRetries ≤ cycles.length := by
    rw [RelayWorld.card_pendingIds]
    show 5 * (world.outbox.rows.filter fun event => event.status = .pending).length / 20 + 5 ≤ cycles.length
    omega
  have hEmpty := drained (by decide) (runCycle_rounds service world) hStart hSteps
    (fun id _ => world.attemptsLeft_le id) hRounds
  intro row hRow hPending
  obtain ⟨event, hEvent, hRelayed⟩ := hDrains.rows row hRow
  have hId : row.id ∈ world.pendingIds :=
    RelayWorld.mem_pendingIds.mpr ⟨event, hEvent, hRelayed.pending hPending, hRelayed.sameEvent.id.symm⟩
  have hLeft : (run service.runCycle world cycles).attemptsLeft row.id = 0 := openJobs_eq_empty.mp hEmpty row.id hId
  have hGet : (run service.runCycle world cycles).outbox.get? row.id = some row := Table.get?_key hRow
  rw [RelayWorld.attemptsLeft_of_get? hGet] at hLeft
  exact absurd hLeft (OutboxEvent.attemptsLeft_pos.mpr hPending).ne'

/-- An event that has been stored is told when nothing is pending any more. -/
theorem told_of_stored {final : RelayWorld} (hFinal : final.Delivers) (hGrows : world.Grows final)
    (hNone : ∀ row ∈ final.outbox.rows, row.status ≠ .pending) {Announces : CreateOutboxEventInput → Prop}
    (hStored : ∃ event ∈ world.outbox.rows, Announces event.data) : final.Told Announces := by
  obtain ⟨event, hEvent, hAnnounces⟩ := hStored
  obtain ⟨row, hRow, hSame⟩ := hGrows.stores event hEvent
  refine ⟨row, hRow, hSame.data ▸ hAnnounces, ?_⟩
  cases hStatus : row.status with
  | pending => exact absurd hStatus (hNone row hRow)
  | published => exact Or.inl (hFinal.sound.published row hRow hStatus)
  | failed => exact Or.inr rfl

end Cycles

/-- After any run of all calls and any number of relays, with failures and crashes at
every await, one cycle for every four pending events and five more tell of every change. -/
theorem changes_told (config : Config) (kind : Call → Prop) (plans : Table SubscriptionPlan)
    (moves : List (DeploymentMove kind)) (service : OutboxRelayService) (cycles : List RelayCycle)
    (hWorks : ∀ cycle ∈ cycles, cycle.Steady ∧ cycle.hasLock = true) :
    let deployment := run (Deployment.next config) (World.initial plans).deployed moves
    service.replica ∉ deployment.processing →
      (deployment.outbox.rows.filter fun event => event.status = .pending).length / 4 + 5 ≤ cycles.length →
        deployment.sessions.shared.db.ToldIn (run service.runCycle deployment.relayPool.shared cycles) := by
  intro deployment hIdle hEnough
  have hStart : relayContract.Holds (World.initial plans).deployed.relayPool :=
    Pool.Invariant.empty ⟨fun _ hEvent => absurd hEvent List.not_mem_nil,
      fun _ hEvent => absurd hEvent List.not_mem_nil, fun _ hDelivery => absurd hDelivery List.not_mem_nil⟩
  obtain ⟨_, hRelays, hAnnounced⟩ := run_invariant
    (fun deployment : Deployment => (commitContract config kind).Holds deployment.sessions ∧
      relayContract.Holds deployment.relayPool ∧ deployment.sessions.shared.db.Announced)
    (fun deployment move h => ⟨deployment_holds h.1 move, deployment_delivers h.1 h.2.1 move,
      deployment_announced h.1 h.2.2 move⟩)
    ⟨holds_quiet (World.initial plans), hStart, announced_initial plans⟩ moves
  obtain ⟨hFinal, hGrows⟩ := @runCycles_deliver service deployment.relayPool.shared hRelays.shared cycles
  have hTold : ∀ Announces : CreateOutboxEventInput → Prop, (∃ event ∈ deployment.outbox.rows, Announces event.data) →
      (run service.runCycle deployment.relayPool.shared cycles).Told Announces := fun _ hStored =>
    told_of_stored hFinal hGrows (none_pending hIdle hWorks hEnough) hStored
  constructor
  · exact fun tx hTx orderId hOrder hStatus => hTold _ (hAnnounced.captured tx hTx orderId hOrder hStatus)
  · exact fun tx hTx orderId hOrder hStatus => hTold _ (hAnnounced.failed tx hTx orderId hOrder hStatus)
  · exact fun subscription hRow => hTold _ (hAnnounced.activated subscription hRow)
  · exact fun subscription hRow hStatus => hTold _ (hAnnounced.expired subscription hRow hStatus)

/-- A captured order is told of. -/
theorem changes_told_order :
    let deployment := run (Deployment.next Sample.config) (World.initial Table.empty).deployed Sample.capturedOrder
    deployment.sessions.shared.db.ToldIn
      (run Sample.relay.runCycle deployment.relayPool.shared (List.replicate 5 (Sample.refusing []))) :=
  changes_told Sample.config (fun _ => True) Table.empty Sample.capturedOrder Sample.relay
    (List.replicate 5 (Sample.refusing []))
    (fun _ hCycle => List.eq_of_mem_replicate hCycle ▸ ⟨Sample.refusing_steady [], by decide⟩)
    (by decide +kernel) (by decide +kernel)

end SpotqPayment
