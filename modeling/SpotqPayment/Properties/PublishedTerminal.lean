import SpotqPayment.System.Deployment

/-! A published event stays published as long as no relay reports a failure for it
and nobody replays it. The updates of the relay are unconditional, so a cycle that
has read the event while it was pending can pull it back later. -/
namespace SpotqPayment

open Process Transition Engine ReadCommitted

def Deployment.outboxStatus (deployment : Deployment) (id : Uuid) : Option OutboxStatus :=
  (deployment.outbox.get? id).map (·.status)

/-- The operation gives the row another status than PUBLISHED, whatever it holds by now. -/
def RelayPort.Withdraws (id : Uuid) : RelayPort → Prop
  | .updateFailure target _ _ status => target = id ∧ status ≠ .published
  | .replayDeadLetter target => target = id
  | _ => False

/-- The move executes such an operation. -/
def Deployment.Withdraws (deployment : Deployment) {kind : Call → Prop} (id : Uuid) : DeploymentMove kind → Prop
  | .relay (.advance index (.proceed turn)) =>
      turn.Executes ∧ ¬ deployment.Waits (.advance index (.proceed turn)) ∧
        ∃ port, (deployment.relays[index]?).bind Session.awaited = some port ∧ port.Withdraws id
  | _ => False

/-- No failure report and no replay is executed for an event that is published. -/
def KeepsPublished {kind : Call → Prop} (deployment : Deployment) (move : DeploymentMove kind) : Prop :=
  ∀ id, deployment.outboxStatus id = some .published → ¬ deployment.Withdraws id move

variable {config : Config} {kind : Call → Prop} {deployment : Deployment} {id : Uuid}

theorem outboxStatus_eq_some {status : OutboxStatus} :
    deployment.outboxStatus id = some status ↔
      ∃ event, deployment.outbox.get? id = some event ∧ event.status = status := Option.map_eq_some_iff

theorem withRelays_outbox (relays : Relays) : (deployment.withRelays relays).outbox = relays.shared.outbox := rfl

/-- An operation that withdraws a row updates it. -/
theorem RelayPort.Withdraws.update {port : RelayPort} (h : port.Withdraws id) (turn : RelayTurn) :
    ∃ data, port.update? turn = some (id, data) ∧ ∀ event, (data event).status ≠ .published := by
  cases port with
  | updateFailure target retryCount lastError status =>
      obtain ⟨rfl, hStatus⟩ := h
      exact ⟨_, rfl, fun _ => hStatus⟩
  | replayDeadLetter target =>
      cases h
      exact ⟨_, rfl, fun _ => nofun⟩
  | _ => exact absurd h not_false

/-- Any other update leaves the row published. -/
theorem RelayPort.published_of_update {port : RelayPort} {turn : RelayTurn} {data : OutboxEvent → OutboxEvent}
    (hUpdate : port.update? turn = some (id, data)) (hKeeps : ¬ port.Withdraws id) (event : OutboxEvent) :
    (data event).status = .published := by
  cases port with
  | markPublished target =>
      cases hUpdate
      rfl
  | updateFailure target retryCount lastError status =>
      cases hUpdate
      exact Decidable.byContradiction fun hStatus => hKeeps ⟨rfl, hStatus⟩
  | replayDeadLetter target =>
      cases hUpdate
      exact absurd rfl hKeeps
  | _ => cases hUpdate

/-- A service call commits new events only. -/
theorem service_outboxStatus (h : (commitContract config kind).Holds deployment.sessions)
    (move : Move (RequestOf kind) (Event Env ServiceError)) {status : OutboxStatus}
    (hStatus : deployment.outboxStatus id = some status) :
    (deployment.next config (.service move)).outboxStatus id = some status := by
  obtain ⟨event, hEvent, hEq⟩ := outboxStatus_eq_some.mp hStatus
  refine outboxStatus_eq_some.mpr ⟨event, ?_, hEq⟩
  show (isolate config deployment.sessions move).shared.db.outbox.get? id = some event
  rcases step_commits h move with hSame | ⟨announced, writes, hCommit, _, hWritten⟩
  · rw [hSame]
    exact hEvent
  · obtain ⟨hMem, hId⟩ := Table.get?_eq_some.mp hEvent
    exact Table.get?_eq_some.mpr ⟨hCommit.event_kept hWritten hMem, hId⟩

theorem published_kept (h : (commitContract config kind).Holds deployment.sessions) {move : DeploymentMove kind}
    (hStatus : deployment.outboxStatus id = some .published) (hKeeps : ¬ deployment.Withdraws id move) :
    (deployment.next config move).outboxStatus id = some .published := by
  cases move with
  | service move => exact service_outboxStatus h move hStatus
  | elapse milliseconds => exact hStatus
  | relay move =>
      by_cases hWaits : deployment.Waits move
      · rw [deployment_waits hWaits]
        exact hStatus
      obtain ⟨event, hEvent, hPublished⟩ := outboxStatus_eq_some.mp hStatus
      rw [deployment_relay hWaits, outboxStatus_eq_some, withRelays_outbox]
      rcases relayNext_outbox deployment.relayPool move with
        hSame | ⟨index, turn, port, target, data, row, rfl, hExecutes, hAwaited, hUpdate, hRow, hPut⟩
      · rw [hSame]
        exact ⟨event, hEvent, hPublished⟩
      · have hKey : (data row).id = target :=
          (RelayPort.sameEvent_of_update hUpdate row).id.trans (Table.get?_eq_some.mp hRow).2
        rw [Table.get?_put hPut id]
        by_cases hTarget : (data row).id = id
        · have hSame : target = id := hKey.symm.trans hTarget
          have hOther : ¬ port.Withdraws id := fun hPort =>
            hKeeps ⟨hExecutes, hWaits, port, hAwaited, hPort⟩
          rw [hSame] at hUpdate
          exact ⟨data row, if_pos hTarget, RelayPort.published_of_update hUpdate hOther row⟩
        · exact ⟨event, (if_neg hTarget).trans hEvent, hPublished⟩

theorem published_lost {move : DeploymentMove kind} (hStatus : deployment.outboxStatus id = some .published)
    (hWithdraws : deployment.Withdraws id move) :
    (deployment.next config move).outboxStatus id ≠ some .published := by
  cases move with
  | service move => exact absurd hWithdraws not_false
  | elapse milliseconds => exact absurd hWithdraws not_false
  | relay move =>
      cases move with
      | start job => exact absurd hWithdraws not_false
      | advance index event =>
          cases event with
          | abort error => exact absurd hWithdraws not_false
          | unanswered error => exact absurd hWithdraws not_false
          | crash => exact absurd hWithdraws not_false
          | proceed turn =>
              obtain ⟨hExecutes, hFree, port, hAwaited, hPort⟩ := hWithdraws
              obtain ⟨event, hEvent, _⟩ := outboxStatus_eq_some.mp hStatus
              obtain ⟨data, hUpdate, hData⟩ := hPort.update turn
              obtain ⟨table, hPut⟩ := Table.exists_put_of_no_unique deployment.outbox (data event) rfl rfl
              have hKey : (data event).id = id :=
                (RelayPort.sameEvent_of_update hUpdate event).id.trans (Table.get?_eq_some.mp hEvent).2
              have hAfter : (relayNext deployment.relayPool (.advance index (.proceed turn))).shared.outbox = table := by
                rw [relayNext_awaited hAwaited, RelayPort.perform_update hUpdate,
                  RelayWorld.performUpdate_of_executes hExecutes hEvent hPut]
              intro hStill
              rw [deployment_relay hFree, outboxStatus_eq_some, withRelays_outbox, hAfter] at hStill
              obtain ⟨row, hRow, hPublished⟩ := hStill
              cases ((Table.get?_put hPut id).trans (if_pos hKey)).symm.trans hRow
              exact hData event hPublished

/-- One step keeps every published event exactly when it withdraws none of them. -/
theorem keepsPublished_iff (h : (commitContract config kind).Holds deployment.sessions)
    (move : DeploymentMove kind) :
    KeepsPublished deployment move ↔ ∀ id, deployment.outboxStatus id = some .published →
      (deployment.next config move).outboxStatus id = some .published := by
  constructor
  · exact fun hKeeps id hStatus => published_kept h hStatus (hKeeps id hStatus)
  · exact fun hStable id hStatus hWithdraws => published_lost hStatus hWithdraws (hStable id hStatus)

/-- PUBLISHED is terminal along the run, for every event. -/
def PublishedIsTerminal (config : Config) {kind : Call → Prop} (plans : Table SubscriptionPlan)
    (moves : List (DeploymentMove kind)) : Prop :=
  ∀ id, Stable (Deployment.next config) (World.initial plans).deployed moves fun deployment =>
    deployment.outboxStatus id = some .published

/-- PUBLISHED is terminal in exactly those runs in which no failure is reported for
a published event and no published event is replayed. -/
theorem publishedIsTerminal_iff (config : Config) (kind : Call → Prop) (plans : Table SubscriptionPlan)
    (moves : List (DeploymentMove kind)) :
    PublishedIsTerminal config plans moves ↔
      EveryStep (Deployment.next config) (World.initial plans).deployed moves KeepsPublished :=
  stable_family_iff (fun deployment : Deployment => (commitContract config kind).Holds deployment.sessions)
    (fun _ move h => deployment_holds h move) (fun _ move h => keepsPublished_iff h move) moves
    (holds_quiet (World.initial plans))

namespace Sample

/-- A food order is created and its payment verified, which writes one event. -/
def capturedOrder : List (DeploymentMove fun _ => True) :=
  let created := createOrderPayment 1000 7 50000 Sample.price_pos "order_1"
  let verified := verifyOrderPayment 2000 7 "order_1" "pay_1"
  [.service (.start ⟨created, trivial⟩)] ++ List.replicate 7 (.service (.advance 0 (.proceed created.env))) ++
    [.service (.start ⟨verified, trivial⟩)] ++ List.replicate 8 (.service (.advance 1 (.proceed verified.env)))

/-- Nothing fails, and RabbitMQ answers as given. -/
def relayTurn (confirmed : Bool) : RelayTurn where
  now := 3000
  tie := fun event => event
  redisReachable := true
  failure := none
  takesEffect := true
  confirmed := confirmed

def startCycle (replica : Nat) : DeploymentMove fun _ => True :=
  .relay (.start (.processPendingEvents { replica, hasRabbitMQ := true }))

def relaySteps (index count : Nat) (confirmed : Bool) : List (DeploymentMove fun _ => True) :=
  List.replicate count (.relay (.advance index (.proceed (relayTurn confirmed))))

/-- A cycle outlives its lock, a second one reads the same event, the first one
publishes it, and the second one is refused by RabbitMQ and reports a failure. -/
def overlappingCycles : List (DeploymentMove fun _ => True) :=
  capturedOrder ++ [startCycle 0] ++ relaySteps 0 4 true ++ [.elapse 10000, startCycle 1] ++ relaySteps 1 4 false ++
    relaySteps 0 2 true ++ relaySteps 1 3 false

end Sample

/-- The late failure report makes the published event pending again. -/
theorem publishedIsTerminal_fails :
    ¬ ∀ config (plans : Table SubscriptionPlan) (moves : List (DeploymentMove fun _ => True)),
      PublishedIsTerminal config plans moves := by
  intro h
  have hStable := h Sample.config Table.empty Sample.overlappingCycles 0 (Sample.overlappingCycles.take 30)
    Sample.overlappingCycles (List.take_prefix 30 Sample.overlappingCycles) List.prefix_rfl (by decide +kernel)
  exact absurd hStable (by decide +kernel)

end SpotqPayment
