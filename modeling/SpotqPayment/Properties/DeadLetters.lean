import SpotqPayment.Library.Credit
import SpotqPayment.Properties.EventsDelivered
import SpotqPayment.Properties.PublishedTerminal
import Mathlib.Data.Multiset.OrderedMonoid

/-! When an event is given up. The counter of its retries may lose updates to each other,
but a relay raises it only after an attempt of its own has failed, so that it never
exceeds the number of failed attempts. -/
namespace SpotqPayment

open Process Transition Engine ReadCommitted

section Attempts

variable (id : Uuid)

/-- What the relay makes of a message that the queue does not take. -/
def notPublished (queue : String) (message : Fields) : String :=
  match message.lookup "eventType" with
  | some (.text name) => "Failed to publish event '" ++ name ++ "' to RabbitMQ queue '" ++ queue ++ "'"
  | _ => ""

/-- The answer makes an attempt at the event fail, with a message: its broker has not taken
the event, or the event could not be marked as published. -/
def RelayPort.failedAttempts : (port : RelayPort) → Except RelayError port.Answer → Multiset String
  | .addJob event _ _, .error error => if event = id then {error.message} else 0
  | .publishToQueue event _ _, .error error => if event = id then {error.message} else 0
  | .publishToQueue event queue message, .ok published =>
      if event = id ∧ published = false then {notPublished queue message} else 0
  | .markPublished event, .error error => if event = id then {error.message} else 0
  | _, _ => 0

/-- The operation records a failure of the event with its message. -/
def RelayPort.recordedFailures : RelayPort → Multiset String
  | .updateFailure event _ lastError _ => if event = id then {lastError} else 0
  | _ => 0

/-- A recorded failure counts no more than what has been recorded, and itself. -/
def RelayPort.Records (recorded : Multiset String) : RelayPort → Prop
  | .updateFailure event retryCount _ status => event = id → retryCount ≤ recorded.card + 1 ∧
      status = if maxOutboxRetries ≤ retryCount then .failed else .pending
  | _ => True

def RelayPort.Reads (recorded : Multiset String) : (port : RelayPort) → Except RelayError port.Answer → Prop
  | .findRetryCount event, .ok current => event = id → ∀ retryCount ∈ current, retryCount ≤ recorded.card
  | _, _ => True

/-- A failure is recorded for each failed attempt, with its message and with a counter that
the failures recorded so far account for. -/
def attemptTariff : Tariff (Multiset String) RelayError RelayPort.Answer where
  cost := RelayPort.recordedFailures id
  gain := RelayPort.failedAttempts id
  allowed := RelayPort.Records id
  expected := RelayPort.Reads id

/-- The relay has failed attempts to its credit for the failures that it goes on to record. -/
def AccountsFor (recorded : Multiset String) (session : RelaySession) (credit : Multiset String) : Prop :=
  match session with
  | .outside program => program.Pays (attemptTariff id) (fun _ _ => True) (fun _ _ => True) credit recorded
  | .inside _ _ _ => False
  | .crashed => True

end Attempts

/-- The row of an event with such failures recorded. -/
structure OutboxEvent.Counts (event : OutboxEvent) (recorded : Multiset String) : Prop where
  retryCount : event.retryCount ≤ recorded.card
  pending : event.status = .pending → event.retryCount < maxOutboxRetries
  failed : event.status = .failed → maxOutboxRetries ≤ event.retryCount ∧ ∃ message ∈ recorded, event.lastError = some message

theorem OutboxEvent.Counts.later {event : OutboxEvent} {recorded later : Multiset String} (h : event.Counts recorded)
    (hLater : recorded ≤ later) : event.Counts later where
  retryCount := h.retryCount.trans (Multiset.card_le_card hLater)
  pending := h.pending
  failed := by
    intro hFailed
    obtain ⟨hCount, message, hMessage, hLast⟩ := h.failed hFailed
    exact ⟨hCount, message, Multiset.mem_of_le hLater hMessage, hLast⟩

section Relays

variable {id : Uuid} {credit recorded : Multiset String} {event : OutboxEvent} {service : OutboxRelayService}

/-- A relay that ends in any way. -/
abbrev Affords {Part : Type} (id : Uuid) (part : Relay Part) (credit recorded : Multiset String) : Prop :=
  part.Pays (attemptTariff id) (fun _ _ => True) (fun _ _ => True) credit recorded

/-- An operation that costs nothing. -/
theorem affords_free {port : RelayPort} (hCost : (attemptTariff id).cost port = 0)
    (hAllowed : ∀ later, (attemptTariff id).allowed later port) : Affords id (call port) credit recorded :=
  Pays.call (hCost ▸ Multiset.zero_le credit) (fun later _ => hAllowed later) (fun _ => trivial) fun _ => trivial

/-- After a failed attempt its failure can be recorded. -/
theorem affords_recordFailure (other : Uuid) (message : String) (hCredit : other = id → {message} ≤ credit) :
    Affords id (recordFailure other message maxOutboxRetries) credit recorded := by
  refine Pays.call_bind (Multiset.zero_le credit) (fun _ _ => trivial) (fun later _ current hCurrent => ?_)
    fun _ => trivial
  refine Pays.call_bind ?_ (fun last hLast => ?_) (fun _ _ _ _ => trivial) fun _ => trivial
  · show (if other = id then {message} else 0) ≤ credit - 0 + 0
    rw [Multiset.sub_zero, add_zero]
    split
    · next hSame => exact hCredit hSame
    · exact Multiset.zero_le credit
  · intro hSame
    refine ⟨?_, rfl⟩
    have hLater : later + 0 ≤ last := hLast
    rw [add_zero] at hLater
    cases current with
    | none => exact Nat.le_add_left 1 _
    | some retryCount =>
        have hCount : retryCount ≤ later.card := hCurrent hSame retryCount rfl
        exact Nat.succ_le_succ (hCount.trans (Multiset.card_le_card hLater))

theorem notPublished_orderMessage (event : OutboxEvent) (queue : String) : notPublished queue event.orderMessage =
    "Failed to publish event '" ++ event.eventType.name ++ "' to RabbitMQ queue '" ++ queue ++ "'" := by
  have hType : event.orderMessage.lookup "eventType" = some (.text event.eventType.name) := by
    rw [OutboxEvent.orderMessage, lookup_spread, (lookup_envelope _).2]
    rfl
  rw [notPublished, hType]

/-- A publish that fails has made an attempt with the message of its error. -/
theorem pays_publish (hConfigured : service.hasRabbitMQ = true) :
    (service.publish event).Pays (attemptTariff id) (fun _ _ => True)
      (fun error left => event.id = id → {error.message} ≤ left) credit recorded := by
  have hJob : ∀ job, (call (RelayPort.addJob event.id job event.jobPayload)).Pays (attemptTariff id) (fun _ _ => True)
      (fun error left => event.id = id → {error.message} ≤ left) credit recorded := by
    intro job
    refine Pays.call (Multiset.zero_le credit) (fun _ _ => trivial) (fun _ => trivial) fun error hSame => ?_
    exact le_add_of_le_right (if_pos hSame).ge
  have hQueue : (call (RelayPort.publishToQueue event.id orderEventsQueue event.orderMessage) >>=
      fun published => if published = false then throw (.error ("Failed to publish event '" ++ event.eventType.name ++
        "' to RabbitMQ queue '" ++ orderEventsQueue ++ "'")) else return ()).Pays (attemptTariff id) (fun _ _ => True)
        (fun error left => event.id = id → {error.message} ≤ left) credit recorded := by
    refine Pays.call_bind (Multiset.zero_le credit) (fun _ _ => trivial) (fun later _ published _ => ?_)
      fun error hSame => ?_
    · cases published with
      | true => trivial
      | false =>
          intro hSame
          rw [← notPublished_orderMessage]
          exact le_add_of_le_right (if_pos ⟨hSame, rfl⟩).ge
    · exact le_add_of_le_right (if_pos hSame).ge
  have hRabbit : ¬ service.hasRabbitMQ = false := by simp [hConfigured]
  unfold OutboxRelayService.publish
  cases hType : event.eventType with
  | subscriptionActivated => exact hJob _
  | subscriptionExpired => exact hJob _
  | orderCaptured =>
      rw [hType] at hQueue
      simp only [if_neg hRabbit]
      exact hQueue
  | orderFailed =>
      rw [hType] at hQueue
      simp only [if_neg hRabbit]
      exact hQueue
  | other name => trivial

theorem affords_relayEvent (hConfigured : service.hasRabbitMQ = true) :
    Affords id (service.relayEvent event) credit recorded := by
  refine Pays.handle (Pays.bind ((pays_publish hConfigured).mono (fun _ left _ later => ?_) ?_))
  · refine Pays.call (Multiset.zero_le left) (fun _ _ => trivial) (fun _ => trivial) fun error last => ?_
    refine Pays.bind ((affords_recordFailure event.id error.message fun hSame => ?_).mono (fun _ _ _ _ => trivial)
      fun _ _ _ => trivial)
    exact le_add_of_le_right (if_pos hSame).ge
  · intro error left hLeft later
    exact Pays.bind ((affords_recordFailure event.id error.message hLeft).mono (fun _ _ _ _ => trivial)
      fun _ _ _ => trivial)

/-- The loop, by induction on the rest of the batch. -/
theorem affords_relayEvents (hConfigured : service.hasRabbitMQ = true) (events : List OutboxEvent) :
    Affords id (service.relayEvents events) credit recorded := by
  induction events generalizing credit recorded with
  | nil => trivial
  | cons event rest ih =>
      exact Pays.bind ((affords_relayEvent hConfigured).mono (fun _ _ _ _ => ih) fun _ _ _ => trivial)

theorem affords_processPendingEvents (hConfigured : service.hasRabbitMQ = true) :
    Affords id service.processPendingEvents credit recorded := by
  refine Pays.call_bind (Multiset.zero_le _) (fun _ _ => trivial) (fun _ _ busy _ => ?_) fun _ => trivial
  split
  · trivial
  · refine Pays.call_bind (Multiset.zero_le _) (fun _ _ => trivial) (fun _ _ hasLock _ => ?_) fun _ => trivial
    split
    · refine Pays.call_bind (Multiset.zero_le _) (fun _ _ => trivial) (fun _ _ _ _ => ?_) fun _ => trivial
      have hFinally : ∀ left later, Affords id (do
          call (RelayPort.setProcessing service.replica false)
          call (RelayPort.releaseLock relayLockKey)) left later := fun left later =>
        Pays.call_bind (Multiset.zero_le _) (fun _ _ => trivial) (fun _ _ _ _ => affords_free rfl fun _ => trivial)
          fun _ => trivial
      have hBatch : ∀ left later,
          Affords id (call (RelayPort.findPendingEvents relayBatchSize) >>= service.relayEvents) left later :=
        fun left later => Pays.call_bind (Multiset.zero_le _) (fun _ _ => trivial)
          (fun _ _ events _ => affords_relayEvents hConfigured events) fun _ => trivial
      exact Pays.tryFinally ((hBatch _ _).mono (fun _ left _ => hFinally left) fun _ left _ => hFinally left)
    · trivial

theorem affords_replayDeadLetterEvent (event : Uuid) : Affords id (replayDeadLetterEvent event) credit recorded :=
  Pays.call_bind (Multiset.zero_le _) (fun _ _ => trivial) (fun _ _ _ _ => trivial) fun _ => trivial

end Relays

section Deployments

variable {config : Config} {kind : Call → Prop} {deployment : Deployment} {id : Uuid}
variable {recorded made : Multiset String}

/-- The attempts at an event that fail when the session takes its step, by their messages. -/
def failedByStep (id : Uuid) (session : RelaySession) (turn : RelayTurn) (world : RelayWorld) : Multiset String :=
  session.awaited.elim 0 fun port => port.failedAttempts id (port.perform turn world).1

/-- The attempts at an event that fail in a step of the deployment. -/
def Deployment.failedAttempts (id : Uuid) (deployment : Deployment) : DeploymentMove kind → Multiset String
  | .relay (.advance index (.proceed turn)) =>
      if deployment.Waits (.advance index (.proceed turn)) then 0
      else deployment.relays[index]?.elim 0 fun session => failedByStep id session turn deployment.relayPool.shared
  | _ => 0

/-- Those that fail in a run. -/
def failedAttemptsIn (config : Config) (id : Uuid) : Deployment → List (DeploymentMove kind) → Multiset String
  | _, [] => 0
  | deployment, move :: moves =>
      deployment.failedAttempts id move + failedAttemptsIn config id (deployment.next config move) moves

/-- The failures recorded for the event have been paid for with failed attempts, and its
row counts no more of them. -/
structure Deployment.Accounts (id : Uuid) (deployment : Deployment) (recorded made : Multiset String) : Prop where
  relays : Pool.Solvent (AccountsFor id) deployment.relays recorded made
  rows : ∀ event ∈ deployment.outbox.rows, event.id = id → event.Counts recorded

theorem AccountsFor.later {session : RelaySession} {credit later : Multiset String} (h : AccountsFor id recorded session credit)
    (hLater : recorded ≤ later) : AccountsFor id later session credit := by
  cases session with
  | outside program => exact Pays.later h hLater
  | inside body writes next => exact h
  | crashed => trivial

/-- A row that a relay updates counts the failures that are recorded then. -/
theorem counts_of_update {port : RelayPort} {turn : RelayTurn} {updated : Uuid} {data : OutboxEvent → OutboxEvent}
    {event : OutboxEvent} (hPort : port.update? turn = some (updated, data)) (hUpdated : updated = id)
    (hAllowed : (attemptTariff id).allowed recorded port) (hEvent : event.Counts recorded) :
    (data event).Counts (recorded + port.recordedFailures id) := by
  cases port with
  | markPublished other =>
      cases hPort
      have hCost : RelayPort.recordedFailures id (.markPublished updated) = 0 := rfl
      rw [hCost, add_zero]
      exact ⟨hEvent.retryCount, nofun, nofun⟩
  | updateFailure other retryCount lastError status =>
      cases hPort
      obtain ⟨hCount, hStatus⟩ := hAllowed hUpdated
      have hCost : RelayPort.recordedFailures id (.updateFailure updated retryCount lastError status) = {lastError} :=
        if_pos hUpdated
      have hCard : (recorded + {lastError}).card = recorded.card + 1 := Multiset.card_add recorded {lastError}
      rw [hCost]
      refine ⟨hCard ▸ hCount, fun hPending => ?_, fun hFailed => ?_⟩
      · have hPending : status = .pending := hPending
        rw [hStatus] at hPending
        split at hPending
        · cases hPending
        · next hLess => exact not_le.mp hLess
      · have hFailed : status = .failed := hFailed
        rw [hStatus] at hFailed
        split at hFailed
        · next hMost =>
            exact ⟨hMost, lastError, Multiset.mem_add.mpr (Or.inr (Multiset.mem_singleton_self _)), rfl⟩
        · cases hFailed
  | replayDeadLetter other =>
      cases hPort
      exact ⟨Nat.zero_le _, fun _ => (by decide : 0 < maxOutboxRetries), nofun⟩
  | _ => cases hPort

/-- What a relay reads of the counter is accounted for. -/
theorem expected_answer {port : RelayPort} {turn : RelayTurn} {world : RelayWorld}
    (hRows : ∀ event ∈ world.outbox.rows, event.id = id → event.Counts recorded) :
    (attemptTariff id).expected recorded port (port.perform turn world).1 := by
  cases port with
  | findRetryCount other =>
      show RelayPort.Reads id recorded (.findRetryCount other) _
      cases hFailure : turn.failure with
      | some error =>
          simp only [RelayPort.perform, hFailure]
          trivial
      | none =>
          simp only [RelayPort.perform, hFailure]
          intro hSame retryCount hCount
          obtain ⟨event, hRow, rfl⟩ := Option.map_eq_some_iff.mp hCount
          obtain ⟨hMem, hId⟩ := Table.get?_eq_some.mp hRow
          exact (hRows event hMem (hId.trans hSame)).retryCount
  | _ => trivial

/-- What a step of a relay does for the accounts: it records some failures, at most one,
for which the relay has the credit, and its row goes by them. -/
theorem step_accounts {others : List RelaySession} {session : RelaySession} {turn : RelayTurn} {world : RelayWorld}
    (hRows : ∀ event ∈ world.outbox.rows, event.id = id → event.Counts recorded)
    (hSession : ∃ credit, AccountsFor id recorded session credit) :
    ∃ cost, (∀ event ∈ (relayStore.step (.proceed turn) others session world).1.outbox.rows, event.id = id →
        event.Counts (recorded + cost)) ∧
      ∀ credit, AccountsFor id recorded session credit →
        ∃ left, AccountsFor id (recorded + cost) (relayStore.step (.proceed turn) others session world).2 left ∧
          left + cost ≤ credit + failedByStep id session turn world := by
  by_cases hIdle : relayStore.step (.proceed turn) others session world = (world, session)
  · rw [hIdle]
    refine ⟨0, ?_, fun credit hCredit => ⟨credit, ?_, ?_⟩⟩
    · rw [add_zero]
      exact hRows
    · rw [add_zero]
      exact hCredit
    · rw [add_zero]
      exact le_self_add
  cases session with
  | inside body writes next =>
      obtain ⟨credit, hCredit⟩ := hSession
      exact hCredit.elim
  | crashed => exact absurd rfl hIdle
  | outside program =>
      cases program with
      | ret value => exact absurd rfl hIdle
      | fail error => exact absurd rfl hIdle
      | await port next =>
          obtain ⟨_, _, hPays⟩ := hSession
          obtain ⟨hAllowed, _⟩ := hPays recorded le_rfl
          refine ⟨port.recordedFailures id, fun event hEvent hId => ?_, fun credit hCredit => ?_⟩
          · have hEvent : event ∈ (port.perform turn world).2.outbox.rows := hEvent
            rcases port.perform_outbox with hSame | ⟨_, updated, data, old, hPort, hOld, hPut⟩
            · rw [hSame] at hEvent
              exact (hRows event hEvent hId).later (Multiset.le_add_right _ _)
            · rcases (Table.mem_put hPut).mp hEvent with rfl | ⟨hKept, _⟩
              · obtain ⟨hMem, hKey⟩ := Table.get?_eq_some.mp hOld
                have hSameId : (data old).id = old.id := (RelayPort.sameEvent_of_update hPort old).id
                exact counts_of_update hPort (hKey.symm.trans (hSameId.symm.trans hId)) hAllowed
                  (hRows old hMem (hSameId.symm.trans hId))
              · exact (hRows event hKept hId).later (Multiset.le_add_right _ _)
          · obtain ⟨hCost, hNext⟩ := hCredit
            have hCost : port.recordedFailures id ≤ credit := hCost
            refine ⟨credit - port.recordedFailures id + port.failedAttempts id (port.perform turn world).1,
              (hNext recorded le_rfl).2 _ (expected_answer hRows), ?_⟩
            show _ ≤ credit + port.failedAttempts id (port.perform turn world).1
            rw [add_right_comm, Multiset.sub_add_cancel hCost]

/-- The relays of a deployment have been started with their brokers. -/
def DeploymentMove.Configured : DeploymentMove kind → Prop
  | .relay (.start (.processPendingEvents worker)) => worker.hasRabbitMQ = true
  | _ => True

instance : (move : DeploymentMove kind) → Decidable move.Configured
  | .relay (.start (.processPendingEvents worker)) => inferInstanceAs (Decidable (worker.hasRabbitMQ = true))
  | .relay (.start (.replayDeadLetterEvent _)) => isTrue trivial
  | .relay (.advance _ _) => isTrue trivial
  | .service _ => isTrue trivial
  | .elapse _ => isTrue trivial

theorem start_accounts (h : deployment.Accounts id recorded made) {job : RelayJob}
    (hConfigured : (DeploymentMove.relay (.start job) : DeploymentMove kind).Configured) :
    (deployment.withRelays (relayNext deployment.relayPool (.start job))).Accounts id recorded made where
  relays := by
    refine h.relays.start ?_
    cases job with
    | processPendingEvents service => exact affords_processPendingEvents hConfigured
    | replayDeadLetterEvent event => exact affords_replayDeadLetterEvent event
  rows := h.rows

/-- A relay that crashes owes nothing more. -/
theorem accountsFor_interrupted {others : List RelaySession} {session : RelaySession} {world : RelayWorld} {credit : Multiset String}
    {event : Event RelayTurn RelayError} (hEvent : ∀ turn, event ≠ .proceed turn)
    (h : AccountsFor id recorded session credit) :
    (relayStore.step event others session world).1 = world ∧
      AccountsFor id recorded (relayStore.step event others session world).2 credit := by
  cases session with
  | inside body writes next => exact h.elim
  | crashed => cases event <;> exact ⟨rfl, trivial⟩
  | outside program =>
      cases event with
      | proceed turn => exact absurd rfl (hEvent turn)
      | abort error => exact ⟨rfl, h⟩
      | unanswered error => exact ⟨rfl, h⟩
      | crash =>
          cases program with
          | await port next => exact ⟨rfl, trivial⟩
          | _ => exact ⟨rfl, h⟩

theorem interrupt_accounts (h : deployment.Accounts id recorded made) {index : Nat} {event : Event RelayTurn RelayError}
    (hEvent : ∀ turn, event ≠ .proceed turn) :
    (deployment.withRelays (relayNext deployment.relayPool (.advance index event))).Accounts id recorded made := by
  cases hSession : deployment.relayPool.threads[index]? with
  | none =>
      rw [relayNext, Pool.next_missing hSession]
      exact ⟨h.relays, h.rows⟩
  | some session =>
      rw [relayNext, Pool.next_advance hSession]
      refine ⟨h.relays.keep hSession fun credit hCredit => (accountsFor_interrupted hEvent hCredit).2, fun row hRow => ?_⟩
      obtain ⟨credit, hCredit⟩ := h.relays.credit hSession
      have hShared := (@accountsFor_interrupted id recorded (deployment.relayPool.threads.eraseIdx index) session
        deployment.relayPool.shared credit event hEvent hCredit).1
      rw [hShared] at hRow
      exact h.rows row hRow

theorem advance_accounts (h : deployment.Accounts id recorded made) {index : Nat} {turn : RelayTurn} :
    ∃ later, (deployment.withRelays (relayNext deployment.relayPool (.advance index (.proceed turn)))).Accounts id later
      (made + deployment.relays[index]?.elim 0 fun session =>
        failedByStep id session turn deployment.relayPool.shared) := by
  cases hSession : deployment.relayPool.threads[index]? with
  | none =>
      have hNone : deployment.relays[index]? = none := hSession
      rw [relayNext, Pool.next_missing hSession, hNone, Option.elim_none, add_zero]
      exact ⟨recorded, h.relays, h.rows⟩
  | some session =>
      have hSome : deployment.relays[index]? = some session := hSession
      obtain ⟨cost, hRows, hStep⟩ := @step_accounts id recorded (deployment.relayPool.threads.eraseIdx index) session turn
        deployment.relayPool.shared h.rows (h.relays.credit hSession)
      rw [relayNext, Pool.next_advance hSession, hSome]
      refine ⟨recorded + cost, ⟨h.relays.advance (fun _ _ hOther => hOther.later (Multiset.le_add_right _ _)) hSession hStep, ?_⟩⟩
      exact hRows

/-- The service adds events without a failure. -/
theorem service_accounts (hSessions : (commitContract config kind).Holds deployment.sessions)
    (h : deployment.Accounts id recorded made) (move : Move (RequestOf kind) (Event Env ServiceError)) :
    (deployment.next config (.service move)).Accounts id recorded made where
  relays := h.relays
  rows := by
    intro event hEvent hId
    have hEvent : event ∈ (isolate config deployment.sessions move).shared.db.outbox.rows := hEvent
    rcases step_commits hSessions move with hSame | ⟨announced, writes, hCommit, _, hWritten⟩
    · rw [hSame] at hEvent
      exact h.rows event hEvent hId
    · rcases (hCommit.mem_outbox hWritten event).mp hEvent with hOld | hNew
      · exact h.rows event hOld hId
      · obtain ⟨_, data, key, now, rfl, _⟩ := hCommit.events event (Commit.mem_events.mp hNew)
        exact ⟨Nat.zero_le _, fun _ => (by decide : 0 < maxOutboxRetries), nofun⟩

/-- Each step accounts for the attempts that fail in it. -/
theorem deployment_accounts (hSessions : (commitContract config kind).Holds deployment.sessions)
    (h : deployment.Accounts id recorded made) (move : DeploymentMove kind) (hConfigured : move.Configured) :
    ∃ later, (deployment.next config move).Accounts id later (made + deployment.failedAttempts id move) := by
  have hNone : deployment.failedAttempts id move = 0 → (deployment.next config move).Accounts id recorded made →
      ∃ later, (deployment.next config move).Accounts id later (made + deployment.failedAttempts id move) := by
    intro hZero hNext
    rw [hZero, add_zero]
    exact ⟨recorded, hNext⟩
  cases move with
  | service move => exact hNone rfl (service_accounts hSessions h move)
  | elapse milliseconds => exact hNone rfl ⟨h.relays, h.rows⟩
  | relay move =>
      by_cases hWaits : deployment.Waits move
      · refine hNone ?_ (by rwa [deployment_waits hWaits])
        cases move with
        | start job => rfl
        | advance index event =>
            cases event with
            | proceed turn => exact if_pos hWaits
            | _ => rfl
      · rw [deployment_relay hWaits] at hNone ⊢
        cases move with
        | start job => exact hNone rfl (start_accounts h hConfigured)
        | advance index event =>
            cases event with
            | proceed turn =>
                have hSome : deployment.failedAttempts id (.relay (.advance index (.proceed turn)) : DeploymentMove kind) =
                    deployment.relays[index]?.elim 0 fun session =>
                      failedByStep id session turn deployment.relayPool.shared := if_neg hWaits
                rw [hSome]
                exact advance_accounts h
            | abort error => exact hNone rfl (interrupt_accounts h nofun)
            | unanswered error => exact hNone rfl (interrupt_accounts h nofun)
            | crash => exact hNone rfl (interrupt_accounts h nofun)

theorem run_accounts (hSessions : (commitContract config kind).Holds deployment.sessions)
    (h : deployment.Accounts id recorded made) (moves : List (DeploymentMove kind))
    (hConfigured : ∀ move ∈ moves, move.Configured) :
    ∃ later, (run (Deployment.next config) deployment moves).Accounts id later
      (made + failedAttemptsIn config id deployment moves) := by
  induction moves generalizing deployment recorded made with
  | nil =>
      rw [failedAttemptsIn, add_zero]
      exact ⟨recorded, h⟩
  | cons move moves ih =>
      obtain ⟨later, hNext⟩ := deployment_accounts hSessions h move (hConfigured move List.mem_cons_self)
      obtain ⟨last, hLast⟩ := ih (deployment_holds hSessions move) hNext fun other hOther =>
        hConfigured other (List.mem_cons_of_mem move hOther)
      refine ⟨last, ?_⟩
      rw [failedAttemptsIn, ← add_assoc]
      exact hLast

/-- In every run of all calls and any number of relays, overlapping and replaying as they
like, with failures and crashes at every await, an event is FAILED only after five
attempts at it have failed, and with the error of one of them. -/
theorem given_up_after_five (config : Config) (kind : Call → Prop) (plans : Table SubscriptionPlan)
    (moves : List (DeploymentMove kind)) (hConfigured : ∀ move ∈ moves, move.Configured) :
    let start := (World.initial plans).deployed
    ∀ event ∈ (run (Deployment.next config) start moves).outbox.rows,
      event.retryCount ≤ (failedAttemptsIn config event.id start moves).card ∧
        (event.status = .pending → event.retryCount < 5) ∧
          (event.status = .failed → 5 ≤ event.retryCount ∧
            ∃ message ∈ failedAttemptsIn config event.id start moves, event.lastError = some message) := by
  intro start event hEvent
  have hStart : start.Accounts event.id 0 0 :=
    ⟨Pool.Solvent.empty _, fun _ hRow => absurd hRow List.not_mem_nil⟩
  obtain ⟨recorded, hEnd⟩ := run_accounts (holds_quiet (World.initial plans)) hStart moves hConfigured
  have hCounts := hEnd.rows event hEvent rfl
  rw [zero_add] at hEnd
  have hCovered := hEnd.relays.covered
  refine ⟨hCounts.retryCount.trans (Multiset.card_le_card hCovered), hCounts.pending, fun hFailed => ?_⟩
  obtain ⟨hCount, message, hMessage, hLast⟩ := hCounts.failed hFailed
  exact ⟨hCount, message, Multiset.mem_of_le hCovered hMessage, hLast⟩

end Deployments

namespace Sample

/-- The event of a captured order is refused in five cycles. -/
def refusedCycles : List (DeploymentMove fun _ => True) :=
  capturedOrder ++ (List.range 5).flatMap fun replica => startCycle replica :: relaySteps replica 9 false

end Sample

theorem given_up_after_five_refused :
    let start := (World.initial Table.empty).deployed
    ∀ event ∈ (run (Deployment.next Sample.config) start Sample.refusedCycles).outbox.rows,
      event.retryCount ≤ (failedAttemptsIn Sample.config event.id start Sample.refusedCycles).card ∧
        (event.status = .pending → event.retryCount < 5) ∧
          (event.status = .failed → 5 ≤ event.retryCount ∧
            ∃ message ∈ failedAttemptsIn Sample.config event.id start Sample.refusedCycles,
              event.lastError = some message) :=
  given_up_after_five Sample.config (fun _ => True) Table.empty Sample.refusedCycles (by decide)

/-- It is given up then. -/
example : (run (Deployment.next Sample.config) (World.initial Table.empty).deployed
    Sample.refusedCycles).outbox.rows.map (fun event => (event.status, event.retryCount)) = [(.failed, 5)] := by
  decide +kernel

end SpotqPayment
