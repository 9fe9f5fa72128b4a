import SpotqPayment.System.CommittedCalls
import SpotqPayment.Infrastructure.OutboxRelay

/-! The whole deployment: calls of the service and relays of any number of
replicas over one database. A relay works statement by statement on the
committed outbox table; a row that a transaction of the service has locked makes
it wait. -/
namespace SpotqPayment

open Process Engine ReadCommitted

/-- The relay opens no transactions: each of its operations takes place at once. -/
def relayStore : Store RelayTurn RelayError RelayWorld Empty Empty RelayPort.Answer fun statement : Empty =>
    nomatch statement where
  eval := nofun
  apply := nofun
  refused := .unknown
  lock := nofun
  row := nofun
  frame := nofun
  carry := fun turn port world => .inl (port.perform turn world)

abbrev RelaySession := Session RelayError Empty Unit RelayPort.Answer fun statement : Empty => nomatch statement

inductive RelayJob where
  | processPendingEvents (service : OutboxRelayService)
  | replayDeadLetterEvent (id : Uuid)

def RelayJob.process : RelayJob → Relay Unit
  | .processPendingEvents service => service.processPendingEvents
  | .replayDeadLetterEvent id => SpotqPayment.replayDeadLetterEvent id

abbrev Relays := Pool RelayWorld RelaySession

/-- A new cycle or replay, or the next operation of a running one. -/
def relayNext (relays : Relays) (move : Move RelayJob (Event RelayTurn RelayError)) : Relays :=
  relays.next (fun job => .outside job.process) relayStore.step move

structure Deployment where
  sessions : Sessions
  relays : List RelaySession
  deliveries : List BrokerDelivery
  redis : Redis
  processing : List Nat

inductive DeploymentMove (kind : Call → Prop) where
  | service (move : Move (RequestOf kind) (Event Env ServiceError))
  | relay (move : Move RelayJob (Event RelayTurn RelayError))
  | elapse (milliseconds : Nat)

namespace Deployment

def outbox (deployment : Deployment) : Table OutboxEvent := deployment.sessions.shared.db.outbox

/-- The deployment as its relays see it. -/
def relayPool (deployment : Deployment) : Relays where
  shared := {
    outbox := deployment.outbox
    deliveries := deployment.deliveries
    redis := deployment.redis
    processing := deployment.processing }
  threads := deployment.relays

/-- The deployment after a step of its relays. -/
def withRelays (deployment : Deployment) (relays : Relays) : Deployment where
  sessions := { deployment.sessions with
    shared := { deployment.sessions.shared with
      db := { deployment.sessions.shared.db with outbox := relays.shared.outbox } } }
  relays := relays.threads
  deliveries := relays.shared.deliveries
  redis := relays.shared.redis
  processing := relays.shared.processing

/-- A transaction of the service has written the row, which is stored already. -/
def Locked (deployment : Deployment) (id : Uuid) : Prop :=
  (deployment.outbox.get? id).isSome ∧
    ∃ session ∈ deployment.sessions.threads, RowLock.outbox id ∈ paymentStore.locks session.writes

instance (deployment : Deployment) (id : Uuid) : Decidable (deployment.Locked id) :=
  inferInstanceAs (Decidable ((deployment.outbox.get? id).isSome ∧
    ∃ session ∈ deployment.sessions.threads, RowLock.outbox id ∈ paymentStore.locks session.writes))

/-- The update that a relay executes next. -/
def nextUpdate (deployment : Deployment) (index : Nat) (turn : RelayTurn) :
    Option (Uuid × (OutboxEvent → OutboxEvent)) :=
  ((deployment.relays[index]?).bind Session.awaited).bind (RelayPort.update? turn)

/-- The relay waits for a row lock. -/
def Waits (deployment : Deployment) : Move RelayJob (Event RelayTurn RelayError) → Prop
  | .advance index (.proceed turn) => ∃ update ∈ deployment.nextUpdate index turn, deployment.Locked update.1
  | _ => False

instance (deployment : Deployment) : (move : Move RelayJob (Event RelayTurn RelayError)) →
    Decidable (deployment.Waits move)
  | .advance index (.proceed turn) =>
      inferInstanceAs (Decidable (∃ update ∈ deployment.nextUpdate index turn, deployment.Locked update.1))
  | .advance _ (.abort _) => instDecidableFalse
  | .advance _ (.unanswered _) => instDecidableFalse
  | .advance _ .crash => instDecidableFalse
  | .start _ => instDecidableFalse

/-- The step of the deployment. -/
def next (config : Config) {kind : Call → Prop} (deployment : Deployment) : DeploymentMove kind → Deployment
  | .service move => { deployment with sessions := isolate config deployment.sessions move }
  | .relay move =>
      if deployment.Waits move then deployment
      else deployment.withRelays (relayNext deployment.relayPool move)
  | .elapse milliseconds => { deployment with redis := deployment.redis.elapse milliseconds }

end Deployment

/-- A deployment that is up with nothing running. -/
def World.deployed (world : World) : Deployment where
  sessions := world.quiet
  relays := []
  deliveries := []
  redis := ExpiringStore.empty
  processing := []

variable {config : Config} {kind : Call → Prop} {deployment : Deployment}

/-- A relay executes the operation that it awaits. -/
theorem relayNext_awaited {relays : Relays} {index : Nat} {turn : RelayTurn} {port : RelayPort}
    (hAwaited : (relays.threads[index]?).bind Session.awaited = some port) :
    (relayNext relays (.advance index (.proceed turn))).shared = (port.perform turn relays.shared).2 := by
  obtain ⟨session, hSession, hPort⟩ := Option.bind_eq_some_iff.mp hAwaited
  unfold relayNext
  rw [Pool.next_advance hSession]
  cases session with
  | outside program =>
      cases program with
      | ret value => cases hPort
      | fail error => cases hPort
      | await op next =>
          cases hPort
          rfl
  | inside body writes next => cases hPort
  | crashed => cases hPort

/-- What one move of the relays does to the outbox table. -/
theorem relayNext_outbox (relays : Relays) (move : Move RelayJob (Event RelayTurn RelayError)) :
    (relayNext relays move).shared.outbox = relays.shared.outbox ∨
      ∃ index turn port id data event, move = .advance index (.proceed turn) ∧ turn.Executes ∧
        (relays.threads[index]?).bind Session.awaited = some port ∧ port.update? turn = some (id, data) ∧
          relays.shared.outbox.get? id = some event ∧
            relays.shared.outbox.put (data event) = some (relayNext relays move).shared.outbox := by
  cases move with
  | start job => exact Or.inl rfl
  | advance index event =>
      unfold relayNext
      cases hSession : relays.threads[index]? with
      | none =>
          rw [Pool.next_missing hSession]
          exact Or.inl rfl
      | some session =>
          rw [Pool.next_advance hSession]
          rcases relayStore.step_cases event (relays.threads.eraseIdx index) session relays.shared with
            hSame | ⟨turn, port, answer, after, rfl, hAwaited, hCarry, hAfter⟩ | ⟨writes, _, _, hApply, hAfter⟩
          · exact Or.inl (congrArg RelayWorld.outbox hSame)
          · obtain ⟨_, rfl⟩ := Prod.mk.inj (Sum.inl.inj hCarry)
            rw [hAfter]
            rcases @RelayPort.perform_outbox turn relays.shared port with
              hSame | ⟨hExecutes, id, data, event, hPort, hEvent, hPut⟩
            · exact Or.inl hSame
            · have hPool : (relays.threads[index]?).bind Session.awaited = some port := by
                rw [hSession]
                exact hAwaited
              exact Or.inr ⟨index, turn, port, id, data, event, rfl, hExecutes, hPool, hPort, hEvent, hPut⟩
          · rw [hAfter]
            cases writes with
            | nil =>
                cases hApply
                exact Or.inl rfl
            | cons write _ => exact nomatch write

/-- A relay that does not wait updates no row that a session has locked. -/
theorem relay_rows {move : Move RelayJob (Event RelayTurn RelayError)} (hFree : ¬ deployment.Waits move) :
    ∀ session ∈ deployment.sessions.threads, ∀ write ∈ session.writes,
      (deployment.withRelays (relayNext deployment.relayPool move)).sessions.shared.db.row write.lock =
        deployment.sessions.shared.db.row write.lock := by
  intro session hSession write hWrite
  have hRow : ∀ id : Uuid, write.lock = .outbox id →
      (relayNext deployment.relayPool move).shared.outbox.get? id = deployment.outbox.get? id := by
    intro id hLock
    rcases relayNext_outbox deployment.relayPool move with
      hSame | ⟨index, turn, port, updated, data, event, rfl, _, hAwaited, hPort, hEvent, hPut⟩
    · rw [hSame]
      rfl
    · have hKey : (data event).id = updated :=
        (RelayPort.sameEvent_of_update hPort event).id.trans (Table.get?_eq_some.mp hEvent).2
      refine Table.get?_put_of_ne hPut fun hSame => hFree ⟨(updated, data), ?_, ?_, session, hSession, ?_⟩
      · show ((deployment.relayPool.threads[index]?).bind Session.awaited).bind (RelayPort.update? turn) = _
        rw [hAwaited]
        exact hPort
      · exact Option.isSome_iff_exists.mpr ⟨event, hEvent⟩
      · have hId : updated = id := hKey.symm.trans hSame
        rw [hId, ← hLock]
        exact List.mem_map_of_mem hWrite
  cases write with
  | outbox event => exact congrArg (Option.map Write.outbox) (hRow event.id rfl)
  | _ => rfl

/-- A relay leaves the sessions of the service alone: it updates one event, which
none of them has locked, and no other table. -/
theorem relay_holds (h : (commitContract config kind).Holds deployment.sessions)
    {move : Move RelayJob (Event RelayTurn RelayError)} (hFree : ¬ deployment.Waits move) :
    (commitContract config kind).Holds (deployment.withRelays (relayNext deployment.relayPool move)).sessions :=
  Contract.Holds.interfere h trivial (Database.Extends.refl _) (relay_rows hFree)

theorem deployment_waits {move : Move RelayJob (Event RelayTurn RelayError)} (hWaits : deployment.Waits move) :
    deployment.next config (.relay move : DeploymentMove kind) = deployment := if_pos hWaits

theorem deployment_relay {move : Move RelayJob (Event RelayTurn RelayError)} (hFree : ¬ deployment.Waits move) :
    deployment.next config (.relay move : DeploymentMove kind) =
      deployment.withRelays (relayNext deployment.relayPool move) := if_neg hFree

/-- Every step of a deployment leaves the sessions of the service with their contract. -/
theorem deployment_holds (h : (commitContract config kind).Holds deployment.sessions) (move : DeploymentMove kind) :
    (commitContract config kind).Holds (deployment.next config move).sessions := by
  cases move with
  | service move => exact commit_step h move
  | relay move =>
      by_cases hWaits : deployment.Waits move
      · rw [deployment_waits hWaits]
        exact h
      · rw [deployment_relay hWaits]
        exact relay_holds h hWaits
  | elapse milliseconds => exact h

end SpotqPayment
