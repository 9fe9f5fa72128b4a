import SpotqPayment.System.Deployment
import SpotqPayment.System.Records

/-! Rules for the rows of the payment database that a whole deployment keeps. Every
call that is started has to follow the rules, whatever the others do meanwhile. The
relays keep any rule that lets an event change apart from its record. -/
namespace SpotqPayment

open Process Transition Engine ReadCommitted

variable {config : Config} {kind : Call → Prop}

/-- What repository methods return. Nothing is known of a remote answer. -/
def Port.Returns (answers : (request : RepositoryCall) → World → request.Answer → Prop) :
    (port : Port) → World → port.Answer → Prop
  | .repository request, world, value => answers request world value
  | .createOrder _ _, _, _ => True
  | .createRefund _ _, _, _ => True

/-- A discipline together with what the methods return, as the contract of all sessions. -/
abbrev rowContract (discipline : Discipline paymentStore)
    (answers : (request : RepositoryCall) → World → request.Answer → Prop) : Contract paymentStore Reply :=
  discipline.contract Reply (Port.Returns answers)

/-- The columns of an event that a relay updates are free. -/
structure AdmitsRelays (discipline : Discipline paymentStore) : Prop where
  steady : ∀ (world : World) (outbox : Table OutboxEvent), discipline.steady world →
    discipline.steady { world with db := { world.db with outbox } }
  proper : ∀ (world : World) (row version : OutboxEvent), version.recorded = row.recorded →
    discipline.proper world (.outbox row) → discipline.proper world (.outbox version)
  succeeds : ∀ row version : OutboxEvent, version.recorded = row.recorded →
    discipline.succeeds (.outbox version) (.outbox row)

/-- Only requests of one sort are started. -/
def DeploymentMove.Starts (allowed : Request → Prop) : DeploymentMove kind → Prop
  | .service (.start request) => allowed request.1
  | _ => True

theorem starts_any {allowed : Request → Prop} (h : ∀ request, allowed request) (move : DeploymentMove kind) :
    move.Starts allowed := by
  rcases move with move | move | milliseconds
  · cases move with
    | start request => exact h request.1
    | advance => trivial
  · trivial
  · trivial

section Operations

variable {discipline : Discipline paymentStore}
variable {answers : (request : RepositoryCall) → World → request.Answer → Prop} {env : Env} {world : World}

theorem carry_rows {port : Port} {answer : Except ServiceError port.Answer} {after : World}
    (hCarry : paymentStore.carry env port world = .inl (answer, after)) (lock : RowLock) :
    paymentStore.row after lock = paymentStore.row world lock :=
  congrArg (Database.row · lock) (carry_db hCarry)

/-- The gateway is no part of the rows. -/
theorem rows_carried_remote (hKept : discipline.Kept world) {port : Port} {outcome : Except ServiceError port.Answer × World}
    (hCarry : paymentStore.carry env port world = .inl outcome)
    (hReturns : ∀ value, Port.Returns answers port outcome.2 value) :
    (rowContract discipline answers).Carried env port world :=
  Contract.carried_at_once hCarry
    (Discipline.kept_of_rows hKept (discipline.steady_carry hCarry hKept.steady) (carry_rows hCarry))
    (Discipline.follows_of_rows (carry_rows hCarry)) (carry_rows hCarry) fun value _ => hReturns value

theorem carried_createOrder (hKept : discipline.Kept world) (amountInPaise : Int) (currency : String) :
    (rowContract discipline answers).Carried env (.createOrder amountInPaise currency) world :=
  rows_carried_remote hKept rfl fun _ => trivial

theorem carried_createRefund (hKept : discipline.Kept world) (paymentId : String) (amountInPaise : Int) :
    (rowContract discipline answers).Carried env (.createRefund paymentId amountInPaise) world :=
  rows_carried_remote hKept rfl fun _ => trivial

/-- A method whose statements are all permitted is carried out. -/
theorem carried_permitted {request : RepositoryCall}
    (hBody : (request.body env).Respects (discipline.Permits world) fun _ _ => True)
    (hAnswers : ∀ state value, answers request state value) :
    (rowContract discipline answers).Carried env (.repository request) world :=
  Contract.carried_of_sound
    ⟨_, rfl, Discipline.sound_of_permitted hBody fun state value => hAnswers state value⟩

/-- So is one whose body obeys the rules. -/
theorem carried_obeying {request : RepositoryCall}
    (h : ∀ later, discipline.Follows world later →
      discipline.Obeys (fun value last => answers request last value) (request.body env) later) :
    (rowContract discipline answers).Carried env (.repository request) world := by
  refine Contract.carried_of_sound ⟨_, rfl, Discipline.Obeys.sound (fun later view hRely _ hView => ?_)
    Discipline.logged_nil⟩
  cases hView
  exact h later hRely.1

end Operations

section Steps

variable {discipline : Discipline paymentStore}
variable {answers : (request : RepositoryCall) → World → request.Answer → Prop}
variable {sessions : Sessions} {deployment : Deployment}

/-- What the discipline asks of the calls that are started. -/
def CallsFollow (config : Config) (kind : Call → Prop) (discipline : Discipline paymentStore)
    (answers : (request : RepositoryCall) → World → request.Answer → Prop) (allowed : Request → Prop) : Prop :=
  ∀ request : RequestOf kind, allowed request.1 → ∀ world,
    (rowContract discipline answers).Follows (request.1.call.process config request.1.env) world

variable {allowed : Request → Prop}

/-- A step of the service keeps the contract and lets rows only succeed each other. -/
theorem isolate_disciplined (hCalls : CallsFollow config kind discipline answers allowed)
    (h : (rowContract discipline answers).Holds sessions) (move : Move (RequestOf kind) (Event Env ServiceError))
    (hMove : (DeploymentMove.service move).Starts allowed) :
    (rowContract discipline answers).Holds (isolate config sessions move) ∧
      discipline.Follows sessions.shared (isolate config sessions move).shared := by
  cases move with
  | start request =>
      exact ⟨Contract.Holds.start h (hCalls request hMove sessions.shared) rfl, Discipline.Follows.refl _⟩
  | advance index event =>
      refine ⟨Contract.Holds.advance h fun session _ _ => Discipline.commitsWell session h.shared, ?_⟩
      exact Discipline.follows_advance h fun _ _ _ _ hCarry lock => carry_rows hCarry lock

theorem RelayPort.recorded_of_update {turn : RelayTurn} {port : RelayPort} {id : Uuid}
    {data : OutboxEvent → OutboxEvent} (h : port.update? turn = some (id, data)) (event : OutboxEvent) :
    (data event).recorded = event.recorded := by
  cases port <;> cases h <;> rfl

/-- A row after a move of the relays is as before, or an event with the record of the former one. -/
theorem relay_row (move : Move RelayJob (Event RelayTurn RelayError)) (lock : RowLock) :
    (deployment.withRelays (relayNext deployment.relayPool move)).sessions.shared.db.row lock =
        deployment.sessions.shared.db.row lock ∨
      ∃ row version : OutboxEvent, version.recorded = row.recorded ∧
        deployment.sessions.shared.db.row lock = some (.outbox row) ∧
          (deployment.withRelays (relayNext deployment.relayPool move)).sessions.shared.db.row lock =
            some (.outbox version) := by
  cases lock with
  | outbox id =>
      rcases relayNext_outbox deployment.relayPool move with
        hSame | ⟨_, turn, port, updated, data, row, _, _, _, hPort, hRow, hPut⟩
      · exact Or.inl (congrArg (fun table : Table OutboxEvent => (table.get? id).map Write.outbox) hSame)
      · have hRecord := RelayPort.recorded_of_update hPort row
        have hKey : Record.key (data row) = updated :=
          (congrArg OutboxEvent.id hRecord).trans (Table.get?_eq_some.mp hRow).2
        by_cases hId : updated = id
        · subst hId
          refine Or.inr ⟨row, data row, hRecord, congrArg (Option.map Write.outbox) hRow, ?_⟩
          have hVersion := Table.get?_put_self hPut
          rw [hKey] at hVersion
          exact congrArg (Option.map Write.outbox) hVersion
        · refine Or.inl (congrArg (Option.map Write.outbox) (Table.get?_put_of_ne hPut fun hSame => hId ?_))
          exact hKey.symm.trans hSame
  | _ => exact Or.inl rfl

/-- So do the relays, which update events. -/
theorem relay_disciplined (hRelays : AdmitsRelays discipline) (h : (rowContract discipline answers).Holds deployment.sessions)
    {move : Move RelayJob (Event RelayTurn RelayError)} (hFree : ¬ deployment.Waits move) :
    (rowContract discipline answers).Holds (deployment.withRelays (relayNext deployment.relayPool move)).sessions ∧
      discipline.Follows deployment.sessions.shared
        (deployment.withRelays (relayNext deployment.relayPool move)).sessions.shared := by
  have hFollows : discipline.Follows deployment.sessions.shared
      (deployment.withRelays (relayNext deployment.relayPool move)).sessions.shared := by
    intro lock old hOld
    rcases relay_row move lock with hSame | ⟨row, version, hRecord, hRow, hVersion⟩
    · exact ⟨old, hSame.trans hOld, discipline.refl old⟩
    · cases hRow.symm.trans hOld
      exact ⟨_, hVersion, hRelays.succeeds row version hRecord⟩
  have hKept : discipline.Kept (deployment.withRelays (relayNext deployment.relayPool move)).sessions.shared := by
    refine ⟨hRelays.steady _ _ h.shared.steady, fun lock stored hStored => discipline.lasts hFollows ?_⟩
    rcases relay_row move lock with hSame | ⟨row, version, hRecord, hRow, hVersion⟩
    · exact h.shared.proper lock stored (hSame.symm.trans hStored)
    · cases hVersion.symm.trans hStored
      exact hRelays.proper _ row version hRecord (h.shared.proper lock _ hRow)
  exact ⟨Contract.Holds.interfere h hKept hFollows (relay_rows hFree), hFollows⟩

theorem deployment_disciplined (hCalls : CallsFollow config kind discipline answers allowed)
    (hRelays : AdmitsRelays discipline) (h : (rowContract discipline answers).Holds deployment.sessions)
    (move : DeploymentMove kind) (hMove : move.Starts allowed) :
    (rowContract discipline answers).Holds (deployment.next config move).sessions ∧
      discipline.Follows deployment.sessions.shared (deployment.next config move).sessions.shared := by
  cases move with
  | service move => exact isolate_disciplined hCalls h move hMove
  | relay move =>
      by_cases hWaits : deployment.Waits move
      · rw [deployment_waits hWaits]
        exact ⟨h, Discipline.Follows.refl _⟩
      · rw [deployment_relay hWaits]
        exact relay_disciplined hRelays h hWaits
  | elapse milliseconds => exact ⟨h, Discipline.Follows.refl _⟩

/-- In every run the contract holds at the end, and rows have only succeeded each other. -/
theorem deployment_run_disciplined (hCalls : CallsFollow config kind discipline answers allowed)
    (hRelays : AdmitsRelays discipline) (h : (rowContract discipline answers).Holds deployment.sessions)
    (moves : List (DeploymentMove kind)) (hMoves : ∀ move ∈ moves, move.Starts allowed) :
    (rowContract discipline answers).Holds (run (Deployment.next config) deployment moves).sessions ∧
      discipline.Follows deployment.sessions.shared (run (Deployment.next config) deployment moves).sessions.shared := by
  induction moves generalizing deployment with
  | nil => exact ⟨h, Discipline.Follows.refl _⟩
  | cons move moves ih =>
      obtain ⟨hNext, hFirst⟩ := deployment_disciplined hCalls hRelays h move (hMoves move List.mem_cons_self)
      obtain ⟨hLast, hRest⟩ := ih hNext fun other hOther => hMoves other (List.mem_cons_of_mem move hOther)
      exact ⟨hLast, hFirst.trans hRest⟩

/-- No row is stored in the beginning. -/
theorem initial_row (plans : Table SubscriptionPlan) (lock : RowLock) : (World.initial plans).db.row lock = none := by
  cases lock <;> rfl

theorem initial_disciplined (plans : Table SubscriptionPlan) (hSteady : discipline.steady (World.initial plans)) :
    (rowContract discipline answers).Holds (World.initial plans).deployed.sessions :=
  Pool.Invariant.empty ⟨hSteady, fun lock _ hVersion => nomatch (initial_row plans lock).symm.trans hVersion⟩

end Steps

end SpotqPayment
