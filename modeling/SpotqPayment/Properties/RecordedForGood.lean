import SpotqPayment.System.Disciplines

/-! What the service has recorded stays. Nothing is ever deleted, and a stored payment,
refund, subscription, invoice or event keeps for good what it is about: the parties,
the amounts, the periods, the ids of the gateway and the payload. -/
namespace SpotqPayment

open Process Transition Engine ReadCommitted

variable {config : Config} {kind : Call → Prop}

/-- Every row of the first state is in the second one, with the same record. -/
def Database.RecordKept (before after : Database) : Prop :=
  ∀ lock old, before.row lock = some old → ∃ row, after.row lock = some row ∧ row.recorded = old.recorded

theorem record_permits (world : World) (statement : Statement) (h : statement.KeepsRecord) :
    recordDiscipline.Permits world statement :=
  fun _ _ _ _ _ _ hEval => Discipline.Logged.of_each fun _ hWrite =>
    ⟨fun _ _ => trivial, fun _ hOld => Statement.recorded_of_eval h hEval hWrite hOld⟩

/-- No operation of a program can break the rule. -/
theorem record_carried (env : Env) (port : Port) (world : World) (hKept : recordDiscipline.Kept world) :
    (rowContract recordDiscipline fun _ _ _ => True).Carried env port world := by
  cases port with
  | repository request =>
      exact carried_permitted ((recordSafe_body env request).mono fun _ h => record_permits world _ h)
        fun _ _ => trivial
  | createOrder amountInPaise currency => exact carried_createOrder hKept amountInPaise currency
  | createRefund paymentId amountInPaise => exact carried_createRefund hKept paymentId amountInPaise

theorem record_follows (program : UseCase Reply) (world : World) :
    (rowContract recordDiscipline fun _ _ _ => True).Follows program world := by
  induction program generalizing world with
  | ret value => trivial
  | fail error => trivial
  | await port next ih =>
      intro later _ hKept
      exact ⟨fun env => record_carried env port later hKept, fun value _ => ih _ later, fun error => ih _ later⟩

theorem record_calls (config : Config) (kind : Call → Prop) :
    CallsFollow config kind recordDiscipline (fun _ _ _ => True) fun _ => True :=
  fun _ _ world => record_follows _ world

theorem record_relays : AdmitsRelays recordDiscipline where
  steady := fun _ _ _ => trivial
  proper := fun _ _ _ _ _ => trivial
  succeeds := fun _ _ hRecord => congrArg Write.outbox hRecord

/-- In every run of all calls and any number of relays, with failures and crashes at
every await, what is stored at one time is stored at every later time, with its record. -/
theorem recorded_for_good (config : Config) (kind : Call → Prop) (plans : Table SubscriptionPlan)
    (past rest : List (DeploymentMove kind)) :
    let start := (World.initial plans).deployed
    (run (Deployment.next config) start past).sessions.shared.db.RecordKept
      (run (Deployment.next config) start (past ++ rest)).sessions.shared.db := by
  intro start
  obtain ⟨hReached, _⟩ := deployment_run_disciplined (record_calls config kind) record_relays
    (initial_disciplined plans trivial) past fun move _ => starts_any (fun _ => trivial) move
  obtain ⟨_, hFollows⟩ := deployment_run_disciplined (record_calls config kind) record_relays
    hReached rest fun move _ => starts_any (fun _ => trivial) move
  rw [run_append]
  exact hFollows

end SpotqPayment
