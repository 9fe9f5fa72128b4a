import SpotqPayment.Library.RelyGuarantee
import SpotqPayment.Infrastructure.DatabaseWrites
import SpotqPayment.System.Service

/-! Calls of the service that run at the same time, seen from the statements of
the database. Every repository call is a transaction under READ COMMITTED, a
method of one statement being a transaction of that statement; a remote call
takes place at once. -/
namespace SpotqPayment

open Process Engine ReadCommitted

/-- The stored version of a row, as the write that would store it. -/
def Database.row (db : Database) : RowLock → Option Write
  | .transaction id => (db.transactions.get? id).map .transaction
  | .refund id => (db.refunds.get? id).map .refund
  | .subscription id => (db.subscriptions.get? id).map .subscription
  | .invoice id => (db.invoices.get? id).map .invoice
  | .outbox id => (db.outbox.get? id).map .outbox

/-- A write changes the row that it locks and no other. -/
theorem Database.row_write {db after : Database} {write : Write} (h : db.write write = some after)
    (lock : RowLock) (hLock : lock ≠ write.lock) : after.row lock = db.row lock := by
  cases write with
  | transaction row =>
      obtain ⟨table, hPut, rfl⟩ := write_transaction_eq_some.mp h
      cases lock with
      | transaction id =>
          have hId : row.id ≠ id := fun hSame => hLock (hSame ▸ rfl)
          exact congrArg (Option.map Write.transaction) (Table.get?_put_of_ne hPut hId)
      | _ => rfl
  | refund row =>
      obtain ⟨table, hPut, rfl⟩ := write_refund_eq_some.mp h
      cases lock with
      | refund id =>
          have hId : row.id ≠ id := fun hSame => hLock (hSame ▸ rfl)
          exact congrArg (Option.map Write.refund) (Table.get?_put_of_ne hPut hId)
      | _ => rfl
  | subscription row =>
      obtain ⟨table, hPut, rfl⟩ := write_subscription_eq_some.mp h
      cases lock with
      | subscription id =>
          have hId : row.id ≠ id := fun hSame => hLock (hSame ▸ rfl)
          exact congrArg (Option.map Write.subscription) (Table.get?_put_of_ne hPut hId)
      | _ => rfl
  | invoice row =>
      obtain ⟨table, hPut, rfl⟩ := write_invoice_eq_some.mp h
      cases lock with
      | invoice id =>
          have hId : row.id ≠ id := fun hSame => hLock (hSame ▸ rfl)
          exact congrArg (Option.map Write.invoice) (Table.get?_put_of_ne hPut hId)
      | _ => rfl
  | outbox row =>
      obtain ⟨table, hPut, rfl⟩ := write_outbox_eq_some.mp h
      cases lock with
      | outbox id =>
          have hId : row.id ≠ id := fun hSame => hLock (hSame ▸ rfl)
          exact congrArg (Option.map Write.outbox) (Table.get?_put_of_ne hPut hId)
      | _ => rfl

def World.write (world : World) (write : Write) : Option World :=
  (world.db.write write).map fun db => { world with db := db }

/-- The database as a store for the ports of the use cases. -/
def paymentStore : Store Env ServiceError World Write RowLock Port.Answer Statement.Answer where
  eval := fun env statement world => statement.eval env world.db
  apply := World.write
  refused := .constraintViolation
  lock := Write.lock
  row := fun world lock => world.db.row lock
  frame := by
    intro world after write hWrite lock hLock
    obtain ⟨db, hDb, rfl⟩ := Option.map_eq_some_iff.mp hWrite
    exact Database.row_write hDb lock hLock
  carry := fun env port world =>
    match port with
    | .repository request => .inr (request.body env)
    | .createOrder amountInPaise currency => .inl (Port.perform env (.createOrder amountInPaise currency) world)
    | .createRefund paymentId amountInPaise =>
        .inl (Port.perform env (.createRefund paymentId amountInPaise) world)

/-- A remote call touches no table. -/
theorem carry_db {env : Env} {port : Port} {world after : World} {answer : Except ServiceError port.Answer}
    (h : paymentStore.carry env port world = .inl (answer, after)) : after.db = world.db := by
  cases port with
  | repository request => cases h
  | createOrder amountInPaise currency =>
      obtain ⟨_, rfl⟩ := Prod.mk.inj (Sum.inl.inj h)
      cases env.gatewayOrderId <;> rfl
  | createRefund paymentId amountInPaise =>
      obtain ⟨_, rfl⟩ := Prod.mk.inj (Sum.inl.inj h)
      cases env.gatewayRefund <;> rfl

abbrev ServiceSession := Session ServiceError Write Reply Port.Answer Statement.Answer

abbrev Sessions := Pool World ServiceSession

/-- A new call or the next step of a running one. -/
def isolate (config : Config) {kind : Call → Prop} (sessions : Sessions)
    (move : Move (RequestOf kind) (Event Env ServiceError)) : Sessions :=
  sessions.next (fun request => .outside (request.1.call.process config request.1.env)) paymentStore.step move

def World.quiet (world : World) : Sessions := { shared := world, threads := [] }

/-- The writes of a transaction reach the database and nothing else. -/
theorem applyAll_world (world : World) (writes : List Write) :
    applyAll paymentStore.apply world writes =
      (world.db.writeAll writes).map fun db => { world with db := db } := by
  induction writes generalizing world with
  | nil => rfl
  | cons write writes ih =>
      show (World.write world write).bind _ = _
      unfold World.write
      cases hWrite : world.db.write write with
      | none =>
          have hAll : world.db.writeAll (write :: writes) = none := by
            show (world.db.write write).bind _ = none
            rw [hWrite]
            rfl
          rw [hAll]
          rfl
      | some db =>
          have hAll : world.db.writeAll (write :: writes) = db.writeAll writes := by
            show (world.db.write write).bind _ = _
            rw [hWrite]
            rfl
          rw [hAll]
          exact ih { world with db := db }

theorem applyAll_world_eq_some {world after : World} {writes : List Write} :
    applyAll paymentStore.apply world writes = some after ↔
      ∃ db, world.db.writeAll writes = some db ∧ { world with db := db } = after := by
  rw [applyAll_world]
  exact Option.map_eq_some_iff

/-- A transaction that has written nothing sees the committed state. -/
theorem view_of_nil {world view : World} (h : applyAll paymentStore.apply world [] = some view) : view = world := by
  cases h
  rfl

/-- What a transaction that has written to a world sees in each table. -/
theorem written_of_view {world view : World} {writes : List Write}
    (hView : applyAll paymentStore.apply world writes = some view) : world.db.Written writes view.db := by
  obtain ⟨db, hDb, rfl⟩ := applyAll_world_eq_some.mp hView
  exact Database.written_of_writeAll hDb

/-- The rest of a repository method meets the contract. -/
abbrev MethodSound {Value : Type} (contract : Contract paymentStore Value) (request : RepositoryCall)
    (body : Repository request.Answer) (writes : List Write) (world : World) : Prop :=
  @Contract.Sound _ _ _ _ _ _ _ _ _ _ paymentStore contract (.repository request) body writes world

section Alone

variable {env : Env} {Value : Type}

theorem perform_world (statement : Statement) (world : World) :
    (paymentStore.engine env).perform statement world =
      (((engine env).perform statement world.db).1,
        { world with db := ((engine env).perform statement world.db).2 }) := by
  have hEval : (paymentStore.engine env).eval statement world = (engine env).eval statement world.db := rfl
  unfold Engine.perform
  rw [hEval]
  rcases (engine env).eval statement world.db with error | ⟨answer, writes⟩
  · rfl
  · have hApply : applyAll (paymentStore.engine env).apply world writes =
        (applyAll (engine env).apply world.db writes).map fun db => { world with db := db } :=
      applyAll_world world writes
    simp only [hApply]
    cases applyAll (engine env).apply world.db writes <;> rfl

theorem exec_world (body : Repository Value) (world : World) :
    exec (paymentStore.engine env).perform body world =
      ((exec (engine env).perform body world.db).1,
        { world with db := (exec (engine env).perform body world.db).2 }) := by
  induction body generalizing world with
  | ret value => rfl
  | fail error => rfl
  | await statement rest ih =>
      rw [exec_await, exec_await, perform_world]
      exact ih _ _

/-- A call whose transaction meets no other does what the atomic call does. -/
theorem repository_alone (request : RepositoryCall) (world : World)
    (next : Except ServiceError request.Answer → UseCase Reply) :
    ∃ steps, (paymentStore.alone env)^[steps] (world, .outside (.await (.repository request) next)) =
      ((Port.perform env (.repository request) world).2,
        .outside (next (Port.perform env (.repository request) world).1)) := by
  have hCarry : paymentStore.carry env (.repository request) world = .inr (request.body env) := rfl
  obtain ⟨steps, hSteps⟩ := paymentStore.exists_alone hCarry next
  refine ⟨steps, hSteps.trans ?_⟩
  have hSame : atomically (paymentStore.engine env).perform (request.body env) world =
      Port.perform env (.repository request) world := by
    rw [perform_repository, atomically, atomically, exec_world]
    rcases exec (engine env).perform (request.body env) world.db with ⟨answer | answer, final⟩ <;> rfl
  rw [hSame]

end Alone

end SpotqPayment
