import SpotqPayment.System.LicensedCalls

/-! Payments of food orders and payments of plans share one table and one webhook, and
they are never mixed up. -/
namespace SpotqPayment

open Transition ReadCommitted

variable {kind : Call → Prop}

/-- The rules hold of a run from empty tables and of all that follows it. -/
theorem integrity_run (config : Config) (clock : Instant → Prop) (plans : Table SubscriptionPlan) (past rest : List (DeploymentMove kind))
    (hPast : ∀ move ∈ past ++ rest, move.Starts fun request => clock request.env.now) :
    let before := run (Deployment.next config) (World.initial plans).deployed past
    let after := run (Deployment.next config) (World.initial plans).deployed (past ++ rest)
    (integrityDiscipline clock).Kept before.sessions.shared ∧ (integrityDiscipline clock).Kept after.sessions.shared ∧
      (integrityDiscipline clock).Follows before.sessions.shared after.sessions.shared := by
  obtain ⟨hBefore, _⟩ := deployment_run_disciplined (licensed_calls config kind clock) integrity_relays
    (initial_disciplined plans trivial) past fun move hMove => hPast move (List.mem_append_left _ hMove)
  obtain ⟨hAfter, hFollows⟩ := deployment_run_disciplined (licensed_calls config kind clock) integrity_relays
    hBefore rest fun move hMove => hPast move (List.mem_append_right _ hMove)
  intro before after
  have hRun : after = run (Deployment.next config) before rest := run_append _ _ _ _
  rw [hRun]
  exact ⟨hBefore.shared, hAfter.shared, hFollows⟩

/-- In every run of all calls and any number of relays, a payment belongs to a food
order and a customer or to a plan, for good. The first kind is never SUCCESS, is never
linked to a subscription and does not return to CREATED; the second is never CAPTURED. -/
theorem payments_keep_their_kind (config : Config) (kind : Call → Prop) (plans : Table SubscriptionPlan)
    (past rest : List (DeploymentMove kind)) :
    let before := (run (Deployment.next config) (World.initial plans).deployed past).sessions.shared.db
    let after := (run (Deployment.next config) (World.initial plans).deployed (past ++ rest)).sessions.shared.db
    ∀ tx ∈ before.transactions.rows, ∃ version, after.transactions.get? tx.id = some version ∧
      version.orderId = tx.orderId ∧ version.customerId = tx.customerId ∧ version.planId = tx.planId ∧
        (tx.orderId.isSome ∧ tx.customerId.isSome ∧ tx.planId = none ∧ version.subscriptionId = none ∧
            version.status ≠ .success ∧ (tx.status ≠ .created → version.status ≠ .created) ∨
          tx.orderId = none ∧ tx.customerId = none ∧ tx.planId.isSome ∧ version.status ≠ .captured) := by
  intro before after tx hTx
  obtain ⟨_, hAfter, hFollows⟩ := integrity_run config (fun _ => True) plans past rest
    fun move _ => starts_any (fun _ => trivial) move
  obtain ⟨write, hWrite, hRecord, hAdvances⟩ := hFollows (.transaction tx.id) (.transaction tx) (Database.row_transaction hTx)
  obtain ⟨version, hVersion, rfl⟩ := Option.map_eq_some_iff.mp hWrite
  have hSame : version.recorded = tx.recorded := Write.transaction.inj hRecord
  have hOrder : version.recorded.orderId = tx.recorded.orderId := congrArg PaymentTransaction.orderId hSame
  have hCustomer : version.recorded.customerId = tx.recorded.customerId := congrArg PaymentTransaction.customerId hSame
  have hPlan : version.recorded.planId = tx.recorded.planId := congrArg PaymentTransaction.planId hSame
  refine ⟨version, hVersion, hOrder, hCustomer, hPlan, ?_⟩
  cases stored_sorted hAfter (Table.get?_eq_some.mp hVersion).1 with
  | foodOrder hFood hKnown hNoPlan hNoLink hStatus =>
      refine Or.inl ⟨hOrder ▸ hFood, hCustomer ▸ hKnown, hPlan.symm.trans hNoPlan, hNoLink, hStatus, ?_⟩
      exact fun hLeft hCreated => hLeft (hAdvances (hOrder ▸ hFood) hCreated)
  | plan hNoOrder hNoCustomer hKnown hStatus =>
      exact Or.inr ⟨hOrder.symm.trans hNoOrder, hCustomer.symm.trans hNoCustomer, hPlan ▸ hKnown, hStatus⟩

end SpotqPayment
