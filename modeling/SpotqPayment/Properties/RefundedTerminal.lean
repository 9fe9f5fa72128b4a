import SpotqPayment.System.Invariants

/-! A refunded payment stays refunded as long as no late event and no replayed
verification reports its payment or its failure once more: `capture`,
`markFailed` and the activation guard other statuses, but not REFUNDED. -/
namespace SpotqPayment

open Transition PaymentTransactionRepository SubscriptionRepository

/-- A call that reports the payment or the failure of a transaction, and whose
report the database can store. -/
inductive Reopens (config : Config) (db : Database) (env : Env) : Call → PaymentTransaction → Prop where
  | captured {call : Call} {tx : PaymentTransaction} {params : CaptureParams}
      {event : CreateOutboxEventInput} (hCaptures : Captures config db env.now call tx params event)
      (hFree : db.PaymentIdFree tx (params.paymentId.or tx.razorpayPaymentId)) :
      Reopens config db env call tx
  | failed {input : HandleWebhookInput} {entity : WebhookPaymentEntity} {tx : PaymentTransaction}
      (hReported : input.ReportsFailure config db entity tx) :
      Reopens config db env (.handleWebhook input) tx
  | activated {call : Call} {tx : PaymentTransaction} {planId : Uuid} {plan : SubscriptionPlan}
      {paymentId signature : String} (hActivates : Activates config db call tx paymentId signature)
      (hPlanId : tx.planId = some planId) (hPlan : db.plans.get? planId = some plan)
      (hFree : db.PaymentIdFree tx (some paymentId)) (hReady : db.InvoiceReady env tx) :
      Reopens config db env call tx

/-- The call reports nothing about a transaction that is refunded. -/
def RespectsRefunds (config : Config) (world : World) (request : Request) : Prop :=
  ∀ tx ∈ world.db.transactions.rows, tx.status = .refunded →
    ¬ Reopens config world.db request.env request.call tx

variable {config : Config} {db : Database} {env : Env} {world : World} {tx : PaymentTransaction}

/-- What reopens a refunded transaction changes it into one that is not. -/
theorem Reopens.change {call : Call} (h : Reopens config db env call tx) (hStatus : tx.status = .refunded) :
    ∃ row, Change config db env call tx row ∧ row.status ≠ .refunded := by
  cases h with
  | captured hCaptures hFree =>
      have hOpen : tx.Capturable := by simp [PaymentTransaction.Capturable, hStatus]
      exact ⟨_, .captured hCaptures hOpen hFree, nofun⟩
  | @failed _ entity _ hReported =>
      cases hFood : tx.orderId with
      | some foodOrderId =>
          refine ⟨_, .failed hReported hFood (by simp [hStatus]), ?_⟩
          simp [failedRow, PaymentTransaction.markFailed, hStatus]
      | none => exact ⟨_, .markedFailed hReported hFood (by simp [hStatus]), nofun⟩
  | @activated _ _ planId plan paymentId _ hActivates hPlanId hPlan hFree hReady =>
      have hOpen : tx.Activatable db plan := ⟨by simp [completedSubscription, hStatus], planId, hPlanId, hPlan⟩
      have hClaimed : claimedPaymentId tx paymentId = some paymentId := by simp [claimedPaymentId, hStatus]
      refine ⟨_, .activated hActivates hOpen (hClaimed ▸ hFree) hReady, ?_⟩
      simp [activatedRow, claimedRow, paidRow, hStatus]

/-- Any other change of a refunded transaction leaves it refunded. -/
theorem Change.refunded_of_not_reopens {call : Call} {row : PaymentTransaction}
    (hChange : Change config db env call tx row) (hStatus : tx.status = .refunded)
    (hKeeps : ¬ Reopens config db env call tx) : row.status = .refunded := by
  cases hChange with
  | captured hCaptures hOpen hFree => exact absurd (.captured hCaptures hFree) hKeeps
  | failed hReported hFood hOpen => exact absurd (.failed hReported) hKeeps
  | markedFailed hReported hPlain hOpen => exact absurd (.failed hReported) hKeeps
  | @activated _ _ plan paymentId signature hActivates hOpen hFree hReady =>
      obtain ⟨planId, hPlanId, hPlan⟩ := hOpen.plan
      have hClaimed : claimedPaymentId tx paymentId = some paymentId := by simp [claimedPaymentId, hStatus]
      exact absurd (.activated hActivates hPlanId hPlan (hClaimed ▸ hFree) hReady) hKeeps
  | refunded hAccepted hAnswer hFresh => rfl
  | settled hReported hProcessed hRefund => rfl
  | reset hAccepted hPending hFailed =>
      rw [hStatus] at hFailed
      cases hFailed

/-- One step keeps every refunded transaction exactly when its call respects them. -/
theorem respectsRefunds_iff (hLinked : world.db.RefundsLinked) (request : Request) :
    RespectsRefunds config world request ↔ ∀ id, world.db.statusOf id = some .refunded →
      (serve config world request).db.statusOf id = some .refunded := by
  constructor
  · intro hRespects id hRefunded
    obtain ⟨tx, hGet, hStatus⟩ := statusOf_eq_some.mp hRefunded
    obtain ⟨hTx, hId⟩ := Table.get?_eq_some.mp hGet
    have hOutcome := @serve_outcome config world hLinked request
    rcases hOutcome.of_stored hTx with hSame | ⟨row, hChange, _, hChanged⟩
    · exact statusOf_eq_some.mpr ⟨tx, hId ▸ hSame, hStatus⟩
    · have hRow := hChange.refunded_of_not_reopens hStatus (hRespects tx hTx hStatus)
      exact statusOf_eq_some.mpr ⟨row, hId ▸ hChanged, hRow⟩
  · intro hStable tx hTx hStatus hReopens
    obtain ⟨row, hChange, hRow⟩ := hReopens.change hStatus
    have hAfter := hStable tx.id (statusOf_eq_some.mpr ⟨tx, Table.get?_key hTx, hStatus⟩)
    rw [Database.statusOf, serve_of_change hTx hChange, if_pos rfl] at hAfter
    exact hRow (Option.some.inj hAfter)

/-- REFUNDED is terminal along the run, for every transaction. -/
def RefundedIsTerminal (config : Config) (plans : Table SubscriptionPlan) (requests : List Request) : Prop :=
  ∀ id, Stable (serve config) (World.initial plans) requests fun world =>
    world.db.statusOf id = some .refunded

/-- REFUNDED is terminal in exactly those runs in which no call reports the
payment or the failure of a transaction that is refunded by then. -/
theorem refundedIsTerminal_iff (config : Config) (plans : Table SubscriptionPlan)
    (requests : List Request) :
    RefundedIsTerminal config plans requests ↔
      EveryStep (serve config) (World.initial plans) requests (RespectsRefunds config) :=
  stable_family_iff (fun world => world.db.RefundsLinked)
    (fun _ request hLinked => serve_refundsLinked request hLinked)
    (fun _ request hLinked => respectsRefunds_iff hLinked request) requests (refundsLinked_initial plans)

/-- An order is created, paid and refunded, and then `payment.captured` arrives. -/
def lateCapture : List Request :=
  [Sample.createOrderPayment 1000 7 50000 Sample.price_pos "order_1",
    Sample.verifyOrderPayment 2000 7 "order_1" "pay_1",
    Sample.processOrderRefund 3000 7 "rfnd_1" "processed",
    Sample.captured 4000]

/-- The late event moves the refunded payment back to CAPTURED. -/
theorem refundedIsTerminal_fails :
    ¬ ∀ config plans requests, RefundedIsTerminal config plans requests := by
  intro h
  have hStable := h Sample.config Table.empty lateCapture 0 (lateCapture.take 3) lateCapture
    (List.take_prefix 3 lateCapture) List.prefix_rfl (by decide)
  exact absurd hStable (by decide)

end SpotqPayment
