import SpotqPayment.System.Changes
import SpotqPayment.Properties.RefundedOnce

/-! What a refund request that throws has done. The gateway makes the refund before
the database records it; in between webhooks are handled, and the transaction that
records the refund may fail. -/
namespace SpotqPayment

open Process Engine
open PaymentTransactionRepository (statusRow requestedRefund processOrderRefund_writes)

/-- A webhook request. -/
inductive Call.IsWebhook : Call → Prop where
  | handleWebhook (input : HandleWebhookInput) : IsWebhook (.handleWebhook input)

/-- A refund request and what happens around it: whether the answer of the gateway is
lost, the webhooks handled before the refund is recorded, and how that fails. -/
structure RefundCall where
  input : ProcessOrderRefundInput
  env : Env
  answerLost : Bool
  between : List (RequestOf Call.IsWebhook)
  failure : Option ServiceError

namespace RefundCall

variable (config : Config) (call : RefundCall)

/-- The world after the webhooks. -/
def handled (world : World) : World := call.between.foldl (fun world request => serve config world request.1) world

/-- The environment of the call. Beside the world runs another one, in which the
webhooks are handled but the call is not made. -/
def perform : (port : Port) → World × World → Except ServiceError port.Answer × (World × World)
  | .createRefund paymentId amountInPaise, (world, without) =>
      (if call.answerLost then .error .gatewayFailure
        else (Port.perform call.env (.createRefund paymentId amountInPaise) world).1,
        (call.handled config (Port.perform call.env (.createRefund paymentId amountInPaise) world).2,
          call.handled config without))
  | .repository (.processOrderRefund params), (world, without) =>
      match call.failure with
      | some error => (.error error, (world, without))
      | none =>
          ((Port.perform call.env (.repository (.processOrderRefund params)) world).1,
            ((Port.perform call.env (.repository (.processOrderRefund params)) world).2, without))
  | port, (world, without) =>
      ((Port.perform call.env port world).1, ((Port.perform call.env port world).2, without))

def run (world : World) : Except ServiceError ProcessOrderRefundOutput × (World × World) :=
  exec (call.perform config) (processOrderRefund call.input call.env.now) (world, world)

/-- When the call throws, the gateway and the database are as they are without it. -/
def ThrowsUndone (world : World) : Prop :=
  ∀ error, (call.run config world).1 = .error error → (call.run config world).2.1 = (call.run config world).2.2

/-- A refund that the gateway makes is answered, and it can be recorded: the database
does not fail, and no webhook has refunded the transaction or stored the refund. -/
def Recorded (world : World) : Prop :=
  ∀ tx paymentId answer, call.input.Accepted world.db call.env tx paymentId → call.env.gatewayRefund = some answer →
    call.answerLost = false ∧ call.failure = none ∧
      (∃ row, (call.handled config world).db.findTransaction (.id tx.id) = some row ∧ row.status ≠ .refunded) ∧
        (call.handled config world).db.findRefund answer.refundId = none

end RefundCall

variable {config : Config} {call : RefundCall} {world : World} {tx : PaymentTransaction} {now : Instant}

section Webhooks

def Port.OnDatabase : Port → Prop
  | .repository _ => True
  | _ => False

theorem onDatabase_handleSuccess (payload : WebhookPayload) :
    (handleSuccess payload now).Respects Port.OnDatabase fun _ _ => True := by
  unfold handleSuccess
  split
  · trivial
  · refine Respects.call_bind trivial fun found _ => ?_
    split
    · trivial
    · split
      · unfold captureFromWebhook
        split
        · trivial
        · exact Respects.check_bind fun _ _ => Respects.call_bind trivial fun _ _ => trivial
      · unfold activateFromWebhook
        split
        · trivial
        · trivial
        · refine Respects.call_bind trivial fun plan _ => ?_
          split
          · trivial
          · exact Respects.call_bind trivial fun _ _ => trivial

theorem onDatabase_handleFailure (payload : WebhookPayload) :
    (handleFailure payload now).Respects Port.OnDatabase fun _ _ => True := by
  unfold handleFailure
  split
  · trivial
  · split
    · trivial
    · refine Respects.call_bind trivial fun found _ => ?_
      split
      · trivial
      · split
        · trivial
        · unfold failFromWebhook
          split <;> exact Respects.call_bind trivial fun _ _ => trivial

theorem onDatabase_handleRefund (payload : WebhookPayload) :
    (handleRefund payload).Respects Port.OnDatabase fun _ _ => True := by
  unfold handleRefund
  split
  · trivial
  · split
    · trivial
    · exact Respects.call trivial

theorem onDatabase_handleWebhook (input : HandleWebhookInput) :
    (handleWebhook config input now).Respects Port.OnDatabase fun _ _ => True := by
  unfold handleWebhook
  split
  · trivial
  · refine Respects.bind ?_ fun _ => trivial
    unfold dispatchWebhook
    split
    · split
      · exact onDatabase_handleSuccess _
      · trivial
    · split
      · exact onDatabase_handleSuccess _
      · trivial
    · exact onDatabase_handleFailure _
    · exact onDatabase_handleRefund _
    · exact onDatabase_handleRefund _
    · trivial

/-- What a webhook does has nothing to do with the gateway. -/
theorem serve_webhook (request : RequestOf Call.IsWebhook) (world : World) (gateway : Gateway) :
    serve config { world with gateway } request.1 = { serve config world request.1 with gateway } := by
  obtain ⟨⟨call, env⟩, hCall⟩ := request
  cases hCall with
  | handleWebhook input =>
      have hSame : ∀ port, Port.OnDatabase port → ∀ first second : World, second = { first with gateway } →
          (Port.perform env port first).1 = (Port.perform env port second).1 ∧
            (Port.perform env port second).2 = { (Port.perform env port first).2 with gateway } := by
        intro port hPort first second hSame
        rw [hSame]
        cases port with
        | repository request => exact ⟨rfl, rfl⟩
        | createOrder amountInPaise currency => exact hPort.elim
        | createRefund paymentId amountInPaise => exact hPort.elim
      exact (Respects.exec_related hSame ((onDatabase_handleWebhook input).map Reply.webhook) rfl).2

theorem handled_with (world : World) (gateway : Gateway) :
    call.handled config { world with gateway } = { call.handled config world with gateway } := by
  unfold RefundCall.handled
  induction call.between generalizing world with
  | nil => rfl
  | cons request rest ih => rw [List.foldl_cons, List.foldl_cons, serve_webhook, ih]

theorem handled_gateway (world : World) : (call.handled config world).gateway = world.gateway :=
  (congrArg World.gateway (handled_with world world.gateway) :)

end Webhooks

section Calls

variable {without : World} {paymentId : String} {answer : PaymentRefundResult} {error : ServiceError}

theorem perform_newest (orderId : Uuid) :
    call.perform config (.repository (.findByCustomerOrderId orderId)) (world, without) =
      (.ok (world.db.transactions.findFirst call.env.tie PaymentTransaction.createdAt fun tx => tx.orderId = some orderId),
        (world, without)) := by
  simp only [RefundCall.perform, perform_findByCustomerOrderId]

/-- Without a transaction to refund the call throws before it asks the gateway. -/
theorem run_of_unaccepted (hNone : ∀ tx paymentId, ¬ call.input.Accepted world.db call.env tx paymentId) :
    (call.run config world).2 = (world, world) := by
  unfold RefundCall.run processOrderRefund
  rw [exec_call_bind, perform_newest]
  cases hNewest : world.db.transactions.findFirst call.env.tie PaymentTransaction.createdAt
      (fun tx => tx.orderId = some call.input.orderId) with
  | none => rfl
  | some tx =>
      simp only
      rw [exec_check_bind]
      cases hRefundable : tx.assertCanRefund call.input.amountPaise with
      | error error => rfl
      | ok =>
          simp only [requestRefund]
          cases hPayment : truthy tx.razorpayPaymentId with
          | none => rfl
          | some paymentId => exact absurd ⟨hNewest, hRefundable, hPayment⟩ (hNone tx paymentId)

theorem run_of_accepted (hAccepted : call.input.Accepted world.db call.env tx paymentId) :
    call.run config world =
      exec (call.perform config) (requestRefund call.input tx call.env.now) (world, world) := by
  unfold RefundCall.run processOrderRefund
  rw [exec_call_bind, perform_newest, hAccepted.newest]
  simp only
  rw [exec_check_bind, hAccepted.refundable]

/-- The call throws when it gets no answer. -/
theorem run_of_unanswered (hAccepted : call.input.Accepted world.db call.env tx paymentId) {worlds : World × World}
    (hAsked : call.perform config (.createRefund paymentId (call.input.amountPaise.getD tx.amountPaise)) (world, world) =
      (.error error, worlds)) : call.run config world = (.error .paymentGatewayError, worlds) := by
  rw [run_of_accepted hAccepted]
  simp only [requestRefund, hAccepted.payment]
  rw [exec_attempt_bind, hAsked]
  rfl

/-- The call records the refund that the gateway has answered. -/
theorem run_of_answered (hAccepted : call.input.Accepted world.db call.env tx paymentId) {worlds : World × World}
    (hAsked : call.perform config (.createRefund paymentId (call.input.amountPaise.getD tx.amountPaise)) (world, world) =
      (.ok answer, worlds)) :
    call.run config world =
      exec (call.perform config) (repository (.processOrderRefund {
          transaction := statusRow .refunded call.env.now tx
          refund := refundInput call.input tx (call.input.amountPaise.getD tx.amountPaise) answer }) >>= fun stored =>
        .ret (OrderRefundMapper.toResponse stored.1 stored.2)) worlds := by
  have hPaid := tx.paid_of_refundable hAccepted.refundable
  rw [run_of_accepted hAccepted]
  simp only [requestRefund, hAccepted.payment]
  rw [exec_attempt_bind, hAsked]
  simp only [recordRefund, tx.markRefunded_of_paid hPaid, check_ok, ret_bind]
  rfl

/-- The gateway after the refund of this call. -/
def refundedGateway (world : World) (call : RefundCall) (tx : PaymentTransaction) (paymentId : String)
    (answer : PaymentRefundResult) : Gateway :=
  (world.refunded paymentId (call.input.amountPaise.getD tx.amountPaise) answer).gateway

theorem refundedGateway_ne : refundedGateway world call tx paymentId answer ≠ world.gateway := by
  intro hSame
  have hLength := congrArg (fun gateway => gateway.refunds.length) hSame
  simp [refundedGateway, World.refunded] at hLength

/-- The worlds after a refund that the gateway has made. -/
theorem perform_asked (hAnswer : call.env.gatewayRefund = some answer) :
    call.perform config (.createRefund paymentId (call.input.amountPaise.getD tx.amountPaise)) (world, world) =
      (if call.answerLost then .error .gatewayFailure else .ok answer,
        ({ call.handled config world with gateway := refundedGateway world call tx paymentId answer },
          call.handled config world)) := by
  simp only [RefundCall.perform, perform_createRefund hAnswer]
  rw [← handled_with]
  rfl

theorem perform_unasked (hAnswer : call.env.gatewayRefund = none) (amountInPaise : Int) :
    call.perform config (.createRefund paymentId amountInPaise) (world, world) =
      (.error .gatewayFailure, (call.handled config world, call.handled config world)) := by
  simp only [RefundCall.perform, perform_createRefund_failed hAnswer]
  split <;> rfl

theorem commit_ok_iff {Value : Type} {value : Value} {writes : List Write} :
    (∃ stored, (world.commit value writes).1 = .ok stored) ↔ ∃ written, world.db.writeAll writes = some written := by
  unfold World.commit
  cases world.db.writeAll writes with
  | none => exact ⟨(fun ⟨_, h⟩ => by cases h), (fun ⟨_, h⟩ => by cases h)⟩
  | some written => exact ⟨fun _ => ⟨written, rfl⟩, fun _ => ⟨value, rfl⟩⟩

/-- When a refund that the gateway has made can be recorded. -/
theorem perform_recorded (hFree : call.failure = none) {params : ProcessOrderRefundParams}
    (hFits : amountFits params.refund.amountPaise = true)
    (hStatus : params.transaction.status = .refunded) (hUpdated : params.transaction.updatedAt = call.env.now) :
    (∃ stored, (call.perform config (.repository (.processOrderRefund params)) (world, without)).1 = .ok stored) ↔
      (∃ row, world.db.findTransaction (.id params.transaction.id) = some row ∧ row.status ≠ .refunded) ∧
        world.db.findRefund params.refund.razorpayRefundId = none := by
  simp only [RefundCall.perform, hFree]
  by_cases hOpen : ∃ row, world.db.findTransaction (.id params.transaction.id) = some row ∧ row.status ≠ .refunded
  · obtain ⟨row, hRow, hOpenRow⟩ := hOpen
    obtain ⟨hMem, hId⟩ := Table.get?_eq_some.mp hRow
    have hAccepts := @recordedRefund_accepted call.env world.db row hMem (requestedRefund params call.env.now) hFits
    have hId' : row.id = params.transaction.id := hId
    rw [perform_of_writes (processOrderRefund_writes hRow hOpenRow), hStatus, hUpdated, ← hId', commit_ok_iff, hAccepts]
    exact ⟨fun hNone => ⟨⟨row, hId' ▸ hRow, hOpenRow⟩, hNone⟩, And.right⟩
  · have hPerform := hOpen
    push Not at hPerform
    obtain ⟨error, hPerform⟩ := @perform_refund_closed call.env world params hPerform
    rw [hPerform]
    exact ⟨(fun ⟨_, h⟩ => by cases h), fun h => absurd h.1 hOpen⟩

/-- What the call records. -/
def recordParams (call : RefundCall) (tx : PaymentTransaction) (answer : PaymentRefundResult) : ProcessOrderRefundParams where
  transaction := statusRow .refunded call.env.now tx
  refund := refundInput call.input tx (call.input.amountPaise.getD tx.amountPaise) answer

/-- The call throws exactly when its refund is not recorded. -/
theorem run_ok_iff (hAccepted : call.input.Accepted world.db call.env tx paymentId)
    (hAnswer : call.env.gatewayRefund = some answer) :
    (∃ output, (call.run config world).1 = .ok output) ↔
      call.answerLost = false ∧ call.failure = none ∧
        (∃ row, (call.handled config world).db.findTransaction (.id tx.id) = some row ∧ row.status ≠ .refunded) ∧
          (call.handled config world).db.findRefund answer.refundId = none := by
  have hAsked := @perform_asked config call world tx paymentId answer hAnswer
  cases hLost : call.answerLost with
  | true =>
      rw [hLost, if_pos rfl] at hAsked
      rw [run_of_unanswered hAccepted hAsked]
      exact ⟨(fun ⟨_, h⟩ => by cases h), (fun h => by cases h.1)⟩
  | false =>
      rw [hLost, if_neg Bool.false_ne_true] at hAsked
      rw [run_of_answered hAccepted hAsked, exec_call_ret_ok_iff, eq_self_iff_true, true_and]
      cases hFailure : call.failure with
      | some error =>
          simp only [RefundCall.perform, hFailure]
          exact ⟨(fun ⟨_, h⟩ => by cases h), (fun h => by cases h.1)⟩
      | none =>
          rw [eq_self_iff_true, true_and]
          exact @perform_recorded config call _ _ hFailure (recordParams call tx answer) hAccepted.amountFits rfl rfl

/-- What the call does after the answer leaves the gateway and the other world alone. -/
theorem perform_record (params : ProcessOrderRefundParams) (worlds : World × World) :
    (call.perform config (.repository (.processOrderRefund params)) worlds).2.1.gateway = worlds.1.gateway ∧
      (call.perform config (.repository (.processOrderRefund params)) worlds).2.2 = worlds.2 := by
  simp only [RefundCall.perform]
  cases call.failure <;> exact ⟨rfl, rfl⟩

/-- The refund is made, and the world without the call stays as the webhooks leave it. -/
theorem run_of_asked (hAccepted : call.input.Accepted world.db call.env tx paymentId)
    (hAnswer : call.env.gatewayRefund = some answer) :
    (call.run config world).2.1.gateway = refundedGateway world call tx paymentId answer ∧
      (call.run config world).2.2 = call.handled config world := by
  have hAsked := @perform_asked config call world tx paymentId answer hAnswer
  cases hLost : call.answerLost with
  | true =>
      rw [hLost, if_pos rfl] at hAsked
      rw [run_of_unanswered hAccepted hAsked]
      exact ⟨rfl, rfl⟩
  | false =>
      rw [hLost, if_neg Bool.false_ne_true] at hAsked
      rw [run_of_answered hAccepted hAsked, exec_call_ret_state]
      exact perform_record _ _

/-- A call that throws leaves a refund that the gateway has made. -/
theorem throwsUndone_iff_of_asked (hAccepted : call.input.Accepted world.db call.env tx paymentId)
    (hAnswer : call.env.gatewayRefund = some answer) :
    call.ThrowsUndone config world ↔ ∃ output, (call.run config world).1 = .ok output := by
  obtain ⟨hMade, hWithout⟩ := @run_of_asked config call world tx paymentId answer hAccepted hAnswer
  constructor
  · intro hUndone
    cases hResult : (call.run config world).1 with
    | ok output => exact ⟨output, rfl⟩
    | error error =>
        have hSame := congrArg World.gateway (hUndone error hResult)
        rw [hMade, hWithout, handled_gateway] at hSame
        exact absurd hSame refundedGateway_ne
  · rintro ⟨output, hOutput⟩ error hError
    rw [hOutput] at hError
    cases hError

/-- Without a refund at the gateway both worlds stay the same. -/
theorem run_of_unasked (hNone : ∀ tx paymentId answer, call.input.Accepted world.db call.env tx paymentId →
    call.env.gatewayRefund ≠ some answer) : (call.run config world).2.1 = (call.run config world).2.2 := by
  by_cases hAccepts : ∃ tx paymentId, call.input.Accepted world.db call.env tx paymentId
  · obtain ⟨tx, paymentId, hAccepted⟩ := hAccepts
    have hAnswer : call.env.gatewayRefund = none :=
      Option.eq_none_iff_forall_ne_some.mpr fun answer => hNone tx paymentId answer hAccepted
    rw [run_of_unanswered hAccepted (perform_unasked hAnswer _)]
  · push Not at hAccepts
    rw [run_of_unaccepted hAccepts]

/-- A refund request that throws has refunded nothing exactly when every refund that
the gateway makes for it is answered and can be recorded. -/
theorem throwsUndone_iff (config : Config) (call : RefundCall) (world : World) :
    call.ThrowsUndone config world ↔ call.Recorded config world := by
  by_cases hAsked : ∃ tx paymentId answer, call.input.Accepted world.db call.env tx paymentId ∧
      call.env.gatewayRefund = some answer
  · obtain ⟨tx, paymentId, answer, hAccepted, hAnswer⟩ := hAsked
    rw [throwsUndone_iff_of_asked hAccepted hAnswer, run_ok_iff hAccepted hAnswer]
    constructor
    · intro hRecorded other otherId otherAnswer hOther hOtherAnswer
      obtain rfl : tx = other := Option.some.inj (hAccepted.newest.symm.trans hOther.newest)
      obtain rfl : answer = otherAnswer := Option.some.inj (hAnswer.symm.trans hOtherAnswer)
      exact hRecorded
    · exact fun hRecorded => hRecorded tx paymentId answer hAccepted hAnswer
  · push Not at hAsked
    refine iff_of_true (fun error _ => run_of_unasked hAsked) fun tx paymentId answer hAccepted hAnswer => ?_
    exact absurd hAnswer (hAsked tx paymentId answer hAccepted)

end Calls

namespace Sample

/-- The gateway reports the refund of the paid order before the call records it. -/
def overtakenRefund : RefundCall where
  input := { orderId := 7, amountPaise := none, reason := none }
  env := (processOrderRefund 3000 7 "rfnd_1" "processed").env
  answerLost := false
  between := [⟨refundProcessed 3500, .handleWebhook _⟩]
  failure := none

end Sample

/-- The customer is told that the payment has been refunded already, by this very call. -/
theorem throwsUndone_fails : ¬ ∀ (config : Config) (call : RefundCall) (world : World), call.ThrowsUndone config world := by
  intro h
  have hThrows : (Sample.overtakenRefund.run Sample.config Sample.paidOrder).1 = .error .paymentAlreadyRefunded := by
    decide +kernel
  have hSame := congrArg (fun world => world.gateway.refunds.length)
    (h Sample.config Sample.overtakenRefund Sample.paidOrder _ hThrows)
  have hMade : (Sample.overtakenRefund.run Sample.config Sample.paidOrder).2.1.gateway.refunds.length ≠
      (Sample.overtakenRefund.run Sample.config Sample.paidOrder).2.2.gateway.refunds.length := by
    decide +kernel
  exact hMade hSame

end SpotqPayment
