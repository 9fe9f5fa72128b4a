import SpotqPayment.Infrastructure.RepositoryEffects
import SpotqPayment.System.Service

/-! What each call of a use case does to the database when it runs alone: under
which checks it reaches its transaction, and which rows it then writes. -/
namespace SpotqPayment

open Process Engine PaymentTransactionRepository SubscriptionRepository

variable {config : Config} {env : Env} {world : World} {tx : PaymentTransaction}

theorem serve_eq (call : Call) :
    serve config world { call, env } = (exec (Port.perform env) (call.process config env) world).2 := rfl

/-- A use case that ends with a repository call leaves what that call commits. -/
theorem exec_commit {Result : Type} {request : RepositoryCall} {value : request.Answer}
    {writes : List Write}
    (hPerform : Port.perform env (.repository request) world = world.commit value writes)
    (f : request.Answer → Result) :
    (exec (Port.perform env) (repository request >>= fun answer => .ret (f answer)) world).2 =
      world.store writes := by
  rw [exec_call_ret_state, hPerform]
  rfl

/-- It returns when the database accepts what the call writes. -/
theorem exec_commit_ok {Result : Type} {request : RepositoryCall} {value : request.Answer}
    {writes : List Write} {written : Database}
    (hPerform : Port.perform env (.repository request) world = world.commit value writes)
    (hWritten : world.db.writeAll writes = some written) (f : request.Answer → Result) :
    ∃ result, (exec (Port.perform env) (repository request >>= fun answer => .ret (f answer)) world).1 =
      .ok result := by
  refine exec_call_ret_ok_iff.mpr ⟨value, ?_⟩
  rw [hPerform, World.commit_of_written hWritten]

/-- A transaction can be captured: neither captured nor failed before. -/
def PaymentTransaction.Capturable (tx : PaymentTransaction) : Prop :=
  tx.status ≠ .captured ∧ tx.status ≠ .failed

theorem PaymentTransaction.capture_of_capturable (hOpen : tx.Capturable) (params : CaptureParams)
    (now : Instant) : tx.capture params now = .ok (tx.captureFields params now) := by
  rw [PaymentTransaction.capture, if_neg hOpen.1, if_neg hOpen.2]

theorem PaymentTransaction.capture_of_not_capturable (hClosed : ¬ tx.Capturable)
    (hStatus : tx.status ≠ .captured) (params : CaptureParams) (now : Instant) :
    tx.capture params now = .error .invalidPaymentStateTransition := by
  have hFailed : tx.status = .failed := by
    by_contra hOther
    exact hClosed ⟨hStatus, hOther⟩
  rw [PaymentTransaction.capture, if_neg hStatus, if_pos hFailed]

/-- The rows written by a capture. -/
def captureWrites (db : Database) (env : Env) (tx : PaymentTransaction) (params : CaptureParams)
    (event : CreateOutboxEventInput) : List Write :=
  [.transaction (capturedRow (tx.captureFields params env.now) tx), .outbox (db.outboxRow env event)]

/-- The repository half of a capture whose transaction was just read. -/
theorem perform_capture (hFound : tx ∈ world.db.transactions.rows) (hOpen : tx.Capturable)
    (params : CaptureParams) (event : CreateOutboxEventInput) :
    Port.perform env (.repository (.captureOrderPaymentWithOutbox
        { transaction := tx.captureFields params env.now, outbox := event })) world =
      world.commit (capturedRow (tx.captureFields params env.now) tx)
        (captureWrites world.db env tx params event) := by
  have hRow : world.db.findTransaction (.id (tx.captureFields params env.now).id) = some tx :=
    Database.findTransaction_id hFound
  exact perform_of_writes (captureOrderPaymentWithOutbox_writes hRow hOpen.1)

/-- `verifyOrderPayment` finds this transaction and accepts the signature. -/
structure VerifyOrderPaymentInput.Accepted (config : Config) (db : Database)
    (input : VerifyOrderPaymentInput) (tx : PaymentTransaction) : Prop where
  found : db.findTransaction (.razorpayOrderId input.razorpayOrderId) = some tx
  order : tx.orderId = some input.orderId
  owner : tx.customerId = none ∨ tx.customerId = input.customerId
  signed : RazorpayGateway.verifyPaymentSignature config input.razorpayOrderId
    input.razorpayPaymentId input.razorpaySignature = true

theorem assertBelongsToOrder_iff {orderId : Uuid} :
    tx.assertBelongsToOrder orderId = .ok () ↔ tx.orderId = some orderId := by
  simp [PaymentTransaction.assertBelongsToOrder, PaymentTransaction.belongsToOrder]

theorem assertOwnership_iff {customerId : Option Uuid} :
    tx.assertOwnership customerId = .ok () ↔ tx.customerId = none ∨ tx.customerId = customerId := by
  unfold PaymentTransaction.assertOwnership PaymentTransaction.isOwnedBy
  cases hOwner : tx.customerId with
  | none => simp
  | some owner =>
      cases customerId with
      | none => simp
      | some caller => by_cases hSame : owner = caller <;> simp [hSame]

theorem serve_verifyOrderPayment {input : VerifyOrderPaymentInput}
    (hAccepted : input.Accepted config world.db tx) (hOpen : tx.Capturable) :
    serve config world { call := .verifyOrderPayment input, env } =
      world.store (captureWrites world.db env tx input.captureParams
        (input.capturedEvent tx env.now)) := by
  have hSigned : ¬ RazorpayGateway.verifyPaymentSignature config input.razorpayOrderId
      input.razorpayPaymentId input.razorpaySignature = false := by simp [hAccepted.signed]
  have hMem := Database.findTransaction_mem hAccepted.found
  rw [serve_eq, Call.process, exec_map_state, verifyOrderPayment, exec_call_bind]
  simp only [perform_findByOrderId, hAccepted.found, assertBelongsToOrder_iff.mpr hAccepted.order,
    assertOwnership_iff.mpr hAccepted.owner, check_ok, ret_bind, if_neg hOpen.1, if_neg hSigned,
    captureVerified, PaymentTransaction.capture_of_capturable hOpen]
  exact exec_commit (perform_capture hMem hOpen input.captureParams (input.capturedEvent tx env.now)) _

/-- In every other case `verifyOrderPayment` changes nothing. -/
theorem serve_verifyOrderPayment_idle {input : VerifyOrderPaymentInput}
    (hIdle : ∀ tx, input.Accepted config world.db tx → ¬ tx.Capturable) :
    serve config world { call := .verifyOrderPayment input, env } = world := by
  rw [serve_eq, Call.process, exec_map_state, verifyOrderPayment, exec_call_bind, perform_findByOrderId]
  cases hFound : world.db.findTransaction (.razorpayOrderId input.razorpayOrderId) with
  | none => rfl
  | some tx =>
      simp only
      rw [exec_check_bind]
      cases hOrder : tx.assertBelongsToOrder input.orderId with
      | error error => rfl
      | ok =>
          simp only
          rw [exec_check_bind]
          cases hOwner : tx.assertOwnership input.customerId with
          | error error => rfl
          | ok =>
              simp only
              split
              · rfl
              · next hCaptured =>
                  split
                  · rfl
                  · next hSigned =>
                      have hAccepted : input.Accepted config world.db tx :=
                        ⟨hFound, assertBelongsToOrder_iff.mp hOrder, assertOwnership_iff.mp hOwner,
                          by simpa using hSigned⟩
                      rw [captureVerified, PaymentTransaction.capture_of_not_capturable
                        (hIdle tx hAccepted) hCaptured]
                      rfl

/-- The transaction that a success event of an accepted webhook is about. -/
structure HandleWebhookInput.ReportsSuccess (config : Config) (db : Database)
    (input : HandleWebhookInput) (tx : PaymentTransaction) : Prop where
  accepted : webhookAccepted config input = true
  success : input.parsedPayload.event.isSuccess = true
  found : ∃ orderId, input.parsedPayload.successOrderId = some orderId ∧
    db.findTransaction (.razorpayOrderId orderId) = some tx

/-- The failed payment and the transaction that an accepted webhook is about. -/
structure HandleWebhookInput.ReportsFailure (config : Config) (db : Database)
    (input : HandleWebhookInput) (entity : WebhookPaymentEntity) (tx : PaymentTransaction) : Prop where
  accepted : webhookAccepted config input = true
  failure : input.parsedPayload.event = .paymentFailed
  payment : input.parsedPayload.payment = some entity
  found : ∃ orderId, truthy entity.orderId = some orderId ∧
    db.findTransaction (.razorpayOrderId orderId) = some tx

/-- The refund that an accepted webhook is about. -/
structure HandleWebhookInput.ReportsRefund (config : Config) (input : HandleWebhookInput)
    (params : SyncRefundFromWebhookParams) : Prop where
  accepted : webhookAccepted config input = true
  refund : input.parsedPayload.event = .refundProcessed ∨ input.parsedPayload.event = .refundFailed
  params : ∃ refund refundId, input.parsedPayload.refund = some refund ∧
    truthy refund.id = some refundId ∧ params = input.parsedPayload.syncParams refund refundId

theorem serve_handleWebhook {input : HandleWebhookInput} (h : webhookAccepted config input = true) :
    serve config world { call := .handleWebhook input, env } =
      (exec (Port.perform env) (dispatchWebhook input.parsedPayload env.now) world).2 := by
  have hAccepted : ¬ webhookAccepted config input = false := by simp [h]
  rw [serve_eq, Call.process, exec_map_state, handleWebhook, if_neg hAccepted]
  exact exec_bind_ret_state _ _ world

theorem serve_handleWebhook_rejected {input : HandleWebhookInput}
    (h : webhookAccepted config input = false) :
    serve config world { call := .handleWebhook input, env } = world := by
  rw [serve_eq, Call.process, exec_map_state, handleWebhook, if_pos h]
  rfl

/-- A payload with the gateway order of a success event has an entity to read it from. -/
theorem WebhookPayload.entity_of_successOrderId {payload : WebhookPayload} {orderId : String}
    (h : payload.successOrderId = some orderId) : payload.payment.isSome ∨ payload.order.isSome := by
  cases hPayment : payload.payment with
  | some payment => exact Or.inl rfl
  | none =>
      cases hOrder : payload.order with
      | some order => exact Or.inr rfl
      | none => simp [successOrderId, orElse, truthy, hPayment, hOrder] at h

theorem dispatchWebhook_success {payload : WebhookPayload} {now : Instant}
    (hEvent : payload.event.isSuccess = true) {orderId : String}
    (hOrder : payload.successOrderId = some orderId) :
    dispatchWebhook payload now = handleSuccess payload now := by
  have hEntity := payload.entity_of_successOrderId hOrder
  unfold dispatchWebhook
  cases hKind : payload.event <;> simp_all [WebhookEvent.isSuccess]

/-- A success event reads its transaction and goes on by its kind. -/
theorem exec_success {input : HandleWebhookInput} (hReported : input.ReportsSuccess config world.db tx) :
    exec (Port.perform env) (handleWebhook config input env.now) world =
      exec (Port.perform env) ((match tx.orderId with
        | some foodOrderId => captureFromWebhook input.parsedPayload tx foodOrderId env.now
        | none => activateFromWebhook input.parsedPayload tx env.now) >>=
          fun _ => .ret { received := true }) world := by
  obtain ⟨orderId, hOrder, hFound⟩ := hReported.found
  have hAccepted : ¬ webhookAccepted config input = false := by simp [hReported.accepted]
  have hRead : Port.perform env (.repository (.findByOrderId orderId)) world = (.ok (some tx), world) := by
    rw [perform_findByOrderId, hFound]
  rw [handleWebhook, if_neg hAccepted, dispatchWebhook_success hReported.success hOrder]
  simp only [handleSuccess, hOrder]
  rw [bind_assoc, exec_call_bind_of_answer hRead]
  rfl

theorem serve_success {input : HandleWebhookInput} (hReported : input.ReportsSuccess config world.db tx) :
    serve config world { call := .handleWebhook input, env } =
      (exec (Port.perform env) (match tx.orderId with
        | some foodOrderId => captureFromWebhook input.parsedPayload tx foodOrderId env.now
        | none => activateFromWebhook input.parsedPayload tx env.now) world).2 := by
  rw [serve_eq, Call.process, exec_map_state, exec_success hReported, exec_bind_ret_state]

theorem serve_captured {input : HandleWebhookInput} {foodOrderId : Uuid}
    (hReported : input.ReportsSuccess config world.db tx) (hFood : tx.orderId = some foodOrderId)
    (hOpen : tx.Capturable) :
    serve config world { call := .handleWebhook input, env } =
      world.store (captureWrites world.db env tx (input.parsedPayload.captureParams tx)
        (input.parsedPayload.capturedEvent tx foodOrderId env.now)) := by
  obtain ⟨orderId, _, hFound⟩ := hReported.found
  have hMem := Database.findTransaction_mem hFound
  rw [serve_success hReported, hFood]
  simp only [captureFromWebhook, if_neg hOpen.1, PaymentTransaction.capture_of_capturable hOpen,
    check_ok, ret_bind]
  exact exec_commit (perform_capture hMem hOpen _ _) _

theorem serve_captured_idle {input : HandleWebhookInput} {foodOrderId : Uuid}
    (hReported : input.ReportsSuccess config world.db tx) (hFood : tx.orderId = some foodOrderId)
    (hClosed : ¬ tx.Capturable) :
    serve config world { call := .handleWebhook input, env } = world := by
  rw [serve_success hReported, hFood]
  simp only [captureFromWebhook]
  split
  · rfl
  · next hStatus =>
      rw [PaymentTransaction.capture_of_not_capturable hClosed hStatus]
      rfl

/-- The rows written by the activation of a transaction that was just read. -/
def activationWrites (db : Database) (env : Env) (tx : PaymentTransaction)
    (params : ActivateSubscriptionWithOutboxParams) : List Write :=
  claimWrites params.payment env.now tx ++ openingWrites db env params tx env.invoiceNumber env.now

/-- The plan of a transaction that has not completed its activation. -/
structure PaymentTransaction.Activatable (db : Database) (tx : PaymentTransaction)
    (plan : SubscriptionPlan) : Prop where
  open_ : completedSubscription tx = none
  plan : ∃ planId, tx.planId = some planId ∧ db.plans.get? planId = some plan

theorem PaymentTransaction.Activatable.unlinked {db : Database} {plan : SubscriptionPlan}
    (h : tx.Activatable db plan) (hStatus : tx.status = .success) : tx.subscriptionId = none := by
  have hNone := h.open_
  rwa [completedSubscription, if_pos hStatus] at hNone

/-- The repository half of an activation whose transaction was just read. -/
theorem perform_activate {plan : SubscriptionPlan} (hFound : tx ∈ world.db.transactions.rows)
    (hOpen : tx.Activatable world.db plan) (paymentId signature : String) :
    Port.perform env (.repository (.activateSubscriptionWithOutbox
        (activationParams tx plan paymentId signature env.now))) world =
      world.commit
        (world.db.subscriptionRow env (activationParams tx plan paymentId signature env.now).subscription)
        (activationWrites world.db env tx (activationParams tx plan paymentId signature env.now)) := by
  refine perform_of_writes (activateSubscriptionWithOutbox_writes
    (Database.findTransaction_of_mem hFound) fun hStatus id hLink => ?_)
  rw [hOpen.unlinked hStatus] at hLink
  cases hLink

theorem serve_activated {input : HandleWebhookInput} {plan : SubscriptionPlan}
    (hReported : input.ReportsSuccess config world.db tx) (hPlain : tx.orderId = none)
    (hOpen : tx.Activatable world.db plan) :
    serve config world { call := .handleWebhook input, env } =
      world.store (activationWrites world.db env tx (activationParams tx plan
        (activationPaymentId input.parsedPayload tx) "" env.now)) := by
  obtain ⟨orderId, _, hFound⟩ := hReported.found
  obtain ⟨planId, hPlanId, hPlan⟩ := hOpen.plan
  have hMem := Database.findTransaction_mem hFound
  rw [serve_success hReported, hPlain]
  simp only [activateFromWebhook, hOpen.open_, hPlanId]
  rw [exec_call_bind, perform_findPlanById, hPlan]
  exact exec_commit (perform_activate hMem hOpen _ _) _

theorem serve_activated_idle {input : HandleWebhookInput}
    (hReported : input.ReportsSuccess config world.db tx) (hPlain : tx.orderId = none)
    (hClosed : ∀ plan, ¬ tx.Activatable world.db plan) :
    serve config world { call := .handleWebhook input, env } = world := by
  rw [serve_success hReported, hPlain]
  simp only [activateFromWebhook]
  cases hDone : completedSubscription tx with
  | some id => rfl
  | none =>
      cases hPlanId : tx.planId with
      | none => rfl
      | some planId =>
          simp only
          rw [exec_call_bind, perform_findPlanById]
          cases hPlan : world.db.plans.get? planId with
          | none => rfl
          | some plan => exact absurd ⟨hDone, planId, hPlanId, hPlan⟩ (hClosed plan)

/-- A failed payment reads its transaction and leaves a paid one alone. -/
theorem serve_failure {input : HandleWebhookInput} {entity : WebhookPaymentEntity}
    (hReported : input.ReportsFailure config world.db entity tx) :
    serve config world { call := .handleWebhook input, env } =
      (exec (Port.perform env) (if tx.status = .success ∨ tx.status = .captured then return ()
        else failFromWebhook entity tx.razorpayOrderId tx env.now) world).2 := by
  obtain ⟨orderId, hOrder, hFound⟩ := hReported.found
  rw [serve_handleWebhook hReported.accepted]
  simp only [dispatchWebhook, hReported.failure, handleFailure, hReported.payment, hOrder]
  rw [exec_call_bind, perform_findByOrderId, hFound, Database.findTransaction_orderId hFound]

/-- The rows written by the failure of a food order. -/
def failureWrites (db : Database) (env : Env) (tx : PaymentTransaction) (entity : WebhookPaymentEntity)
    (foodOrderId : Uuid) : List Write :=
  [.transaction (failedRow (tx.markFailed entity.failureReason env.now) tx),
    .outbox (db.outboxRow env (entity.failedEvent tx foodOrderId env.now))]

theorem markFailed_id (reason : String) (now : Instant) : (tx.markFailed reason now).id = tx.id := by
  unfold PaymentTransaction.markFailed
  split <;> rfl

theorem serve_failed {input : HandleWebhookInput} {entity : WebhookPaymentEntity} {foodOrderId : Uuid}
    (hReported : input.ReportsFailure config world.db entity tx) (hFood : tx.orderId = some foodOrderId)
    (hOpen : ¬ (tx.status = .captured ∨ tx.status = .success ∨ tx.status = .failed)) :
    serve config world { call := .handleWebhook input, env } =
      world.store (failureWrites world.db env tx entity foodOrderId) := by
  obtain ⟨orderId, _, hFound⟩ := hReported.found
  have hRow : world.db.findTransaction (.id (tx.markFailed entity.failureReason env.now).id) = some tx := by
    rw [markFailed_id]
    exact Database.findTransaction_id (Database.findTransaction_mem hFound)
  have hUnpaid : ¬ (tx.status = .success ∨ tx.status = .captured) := by tauto
  rw [serve_failure hReported, if_neg hUnpaid]
  simp only [failFromWebhook, hFood]
  exact exec_commit (perform_of_writes (failOrderPaymentWithOutbox_writes hRow hOpen)) _

theorem serve_failed_idle {input : HandleWebhookInput} {entity : WebhookPaymentEntity} {foodOrderId : Uuid}
    (hReported : input.ReportsFailure config world.db entity tx) (hFood : tx.orderId = some foodOrderId)
    (hClosed : tx.status = .captured ∨ tx.status = .success ∨ tx.status = .failed) :
    serve config world { call := .handleWebhook input, env } = world := by
  obtain ⟨orderId, _, hFound⟩ := hReported.found
  have hRow : world.db.findTransaction (.id (tx.markFailed entity.failureReason env.now).id) = some tx := by
    rw [markFailed_id]
    exact Database.findTransaction_id (Database.findTransaction_mem hFound)
  rw [serve_failure hReported]
  split
  · rfl
  · simp only [failFromWebhook, hFood]
    show _ = world.store []
    exact exec_commit (perform_of_writes (failOrderPaymentWithOutbox_idle hRow hClosed)) _

theorem serve_markedFailed {input : HandleWebhookInput} {entity : WebhookPaymentEntity}
    (hReported : input.ReportsFailure config world.db entity tx) (hPlain : tx.orderId = none)
    (hOpen : ¬ (tx.status = .success ∨ tx.status = .captured)) :
    serve config world { call := .handleWebhook input, env } =
      world.store [.transaction (markedFailedRow entity.failureReason env.now tx)] := by
  obtain ⟨orderId, _, hFound⟩ := hReported.found
  have hRow := Database.findTransaction_of_mem (Database.findTransaction_mem hFound)
  rw [serve_failure hReported, if_neg hOpen]
  simp only [failFromWebhook, hPlain]
  exact exec_commit (perform_markFailed hRow) _

theorem serve_markedFailed_idle {input : HandleWebhookInput} {entity : WebhookPaymentEntity}
    (hReported : input.ReportsFailure config world.db entity tx)
    (hClosed : tx.status = .success ∨ tx.status = .captured) :
    serve config world { call := .handleWebhook input, env } = world := by
  rw [serve_failure hReported, if_pos hClosed]
  rfl

/-- A refund event is one repository call. -/
theorem serve_refundEvent {input : HandleWebhookInput} {params : SyncRefundFromWebhookParams}
    (hReported : input.ReportsRefund config params) :
    serve config world { call := .handleWebhook input, env } =
      (Port.perform env (.repository (.syncRefundFromWebhook params)) world).2 := by
  obtain ⟨refund, refundId, hRefund, hId, rfl⟩ := hReported.params
  rw [serve_handleWebhook hReported.accepted]
  rcases hReported.refund with hEvent | hEvent
  · simp only [dispatchWebhook, hEvent, handleRefund, hRefund, hId, exec_call]
  · simp only [dispatchWebhook, hEvent, handleRefund, hRefund, hId, exec_call]

theorem serve_refundSynced {input : HandleWebhookInput} {params : SyncRefundFromWebhookParams}
    {refund : PaymentRefund} (hReported : input.ReportsRefund config params)
    (hKnown : world.db.findRefund params.razorpayRefundId = some refund)
    (hRow : world.db.findTransaction (.id refund.paymentTransactionId) = some tx) :
    serve config world { call := .handleWebhook input, env } =
      world.store (.refund (syncedRefund params env.now refund) ::
        settlement world.db params.status tx env.now) := by
  have hPerform : Port.perform env (.repository (.syncRefundFromWebhook params)) world =
      world.commit () (.refund (syncedRefund params env.now refund) ::
        settlement world.db params.status tx env.now) :=
    perform_of_writes (syncRefundFromWebhook_known hKnown hRow)
  rw [serve_refundEvent hReported, hPerform]
  rfl

theorem serve_refundRecorded {input : HandleWebhookInput} {params : SyncRefundFromWebhookParams}
    {razorpayPaymentId : String} (hReported : input.ReportsRefund config params)
    (hUnknown : world.db.findRefund params.razorpayRefundId = none)
    (hPayment : truthy params.razorpayPaymentId = some razorpayPaymentId)
    (hRow : world.db.findTransaction (.razorpayPaymentId razorpayPaymentId) = some tx) :
    serve config world { call := .handleWebhook input, env } =
      world.store (.refund (world.db.refundRow env (reportedRefund params tx env.now)) ::
        settlement world.db params.status tx env.now) := by
  have hPerform : Port.perform env (.repository (.syncRefundFromWebhook params)) world =
      world.commit () (.refund (world.db.refundRow env (reportedRefund params tx env.now)) ::
        settlement world.db params.status tx env.now) :=
    perform_of_writes (syncRefundFromWebhook_unknown hUnknown hPayment hRow)
  rw [serve_refundEvent hReported, hPerform]
  rfl

theorem serve_refundEvent_idle {input : HandleWebhookInput} {params : SyncRefundFromWebhookParams}
    (hReported : input.ReportsRefund config params)
    (hUnknown : world.db.findRefund params.razorpayRefundId = none)
    (hPayment : ∀ razorpayPaymentId, truthy params.razorpayPaymentId = some razorpayPaymentId →
      world.db.findTransaction (.razorpayPaymentId razorpayPaymentId) = none) :
    serve config world { call := .handleWebhook input, env } = world := by
  have hPerform : Port.perform env (.repository (.syncRefundFromWebhook params)) world =
      world.commit () [] :=
    perform_of_writes (syncRefundFromWebhook_idle hUnknown hPayment)
  rw [serve_refundEvent hReported, hPerform]
  rfl

theorem handleSuccess_idle {input : HandleWebhookInput} (hAccepted : webhookAccepted config input = true)
    (hEvent : input.parsedPayload.event.isSuccess = true)
    (hNone : ∀ tx, ¬ input.ReportsSuccess config world.db tx) :
    (exec (Port.perform env) (handleSuccess input.parsedPayload env.now) world).2 = world := by
  unfold handleSuccess
  cases hOrder : input.parsedPayload.successOrderId with
  | none => rfl
  | some orderId =>
      simp only
      rw [exec_call_bind, perform_findByOrderId]
      cases hFound : world.db.findTransaction (.razorpayOrderId orderId) with
      | none => rfl
      | some tx => exact absurd ⟨hAccepted, hEvent, orderId, hOrder, hFound⟩ (hNone tx)

theorem handleFailure_idle {input : HandleWebhookInput} (hAccepted : webhookAccepted config input = true)
    (hEvent : input.parsedPayload.event = .paymentFailed)
    (hNone : ∀ entity tx, ¬ input.ReportsFailure config world.db entity tx) :
    (exec (Port.perform env) (handleFailure input.parsedPayload env.now) world).2 = world := by
  unfold handleFailure
  cases hPayment : input.parsedPayload.payment with
  | none => rfl
  | some entity =>
      simp only
      cases hOrder : truthy entity.orderId with
      | none => rfl
      | some orderId =>
          simp only
          rw [exec_call_bind, perform_findByOrderId]
          cases hFound : world.db.findTransaction (.razorpayOrderId orderId) with
          | none => rfl
          | some tx =>
              exact absurd ⟨hAccepted, hEvent, hPayment, orderId, hOrder, hFound⟩ (hNone entity tx)

theorem handleRefund_idle {input : HandleWebhookInput} (hAccepted : webhookAccepted config input = true)
    (hEvent : input.parsedPayload.event = .refundProcessed ∨ input.parsedPayload.event = .refundFailed)
    (hNone : ∀ params, ¬ input.ReportsRefund config params) :
    (exec (Port.perform env) (handleRefund input.parsedPayload) world).2 = world := by
  unfold handleRefund
  cases hRefund : input.parsedPayload.refund with
  | none => rfl
  | some refund =>
      simp only
      cases hId : truthy refund.id with
      | none => rfl
      | some refundId => exact absurd ⟨hAccepted, hEvent, refund, refundId, hRefund, hId, rfl⟩ (hNone _)

/-- A webhook that reports nothing about a stored transaction or a refund, or
that is not accepted, changes nothing. -/
theorem serve_handleWebhook_idle {input : HandleWebhookInput}
    (hSuccess : ∀ tx, ¬ input.ReportsSuccess config world.db tx)
    (hFailure : ∀ entity tx, ¬ input.ReportsFailure config world.db entity tx)
    (hRefund : ∀ params, ¬ input.ReportsRefund config params) :
    serve config world { call := .handleWebhook input, env } = world := by
  cases hAccepted : webhookAccepted config input with
  | false => exact serve_handleWebhook_rejected hAccepted
  | true =>
      rw [serve_handleWebhook hAccepted]
      unfold dispatchWebhook
      cases hEvent : input.parsedPayload.event with
      | paymentCaptured =>
          simp only
          split
          · exact handleSuccess_idle hAccepted (by rw [hEvent]; rfl) hSuccess
          · rfl
      | orderPaid =>
          simp only
          split
          · exact handleSuccess_idle hAccepted (by rw [hEvent]; rfl) hSuccess
          · rfl
      | paymentFailed => exact handleFailure_idle hAccepted hEvent hFailure
      | refundProcessed => exact handleRefund_idle hAccepted (Or.inl hEvent) hRefund
      | refundFailed => exact handleRefund_idle hAccepted (Or.inr hEvent) hRefund
      | other name => rfl

/-- `verifyPayment` finds this transaction and accepts the signature. -/
structure VerifyPaymentInput.Accepted (config : Config) (db : Database) (input : VerifyPaymentInput)
    (tx : PaymentTransaction) : Prop where
  signed : RazorpayGateway.verifyPaymentSignature config input.razorpayOrderId
    input.razorpayPaymentId input.razorpaySignature = true
  found : db.findTransaction (.razorpayOrderId input.razorpayOrderId) = some tx
  restaurant : ∀ restaurantId, input.restaurantId = some restaurantId → restaurantId = tx.restaurantId

theorem restaurant_any {input : VerifyPaymentInput} :
    input.restaurantId.any (· ≠ tx.restaurantId) = false ↔
      ∀ restaurantId, input.restaurantId = some restaurantId → restaurantId = tx.restaurantId := by
  cases input.restaurantId <;> simp

theorem serve_verifyPayment {input : VerifyPaymentInput} {plan : SubscriptionPlan}
    (hAccepted : input.Accepted config world.db tx) (hOpen : tx.Activatable world.db plan) :
    serve config world { call := .verifyPayment input, env } =
      world.store (activationWrites world.db env tx
        (activationParams tx plan input.razorpayPaymentId input.razorpaySignature env.now)) := by
  obtain ⟨planId, hPlanId, hPlan⟩ := hOpen.plan
  have hMem := Database.findTransaction_mem hAccepted.found
  have hSigned : ¬ RazorpayGateway.verifyPaymentSignature config input.razorpayOrderId
      input.razorpayPaymentId input.razorpaySignature = false := by simp [hAccepted.signed]
  have hRestaurant : ¬ input.restaurantId.any (· ≠ tx.restaurantId) = true := by
    rw [restaurant_any.mpr hAccepted.restaurant]
    exact Bool.false_ne_true
  rw [serve_eq, Call.process, exec_map_state, verifyPayment, if_neg hSigned, exec_call_bind]
  simp only [perform_findByOrderId, hAccepted.found, if_neg hRestaurant, hOpen.open_, activateVerified,
    hPlanId]
  rw [exec_call_bind, perform_findPlanById, hPlan]
  exact exec_commit (perform_activate hMem hOpen _ _) _

theorem completedResponse_state (subscriptionId : Uuid) :
    (exec (Port.perform env) (completedResponse tx subscriptionId env.now) world).2 = world := by
  unfold completedResponse
  cases tx.planId <;> rfl

/-- In every other case `verifyPayment` changes nothing. -/
theorem serve_verifyPayment_idle {input : VerifyPaymentInput}
    (hIdle : ∀ tx plan, input.Accepted config world.db tx → ¬ tx.Activatable world.db plan) :
    serve config world { call := .verifyPayment input, env } = world := by
  rw [serve_eq, Call.process, exec_map_state, verifyPayment]
  split
  · rfl
  · next hSigned =>
      rw [exec_call_bind, perform_findByOrderId]
      cases hFound : world.db.findTransaction (.razorpayOrderId input.razorpayOrderId) with
      | none => rfl
      | some tx =>
          simp only
          split
          · rfl
          · next hRestaurant =>
              have hAccepted : input.Accepted config world.db tx :=
                ⟨by simpa using hSigned, hFound, restaurant_any.mp (by simpa using hRestaurant)⟩
              cases hDone : completedSubscription tx with
              | some subscriptionId => exact completedResponse_state subscriptionId
              | none =>
                  simp only [activateVerified]
                  cases hPlanId : tx.planId with
                  | none => rfl
                  | some planId =>
                      simp only
                      rw [exec_call_bind, perform_findPlanById]
                      cases hPlan : world.db.plans.get? planId with
                      | none => rfl
                      | some plan => exact absurd ⟨hDone, planId, hPlanId, hPlan⟩ (hIdle tx plan hAccepted)

/-- The newest transaction of the order, which a refund request may refund. -/
structure ProcessOrderRefundInput.Accepted (db : Database) (env : Env) (input : ProcessOrderRefundInput)
    (tx : PaymentTransaction) (paymentId : String) : Prop where
  newest : db.transactions.findFirst env.tie PaymentTransaction.createdAt
    (fun tx => tx.orderId = some input.orderId) = some tx
  refundable : tx.assertCanRefund input.amountPaise = .ok ()
  payment : truthy tx.razorpayPaymentId = some paymentId

theorem PaymentTransaction.paid_of_refundable {amountPaise : Option Int}
    (h : tx.assertCanRefund amountPaise = .ok ()) : tx.status = .captured ∨ tx.status = .success := by
  unfold PaymentTransaction.assertCanRefund at h
  split at h
  · cases h
  · split at h
    · cases h
    · next hPaid => tauto

/-- A paid transaction that names its payment can be refunded as a whole. -/
theorem PaymentTransaction.refundable_of_paid (hPaid : tx.status = .captured ∨ tx.status = .success)
    (hPayment : truthy tx.razorpayPaymentId ≠ none) : tx.assertCanRefund none = .ok () := by
  unfold PaymentTransaction.assertCanRefund
  rcases hPaid with hStatus | hStatus <;> simp [hStatus, hPayment]

/-- Only the full amount can be asked for. -/
theorem PaymentTransaction.amount_of_refundable {amountPaise : Option Int}
    (h : tx.assertCanRefund amountPaise = .ok ()) : amountPaise.getD tx.amountPaise = tx.amountPaise := by
  unfold PaymentTransaction.assertCanRefund at h
  split at h
  · cases h
  · split at h
    · cases h
    · split at h
      · cases h
      · cases amountPaise with
        | none => rfl
        | some amount =>
            simp only at h
            split at h
            · cases h
            · split at h
              · cases h
              · simp only [Option.getD_some]
                omega

/-- The refund row of a request. -/
def requestedRow (db : Database) (env : Env) (input : ProcessOrderRefundInput) (tx : PaymentTransaction)
    (answer : PaymentRefundResult) : PaymentRefund :=
  db.refundRow env (requestedRefund {
    transaction := statusRow .refunded env.now tx
    refund := refundInput input tx (input.amountPaise.getD tx.amountPaise) answer } env.now)

/-- The rows written by a refund request. -/
def refundWrites (db : Database) (env : Env) (input : ProcessOrderRefundInput) (tx : PaymentTransaction)
    (answer : PaymentRefundResult) : List Write :=
  [.transaction (statusRow .refunded env.now tx), .refund (requestedRow db env input tx answer)] ++
    db.voidedInvoices tx.id env.now

theorem PaymentTransaction.markRefunded_of_paid (h : tx.status = .captured ∨ tx.status = .success)
    (now : Instant) : tx.markRefunded now = .ok (statusRow .refunded now tx) := by
  have hPaid : ¬ (tx.status ≠ .captured ∧ tx.status ≠ .success) := by tauto
  rw [PaymentTransaction.markRefunded, if_neg hPaid]
  rfl

/-- The gateway after a refund, before the database knows of it. -/
def World.refunded (world : World) (paymentId : String) (amountInPaise : Int)
    (answer : PaymentRefundResult) : World :=
  { world with gateway := { world.gateway with
    refunds := world.gateway.refunds ++ [{ refundId := answer.refundId, paymentId, amountInPaise }] } }

theorem perform_createRefund {answer : PaymentRefundResult} (h : env.gatewayRefund = some answer)
    (paymentId : String) (amountInPaise : Int) :
    Port.perform env (.createRefund paymentId amountInPaise) world =
      (.ok answer, world.refunded paymentId amountInPaise answer) := by
  simp only [Port.perform, h]
  rfl

theorem perform_createRefund_failed (h : env.gatewayRefund = none) (paymentId : String)
    (amountInPaise : Int) :
    Port.perform env (.createRefund paymentId amountInPaise) world = (.error .gatewayFailure, world) := by
  simp only [Port.perform, h]

/-- A refund of a transaction that is REFUNDED or missing is not recorded. -/
theorem perform_refund_closed {params : ProcessOrderRefundParams}
    (hClosed : ∀ row, world.db.findTransaction (.id params.transaction.id) = some row → row.status = .refunded) :
    ∃ error, Port.perform env (.repository (.processOrderRefund params)) world = (.error error, world) := by
  cases hRow : world.db.findTransaction (.id params.transaction.id) with
  | none =>
      have hFails : (engine env).Fails (PaymentTransactionRepository.processOrderRefund params env.now)
          world.db .paymentOrderNotFound := by
        refine Engine.Fails.read rfl ?_
        rw [hRow]
        exact Engine.Fails.fail _
      exact ⟨_, perform_of_fails hFails⟩
  | some row =>
      have hFails : (engine env).Fails (PaymentTransactionRepository.processOrderRefund params env.now)
          world.db .paymentAlreadyRefunded := by
        refine Engine.Fails.read rfl ?_
        simp only [hRow, if_pos (hClosed row hRow)]
        exact Engine.Fails.fail _
      exact ⟨_, perform_of_fails hFails⟩

theorem serve_processOrderRefund {input : ProcessOrderRefundInput} {paymentId : String}
    {answer : PaymentRefundResult} (hAccepted : input.Accepted world.db env tx paymentId)
    (hAnswer : env.gatewayRefund = some answer) :
    serve config world { call := .processOrderRefund input, env } =
      (world.refunded paymentId (input.amountPaise.getD tx.amountPaise) answer).store
        (refundWrites world.db env input tx answer) := by
  have hMem : tx ∈ world.db.transactions.rows := (Table.findFirst_some hAccepted.newest).1
  have hPaid := tx.paid_of_refundable hAccepted.refundable
  have hOpen : tx.status ≠ .refunded := by rcases hPaid with h | h <;> simp [h]
  have hRow : (world.refunded paymentId (input.amountPaise.getD tx.amountPaise) answer).db.findTransaction
      (.id (statusRow .refunded env.now tx).id) = some tx := Database.findTransaction_id hMem
  rw [serve_eq, Call.process, exec_map_state, processOrderRefund, exec_call_bind,
    perform_findByCustomerOrderId, hAccepted.newest]
  simp only [hAccepted.refundable, check_ok, ret_bind, requestRefund, hAccepted.payment]
  rw [exec_attempt_bind, perform_createRefund hAnswer]
  simp only [recordRefund, tx.markRefunded_of_paid hPaid, check_ok, ret_bind]
  have hPerform : Port.perform env (.repository (.processOrderRefund {
        transaction := statusRow .refunded env.now tx
        refund := refundInput input tx (input.amountPaise.getD tx.amountPaise) answer }))
      (world.refunded paymentId (input.amountPaise.getD tx.amountPaise) answer) =
      (world.refunded paymentId (input.amountPaise.getD tx.amountPaise) answer).commit
        (statusRow .refunded env.now tx, requestedRow world.db env input tx answer)
        (refundWrites world.db env input tx answer) :=
    perform_of_writes (processOrderRefund_writes hRow hOpen)
  exact exec_commit hPerform fun answer => OrderRefundMapper.toResponse answer.1 answer.2

/-- In every other case a refund request changes nothing. -/
theorem serve_processOrderRefund_idle {input : ProcessOrderRefundInput}
    (hIdle : ∀ tx paymentId answer, input.Accepted world.db env tx paymentId →
      env.gatewayRefund ≠ some answer) :
    serve config world { call := .processOrderRefund input, env } = world := by
  rw [serve_eq, Call.process, exec_map_state, processOrderRefund, exec_call_bind,
    perform_findByCustomerOrderId]
  cases hNewest : world.db.transactions.findFirst env.tie PaymentTransaction.createdAt
      (fun tx => tx.orderId = some input.orderId) with
  | none => rfl
  | some tx =>
      simp only
      rw [exec_check_bind]
      cases hRefundable : tx.assertCanRefund input.amountPaise with
      | error error => rfl
      | ok =>
          simp only [requestRefund]
          cases hPayment : truthy tx.razorpayPaymentId with
          | none => rfl
          | some paymentId =>
              have hNone : env.gatewayRefund = none :=
                Option.eq_none_iff_forall_ne_some.mpr fun answer =>
                  hIdle tx paymentId answer ⟨hNewest, hRefundable, hPayment⟩
              simp only
              rw [exec_attempt_bind, perform_createRefund_failed hNone]
              rfl

/-- `createOrderPayment` has no transaction of the order to refuse or to reuse. -/
structure CreateOrderPaymentInput.Opens (db : Database) (env : Env) (input : CreateOrderPaymentInput)
    (orderId : String) : Prop where
  newest : ∀ tx, db.transactions.findFirst env.tie PaymentTransaction.createdAt
    (fun tx => tx.orderId = some input.orderId) = some tx →
      ¬ (tx.status = .captured ∨ tx.status = .success) ∧
        ¬ (tx.status = .created ∧ tx.amountPaise = input.amountPaise)
  gateway : env.gatewayOrderId = some orderId

/-- The gateway after a new order, before the database knows of it. -/
def World.ordered (world : World) (amountInPaise : Int) (currency orderId : String) : World :=
  { world with gateway := { world.gateway with
    orders := world.gateway.orders ++ [{ orderId, amountInPaise, currency }] } }

theorem perform_createOrder {orderId : String} (h : env.gatewayOrderId = some orderId)
    (amountInPaise : Int) (currency : String) :
    Port.perform env (.createOrder amountInPaise currency) world =
      (.ok orderId, world.ordered amountInPaise currency orderId) := by
  simp only [Port.perform, h]
  rfl

theorem perform_createOrder_failed (h : env.gatewayOrderId = none) (amountInPaise : Int)
    (currency : String) :
    Port.perform env (.createOrder amountInPaise currency) world = (.error .gatewayFailure, world) := by
  simp only [Port.perform, h]

theorem openGatewayOrder_state {input : CreateOrderPaymentInput} {orderId : String}
    (hGateway : env.gatewayOrderId = some orderId) :
    (exec (Port.perform env) (openGatewayOrder config input) world).2 =
      (world.ordered input.amountPaise ((truthy input.currency).getD defaultCurrency) orderId).store
        [.transaction (world.db.transactionRow env (input.transaction orderId))] := by
  unfold openGatewayOrder
  simp only
  rw [exec_call_bind, perform_createOrder hGateway]
  exact exec_commit (perform_createTransaction (input.transaction orderId) _) _

theorem openGatewayOrder_failed {input : CreateOrderPaymentInput} (hGateway : env.gatewayOrderId = none) :
    (exec (Port.perform env) (openGatewayOrder config input) world).2 = world := by
  unfold openGatewayOrder
  simp only
  rw [exec_call_bind, perform_createOrder_failed hGateway]

theorem serve_createOrderPayment {input : CreateOrderPaymentInput} {orderId : String}
    (hOpens : input.Opens world.db env orderId) :
    serve config world { call := .createOrderPayment input, env } =
      (world.ordered input.amountPaise ((truthy input.currency).getD defaultCurrency) orderId).store
        [.transaction (world.db.transactionRow env (input.transaction orderId))] := by
  rw [serve_eq, Call.process, exec_map_state, createOrderPayment, exec_call_bind,
    perform_findByCustomerOrderId]
  cases hNewest : world.db.transactions.findFirst env.tie PaymentTransaction.createdAt
      (fun tx => tx.orderId = some input.orderId) with
  | none => exact openGatewayOrder_state hOpens.gateway
  | some tx =>
      have hNew := hOpens.newest tx hNewest
      simp only [if_neg hNew.1, if_neg hNew.2]
      exact openGatewayOrder_state hOpens.gateway

/-- In every other case `createOrderPayment` changes nothing. -/
theorem serve_createOrderPayment_idle {input : CreateOrderPaymentInput}
    (hIdle : ∀ orderId, ¬ input.Opens world.db env orderId) :
    serve config world { call := .createOrderPayment input, env } = world := by
  rw [serve_eq, Call.process, exec_map_state, createOrderPayment, exec_call_bind,
    perform_findByCustomerOrderId]
  cases hNewest : world.db.transactions.findFirst env.tie PaymentTransaction.createdAt
      (fun tx => tx.orderId = some input.orderId) with
  | none =>
      refine openGatewayOrder_failed (Option.eq_none_iff_forall_ne_some.mpr fun orderId hGateway => ?_)
      refine hIdle orderId ⟨fun tx hTx => ?_, hGateway⟩
      rw [hNewest] at hTx
      cases hTx
  | some tx =>
      simp only
      split
      · rfl
      · next hUnpaid =>
          split
          · rfl
          · next hOther =>
              refine openGatewayOrder_failed (Option.eq_none_iff_forall_ne_some.mpr
                fun orderId hGateway => hIdle orderId ⟨fun found hFound => ?_, hGateway⟩)
              rw [hNewest] at hFound
              cases hFound
              exact ⟨hUnpaid, hOther⟩

/-- `createSubscriptionOrder` gets as far as looking for a pending order. -/
structure CreateSubscriptionOrderInput.Accepted (db : Database) (env : Env)
    (input : CreateSubscriptionOrderInput) (restaurantId : Uuid) (plan : SubscriptionPlan) : Prop where
  restaurant : input.restaurantId = some restaurantId
  planFound : db.plans.get? input.planId = some plan
  active : plan.isActive = true
  noSubscription : (db.subscriptions.findFirst env.tie Subscription.currentPeriodEnd
    (fun subscription => subscription.restaurantId = restaurantId && subscription.status = .active &&
      env.now ≤ subscription.currentPeriodEnd)).any (·.isActive env.now) = false

/-- The pending order that `createSubscriptionOrder` uses again. -/
def pendingOrder (db : Database) (env : Env) (restaurantId planId : Uuid) : Option PaymentTransaction :=
  db.transactions.findFirst env.tie PaymentTransaction.createdAt fun tx =>
    tx.restaurantId = restaurantId && tx.planId = some planId && tx.subscriptionId.isNone &&
      (tx.status = .created || tx.status = .failed) && env.now - pendingOrderReuseWindowMs ≤ tx.createdAt

theorem serve_createSubscriptionOrder {input : CreateSubscriptionOrderInput} {restaurantId : Uuid}
    {plan : SubscriptionPlan} (hAccepted : input.Accepted world.db env restaurantId plan) :
    serve config world { call := .createSubscriptionOrder input, env } =
      (exec (Port.perform env) (reuseOrOpenOrder config restaurantId plan env.invoiceNumber env.now)
        world).2 := by
  have hActive : ¬ plan.isActive = false := by simp [hAccepted.active]
  rw [serve_eq, Call.process, exec_map_state, createSubscriptionOrder]
  simp only [hAccepted.restaurant]
  rw [exec_call_bind, perform_findPlanById, hAccepted.planFound]
  simp only [if_neg hActive]
  rw [exec_call_bind, perform_findActiveByRestaurantId]
  simp only [hAccepted.noSubscription, Bool.false_eq_true, if_false]

theorem serve_createSubscriptionOrder_refused {input : CreateSubscriptionOrderInput}
    (hRefused : ∀ restaurantId plan, ¬ input.Accepted world.db env restaurantId plan) :
    serve config world { call := .createSubscriptionOrder input, env } = world := by
  rw [serve_eq, Call.process, exec_map_state, createSubscriptionOrder]
  cases hRestaurant : input.restaurantId with
  | none => rfl
  | some restaurantId =>
      simp only
      rw [exec_call_bind, perform_findPlanById]
      cases hPlan : world.db.plans.get? input.planId with
      | none => rfl
      | some plan =>
          simp only
          split
          · rfl
          · next hActive =>
              rw [exec_call_bind, perform_findActiveByRestaurantId]
              simp only
              split
              · rfl
              · next hNone =>
                  exact absurd ⟨hRestaurant, hPlan, by simpa using hActive, by simpa using hNone⟩
                    (hRefused restaurantId plan)

theorem serve_reset {input : CreateSubscriptionOrderInput} {restaurantId : Uuid}
    {plan : SubscriptionPlan} (hAccepted : input.Accepted world.db env restaurantId plan)
    (hPending : pendingOrder world.db env restaurantId plan.id = some tx) (hFailed : tx.status = .failed) :
    serve config world { call := .createSubscriptionOrder input, env } =
      world.store [.transaction (statusRow .created env.now tx)] := by
  have hRow := Database.findTransaction_of_mem (Table.findFirst_some hPending).1
  unfold pendingOrder at hPending
  rw [serve_createSubscriptionOrder hAccepted, reuseOrOpenOrder, exec_call_bind,
    perform_findPendingByRestaurantAndPlan, hPending]
  simp only [if_pos hFailed]
  exact exec_commit (perform_resetToCreated hRow) _

theorem serve_reused {input : CreateSubscriptionOrderInput} {restaurantId : Uuid}
    {plan : SubscriptionPlan} (hAccepted : input.Accepted world.db env restaurantId plan)
    (hPending : pendingOrder world.db env restaurantId plan.id = some tx) (hOpen : tx.status ≠ .failed) :
    serve config world { call := .createSubscriptionOrder input, env } = world := by
  unfold pendingOrder at hPending
  rw [serve_createSubscriptionOrder hAccepted, reuseOrOpenOrder, exec_call_bind,
    perform_findPendingByRestaurantAndPlan, hPending]
  simp only [if_neg hOpen]
  rfl

/-- The transaction row of a new subscription order. -/
def orderedRow (db : Database) (env : Env) (restaurantId : Uuid) (plan : SubscriptionPlan)
    (orderId : String) : PaymentTransaction :=
  db.transactionRow env (subscriptionTransaction restaurantId plan orderId env.now)

/-- The draft invoice of a new subscription order. -/
def orderedInvoice (db : Database) (env : Env) (restaurantId : Uuid) (plan : SubscriptionPlan)
    (orderId : String) : BillingInvoice :=
  db.invoiceRow env (draftInvoice restaurantId plan (orderedRow db env restaurantId plan orderId).id
    env.invoiceNumber)

/-- The rows that a new subscription order writes: its transaction and then, in
a transaction of its own, its invoice. -/
def orderWrites (db : Database) (env : Env) (restaurantId : Uuid) (plan : SubscriptionPlan)
    (orderId : String) : List Write :=
  [.transaction (orderedRow db env restaurantId plan orderId),
    .invoice (orderedInvoice db env restaurantId plan orderId)]

/-- Both rows are stored, or the transaction alone, or none. -/
theorem storeOrder_state (world : World) (restaurantId : Uuid) (plan : SubscriptionPlan)
    (orderId : String) (f : BillingInvoice → CreateSubscriptionOrderOutput) :
    ∃ writes, writes <+: orderWrites world.db env restaurantId plan orderId ∧
      (exec (Port.perform env)
        (repository (.createTransaction (subscriptionTransaction restaurantId plan orderId env.now)) >>=
          fun row => repository (.createInvoice
            (draftInvoice restaurantId plan row.id env.invoiceNumber)) >>= fun invoice =>
              .ret (f invoice)) world).2.db = world.db.store writes := by
  have hCreate : Port.perform env
      (.repository (.createTransaction (subscriptionTransaction restaurantId plan orderId env.now))) world =
      world.commit (orderedRow world.db env restaurantId plan orderId)
        [.transaction (orderedRow world.db env restaurantId plan orderId)] :=
    perform_createTransaction _ world
  rw [exec_call_bind, hCreate]
  cases hRow : world.db.writeAll [.transaction (orderedRow world.db env restaurantId plan orderId)] with
  | none =>
      refine ⟨[], List.nil_prefix, ?_⟩
      rw [World.commit_of_refused hRow]
      rfl
  | some written =>
      rw [World.commit_of_written hRow]
      obtain ⟨table, hPut, rfl⟩ := Database.write_transaction hRow
      simp only
      rw [exec_commit (perform_createInvoice _ _)]
      cases hInvoice : { world.db with transactions := table }.writeAll
          [.invoice (orderedInvoice world.db env restaurantId plan orderId)] with
      | none =>
          refine ⟨[.transaction (orderedRow world.db env restaurantId plan orderId)], ?_, ?_⟩
          · exact List.prefix_append _ [Write.invoice (orderedInvoice world.db env restaurantId plan orderId)]
          · rw [Database.store_of_writeAll hRow]
            exact Database.store_of_refused hInvoice
      | some final =>
          have hBoth : world.db.writeAll (orderWrites world.db env restaurantId plan orderId) = some final :=
            Database.writeAll_of_written hRow hInvoice
          refine ⟨orderWrites world.db env restaurantId plan orderId, List.prefix_rfl, ?_⟩
          rw [Database.store_of_writeAll hBoth]
          exact Database.store_of_writeAll hInvoice

theorem serve_subscriptionOrdered {input : CreateSubscriptionOrderInput} {restaurantId : Uuid}
    {plan : SubscriptionPlan} {orderId : String}
    (hAccepted : input.Accepted world.db env restaurantId plan)
    (hPending : pendingOrder world.db env restaurantId plan.id = none)
    (hGateway : env.gatewayOrderId = some orderId) :
    ∃ writes, writes <+: orderWrites world.db env restaurantId plan orderId ∧
      (serve config world { call := .createSubscriptionOrder input, env }).db = world.db.store writes := by
  unfold pendingOrder at hPending
  rw [serve_createSubscriptionOrder hAccepted, reuseOrOpenOrder, exec_call_bind,
    perform_findPendingByRestaurantAndPlan, hPending]
  simp only [openSubscriptionOrder]
  rw [exec_call_bind, perform_createOrder hGateway]
  exact @storeOrder_state env (world.ordered plan.pricePaise plan.currency orderId) restaurantId plan
    orderId fun _ => subscriptionOrderResponse config orderId plan.pricePaise plan.currency plan

theorem serve_subscriptionOrder_unavailable {input : CreateSubscriptionOrderInput} {restaurantId : Uuid}
    {plan : SubscriptionPlan} (hAccepted : input.Accepted world.db env restaurantId plan)
    (hPending : pendingOrder world.db env restaurantId plan.id = none)
    (hGateway : env.gatewayOrderId = none) :
    serve config world { call := .createSubscriptionOrder input, env } = world := by
  unfold pendingOrder at hPending
  rw [serve_createSubscriptionOrder hAccepted, reuseOrOpenOrder, exec_call_bind,
    perform_findPendingByRestaurantAndPlan, hPending]
  simp only [openSubscriptionOrder]
  rw [exec_call_bind, perform_createOrder_failed hGateway]

/-- The subscriptions found past due, with their plans. -/
def pastDue (db : Database) (now : Instant) : List (Subscription × SubscriptionPlan) :=
  (db.subscriptions.rows.filter fun subscription =>
    subscription.status = .active && subscription.currentPeriodEnd < now).filterMap fun row =>
      (db.plans.get? row.planId).map fun plan => (row, plan)

theorem serve_expirePastDueSubscriptions :
    ∃ events : List OutboxEvent, (∀ event ∈ events, event.eventType = .subscriptionExpired) ∧
      serve config world { call := .expirePastDueSubscriptions, env } =
        world.store (PaymentSubscriptionExpiryService.expiredSubscriptions world.db
          (pastDue world.db env.now) env.now ++ events.map Write.outbox) := by
  rw [serve_eq, Call.process, exec_map_state, expirePastDueSubscriptions, exec_call_bind,
    perform_findPastDueSubscriptions]
  generalize hFound : pastDue world.db env.now = found
  unfold pastDue at hFound
  rw [hFound]
  cases found with
  | nil =>
      have hNone : PaymentSubscriptionExpiryService.expiredSubscriptions world.db [] env.now = [] := by
        simp [PaymentSubscriptionExpiryService.expiredSubscriptions]
      refine ⟨[], by simp, ?_⟩
      rw [hNone]
      rfl
  | cons first rest =>
      obtain ⟨events, hEvents, _, hWrites⟩ := @PaymentSubscriptionExpiryService.expire_writes env world.db
        (first :: rest) env.now
      exact ⟨events, PaymentSubscriptionExpiryService.eventType_of_expiry hEvents,
        exec_commit (perform_of_writes hWrites) _⟩

end SpotqPayment
