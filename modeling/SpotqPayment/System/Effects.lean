import SpotqPayment.System.CallEffects
import SpotqPayment.Infrastructure.DatabaseWrites

/-! Everything that a completed call can do to the database, as one relation
between the call and the rows it writes, with the checks it has passed. -/
namespace SpotqPayment

open Process Engine PaymentTransactionRepository SubscriptionRepository

/-- A call that reports the payment of a food order: a verification with a valid
signature or a success event, with what it passes to `capture`. -/
inductive Captures (config : Config) (db : Database) (now : Instant) :
    Call → PaymentTransaction → CaptureParams → CreateOutboxEventInput → Prop where
  | verify {input : VerifyOrderPaymentInput} {tx : PaymentTransaction}
      (hAccepted : input.Accepted config db tx) :
      Captures config db now (.verifyOrderPayment input) tx input.captureParams
        (input.capturedEvent tx now)
  | webhook {input : HandleWebhookInput} {tx : PaymentTransaction} {foodOrderId : Uuid}
      (hReported : input.ReportsSuccess config db tx) (hFood : tx.orderId = some foodOrderId) :
      Captures config db now (.handleWebhook input) tx (input.parsedPayload.captureParams tx)
        (input.parsedPayload.capturedEvent tx foodOrderId now)

/-- A call that reports the payment of another transaction, with the payment id
and the signature that an activation would store. -/
inductive Activates (config : Config) (db : Database) :
    Call → PaymentTransaction → String → String → Prop where
  | verify {input : VerifyPaymentInput} {tx : PaymentTransaction}
      (hAccepted : input.Accepted config db tx) :
      Activates config db (.verifyPayment input) tx input.razorpayPaymentId input.razorpaySignature
  | webhook {input : HandleWebhookInput} {tx : PaymentTransaction}
      (hReported : input.ReportsSuccess config db tx) (hPlain : tx.orderId = none) :
      Activates config db (.handleWebhook input) tx (activationPaymentId input.parsedPayload tx) ""

/-- The rows that a completed call asks the database to write. -/
inductive Effect (config : Config) (db : Database) (env : Env) : Call → List Write → Prop where
  | nothing (call : Call) : Effect config db env call []
  | captured {call : Call} {tx : PaymentTransaction} {params : CaptureParams}
      {event : CreateOutboxEventInput} (hCaptures : Captures config db env.now call tx params event)
      (hOpen : tx.Capturable) : Effect config db env call (captureWrites db env tx params event)
  | failed {input : HandleWebhookInput} {entity : WebhookPaymentEntity} {tx : PaymentTransaction}
      {foodOrderId : Uuid} (hReported : input.ReportsFailure config db entity tx)
      (hFood : tx.orderId = some foodOrderId)
      (hOpen : ¬ (tx.status = .captured ∨ tx.status = .success ∨ tx.status = .failed)) :
      Effect config db env (.handleWebhook input) (failureWrites db env tx entity foodOrderId)
  | markedFailed {input : HandleWebhookInput} {entity : WebhookPaymentEntity} {tx : PaymentTransaction}
      (hReported : input.ReportsFailure config db entity tx) (hPlain : tx.orderId = none)
      (hOpen : ¬ (tx.status = .success ∨ tx.status = .captured)) :
      Effect config db env (.handleWebhook input)
        [.transaction (markedFailedRow entity.failureReason env.now tx)]
  | activated {call : Call} {tx : PaymentTransaction} {plan : SubscriptionPlan}
      {paymentId signature : String} (hActivates : Activates config db call tx paymentId signature)
      (hOpen : tx.Activatable db plan) :
      Effect config db env call
        (activationWrites db env tx (activationParams tx plan paymentId signature env.now))
  | refunded {input : ProcessOrderRefundInput} {tx : PaymentTransaction} {paymentId : String}
      {answer : PaymentRefundResult} (hAccepted : input.Accepted db env tx paymentId)
      (hAnswer : env.gatewayRefund = some answer) :
      Effect config db env (.processOrderRefund input) (refundWrites db env input tx answer)
  | refundSynced {input : HandleWebhookInput} {params : SyncRefundFromWebhookParams}
      {refund : PaymentRefund} {tx : PaymentTransaction} (hReported : input.ReportsRefund config params)
      (hKnown : db.findRefund params.razorpayRefundId = some refund)
      (hRow : db.findTransaction (.id refund.paymentTransactionId) = some tx) :
      Effect config db env (.handleWebhook input)
        (.refund (syncedRefund params env.now refund) :: settlement db params.status tx env.now)
  | refundRecorded {input : HandleWebhookInput} {params : SyncRefundFromWebhookParams}
      {razorpayPaymentId : String} {tx : PaymentTransaction}
      (hReported : input.ReportsRefund config params)
      (hUnknown : db.findRefund params.razorpayRefundId = none)
      (hPayment : truthy params.razorpayPaymentId = some razorpayPaymentId)
      (hRow : db.findTransaction (.razorpayPaymentId razorpayPaymentId) = some tx) :
      Effect config db env (.handleWebhook input)
        (.refund (db.refundRow env (reportedRefund params tx env.now)) ::
          settlement db params.status tx env.now)
  | orderOpened {input : CreateOrderPaymentInput} {orderId : String}
      (hOpens : input.Opens db env orderId) :
      Effect config db env (.createOrderPayment input)
        [.transaction (db.transactionRow env (input.transaction orderId))]
  | subscriptionOrdered {input : CreateSubscriptionOrderInput} {restaurantId : Uuid}
      {plan : SubscriptionPlan} {orderId : String} {writes : List Write}
      (hAccepted : input.Accepted db env restaurantId plan)
      (hPending : pendingOrder db env restaurantId plan.id = none)
      (hGateway : env.gatewayOrderId = some orderId)
      (hWrites : writes <+: orderWrites db env restaurantId plan orderId) :
      Effect config db env (.createSubscriptionOrder input) writes
  | reset {input : CreateSubscriptionOrderInput} {restaurantId : Uuid} {plan : SubscriptionPlan}
      {tx : PaymentTransaction} (hAccepted : input.Accepted db env restaurantId plan)
      (hPending : pendingOrder db env restaurantId plan.id = some tx) (hFailed : tx.status = .failed) :
      Effect config db env (.createSubscriptionOrder input)
        [.transaction (statusRow .created env.now tx)]
  | expired {events : List OutboxEvent}
      (hTypes : ∀ event ∈ events, event.eventType = .subscriptionExpired) :
      Effect config db env .expirePastDueSubscriptions
        (PaymentSubscriptionExpiryService.expiredSubscriptions db (pastDue db env.now) env.now ++
          events.map Write.outbox)

/-- Every refund row belongs to a stored transaction. -/
def Database.RefundsLinked (db : Database) : Prop :=
  ∀ refund ∈ db.refunds.rows, ∃ tx, db.findTransaction (.id refund.paymentTransactionId) = some tx

variable {config : Config} {env : Env} {world : World} {tx : PaymentTransaction}

theorem Captures.mem {db : Database} {now : Instant} {call : Call} {params : CaptureParams}
    {event : CreateOutboxEventInput} (h : Captures config db now call tx params event) :
    tx ∈ db.transactions.rows := by
  cases h with
  | verify hAccepted => exact Database.findTransaction_mem hAccepted.found
  | webhook hReported hFood =>
      obtain ⟨orderId, _, hFound⟩ := hReported.found
      exact Database.findTransaction_mem hFound

theorem Captures.food {db : Database} {now : Instant} {call : Call} {params : CaptureParams}
    {event : CreateOutboxEventInput} (h : Captures config db now call tx params event) :
    ∃ orderId, tx.orderId = some orderId := by
  cases h with
  | verify hAccepted => exact ⟨_, hAccepted.order⟩
  | webhook hReported hFood => exact ⟨_, hFood⟩

theorem Activates.mem {db : Database} {call : Call} {paymentId signature : String}
    (h : Activates config db call tx paymentId signature) : tx ∈ db.transactions.rows := by
  cases h with
  | verify hAccepted => exact Database.findTransaction_mem hAccepted.found
  | webhook hReported hPlain =>
      obtain ⟨orderId, _, hFound⟩ := hReported.found
      exact Database.findTransaction_mem hFound

theorem serve_of_captures {call : Call} {params : CaptureParams} {event : CreateOutboxEventInput}
    (h : Captures config world.db env.now call tx params event) (hOpen : tx.Capturable) :
    serve config world { call, env } = world.store (captureWrites world.db env tx params event) := by
  cases h with
  | verify hAccepted => exact serve_verifyOrderPayment hAccepted hOpen
  | webhook hReported hFood => exact serve_captured hReported hFood hOpen

theorem serve_of_activates {call : Call} {plan : SubscriptionPlan} {paymentId signature : String}
    (h : Activates config world.db call tx paymentId signature) (hOpen : tx.Activatable world.db plan) :
    serve config world { call, env } = world.store (activationWrites world.db env tx
      (activationParams tx plan paymentId signature env.now)) := by
  cases h with
  | verify hAccepted => exact serve_verifyPayment hAccepted hOpen
  | webhook hReported hPlain => exact serve_activated hReported hPlain hOpen

section ByCall

theorem effect_nothing {call : Call} (h : serve config world { call, env } = world) :
    ∃ writes, Effect config world.db env call writes ∧
      (serve config world { call, env }).db = world.db.store writes :=
  ⟨[], .nothing call, by rw [h]; rfl⟩

theorem effect_of_store {call : Call} {writes : List Write}
    (hEffect : Effect config world.db env call writes)
    (h : serve config world { call, env } = world.store writes) :
    ∃ writes, Effect config world.db env call writes ∧
      (serve config world { call, env }).db = world.db.store writes :=
  ⟨writes, hEffect, by rw [h]; rfl⟩

theorem effect_verifyOrderPayment (input : VerifyOrderPaymentInput) :
    ∃ writes, Effect config world.db env (.verifyOrderPayment input) writes ∧
      (serve config world { call := .verifyOrderPayment input, env }).db = world.db.store writes := by
  by_cases hActs : ∃ tx, input.Accepted config world.db tx ∧ tx.Capturable
  · obtain ⟨tx, hAccepted, hOpen⟩ := hActs
    exact effect_of_store (.captured (.verify hAccepted) hOpen) (serve_verifyOrderPayment hAccepted hOpen)
  · exact effect_nothing (serve_verifyOrderPayment_idle fun tx hAccepted hOpen =>
      hActs ⟨tx, hAccepted, hOpen⟩)

theorem effect_verifyPayment (input : VerifyPaymentInput) :
    ∃ writes, Effect config world.db env (.verifyPayment input) writes ∧
      (serve config world { call := .verifyPayment input, env }).db = world.db.store writes := by
  by_cases hActs : ∃ tx plan, input.Accepted config world.db tx ∧ tx.Activatable world.db plan
  · obtain ⟨tx, plan, hAccepted, hOpen⟩ := hActs
    exact effect_of_store (.activated (.verify hAccepted) hOpen) (serve_verifyPayment hAccepted hOpen)
  · exact effect_nothing (serve_verifyPayment_idle fun tx plan hAccepted hOpen =>
      hActs ⟨tx, plan, hAccepted, hOpen⟩)

theorem effect_processOrderRefund (input : ProcessOrderRefundInput) :
    ∃ writes, Effect config world.db env (.processOrderRefund input) writes ∧
      (serve config world { call := .processOrderRefund input, env }).db = world.db.store writes := by
  by_cases hActs : ∃ tx paymentId answer, input.Accepted world.db env tx paymentId ∧
      env.gatewayRefund = some answer
  · obtain ⟨tx, paymentId, answer, hAccepted, hAnswer⟩ := hActs
    exact ⟨_, .refunded hAccepted hAnswer, by rw [serve_processOrderRefund hAccepted hAnswer]; rfl⟩
  · exact effect_nothing (serve_processOrderRefund_idle fun tx paymentId answer hAccepted hAnswer =>
      hActs ⟨tx, paymentId, answer, hAccepted, hAnswer⟩)

theorem effect_createOrderPayment (input : CreateOrderPaymentInput) :
    ∃ writes, Effect config world.db env (.createOrderPayment input) writes ∧
      (serve config world { call := .createOrderPayment input, env }).db = world.db.store writes := by
  by_cases hActs : ∃ orderId, input.Opens world.db env orderId
  · obtain ⟨orderId, hOpens⟩ := hActs
    exact ⟨_, .orderOpened hOpens, by rw [serve_createOrderPayment hOpens]; rfl⟩
  · exact effect_nothing (serve_createOrderPayment_idle fun orderId hOpens => hActs ⟨orderId, hOpens⟩)

theorem effect_createSubscriptionOrder (input : CreateSubscriptionOrderInput) :
    ∃ writes, Effect config world.db env (.createSubscriptionOrder input) writes ∧
      (serve config world { call := .createSubscriptionOrder input, env }).db =
        world.db.store writes := by
  by_cases hActs : ∃ restaurantId plan, input.Accepted world.db env restaurantId plan
  · obtain ⟨restaurantId, plan, hAccepted⟩ := hActs
    cases hPending : pendingOrder world.db env restaurantId plan.id with
    | some tx =>
        by_cases hFailed : tx.status = .failed
        · exact effect_of_store (.reset hAccepted hPending hFailed) (serve_reset hAccepted hPending hFailed)
        · exact effect_nothing (serve_reused hAccepted hPending hFailed)
    | none =>
        cases hGateway : env.gatewayOrderId with
        | none => exact effect_nothing (serve_subscriptionOrder_unavailable hAccepted hPending hGateway)
        | some orderId =>
            obtain ⟨writes, hWrites, hStore⟩ := serve_subscriptionOrdered hAccepted hPending hGateway
            exact ⟨writes, .subscriptionOrdered hAccepted hPending hGateway hWrites, hStore⟩
  · exact effect_nothing (serve_createSubscriptionOrder_refused fun restaurantId plan hAccepted =>
      hActs ⟨restaurantId, plan, hAccepted⟩)

theorem effect_success {input : HandleWebhookInput} (hReported : input.ReportsSuccess config world.db tx) :
    ∃ writes, Effect config world.db env (.handleWebhook input) writes ∧
      (serve config world { call := .handleWebhook input, env }).db = world.db.store writes := by
  cases hFood : tx.orderId with
  | some foodOrderId =>
      by_cases hOpen : tx.Capturable
      · exact effect_of_store (.captured (.webhook hReported hFood) hOpen)
          (serve_captured hReported hFood hOpen)
      · exact effect_nothing (serve_captured_idle hReported hFood hOpen)
  | none =>
      by_cases hOpen : ∃ plan, tx.Activatable world.db plan
      · obtain ⟨plan, hOpen⟩ := hOpen
        exact effect_of_store (.activated (.webhook hReported hFood) hOpen)
          (serve_activated hReported hFood hOpen)
      · exact effect_nothing (serve_activated_idle hReported hFood fun plan hPlan => hOpen ⟨plan, hPlan⟩)

theorem effect_failure {input : HandleWebhookInput} {entity : WebhookPaymentEntity}
    (hReported : input.ReportsFailure config world.db entity tx) :
    ∃ writes, Effect config world.db env (.handleWebhook input) writes ∧
      (serve config world { call := .handleWebhook input, env }).db = world.db.store writes := by
  cases hFood : tx.orderId with
  | some foodOrderId =>
      by_cases hClosed : tx.status = .captured ∨ tx.status = .success ∨ tx.status = .failed
      · exact effect_nothing (serve_failed_idle hReported hFood hClosed)
      · exact effect_of_store (.failed hReported hFood hClosed) (serve_failed hReported hFood hClosed)
  | none =>
      by_cases hClosed : tx.status = .success ∨ tx.status = .captured
      · exact effect_nothing (serve_markedFailed_idle hReported hClosed)
      · exact effect_of_store (.markedFailed hReported hFood hClosed)
          (serve_markedFailed hReported hFood hClosed)

theorem effect_refundEvent {input : HandleWebhookInput} {params : SyncRefundFromWebhookParams}
    (hLinked : world.db.RefundsLinked) (hReported : input.ReportsRefund config params) :
    ∃ writes, Effect config world.db env (.handleWebhook input) writes ∧
      (serve config world { call := .handleWebhook input, env }).db = world.db.store writes := by
  cases hRefund : world.db.findRefund params.razorpayRefundId with
  | some refund =>
      obtain ⟨tx, hRow⟩ := hLinked refund (Table.lookup_mem hRefund).1
      exact effect_of_store (.refundSynced hReported hRefund hRow) (serve_refundSynced hReported hRefund hRow)
  | none =>
      by_cases hActs : ∃ razorpayPaymentId tx, truthy params.razorpayPaymentId = some razorpayPaymentId ∧
          world.db.findTransaction (.razorpayPaymentId razorpayPaymentId) = some tx
      · obtain ⟨razorpayPaymentId, tx, hPayment, hRow⟩ := hActs
        exact effect_of_store (.refundRecorded hReported hRefund hPayment hRow)
          (serve_refundRecorded hReported hRefund hPayment hRow)
      · exact effect_nothing (serve_refundEvent_idle hReported hRefund fun razorpayPaymentId hPayment =>
          Option.eq_none_iff_forall_ne_some.mpr fun tx hRow => hActs ⟨razorpayPaymentId, tx, hPayment, hRow⟩)

theorem effect_handleWebhook (hLinked : world.db.RefundsLinked) (input : HandleWebhookInput) :
    ∃ writes, Effect config world.db env (.handleWebhook input) writes ∧
      (serve config world { call := .handleWebhook input, env }).db = world.db.store writes := by
  by_cases hSuccess : ∃ tx, input.ReportsSuccess config world.db tx
  · obtain ⟨tx, hReported⟩ := hSuccess
    exact effect_success hReported
  by_cases hFailure : ∃ entity tx, input.ReportsFailure config world.db entity tx
  · obtain ⟨entity, tx, hReported⟩ := hFailure
    exact effect_failure hReported
  by_cases hRefund : ∃ params, input.ReportsRefund config params
  · obtain ⟨params, hReported⟩ := hRefund
    exact effect_refundEvent hLinked hReported
  · exact effect_nothing (serve_handleWebhook_idle (fun tx h => hSuccess ⟨tx, h⟩)
      (fun entity tx h => hFailure ⟨entity, tx, h⟩) fun params h => hRefund ⟨params, h⟩)

end ByCall

/-- Every completed call has one of these effects. -/
theorem serve_effect (hLinked : world.db.RefundsLinked) (request : Request) :
    ∃ writes, Effect config world.db request.env request.call writes ∧
      (serve config world request).db = world.db.store writes := by
  obtain ⟨call, env⟩ := request
  cases call with
  | createOrderPayment input => exact effect_createOrderPayment input
  | verifyOrderPayment input => exact effect_verifyOrderPayment input
  | processOrderRefund input => exact effect_processOrderRefund input
  | createSubscriptionOrder input => exact effect_createSubscriptionOrder input
  | verifyPayment input => exact effect_verifyPayment input
  | handleWebhook input => exact effect_handleWebhook hLinked input
  | expirePastDueSubscriptions =>
      obtain ⟨events, hTypes, hStore⟩ := @serve_expirePastDueSubscriptions config env world
      exact effect_of_store (.expired hTypes) hStore

end SpotqPayment
