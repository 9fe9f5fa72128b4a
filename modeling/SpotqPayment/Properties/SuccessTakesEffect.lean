import SpotqPayment.Properties.LiveSubscription

/-! What a success webhook does for an open transaction. The payment id that is
stored comes from the payment entity, and a refund later asks for it. An event
that has an order entity only pays the transaction without naming a payment. -/
namespace SpotqPayment

open Process Transition PaymentTransactionRepository SubscriptionRepository

/-- The order is paid: a food order is CAPTURED, and another one has bought a
new subscription. The payment is named, so that it can be refunded. -/
structure PaymentTransaction.PaidIn (row : PaymentTransaction) (before after : Database) : Prop where
  food : row.orderId ≠ none → row.status = .captured
  subscription : row.orderId = none → row.status = .success ∧ ∃ subscription ∈ after.subscriptions.rows,
    row.subscriptionId = some subscription.id ∧ subscription.status = .active ∧
      before.subscriptions.get? subscription.id = none
  payment : ∃ paymentId, row.razorpayPaymentId = some paymentId ∧ paymentId ≠ ""
  refundable : row.assertCanRefund none = .ok ()

/-- The webhook is answered, and its transaction is paid afterwards. -/
structure TakesEffect (config : Config) (world : World) (env : Env) (input : HandleWebhookInput)
    (tx : PaymentTransaction) : Prop where
  answered : ∃ output, (exec (Port.perform env) (handleWebhook config input env.now) world).1 = .ok output
  paid : ∃ row, (serve config world { call := .handleWebhook input, env }).db.transactions.get? tx.id = some row ∧
    row.orderId = tx.orderId ∧
      row.PaidIn world.db (serve config world { call := .handleWebhook input, env }).db

/-- The webhook has a payment entity with an id that no transaction has. -/
def WebhookPayload.NamesNewPayment (payload : WebhookPayload) (db : Database) : Prop :=
  ∃ paymentId, truthy payload.paymentId = some paymentId ∧
    ∀ other ∈ db.transactions.rows, other.razorpayPaymentId ≠ some paymentId

/-- What is known of a stored transaction: an order for food has no plan, all
others have one, and only a payment that has been made has an id. -/
structure PaymentTransaction.Kept (tx : PaymentTransaction) (plans : Table SubscriptionPlan) : Prop where
  food : tx.orderId ≠ none → tx.planId = none
  plan : tx.orderId = none → ∃ planId plan, tx.planId = some planId ∧ plans.get? planId = some plan
  linked : tx.orderId = none → tx.razorpayPaymentId ≠ none → tx.subscriptionId ≠ none
  unpaid : tx.status = .created → tx.razorpayPaymentId = none

variable {config : Config} {db : Database} {env : Env} {world : World} {tx : PaymentTransaction}
  {plans : Table SubscriptionPlan}

section Stored

theorem kept_opened (db : Database) (env : Env) (input : CreateOrderPaymentInput) (orderId : String) :
    (db.transactionRow env (input.transaction orderId)).Kept plans where
  food := fun _ => rfl
  plan := fun hPlain => absurd hPlain (Option.some_ne_none input.orderId)
  linked := fun _ hPayment => absurd rfl hPayment
  unpaid := fun _ => rfl

theorem kept_ordered {input : CreateSubscriptionOrderInput} {restaurantId : Uuid} {plan : SubscriptionPlan}
    (hAccepted : input.Accepted db env restaurantId plan) (orderId : String) :
    (orderedRow db env restaurantId plan orderId).Kept db.plans where
  food := fun hFood => absurd rfl hFood
  plan := by
    intro _
    have hKey : plan.id = input.planId := (Table.get?_eq_some.mp hAccepted.planFound).2
    exact ⟨plan.id, plan, rfl, hKey ▸ hAccepted.planFound⟩
  linked := fun _ hPayment => absurd rfl hPayment
  unpaid := fun _ => rfl

/-- A change that leaves the row open has found no payment on it. -/
theorem PaymentTransaction.Kept.changed {call : Call} {row : PaymentTransaction} (hKept : tx.Kept db.plans)
    (hChange : Change config db env call tx row) : row.Kept db.plans := by
  have hSame := hChange.samePayment
  refine ⟨fun hFood => ?_, fun hPlain => ?_, fun hPlain hPayment => ?_, fun hOpen => ?_⟩
  · rw [hSame.planId]
    exact hKept.food (hSame.orderId ▸ hFood)
  · rw [hSame.planId]
    exact hKept.plan (hSame.orderId ▸ hPlain)
  · have hPlainBefore : tx.orderId = none := hSame.orderId.symm.trans hPlain
    cases hChange with
    | captured hCaptures hCapturable hFree =>
        obtain ⟨orderId, hFood⟩ := hCaptures.food
        cases hPlainBefore.symm.trans hFood
    | failed hReported hFood hUnpaid => exact hKept.linked hPlainBefore hPayment
    | markedFailed hReported hOther hUnpaid => exact hKept.linked hPlainBefore hPayment
    | activated hActivates hActivatable hFree hReady => exact Option.some_ne_none _
    | refunded hAccepted hAnswer hFresh => exact hKept.linked hPlainBefore hPayment
    | settled hReported hProcessed hRefund => exact hKept.linked hPlainBefore hPayment
    | reset hAccepted hPending hFailed => exact hKept.linked hPlainBefore hPayment
  · cases hChange with
    | captured hCaptures hCapturable hFree => cases hOpen
    | failed hReported hFood hUnpaid =>
        have hStatus : tx.status ≠ .captured ∧ tx.status ≠ .success := by tauto
        simp [failedRow, PaymentTransaction.markFailed, hStatus] at hOpen
    | markedFailed hReported hOther hUnpaid => cases hOpen
    | activated hActivates hActivatable hFree hReady =>
        rw [activatedRow_status] at hOpen
        cases hOpen
    | refunded hAccepted hAnswer hFresh => cases hOpen
    | settled hReported hProcessed hRefund => cases hOpen
    | reset hAccepted hPending hFailed =>
        -- Only a subscription order without a subscription is opened again.
        have hFound := (Table.findFirst_some hPending).2.1
        simp only [Bool.and_eq_true, decide_eq_true_eq, Option.isNone_iff_eq_none] at hFound
        obtain ⟨⟨⟨⟨_, hPlan⟩, hUnlinked⟩, _⟩, _⟩ := hFound
        by_contra hPayment
        have hPlain : tx.orderId = none := by
          by_contra hFood
          cases (hKept.food hFood).symm.trans hPlan
        exact hKept.linked hPlain hPayment hUnlinked

theorem kept_step (hLinked : world.db.RefundsLinked)
    (hKept : ∀ tx ∈ world.db.transactions.rows, tx.Kept world.db.plans) (request : Request) :
    ∀ tx ∈ (serve config world request).db.transactions.rows, tx.Kept (serve config world request).db.plans := by
  intro row hRow
  rw [serve_plans request hLinked]
  rcases serve_origin request hLinked hRow with hOld | ⟨input, orderId, _, _, rfl⟩ |
    ⟨input, restaurantId, plan, orderId, _, hAccepted, rfl⟩ | ⟨tx, hTx, hChange⟩
  · exact hKept row hOld
  · exact kept_opened world.db request.env input orderId
  · exact kept_ordered hAccepted orderId
  · exact (hKept tx hTx).changed hChange

/-- In every state of a run all transactions are kept so. -/
theorem kept_run (config : Config) (plans : Table SubscriptionPlan) (requests : List Request) :
    ∀ tx ∈ (run (serve config) (World.initial plans) requests).db.transactions.rows,
      tx.Kept (run (serve config) (World.initial plans) requests).db.plans := by
  have hRun := run_invariant
    (fun world : World => world.db.RefundsLinked ∧ ∀ tx ∈ world.db.transactions.rows, tx.Kept world.db.plans)
    (fun world request h => ⟨serve_refundsLinked request h.1, @kept_step config world h.1 h.2 request⟩)
    ⟨refundsLinked_initial plans, fun _ hTx => absurd hTx List.not_mem_nil⟩ requests
  exact hRun.2

end Stored

section Reported

variable {input : HandleWebhookInput}

/-- What a reported payment writes, and the row that it makes of its transaction. -/
structure Pays (config : Config) (world : World) (env : Env) (input : HandleWebhookInput)
    (tx row : PaymentTransaction) (writes : List Write) : Prop where
  served : serve config world { call := .handleWebhook input, env } = world.store writes
  accepted : (∃ written, world.db.writeAll writes = some written) ↔
    world.db.PaymentIdFree tx row.razorpayPaymentId
  answered : ∀ written, world.db.writeAll writes = some written →
    ∃ output, (exec (Port.perform env) (handleWebhook config input env.now) world).1 = .ok output
  stored : ∀ written, world.db.writeAll writes = some written → written.transactions.get? tx.id = some row
  orderId : row.orderId = tx.orderId
  food : row.orderId ≠ none → row.status = .captured
  subscription : ∀ written, world.db.writeAll writes = some written → row.orderId = none →
    row.status = .success ∧ ∃ subscription ∈ written.subscriptions.rows,
      row.subscriptionId = some subscription.id ∧ subscription.status = .active ∧
        world.db.subscriptions.get? subscription.id = none
  payment : truthy row.razorpayPaymentId = truthy input.parsedPayload.paymentId

/-- A food order is captured with the payment id of the event, present or not. -/
theorem pays_food {orderId : Uuid} (hReported : input.ReportsSuccess config world.db tx)
    (hFood : tx.orderId = some orderId) (hOpen : tx.status = .created) (hUnpaid : tx.razorpayPaymentId = none) :
    ∃ row writes, Pays config world env input tx row writes := by
  have hMem : tx ∈ world.db.transactions.rows := by
    obtain ⟨razorpayOrderId, _, hFound⟩ := hReported.found
    exact Database.findTransaction_mem hFound
  have hCapturable : tx.Capturable := ⟨by simp [hOpen], by simp [hOpen]⟩
  refine ⟨capturedRow (tx.captureFields (input.parsedPayload.captureParams tx) env.now) tx,
    captureWrites world.db env tx (input.parsedPayload.captureParams tx)
      (input.parsedPayload.capturedEvent tx orderId env.now), ?_⟩
  refine ⟨serve_captured hReported hFood hCapturable, captureWrites_accepted hMem _ _, fun written hWritten => ?_,
    fun written hWritten => ?_, rfl, fun _ => rfl, fun _ _ hPlain => ?_, ?_⟩
  · rw [exec_success hReported, hFood]
    refine exec_bind_ret_ok_iff.mpr ?_
    simp only [captureFromWebhook, if_neg hCapturable.1, PaymentTransaction.capture_of_capturable hCapturable,
      check_ok, ret_bind]
    exact exec_commit_ok (perform_capture hMem hCapturable _ _) hWritten _
  · rw [(Database.written_of_writeAll hWritten).get?_single rfl]
    exact if_pos rfl
  · cases hFood.symm.trans hPlain
  · show truthy ((input.parsedPayload.capturedPaymentId tx).or tx.razorpayPaymentId) = _
    rw [WebhookPayload.capturedPaymentId, hUnpaid, Option.or_none, Option.or_none]

/-- The payment id that an unpaid order stores: that of the event, or an empty one. -/
theorem truthy_activationPaymentId {payload : WebhookPayload} (hUnpaid : tx.razorpayPaymentId = none) :
    truthy (some (activationPaymentId payload tx)) = truthy payload.paymentId := by
  rw [activationPaymentId, hUnpaid]
  cases hNamed : truthy payload.paymentId with
  | none =>
      simp only [orElse, hNamed]
      rfl
  | some paymentId =>
      have hText := (truthy_eq_some hNamed).2
      simp only [orElse, hNamed]
      simp [truthy, hText]

/-- Another order buys its subscription. -/
theorem pays_subscription (hReported : input.ReportsSuccess config world.db tx) (hPlain : tx.orderId = none)
    (hKept : tx.Kept world.db.plans) (hOpen : tx.status = .created)
    (hNumber : ∀ invoice ∈ world.db.invoices.rows, invoice.invoiceNumber ≠ env.invoiceNumber) :
    ∃ row writes, Pays config world env input tx row writes := by
  have hMem : tx ∈ world.db.transactions.rows := by
    obtain ⟨razorpayOrderId, _, hFound⟩ := hReported.found
    exact Database.findTransaction_mem hFound
  have hUnsettled : tx.status ≠ .success := by simp [hOpen]
  obtain ⟨planId, plan, hPlanId, hPlan⟩ := hKept.plan hPlain
  have hActivatable : tx.Activatable world.db plan := by
    refine ⟨?_, planId, hPlanId, hPlan⟩
    rw [completedSubscription, if_neg hUnsettled]
  generalize hParams : activationParams tx plan (activationPaymentId input.parsedPayload tx) "" env.now = params
  have hPaymentId : (activatedRow params.payment (world.db.subscriptionRow env params.subscription).id env.now
      tx).razorpayPaymentId = some (activationPaymentId input.parsedPayload tx) := by
    simp only [activatedRow, claimedRow, if_neg hUnsettled, ← hParams]
    rfl
  have hSame := @activatedRow_samePayment tx params.payment (world.db.subscriptionRow env params.subscription).id env.now
  refine ⟨activatedRow params.payment (world.db.subscriptionRow env params.subscription).id env.now tx,
    activationWrites world.db env tx params, ?_⟩
  refine ⟨hParams ▸ serve_activated hReported hPlain hActivatable, ?_, fun written hWritten => ?_,
    fun written hWritten => ?_, hSame.orderId, fun hFood => ?_, fun written hWritten _ => ?_, ?_⟩
  · rw [activationWrites_accepted hMem, claimedPaymentId, if_neg hUnsettled, hPaymentId, ← hParams]
    exact and_iff_left (Or.inr hNumber)
  · rw [exec_success hReported, hPlain]
    refine exec_bind_ret_ok_iff.mpr ?_
    simp only [activateFromWebhook, hActivatable.open_, hPlanId]
    rw [exec_call_bind, perform_findPlanById, hPlan]
    subst hParams
    exact exec_commit_ok (perform_activate hMem hActivatable _ _) hWritten _
  · rw [get?_activated hWritten, if_pos rfl]
  · exact absurd (hSame.orderId.trans hPlain) hFood
  · have hTable := (Database.written_of_writeAll hWritten).subscriptions
    rw [activationWrites_subscription?, Table.putAll_singleton] at hTable
    refine ⟨activatedRow_status _ _ _, world.db.subscriptionRow env params.subscription, ?_, rfl, ?_, ?_⟩
    · exact (Table.mem_put hTable).mpr (Or.inl rfl)
    · subst hParams
      rfl
    · exact Table.get?_freshKey
  · rw [hPaymentId]
    exact truthy_activationPaymentId (hKept.unpaid hOpen)

/-- A payment that has been recorded is new, and a new one is recorded. -/
theorem Pays.payable_iff {row : PaymentTransaction} {writes : List Write}
    (hPays : Pays config world env input tx row writes) (hMem : tx ∈ world.db.transactions.rows)
    (hOpen : tx.status = .created) (hUnpaid : tx.razorpayPaymentId = none) :
    TakesEffect config world env input tx ↔ input.parsedPayload.NamesNewPayment world.db := by
  constructor
  · rintro ⟨_, after, hGet, _, hPaid⟩
    rw [hPays.served] at hGet
    rcases world.db.store_cases writes with ⟨_, hSame⟩ | ⟨written, hWritten, hStored⟩
    · -- A refused payment leaves the transaction open.
      have hAfter : after = tx := by
        have hStill : world.db.transactions.get? tx.id = some tx := Table.get?_key hMem
        rw [← hSame] at hStill
        exact Option.some.inj (hGet.symm.trans hStill)
      rw [hAfter] at hPaid
      by_cases hPlain : tx.orderId = none
      · cases hOpen.symm.trans (hPaid.subscription hPlain).1
      · cases hOpen.symm.trans (hPaid.food hPlain)
    · have hAfter : after = row := by
        have hRow := hPays.stored written hWritten
        rw [← hStored] at hRow
        exact Option.some.inj (hGet.symm.trans hRow)
      subst hAfter
      obtain ⟨paymentId, hPaymentId, hText⟩ := hPaid.payment
      have hFree := hPays.accepted.mp ⟨written, hWritten⟩
      refine ⟨paymentId, ?_, fun other hOther hUsed => ?_⟩
      · rw [← hPays.payment, hPaymentId]
        simp [truthy, hText]
      · have hId := hFree other hOther (hUsed.trans hPaymentId.symm) (by simp [hPaymentId])
        cases Table.eq_of_key hOther hMem hId
        cases hUsed.symm.trans hUnpaid
  · rintro ⟨paymentId, hNamed, hNew⟩
    obtain ⟨hPaymentId, hText⟩ := truthy_eq_some (hPays.payment.trans hNamed)
    obtain ⟨written, hWritten⟩ := hPays.accepted.mpr fun other hOther hSame _ =>
      absurd (hSame.trans hPaymentId) (hNew other hOther)
    have hAfter : (serve config world { call := .handleWebhook input, env }).db = written := by
      rw [hPays.served]
      exact Database.store_of_writeAll hWritten
    refine ⟨hPays.answered written hWritten, row, ?_, hPays.orderId, ?_⟩
    · rw [hAfter]
      exact hPays.stored written hWritten
    · rw [hAfter]
      have hPaidStatus : row.status = .captured ∨ row.status = .success := by
        by_cases hPlain : row.orderId = none
        · exact Or.inr (hPays.subscription written hWritten hPlain).1
        · exact Or.inl (hPays.food hPlain)
      refine ⟨hPays.food, hPays.subscription written hWritten, ⟨paymentId, hPaymentId, hText⟩, ?_⟩
      exact row.refundable_of_paid hPaidStatus (by rw [hPays.payment, hNamed]; exact Option.some_ne_none paymentId)

/-- An open transaction is paid by a success event exactly when that names a new payment. -/
theorem takesEffect_iff_named (hReported : input.ReportsSuccess config world.db tx)
    (hKept : tx.Kept world.db.plans) (hOpen : tx.status = .created)
    (hNumber : ∀ invoice ∈ world.db.invoices.rows, invoice.invoiceNumber ≠ env.invoiceNumber) :
    TakesEffect config world env input tx ↔ input.parsedPayload.NamesNewPayment world.db := by
  obtain ⟨razorpayOrderId, _, hFound⟩ := hReported.found
  have hMem := Database.findTransaction_mem hFound
  have hUnpaid := hKept.unpaid hOpen
  cases hOrder : tx.orderId with
  | none =>
      obtain ⟨row, writes, hPays⟩ := pays_subscription hReported hOrder hKept hOpen hNumber
      exact hPays.payable_iff hMem hOpen hUnpaid
  | some orderId =>
      obtain ⟨row, writes, hPays⟩ := @pays_food config env world tx input orderId hReported hOrder hOpen hUnpaid
      exact hPays.payable_iff hMem hOpen hUnpaid

end Reported

/-- In every state of a run, a success webhook for an open transaction takes
effect exactly when it has a payment entity with a new, non-empty id. -/
theorem takesEffect_iff (config : Config) (plans : Table SubscriptionPlan) (requests : List Request) (env : Env)
    (input : HandleWebhookInput) (tx : PaymentTransaction)
    (hReported : input.ReportsSuccess config (run (serve config) (World.initial plans) requests).db tx)
    (hOpen : tx.status = .created)
    (hNumber : ∀ invoice ∈ (run (serve config) (World.initial plans) requests).db.invoices.rows,
      invoice.invoiceNumber ≠ env.invoiceNumber) :
    TakesEffect config (run (serve config) (World.initial plans) requests) env input tx ↔
      input.parsedPayload.NamesNewPayment (run (serve config) (World.initial plans) requests).db := by
  obtain ⟨razorpayOrderId, _, hFound⟩ := hReported.found
  exact takesEffect_iff_named hReported
    (kept_run config plans requests tx (Database.findTransaction_mem hFound)) hOpen hNumber

namespace Sample

def orderPaidBody : String :=
  "\x7b\"event\":\"order.paid\",\"payload\":\x7b\"order\":\x7b\"entity\":\x7b\"id\":\"order_1\"\x7d\x7d\x7d\x7d"

def orderPaidSignature : String := "7f3f775561da29d2362a152dd20be518851faf2c8f0288daf4782044eb34f978"

/-- The deployment of the samples, which also knows the digest of this body. -/
def orderPaidConfig : Config :=
  { Sample.config with
    hmacSha256Hex := fun secret message =>
      if secret = "hook-secret" ∧ message = orderPaidBody then orderPaidSignature
      else Sample.config.hmacSha256Hex secret message }

/-- The delivery of `order.paid` with the order entity alone. -/
def orderPaid : HandleWebhookInput where
  rawBody := orderPaidBody
  signature := orderPaidSignature
  parsedPayload := { event := .orderPaid, payment := none, order := some { id := some "order_1" }, refund := none }

/-- The delivery of `payment.captured` for the payment `pay_1` of `order_1`. -/
def paymentCaptured : HandleWebhookInput :=
  signedInput capturedBody (paymentPayload .paymentCaptured "order_1" "pay_1")

/-- A food order that waits for its payment. -/
def foodOrderOpened : List Request := [createOrderPayment 1000 7 50000 price_pos "order_1"]

end Sample

theorem takesEffect_captured : ∃ tx, TakesEffect Sample.config
    (run (serve Sample.config) (World.initial Table.empty) Sample.foodOrderOpened) (Sample.env 2000)
      Sample.paymentCaptured tx := by
  obtain ⟨tx, hFound, hOpen⟩ : ∃ tx,
      (run (serve Sample.config) (World.initial Table.empty) Sample.foodOrderOpened).db.findTransaction
        (.razorpayOrderId "order_1") = some tx ∧ tx.status = .created := ⟨_, rfl, rfl⟩
  refine ⟨tx, (takesEffect_iff Sample.config Table.empty Sample.foodOrderOpened (Sample.env 2000)
    Sample.paymentCaptured tx ⟨by decide, rfl, "order_1", rfl, hFound⟩ hOpen ?_).mpr ⟨"pay_1", rfl, ?_⟩⟩
  · exact fun _ hInvoice => absurd hInvoice List.not_mem_nil
  · decide

/-- An event with the order entity alone captures the transaction without naming
its payment, which then cannot be refunded. -/
theorem takesEffect_fails :
    ¬ ∀ config plans requests env input tx,
      input.ReportsSuccess config (run (serve config) (World.initial plans) requests).db tx → tx.status = .created →
        (∀ invoice ∈ (run (serve config) (World.initial plans) requests).db.invoices.rows,
          invoice.invoiceNumber ≠ env.invoiceNumber) →
        (input.parsedPayload.NamesNewPayment (run (serve config) (World.initial plans) requests).db ∨
          (input.parsedPayload.payment = none ∧ input.parsedPayload.order.isSome)) →
            TakesEffect config (run (serve config) (World.initial plans) requests) env input tx := by
  intro h
  obtain ⟨tx, hFound, hOpen⟩ : ∃ tx,
      (run (serve Sample.orderPaidConfig) (World.initial Table.empty) Sample.foodOrderOpened).db.findTransaction
        (.razorpayOrderId "order_1") = some tx ∧ tx.status = .created := ⟨_, rfl, rfl⟩
  have hReported : Sample.orderPaid.ReportsSuccess Sample.orderPaidConfig
      (run (serve Sample.orderPaidConfig) (World.initial Table.empty) Sample.foodOrderOpened).db tx :=
    ⟨by decide, rfl, "order_1", rfl, hFound⟩
  have hNumber : ∀ invoice ∈ (run (serve Sample.orderPaidConfig) (World.initial Table.empty)
      Sample.foodOrderOpened).db.invoices.rows, invoice.invoiceNumber ≠ (Sample.env 2000).invoiceNumber :=
    fun _ hInvoice => absurd hInvoice List.not_mem_nil
  have hKept := kept_run Sample.orderPaidConfig Table.empty Sample.foodOrderOpened tx
    (Database.findTransaction_mem hFound)
  have hEffect := h Sample.orderPaidConfig Table.empty Sample.foodOrderOpened (Sample.env 2000) Sample.orderPaid tx
    hReported hOpen hNumber (Or.inr ⟨rfl, rfl⟩)
  obtain ⟨paymentId, hNamed, _⟩ := (takesEffect_iff_named hReported hKept hOpen hNumber).mp hEffect
  cases hNamed

end SpotqPayment
