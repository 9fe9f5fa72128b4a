import SpotqPayment.System.Changes

/-! Invariants of every reachable state that the effects of calls rest on. -/
namespace SpotqPayment

open Process Engine PaymentTransactionRepository SubscriptionRepository

variable {config : Config} {env : Env} {db written : Database} {world : World}

theorem settlement_refund? (tx : PaymentTransaction) (status : RefundStatus) (now : Instant) :
    (settlement db status tx now).filterMap Write.refund? = [] := by
  unfold settlement
  split
  · rw [List.filterMap_cons, voidedInvoices_refund?]
    rfl
  · rfl

theorem settlement_subscription? (tx : PaymentTransaction) (status : RefundStatus) (now : Instant) :
    (settlement db status tx now).filterMap Write.subscription? = [] := by
  unfold settlement
  split
  · rw [List.filterMap_cons, voidedInvoices_subscription?]
    rfl
  · rfl

theorem settlement_outbox? (tx : PaymentTransaction) (status : RefundStatus) (now : Instant) :
    (settlement db status tx now).filterMap Write.outbox? = [] := by
  unfold settlement
  split
  · rw [List.filterMap_cons, voidedInvoices_outbox?]
    rfl
  · rfl

variable {tx : PaymentTransaction}

/-- The status of a reported refund. -/
theorem HandleWebhookInput.ReportsRefund.status {input : HandleWebhookInput}
    {params : SyncRefundFromWebhookParams} (h : input.ReportsRefund config params) :
    params.status = .processed ∨ params.status = .failed := by
  obtain ⟨entity, refundId, _, _, rfl⟩ := h.params
  unfold WebhookPayload.syncParams
  split
  · exact Or.inl rfl
  · exact Or.inr rfl

/-- A refund event closes the transaction unless it reports a failure. -/
theorem settlement_ledger {row : PaymentRefund} {status : RefundStatus} {now : Instant}
    (hStatus : status = .processed ∨ status = .failed) :
    (Write.refund row :: settlement db status tx now).filterMap Write.transaction? =
      if status = .failed then [] else [statusRow .refunded now tx] := by
  show (settlement db status tx now).filterMap Write.transaction? = _
  rw [settlement_transaction?]
  rcases hStatus with rfl | rfl <;> rfl

/-- What an accepted refund event leaves behind. -/
theorem settlement_next {row : PaymentRefund} {status : RefundStatus} {now : Instant}
    (hStatus : status = .processed ∨ status = .failed) (hTx : tx ∈ db.transactions.rows)
    (hPut : ∃ table, db.refunds.put row = some table) :
    db.refunds.put row = some (db.store (.refund row :: settlement db status tx now)).refunds ∧
      (db.store (.refund row :: settlement db status tx now)).transactions.get? tx.id =
        some (if status = .failed then tx else statusRow .refunded now tx) := by
  obtain ⟨table, hTable⟩ := hPut
  obtain ⟨written, hWritten⟩ := settlement_accepted hTx hTable status now
  have hTables := Database.written_of_writeAll hWritten
  have hRefunds := hTables.refunds
  have hRows := @settlement_ledger db tx row status now hStatus
  rw [List.filterMap_cons, settlement_refund?] at hRefunds
  rw [Database.store_of_writeAll hWritten]
  refine ⟨Table.putAll_singleton.mp hRefunds, ?_⟩
  have hGet : db.transactions.get? tx.id = some tx := Table.get?_key hTx
  by_cases hFailed : status = .failed
  · rw [if_pos hFailed] at hRows
    rw [hTables.get?_same hRows, if_pos hFailed, hGet]
  · rw [if_neg hFailed] at hRows
    rw [hTables.get?_single hRows, if_neg hFailed]
    exact if_pos rfl

/-- A refund row that a call writes, and the transaction it belongs to. -/
inductive RefundChange (config : Config) (db : Database) (env : Env) :
    Call → PaymentRefund → PaymentTransaction → Prop where
  | requested {input : ProcessOrderRefundInput} {tx : PaymentTransaction} {paymentId : String}
      {answer : PaymentRefundResult} (hAccepted : input.Accepted db env tx paymentId)
      (hAnswer : env.gatewayRefund = some answer) :
      RefundChange config db env (.processOrderRefund input) (requestedRow db env input tx answer) tx
  | synced {input : HandleWebhookInput} {params : SyncRefundFromWebhookParams}
      {refund : PaymentRefund} {tx : PaymentTransaction} (hReported : input.ReportsRefund config params)
      (hKnown : db.findRefund params.razorpayRefundId = some refund)
      (hRow : db.findTransaction (.id refund.paymentTransactionId) = some tx) :
      RefundChange config db env (.handleWebhook input) (syncedRefund params env.now refund) tx
  | recorded {input : HandleWebhookInput} {params : SyncRefundFromWebhookParams}
      {razorpayPaymentId : String} {tx : PaymentTransaction}
      (hReported : input.ReportsRefund config params)
      (hUnknown : db.findRefund params.razorpayRefundId = none)
      (hPayment : truthy params.razorpayPaymentId = some razorpayPaymentId)
      (hRow : db.findTransaction (.razorpayPaymentId razorpayPaymentId) = some tx) :
      RefundChange config db env (.handleWebhook input)
        (db.refundRow env (reportedRefund params tx env.now)) tx

/-- A call writes no refund row, or one for a stored transaction. -/
theorem Effect.refunds {call : Call} {writes : List Write} (hEffect : Effect config db env call writes) :
    writes.filterMap Write.refund? = [] ∨ ∃ refund tx, RefundChange config db env call refund tx ∧
      tx ∈ db.transactions.rows ∧ refund.paymentTransactionId = tx.id ∧
        writes.filterMap Write.refund? = [refund] := by
  cases hEffect with
  | nothing call => exact Or.inl rfl
  | captured hCaptures hOpen => exact Or.inl rfl
  | failed hReported hFood hOpen => exact Or.inl rfl
  | markedFailed hReported hPlain hOpen => exact Or.inl rfl
  | activated hActivates hOpen => exact Or.inl (activationWrites_refund? _)
  | refunded hAccepted hAnswer =>
      refine Or.inr ⟨_, _, .requested hAccepted hAnswer, (Table.findFirst_some hAccepted.newest).1, rfl, ?_⟩
      rw [refundWrites, List.filterMap_append, voidedInvoices_refund?]
      rfl
  | refundSynced hReported hKnown hRow =>
      refine Or.inr ⟨_, _, .synced hReported hKnown hRow, Database.findTransaction_mem hRow,
        (Table.get?_eq_some.mp hRow).2.symm, ?_⟩
      rw [List.filterMap_cons, settlement_refund?]
      rfl
  | refundRecorded hReported hUnknown hPayment hRow =>
      refine Or.inr ⟨_, _, .recorded hReported hUnknown hPayment hRow, Database.findTransaction_mem hRow,
        rfl, ?_⟩
      rw [List.filterMap_cons, settlement_refund?]
      rfl
  | orderOpened hOpens => exact Or.inl rfl
  | subscriptionOrdered hAccepted hPending hGateway hWrites =>
      rcases prefix_pair hWrites with rfl | rfl | rfl <;> exact Or.inl rfl
  | reset hAccepted hPending hFailed => exact Or.inl rfl
  | expired hTypes =>
      refine Or.inl ?_
      simp [PaymentSubscriptionExpiryService.expiredSubscriptions, List.filterMap_append,
        List.filterMap_map, Function.comp_def, Write.refund?]

/-- No stored transaction disappears. -/
theorem Database.Written.transaction_kept {writes : List Write} (h : db.Written writes written)
    {tx : PaymentTransaction} (hTx : tx ∈ db.transactions.rows) :
    ∃ row ∈ written.transactions.rows, row.id = tx.id :=
  Table.key_mem_of_putAll h.transactions hTx

theorem refundsLinked_of_transaction {refund : PaymentRefund} {tx : PaymentTransaction}
    (hTx : tx ∈ db.transactions.rows) (hId : refund.paymentTransactionId = tx.id) :
    ∃ found, db.findTransaction (.id refund.paymentTransactionId) = some found :=
  ⟨tx, hId ▸ Database.findTransaction_id hTx⟩

theorem refundsLinked_store {call : Call} {writes : List Write} (hLinked : db.RefundsLinked)
    (hEffect : Effect config db env call writes) : (db.store writes).RefundsLinked := by
  rcases db.store_cases writes with ⟨_, hSame⟩ | ⟨written, hWritten, hStored⟩
  · rw [hSame]
    exact hLinked
  · have hTables := Database.written_of_writeAll hWritten
    rw [hStored]
    intro refund hRefund
    have hOwner : ∃ tx ∈ db.transactions.rows, refund.paymentTransactionId = tx.id := by
      rcases Table.mem_of_putAll hTables.refunds hRefund with hOld | hNew
      · obtain ⟨tx, hTx⟩ := hLinked refund hOld
        exact ⟨tx, Database.findTransaction_mem hTx, (Table.get?_eq_some.mp hTx).2.symm⟩
      · rcases hEffect.refunds with hNone | ⟨row, tx, _, hTx, hId, hRows⟩
        · rw [hNone] at hNew
          cases hNew
        · rw [hRows, List.mem_singleton] at hNew
          exact ⟨tx, hTx, hNew ▸ hId⟩
    obtain ⟨tx, hTx, hId⟩ := hOwner
    obtain ⟨row, hRow, hSame⟩ := hTables.transaction_kept hTx
    exact refundsLinked_of_transaction hRow (hId.trans hSame.symm)

theorem serve_refundsLinked (request : Request) (hLinked : world.db.RefundsLinked) :
    (serve config world request).db.RefundsLinked := by
  obtain ⟨writes, hEffect, hStore⟩ := @serve_effect config world hLinked request
  rw [hStore]
  exact refundsLinked_store hLinked hEffect

theorem refundsLinked_initial (plans : Table SubscriptionPlan) :
    (World.initial plans).db.RefundsLinked := by
  intro refund hRefund
  cases hRefund

theorem expiry_subscription? (now : Instant) (events : List OutboxEvent) :
    ∀ row ∈ (PaymentSubscriptionExpiryService.expiredSubscriptions db (pastDue db now) now ++
      events.map Write.outbox).filterMap Write.subscription?, row.status = .expired := by
  intro row hRow
  obtain ⟨write, hWrite, hSome⟩ := List.mem_filterMap.mp hRow
  rcases List.mem_append.mp hWrite with hExpired | hEvent
  · obtain ⟨old, _, rfl⟩ := List.mem_map.mp hExpired
    rw [← Option.some.inj hSome]
  · obtain ⟨event, _, rfl⟩ := List.mem_map.mp hEvent
    cases hSome

theorem Captures.event {call : Call} {now : Instant} {params : CaptureParams}
    {event : CreateOutboxEventInput} (h : Captures config db now call tx params event) :
    event.eventType = .orderCaptured := by
  cases h <;> rfl

/-- Apart from an activation no call opens a subscription or announces one, and
apart from the expiry no call writes one at all. -/
theorem Effect.purchase {call : Call} {writes : List Write} (hEffect : Effect config db env call writes) :
    (writes.filterMap Write.subscription? = [] ∧
      ∀ event ∈ writes.filterMap Write.outbox?, event.eventType ≠ .subscriptionActivated) ∨
    (call = .expirePastDueSubscriptions ∧
      ∀ row ∈ writes.filterMap Write.subscription?, row.status = .expired) ∨
    ∃ tx plan paymentId signature, Activates config db call tx paymentId signature ∧
      tx.Activatable db plan ∧
      writes = activationWrites db env tx (activationParams tx plan paymentId signature env.now) := by
  cases hEffect with
  | nothing call => exact Or.inl ⟨rfl, by simp [Write.outbox?]⟩
  | @captured _ tx params event hCaptures hOpen =>
      refine Or.inl ⟨rfl, fun row hRow => ?_⟩
      have hType : row.eventType = event.eventType := by
        rw [List.mem_singleton.mp hRow]
        rfl
      rw [hType, hCaptures.event]
      decide
  | failed hReported hFood hOpen =>
      refine Or.inl ⟨rfl, fun row hRow => ?_⟩
      rw [List.mem_singleton.mp hRow]
      show EventType.orderFailed ≠ .subscriptionActivated
      decide
  | markedFailed hReported hPlain hOpen => exact Or.inl ⟨rfl, by simp [Write.outbox?]⟩
  | activated hActivates hOpen => exact Or.inr (Or.inr ⟨_, _, _, _, hActivates, hOpen, rfl⟩)
  | refunded hAccepted hAnswer =>
      refine Or.inl ?_
      rw [refundWrites, List.filterMap_append, List.filterMap_append, voidedInvoices_subscription?,
        voidedInvoices_outbox?]
      exact ⟨rfl, by simp [Write.outbox?]⟩
  | refundSynced hReported hKnown hRow =>
      refine Or.inl ?_
      rw [List.filterMap_cons, List.filterMap_cons, settlement_subscription?, settlement_outbox?]
      exact ⟨rfl, by simp [Write.outbox?]⟩
  | refundRecorded hReported hUnknown hPayment hRow =>
      refine Or.inl ?_
      rw [List.filterMap_cons, List.filterMap_cons, settlement_subscription?, settlement_outbox?]
      exact ⟨rfl, by simp [Write.outbox?]⟩
  | orderOpened hOpens => exact Or.inl ⟨rfl, by simp [Write.outbox?]⟩
  | subscriptionOrdered hAccepted hPending hGateway hWrites =>
      rcases prefix_pair hWrites with rfl | rfl | rfl <;> exact Or.inl ⟨rfl, by simp [Write.outbox?]⟩
  | reset hAccepted hPending hFailed => exact Or.inl ⟨rfl, by simp [Write.outbox?]⟩
  | expired hTypes => exact Or.inr (Or.inl ⟨rfl, expiry_subscription? env.now _⟩)

/-- A call that activates a subscription for the transaction. -/
structure Buys (config : Config) (db : Database) (env : Env) (call : Call) (tx : PaymentTransaction)
    (plan : SubscriptionPlan) (paymentId signature : String) : Prop where
  activates : Activates config db call tx paymentId signature
  open_ : tx.Activatable db plan
  free : db.PaymentIdFree tx (claimedPaymentId tx paymentId)
  ready : db.InvoiceReady env tx

theorem Buys.accepted {call : Call} {plan : SubscriptionPlan} {paymentId signature : String}
    (h : Buys config db env call tx plan paymentId signature) :
    ∃ written, db.writeAll (activationWrites db env tx
      (activationParams tx plan paymentId signature env.now)) = some written :=
  (activationWrites_accepted h.activates.mem _).mpr ⟨h.free, h.ready⟩

theorem settlement_known {row : PaymentTransaction} {refund : PaymentRefund} {status : RefundStatus} {now : Instant}
    (hStatus : status = .processed ∨ status = .failed)
    (hRow : row ∈ (Write.refund refund :: settlement db status tx now).filterMap Write.transaction?) :
    row.id = tx.id := by
  rw [settlement_ledger hStatus] at hRow
  split at hRow
  · cases hRow
  · rw [List.mem_singleton.mp hRow]
    rfl

/-- A transaction that a call writes is stored already, or the call opens an order. -/
theorem Effect.mem_transactions {call : Call} {writes : List Write} (hEffect : Effect config db env call writes)
    {row : PaymentTransaction} (hRow : row ∈ writes.filterMap Write.transaction?) :
    (∃ tx ∈ db.transactions.rows, row.id = tx.id) ∨
    (∃ input orderId, call = .createOrderPayment input ∧ input.Opens db env orderId ∧
      row = db.transactionRow env (input.transaction orderId)) ∨
    ∃ input restaurantId plan orderId, call = .createSubscriptionOrder input ∧
      input.Accepted db env restaurantId plan ∧ row = orderedRow db env restaurantId plan orderId := by
  cases hEffect with
  | nothing call => cases hRow
  | captured hCaptures hOpen =>
      rw [List.mem_singleton.mp hRow]
      exact Or.inl ⟨_, hCaptures.mem, rfl⟩
  | failed hReported hFood hOpen =>
      obtain ⟨orderId, _, hFound⟩ := hReported.found
      rw [List.mem_singleton.mp hRow]
      exact Or.inl ⟨_, Database.findTransaction_mem hFound, rfl⟩
  | markedFailed hReported hPlain hOpen =>
      obtain ⟨orderId, _, hFound⟩ := hReported.found
      rw [List.mem_singleton.mp hRow]
      exact Or.inl ⟨_, Database.findTransaction_mem hFound, rfl⟩
  | activated hActivates hOpen =>
      obtain ⟨hId, _⟩ := mem_activationWrites hRow
      exact Or.inl ⟨_, hActivates.mem, hId⟩
  | refunded hAccepted hAnswer =>
      rw [refundWrites, List.filterMap_append, voidedInvoices_transaction?] at hRow
      rw [List.mem_singleton.mp hRow]
      exact Or.inl ⟨_, (Table.findFirst_some hAccepted.newest).1, rfl⟩
  | refundSynced hReported hKnown hOwner =>
      exact Or.inl ⟨_, Database.findTransaction_mem hOwner, settlement_known hReported.status hRow⟩
  | refundRecorded hReported hUnknown hPayment hOwner =>
      exact Or.inl ⟨_, Database.findTransaction_mem hOwner, settlement_known hReported.status hRow⟩
  | orderOpened hOpens => exact Or.inr (Or.inl ⟨_, _, rfl, hOpens, List.mem_singleton.mp hRow⟩)
  | @subscriptionOrdered input restaurantId plan orderId _ hAccepted hPending hGateway hWrites =>
      refine Or.inr (Or.inr ⟨input, restaurantId, plan, orderId, rfl, hAccepted, ?_⟩)
      rcases prefix_pair hWrites with rfl | rfl | rfl
      · cases hRow
      · exact List.mem_singleton.mp hRow
      · exact List.mem_singleton.mp hRow
  | reset hAccepted hPending hFailed =>
      rw [List.mem_singleton.mp hRow]
      exact Or.inl ⟨_, (Table.findFirst_some hPending).1, rfl⟩
  | expired hTypes =>
      rw [expiry_transaction?] at hRow
      cases hRow

/-- Where a transaction comes from that is stored after a call. -/
theorem serve_origin (request : Request) (hLinked : world.db.RefundsLinked) {row : PaymentTransaction}
    (hRow : row ∈ (serve config world request).db.transactions.rows) :
    row ∈ world.db.transactions.rows ∨
    (∃ input orderId, request.call = .createOrderPayment input ∧ input.Opens world.db request.env orderId ∧
      row = world.db.transactionRow request.env (input.transaction orderId)) ∨
    (∃ input restaurantId plan orderId, request.call = .createSubscriptionOrder input ∧
      input.Accepted world.db request.env restaurantId plan ∧
        row = orderedRow world.db request.env restaurantId plan orderId) ∨
    ∃ tx ∈ world.db.transactions.rows, Change config world.db request.env request.call tx row := by
  obtain ⟨writes, hEffect, hStore⟩ := @serve_effect config world hLinked request
  rw [hStore] at hRow
  rcases world.db.store_cases writes with ⟨_, hSame⟩ | ⟨written, hWritten, hStored⟩
  · rw [hSame] at hRow
    exact Or.inl hRow
  rw [hStored] at hRow
  have hRows := (Database.written_of_writeAll hWritten).transactions
  rcases Table.mem_of_putAll hRows hRow with hOld | hNew
  · exact Or.inl hOld
  rcases hEffect.mem_transactions hNew with ⟨tx, hTx, hId⟩ | hOpened | hOrdered
  · have hStoredRow : written.transactions.get? tx.id = some row := hId ▸ Table.get?_key hRow
    rcases (hEffect.outcome hWritten).of_stored hTx with hKept | ⟨changed, hChange, _, hGet⟩
    · cases hStoredRow.symm.trans hKept
      exact Or.inl hTx
    · cases hStoredRow.symm.trans hGet
      exact Or.inr (Or.inr (Or.inr ⟨tx, hTx, hChange⟩))
  · exact Or.inr (Or.inl hOpened)
  · exact Or.inr (Or.inr (Or.inl hOrdered))

/-- No call changes the plans. -/
theorem serve_plans (request : Request) (hLinked : world.db.RefundsLinked) :
    (serve config world request).db.plans = world.db.plans := by
  obtain ⟨writes, _, hStore⟩ := @serve_effect config world hLinked request
  rw [hStore]
  rcases world.db.store_cases writes with ⟨_, hSame⟩ | ⟨written, hWritten, hStored⟩
  · rw [hSame]
  · rw [hStored]
    exact (Database.written_of_writeAll hWritten).plans

end SpotqPayment
