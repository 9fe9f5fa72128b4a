import SpotqPayment.System.Invariants

/-! A webhook that is delivered again changes nothing as long as what it reports
is still on record. No table of seen events is consulted, so a later refund, a
reset or another failed attempt brings the old event back to work. -/
namespace SpotqPayment

open Transition PaymentTransactionRepository

def PaymentTransaction.untimed (tx : PaymentTransaction) : PaymentTransaction := { tx with updatedAt := 0 }

def PaymentRefund.untimed (refund : PaymentRefund) : PaymentRefund := { refund with processedAt := none }

def Subscription.untimed (subscription : Subscription) : Subscription := { subscription with updatedAt := 0 }

def BillingInvoice.untimed (invoice : BillingInvoice) : BillingInvoice :=
  { invoice with paidAt := none, updatedAt := 0 }

/-- The same rows in all tables, apart from the times of their last changes. -/
structure Database.SameRows (after db : Database) : Prop where
  transactions : ∀ id, (after.transactions.get? id).map PaymentTransaction.untimed =
    (db.transactions.get? id).map PaymentTransaction.untimed
  refunds : ∀ id, (after.refunds.get? id).map PaymentRefund.untimed =
    (db.refunds.get? id).map PaymentRefund.untimed
  subscriptions : ∀ id, (after.subscriptions.get? id).map Subscription.untimed =
    (db.subscriptions.get? id).map Subscription.untimed
  invoices : ∀ id, (after.invoices.get? id).map BillingInvoice.untimed =
    (db.invoices.get? id).map BillingInvoice.untimed
  outbox : ∀ id, after.outbox.get? id = db.outbox.get? id

/-- The invoices of a transaction are void and without a document. -/
def Database.InvoicesVoid (db : Database) (transactionId : Uuid) : Prop :=
  ∀ invoice ∈ db.invoices.rows, invoice.paymentTransactionId = some transactionId →
    invoice.status = .void ∧ invoice.invoicePdfKey = none

/-- What a webhook can find undone: its report is not on record, or no longer. -/
inductive FindsWork (config : Config) (db : Database) (env : Env) (input : HandleWebhookInput) : Prop where
  | toCapture {tx : PaymentTransaction} {params : CaptureParams} {event : CreateOutboxEventInput}
      (hCaptures : Captures config db env.now (.handleWebhook input) tx params event)
      (hOpen : tx.Capturable) (hFree : db.PaymentIdFree tx (params.paymentId.or tx.razorpayPaymentId))
  | toActivate {tx : PaymentTransaction} {plan : SubscriptionPlan} {paymentId signature : String}
      (hBuys : Buys config db env (.handleWebhook input) tx plan paymentId signature)
  | toFail {entity : WebhookPaymentEntity} {tx : PaymentTransaction} {foodOrderId : Uuid}
      (hReported : input.ReportsFailure config db entity tx) (hFood : tx.orderId = some foodOrderId)
      (hOpen : ¬ (tx.status = .captured ∨ tx.status = .success ∨ tx.status = .failed))
  | toMarkFailed {entity : WebhookPaymentEntity} {tx : PaymentTransaction}
      (hReported : input.ReportsFailure config db entity tx) (hPlain : tx.orderId = none)
      (hOpen : ¬ (tx.status = .success ∨ tx.status = .captured))
      (hNew : ¬ (tx.status = .failed ∧ tx.failureReason = some entity.failureReason))
  | toSync {params : SyncRefundFromWebhookParams} {refund : PaymentRefund}
      (hReported : input.ReportsRefund config params)
      (hKnown : db.findRefund params.razorpayRefundId = some refund)
      (hNew : ¬ (refund.status = params.status ∧ (truthy params.arn).or refund.arn = refund.arn))
  | toSettle {params : SyncRefundFromWebhookParams} {refund : PaymentRefund} {tx : PaymentTransaction}
      (hReported : input.ReportsRefund config params) (hProcessed : params.status = .processed)
      (hKnown : db.findRefund params.razorpayRefundId = some refund)
      (hRow : db.findTransaction (.id refund.paymentTransactionId) = some tx)
      (hNew : ¬ (tx.status = .refunded ∧ db.InvoicesVoid tx.id))
  | toRecord {params : SyncRefundFromWebhookParams} {razorpayPaymentId : String} {tx : PaymentTransaction}
      (hReported : input.ReportsRefund config params)
      (hUnknown : db.findRefund params.razorpayRefundId = none)
      (hPayment : truthy params.razorpayPaymentId = some razorpayPaymentId)
      (hRow : db.findTransaction (.razorpayPaymentId razorpayPaymentId) = some tx)
      (hFits : amountFits (params.amountPaise.getD tx.amountPaise) = true)

/-- A delivery that is accepted and answered without an error. -/
structure Handled (config : Config) (world : World) (input : HandleWebhookInput) (env : Env) : Prop where
  accepted : webhookAccepted config input = true
  answered : ∃ reply, (Request.result config { call := .handleWebhook input, env } world).1 = .ok reply

variable {config : Config} {db written : Database} {env : Env} {world : World} {tx : PaymentTransaction}
variable {input : HandleWebhookInput}

theorem sameRows_refl : db.SameRows db :=
  ⟨fun _ => rfl, fun _ => rfl, fun _ => rfl, fun _ => rfl, fun _ => rfl⟩

section Rows

variable {Row View : Type} [Record Row] {table final : Table Row} {view : Row → View}

theorem sameView_none (h : table.putAll [] = some final) (id : Nat) :
    (final.get? id).map view = (table.get? id).map view := by
  rw [← Option.some.inj h]

/-- A row that replaces one with the same view changes nothing to be seen. -/
theorem sameView_single {row old : Row} (h : table.putAll [row] = some final)
    (hOld : old ∈ table.rows) (hKey : Record.key row = Record.key old) (hView : view row = view old) (id : Nat) :
    (final.get? id).map view = (table.get? id).map view := by
  rw [Table.get?_put (Table.putAll_singleton.mp h)]
  by_cases hId : Record.key row = id
  · rw [if_pos hId, ← hId, hKey, Table.get?_key hOld, Option.map_some, Option.map_some, hView]
  · rw [if_neg hId]

end Rows

/-- Voiding the invoices of a transaction again changes nothing to be seen. -/
theorem sameView_voided {final : Table BillingInvoice} {now : Instant} (hVoid : db.InvoicesVoid tx.id)
    (h : db.invoices.putAll ((db.voidedInvoices tx.id now).filterMap Write.invoice?) = some final) (id : Uuid) :
    (final.get? id).map BillingInvoice.untimed = (db.invoices.get? id).map BillingInvoice.untimed := by
  have hKey (invoice : BillingInvoice) : Record.key (voidInvoice now invoice) = Record.key invoice := rfl
  rw [voidedInvoices_invoice?] at h
  rw [Table.get?_updateMany hKey h]
  cases hGet : db.invoices.get? id with
  | none => rfl
  | some invoice =>
      rw [Option.map_some, Option.map_some, Option.map_some]
      split
      · next hOwner =>
          obtain ⟨hStatus, hKey⟩ := hVoid invoice (Table.get?_eq_some.mp hGet).1 (by simpa using hOwner)
          simp only [voidInvoice, BillingInvoice.untimed]
          rw [← hStatus, ← hKey]
      · rfl

/-- A refund event whose refund is on record changes nothing to be seen. -/
theorem sameRows_of_synced {params : SyncRefundFromWebhookParams} {refund : PaymentRefund}
    (hRefund : refund ∈ db.refunds.rows) (hTx : tx ∈ db.transactions.rows)
    (hSynced : refund.status = params.status ∧ (truthy params.arn).or refund.arn = refund.arn)
    (hSettled : params.status = .processed → tx.status = .refunded ∧ db.InvoicesVoid tx.id)
    (hWritten : db.writeAll (.refund (syncedRefund params env.now refund) ::
      settlement db params.status tx env.now) = some written) : written.SameRows db := by
  have hTables := Database.written_of_writeAll hWritten
  have hRefunds := hTables.refunds
  have hSubscriptions := hTables.subscriptions
  have hOutbox := hTables.outbox
  have hInvoices : db.invoices.putAll ((settlement db params.status tx env.now).filterMap Write.invoice?) =
      some written.invoices := hTables.invoices
  rw [List.filterMap_cons, settlement_refund?] at hRefunds
  rw [List.filterMap_cons, settlement_subscription?] at hSubscriptions
  rw [List.filterMap_cons, settlement_outbox?] at hOutbox
  have hView : (syncedRefund params env.now refund).untimed = refund.untimed := by
    simp only [syncedRefund, PaymentRefund.untimed]
    rw [hSynced.2, ← hSynced.1]
  refine ⟨?_, sameView_single hRefunds hRefund rfl hView, sameView_none hSubscriptions, ?_, ?_⟩
  · have hRows : db.transactions.putAll (if params.status = .processed then [statusRow .refunded env.now tx]
        else []) = some written.transactions := by
      rw [← settlement_transaction?]
      exact hTables.transactions
    split at hRows
    · next hProcessed =>
        have hStatus : (statusRow .refunded env.now tx).untimed = tx.untimed := by
          simp only [statusRow, PaymentTransaction.untimed]
          rw [← (hSettled hProcessed).1]
        exact sameView_single hRows hTx rfl hStatus
    · exact sameView_none hRows
  · unfold settlement at hInvoices
    split at hInvoices
    · next hProcessed => exact sameView_voided (hSettled hProcessed).2 hInvoices
    · exact sameView_none hInvoices
  · intro id
    rw [← Option.some.inj hOutbox]

/-- What a webhook writes that finds no work changes nothing to be seen. -/
theorem Effect.sameRows {writes : List Write} (hEffect : Effect config db env (.handleWebhook input) writes)
    (hWritten : db.writeAll writes = some written) (hIdle : ¬ FindsWork config db env input) :
    written.SameRows db := by
  cases hEffect with
  | nothing call =>
      cases hWritten
      exact sameRows_refl
  | captured hCaptures hOpen =>
      have hFree := (captureWrites_accepted hCaptures.mem _ _).mp ⟨written, hWritten⟩
      exact absurd (.toCapture hCaptures hOpen hFree) hIdle
  | failed hReported hFood hOpen => exact absurd (.toFail hReported hFood hOpen) hIdle
  | @markedFailed _ entity tx hReported hPlain hOpen =>
      obtain ⟨orderId, _, hFound⟩ := hReported.found
      have hSame : tx.status = .failed ∧ tx.failureReason = some entity.failureReason := by
        by_contra hNew
        exact hIdle (.toMarkFailed hReported hPlain hOpen hNew)
      have hView : (markedFailedRow entity.failureReason env.now tx).untimed = tx.untimed := by
        simp only [markedFailedRow, PaymentTransaction.untimed]
        rw [← hSame.1, ← hSame.2]
      have hTables := Database.written_of_writeAll hWritten
      refine ⟨sameView_single hTables.transactions (Database.findTransaction_mem hFound) rfl hView,
        sameView_none hTables.refunds, sameView_none hTables.subscriptions, sameView_none hTables.invoices,
        fun id => ?_⟩
      rw [← Option.some.inj hTables.outbox]
  | activated hActivates hOpen =>
      obtain ⟨hFree, hReady⟩ := (activationWrites_accepted hActivates.mem _).mp ⟨written, hWritten⟩
      exact absurd (.toActivate ⟨hActivates, hOpen, hFree, hReady⟩) hIdle
  | @refundSynced _ params refund tx hReported hKnown hRow =>
      refine sameRows_of_synced (Table.lookup_mem hKnown).1 (Database.findTransaction_mem hRow) ?_ ?_ hWritten
      · by_contra hNew
        exact hIdle (.toSync hReported hKnown hNew)
      · intro hProcessed
        by_contra hNew
        exact hIdle (.toSettle hReported hProcessed hKnown hRow hNew)
  | refundRecorded hReported hUnknown hPayment hRow =>
      have hFits := ((exists_put_refund _).mp (exists_put_settled hWritten)).1
      exact absurd (.toRecord hReported hUnknown hPayment hRow hFits) hIdle

theorem sameRows_of_idle (hLinked : world.db.RefundsLinked) (hIdle : ¬ FindsWork config world.db env input) :
    (serve config world { call := .handleWebhook input, env }).db.SameRows world.db := by
  obtain ⟨writes, hEffect, hStore⟩ := @serve_effect config world hLinked { call := .handleWebhook input, env }
  rw [hStore]
  rcases world.db.store_cases writes with ⟨_, hSame⟩ | ⟨written, hWritten, hStored⟩
  · rw [hSame]
    exact sameRows_refl
  · rw [hStored]
    exact hEffect.sameRows hWritten hIdle

/-- A new outbox event is to be seen. -/
theorem outbox_apart {data : CreateOutboxEventInput} {writes : List Write}
    (hOutbox : writes.filterMap Write.outbox? = [db.outboxRow env data])
    (hAccepted : ∃ written, db.writeAll writes = some written) : ¬ (db.store writes).SameRows db := by
  intro hSame
  obtain ⟨written, hWritten⟩ := hAccepted
  have hTable := (Database.written_of_writeAll hWritten).outbox
  have hFresh : db.outbox.get? (db.outboxRow env data).id = none := Table.get?_freshKey
  rw [hOutbox] at hTable
  have hStored : written.outbox.get? (db.outboxRow env data).id = some (db.outboxRow env data) :=
    Table.get?_put_self (Table.putAll_singleton.mp hTable)
  have hGet := hSame.outbox (db.outboxRow env data).id
  rw [Database.store_of_writeAll hWritten, hFresh, hStored] at hGet
  cases hGet

/-- Settling a refund voids the invoices of its transaction. -/
theorem invoicesVoid_of_same {row : PaymentRefund} {now : Instant} (hTx : tx ∈ db.transactions.rows)
    (hPut : ∃ table, db.refunds.put row = some table)
    (hSame : (db.store (.refund row :: settlement db .processed tx now)).SameRows db) :
    db.InvoicesVoid tx.id := by
  obtain ⟨table, hTable⟩ := hPut
  obtain ⟨written, hWritten⟩ := settlement_accepted hTx hTable .processed now
  have hKey (invoice : BillingInvoice) : Record.key (voidInvoice now invoice) = Record.key invoice := rfl
  have hInvoices : db.invoices.putAll ((db.voidedInvoices tx.id now).filterMap Write.invoice?) =
      some written.invoices := (Database.written_of_writeAll hWritten).invoices
  rw [voidedInvoices_invoice?] at hInvoices
  rw [Database.store_of_writeAll hWritten] at hSame
  intro invoice hInvoice hOwner
  have hBefore : db.invoices.get? invoice.id = some invoice := Table.get?_key hInvoice
  have hView := hSame.invoices invoice.id
  rw [Table.get?_updateMany hKey hInvoices, hBefore, Option.map_some, if_pos (by simpa using hOwner)] at hView
  have hEqual : (voidInvoice now invoice).untimed = invoice.untimed := Option.some.inj hView
  have hStatus : InvoiceStatus.void = invoice.status := congrArg BillingInvoice.status hEqual
  have hDocument : none = invoice.invoicePdfKey := congrArg BillingInvoice.invoicePdfKey hEqual
  exact ⟨hStatus.symm, hDocument.symm⟩

/-- What a webhook makes of a transaction looks as before if all rows do. -/
theorem untimed_of_same {row : PaymentTransaction} (hTx : tx ∈ world.db.transactions.rows)
    (hChange : Change config world.db env (.handleWebhook input) tx row)
    (hSame : (serve config world { call := .handleWebhook input, env }).db.SameRows world.db) :
    row.untimed = tx.untimed := by
  have hBefore : world.db.transactions.get? tx.id = some tx := Table.get?_key hTx
  have hView := hSame.transactions tx.id
  rw [serve_of_change hTx hChange, if_pos rfl, hBefore] at hView
  exact Option.some.inj hView

/-- So does what it makes of a known refund. -/
theorem refund_untimed_of_same {params : SyncRefundFromWebhookParams} {refund : PaymentRefund}
    (hReported : input.ReportsRefund config params)
    (hKnown : world.db.findRefund params.razorpayRefundId = some refund)
    (hRow : world.db.findTransaction (.id refund.paymentTransactionId) = some tx)
    (hSame : (serve config world { call := .handleWebhook input, env }).db.SameRows world.db) :
    (syncedRefund params env.now refund).untimed = refund.untimed := by
  have hMem := (Table.lookup_mem hKnown).1
  obtain ⟨hRefunds, _⟩ := @settlement_next world.db tx (syncedRefund params env.now refund) params.status
    env.now hReported.status (Database.findTransaction_mem hRow) (exists_put_synced hMem params env.now)
  have hBefore : world.db.refunds.get? refund.id = some refund := Table.get?_key hMem
  have hAfter := Table.get?_put_self hRefunds
  have hView := hSame.refunds refund.id
  rw [serve_refundSynced hReported hKnown hRow, hBefore] at hView
  exact Option.some.inj ((congrArg (Option.map PaymentRefund.untimed) hAfter).symm.trans hView)

/-- Work that a webhook finds is to be seen when it is done. -/
theorem FindsWork.apart (hLinked : world.db.RefundsLinked) (h : FindsWork config world.db env input) :
    ¬ (serve config world { call := .handleWebhook input, env }).db.SameRows world.db := by
  cases h with
  | @toCapture tx params event hCaptures hOpen hFree =>
      rw [serve_of_captures hCaptures hOpen]
      exact outbox_apart rfl ((captureWrites_accepted hCaptures.mem params event).mpr hFree)
  | toActivate hBuys =>
      rw [serve_of_activates hBuys.activates hBuys.open_]
      exact outbox_apart (activationWrites_outbox? _) hBuys.accepted
  | @toFail entity tx foodOrderId hReported hFood hOpen =>
      obtain ⟨orderId, _, hFound⟩ := hReported.found
      rw [serve_failed hReported hFood hOpen]
      exact outbox_apart rfl (failureWrites_accepted (Database.findTransaction_mem hFound) entity foodOrderId)
  | @toMarkFailed entity tx hReported hPlain hOpen hNew =>
      intro hSame
      obtain ⟨orderId, _, hFound⟩ := hReported.found
      have hEqual : (markedFailedRow entity.failureReason env.now tx).untimed = tx.untimed :=
        untimed_of_same (Database.findTransaction_mem hFound) (.markedFailed hReported hPlain hOpen) hSame
      have hStatus : PaymentStatus.failed = tx.status := congrArg PaymentTransaction.status hEqual
      have hReason : some entity.failureReason = tx.failureReason :=
        congrArg PaymentTransaction.failureReason hEqual
      exact hNew ⟨hStatus.symm, hReason.symm⟩
  | @toSync params refund hReported hKnown hNew =>
      intro hSame
      obtain ⟨tx, hRow⟩ := hLinked refund (Table.lookup_mem hKnown).1
      have hEqual := refund_untimed_of_same hReported hKnown hRow hSame
      have hStatus : params.status = refund.status := congrArg PaymentRefund.status hEqual
      have hArn : (truthy params.arn).or refund.arn = refund.arn := congrArg PaymentRefund.arn hEqual
      exact hNew ⟨hStatus.symm, hArn⟩
  | @toSettle params refund tx hReported hProcessed hKnown hRow hNew =>
      intro hSame
      have hMem := (Table.lookup_mem hKnown).1
      have hTx := Database.findTransaction_mem hRow
      have hEqual : (statusRow .refunded env.now tx).untimed = tx.untimed :=
        untimed_of_same hTx (.settled hReported hProcessed (Or.inl ⟨refund, hKnown, hRow⟩)) hSame
      have hStatus : PaymentStatus.refunded = tx.status := congrArg PaymentTransaction.status hEqual
      rw [serve_refundSynced hReported hKnown hRow, hProcessed] at hSame
      exact hNew ⟨hStatus.symm, invoicesVoid_of_same hTx (exists_put_synced hMem params env.now) hSame⟩
  | @toRecord params razorpayPaymentId tx hReported hUnknown hPayment hRow hFits =>
      intro hSame
      obtain ⟨hRefunds, _⟩ := @settlement_next world.db tx
        (world.db.refundRow env (reportedRefund params tx env.now)) params.status env.now hReported.status
        (Database.findTransaction_mem hRow)
        ((exists_put_refund (reportedRefund params tx env.now)).mpr ⟨hFits, hUnknown⟩)
      have hFresh : world.db.refunds.get? (world.db.refundRow env (reportedRefund params tx env.now)).id = none :=
        Table.get?_freshKey
      have hAfter := Table.get?_put_self hRefunds
      have hView := hSame.refunds (world.db.refundRow env (reportedRefund params tx env.now)).id
      rw [serve_refundRecorded hReported hUnknown hPayment hRow, hFresh] at hView
      have hEqual := (congrArg (Option.map PaymentRefund.untimed) hAfter).symm.trans hView
      cases hEqual

/-- A webhook leaves all rows as they are exactly when it finds no work. -/
theorem sameRows_iff (hLinked : world.db.RefundsLinked) :
    (serve config world { call := .handleWebhook input, env }).db.SameRows world.db ↔
      ¬ FindsWork config world.db env input :=
  ⟨fun hSame hWork => hWork.apart hLinked hSame, sameRows_of_idle hLinked⟩

/-- What holds of every later delivery of a webhook that was handled in the run,
in each state in which it can arrive. -/
def AtRedeliveries (config : Config) (plans : Table SubscriptionPlan) (requests : List Request)
    (C : World → HandleWebhookInput → Env → Prop) : Prop :=
  ∀ past later input env, past ++ { call := .handleWebhook input, env } :: later <+: requests →
    Handled config (run (serve config) (World.initial plans) past) input env →
      ∀ again, C (run (serve config) (World.initial plans) (past ++ { call := .handleWebhook input, env } :: later))
        input again

/-- A second delivery of the webhook leaves all rows as they are. -/
def RedeliveryIsNoOp (config : Config) (world : World) (input : HandleWebhookInput) (again : Env) : Prop :=
  (serve config world { call := .handleWebhook input, env := again }).db.SameRows world.db

/-- Second deliveries are no-ops in exactly those runs in which none of them
finds any work. -/
theorem redeliveryIsNoOp_iff (config : Config) (plans : Table SubscriptionPlan) (requests : List Request) :
    AtRedeliveries config plans requests (RedeliveryIsNoOp config) ↔
      AtRedeliveries config plans requests fun world input again =>
        ¬ FindsWork config world.db again input := by
  have hReach (past : List Request) : (run (serve config) (World.initial plans) past).db.RefundsLinked :=
    run_invariant (fun world : World => world.db.RefundsLinked)
      (fun _ request hLinked => serve_refundsLinked request hLinked) (refundsLinked_initial plans) past
  constructor
  · intro h past later input env hPrefix hHandled again
    exact (sameRows_iff (hReach _)).mp (h past later input env hPrefix hHandled again)
  · intro h past later input env hPrefix hHandled again
    exact (sameRows_iff (hReach _)).mpr (h past later input env hPrefix hHandled again)

/-- The payment of an order is reported and then refunded. -/
def reportedAndRefunded : List Request :=
  [Sample.createOrderPayment 1000 7 50000 Sample.price_pos "order_1", Sample.captured 2000,
    Sample.processOrderRefund 3000 7 "rfnd_1" "processed"]

/-- The second delivery of the report captures the refunded payment again. -/
theorem redeliveryIsNoOp_fails :
    ¬ ∀ config plans requests, AtRedeliveries config plans requests (RedeliveryIsNoOp config) := by
  intro h
  have hHandled : Handled Sample.config
      (run (serve Sample.config) (World.initial Table.empty) (reportedAndRefunded.take 1))
      (Sample.signedInput Sample.capturedBody (Sample.paymentPayload .paymentCaptured "order_1" "pay_1"))
      (Sample.env 2000) := ⟨by decide, .webhook { received := true }, rfl⟩
  have hSame := h Sample.config Table.empty reportedAndRefunded (reportedAndRefunded.take 1)
    (reportedAndRefunded.drop 2) _ _ List.prefix_rfl hHandled (Sample.env 4000)
  exact absurd (hSame.transactions 0) (by decide)

end SpotqPayment
