import SpotqPayment.Application.Ports

/-! What each repository call does to the database when it runs alone: the rows
it reads decide between an error and one list of writes. -/
namespace SpotqPayment

open Process Engine

namespace Database

variable {db written : Database}

theorem write_transaction_eq_some {row : PaymentTransaction} :
    db.write (.transaction row) = some written ↔
      ∃ table, db.transactions.put row = some table ∧ { db with transactions := table } = written := by
  rw [write]
  exact Option.map_eq_some_iff

theorem write_refund_eq_some {row : PaymentRefund} :
    db.write (.refund row) = some written ↔
      ∃ table, db.refunds.put row = some table ∧ { db with refunds := table } = written := by
  rw [write]
  exact Option.map_eq_some_iff

theorem write_subscription_eq_some {row : Subscription} :
    db.write (.subscription row) = some written ↔
      ∃ table, db.subscriptions.put row = some table ∧ { db with subscriptions := table } = written := by
  rw [write]
  exact Option.map_eq_some_iff

theorem write_invoice_eq_some {row : BillingInvoice} :
    db.write (.invoice row) = some written ↔
      ∃ table, db.invoices.put row = some table ∧ { db with invoices := table } = written := by
  rw [write]
  exact Option.map_eq_some_iff

theorem write_outbox_eq_some {row : OutboxEvent} :
    db.write (.outbox row) = some written ↔
      ∃ table, db.outbox.put row = some table ∧ { db with outbox := table } = written := by
  rw [write]
  exact Option.map_eq_some_iff

theorem write_transaction {row : PaymentTransaction} (h : db.writeAll [.transaction row] = some written) :
    ∃ table, db.transactions.put row = some table ∧ { db with transactions := table } = written := by
  rw [writeAll, applyAll_singleton] at h
  exact write_transaction_eq_some.mp h

theorem write_refund {row : PaymentRefund} (h : db.writeAll [.refund row] = some written) :
    ∃ table, db.refunds.put row = some table ∧ { db with refunds := table } = written := by
  rw [writeAll, applyAll_singleton] at h
  exact write_refund_eq_some.mp h

theorem write_subscription {row : Subscription} (h : db.writeAll [.subscription row] = some written) :
    ∃ table, db.subscriptions.put row = some table ∧ { db with subscriptions := table } = written := by
  rw [writeAll, applyAll_singleton] at h
  exact write_subscription_eq_some.mp h

theorem write_invoice {row : BillingInvoice} (h : db.writeAll [.invoice row] = some written) :
    ∃ table, db.invoices.put row = some table ∧ { db with invoices := table } = written := by
  rw [writeAll, applyAll_singleton] at h
  exact write_invoice_eq_some.mp h

theorem write_outbox {row : OutboxEvent} (h : db.writeAll [.outbox row] = some written) :
    ∃ table, db.outbox.put row = some table ∧ { db with outbox := table } = written := by
  rw [writeAll, applyAll_singleton] at h
  exact write_outbox_eq_some.mp h

theorem findTransaction_mem {key : TransactionKey} {tx : PaymentTransaction}
    (h : db.findTransaction key = some tx) : tx ∈ db.transactions.rows := by
  cases key with
  | id id => exact (Table.get?_eq_some.mp h).1
  | razorpayOrderId value => exact (Table.lookup_mem h).1
  | razorpayPaymentId value => exact (Table.lookup_mem h).1

theorem findTransaction_orderId {value : String} {tx : PaymentTransaction}
    (h : db.findTransaction (.razorpayOrderId value) = some tx) : tx.razorpayOrderId = value :=
  Option.some.inj (Table.lookup_mem h).2

/-- Every stored transaction is found by its gateway order. -/
theorem findTransaction_of_mem {tx : PaymentTransaction} (h : tx ∈ db.transactions.rows) :
    db.findTransaction (.razorpayOrderId tx.razorpayOrderId) = some tx :=
  (Table.lookup_eq_some List.mem_cons_self).mpr ⟨h, rfl⟩

theorem findTransaction_id {tx : PaymentTransaction} (h : tx ∈ db.transactions.rows) :
    db.findTransaction (.id tx.id) = some tx := Table.get?_key h

/-- Gateway orders name at most one transaction. -/
theorem id_eq_of_orderId {first second : PaymentTransaction} (hFirst : first ∈ db.transactions.rows)
    (hSecond : second ∈ db.transactions.rows) (h : first.razorpayOrderId = second.razorpayOrderId) :
    first.id = second.id :=
  db.transactions.unique _ List.mem_cons_self first hFirst second hSecond (congrArg some h) nofun

/-- A payment id belongs to one transaction. -/
theorem eq_of_paymentId {first second : PaymentTransaction} {paymentId : String}
    (hFirst : first ∈ db.transactions.rows) (hSecond : second ∈ db.transactions.rows)
    (hFirstId : first.razorpayPaymentId = some paymentId)
    (hSecondId : second.razorpayPaymentId = some paymentId) :
    first = second := by
  have hKey := db.transactions.unique PaymentTransaction.razorpayPaymentId (by simp [Record.unique])
    first hFirst second hSecond (hFirstId.trans hSecondId.symm) (by simp [hFirstId])
  exact Table.eq_of_key hFirst hSecond hKey

/-- The row that inserting an outbox event adds. -/
def outboxRow (db : Database) (env : Env) (data : CreateOutboxEventInput) : OutboxEvent :=
  data.toRow (db.outbox.freshKey env.uuidFloor) env.now

def transactionRow (db : Database) (env : Env) (data : CreatePaymentTransactionInput) :
    PaymentTransaction :=
  data.toRow (db.transactions.freshKey env.uuidFloor) env.now

def refundRow (db : Database) (env : Env) (data : CreateRefundInput) : PaymentRefund :=
  data.toRow (db.refunds.freshKey env.uuidFloor) env.now

def subscriptionRow (db : Database) (env : Env) (data : CreateSubscriptionInput) : Subscription :=
  data.toRow (db.subscriptions.freshKey env.uuidFloor) env.now

def invoiceRow (db : Database) (env : Env) (data : CreateBillingInvoiceInput) : BillingInvoice :=
  data.toRow (db.invoices.freshKey env.uuidFloor) env.now

/-- The invoice writes of a refund of the transaction. -/
def voidedInvoices (db : Database) (transactionId : Uuid) (now : Instant) : List Write :=
  (db.invoices.rows.filter fun invoice => invoice.paymentTransactionId = some transactionId).map
    fun invoice => .invoice (PaymentTransactionRepository.voidInvoice now invoice)

end Database

variable {Value : Type} {env : Env} {db : Database}

theorem eval_createOutboxEvent (data : CreateOutboxEventInput) :
    (engine env).eval (.createOutboxEvent data) db =
      .ok (db.outboxRow env data, [.outbox (db.outboxRow env data)]) := rfl

theorem eval_createTransaction (data : CreatePaymentTransactionInput) :
    (engine env).eval (.createTransaction data) db =
      .ok (db.transactionRow env data, [.transaction (db.transactionRow env data)]) := rfl

theorem eval_createRefund (data : CreateRefundInput) :
    (engine env).eval (.createRefund data) db =
      .ok (db.refundRow env data, [.refund (db.refundRow env data)]) := rfl

theorem eval_createSubscription (data : CreateSubscriptionInput) :
    (engine env).eval (.createSubscription data) db =
      .ok (db.subscriptionRow env data, [.subscription (db.subscriptionRow env data)]) := rfl

theorem eval_createInvoice (data : CreateBillingInvoiceInput) :
    (engine env).eval (.createInvoice data) db =
      .ok (db.invoiceRow env data, [.invoice (db.invoiceRow env data)]) := rfl

theorem eval_updateTransaction {key : TransactionKey} {row : PaymentTransaction}
    (h : db.findTransaction key = some row) (data : PaymentTransaction → PaymentTransaction) :
    (engine env).eval (.updateTransaction key data) db =
      .ok (data row, [.transaction (data row)]) := by
  simp only [engine, Statement.eval, h]

theorem eval_updateTransaction_missing {key : TransactionKey} (h : db.findTransaction key = none)
    (data : PaymentTransaction → PaymentTransaction) :
    (engine env).eval (.updateTransaction key data) db = .error .recordNotFound := by
  simp only [engine, Statement.eval, h]

namespace PaymentTransactionRepository

/-- The update by id and the event that both outcomes of a payment consist of. -/
theorem writes_outcome {id : Uuid} {row : PaymentTransaction}
    (hRow : db.findTransaction (.id id) = some row) (data : PaymentTransaction → PaymentTransaction)
    (event : CreateOutboxEventInput) :
    (engine env).Writes
      (query (.updateTransaction (.id id) data) >>= fun updated =>
        query (.createOutboxEvent event) >>= fun _ => .ret updated) db (data row)
      [.transaction (data row), .outbox (db.outboxRow env event)] := by
  refine Writes.write (eval_updateTransaction hRow data) fun written hWritten => ?_
  obtain ⟨table, _, rfl⟩ := Database.write_transaction hWritten
  exact Writes.write_ret (eval_createOutboxEvent event) (data row)

theorem captureOrderPaymentWithOutbox_writes {params : CaptureOrderPaymentWithOutboxParams}
    {row : PaymentTransaction} (hRow : db.findTransaction (.id params.transaction.id) = some row)
    (hOpen : row.status ≠ .captured) :
    (engine env).Writes (captureOrderPaymentWithOutbox params) db (capturedRow params.transaction row)
      [.transaction (capturedRow params.transaction row), .outbox (db.outboxRow env params.outbox)] := by
  refine Writes.read rfl ?_
  simp only [hRow, if_neg hOpen]
  exact writes_outcome hRow (capturedRow params.transaction) params.outbox

theorem failOrderPaymentWithOutbox_writes {params : FailOrderPaymentWithOutboxParams}
    {row : PaymentTransaction} (hRow : db.findTransaction (.id params.transaction.id) = some row)
    (hOpen : ¬ (row.status = .captured ∨ row.status = .success ∨ row.status = .failed)) :
    (engine env).Writes (failOrderPaymentWithOutbox params) db (failedRow params.transaction row)
      [.transaction (failedRow params.transaction row), .outbox (db.outboxRow env params.outbox)] := by
  refine Writes.read rfl ?_
  simp only [hRow, if_neg hOpen]
  exact writes_outcome hRow (failedRow params.transaction) params.outbox

theorem failOrderPaymentWithOutbox_idle {params : FailOrderPaymentWithOutboxParams}
    {row : PaymentTransaction} (hRow : db.findTransaction (.id params.transaction.id) = some row)
    (hClosed : row.status = .captured ∨ row.status = .success ∨ row.status = .failed) :
    (engine env).Writes (failOrderPaymentWithOutbox params) db row [] := by
  refine Writes.read rfl ?_
  simp only [hRow, if_pos hClosed]
  exact Writes.ret row

theorem eval_voidInvoices (transactionId : Uuid) (now : Instant) :
    (engine env).eval (.updateManyInvoices
        (fun invoice => invoice.paymentTransactionId = some transactionId) (voidInvoice now)) db =
      .ok ((db.voidedInvoices transactionId now).length, db.voidedInvoices transactionId now) := by
  simp [engine, Statement.eval, Database.voidedInvoices]

/-- The refund that a request of the service records. -/
def requestedRefund (params : ProcessOrderRefundParams) (now : Instant) : CreateRefundInput where
  paymentTransactionId := params.transaction.id
  razorpayRefundId := params.refund.razorpayRefundId
  amountPaise := params.refund.amountPaise
  currency := params.refund.currency
  status := params.refund.status
  reason := params.refund.reason
  arn := params.refund.arn
  paymentMethod := params.refund.paymentMethod
  processedAt := if params.refund.status = .processed then some now else none

theorem processOrderRefund_writes {params : ProcessOrderRefundParams} {row : PaymentTransaction}
    {now : Instant} (hRow : db.findTransaction (.id params.transaction.id) = some row)
    (hOpen : row.status ≠ .refunded) :
    (engine env).Writes (processOrderRefund params now) db
      (statusRow params.transaction.status params.transaction.updatedAt row,
        db.refundRow env (requestedRefund params now))
      ([.transaction (statusRow params.transaction.status params.transaction.updatedAt row),
        .refund (db.refundRow env (requestedRefund params now))] ++
        db.voidedInvoices params.transaction.id now) := by
  refine Writes.read rfl ?_
  simp only [hRow, if_neg hOpen]
  refine Writes.write (eval_updateTransaction hRow _) fun written hWritten => ?_
  obtain ⟨transactions, _, rfl⟩ := Database.write_transaction hWritten
  refine Writes.write (eval_createRefund (requestedRefund params now)) fun written hWritten => ?_
  obtain ⟨refunds, _, rfl⟩ := Database.write_refund hWritten
  exact Writes.write_ret (eval_voidInvoices params.transaction.id now) _

/-- What a refund event writes besides the refund: a processed refund closes the
transaction and its invoices. -/
def settlement (db : Database) (status : RefundStatus) (row : PaymentTransaction) (now : Instant) :
    List Write :=
  if status = .processed then
    .transaction (statusRow .refunded now row) :: db.voidedInvoices row.id now
  else []

theorem settle_writes {status : RefundStatus} {id : Uuid} {row : PaymentTransaction} {now : Instant}
    (hRow : db.findTransaction (.id id) = some row) :
    (engine env).Writes (if status = .processed then settleRefund id now else return ()) db ()
      (settlement db status row now) := by
  have hId : row.id = id := (Table.get?_eq_some.mp hRow).2
  unfold settlement
  split
  · rw [hId]
    refine Writes.write (eval_updateTransaction hRow _) fun written hWritten => ?_
    obtain ⟨table, _, rfl⟩ := Database.write_transaction hWritten
    exact Writes.write_ret (eval_voidInvoices id now) ()
  · exact Writes.ret ()

/-- The refund that a webhook records when the service does not know it. -/
def reportedRefund (params : SyncRefundFromWebhookParams) (txRecord : PaymentTransaction)
    (now : Instant) : CreateRefundInput where
  paymentTransactionId := txRecord.id
  razorpayRefundId := params.razorpayRefundId
  amountPaise := params.amountPaise.getD txRecord.amountPaise
  currency := params.currency.getD txRecord.currency
  status := params.status
  reason := params.reason
  arn := params.arn
  paymentMethod := some ((PaymentTransaction.methodOf txRecord.metadata).getD defaultPaymentMethod)
  processedAt := if params.status = .processed then some now else none

theorem eval_updateRefund {refund : PaymentRefund} (h : refund ∈ db.refunds.rows)
    (data : PaymentRefund → PaymentRefund) :
    (engine env).eval (.updateRefund refund.id data) db =
      .ok (data refund, [.refund (data refund)]) := by
  have hRow : db.refunds.get? refund.id = some refund := Table.get?_key h
  simp only [engine, Statement.eval, hRow]

theorem syncRefundFromWebhook_known {params : SyncRefundFromWebhookParams} {refund : PaymentRefund}
    {row : PaymentTransaction} {now : Instant}
    (hRefund : db.findRefund params.razorpayRefundId = some refund)
    (hRow : db.findTransaction (.id refund.paymentTransactionId) = some row) :
    (engine env).Writes (syncRefundFromWebhook params now) db ()
      (.refund (syncedRefund params now refund) ::
        settlement db params.status row now) := by
  refine Writes.read rfl ?_
  simp only [hRefund]
  refine Writes.write (eval_updateRefund (Table.lookup_mem hRefund).1 _) fun written hWritten => ?_
  obtain ⟨table, _, rfl⟩ := Database.write_refund hWritten
  exact settle_writes hRow

theorem syncRefundFromWebhook_unknown {params : SyncRefundFromWebhookParams}
    {razorpayPaymentId : String} {row : PaymentTransaction} {now : Instant}
    (hRefund : db.findRefund params.razorpayRefundId = none)
    (hPayment : truthy params.razorpayPaymentId = some razorpayPaymentId)
    (hRow : db.findTransaction (.razorpayPaymentId razorpayPaymentId) = some row) :
    (engine env).Writes (syncRefundFromWebhook params now) db ()
      (.refund (db.refundRow env (reportedRefund params row now)) ::
        settlement db params.status row now) := by
  refine Writes.read rfl ?_
  simp only [hRefund, hPayment]
  refine Writes.read rfl ?_
  simp only [hRow]
  refine Writes.write (eval_createRefund (reportedRefund params row now)) fun written hWritten => ?_
  obtain ⟨table, _, rfl⟩ := Database.write_refund hWritten
  have hId : db.findTransaction (.id row.id) = some row :=
    Database.findTransaction_id (Database.findTransaction_mem hRow)
  exact settle_writes hId

/-- Without a known refund or a known payment the event is dropped. -/
theorem syncRefundFromWebhook_idle {params : SyncRefundFromWebhookParams} {now : Instant}
    (hRefund : db.findRefund params.razorpayRefundId = none)
    (hPayment : ∀ razorpayPaymentId, truthy params.razorpayPaymentId = some razorpayPaymentId →
      db.findTransaction (.razorpayPaymentId razorpayPaymentId) = none) :
    (engine env).Writes (syncRefundFromWebhook params now) db () [] := by
  refine Writes.read rfl ?_
  simp only [hRefund]
  cases hId : truthy params.razorpayPaymentId with
  | none => exact Writes.ret ()
  | some razorpayPaymentId =>
      refine Writes.read rfl ?_
      simp only [hPayment razorpayPaymentId hId]
      exact Writes.ret ()

end PaymentTransactionRepository

namespace SubscriptionRepository

/-- The transaction after the compare-and-set of an activation, which leaves a
SUCCESS row alone. -/
def claimedRow (payment : ActivationPayment) (now : Instant) (row : PaymentTransaction) :
    PaymentTransaction :=
  if row.status = .success then row else paidRow payment now row

/-- The transaction at the end of an activation. -/
def activatedRow (payment : ActivationPayment) (subscriptionId : Uuid) (now : Instant)
    (row : PaymentTransaction) : PaymentTransaction :=
  { claimedRow payment now row with subscriptionId := some subscriptionId, updatedAt := now }

def claimWrites (payment : ActivationPayment) (now : Instant) (row : PaymentTransaction) : List Write :=
  if row.status = .success then [] else [.transaction (paidRow payment now row)]

/-- The invoice of an activation: that of the transaction, or a new one. -/
def activationInvoice (db : Database) (env : Env) (params : ActivateSubscriptionWithOutboxParams)
    (row : PaymentTransaction) (subscriptionId : Uuid) (invoiceNumber : String) (now : Instant) :
    BillingInvoice :=
  match db.invoices.findFirst env.tie (fun _ => 0)
      (fun invoice => invoice.paymentTransactionId = some row.id) with
  | some invoice =>
      { invoice with
        subscriptionId := some subscriptionId, status := .paid, paidAt := some now, updatedAt := now }
  | none => db.invoiceRow env {
      restaurantId := params.subscription.restaurantId
      subscriptionId := some subscriptionId
      paymentTransactionId := some row.id
      invoiceNumber := invoiceNumber
      amountPaise := row.amountPaise
      currency := row.currency
      status := .paid
      paidAt := some now }

/-- The event of an activation, with the new subscription in its payload. -/
def activationEvent (params : ActivateSubscriptionWithOutboxParams) (subscriptionId : Uuid) :
    CreateOutboxEventInput :=
  { params.outbox with payload := withSubscriptionId params.outbox.payload subscriptionId }

/-- Everything an activation writes after its compare-and-set. -/
def openingWrites (db : Database) (env : Env) (params : ActivateSubscriptionWithOutboxParams)
    (row : PaymentTransaction) (invoiceNumber : String) (now : Instant) : List Write :=
  let subscription := db.subscriptionRow env params.subscription
  [.subscription subscription, .transaction (activatedRow params.payment subscription.id now row),
    .invoice (activationInvoice db env params row subscription.id invoiceNumber now),
    .outbox (db.outboxRow env (activationEvent params subscription.id))]

theorem eval_updateInvoice {invoice : BillingInvoice} (h : invoice ∈ db.invoices.rows)
    (data : BillingInvoice → BillingInvoice) :
    (engine env).eval (.updateInvoice invoice.id data) db =
      .ok (data invoice, [.invoice (data invoice)]) := by
  have hRow : db.invoices.get? invoice.id = some invoice := Table.get?_key h
  simp only [engine, Statement.eval, hRow]

theorem recordInvoice_writes (params : ActivateSubscriptionWithOutboxParams)
    (row : PaymentTransaction) (subscriptionId : Uuid) (invoiceNumber : String) (now : Instant) :
    (engine env).Writes (recordInvoice params (some row) subscriptionId invoiceNumber now) db ()
      [.invoice (activationInvoice db env params row subscriptionId invoiceNumber now)] := by
  refine Writes.read rfl ?_
  unfold activationInvoice
  cases hFind : db.invoices.findFirst env.tie (fun _ => 0)
      (fun invoice => invoice.paymentTransactionId = some row.id) with
  | none => exact Writes.write_ret (eval_createInvoice _) ()
  | some invoice => exact Writes.write_ret (eval_updateInvoice (Table.findFirst_some hFind).1 _) ()

/-- The last part of an activation, from a state in which the row is claimed. -/
theorem openSubscription_writes {params : ActivateSubscriptionWithOutboxParams}
    {row : PaymentTransaction} {invoiceNumber : String} {now : Instant}
    (hRow : db.findTransaction (.razorpayOrderId params.payment.razorpayOrderId) =
      some (claimedRow params.payment now row)) :
    (engine env).Writes (openSubscription params (some row) invoiceNumber now) db
      (db.subscriptionRow env params.subscription)
      (openingWrites db env params row invoiceNumber now) := by
  refine Writes.write (eval_createSubscription params.subscription) fun written hWritten => ?_
  obtain ⟨subscriptions, _, rfl⟩ := Database.write_subscription hWritten
  have hStill : { db with subscriptions := subscriptions }.findTransaction
      (.razorpayOrderId params.payment.razorpayOrderId) = some (claimedRow params.payment now row) := hRow
  refine Writes.write (eval_updateTransaction hStill _) fun written hWritten => ?_
  obtain ⟨transactions, _, rfl⟩ := Database.write_transaction hWritten
  refine (recordInvoice_writes params row _ invoiceNumber now).bind fun written hWritten => ?_
  obtain ⟨invoices, _, rfl⟩ := Database.write_invoice hWritten
  exact Writes.write_ret (eval_createOutboxEvent _) _

/-- Looking for the linked subscription finds nothing when none is stored. -/
theorem linkedSubscription_none {tx : Option PaymentTransaction}
    (hNone : ∀ id, tx.bind (·.subscriptionId) = some id → db.subscriptions.get? id = none)
    {next : Option Subscription → Repository Value} {value : Value} {writes : List Write}
    (hNext : (engine env).Writes (next none) db value writes) :
    (engine env).Writes (linkedSubscription tx >>= next) db value writes := by
  unfold linkedSubscription
  cases hLink : tx.bind (·.subscriptionId) with
  | none => exact hNext
  | some id =>
      refine Writes.read rfl ?_
      rw [hNone id hLink]
      exact hNext

/-- The compare-and-set reaches the row of the gateway order unless it is SUCCESS. -/
theorem eval_claim {payment : ActivationPayment} {row : PaymentTransaction} {now : Instant}
    (hRow : db.findTransaction (.razorpayOrderId payment.razorpayOrderId) = some row) :
    (engine env).eval (.updateManyTransactions
        (fun row => row.razorpayOrderId = payment.razorpayOrderId && row.status ≠ .success)
        (paidRow payment now)) db =
      .ok (if row.status = .success then 0 else 1, claimWrites payment now row) := by
  have hMem := Database.findTransaction_mem hRow
  have hOrder := Database.findTransaction_orderId hRow
  have hOnly : ∀ other ∈ db.transactions.rows,
      other.razorpayOrderId = payment.razorpayOrderId → other = row := fun other hOther hSame =>
    Table.eq_of_key hOther hMem (Database.id_eq_of_orderId hOther hMem (hSame.trans hOrder.symm))
  by_cases hStatus : row.status = .success
  · have hNone : db.transactions.rows.filter
        (fun row => row.razorpayOrderId = payment.razorpayOrderId && row.status ≠ .success) = [] := by
      rw [List.filter_eq_nil_iff]
      intro other hOther hMatch
      simp only [Bool.and_eq_true, decide_eq_true_eq] at hMatch
      exact hMatch.2 (hOnly other hOther hMatch.1 ▸ hStatus)
    simp only [engine, Statement.eval, claimWrites, hNone, if_pos hStatus, List.length_nil, List.map_nil]
  · have hOne : db.transactions.rows.filter
        (fun row => row.razorpayOrderId = payment.razorpayOrderId && row.status ≠ .success) = [row] := by
      refine Table.filter_eq_singleton hMem (by simp [hOrder, hStatus]) fun other hOther hMatch => ?_
      simp only [Bool.and_eq_true, decide_eq_true_eq] at hMatch
      rw [hOnly other hOther hMatch.1]
    simp only [engine, Statement.eval, claimWrites, hOne, if_neg hStatus, List.length_singleton,
      List.map_singleton]

/-- After the compare-and-set the gateway order names the claimed row. -/
theorem findTransaction_claimed {payment : ActivationPayment} {row : PaymentTransaction}
    {now : Instant} {written : Database}
    (hRow : db.findTransaction (.razorpayOrderId payment.razorpayOrderId) = some row)
    (hWritten : db.writeAll (claimWrites payment now row) = some written) :
    ∃ table, { db with transactions := table } = written ∧
      written.findTransaction (.razorpayOrderId payment.razorpayOrderId) =
        some (claimedRow payment now row) := by
  by_cases hStatus : row.status = .success
  · rw [claimWrites, if_pos hStatus] at hWritten
    rw [claimedRow, if_pos hStatus]
    cases hWritten
    exact ⟨db.transactions, rfl, hRow⟩
  · rw [claimWrites, if_neg hStatus] at hWritten
    rw [claimedRow, if_neg hStatus]
    obtain ⟨table, hPut, rfl⟩ := Database.write_transaction hWritten
    have hMem : paidRow payment now row ∈ { db with transactions := table }.transactions.rows :=
      (Table.mem_put hPut).mpr (Or.inl rfl)
    have hOrder : row.razorpayOrderId = payment.razorpayOrderId := Database.findTransaction_orderId hRow
    refine ⟨table, rfl, ?_⟩
    rw [← hOrder]
    exact Database.findTransaction_of_mem hMem

/-- What `linkedSubscription` looks for, given the row of the gateway order. -/
theorem paid_link {row : PaymentTransaction} {id : Uuid}
    (h : ((some row).filter fun tx => tx.status = .success).bind (·.subscriptionId) = some id) :
    row.status = .success ∧ row.subscriptionId = some id := by
  by_cases hStatus : row.status = .success
  · rw [Option.filter_some, if_pos (decide_eq_true hStatus)] at h
    exact ⟨hStatus, h⟩
  · rw [Option.filter_some, if_neg (by simpa using hStatus)] at h
    cases h

theorem activateSubscriptionWithOutbox_writes {params : ActivateSubscriptionWithOutboxParams}
    {row : PaymentTransaction} {invoiceNumber : String} {now : Instant}
    (hRow : db.findTransaction (.razorpayOrderId params.payment.razorpayOrderId) = some row)
    (hNew : row.status = .success →
      ∀ id, row.subscriptionId = some id → db.subscriptions.get? id = none) :
    (engine env).Writes (activateSubscriptionWithOutbox params invoiceNumber now) db
      (db.subscriptionRow env params.subscription)
      (claimWrites params.payment now row ++ openingWrites db env params row invoiceNumber now) := by
  refine Writes.read rfl ?_
  rw [hRow]
  refine linkedSubscription_none (fun id hLink => hNew (paid_link hLink).1 id (paid_link hLink).2) ?_
  refine Writes.write (eval_claim hRow) fun written hWritten => ?_
  obtain ⟨table, rfl, hClaimed⟩ := findTransaction_claimed hRow hWritten
  by_cases hStatus : row.status = .success
  · simp only [if_pos hStatus]
    refine Writes.read rfl ?_
    rw [hClaimed]
    refine linkedSubscription_none ?_ (openSubscription_writes hClaimed)
    intro id hLink
    rw [claimedRow, if_pos hStatus] at hLink
    exact hNew hStatus id hLink
  · simp only [if_neg hStatus]
    exact openSubscription_writes hClaimed

/-- A transaction that is SUCCESS and linked to a stored subscription keeps it. -/
theorem activateSubscriptionWithOutbox_idle {params : ActivateSubscriptionWithOutboxParams}
    {row : PaymentTransaction} {id : Uuid} {subscription : Subscription} {invoiceNumber : String}
    {now : Instant}
    (hRow : db.findTransaction (.razorpayOrderId params.payment.razorpayOrderId) = some row)
    (hStatus : row.status = .success) (hLink : row.subscriptionId = some id)
    (hFound : db.subscriptions.get? id = some subscription) :
    (engine env).Writes (activateSubscriptionWithOutbox params invoiceNumber now) db subscription [] := by
  refine Writes.read rfl ?_
  have hPaid : ((some row).filter fun tx => tx.status = .success).bind (·.subscriptionId) = some id := by
    rw [Option.filter_some, if_pos (decide_eq_true hStatus)]
    exact hLink
  rw [hRow]
  simp only [linkedSubscription, hPaid]
  refine Writes.read rfl ?_
  rw [hFound]
  exact Writes.ret subscription

end SubscriptionRepository

namespace PaymentSubscriptionExpiryService

/-- The event announces the expiry of the subscription. -/
def IsExpiryOf (env : Env) (now : Instant) (event : OutboxEvent) (pair : Subscription × SubscriptionPlan) : Prop :=
  event = (expiryEvent now pair.1 pair.2).toRow event.id env.now

/-- The events of an expiry, one after another, follow those of the outbox. -/
theorem announceExpiry_writes (now : Instant) (pastDue : List (Subscription × SubscriptionPlan)) :
    ∃ events : List OutboxEvent, List.Forall₂ (IsExpiryOf env now) events pastDue ∧
      (∃ outbox, db.outbox.putAll events = some outbox ∧ outbox.rows = db.outbox.rows ++ events) ∧
        (engine env).Writes (announceExpiry now pastDue) db () (events.map Write.outbox) := by
  induction pastDue generalizing db with
  | nil => exact ⟨[], .nil, ⟨db.outbox, rfl, (List.append_nil _).symm⟩, Writes.ret ()⟩
  | cons first rest ih =>
      obtain ⟨sub, plan⟩ := first
      obtain ⟨table, hPut⟩ := db.outbox.exists_put_of_no_unique
        (db.outboxRow env (expiryEvent now sub plan)) rfl rfl
      obtain ⟨events, hEvents, ⟨outbox, hOutbox, hRows⟩, hRest⟩ := @ih { db with outbox := table }
      refine ⟨db.outboxRow env (expiryEvent now sub plan) :: events, .cons rfl hEvents, ⟨outbox, ?_, ?_⟩, ?_⟩
      · exact Table.putAll_cons.mpr ⟨table, hPut, hOutbox⟩
      · rw [hRows, Table.rows_put_fresh hPut Table.get?_freshKey, List.append_assoc]
        rfl
      · refine Writes.write (eval_createOutboxEvent (expiryEvent now sub plan)) fun written hWritten => ?_
        obtain ⟨_, hSame, rfl⟩ := Database.write_outbox hWritten
        rw [hPut] at hSame
        cases hSame
        exact hRest

theorem eventType_of_expiry {now : Instant} {events : List OutboxEvent}
    {pastDue : List (Subscription × SubscriptionPlan)} (h : List.Forall₂ (IsExpiryOf env now) events pastDue) :
    ∀ event ∈ events, event.eventType = .subscriptionExpired := by
  intro event hEvent
  induction h with
  | nil => cases hEvent
  | cons hFirst _ ih =>
      rcases List.mem_cons.mp hEvent with rfl | hLater
      · rw [hFirst]
        rfl
      · exact ih hLater

/-- The subscription writes of an expiry. -/
def expiredSubscriptions (db : Database) (pastDue : List (Subscription × SubscriptionPlan))
    (now : Instant) : List Write :=
  (db.subscriptions.rows.filter fun row => (pastDue.map (·.1.id)).contains row.id).map fun row =>
    .subscription { row with status := .expired, updatedAt := now }

theorem eval_expire (pastDue : List (Subscription × SubscriptionPlan)) (now : Instant) :
    (engine env).eval (.updateManySubscriptions
        (fun row => (pastDue.map (·.1.id)).contains row.id)
        fun row => { row with status := .expired, updatedAt := now }) db =
      .ok ((expiredSubscriptions db pastDue now).length, expiredSubscriptions db pastDue now) := by
  simp only [engine, Statement.eval, expiredSubscriptions, List.length_map]

/-- The update of the subscriptions leaves the outbox alone. -/
theorem outbox_of_update {rows : List Subscription} {update : Subscription → Subscription} {written : Database}
    (h : db.writeAll (rows.map fun row => .subscription (update row)) = some written) :
    written.outbox = db.outbox := by
  induction rows generalizing db with
  | nil => exact congrArg Database.outbox (Option.some.inj h).symm
  | cons row rows ih =>
      rw [List.map_cons, Database.writeAll, applyAll_cons] at h
      obtain ⟨next, hNext, hRest⟩ := Option.bind_eq_some_iff.mp h
      obtain ⟨table, _, rfl⟩ := Database.write_subscription_eq_some.mp hNext
      exact @ih { db with subscriptions := table } hRest

theorem expire_writes (pastDue : List (Subscription × SubscriptionPlan)) (now : Instant) :
    ∃ events : List OutboxEvent, List.Forall₂ (IsExpiryOf env now) events pastDue ∧
      (∃ outbox, db.outbox.putAll events = some outbox ∧ outbox.rows = db.outbox.rows ++ events) ∧
        (engine env).Writes (expire pastDue now) db ()
          (expiredSubscriptions db pastDue now ++ events.map Write.outbox) := by
  cases hApply : db.writeAll (expiredSubscriptions db pastDue now) with
  | none =>
      obtain ⟨events, hEvents, hOutbox, _⟩ := @announceExpiry_writes env db now pastDue
      refine ⟨events, hEvents, hOutbox, Writes.write (eval_expire pastDue now) fun written hWritten => ?_⟩
      have hSame := hApply.symm.trans hWritten
      cases hSame
  | some middle =>
      obtain ⟨events, hEvents, hOutbox, hRest⟩ := @announceExpiry_writes env middle now pastDue
      rw [outbox_of_update hApply] at hOutbox
      refine ⟨events, hEvents, hOutbox, Writes.write (eval_expire pastDue now) fun written hWritten => ?_⟩
      have hSame := hApply.symm.trans hWritten
      cases hSame
      exact hRest

end PaymentSubscriptionExpiryService

/-- The database after a transaction that writes the given rows, unless one of
them is refused. -/
def Database.store (db : Database) (writes : List Write) : Database := (db.writeAll writes).getD db

theorem Database.store_of_writeAll {db written : Database} {writes : List Write}
    (h : db.writeAll writes = some written) : db.store writes = written := by
  rw [Database.store, h, Option.getD_some]

theorem Database.store_of_refused {db : Database} {writes : List Write}
    (h : db.writeAll writes = none) : db.store writes = db := by
  rw [Database.store, h, Option.getD_none]

/-- Writes in two parts that are both accepted are accepted together. -/
theorem Database.writeAll_of_written {db middle final : Database} {first second : List Write}
    (hFirst : db.writeAll first = some middle) (hSecond : middle.writeAll second = some final) :
    db.writeAll (first ++ second) = some final := by
  have hApply : applyAll Database.write db first = some middle := hFirst
  rw [Database.writeAll, applyAll_append, hApply]
  exact hSecond

def World.store (world : World) (writes : List Write) : World :=
  { world with db := world.db.store writes }

/-- The outcome of such a transaction for its caller. -/
def World.commit (world : World) (value : Value) (writes : List Write) :
    Except ServiceError Value × World :=
  (if (world.db.writeAll writes).isSome then .ok value else .error .constraintViolation,
    world.store writes)

theorem World.commit_of_written {world : World} {writes : List Write} {written : Database}
    (h : world.db.writeAll writes = some written) (value : Value) :
    world.commit value writes = (.ok value, { world with db := written }) := by
  rw [World.commit, World.store, Database.store, h]
  rfl

theorem World.commit_of_refused {world : World} {writes : List Write}
    (h : world.db.writeAll writes = none) (value : Value) :
    world.commit value writes = (.error .constraintViolation, world) := by
  rw [World.commit, World.store, Database.store, h]
  rfl

theorem perform_repository (request : RepositoryCall) (world : World) :
    Port.perform env (.repository request) world =
      ((atomically (engine env).perform (request.body env) world.db).1,
        { world with db := (atomically (engine env).perform (request.body env) world.db).2 }) := rfl

/-- A repository call whose transaction writes the given rows commits them. -/
theorem perform_of_writes {request : RepositoryCall} {world : World} {value : request.Answer}
    {writes : List Write} (h : (engine env).Writes (request.body env) world.db value writes) :
    Port.perform env (.repository request) world = world.commit value writes := by
  have hApply : applyAll (engine env).apply world.db writes = world.db.writeAll writes := rfl
  rw [perform_repository, Writes.atomically h, hApply, World.commit, World.store, Database.store]
  cases world.db.writeAll writes <;> rfl

theorem perform_of_fails {request : RepositoryCall} {world : World} {error : ServiceError}
    (h : (engine env).Fails (request.body env) world.db error) :
    Port.perform env (.repository request) world = (.error error, world) := by
  rw [perform_repository, Fails.atomically h]

section Reads

variable (env) (world : World)

@[simp] theorem perform_findByOrderId (razorpayOrderId : String) :
    Port.perform env (.repository (.findByOrderId razorpayOrderId)) world =
      (.ok (world.db.findTransaction (.razorpayOrderId razorpayOrderId)), world) := rfl

@[simp] theorem perform_findByCustomerOrderId (orderId : Uuid) :
    Port.perform env (.repository (.findByCustomerOrderId orderId)) world =
      (.ok (world.db.transactions.findFirst env.tie PaymentTransaction.createdAt
        fun tx => tx.orderId = some orderId), world) := rfl

@[simp] theorem perform_findPendingByRestaurantAndPlan (restaurantId planId : Uuid) :
    Port.perform env (.repository (.findPendingByRestaurantAndPlan restaurantId planId)) world =
      (.ok (world.db.transactions.findFirst env.tie PaymentTransaction.createdAt fun tx =>
        tx.restaurantId = restaurantId && tx.planId = some planId && tx.subscriptionId.isNone &&
          (tx.status = .created || tx.status = .failed) &&
          env.now - pendingOrderReuseWindowMs ≤ tx.createdAt), world) := rfl

@[simp] theorem perform_findPlanById (id : Uuid) :
    Port.perform env (.repository (.findPlanById id)) world =
      (.ok (world.db.plans.get? id), world) := rfl

@[simp] theorem perform_findActiveByRestaurantId (restaurantId : Uuid) :
    Port.perform env (.repository (.findActiveByRestaurantId restaurantId)) world =
      (.ok (world.db.subscriptions.findFirst env.tie Subscription.currentPeriodEnd
        fun subscription => subscription.restaurantId = restaurantId &&
          subscription.status = .active && env.now ≤ subscription.currentPeriodEnd), world) := rfl

@[simp] theorem perform_findPastDueSubscriptions (now : Instant) :
    Port.perform env (.repository (.findPastDueSubscriptions now)) world =
      (.ok ((world.db.subscriptions.rows.filter fun subscription =>
        subscription.status = .active && subscription.currentPeriodEnd < now).filterMap fun row =>
          (world.db.plans.get? row.planId).map fun plan => (row, plan)), world) := rfl

end Reads

theorem perform_createTransaction (data : CreatePaymentTransactionInput) (world : World) :
    Port.perform env (.repository (.createTransaction data)) world =
      world.commit (world.db.transactionRow env data)
        [.transaction (world.db.transactionRow env data)] :=
  perform_of_writes (Writes.last (eval_createTransaction data))

theorem perform_createInvoice (data : CreateBillingInvoiceInput) (world : World) :
    Port.perform env (.repository (.createInvoice data)) world =
      world.commit (world.db.invoiceRow env data) [.invoice (world.db.invoiceRow env data)] :=
  perform_of_writes (Writes.last (eval_createInvoice data))

/-- The row that `markFailed` stores, whatever the status was. -/
def markedFailedRow (failureReason : String) (now : Instant) (row : PaymentTransaction) :
    PaymentTransaction :=
  { row with status := .failed, failureReason := some failureReason, updatedAt := now }

theorem perform_markFailed {razorpayOrderId failureReason : String} {world : World}
    {row : PaymentTransaction}
    (hRow : world.db.findTransaction (.razorpayOrderId razorpayOrderId) = some row) :
    Port.perform env (.repository (.markFailed razorpayOrderId failureReason)) world =
      world.commit (markedFailedRow failureReason env.now row)
        [.transaction (markedFailedRow failureReason env.now row)] :=
  perform_of_writes (Writes.last (eval_updateTransaction hRow (markedFailedRow failureReason env.now)))

theorem perform_markFailed_missing {razorpayOrderId failureReason : String} {world : World}
    (hRow : world.db.findTransaction (.razorpayOrderId razorpayOrderId) = none) :
    Port.perform env (.repository (.markFailed razorpayOrderId failureReason)) world =
      (.error .recordNotFound, world) :=
  perform_of_fails (Fails.last (eval_updateTransaction_missing hRow (markedFailedRow failureReason env.now)))

theorem perform_resetToCreated_missing {razorpayOrderId : String} {world : World}
    (hRow : world.db.findTransaction (.razorpayOrderId razorpayOrderId) = none) :
    Port.perform env (.repository (.resetToCreated razorpayOrderId)) world =
      (.error .recordNotFound, world) :=
  perform_of_fails (Fails.last (eval_updateTransaction_missing hRow _))

theorem perform_resetToCreated {razorpayOrderId : String} {world : World} {row : PaymentTransaction}
    (hRow : world.db.findTransaction (.razorpayOrderId razorpayOrderId) = some row) :
    Port.perform env (.repository (.resetToCreated razorpayOrderId)) world =
      world.commit (PaymentTransactionRepository.statusRow .created env.now row)
        [.transaction (PaymentTransactionRepository.statusRow .created env.now row)] :=
  perform_of_writes (Writes.last (eval_updateTransaction hRow _))

end SpotqPayment
