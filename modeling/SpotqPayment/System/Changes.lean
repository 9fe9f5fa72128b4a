import SpotqPayment.System.Effects

/-! The effects of calls seen from the stored transactions: which row a call
changes into which, when the database accepts the change, and that every other
transaction stays as it was. -/
namespace SpotqPayment

open Process Engine PaymentTransactionRepository SubscriptionRepository

namespace Database

variable {db written : Database}

/-- A refused transaction leaves the database alone, an accepted one writes it. -/
theorem store_cases (db : Database) (writes : List Write) :
    (db.writeAll writes = none ∧ db.store writes = db) ∨
      ∃ written, db.writeAll writes = some written ∧ db.store writes = written := by
  cases hApply : db.writeAll writes with
  | none => exact Or.inl ⟨rfl, store_of_refused hApply⟩
  | some written => exact Or.inr ⟨written, rfl, store_of_writeAll hApply⟩

/-- No other transaction carries the payment id. -/
def PaymentIdFree (db : Database) (tx : PaymentTransaction) (paymentId : Option String) : Prop :=
  ∀ other ∈ db.transactions.rows, other.razorpayPaymentId = paymentId → paymentId ≠ none → other.id = tx.id

/-- The activation of the transaction finds its invoice or may number a new one. -/
def InvoiceReady (db : Database) (env : Env) (tx : PaymentTransaction) : Prop :=
  (∃ invoice ∈ db.invoices.rows, invoice.paymentTransactionId = some tx.id) ∨
    ∀ invoice ∈ db.invoices.rows, invoice.invoiceNumber ≠ env.invoiceNumber

/-- A row that keeps the gateway order can be stored when its payment id is free. -/
theorem free_transaction_iff {tx row : PaymentTransaction} (hTx : tx ∈ db.transactions.rows)
    (hId : row.id = tx.id) (hOrder : row.razorpayOrderId = tx.razorpayOrderId) :
    db.transactions.Free row ↔ db.PaymentIdFree tx row.razorpayPaymentId := by
  constructor
  · intro hFree other hOther hSame hSome
    have hKey := hFree PaymentTransaction.razorpayPaymentId (by simp [Record.unique]) other hOther hSame.symm hSome
    exact hKey.symm.trans hId
  · intro hFree column hColumn other hOther hSame hSome
    simp only [Record.unique, List.mem_cons, List.not_mem_nil, or_false] at hColumn
    rcases hColumn with rfl | rfl
    · have hOrders : tx.razorpayOrderId = other.razorpayOrderId := hOrder.symm.trans (Option.some.inj hSame)
      exact hId.trans (id_eq_of_orderId hTx hOther hOrders)
    · exact hId.trans (hFree other hOther hSame.symm hSome).symm

/-- The amount of a stored transaction fits its column. -/
theorem amountFits_of_mem {tx : PaymentTransaction} (hTx : tx ∈ db.transactions.rows) :
    amountFits tx.amountPaise = true :=
  db.transactions.checked tx hTx

theorem amountFits_iff {amountPaise : Int} :
    amountFits amountPaise = true ↔ 0 < amountPaise ∧ amountPaise ≤ 2147483647 := by
  simp [amountFits]

/-- A stored refund is for a positive amount. -/
theorem refund_positive {refund : PaymentRefund} (hRefund : refund ∈ db.refunds.rows) : 0 < refund.amountPaise :=
  (amountFits_iff.mp (db.refunds.checked refund hRefund)).1

theorem exists_put_transaction {tx row : PaymentTransaction} (hTx : tx ∈ db.transactions.rows)
    (hId : row.id = tx.id) (hOrder : row.razorpayOrderId = tx.razorpayOrderId)
    (hAmount : row.amountPaise = tx.amountPaise) :
    (∃ table, db.transactions.put row = some table) ↔ db.PaymentIdFree tx row.razorpayPaymentId := by
  have hCheck : Record.check row = true := by
    show amountFits row.amountPaise = true
    rw [hAmount]
    exact amountFits_of_mem hTx
  rw [← free_transaction_iff hTx hId hOrder, ← Option.isSome_iff_exists, Table.put_isSome_iff]
  exact and_iff_right hCheck

/-- The payment id that a transaction has is free for it. -/
theorem paymentIdFree_self {tx : PaymentTransaction} (hTx : tx ∈ db.transactions.rows) :
    db.PaymentIdFree tx tx.razorpayPaymentId := by
  intro other hOther hSame hSome
  exact db.transactions.unique PaymentTransaction.razorpayPaymentId (by simp [Record.unique])
    other hOther tx hTx hSame (hSame ▸ hSome)

theorem exists_put_outbox (db : Database) (row : OutboxEvent) :
    ∃ table, db.outbox.put row = some table :=
  db.outbox.exists_put_of_no_unique row rfl rfl

theorem exists_put_subscription (db : Database) (row : Subscription) :
    ∃ table, db.subscriptions.put row = some table :=
  db.subscriptions.exists_put_of_no_unique row rfl rfl

/-- The stored status of a transaction. -/
def statusOf (db : Database) (id : Uuid) : Option PaymentStatus :=
  (db.transactions.get? id).map PaymentTransaction.status

end Database

variable {config : Config} {env : Env} {db written : Database} {tx : PaymentTransaction}

theorem statusOf_eq_some {id : Uuid} {status : PaymentStatus} :
    db.statusOf id = some status ↔ ∃ tx, db.transactions.get? id = some tx ∧ tx.status = status :=
  Option.map_eq_some_iff

@[simp] theorem voidedInvoices_transaction? (transactionId : Uuid) (now : Instant) :
    (db.voidedInvoices transactionId now).filterMap Write.transaction? = [] := by
  simp [Database.voidedInvoices, List.filterMap_map, Function.comp_def, Write.transaction?]

@[simp] theorem voidedInvoices_refund? (transactionId : Uuid) (now : Instant) :
    (db.voidedInvoices transactionId now).filterMap Write.refund? = [] := by
  simp [Database.voidedInvoices, List.filterMap_map, Function.comp_def, Write.refund?]

@[simp] theorem voidedInvoices_subscription? (transactionId : Uuid) (now : Instant) :
    (db.voidedInvoices transactionId now).filterMap Write.subscription? = [] := by
  simp [Database.voidedInvoices, List.filterMap_map, Function.comp_def, Write.subscription?]

@[simp] theorem voidedInvoices_outbox? (transactionId : Uuid) (now : Instant) :
    (db.voidedInvoices transactionId now).filterMap Write.outbox? = [] := by
  simp [Database.voidedInvoices, List.filterMap_map, Function.comp_def, Write.outbox?]

theorem voidedInvoices_invoice? (transactionId : Uuid) (now : Instant) :
    (db.voidedInvoices transactionId now).filterMap Write.invoice? =
      (db.invoices.rows.filter fun invoice => invoice.paymentTransactionId = some transactionId).map
        (voidInvoice now) := by
  simp [Database.voidedInvoices, List.filterMap_map, Function.comp_def, Write.invoice?]

/-- A transaction row and an event are accepted when the row is. -/
theorem outcome_accepted {row : PaymentTransaction} {event : OutboxEvent} :
    (∃ written, db.writeAll [.transaction row, .outbox event] = some written) ↔
      ∃ table, db.transactions.put row = some table := by
  constructor
  · rintro ⟨written, hWritten⟩
    have hTransactions := (Database.written_of_writeAll hWritten).transactions
    exact ⟨_, Table.putAll_singleton.mp hTransactions⟩
  · rintro ⟨table, hTable⟩
    obtain ⟨outbox, hOutbox⟩ := db.exists_put_outbox event
    exact Database.exists_writeAll ⟨table, Table.putAll_singleton.mpr hTable⟩ ⟨_, rfl⟩ ⟨_, rfl⟩ ⟨_, rfl⟩
      ⟨outbox, Table.putAll_singleton.mpr hOutbox⟩

/-- The capture of a stored transaction is accepted when its payment id is free. -/
theorem captureWrites_accepted (hTx : tx ∈ db.transactions.rows) (params : CaptureParams)
    (event : CreateOutboxEventInput) :
    (∃ written, db.writeAll (captureWrites db env tx params event) = some written) ↔
      db.PaymentIdFree tx (params.paymentId.or tx.razorpayPaymentId) := by
  rw [captureWrites, outcome_accepted]
  exact Database.exists_put_transaction hTx rfl rfl rfl

/-- A failure keeps the unique columns and is always accepted. -/
theorem failureWrites_accepted (hTx : tx ∈ db.transactions.rows) (entity : WebhookPaymentEntity)
    (foodOrderId : Uuid) :
    ∃ written, db.writeAll (failureWrites db env tx entity foodOrderId) = some written := by
  have hPut : (∃ table, db.transactions.put (failedRow (tx.markFailed entity.failureReason env.now) tx) =
      some table) ↔ db.PaymentIdFree tx tx.razorpayPaymentId :=
    Database.exists_put_transaction hTx rfl rfl rfl
  rw [failureWrites, outcome_accepted]
  exact hPut.mpr (Database.paymentIdFree_self hTx)

/-- So is every other change that keeps them. -/
theorem transaction_accepted (row : PaymentTransaction) (hTx : tx ∈ db.transactions.rows)
    (hId : row.id = tx.id) (hOrder : row.razorpayOrderId = tx.razorpayOrderId)
    (hAmount : row.amountPaise = tx.amountPaise) (hPayment : row.razorpayPaymentId = tx.razorpayPaymentId) :
    ∃ written, db.writeAll [.transaction row] = some written := by
  obtain ⟨table, hPut⟩ := (Database.exists_put_transaction hTx hId hOrder hAmount).mpr
    (hPayment ▸ Database.paymentIdFree_self hTx)
  exact ⟨{ db with transactions := table }, by
    rw [Database.writeAll, applyAll_singleton, Database.write_transaction_eq_some]
    exact ⟨table, hPut, rfl⟩⟩

/-- Voiding invoices keeps their numbers and is always accepted. -/
theorem exists_putAll_voided (transactionId : Uuid) (now : Instant) :
    ∃ table, db.invoices.putAll
      ((db.voidedInvoices transactionId now).filterMap Write.invoice?) = some table := by
  rw [voidedInvoices_invoice?]
  refine Table.exists_putAll_of_same fun row hRow => ?_
  obtain ⟨invoice, hInvoice, rfl⟩ := List.mem_map.mp hRow
  refine ⟨invoice, (List.mem_filter.mp hInvoice).1, rfl, rfl, fun column hColumn => ?_⟩
  simp only [Record.unique, List.mem_cons, List.not_mem_nil, or_false] at hColumn
  rw [hColumn]
  rfl

/-- The payment id that a transaction has after an activation. -/
def claimedPaymentId (tx : PaymentTransaction) (paymentId : String) : Option String :=
  if tx.status = .success then tx.razorpayPaymentId else some paymentId

theorem activationInvoice_accepted (hTx : tx ∈ db.transactions.rows)
    (params : ActivateSubscriptionWithOutboxParams) (subscriptionId : Uuid) (now : Instant) :
    (∃ table, db.invoices.put
      (activationInvoice db env params tx subscriptionId env.invoiceNumber now) = some table) ↔
        db.InvoiceReady env tx := by
  rw [← Option.isSome_iff_exists, Table.put_isSome_iff, activationInvoice]
  cases hFind : db.invoices.findFirst env.tie (fun _ => 0)
      (fun invoice => invoice.paymentTransactionId = some tx.id) with
  | some invoice =>
      obtain ⟨hMem, hMatch, _⟩ := Table.findFirst_some hFind
      constructor
      · intro _
        exact Or.inl ⟨invoice, hMem, by simpa using hMatch⟩
      · intro _
        refine Table.admits_of_same hMem rfl rfl fun column hColumn => ?_
        simp only [Record.unique, List.mem_cons, List.not_mem_nil, or_false] at hColumn
        rw [hColumn]
  | none =>
      have hNone := Table.findFirst_eq_none.mp hFind
      simp only
      constructor
      · rintro ⟨_, hFree⟩
        refine Or.inr fun invoice hInvoice hNumber => ?_
        have hKey := hFree (fun invoice => some invoice.invoiceNumber) (by simp [Record.unique]) invoice
          hInvoice (congrArg some hNumber.symm) nofun
        exact absurd hKey (Nat.ne_of_gt (Table.key_lt_freshKey hInvoice))
      · rintro (⟨invoice, hInvoice, hLink⟩ | hNumbers)
        · exact absurd hLink (by simpa using hNone invoice hInvoice)
        · refine ⟨Database.amountFits_of_mem hTx, fun column hColumn invoice hInvoice hSame => ?_⟩
          simp only [Record.unique, List.mem_cons, List.not_mem_nil, or_false] at hColumn
          rw [hColumn] at hSame
          exact absurd (Option.some.inj hSame).symm (hNumbers invoice hInvoice)

/-- The transaction rows of an activation, the claimed one and the linked one. -/
theorem activationWrites_transaction? (params : ActivateSubscriptionWithOutboxParams) :
    (activationWrites db env tx params).filterMap Write.transaction? =
      (if tx.status = .success then [] else [paidRow params.payment env.now tx]) ++
        [activatedRow params.payment (db.subscriptionRow env params.subscription).id env.now tx] := by
  rw [activationWrites, List.filterMap_append, claimWrites]
  split <;> rfl

theorem activationWrites_refund? (params : ActivateSubscriptionWithOutboxParams) :
    (activationWrites db env tx params).filterMap Write.refund? = [] := by
  rw [activationWrites, List.filterMap_append, claimWrites]
  split <;> rfl

theorem activationWrites_subscription? (params : ActivateSubscriptionWithOutboxParams) :
    (activationWrites db env tx params).filterMap Write.subscription? =
      [db.subscriptionRow env params.subscription] := by
  rw [activationWrites, List.filterMap_append, claimWrites]
  split <;> rfl

theorem activationWrites_invoice? (params : ActivateSubscriptionWithOutboxParams) :
    (activationWrites db env tx params).filterMap Write.invoice? =
      [activationInvoice db env params tx (db.subscriptionRow env params.subscription).id
        env.invoiceNumber env.now] := by
  rw [activationWrites, List.filterMap_append, claimWrites]
  split <;> rfl

theorem activationWrites_outbox? (params : ActivateSubscriptionWithOutboxParams) :
    (activationWrites db env tx params).filterMap Write.outbox? =
      [db.outboxRow env (activationEvent params (db.subscriptionRow env params.subscription).id)] := by
  rw [activationWrites, List.filterMap_append, claimWrites]
  split <;> rfl

/-- The two transaction rows of an activation are accepted when the payment id is free. -/
theorem activationRows_accepted (hTx : tx ∈ db.transactions.rows) (payment : ActivationPayment)
    (subscriptionId : Uuid) (now : Instant) :
    (∃ table, db.transactions.putAll ((if tx.status = .success then [] else [paidRow payment now tx]) ++
        [activatedRow payment subscriptionId now tx]) = some table) ↔
      db.PaymentIdFree tx (claimedPaymentId tx payment.razorpayPaymentId) := by
  by_cases hStatus : tx.status = .success
  · have hId : (activatedRow payment subscriptionId now tx).id = tx.id := by
      simp [activatedRow, claimedRow, hStatus]
    have hOrder : (activatedRow payment subscriptionId now tx).razorpayOrderId = tx.razorpayOrderId := by
      simp [activatedRow, claimedRow, hStatus]
    have hPayment : (activatedRow payment subscriptionId now tx).razorpayPaymentId = tx.razorpayPaymentId := by
      simp [activatedRow, claimedRow, hStatus]
    have hAmount : (activatedRow payment subscriptionId now tx).amountPaise = tx.amountPaise := by
      simp [activatedRow, claimedRow, hStatus]
    simp only [if_pos hStatus, List.nil_append, Table.putAll_singleton, claimedPaymentId]
    rw [Database.exists_put_transaction hTx hId hOrder hAmount, hPayment]
  · have hPaid : (∃ table, db.transactions.put (paidRow payment now tx) = some table) ↔
        db.PaymentIdFree tx (some payment.razorpayPaymentId) :=
      Database.exists_put_transaction hTx rfl rfl rfl
    simp only [if_neg hStatus, claimedPaymentId]
    rw [← hPaid]
    constructor
    · rintro ⟨table, hTable⟩
      obtain ⟨next, hPut, _⟩ := Table.putAll_cons.mp hTable
      exact ⟨next, hPut⟩
    · rintro ⟨next, hPut⟩
      have hNext : paidRow payment now tx ∈ next.rows := (Table.mem_put hPut).mpr (Or.inl rfl)
      have hSame : activatedRow payment subscriptionId now tx =
          { paidRow payment now tx with subscriptionId := some subscriptionId, updatedAt := now } := by
        rw [activatedRow, claimedRow, if_neg hStatus]
      have hAdmits : next.Admits (activatedRow payment subscriptionId now tx) := by
        rw [hSame]
        refine Table.admits_of_same hNext rfl rfl fun column hColumn => ?_
        simp only [Record.unique, List.mem_cons, List.not_mem_nil, or_false] at hColumn
        rcases hColumn with rfl | rfl <;> rfl
      obtain ⟨table, hTable⟩ := Option.isSome_iff_exists.mp (Table.put_isSome_iff.mpr hAdmits)
      exact ⟨table, Table.putAll_cons.mpr ⟨next, hPut, Table.putAll_singleton.mpr hTable⟩⟩

/-- An activation is accepted when the payment id is free and its invoice ready. -/
theorem activationWrites_accepted (hTx : tx ∈ db.transactions.rows)
    (params : ActivateSubscriptionWithOutboxParams) :
    (∃ written, db.writeAll (activationWrites db env tx params) = some written) ↔
      db.PaymentIdFree tx (claimedPaymentId tx params.payment.razorpayPaymentId) ∧
        db.InvoiceReady env tx := by
  have hRows := activationRows_accepted hTx params.payment
    (db.subscriptionRow env params.subscription).id env.now
  have hInvoice := @activationInvoice_accepted env db tx hTx params
    (db.subscriptionRow env params.subscription).id env.now
  constructor
  · rintro ⟨written, hWritten⟩
    have hTables := Database.written_of_writeAll hWritten
    have hTransactions := hTables.transactions
    have hInvoices := hTables.invoices
    rw [activationWrites_transaction?] at hTransactions
    rw [activationWrites_invoice?, Table.putAll_singleton] at hInvoices
    exact ⟨hRows.mp ⟨_, hTransactions⟩, hInvoice.mp ⟨_, hInvoices⟩⟩
  · rintro ⟨hFree, hReady⟩
    obtain ⟨subscriptions, hSubscriptions⟩ :=
      db.exists_put_subscription (db.subscriptionRow env params.subscription)
    obtain ⟨outbox, hOutbox⟩ := db.exists_put_outbox
      (db.outboxRow env (activationEvent params (db.subscriptionRow env params.subscription).id))
    refine Database.exists_writeAll ?_ ?_ ?_ ?_ ?_
    · rw [activationWrites_transaction?]
      exact hRows.mpr hFree
    · rw [activationWrites_refund?]
      exact ⟨db.refunds, rfl⟩
    · rw [activationWrites_subscription?]
      exact ⟨subscriptions, Table.putAll_singleton.mpr hSubscriptions⟩
    · rw [activationWrites_invoice?]
      obtain ⟨invoices, hInvoices⟩ := hInvoice.mpr hReady
      exact ⟨invoices, Table.putAll_singleton.mpr hInvoices⟩
    · rw [activationWrites_outbox?]
      exact ⟨outbox, Table.putAll_singleton.mpr hOutbox⟩

namespace Database.Written

variable {writes : List Write}

theorem get?_same (h : db.Written writes written) (hRows : writes.filterMap Write.transaction? = [])
    (id : Uuid) : written.transactions.get? id = db.transactions.get? id := by
  have hTable := h.transactions
  rw [hRows] at hTable
  rw [← Option.some.inj hTable]

theorem get?_single {row : PaymentTransaction} (h : db.Written writes written)
    (hRows : writes.filterMap Write.transaction? = [row]) (id : Uuid) :
    written.transactions.get? id = if row.id = id then some row else db.transactions.get? id := by
  have hTable := h.transactions
  rw [hRows, Table.putAll_singleton] at hTable
  exact Table.get?_put hTable id

theorem get?_pair {first second : PaymentTransaction} (h : db.Written writes written)
    (hRows : writes.filterMap Write.transaction? = [first, second]) (hSame : first.id = second.id)
    (id : Uuid) :
    written.transactions.get? id = if second.id = id then some second else db.transactions.get? id := by
  have hTable := h.transactions
  rw [hRows, Table.putAll_cons] at hTable
  obtain ⟨next, hFirst, hSecond⟩ := hTable
  rw [Table.putAll_singleton] at hSecond
  rw [Table.get?_put hSecond id, Table.get?_put hFirst id]
  show (if second.id = id then some second
    else if first.id = id then some first else db.transactions.get? id) = _
  by_cases hId : second.id = id
  · rw [if_pos hId, if_pos hId]
  · rw [if_neg hId, if_neg hId, if_neg fun hFirstId => hId (hSame.symm.trans hFirstId)]

end Database.Written

theorem activatedRow_id (payment : ActivationPayment) (subscriptionId : Uuid) (now : Instant) :
    (activatedRow payment subscriptionId now tx).id = tx.id := by
  unfold activatedRow claimedRow
  split <;> rfl

theorem get?_activated {params : ActivateSubscriptionWithOutboxParams}
    (hWritten : db.writeAll (activationWrites db env tx params) = some written) (id : Uuid) :
    written.transactions.get? id =
      if tx.id = id then
        some (activatedRow params.payment (db.subscriptionRow env params.subscription).id env.now tx)
      else db.transactions.get? id := by
  have hTables := Database.written_of_writeAll hWritten
  have hId := @activatedRow_id tx params.payment (db.subscriptionRow env params.subscription).id env.now
  by_cases hStatus : tx.status = .success
  · rw [hTables.get?_single (by rw [activationWrites_transaction?, if_pos hStatus, List.nil_append]), hId]
  · have hRows : (activationWrites db env tx params).filterMap Write.transaction? =
        [paidRow params.payment env.now tx,
          activatedRow params.payment (db.subscriptionRow env params.subscription).id env.now tx] := by
      rw [activationWrites_transaction?, if_neg hStatus]
      rfl
    rw [hTables.get?_pair hRows hId.symm id, hId]

@[simp] theorem activatedRow_status (payment : ActivationPayment) (subscriptionId : Uuid) (now : Instant) :
    (activatedRow payment subscriptionId now tx).status = .success := by
  unfold activatedRow claimedRow
  by_cases hStatus : tx.status = .success
  · rw [if_pos hStatus]
    exact hStatus
  · rw [if_neg hStatus]
    rfl

/-- An activation writes its transaction only, as a paid one. -/
theorem mem_activationWrites {params : ActivateSubscriptionWithOutboxParams} {row : PaymentTransaction}
    (h : row ∈ (activationWrites db env tx params).filterMap Write.transaction?) :
    row.id = tx.id ∧ row.status = .success := by
  rw [activationWrites_transaction?, List.mem_append, List.mem_singleton] at h
  rcases h with hPaid | rfl
  · split at hPaid
    · cases hPaid
    · rw [List.mem_singleton.mp hPaid]
      exact ⟨rfl, rfl⟩
  · exact ⟨activatedRow_id _ _ _, activatedRow_status _ _ _⟩

theorem settlement_transaction? (status : RefundStatus) (now : Instant) :
    (settlement db status tx now).filterMap Write.transaction? =
      if status = .processed then [statusRow .refunded now tx] else [] := by
  unfold settlement
  split
  · rw [List.filterMap_cons, voidedInvoices_transaction?]
    rfl
  · rfl

/-- A new refund is accepted when its amount fits and its gateway id is not known yet. -/
theorem exists_put_refund (data : CreateRefundInput) :
    (∃ table, db.refunds.put (db.refundRow env data) = some table) ↔
      amountFits data.amountPaise = true ∧ db.findRefund data.razorpayRefundId = none := by
  rw [← Option.isSome_iff_exists, Table.put_isSome_iff]
  refine and_congr_right fun _ => ?_
  constructor
  · intro hFree
    refine Option.eq_none_iff_forall_ne_some.mpr fun refund hRefund => ?_
    obtain ⟨hMem, hSame⟩ := Table.lookup_mem hRefund
    have hKey := hFree (fun refund => some refund.razorpayRefundId) (by simp [Record.unique]) refund hMem
      hSame.symm nofun
    exact absurd hKey (Nat.ne_of_gt (Table.key_lt_freshKey hMem))
  · intro hNone column hColumn refund hRefund hSame
    simp only [Record.unique, List.mem_cons, List.not_mem_nil, or_false] at hColumn
    rw [hColumn] at hSame
    have hFound : db.findRefund data.razorpayRefundId = some refund :=
      (Table.lookup_eq_some (by simp [Record.unique])).mpr ⟨hRefund, hSame.symm⟩
    rw [hNone] at hFound
    cases hFound

/-- A refund is recorded when its gateway id is new. -/
theorem recordedRefund_accepted (hTx : tx ∈ db.transactions.rows) (data : CreateRefundInput)
    (hFits : amountFits data.amountPaise = true) :
    (∃ written, db.writeAll ([.transaction (statusRow .refunded env.now tx), .refund (db.refundRow env data)] ++
      db.voidedInvoices tx.id env.now) = some written) ↔ db.findRefund data.razorpayRefundId = none := by
  have hRefund : (∃ table, db.refunds.put (db.refundRow env data) = some table) ↔
      db.findRefund data.razorpayRefundId = none := (exists_put_refund data).trans (and_iff_right hFits)
  have hPut : (∃ table, db.transactions.put (statusRow .refunded env.now tx) = some table) ↔
      db.PaymentIdFree tx tx.razorpayPaymentId := Database.exists_put_transaction hTx rfl rfl rfl
  rw [← hRefund]
  constructor
  · rintro ⟨written, hWritten⟩
    have hTable := (Database.written_of_writeAll hWritten).refunds
    rw [List.filterMap_append, voidedInvoices_refund?] at hTable
    exact ⟨_, Table.putAll_singleton.mp hTable⟩
  · rintro ⟨refunds, hRefunds⟩
    obtain ⟨transactions, hTransactions⟩ := hPut.mpr (Database.paymentIdFree_self hTx)
    refine Database.exists_writeAll ?_ ?_ ?_ ?_ ?_
    · rw [List.filterMap_append, voidedInvoices_transaction?]
      exact ⟨transactions, Table.putAll_singleton.mpr hTransactions⟩
    · rw [List.filterMap_append, voidedInvoices_refund?]
      exact ⟨refunds, Table.putAll_singleton.mpr hRefunds⟩
    · rw [List.filterMap_append, voidedInvoices_subscription?]
      exact ⟨db.subscriptions, rfl⟩
    · rw [List.filterMap_append]
      exact exists_putAll_voided tx.id env.now
    · rw [List.filterMap_append, voidedInvoices_outbox?]
      exact ⟨db.outbox, rfl⟩

/-- The amount of an accepted request is that of the transaction. -/
theorem ProcessOrderRefundInput.Accepted.amountFits {input : ProcessOrderRefundInput} {paymentId : String}
    (hAccepted : input.Accepted db env tx paymentId) :
    amountFits (input.amountPaise.getD tx.amountPaise) = true := by
  rw [PaymentTransaction.amount_of_refundable hAccepted.refundable]
  exact Database.amountFits_of_mem (Table.findFirst_some hAccepted.newest).1

/-- A refund request is accepted when the gateway's refund id is new. -/
theorem refundWrites_accepted {input : ProcessOrderRefundInput} {paymentId : String}
    (hAccepted : input.Accepted db env tx paymentId) (answer : PaymentRefundResult) :
    (∃ written, db.writeAll (refundWrites db env input tx answer) = some written) ↔
      db.findRefund answer.refundId = none := by
  exact recordedRefund_accepted (Table.findFirst_some hAccepted.newest).1 _ hAccepted.amountFits

theorem expiry_transaction? (now : Instant) (events : List OutboxEvent) :
    (PaymentSubscriptionExpiryService.expiredSubscriptions db (pastDue db now) now ++
      events.map Write.outbox).filterMap Write.transaction? = [] := by
  simp [PaymentSubscriptionExpiryService.expiredSubscriptions, List.filterMap_append, List.filterMap_map,
    Function.comp_def, Write.transaction?]

theorem expiredSubscriptions_subscription? (found : List (Subscription × SubscriptionPlan)) (now : Instant)
    (events : List OutboxEvent) :
    (PaymentSubscriptionExpiryService.expiredSubscriptions db found now ++
        events.map Write.outbox).filterMap Write.subscription? =
      (db.subscriptions.rows.filter fun row => (found.map (·.1.id)).contains row.id).map fun row =>
        { row with status := .expired, updatedAt := now } := by
  simp [PaymentSubscriptionExpiryService.expiredSubscriptions, List.filterMap_append, List.filterMap_map,
    Function.comp_def, Write.subscription?]

theorem expiredSubscriptions_invoice? (found : List (Subscription × SubscriptionPlan)) (now : Instant)
    (events : List OutboxEvent) :
    (PaymentSubscriptionExpiryService.expiredSubscriptions db found now ++
        events.map Write.outbox).filterMap Write.invoice? = [] := by
  simp [PaymentSubscriptionExpiryService.expiredSubscriptions, List.filterMap_append, List.filterMap_map,
    Function.comp_def, Write.invoice?]

theorem expiredSubscriptions_refund? (found : List (Subscription × SubscriptionPlan)) (now : Instant)
    (events : List OutboxEvent) :
    (PaymentSubscriptionExpiryService.expiredSubscriptions db found now ++
        events.map Write.outbox).filterMap Write.refund? = [] := by
  simp [PaymentSubscriptionExpiryService.expiredSubscriptions, List.filterMap_append, List.filterMap_map,
    Function.comp_def, Write.refund?]

theorem expiredSubscriptions_outbox? (found : List (Subscription × SubscriptionPlan)) (now : Instant)
    (events : List OutboxEvent) :
    (PaymentSubscriptionExpiryService.expiredSubscriptions db found now ++
        events.map Write.outbox).filterMap Write.outbox? = events := by
  simp [PaymentSubscriptionExpiryService.expiredSubscriptions, List.filterMap_append, List.filterMap_map,
    Function.comp_def, Write.outbox?]

/-- The beginnings of a pair of writes. -/
theorem prefix_pair {first second : Write} {writes : List Write} (h : writes <+: [first, second]) :
    writes = [] ∨ writes = [first] ∨ writes = [first, second] := by
  rw [List.prefix_iff_eq_take] at h
  rcases hLength : writes.length with _ | _ | _
  · exact Or.inl (List.length_eq_zero_iff.mp hLength)
  · rw [hLength] at h
    exact Or.inr (Or.inl h)
  · rw [hLength] at h
    exact Or.inr (Or.inr (by simpa using h))

/-- What a call can change one stored transaction into, and why. -/
inductive Change (config : Config) (db : Database) (env : Env) :
    Call → PaymentTransaction → PaymentTransaction → Prop where
  | captured {call : Call} {tx : PaymentTransaction} {params : CaptureParams}
      {event : CreateOutboxEventInput} (hCaptures : Captures config db env.now call tx params event)
      (hOpen : tx.Capturable) (hFree : db.PaymentIdFree tx (params.paymentId.or tx.razorpayPaymentId)) :
      Change config db env call tx (capturedRow (tx.captureFields params env.now) tx)
  | failed {input : HandleWebhookInput} {entity : WebhookPaymentEntity} {tx : PaymentTransaction}
      {foodOrderId : Uuid} (hReported : input.ReportsFailure config db entity tx)
      (hFood : tx.orderId = some foodOrderId)
      (hOpen : ¬ (tx.status = .captured ∨ tx.status = .success ∨ tx.status = .failed)) :
      Change config db env (.handleWebhook input) tx
        (failedRow (tx.markFailed entity.failureReason env.now) tx)
  | markedFailed {input : HandleWebhookInput} {entity : WebhookPaymentEntity} {tx : PaymentTransaction}
      (hReported : input.ReportsFailure config db entity tx) (hPlain : tx.orderId = none)
      (hOpen : ¬ (tx.status = .success ∨ tx.status = .captured)) :
      Change config db env (.handleWebhook input) tx (markedFailedRow entity.failureReason env.now tx)
  | activated {call : Call} {tx : PaymentTransaction} {plan : SubscriptionPlan}
      {paymentId signature : String} (hActivates : Activates config db call tx paymentId signature)
      (hOpen : tx.Activatable db plan) (hFree : db.PaymentIdFree tx (claimedPaymentId tx paymentId))
      (hReady : db.InvoiceReady env tx) :
      Change config db env call tx
        (activatedRow (activationParams tx plan paymentId signature env.now).payment
          (db.subscriptionRow env (activationParams tx plan paymentId signature env.now).subscription).id
          env.now tx)
  | refunded {input : ProcessOrderRefundInput} {tx : PaymentTransaction} {paymentId : String}
      {answer : PaymentRefundResult} (hAccepted : input.Accepted db env tx paymentId)
      (hAnswer : env.gatewayRefund = some answer) (hFresh : db.findRefund answer.refundId = none) :
      Change config db env (.processOrderRefund input) tx (statusRow .refunded env.now tx)
  | settled {input : HandleWebhookInput} {params : SyncRefundFromWebhookParams} {tx : PaymentTransaction}
      (hReported : input.ReportsRefund config params) (hProcessed : params.status = .processed)
      (hRefund : (∃ refund, db.findRefund params.razorpayRefundId = some refund ∧
          db.findTransaction (.id refund.paymentTransactionId) = some tx) ∨
        (db.findRefund params.razorpayRefundId = none ∧ amountFits (params.amountPaise.getD tx.amountPaise) = true ∧
          ∃ razorpayPaymentId, truthy params.razorpayPaymentId = some razorpayPaymentId ∧
            db.findTransaction (.razorpayPaymentId razorpayPaymentId) = some tx)) :
      Change config db env (.handleWebhook input) tx (statusRow .refunded env.now tx)
  | reset {input : CreateSubscriptionOrderInput} {restaurantId : Uuid} {plan : SubscriptionPlan}
      {tx : PaymentTransaction} (hAccepted : input.Accepted db env restaurantId plan)
      (hPending : pendingOrder db env restaurantId plan.id = some tx) (hFailed : tx.status = .failed) :
      Change config db env (.createSubscriptionOrder input) tx (statusRow .created env.now tx)

/-- The stored transactions after a call: as before, or with one new row in the
state CREATED (for a positive amount if it is a food order), or with one row
changed. -/
inductive Outcome (config : Config) (db : Database) (env : Env) (call : Call) (after : Database) : Prop where
  | same (hGet : ∀ id, after.transactions.get? id = db.transactions.get? id)
  | opened (data : CreatePaymentTransactionInput) (hAmount : data.orderId ≠ none → 0 < data.amountPaise)
      (hGet : ∀ id, after.transactions.get? id =
        if (db.transactionRow env data).id = id then some (db.transactionRow env data)
        else db.transactions.get? id)
  | changed (tx row : PaymentTransaction) (hTx : tx ∈ db.transactions.rows)
      (hChange : Change config db env call tx row) (hId : row.id = tx.id)
      (hGet : ∀ id, after.transactions.get? id =
        if tx.id = id then some row else db.transactions.get? id)

/-- A refund that was settled has been stored. -/
theorem exists_put_settled {row : PaymentRefund} {status : RefundStatus} {now : Instant}
    (hWritten : db.writeAll (.refund row :: settlement db status tx now) = some written) :
    ∃ table, db.refunds.put row = some table := by
  obtain ⟨next, hNext, _⟩ := Database.writeAll_cons_eq_some.mp hWritten
  obtain ⟨table, hPut, _⟩ := Database.write_refund_eq_some.mp hNext
  exact ⟨table, hPut⟩

theorem outcome_of_settlement {input : HandleWebhookInput} {params : SyncRefundFromWebhookParams}
    {row : PaymentRefund} (hReported : input.ReportsRefund config params)
    (hTx : tx ∈ db.transactions.rows)
    (hRefund : (∃ refund, db.findRefund params.razorpayRefundId = some refund ∧
        db.findTransaction (.id refund.paymentTransactionId) = some tx) ∨
      (db.findRefund params.razorpayRefundId = none ∧ amountFits (params.amountPaise.getD tx.amountPaise) = true ∧
        ∃ razorpayPaymentId, truthy params.razorpayPaymentId = some razorpayPaymentId ∧
          db.findTransaction (.razorpayPaymentId razorpayPaymentId) = some tx))
    (hWritten : db.writeAll (.refund row :: settlement db params.status tx env.now) = some written) :
    Outcome config db env (.handleWebhook input) written := by
  have hTables := Database.written_of_writeAll hWritten
  have hRows : (Write.refund row :: settlement db params.status tx env.now).filterMap Write.transaction? =
      if params.status = .processed then [statusRow .refunded env.now tx] else [] :=
    settlement_transaction? params.status env.now
  by_cases hProcessed : params.status = .processed
  · rw [if_pos hProcessed] at hRows
    exact .changed _ _ hTx (.settled hReported hProcessed hRefund) rfl (hTables.get?_single hRows)
  · rw [if_neg hProcessed] at hRows
    exact .same (hTables.get?_same hRows)

theorem Effect.outcome {call : Call} {writes : List Write} (hEffect : Effect config db env call writes)
    (hWritten : db.writeAll writes = some written) : Outcome config db env call written := by
  have hTables := Database.written_of_writeAll hWritten
  cases hEffect with
  | nothing call => exact .same (hTables.get?_same rfl)
  | captured hCaptures hOpen =>
      have hFree := (captureWrites_accepted hCaptures.mem _ _).mp ⟨written, hWritten⟩
      exact .changed _ _ hCaptures.mem (.captured hCaptures hOpen hFree) rfl (hTables.get?_single rfl)
  | failed hReported hFood hOpen =>
      obtain ⟨orderId, _, hFound⟩ := hReported.found
      exact .changed _ _ (Database.findTransaction_mem hFound) (.failed hReported hFood hOpen) rfl
        (hTables.get?_single rfl)
  | markedFailed hReported hPlain hOpen =>
      obtain ⟨orderId, _, hFound⟩ := hReported.found
      exact .changed _ _ (Database.findTransaction_mem hFound) (.markedFailed hReported hPlain hOpen) rfl
        (hTables.get?_single rfl)
  | activated hActivates hOpen =>
      obtain ⟨hFree, hReady⟩ := (activationWrites_accepted hActivates.mem _).mp ⟨written, hWritten⟩
      exact .changed _ _ hActivates.mem (.activated hActivates hOpen hFree hReady) (activatedRow_id _ _ _)
        (get?_activated hWritten)
  | @refunded input tx paymentId answer hAccepted hAnswer =>
      have hMem := (Table.findFirst_some hAccepted.newest).1
      have hFresh := (refundWrites_accepted hAccepted answer).mp ⟨written, hWritten⟩
      have hRows : (refundWrites db env input tx answer).filterMap Write.transaction? =
          [statusRow .refunded env.now tx] := by
        rw [refundWrites, List.filterMap_append, voidedInvoices_transaction?]
        rfl
      exact .changed _ _ hMem (.refunded hAccepted hAnswer hFresh) rfl (hTables.get?_single hRows)
  | refundSynced hReported hKnown hRow =>
      exact outcome_of_settlement hReported (Database.findTransaction_mem hRow)
        (Or.inl ⟨_, hKnown, hRow⟩) hWritten
  | refundRecorded hReported hUnknown hPayment hRow =>
      have hPut := exists_put_settled hWritten
      exact outcome_of_settlement hReported (Database.findTransaction_mem hRow)
        (Or.inr ⟨hUnknown, ((exists_put_refund _).mp hPut).1, _, hPayment, hRow⟩) hWritten
  | @orderOpened input orderId hOpens =>
      exact .opened _ (fun _ => input.amountPaise_pos) (hTables.get?_single rfl)
  | subscriptionOrdered hAccepted hPending hGateway hWrites =>
      rcases prefix_pair hWrites with rfl | rfl | rfl
      · exact .same (hTables.get?_same rfl)
      · exact .opened _ (absurd rfl) (hTables.get?_single rfl)
      · exact .opened _ (absurd rfl) (hTables.get?_single rfl)
  | reset hAccepted hPending hFailed =>
      exact .changed _ _ (Table.findFirst_some hPending).1 (.reset hAccepted hPending hFailed) rfl
        (hTables.get?_single rfl)
  | expired hTypes => exact .same (hTables.get?_same (expiry_transaction? env.now _))

theorem transactionRow_id_ne (hTx : tx ∈ db.transactions.rows) (data : CreatePaymentTransactionInput) :
    (db.transactionRow env data).id ≠ tx.id :=
  Nat.ne_of_gt (Table.key_lt_freshKey hTx)

/-- A stored transaction stays as it was or is changed by the call. -/
theorem Outcome.of_stored {call : Call} (hOutcome : Outcome config db env call written)
    (hTx : tx ∈ db.transactions.rows) :
    written.transactions.get? tx.id = some tx ∨ ∃ row, Change config db env call tx row ∧
      row.id = tx.id ∧ written.transactions.get? tx.id = some row := by
  have hGet : db.transactions.get? tx.id = some tx := Table.get?_key hTx
  cases hOutcome with
  | same hSame => exact Or.inl ((hSame tx.id).trans hGet)
  | opened data _ hOpened =>
      rw [hOpened, if_neg (transactionRow_id_ne hTx data)]
      exact Or.inl hGet
  | changed other row hOther hChange hId hChanged =>
      rw [hChanged]
      by_cases hSame : other.id = tx.id
      · have hEq : other = tx := Table.eq_of_key hOther hTx hSame
        subst hEq
        rw [if_pos rfl]
        exact Or.inr ⟨row, hChange, hId, rfl⟩
      · rw [if_neg hSame]
        exact Or.inl hGet

/-- Every transaction stored after a call was there before, or is new, or comes
from a change. -/
theorem Outcome.origin {call : Call} {row : PaymentTransaction}
    (hOutcome : Outcome config db env call written) (hRow : row ∈ written.transactions.rows) :
    row ∈ db.transactions.rows ∨
      (∃ data : CreatePaymentTransactionInput,
        (data.orderId ≠ none → 0 < data.amountPaise) ∧ row = db.transactionRow env data) ∨
      ∃ tx ∈ db.transactions.rows, Change config db env call tx row ∧ row.id = tx.id := by
  have hGet : written.transactions.get? row.id = some row := Table.get?_key hRow
  cases hOutcome with
  | same hSame => exact Or.inl (Table.get?_eq_some.mp ((hSame row.id).symm.trans hGet)).1
  | opened data hAmount hOpened =>
      rw [hOpened] at hGet
      split at hGet
      · exact Or.inr (Or.inl ⟨data, hAmount, (Option.some.inj hGet).symm⟩)
      · exact Or.inl (Table.get?_eq_some.mp hGet).1
  | changed tx changed hTx hChange hId hChanged =>
      rw [hChanged] at hGet
      split at hGet
      · cases hGet
        exact Or.inr (Or.inr ⟨tx, hTx, hChange, hId⟩)
      · exact Or.inl (Table.get?_eq_some.mp hGet).1

/-- A change keeps the identity, the owners and the amount of a transaction. -/
structure PaymentTransaction.SamePayment (row tx : PaymentTransaction) : Prop where
  id : row.id = tx.id
  orderId : row.orderId = tx.orderId
  planId : row.planId = tx.planId
  razorpayOrderId : row.razorpayOrderId = tx.razorpayOrderId
  amountPaise : row.amountPaise = tx.amountPaise

theorem activatedRow_samePayment (payment : ActivationPayment) (subscriptionId : Uuid) (now : Instant) :
    (activatedRow payment subscriptionId now tx).SamePayment tx := by
  unfold activatedRow claimedRow
  split <;> exact ⟨rfl, rfl, rfl, rfl, rfl⟩

theorem Change.samePayment {call : Call} {row : PaymentTransaction} (h : Change config db env call tx row) :
    row.SamePayment tx := by
  cases h with
  | captured hCaptures hOpen hFree => exact ⟨rfl, rfl, rfl, rfl, rfl⟩
  | failed hReported hFood hOpen => exact ⟨rfl, rfl, rfl, rfl, rfl⟩
  | markedFailed hReported hPlain hOpen => exact ⟨rfl, rfl, rfl, rfl, rfl⟩
  | activated hActivates hOpen hFree hReady => exact activatedRow_samePayment _ _ _
  | refunded hAccepted hAnswer hFresh => exact ⟨rfl, rfl, rfl, rfl, rfl⟩
  | settled hReported hProcessed hRefund => exact ⟨rfl, rfl, rfl, rfl, rfl⟩
  | reset hAccepted hPending hFailed => exact ⟨rfl, rfl, rfl, rfl, rfl⟩

variable {world : World}

/-- Every completed call has one of the three outcomes. -/
theorem serve_outcome (hLinked : world.db.RefundsLinked) (request : Request) :
    Outcome config world.db request.env request.call (serve config world request).db := by
  obtain ⟨writes, hEffect, hStore⟩ := @serve_effect config world hLinked request
  rcases world.db.store_cases writes with ⟨_, hSame⟩ | ⟨written, hWritten, hStored⟩
  · exact .same fun id => by rw [hStore, hSame]
  · rw [hStore, hStored]
    exact hEffect.outcome hWritten

/-- A refund that is stored settles its transaction without further conditions. -/
theorem settlement_accepted {refunds : Table PaymentRefund} {refund : PaymentRefund}
    (hTx : tx ∈ db.transactions.rows) (hRefund : db.refunds.put refund = some refunds)
    (status : RefundStatus) (now : Instant) :
    ∃ written, db.writeAll (.refund refund :: settlement db status tx now) = some written := by
  have hRefunds : db.refunds.putAll [refund] = some refunds := Table.putAll_singleton.mpr hRefund
  unfold settlement
  by_cases hProcessed : status = .processed
  · rw [if_pos hProcessed]
    have hPut : (∃ table, db.transactions.put (statusRow .refunded now tx) = some table) ↔
        db.PaymentIdFree tx tx.razorpayPaymentId := Database.exists_put_transaction hTx rfl rfl rfl
    obtain ⟨transactions, hTransactions⟩ := hPut.mpr (Database.paymentIdFree_self hTx)
    refine Database.exists_writeAll ?_ ?_ ?_ ?_ ?_
    · show ∃ table, db.transactions.putAll (statusRow .refunded now tx ::
        (db.voidedInvoices tx.id now).filterMap Write.transaction?) = some table
      rw [voidedInvoices_transaction?]
      exact ⟨transactions, Table.putAll_singleton.mpr hTransactions⟩
    · show ∃ table, db.refunds.putAll (refund ::
        (db.voidedInvoices tx.id now).filterMap Write.refund?) = some table
      rw [voidedInvoices_refund?]
      exact ⟨refunds, hRefunds⟩
    · show ∃ table, db.subscriptions.putAll
        ((db.voidedInvoices tx.id now).filterMap Write.subscription?) = some table
      rw [voidedInvoices_subscription?]
      exact ⟨db.subscriptions, rfl⟩
    · exact exists_putAll_voided tx.id now
    · show ∃ table, db.outbox.putAll
        ((db.voidedInvoices tx.id now).filterMap Write.outbox?) = some table
      rw [voidedInvoices_outbox?]
      exact ⟨db.outbox, rfl⟩
  · rw [if_neg hProcessed]
    exact Database.exists_writeAll ⟨_, rfl⟩ ⟨refunds, hRefunds⟩ ⟨_, rfl⟩ ⟨_, rfl⟩ ⟨_, rfl⟩

/-- A refund that keeps the unique columns of a known one can be stored. -/
theorem exists_put_synced {refund : PaymentRefund} (hRefund : refund ∈ db.refunds.rows)
    (params : SyncRefundFromWebhookParams) (now : Instant) :
    ∃ table, db.refunds.put (syncedRefund params now refund) = some table := by
  refine Option.isSome_iff_exists.mp (Table.put_isSome_iff.mpr (Table.admits_of_same hRefund rfl rfl ?_))
  intro column hColumn
  simp only [Record.unique, List.mem_cons, List.not_mem_nil, or_false] at hColumn
  rw [hColumn]
  rfl

/-- An accepted list of writes with one transaction row changes that row only. -/
theorem get?_stored {writes : List Write} {row : PaymentTransaction}
    (hRows : writes.filterMap Write.transaction? = [row])
    (hAccepted : ∃ written, db.writeAll writes = some written) (id : Uuid) :
    (db.store writes).transactions.get? id =
      if row.id = id then some row else db.transactions.get? id := by
  obtain ⟨written, hWritten⟩ := hAccepted
  rw [Database.store_of_writeAll hWritten, (Database.written_of_writeAll hWritten).get?_single hRows]

/-- A change whose conditions hold is what the call does to the transactions. -/
theorem serve_of_change {call : Call} {row : PaymentTransaction} (hTx : tx ∈ world.db.transactions.rows)
    (hChange : Change config world.db env call tx row) (id : Uuid) :
    (serve config world { call, env }).db.transactions.get? id =
      if tx.id = id then some row else world.db.transactions.get? id := by
  cases hChange with
  | @captured _ _ params event hCaptures hOpen hFree =>
      rw [serve_of_captures hCaptures hOpen]
      exact get?_stored rfl ((captureWrites_accepted hTx params event).mpr hFree) id
  | @failed _ entity _ foodOrderId hReported hFood hOpen =>
      rw [serve_failed hReported hFood hOpen]
      exact get?_stored rfl (failureWrites_accepted hTx entity foodOrderId) id
  | @markedFailed _ entity _ hReported hPlain hOpen =>
      rw [serve_markedFailed hReported hPlain hOpen]
      exact get?_stored rfl
        (transaction_accepted (markedFailedRow entity.failureReason env.now tx) hTx rfl rfl rfl rfl) id
  | @activated _ _ plan paymentId signature hActivates hOpen hFree hReady =>
      obtain ⟨written, hWritten⟩ := (activationWrites_accepted hTx
        (activationParams tx plan paymentId signature env.now)).mpr ⟨hFree, hReady⟩
      rw [serve_of_activates hActivates hOpen]
      show (world.db.store _).transactions.get? id = _
      rw [Database.store_of_writeAll hWritten, get?_activated hWritten]
  | @refunded input _ paymentId answer hAccepted hAnswer hFresh =>
      have hRows : (refundWrites world.db env input tx answer).filterMap Write.transaction? =
          [statusRow .refunded env.now tx] := by
        rw [refundWrites, List.filterMap_append, voidedInvoices_transaction?]
        rfl
      rw [serve_processOrderRefund hAccepted hAnswer]
      exact get?_stored hRows ((refundWrites_accepted hAccepted answer).mpr hFresh) id
  | @settled _ params _ hReported hProcessed hRefund =>
      have hRows (refund : PaymentRefund) :
          (Write.refund refund :: settlement world.db params.status tx env.now).filterMap
            Write.transaction? = [statusRow .refunded env.now tx] := by
        show (settlement world.db params.status tx env.now).filterMap Write.transaction? = _
        rw [settlement_transaction?, if_pos hProcessed]
      rcases hRefund with ⟨refund, hKnown, hRow⟩ | ⟨hUnknown, hFits, paymentId, hPayment, hRow⟩
      · obtain ⟨refunds, hPut⟩ := exists_put_synced (Table.lookup_mem hKnown).1 params env.now
        rw [serve_refundSynced hReported hKnown hRow]
        exact get?_stored (hRows _) (settlement_accepted hTx hPut _ _) id
      · obtain ⟨refunds, hPut⟩ := (exists_put_refund (reportedRefund params tx env.now)).mpr ⟨hFits, hUnknown⟩
        rw [serve_refundRecorded hReported hUnknown hPayment hRow]
        exact get?_stored (hRows _) (settlement_accepted hTx hPut _ _) id
  | reset hAccepted hPending hFailed =>
      rw [serve_reset hAccepted hPending hFailed]
      exact get?_stored rfl (transaction_accepted (statusRow .created env.now tx) hTx rfl rfl rfl rfl) id

end SpotqPayment
