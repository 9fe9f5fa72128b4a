import SpotqPayment.Library.RowDiscipline
import SpotqPayment.System.Isolation

/-! What the service records once. Every row has columns that its later life changes,
such as its status, and columns that say what it is about. Whatever the use cases pass
to the repositories, no statement that a repository issues changes the second kind. -/
namespace SpotqPayment

open Process Engine ReadCommitted PaymentTransactionRepository SubscriptionRepository

/-! A row without the columns that may change. -/
section Recorded

def PaymentTransaction.recorded (tx : PaymentTransaction) : PaymentTransaction :=
  { tx with
    subscriptionId := none, razorpayPaymentId := none, razorpaySignature := none, status := .created
    failureReason := none, metadata := none, updatedAt := tx.createdAt }

def PaymentRefund.recorded (refund : PaymentRefund) : PaymentRefund :=
  { refund with status := .pending, arn := none, processedAt := none }

def Subscription.recorded (subscription : Subscription) : Subscription :=
  { subscription with status := .active, updatedAt := subscription.createdAt }

def BillingInvoice.recorded (invoice : BillingInvoice) : BillingInvoice :=
  { invoice with
    subscriptionId := none, status := .draft, invoicePdfKey := none, paidAt := none
    updatedAt := invoice.createdAt }

def OutboxEvent.recorded (event : OutboxEvent) : OutboxEvent :=
  { event with status := .pending, retryCount := 0, lastError := none, publishedAt := none }

def Write.recorded : Write → Write
  | .transaction row => .transaction row.recorded
  | .refund row => .refund row.recorded
  | .subscription row => .subscription row.recorded
  | .invoice row => .invoice row.recorded
  | .outbox row => .outbox row.recorded

end Recorded

/-- An update leaves the recorded columns of every row alone. -/
def Statement.KeepsRecord : Statement → Prop
  | .updateTransaction _ data | .updateManyTransactions _ data => ∀ row, (data row).recorded = row.recorded
  | .updateRefund _ data => ∀ row, (data row).recorded = row.recorded
  | .updateManySubscriptions _ data => ∀ row, (data row).recorded = row.recorded
  | .updateInvoice _ data | .updateManyInvoices _ data => ∀ row, (data row).recorded = row.recorded
  | _ => True

/-- A row that has been written is the version behind its lock. -/
theorem Database.row_write_self {db after : Database} {write : Write} (h : db.write write = some after) :
    after.row write.lock = some write := by
  cases write with
  | transaction row =>
      obtain ⟨table, hPut, rfl⟩ := write_transaction_eq_some.mp h
      exact congrArg (Option.map Write.transaction) (Table.get?_put_self hPut)
  | refund row =>
      obtain ⟨table, hPut, rfl⟩ := write_refund_eq_some.mp h
      exact congrArg (Option.map Write.refund) (Table.get?_put_self hPut)
  | subscription row =>
      obtain ⟨table, hPut, rfl⟩ := write_subscription_eq_some.mp h
      exact congrArg (Option.map Write.subscription) (Table.get?_put_self hPut)
  | invoice row =>
      obtain ⟨table, hPut, rfl⟩ := write_invoice_eq_some.mp h
      exact congrArg (Option.map Write.invoice) (Table.get?_put_self hPut)
  | outbox row =>
      obtain ⟨table, hPut, rfl⟩ := write_outbox_eq_some.mp h
      exact congrArg (Option.map Write.outbox) (Table.get?_put_self hPut)

theorem paymentStore_own {world after : World} {write : Write} (h : paymentStore.apply world write = some after) :
    paymentStore.row after (paymentStore.lock write) = some write := by
  obtain ⟨db, hDb, rfl⟩ := Option.map_eq_some_iff.mp h
  exact Database.row_write_self hDb

/-- Every version of a row has the same record. -/
def recordDiscipline : Discipline paymentStore where
  steady := fun _ => True
  proper := fun _ _ => True
  succeeds := fun version old => version.recorded = old.recorded
  refl := fun _ => rfl
  trans := fun hNewest hNewer => hNewest.trans hNewer
  own := paymentStore_own
  steady_apply := fun _ _ => trivial
  steady_carry := fun _ _ => trivial
  lasts := fun _ _ => trivial

section Statements

variable {db : Database} {env : Env}

theorem Write.recorded_lock (write : Write) : write.recorded.lock = write.lock := by
  cases write <;> rfl

/-- The record of a write is that of the stored row if it is that of some stored row. -/
theorem Write.recorded_of_stored {write version : Write} (hStored : db.row version.lock = some version)
    (hSame : write.recorded = version.recorded) {old : Write} (hOld : db.row write.lock = some old) :
    write.recorded = old.recorded := by
  have hLock : write.lock = version.lock := by
    rw [← write.recorded_lock, ← version.recorded_lock, hSame]
  rw [hLock, hStored] at hOld
  cases hOld
  exact hSame

theorem Database.row_transaction {row : PaymentTransaction} (h : row ∈ db.transactions.rows) :
    db.row (Write.transaction row).lock = some (.transaction row) :=
  congrArg (Option.map Write.transaction) (Table.get?_key h)

theorem Database.row_refund {row : PaymentRefund} (h : row ∈ db.refunds.rows) :
    db.row (Write.refund row).lock = some (.refund row) :=
  congrArg (Option.map Write.refund) (Table.get?_key h)

theorem Database.row_subscription {row : Subscription} (h : row ∈ db.subscriptions.rows) :
    db.row (Write.subscription row).lock = some (.subscription row) :=
  congrArg (Option.map Write.subscription) (Table.get?_key h)

theorem Database.row_invoice {row : BillingInvoice} (h : row ∈ db.invoices.rows) :
    db.row (Write.invoice row).lock = some (.invoice row) :=
  congrArg (Option.map Write.invoice) (Table.get?_key h)

/-- The versions that a statement writes: its data under a new key, or its update of a
row that matches. -/
def Statement.Yields (db : Database) : Statement → Write → Prop
  | .createTransaction data, write => ∃ id now, db.row (.transaction id) = none ∧ write = .transaction (data.toRow id now)
  | .createRefund data, write => ∃ id now, db.row (.refund id) = none ∧ write = .refund (data.toRow id now)
  | .createSubscription data, write =>
      ∃ id now, db.row (.subscription id) = none ∧ write = .subscription (data.toRow id now)
  | .createInvoice data, write => ∃ id now, db.row (.invoice id) = none ∧ write = .invoice (data.toRow id now)
  | .createOutboxEvent data, write => ∃ id now, db.row (.outbox id) = none ∧ write = .outbox (data.toRow id now)
  | .updateTransaction key data, write => ∃ row, db.findTransaction key = some row ∧ write = .transaction (data row)
  | .updateManyTransactions matching data, write =>
      ∃ row ∈ db.transactions.rows, matching row = true ∧ write = .transaction (data row)
  | .updateRefund id data, write => ∃ row, db.refunds.get? id = some row ∧ write = .refund (data row)
  | .updateManySubscriptions matching data, write =>
      ∃ row ∈ db.subscriptions.rows, matching row = true ∧ write = .subscription (data row)
  | .updateInvoice id data, write => ∃ row, db.invoices.get? id = some row ∧ write = .invoice (data row)
  | .updateManyInvoices matching data, write =>
      ∃ row ∈ db.invoices.rows, matching row = true ∧ write = .invoice (data row)
  | _, _ => False

/-- The results of an update of all rows that match. -/
theorem yields_of_updateMany {Row : Type} {rows : List Row} {matching : Row → Bool} {data : Row → Row}
    {wrap : Row → Write} {write : Write} (hWrite : write ∈ (rows.filter matching).map fun row => wrap (data row)) :
    ∃ row ∈ rows, matching row = true ∧ write = wrap (data row) := by
  obtain ⟨row, hRow, rfl⟩ := List.mem_map.mp hWrite
  obtain ⟨hMem, hMatch⟩ := List.mem_filter.mp hRow
  exact ⟨row, hMem, hMatch, rfl⟩

theorem Statement.yields_of_eval {statement : Statement} {result : statement.Answer} {writes : List Write}
    (hEval : statement.eval env db = .ok (result, writes)) : ∀ write ∈ writes, statement.Yields db write := by
  cases statement with
  | createTransaction data =>
      cases hEval
      exact List.forall_mem_singleton.mpr ⟨_, _, congrArg (Option.map Write.transaction) Table.get?_freshKey, rfl⟩
  | createRefund data =>
      cases hEval
      exact List.forall_mem_singleton.mpr ⟨_, _, congrArg (Option.map Write.refund) Table.get?_freshKey, rfl⟩
  | createSubscription data =>
      cases hEval
      exact List.forall_mem_singleton.mpr ⟨_, _, congrArg (Option.map Write.subscription) Table.get?_freshKey, rfl⟩
  | createInvoice data =>
      cases hEval
      exact List.forall_mem_singleton.mpr ⟨_, _, congrArg (Option.map Write.invoice) Table.get?_freshKey, rfl⟩
  | createOutboxEvent data =>
      cases hEval
      exact List.forall_mem_singleton.mpr ⟨_, _, congrArg (Option.map Write.outbox) Table.get?_freshKey, rfl⟩
  | updateTransaction key data =>
      unfold Statement.eval at hEval
      cases hRow : db.findTransaction key with
      | none =>
          simp only [hRow] at hEval
          cases hEval
      | some row =>
          simp only [hRow] at hEval
          cases hEval
          exact List.forall_mem_singleton.mpr ⟨row, hRow, rfl⟩
  | updateRefund id data =>
      unfold Statement.eval at hEval
      cases hRow : db.refunds.get? id with
      | none =>
          simp only [hRow] at hEval
          cases hEval
      | some row =>
          simp only [hRow] at hEval
          cases hEval
          exact List.forall_mem_singleton.mpr ⟨row, hRow, rfl⟩
  | updateInvoice id data =>
      unfold Statement.eval at hEval
      cases hRow : db.invoices.get? id with
      | none =>
          simp only [hRow] at hEval
          cases hEval
      | some row =>
          simp only [hRow] at hEval
          cases hEval
          exact List.forall_mem_singleton.mpr ⟨row, hRow, rfl⟩
  | updateManyTransactions matching data =>
      cases hEval
      exact fun write hWrite => yields_of_updateMany hWrite
  | updateManySubscriptions matching data =>
      cases hEval
      exact fun write hWrite => yields_of_updateMany hWrite
  | updateManyInvoices matching data =>
      cases hEval
      exact fun write hWrite => yields_of_updateMany hWrite
  | _ =>
      cases hEval
      exact fun write hWrite => absurd hWrite List.not_mem_nil

/-- A write under a new key, or of a stored row whose record it keeps. -/
inductive Write.Continues (db : Database) (write : Write) : Prop where
  | fresh (hNone : db.row write.lock = none)
  | same {version : Write} (hStored : db.row version.lock = some version) (hSame : write.recorded = version.recorded)

theorem Statement.continues_of_yields {statement : Statement} (h : statement.KeepsRecord) {write : Write}
    (hYields : statement.Yields db write) : write.Continues db := by
  cases statement with
  | createTransaction data | createRefund data | createSubscription data | createInvoice data | createOutboxEvent data =>
      obtain ⟨id, now, hNone, rfl⟩ := hYields
      exact .fresh hNone
  | updateTransaction key data =>
      obtain ⟨row, hRow, rfl⟩ := hYields
      exact .same (Database.row_transaction (Database.findTransaction_mem hRow)) (congrArg Write.transaction (h row))
  | updateManyTransactions matching data =>
      obtain ⟨row, hRow, _, rfl⟩ := hYields
      exact .same (Database.row_transaction hRow) (congrArg Write.transaction (h row))
  | updateRefund id data =>
      obtain ⟨row, hRow, rfl⟩ := hYields
      exact .same (Database.row_refund (Table.get?_eq_some.mp hRow).1) (congrArg Write.refund (h row))
  | updateManySubscriptions matching data =>
      obtain ⟨row, hRow, _, rfl⟩ := hYields
      exact .same (Database.row_subscription hRow) (congrArg Write.subscription (h row))
  | updateInvoice id data =>
      obtain ⟨row, hRow, rfl⟩ := hYields
      exact .same (Database.row_invoice (Table.get?_eq_some.mp hRow).1) (congrArg Write.invoice (h row))
  | updateManyInvoices matching data =>
      obtain ⟨row, hRow, _, rfl⟩ := hYields
      exact .same (Database.row_invoice hRow) (congrArg Write.invoice (h row))
  | _ => cases hYields

/-- So its writes agree with the rows that are stored. -/
theorem Statement.recorded_of_eval {statement : Statement} (h : statement.KeepsRecord) {result : statement.Answer}
    {writes : List Write} (hEval : statement.eval env db = .ok (result, writes)) {write : Write}
    (hWrite : write ∈ writes) {old : Write} (hOld : db.row write.lock = some old) : write.recorded = old.recorded := by
  cases Statement.continues_of_yields h (Statement.yields_of_eval hEval write hWrite) with
  | fresh hNone => cases hNone.symm.trans hOld
  | same hStored hSame => exact Write.recorded_of_stored hStored hSame hOld

end Statements

/-! The repositories, whatever the use cases pass to them. -/
section Methods

/-- A method that issues only such statements. -/
abbrev RecordSafe {Value : Type} (body : Repository Value) : Prop :=
  body.Respects Statement.KeepsRecord fun _ _ => True

theorem recordSafe_capture (params : CaptureOrderPaymentWithOutboxParams) :
    RecordSafe (captureOrderPaymentWithOutbox params) := by
  refine Respects.call_bind trivial fun found _ => ?_
  cases found with
  | none => trivial
  | some existing =>
      simp only
      split
      · trivial
      · refine Respects.call_bind (fun row => rfl) fun updated _ => ?_
        exact Respects.call_bind trivial fun event _ => trivial

theorem recordSafe_fail (params : FailOrderPaymentWithOutboxParams) :
    RecordSafe (failOrderPaymentWithOutbox params) := by
  refine Respects.call_bind trivial fun found _ => ?_
  cases found with
  | none => trivial
  | some existing =>
      simp only
      split
      · trivial
      · refine Respects.call_bind (fun row => rfl) fun updated _ => ?_
        exact Respects.call_bind trivial fun event _ => trivial

theorem recordSafe_voidInvoices (transactionId : Uuid) (now : Instant) : RecordSafe (voidInvoices transactionId now) :=
  Respects.call fun _ => rfl

theorem recordSafe_refund (params : ProcessOrderRefundParams) (now : Instant) :
    RecordSafe (PaymentTransactionRepository.processOrderRefund params now) := by
  refine Respects.call_bind trivial fun found _ => ?_
  cases found with
  | none => trivial
  | some existing =>
      simp only
      split
      · trivial
      · refine Respects.call_bind (fun row => rfl) fun updated _ => ?_
        refine Respects.call_bind trivial fun refund _ => ?_
        exact (recordSafe_voidInvoices _ _).bind fun count => trivial

theorem recordSafe_settleRefund (transactionId : Uuid) (now : Instant) :
    RecordSafe (settleRefund transactionId now) := by
  refine Respects.call_bind (fun row => rfl) fun updated _ => ?_
  exact (recordSafe_voidInvoices _ _).bind fun count => trivial

theorem recordSafe_syncRefund (params : SyncRefundFromWebhookParams) (now : Instant) :
    RecordSafe (syncRefundFromWebhook params now) := by
  refine Respects.call_bind trivial fun found _ => ?_
  cases found with
  | some refund =>
      simp only
      refine Respects.call_bind (fun row => rfl) fun updated _ => ?_
      split
      · exact recordSafe_settleRefund _ _
      · trivial
  | none =>
      simp only
      split
      · trivial
      · refine Respects.call_bind trivial fun row _ => ?_
        cases row with
        | none => trivial
        | some txRecord =>
            simp only
            refine Respects.call_bind trivial fun refund _ => ?_
            split
            · exact recordSafe_settleRefund _ _
            · trivial

theorem recordSafe_linkedSubscription (tx : Option PaymentTransaction) : RecordSafe (linkedSubscription tx) := by
  unfold linkedSubscription
  split
  · trivial
  · exact Respects.call trivial

variable (params : ActivateSubscriptionWithOutboxParams) (existingTx : Option PaymentTransaction)
variable (invoiceNumber : String) (now : Instant)

theorem recordSafe_recordInvoice (subscriptionId : Uuid) :
    RecordSafe (recordInvoice params existingTx subscriptionId invoiceNumber now) := by
  refine Respects.call_bind trivial fun found _ => ?_
  split
  · exact Respects.call_bind (fun row => rfl) fun updated _ => trivial
  · exact Respects.call_bind trivial fun created _ => trivial
  · trivial

theorem recordSafe_openSubscription : RecordSafe (openSubscription params existingTx invoiceNumber now) := by
  refine Respects.call_bind trivial fun subRecord _ => ?_
  refine Respects.call_bind (fun row => rfl) fun updated _ => ?_
  refine (recordSafe_recordInvoice params existingTx invoiceNumber now _).bind fun _ => ?_
  exact Respects.call_bind trivial fun event _ => trivial

theorem recordSafe_claimAndOpen : RecordSafe (claimAndOpen params existingTx invoiceNumber now) := by
  refine Respects.call_bind (fun row => rfl) fun count _ => ?_
  split
  · refine Respects.call_bind trivial fun updatedTx _ => ?_
    refine (recordSafe_linkedSubscription updatedTx).bind fun linked => ?_
    cases linked with
    | none => exact recordSafe_openSubscription params existingTx invoiceNumber now
    | some existingSub => trivial
  · exact recordSafe_openSubscription params existingTx invoiceNumber now

theorem recordSafe_activate : RecordSafe (activateSubscriptionWithOutbox params invoiceNumber now) := by
  refine Respects.call_bind trivial fun existing _ => ?_
  refine (recordSafe_linkedSubscription _).bind fun linked => ?_
  cases linked with
  | none => exact recordSafe_claimAndOpen params existing invoiceNumber now
  | some existingSub => trivial

open PaymentSubscriptionExpiryService in
theorem recordSafe_expire (pastDue : List (Subscription × SubscriptionPlan)) : RecordSafe (expire pastDue now) := by
  have hAnnounce : ∀ rest, RecordSafe (announceExpiry now rest) := by
    intro rest
    induction rest with
    | nil => trivial
    | cons pair rest ih => exact Respects.call_bind trivial fun event _ => ih
  exact Respects.call_bind (fun row => rfl) fun count _ => hAnnounce pastDue

/-- No repository method changes what a row records. -/
theorem recordSafe_body (env : Env) (request : RepositoryCall) : RecordSafe (request.body env) := by
  cases request with
  | captureOrderPaymentWithOutbox params => exact recordSafe_capture params
  | failOrderPaymentWithOutbox params => exact recordSafe_fail params
  | processOrderRefund params => exact recordSafe_refund params env.now
  | syncRefundFromWebhook params => exact recordSafe_syncRefund params env.now
  | markFailed razorpayOrderId failureReason => exact Respects.call fun row => rfl
  | resetToCreated razorpayOrderId => exact Respects.call fun row => rfl
  | activateSubscriptionWithOutbox params => exact recordSafe_activate params env.invoiceNumber env.now
  | expireSubscriptions pastDue now => exact recordSafe_expire now pastDue
  | _ => exact Respects.call trivial

end Methods

end SpotqPayment
