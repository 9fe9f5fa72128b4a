import SpotqPayment.System.Disciplines

/-! What a request names. A payment and its refunds can be changed only by requests
that carry its ids, and a customer or a restaurant can name no payment of another. -/
namespace SpotqPayment

open Process Engine ReadCommitted PaymentTransactionRepository SubscriptionRepository

/-- The events of a webhook are about a payment: they carry its gateway order or, for a
refund, its payment id or the id of one of its refunds. -/
def WebhookPayload.Names (db : Database) (tx : PaymentTransaction) (payload : WebhookPayload) : Prop :=
  match payload.event with
  | .refundProcessed | .refundFailed => ∃ refund ∈ payload.refund,
      (∃ row ∈ db.refunds.rows, row.paymentTransactionId = tx.id ∧ refund.id = some row.razorpayRefundId) ∨
        ∃ paymentId, truthy (orElse refund.paymentId payload.paymentId) = some paymentId ∧
          tx.razorpayPaymentId = some paymentId
  | _ => payload.reportedOrder = some tx.razorpayOrderId

/-- The call carries the ids of a payment, and those of its owner where it needs them. -/
def Call.Names (db : Database) (tx : PaymentTransaction) : Call → Prop
  | .createOrderPayment _ => False
  | .verifyOrderPayment input => input.razorpayOrderId = tx.razorpayOrderId ∧ tx.orderId = some input.orderId ∧
      (tx.customerId = none ∨ tx.customerId = input.customerId)
  | .processOrderRefund input => tx.orderId = some input.orderId
  | .createSubscriptionOrder input => input.restaurantId = some tx.restaurantId ∧ tx.planId = some input.planId
  | .verifyPayment input => input.razorpayOrderId = tx.razorpayOrderId ∧ tx.planId.isSome ∧
      ∀ restaurantId ∈ input.restaurantId, restaurantId = tx.restaurantId
  | .handleWebhook input => input.parsedPayload.Names db tx
  | .expirePastDueSubscriptions => False

section Discipline

variable (db : Database) (tx : PaymentTransaction)

/-- The only version of the payment, and one of the refunds that it had. -/
def Write.Spares : Write → Prop
  | .transaction row => row.id = tx.id → row = tx
  | .refund row => row.paymentTransactionId = tx.id → row ∈ db.refunds.rows
  | _ => True

/-- The database holds a payment with this id. -/
def PaymentTransaction.Present (world : World) : Prop := (world.db.transactions.get? tx.id).isSome = true

theorem present_apply {tx : PaymentTransaction} {world after : World} {write : Write}
    (hWrite : paymentStore.apply world write = some after) (hPresent : tx.Present world) : tx.Present after := by
  obtain ⟨db, hDb, rfl⟩ := Option.map_eq_some_iff.mp hWrite
  by_cases hLock : RowLock.transaction tx.id = write.lock
  · have hRow := Database.row_write_self hDb
    rw [← hLock] at hRow
    obtain ⟨row, hGet, _⟩ := Option.map_eq_some_iff.mp hRow
    exact Option.isSome_iff_exists.mpr ⟨row, hGet⟩
  · have hSame := congrArg Option.isSome (Database.row_write hDb (.transaction tx.id) hLock)
    simp only [Database.row, Option.isSome_map] at hSame
    exact hSame.trans hPresent

theorem present_carry {tx : PaymentTransaction} {env : Env} {port : Port} {world : World}
    {answer : Except ServiceError port.Answer} {after : World}
    (hCarry : paymentStore.carry env port world = .inl (answer, after)) (hPresent : tx.Present world) :
    tx.Present after := by
  rwa [PaymentTransaction.Present, carry_db hCarry]

theorem recorded_refl (version : Write) : version.recorded = version.recorded := rfl

theorem recorded_trans {newest newer old : Write} (hNewest : newest.recorded = newer.recorded)
    (hNewer : newer.recorded = old.recorded) : newest.recorded = old.recorded :=
  hNewest.trans hNewer

/-- The payment and its refunds stay as they are in the database. -/
def sparingDiscipline : Discipline paymentStore where
  steady := tx.Present
  proper := fun _ => Write.Spares db tx
  succeeds := fun version old => version.recorded = old.recorded
  refl := recorded_refl
  trans := recorded_trans
  own := paymentStore_own
  steady_apply := present_apply
  steady_carry := present_carry
  lasts := fun _ hProper => hProper

end Discipline

variable {db : Database} {tx : PaymentTransaction} {world view after : World}

section Statements

/-- What the rules ask of a statement on the rows that it sees. -/
def Statement.Spares (tx : PaymentTransaction) (db : Database) : Statement → Prop
  | .updateTransaction key _ => ∀ row, db.findTransaction key = some row → row.id ≠ tx.id
  | .updateManyTransactions matching _ => ∀ row ∈ db.transactions.rows, matching row = true → row.id ≠ tx.id
  | .createRefund data => data.paymentTransactionId ≠ tx.id
  | .updateRefund id _ => ∀ row, db.refunds.get? id = some row → row.paymentTransactionId ≠ tx.id
  | _ => True

/-- The payment is the only one with its id. -/
theorem eq_of_kept (hKept : (sparingDiscipline db tx).Kept world) {row : PaymentTransaction}
    (hRow : row ∈ world.db.transactions.rows) (hId : row.id = tx.id) : row = tx :=
  hKept.proper (.transaction row.id) (.transaction row) (Database.row_transaction hRow) hId

/-- Its refunds are those that it had. -/
theorem refund_of_kept (hKept : (sparingDiscipline db tx).Kept world) {row : PaymentRefund}
    (hRow : row ∈ world.db.refunds.rows) (hTx : row.paymentTransactionId = tx.id) : row ∈ db.refunds.rows :=
  hKept.proper (.refund row.id) (.refund row) (Database.row_refund hRow) hTx

theorem stored_of_kept (hKept : (sparingDiscipline db tx).Kept world) : tx ∈ world.db.transactions.rows := by
  obtain ⟨row, hRow⟩ := Option.isSome_iff_exists.mp hKept.steady
  obtain ⟨hMem, hId⟩ := Table.get?_eq_some.mp hRow
  exact eq_of_kept hKept hMem hId ▸ hMem

/-- So it is the only one of its gateway order and with its payment id. -/
theorem eq_of_orderId (hKept : (sparingDiscipline db tx).Kept world) {row : PaymentTransaction}
    (hRow : row ∈ world.db.transactions.rows) (hOrder : row.razorpayOrderId = tx.razorpayOrderId) : row = tx :=
  eq_of_kept hKept hRow (Database.id_eq_of_orderId hRow (stored_of_kept hKept) hOrder)

theorem Statement.Spares.spares {statement : Statement} (h : statement.Spares tx world.db)
    (hRecord : statement.KeepsRecord) (hKept : (sparingDiscipline db tx).Kept world) {write : Write}
    (hYields : statement.Yields world.db write) : write.Spares db tx := by
  cases statement with
  | createTransaction data =>
      obtain ⟨id, now, hNone, rfl⟩ := hYields
      intro hId
      have hStored := Database.row_transaction (stored_of_kept hKept)
      have hLock : (Write.transaction tx).lock = .transaction id := congrArg RowLock.transaction hId.symm
      rw [hLock, hNone] at hStored
      cases hStored
  | updateTransaction key data =>
      obtain ⟨row, hRow, rfl⟩ := hYields
      have hSame : (data row).recorded.id = row.recorded.id := congrArg PaymentTransaction.id (hRecord row)
      exact fun hId => absurd (hSame.symm.trans hId) (h row hRow)
  | updateManyTransactions matching data =>
      obtain ⟨row, hRow, hMatch, rfl⟩ := hYields
      have hSame : (data row).recorded.id = row.recorded.id := congrArg PaymentTransaction.id (hRecord row)
      exact fun hId => absurd (hSame.symm.trans hId) (h row hRow hMatch)
  | createRefund data =>
      obtain ⟨id, now, _, rfl⟩ := hYields
      exact fun hTx => absurd hTx h
  | updateRefund id data =>
      obtain ⟨row, hRow, rfl⟩ := hYields
      have hSame : (data row).recorded.paymentTransactionId = row.recorded.paymentTransactionId :=
        congrArg PaymentRefund.paymentTransactionId (hRecord row)
      exact fun hTx => absurd (hSame.symm.trans hTx) (h row hRow)
  | createSubscription data | createInvoice data | createOutboxEvent data =>
      obtain ⟨id, now, _, rfl⟩ := hYields
      trivial
  | updateManySubscriptions matching data | updateManyInvoices matching data =>
      obtain ⟨row, _, _, rfl⟩ := hYields
      trivial
  | updateInvoice id data =>
      obtain ⟨row, _, rfl⟩ := hYields
      trivial
  | _ => cases hYields

theorem logged_spares {env : Env} {statement : Statement} {result : statement.Answer} {writes : List Write}
    (hRecord : statement.KeepsRecord) (h : statement.Spares tx world.db) (hKept : (sparingDiscipline db tx).Kept world)
    (hEval : statement.eval env world.db = .ok (result, writes)) : (sparingDiscipline db tx).Logged world writes :=
  Discipline.Logged.of_each fun write hWrite =>
    ⟨fun _ _ => h.spares hRecord hKept (Statement.yields_of_eval hEval write hWrite),
      fun _ hOld => Statement.recorded_of_eval hRecord hEval hWrite hOld⟩

/-- A statement that spares the payment from now on may be executed. -/
theorem permits_sparing {statement : Statement} (hRecord : statement.KeepsRecord)
    (h : ∀ later, (sparingDiscipline db tx).Follows world later → (sparingDiscipline db tx).Kept later →
      statement.Spares tx later.db) : (sparingDiscipline db tx).Permits world statement :=
  fun after hAfter _ _ _ hKept hEval => logged_spares hRecord (h after hAfter hKept) hKept hEval

theorem permits_other {statement : Statement} (hRecord : statement.KeepsRecord)
    (h : ∀ db, statement.Spares tx db) : (sparingDiscipline db tx).Permits world statement :=
  permits_sparing hRecord fun later _ _ => h later.db

theorem permits_id {id : Uuid} {data : PaymentTransaction → PaymentTransaction} (hId : id ≠ tx.id)
    (hRecord : ∀ row, (data row).recorded = row.recorded) :
    (sparingDiscipline db tx).Permits world (.updateTransaction (.id id) data) :=
  permits_other hRecord fun _ _ hRow => (Table.get?_eq_some.mp hRow).2.trans_ne hId

theorem permits_order {razorpayOrderId : String} {data : PaymentTransaction → PaymentTransaction}
    (hOrder : razorpayOrderId ≠ tx.razorpayOrderId) (hRecord : ∀ row, (data row).recorded = row.recorded) :
    (sparingDiscipline db tx).Permits world (.updateTransaction (.razorpayOrderId razorpayOrderId) data) := by
  refine permits_sparing hRecord fun later _ hKept row hRow hId => hOrder ?_
  rw [← Database.findTransaction_orderId hRow, eq_of_kept hKept (Database.findTransaction_mem hRow) hId]

end Statements

/-- The method is not called on the payment. -/
def RepositoryCall.Spares (db : Database) (tx : PaymentTransaction) : RepositoryCall → Prop
  | .captureOrderPaymentWithOutbox params => params.transaction.id ≠ tx.id
  | .failOrderPaymentWithOutbox params => params.transaction.id ≠ tx.id
  | .processOrderRefund params => params.transaction.id ≠ tx.id
  | .syncRefundFromWebhook params =>
      (∀ row ∈ db.refunds.rows, row.paymentTransactionId = tx.id → row.razorpayRefundId ≠ params.razorpayRefundId) ∧
        ∀ paymentId, truthy params.razorpayPaymentId = some paymentId → tx.razorpayPaymentId ≠ some paymentId
  | .markFailed razorpayOrderId _ => razorpayOrderId ≠ tx.razorpayOrderId
  | .resetToCreated razorpayOrderId => razorpayOrderId ≠ tx.razorpayOrderId
  | .activateSubscriptionWithOutbox params => params.payment.razorpayOrderId ≠ tx.razorpayOrderId
  | _ => True

/-- What is read is what was asked for, and the payment as it is when it is that. -/
def AnswersApart (tx : PaymentTransaction) (request : RepositoryCall) (value : request.Answer) : Prop :=
  match request, value with
  | .findByOrderId razorpayOrderId, found => ∀ row ∈ found, row.razorpayOrderId = razorpayOrderId ∧
      (row.id = tx.id → row = tx) ∧ (row.razorpayOrderId = tx.razorpayOrderId → row = tx)
  | .findByCustomerOrderId orderId, found => ∀ row ∈ found, row.orderId = some orderId ∧ (row.id = tx.id → row = tx)
  | .findPendingByRestaurantAndPlan restaurantId planId, found => ∀ row ∈ found, row.restaurantId = restaurantId ∧
      row.planId = some planId ∧ (row.razorpayOrderId = tx.razorpayOrderId → row = tx)
  | .findPlanById id, found => ∀ plan ∈ found, plan.id = id
  | _, _ => True

section Methods

/-- A method of statements that the rules permit. -/
abbrev Sparing {Value : Type} (db : Database) (tx : PaymentTransaction) (world : World) (body : Repository Value) : Prop :=
  body.Respects ((sparingDiscipline db tx).Permits world) fun _ _ => True

/-- What a method does and answers, as far as the payment goes. -/
abbrev SparingWith {Final : Type} (db : Database) (tx : PaymentTransaction) (onValue : Final → World → Prop)
    (body : Repository Final) (view : World) : Prop :=
  @Discipline.Obeys _ _ _ _ _ _ _ _ _ paymentStore _ (sparingDiscipline db tx) onValue body view

theorem sparing_capture {params : CaptureOrderPaymentWithOutboxParams} (hId : params.transaction.id ≠ tx.id) :
    Sparing db tx world (captureOrderPaymentWithOutbox params) := by
  refine Respects.call_bind (permits_other trivial fun _ => trivial) fun found _ => ?_
  cases found with
  | none => trivial
  | some existing =>
      simp only
      split
      · trivial
      · refine Respects.call_bind (permits_id hId fun row => rfl) fun updated _ => ?_
        exact Respects.call_bind (permits_other trivial fun _ => trivial) fun event _ => trivial

theorem sparing_fail {params : FailOrderPaymentWithOutboxParams} (hId : params.transaction.id ≠ tx.id) :
    Sparing db tx world (failOrderPaymentWithOutbox params) := by
  refine Respects.call_bind (permits_other trivial fun _ => trivial) fun found _ => ?_
  cases found with
  | none => trivial
  | some existing =>
      simp only
      split
      · trivial
      · refine Respects.call_bind (permits_id hId fun row => rfl) fun updated _ => ?_
        exact Respects.call_bind (permits_other trivial fun _ => trivial) fun event _ => trivial

theorem sparing_voidInvoices (transactionId : Uuid) (now : Instant) :
    Sparing db tx world (voidInvoices transactionId now) :=
  Respects.call (permits_other (fun _ => rfl) fun _ => trivial)

theorem sparing_refund {params : ProcessOrderRefundParams} (hId : params.transaction.id ≠ tx.id) (now : Instant) :
    Sparing db tx world (PaymentTransactionRepository.processOrderRefund params now) := by
  refine Respects.call_bind (permits_other trivial fun _ => trivial) fun found _ => ?_
  cases found with
  | none => trivial
  | some existing =>
      simp only
      split
      · trivial
      · refine Respects.call_bind (permits_id hId fun row => rfl) fun updated _ => ?_
        refine Respects.call_bind (permits_other trivial fun _ => hId) fun refund _ => ?_
        exact (sparing_voidInvoices _ _).bind fun count => trivial

theorem sparing_settleRefund {transactionId : Uuid} (hId : transactionId ≠ tx.id) (now : Instant) :
    Sparing db tx world (settleRefund transactionId now) := by
  refine Respects.call_bind (permits_id hId fun row => rfl) fun updated _ => ?_
  exact (sparing_voidInvoices _ _).bind fun count => trivial

/-- A refund of another payment, once it has been read. -/
theorem sparing_knownRefund {refund : PaymentRefund} (params : SyncRefundFromWebhookParams) (now : Instant)
    (hRefund : refund ∈ world.db.refunds.rows) (hTx : refund.paymentTransactionId ≠ tx.id) :
    Sparing db tx world (do
      let _ ← query (.updateRefund refund.id (syncedRefund params now))
      if params.status = .processed then settleRefund refund.paymentTransactionId now else return ()) := by
  refine Respects.call_bind (permits_sparing (fun row => rfl) fun later hLater _ row hRow => ?_) fun updated _ => ?_
  · obtain ⟨version, hVersion, hRecord⟩ :=
      hLater (.refund refund.id) (.refund refund) (Database.row_refund hRefund)
    have hGet : later.db.row (.refund refund.id) = some (.refund row) := congrArg (Option.map Write.refund) hRow
    cases hGet.symm.trans hVersion
    have hSame : row.recorded.paymentTransactionId = refund.recorded.paymentTransactionId :=
      congrArg PaymentRefund.paymentTransactionId (Write.refund.inj hRecord)
    exact fun hOther => hTx (hSame.symm.trans hOther)
  · split
    · exact sparing_settleRefund hTx now
    · trivial

/-- A refund that is not known yet, of another payment. -/
theorem sparing_newRefund {data : CreateRefundInput} (params : SyncRefundFromWebhookParams) (now : Instant)
    (hTx : data.paymentTransactionId ≠ tx.id) :
    Sparing db tx world (do
      let _ ← query (.createRefund data)
      if params.status = .processed then settleRefund data.paymentTransactionId now else return ()) := by
  refine Respects.call_bind (permits_other trivial fun _ => hTx) fun refund _ => ?_
  split
  · exact sparing_settleRefund hTx now
  · trivial

/-- A statement that reads, and the rest with what has been read. -/
theorem sparing_read {Final : Type} {onValue : Final → World → Prop} {statement : Statement}
    {next : statement.Answer → Repository Final}
    (hReads : ∀ env db result writes, statement.eval env db = .ok (result, writes) → writes = [])
    (hNext : ∀ env later result, (sparingDiscipline db tx).Kept later → statement.eval env later.db = .ok (result, []) →
      SparingWith db tx onValue (next result) later) :
    SparingWith db tx onValue (query statement >>= next) view := by
  refine Discipline.Obeys.call_bind fun env later result writes _ hKept hEval => ?_
  obtain rfl := hReads env later.db result writes hEval
  refine ⟨Discipline.logged_nil, fun before last hBefore _ hLast => ?_⟩
  cases hLast
  exact (hNext env later result hKept hEval).later hBefore

theorem sparing_syncRefund {params : SyncRefundFromWebhookParams}
    (h : (RepositoryCall.syncRefundFromWebhook params).Spares db tx) (now : Instant) :
    SparingWith db tx (fun _ _ => True) (syncRefundFromWebhook params now) view := by
  obtain ⟨hRefunds, hPayment⟩ := h
  refine sparing_read (fun _ _ _ _ hEval => by cases hEval; rfl) fun env later found hKept hEval => ?_
  have hFound : later.db.findRefund params.razorpayRefundId = found := congrArg Prod.fst (Except.ok.inj hEval)
  cases found with
  | some refund =>
      obtain ⟨hMem, hId⟩ := Table.lookup_mem hFound
      have hTx : refund.paymentTransactionId ≠ tx.id := by
        intro hSame
        exact hRefunds refund (refund_of_kept hKept hMem hSame) hSame (Option.some.inj hId)
      exact Discipline.obeys_of_permitted (sparing_knownRefund params now hMem hTx) fun _ _ _ => trivial
  | none =>
      simp only
      split
      · exact fun _ _ => trivial
      · next paymentId hPaymentId =>
          refine sparing_read (fun _ _ _ _ hEval => by cases hEval; rfl) fun env later row hKept hEval => ?_
          have hRow : later.db.findTransaction (.razorpayPaymentId paymentId) = row :=
            congrArg Prod.fst (Except.ok.inj hEval)
          cases row with
          | none => exact fun _ _ => trivial
          | some txRecord =>
              have hTx : txRecord.id ≠ tx.id := by
                intro hSame
                have hPaid := (Table.lookup_mem hRow).2
                rw [eq_of_kept hKept (Database.findTransaction_mem hRow) hSame] at hPaid
                exact hPayment paymentId hPaymentId hPaid
              exact Discipline.obeys_of_permitted (sparing_newRefund params now hTx) fun _ _ _ => trivial

section Activation

variable {params : ActivateSubscriptionWithOutboxParams} {existingTx : Option PaymentTransaction}
variable {invoiceNumber : String} {now : Instant}

theorem sparing_linkedSubscription (row : Option PaymentTransaction) : Sparing db tx world (linkedSubscription row) := by
  unfold linkedSubscription
  split
  · trivial
  · exact Respects.call (permits_other trivial fun _ => trivial)

theorem sparing_recordInvoice (subscriptionId : Uuid) :
    Sparing db tx world (recordInvoice params existingTx subscriptionId invoiceNumber now) := by
  refine Respects.call_bind (permits_other trivial fun _ => trivial) fun found _ => ?_
  split
  · exact Respects.call_bind (permits_other (fun row => rfl) fun _ => trivial) fun updated _ => trivial
  · exact Respects.call_bind (permits_other trivial fun _ => trivial) fun created _ => trivial
  · trivial

variable (hOrder : params.payment.razorpayOrderId ≠ tx.razorpayOrderId)

include hOrder

theorem sparing_openSubscription : Sparing db tx world (openSubscription params existingTx invoiceNumber now) := by
  refine Respects.call_bind (permits_other trivial fun _ => trivial) fun subRecord _ => ?_
  refine Respects.call_bind (permits_order hOrder fun row => rfl) fun updated _ => ?_
  refine (sparing_recordInvoice _).bind fun _ => ?_
  exact Respects.call_bind (permits_other trivial fun _ => trivial) fun event _ => trivial

theorem sparing_claimAndOpen : Sparing db tx world (claimAndOpen params existingTx invoiceNumber now) := by
  refine Respects.call_bind (permits_sparing (fun row => rfl) fun later _ hKept row hRow hMatch hId => hOrder ?_)
    fun count _ => ?_
  · obtain ⟨hSame, _⟩ := Bool.and_eq_true_iff.mp hMatch
    rw [← eq_of_kept hKept hRow hId]
    exact (of_decide_eq_true hSame).symm
  · split
    · refine Respects.call_bind (permits_other trivial fun _ => trivial) fun updatedTx _ => ?_
      refine (sparing_linkedSubscription updatedTx).bind fun linked => ?_
      cases linked with
      | none => exact sparing_openSubscription hOrder
      | some existingSub => trivial
    · exact sparing_openSubscription hOrder

theorem sparing_activate : Sparing db tx world (activateSubscriptionWithOutbox params invoiceNumber now) := by
  refine Respects.call_bind (permits_other trivial fun _ => trivial) fun existing _ => ?_
  refine (sparing_linkedSubscription _).bind fun linked => ?_
  cases linked with
  | none => exact sparing_claimAndOpen hOrder
  | some existingSub => trivial

end Activation

open PaymentSubscriptionExpiryService in
theorem sparing_expire (pastDue : List (Subscription × SubscriptionPlan)) (now : Instant) :
    Sparing db tx world (expire pastDue now) := by
  have hAnnounce : ∀ rest, Sparing db tx world (announceExpiry now rest) := by
    intro rest
    induction rest with
    | nil => trivial
    | cons pair rest ih => exact Respects.call_bind (permits_other trivial fun _ => trivial) fun event _ => ih
  exact Respects.call_bind (permits_other (fun row => rfl) fun _ => trivial) fun count _ => hAnnounce pastDue

/-- A method of one statement that reads. -/
theorem sparing_find {statement : Statement} {onValue : statement.Answer → Prop}
    (hReads : ∀ env db result writes, statement.eval env db = .ok (result, writes) → writes = [])
    (hValue : ∀ env later result, (sparingDiscipline db tx).Kept later → statement.eval env later.db = .ok (result, []) →
      onValue result) : SparingWith db tx (fun value _ => onValue value) (query statement) view := by
  refine Discipline.Obeys.call fun env later result writes _ hKept hEval => ?_
  obtain rfl := hReads env later.db result writes hEval
  exact ⟨Discipline.logged_nil, fun _ _ _ _ _ _ => hValue env later result hKept hEval⟩

theorem sparing_of_permitted {request : RepositoryCall} {env : Env} (h : Sparing db tx view (request.body env))
    (hAnswers : ∀ value, AnswersApart tx request value) :
    SparingWith db tx (fun value _ => AnswersApart tx request value) (request.body env) view :=
  Discipline.obeys_of_permitted h fun value _ _ => hAnswers value

theorem sparing_body {env : Env} {request : RepositoryCall} (h : request.Spares db tx) :
    SparingWith db tx (fun value _ => AnswersApart tx request value) (request.body env) view := by
  cases request with
  | findByOrderId razorpayOrderId =>
      refine sparing_find (fun _ _ _ _ hEval => by cases hEval; rfl) fun env later found hKept hEval row hRow => ?_
      cases hEval
      have hMem := Database.findTransaction_mem hRow
      exact ⟨Database.findTransaction_orderId hRow, eq_of_kept hKept hMem, eq_of_orderId hKept hMem⟩
  | findByCustomerOrderId orderId =>
      refine sparing_find (fun _ _ _ _ hEval => by cases hEval; rfl) fun env later found hKept hEval row hRow => ?_
      cases hEval
      obtain ⟨hMem, hMatch, _⟩ := Table.findFirst_some hRow
      exact ⟨of_decide_eq_true hMatch, eq_of_kept hKept hMem⟩
  | findPendingByRestaurantAndPlan restaurantId planId =>
      refine sparing_find (fun _ _ _ _ hEval => by cases hEval; rfl) fun env later found hKept hEval row hRow => ?_
      cases hEval
      obtain ⟨hMem, hMatch, _⟩ := Table.findFirst_some hRow
      simp only [Bool.and_eq_true, decide_eq_true_eq] at hMatch
      exact ⟨hMatch.1.1.1.1, hMatch.1.1.1.2, eq_of_orderId hKept hMem⟩
  | findPlanById id =>
      refine sparing_find (fun _ _ _ _ hEval => by cases hEval; rfl) fun env later found _ hEval plan hPlan => ?_
      cases hEval
      exact (Table.get?_eq_some.mp hPlan).2
  | captureOrderPaymentWithOutbox params => exact sparing_of_permitted (sparing_capture h) fun _ => trivial
  | failOrderPaymentWithOutbox params => exact sparing_of_permitted (sparing_fail h) fun _ => trivial
  | processOrderRefund params => exact sparing_of_permitted (sparing_refund h env.now) fun _ => trivial
  | syncRefundFromWebhook params => exact sparing_syncRefund h env.now
  | markFailed razorpayOrderId failureReason =>
      exact sparing_of_permitted (Respects.call (permits_order h fun row => rfl)) fun _ => trivial
  | resetToCreated razorpayOrderId =>
      exact sparing_of_permitted (Respects.call (permits_order h fun row => rfl)) fun _ => trivial
  | activateSubscriptionWithOutbox params => exact sparing_of_permitted (sparing_activate h) fun _ => trivial
  | expireSubscriptions pastDue now => exact sparing_of_permitted (sparing_expire pastDue now) fun _ => trivial
  | _ => exact sparing_of_permitted (Respects.call (permits_other trivial fun _ => trivial)) fun _ => trivial

end Methods

end SpotqPayment
