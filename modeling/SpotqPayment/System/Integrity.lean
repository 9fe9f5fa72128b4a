import SpotqPayment.System.Disciplines

/-! Rules for payments and subscriptions. Payments of food orders and payments of plans
share one table, and each kind has its own columns and its own paid status. The period of
a subscription begins at the time of some call, and a subscription expires only when its
period has ended by the clock of some call. -/
namespace SpotqPayment

open Process Engine ReadCommitted PaymentTransactionRepository SubscriptionRepository

/-- A payment is for a food order or for a plan. -/
inductive PaymentTransaction.Sorted (tx : PaymentTransaction) : Prop where
  | foodOrder (hOrder : tx.orderId.isSome) (hCustomer : tx.customerId.isSome) (hPlan : tx.planId = none)
      (hLink : tx.subscriptionId = none) (hStatus : tx.status ≠ .success)
  | plan (hOrder : tx.orderId = none) (hCustomer : tx.customerId = none) (hPlan : tx.planId.isSome)
      (hStatus : tx.status ≠ .captured)

/-- A payment of a food order does not return to CREATED. -/
def PaymentTransaction.Advances (version old : PaymentTransaction) : Prop :=
  old.orderId.isSome → version.status = .created → old.status = .created

/-- The new version of a payment is as good as the old one. -/
def PaymentTransaction.Accepts (row version : PaymentTransaction) : Prop :=
  row.Sorted → version.Sorted ∧ version.Advances row

/-- A subscription is ACTIVE, or it has expired at a time at which its period was over. -/
def Subscription.Timely (clock : Instant → Prop) (subscription : Subscription) : Prop :=
  subscription.status = .active ∨
    subscription.status = .expired ∧ ∃ now, clock now ∧ subscription.currentPeriodEnd < now

/-- Its period has begun by the clock too. -/
def Subscription.Begun (clock : Instant → Prop) (subscription : Subscription) : Prop :=
  clock subscription.currentPeriodStart ∧ subscription.Timely clock

def Write.Proper (clock : Instant → Prop) : Write → Prop
  | .transaction row => row.Sorted
  | .subscription row => row.Begun clock
  | _ => True

def Write.Advances : Write → Write → Prop
  | .transaction version, .transaction old => version.Advances old
  | _, _ => True

theorem Write.Advances.refl (write : Write) : write.Advances write := by
  cases write with
  | transaction row => exact fun _ hStatus => hStatus
  | _ => trivial

theorem Write.Advances.trans {newest newer old : Write} (hNewest : newest.Advances newer) (hNewer : newer.Advances old)
    (hRecord : newer.recorded = old.recorded) : newest.Advances old := by
  cases old with
  | transaction row =>
      cases newest with
      | transaction last =>
          cases newer with
          | transaction middle =>
              have hSame : middle.recorded = row.recorded := Write.transaction.inj hRecord
              have hOrder : middle.recorded.orderId = row.recorded.orderId := congrArg PaymentTransaction.orderId hSame
              exact fun hFood hStatus => hNewer hFood (hNewest (hOrder.symm ▸ hFood) hStatus)
          | _ => cases hRecord
      | _ => trivial
  | _ => cases newest <;> trivial

/-- Payments keep their kind, and subscriptions expire by the clock of the calls. -/
def integrityDiscipline (clock : Instant → Prop) : Discipline paymentStore where
  steady := fun _ => True
  proper := fun _ => Write.Proper clock
  succeeds := fun version old => version.recorded = old.recorded ∧ version.Advances old
  refl := fun version => ⟨rfl, Write.Advances.refl version⟩
  trans := fun hNewest hNewer => ⟨hNewest.1.trans hNewer.1, hNewest.2.trans hNewer.2 hNewer.1⟩
  own := paymentStore_own
  steady_apply := fun _ _ => trivial
  steady_carry := fun _ _ => trivial
  lasts := fun _ hProper => hProper

/-- What the rules ask of a statement on the rows that it sees. -/
def Statement.Orderly (clock : Instant → Prop) (db : Database) : Statement → Prop
  | .createTransaction data => ∀ id now, (data.toRow id now).Sorted
  | .updateTransaction key data => ∀ row, db.findTransaction key = some row → row.Accepts (data row)
  | .updateManyTransactions matching data =>
      ∀ row ∈ db.transactions.rows, matching row = true → row.Accepts (data row)
  | .createSubscription data => clock data.currentPeriodStart ∧ data.status = .active
  | .updateManySubscriptions matching data =>
      ∀ row ∈ db.subscriptions.rows, matching row = true → (data row).Timely clock
  | _ => True

variable {clock : Instant → Prop} {world after : World}

section Rows

theorem Write.not_advanced {db : Database} {write old : Write} (hNone : db.row write.lock = none)
    (hOld : db.row write.lock = some old) : write.Advances old := nomatch hNone.symm.trans hOld

theorem stored_sorted (hKept : (integrityDiscipline clock).Kept world) {row : PaymentTransaction}
    (hRow : row ∈ world.db.transactions.rows) : row.Sorted :=
  hKept.proper (.transaction row.id) (.transaction row) (Database.row_transaction hRow)

/-- The update of a stored payment. -/
theorem accepted_update (hKept : (integrityDiscipline clock).Kept world) {row version : PaymentTransaction}
    (hRow : row ∈ world.db.transactions.rows) (hRecord : version.recorded = row.recorded)
    (hAccepts : row.Accepts version) :
    (Write.transaction version).Proper clock ∧
      ∀ old, world.db.row (Write.transaction version).lock = some old → (Write.transaction version).Advances old := by
  obtain ⟨hSorted, hAdvances⟩ := hAccepts (stored_sorted hKept hRow)
  refine ⟨hSorted, fun old hOld => ?_⟩
  have hId : version.recorded.id = row.recorded.id := congrArg PaymentTransaction.id hRecord
  have hLock : (Write.transaction version).lock = (Write.transaction row).lock := congrArg RowLock.transaction hId
  rw [hLock, Database.row_transaction hRow] at hOld
  cases hOld
  exact hAdvances

theorem Statement.Orderly.keeps {statement : Statement} (h : statement.Orderly clock world.db)
    (hRecord : statement.KeepsRecord) (hKept : (integrityDiscipline clock).Kept world) {write : Write}
    (hYields : statement.Yields world.db write) :
    write.Proper clock ∧ ∀ old, world.db.row write.lock = some old → write.Advances old := by
  cases statement with
  | createTransaction data =>
      obtain ⟨id, now, hNone, rfl⟩ := hYields
      exact ⟨h id now, fun old hOld => Write.not_advanced hNone hOld⟩
  | updateTransaction key data =>
      obtain ⟨row, hRow, rfl⟩ := hYields
      exact accepted_update hKept (Database.findTransaction_mem hRow) (hRecord row) (h row hRow)
  | updateManyTransactions matching data =>
      obtain ⟨row, hRow, hMatch, rfl⟩ := hYields
      exact accepted_update hKept hRow (hRecord row) (h row hRow hMatch)
  | createSubscription data =>
      obtain ⟨id, now, _, rfl⟩ := hYields
      exact ⟨⟨h.1, Or.inl h.2⟩, fun old _ => trivial⟩
  | updateManySubscriptions matching data =>
      obtain ⟨row, hRow, hMatch, rfl⟩ := hYields
      have hStart : (data row).recorded.currentPeriodStart = row.recorded.currentPeriodStart :=
        congrArg Subscription.currentPeriodStart (hRecord row)
      have hBegun : row.Begun clock := hKept.proper (.subscription row.id) (.subscription row) (Database.row_subscription hRow)
      refine ⟨⟨?_, h row hRow hMatch⟩, fun old _ => trivial⟩
      rw [show (data row).currentPeriodStart = row.currentPeriodStart from hStart]
      exact hBegun.1
  | createRefund data | createInvoice data | createOutboxEvent data =>
      obtain ⟨id, now, _, rfl⟩ := hYields
      exact ⟨trivial, fun old _ => trivial⟩
  | updateRefund id data | updateInvoice id data =>
      obtain ⟨row, _, rfl⟩ := hYields
      exact ⟨trivial, fun old _ => trivial⟩
  | updateManyInvoices matching data =>
      obtain ⟨row, _, _, rfl⟩ := hYields
      exact ⟨trivial, fun old _ => trivial⟩
  | _ => cases hYields

/-- A statement that is orderly from now on may be executed. -/
theorem orderly_permits {statement : Statement} (hRecord : statement.KeepsRecord)
    (h : ∀ later, (integrityDiscipline clock).Follows world later → statement.Orderly clock later.db) :
    (integrityDiscipline clock).Permits world statement := by
  intro after hAfter env result writes hKept hEval
  refine Discipline.Logged.of_each fun write hWrite => ?_
  obtain ⟨hProper, hAdvances⟩ := (h after hAfter).keeps hRecord hKept (Statement.yields_of_eval hEval write hWrite)
  exact ⟨fun _ _ => hProper, fun old hOld => ⟨Statement.recorded_of_eval hRecord hEval hWrite hOld, hAdvances old hOld⟩⟩

end Rows

/-! What is known of payments that have been read. -/
section Known

def Database.HasFoodOrder (db : Database) (id : Uuid) : Prop :=
  ∃ row, db.transactions.get? id = some row ∧ row.orderId.isSome

def Database.HasPlanOrder (db : Database) (razorpayOrderId : String) : Prop :=
  ∃ row ∈ db.transactions.rows, row.razorpayOrderId = razorpayOrderId ∧ row.orderId = none

/-- The subscription is stored, and its period ended before. -/
def Database.HasPastDue (db : Database) (id : Uuid) (now : Instant) : Prop :=
  ∃ row, db.subscriptions.get? id = some row ∧ row.currentPeriodEnd < now

/-- The payment is stored, perhaps in a later version. -/
def PaymentTransaction.Stored (tx : PaymentTransaction) (db : Database) : Prop :=
  tx.Sorted ∧ ∃ row, db.transactions.get? tx.id = some row ∧ row.recorded = tx.recorded

variable {tx : PaymentTransaction}

theorem transaction_follows (h : (integrityDiscipline clock).Follows world after) {id : Uuid} {row : PaymentTransaction}
    (hRow : world.db.transactions.get? id = some row) :
    ∃ version, after.db.transactions.get? id = some version ∧ version.recorded = row.recorded := by
  obtain ⟨write, hWrite, hRecord, _⟩ := h (.transaction id) (.transaction row) (congrArg (Option.map Write.transaction) hRow)
  obtain ⟨version, hVersion, rfl⟩ := Option.map_eq_some_iff.mp hWrite
  exact ⟨version, hVersion, Write.transaction.inj hRecord⟩

theorem Database.HasFoodOrder.later {id : Uuid} (h : world.db.HasFoodOrder id)
    (hLater : (integrityDiscipline clock).Follows world after) : after.db.HasFoodOrder id := by
  obtain ⟨row, hRow, hFood⟩ := h
  obtain ⟨version, hVersion, hRecord⟩ := transaction_follows hLater hRow
  have hOrder : version.recorded.orderId = row.recorded.orderId := congrArg PaymentTransaction.orderId hRecord
  exact ⟨version, hVersion, hOrder.symm ▸ hFood⟩

theorem Database.HasPlanOrder.later {razorpayOrderId : String} (h : world.db.HasPlanOrder razorpayOrderId)
    (hLater : (integrityDiscipline clock).Follows world after) : after.db.HasPlanOrder razorpayOrderId := by
  obtain ⟨row, hRow, hId, hNone⟩ := h
  obtain ⟨version, hVersion, hRecord⟩ := transaction_follows hLater (Table.get?_key hRow)
  have hGateway : version.recorded.razorpayOrderId = row.recorded.razorpayOrderId :=
    congrArg PaymentTransaction.razorpayOrderId hRecord
  have hOrder : version.recorded.orderId = row.recorded.orderId := congrArg PaymentTransaction.orderId hRecord
  exact ⟨version, (Table.get?_eq_some.mp hVersion).1, hGateway.trans hId, hOrder.trans hNone⟩

theorem Database.HasPastDue.later {id : Uuid} {now : Instant} (h : world.db.HasPastDue id now)
    (hLater : (integrityDiscipline clock).Follows world after) : after.db.HasPastDue id now := by
  obtain ⟨row, hRow, hEnd⟩ := h
  obtain ⟨write, hWrite, hRecord, _⟩ :=
    hLater (.subscription id) (.subscription row) (congrArg (Option.map Write.subscription) hRow)
  obtain ⟨version, hVersion, rfl⟩ := Option.map_eq_some_iff.mp hWrite
  have hSame : version.recorded = row.recorded := Write.subscription.inj hRecord
  have hPeriod : version.recorded.currentPeriodEnd = row.recorded.currentPeriodEnd :=
    congrArg Subscription.currentPeriodEnd hSame
  exact ⟨version, hVersion, lt_of_eq_of_lt hPeriod hEnd⟩

theorem PaymentTransaction.Stored.later (h : tx.Stored world.db)
    (hLater : (integrityDiscipline clock).Follows world after) : tx.Stored after.db := by
  obtain ⟨hSorted, row, hRow, hRecord⟩ := h
  obtain ⟨version, hVersion, hSame⟩ := transaction_follows hLater hRow
  exact ⟨hSorted, version, hVersion, hSame.trans hRecord⟩

theorem stored_of_mem (hKept : (integrityDiscipline clock).Kept world) (h : tx ∈ world.db.transactions.rows) :
    tx.Stored world.db :=
  ⟨stored_sorted hKept h, tx, Table.get?_key h, rfl⟩

theorem PaymentTransaction.Stored.foodOrder {db : Database} (h : tx.Stored db) (hFood : tx.orderId.isSome) :
    db.HasFoodOrder tx.id := by
  obtain ⟨_, row, hRow, hRecord⟩ := h
  have hOrder : row.recorded.orderId = tx.recorded.orderId := congrArg PaymentTransaction.orderId hRecord
  exact ⟨row, hRow, hOrder.symm ▸ hFood⟩

theorem PaymentTransaction.Stored.planOrder {db : Database} (h : tx.Stored db) (hPlan : tx.orderId = none) :
    db.HasPlanOrder tx.razorpayOrderId := by
  obtain ⟨_, row, hRow, hRecord⟩ := h
  have hGateway : row.recorded.razorpayOrderId = tx.recorded.razorpayOrderId :=
    congrArg PaymentTransaction.razorpayOrderId hRecord
  have hOrder : row.recorded.orderId = tx.recorded.orderId := congrArg PaymentTransaction.orderId hRecord
  exact ⟨row, (Table.get?_eq_some.mp hRow).1, hGateway, hOrder.trans hPlan⟩

/-- The payments for a plan have no food order. -/
theorem PaymentTransaction.Sorted.orderId_eq_none (h : tx.Sorted) (hPlan : tx.planId.isSome) : tx.orderId = none := by
  cases h with
  | foodOrder _ _ hNone _ _ =>
      rw [hNone] at hPlan
      cases hPlan
  | plan hOrder _ _ _ => exact hOrder

/-- All payments of one gateway order are for a plan if one of them is. -/
theorem Database.HasPlanOrder.orderId_eq_none {db : Database} {razorpayOrderId : String}
    (h : db.HasPlanOrder razorpayOrderId) (hTx : tx ∈ db.transactions.rows) (hOrder : tx.razorpayOrderId = razorpayOrderId) :
    tx.orderId = none := by
  obtain ⟨row, hRow, hSame, hNone⟩ := h
  have hId := Database.id_eq_of_orderId hTx hRow (hOrder.trans hSame.symm)
  rw [Table.eq_of_key hTx hRow hId]
  exact hNone

end Known

section Updates

variable {row version : PaymentTransaction}

/-- Both kinds of payments may fail and be refunded. -/
theorem accepts_outcome (hRecord : version.recorded = row.recorded) (hLink : version.subscriptionId = row.subscriptionId)
    (hStatus : version.status = .failed ∨ version.status = .refunded ∨ version.status = .captured ∧ row.orderId.isSome) :
    row.Accepts version := by
  have hOrder : version.recorded.orderId = row.recorded.orderId := congrArg PaymentTransaction.orderId hRecord
  have hCustomer : version.recorded.customerId = row.recorded.customerId := congrArg PaymentTransaction.customerId hRecord
  have hPlan : version.recorded.planId = row.recorded.planId := congrArg PaymentTransaction.planId hRecord
  intro hSorted
  constructor
  · cases hSorted with
    | foodOrder hFood hKnown hNoPlan hNoLink _ =>
        refine .foodOrder (hOrder.symm ▸ hFood) (hCustomer.symm ▸ hKnown) (hPlan.trans hNoPlan) (hLink.trans hNoLink) ?_
        rcases hStatus with hFailed | hRefunded | ⟨hCaptured, _⟩
        · exact hFailed ▸ nofun
        · exact hRefunded ▸ nofun
        · exact hCaptured ▸ nofun
    | plan hNone hNoCustomer hKnown _ =>
        refine .plan (hOrder.trans hNone) (hCustomer.trans hNoCustomer) (hPlan.symm ▸ hKnown) ?_
        rcases hStatus with hFailed | hRefunded | ⟨_, hFood⟩
        · exact hFailed ▸ nofun
        · exact hRefunded ▸ nofun
        · rw [hNone] at hFood
          cases hFood
  · intro _ hCreated
    rcases hStatus with hFailed | hRefunded | ⟨hCaptured, _⟩
    · cases hFailed.symm.trans hCreated
    · cases hRefunded.symm.trans hCreated
    · cases hCaptured.symm.trans hCreated

/-- A payment for a plan takes any status but CAPTURED. -/
theorem accepts_plan (hRecord : version.recorded = row.recorded) (hNone : row.orderId = none)
    (hStatus : row.status ≠ .captured → version.status ≠ .captured) : row.Accepts version := by
  have hOrder : version.recorded.orderId = row.recorded.orderId := congrArg PaymentTransaction.orderId hRecord
  have hCustomer : version.recorded.customerId = row.recorded.customerId := congrArg PaymentTransaction.customerId hRecord
  have hPlan : version.recorded.planId = row.recorded.planId := congrArg PaymentTransaction.planId hRecord
  intro hSorted
  constructor
  · cases hSorted with
    | foodOrder hFood _ _ _ _ =>
        rw [hNone] at hFood
        cases hFood
    | plan _ hNoCustomer hKnown hOld =>
        exact .plan (hOrder.trans hNone) (hCustomer.trans hNoCustomer) (hPlan.symm ▸ hKnown) (hStatus hOld)
  · intro hFood
    rw [hNone] at hFood
    cases hFood

end Updates

/-- What a use case has to know when it calls a method. -/
def RepositoryCall.Licensed (clock : Instant → Prop) (db : Database) : RepositoryCall → Prop
  | .createTransaction data => ∀ id now, (data.toRow id now).Sorted
  | .captureOrderPaymentWithOutbox params =>
      db.HasFoodOrder params.transaction.id ∧ params.transaction.status = .captured
  | .failOrderPaymentWithOutbox params => params.transaction.status = .failed
  | .processOrderRefund params => params.transaction.status = .refunded
  | .resetToCreated razorpayOrderId => db.HasPlanOrder razorpayOrderId
  | .activateSubscriptionWithOutbox params =>
      db.HasPlanOrder params.payment.razorpayOrderId ∧
        clock params.subscription.currentPeriodStart ∧ params.subscription.status = .active
  | .expireSubscriptions pastDue now => clock now ∧ ∀ pair ∈ pastDue, db.HasPastDue pair.1.id now
  | _ => True

section Methods

/-- A method of statements that the rules permit. -/
abbrev Permitted {Value : Type} (clock : Instant → Prop) (world : World) (body : Repository Value) : Prop :=
  body.Respects ((integrityDiscipline clock).Permits world) fun _ _ => True

/-- A statement that has no rule. -/
theorem permits_plain {statement : Statement} (hRecord : statement.KeepsRecord)
    (h : ∀ db, statement.Orderly clock db) : (integrityDiscipline clock).Permits world statement :=
  orderly_permits hRecord fun later _ => h later.db

theorem permits_status {key : TransactionKey} {data : PaymentTransaction → PaymentTransaction}
    (hRecord : ∀ row, (data row).recorded = row.recorded) (hLink : ∀ row, (data row).subscriptionId = row.subscriptionId)
    (hStatus : ∀ row, (data row).status = .failed ∨ (data row).status = .refunded) :
    (integrityDiscipline clock).Permits world (.updateTransaction key data) :=
  permits_plain hRecord fun _ row _ =>
    accepts_outcome (hRecord row) (hLink row) ((hStatus row).imp_right Or.inl)

theorem permits_plan {razorpayOrderId : String} {data : PaymentTransaction → PaymentTransaction}
    (hOrder : world.db.HasPlanOrder razorpayOrderId) (hRecord : ∀ row, (data row).recorded = row.recorded)
    (hStatus : ∀ row, row.status ≠ .captured → (data row).status ≠ .captured) :
    (integrityDiscipline clock).Permits world (.updateTransaction (.razorpayOrderId razorpayOrderId) data) := by
  refine orderly_permits hRecord fun later hLater row hRow => accepts_plan (hRecord row) ?_ (hStatus row)
  exact (hOrder.later hLater).orderId_eq_none (Database.findTransaction_mem hRow) (Database.findTransaction_orderId hRow)

theorem permitted_voidInvoices (transactionId : Uuid) (now : Instant) :
    Permitted clock world (voidInvoices transactionId now) :=
  Respects.call (permits_plain (fun _ => rfl) fun _ => trivial)

theorem permitted_capture {params : CaptureOrderPaymentWithOutboxParams}
    (hOrder : world.db.HasFoodOrder params.transaction.id) (hStatus : params.transaction.status = .captured) :
    Permitted clock world (captureOrderPaymentWithOutbox params) := by
  refine Respects.call_bind (permits_plain trivial fun _ => trivial) fun found _ => ?_
  cases found with
  | none => trivial
  | some existing =>
      simp only
      split
      · trivial
      · refine Respects.call_bind (orderly_permits (fun row => rfl) fun later hLater row hRow => ?_) fun updated _ => ?_
        · obtain ⟨stored, hStored, hFood⟩ := hOrder.later hLater
          cases hStored.symm.trans hRow
          exact accepts_outcome rfl rfl (Or.inr (Or.inr ⟨hStatus, hFood⟩))
        · exact Respects.call_bind (permits_plain trivial fun _ => trivial) fun event _ => trivial

theorem permitted_fail {params : FailOrderPaymentWithOutboxParams} (hStatus : params.transaction.status = .failed) :
    Permitted clock world (failOrderPaymentWithOutbox params) := by
  refine Respects.call_bind (permits_plain trivial fun _ => trivial) fun found _ => ?_
  cases found with
  | none => trivial
  | some existing =>
      simp only
      split
      · trivial
      · refine Respects.call_bind (permits_status (fun row => rfl) (fun row => rfl) fun row => Or.inl hStatus) fun _ _ => ?_
        exact Respects.call_bind (permits_plain trivial fun _ => trivial) fun event _ => trivial

theorem permitted_refund {params : ProcessOrderRefundParams} (hStatus : params.transaction.status = .refunded)
    (now : Instant) : Permitted clock world (PaymentTransactionRepository.processOrderRefund params now) := by
  refine Respects.call_bind (permits_plain trivial fun _ => trivial) fun found _ => ?_
  cases found with
  | none => trivial
  | some existing =>
      simp only
      split
      · trivial
      · refine Respects.call_bind (permits_status (fun row => rfl) (fun row => rfl) fun row => Or.inr hStatus) fun _ _ => ?_
        refine Respects.call_bind (permits_plain trivial fun _ => trivial) fun refund _ => ?_
        exact (permitted_voidInvoices _ _).bind fun count => trivial

theorem permitted_settleRefund (transactionId : Uuid) (now : Instant) :
    Permitted clock world (settleRefund transactionId now) := by
  refine Respects.call_bind (permits_status (fun row => rfl) (fun row => rfl) fun row => Or.inr rfl) fun _ _ => ?_
  exact (permitted_voidInvoices _ _).bind fun count => trivial

theorem permitted_syncRefund (params : SyncRefundFromWebhookParams) (now : Instant) :
    Permitted clock world (syncRefundFromWebhook params now) := by
  refine Respects.call_bind (permits_plain trivial fun _ => trivial) fun found _ => ?_
  cases found with
  | some refund =>
      simp only
      refine Respects.call_bind (permits_plain (fun row => rfl) fun _ => trivial) fun updated _ => ?_
      split
      · exact permitted_settleRefund _ _
      · trivial
  | none =>
      simp only
      split
      · trivial
      · refine Respects.call_bind (permits_plain trivial fun _ => trivial) fun row _ => ?_
        cases row with
        | none => trivial
        | some txRecord =>
            simp only
            refine Respects.call_bind (permits_plain trivial fun _ => trivial) fun refund _ => ?_
            split
            · exact permitted_settleRefund _ _
            · trivial

section Activation

variable {params : ActivateSubscriptionWithOutboxParams} {existingTx : Option PaymentTransaction}
variable {invoiceNumber : String} {now : Instant}

theorem permitted_linkedSubscription (tx : Option PaymentTransaction) :
    Permitted clock world (linkedSubscription tx) := by
  unfold linkedSubscription
  split
  · trivial
  · exact Respects.call (permits_plain trivial fun _ => trivial)

theorem permitted_recordInvoice (subscriptionId : Uuid) :
    Permitted clock world (recordInvoice params existingTx subscriptionId invoiceNumber now) := by
  refine Respects.call_bind (permits_plain trivial fun _ => trivial) fun found _ => ?_
  split
  · exact Respects.call_bind (permits_plain (fun row => rfl) fun _ => trivial) fun updated _ => trivial
  · exact Respects.call_bind (permits_plain trivial fun _ => trivial) fun created _ => trivial
  · trivial

variable (hOrder : world.db.HasPlanOrder params.payment.razorpayOrderId)
variable (hActive : clock params.subscription.currentPeriodStart ∧ params.subscription.status = .active)

include hOrder hActive

theorem permitted_openSubscription : Permitted clock world (openSubscription params existingTx invoiceNumber now) := by
  refine Respects.call_bind (permits_plain trivial fun _ => hActive) fun subRecord _ => ?_
  refine Respects.call_bind (permits_plan hOrder (fun row => rfl) fun row hStatus => hStatus) fun updated _ => ?_
  refine (permitted_recordInvoice _).bind fun _ => ?_
  exact Respects.call_bind (permits_plain trivial fun _ => trivial) fun event _ => trivial

theorem permitted_claimAndOpen : Permitted clock world (claimAndOpen params existingTx invoiceNumber now) := by
  refine Respects.call_bind (orderly_permits (fun row => rfl) fun later hLater row hRow hMatch => ?_) fun count _ => ?_
  · obtain ⟨hSame, _⟩ := Bool.and_eq_true_iff.mp hMatch
    exact accepts_plan rfl ((hOrder.later hLater).orderId_eq_none hRow (of_decide_eq_true hSame)) fun _ => nofun
  · split
    · refine Respects.call_bind (permits_plain trivial fun _ => trivial) fun updatedTx _ => ?_
      refine (permitted_linkedSubscription updatedTx).bind fun linked => ?_
      cases linked with
      | none => exact permitted_openSubscription hOrder hActive
      | some existingSub => trivial
    · exact permitted_openSubscription hOrder hActive

theorem permitted_activate : Permitted clock world (activateSubscriptionWithOutbox params invoiceNumber now) := by
  refine Respects.call_bind (permits_plain trivial fun _ => trivial) fun existing _ => ?_
  refine (permitted_linkedSubscription _).bind fun linked => ?_
  cases linked with
  | none => exact permitted_claimAndOpen hOrder hActive
  | some existingSub => trivial

end Activation

open PaymentSubscriptionExpiryService in
theorem permitted_expire {pastDue : List (Subscription × SubscriptionPlan)} {now : Instant} (hClock : clock now)
    (hPastDue : ∀ pair ∈ pastDue, world.db.HasPastDue pair.1.id now) :
    Permitted clock world (expire pastDue now) := by
  have hAnnounce : ∀ rest, Permitted clock world (announceExpiry now rest) := by
    intro rest
    induction rest with
    | nil => trivial
    | cons pair rest ih => exact Respects.call_bind (permits_plain trivial fun _ => trivial) fun event _ => ih
  refine Respects.call_bind (orderly_permits (fun row => rfl) fun later hLater row hRow hMatch => ?_)
    fun count _ => hAnnounce pastDue
  obtain ⟨pair, hPair, hId⟩ := List.mem_map.mp (List.contains_iff_mem.mp hMatch)
  obtain ⟨stored, hStored, hEnd⟩ := (hPastDue pair hPair).later hLater
  obtain ⟨hMem, hKey⟩ := Table.get?_eq_some.mp hStored
  rw [Table.eq_of_key hMem hRow (hKey.trans hId)] at hEnd
  exact Or.inr ⟨rfl, now, hClock, hEnd⟩

/-- A method that is called with a licence keeps the rules. -/
theorem permitted_body {request : RepositoryCall} (env : Env) (h : request.Licensed clock world.db) :
    Permitted clock world (request.body env) := by
  cases request with
  | createTransaction data => exact Respects.call (permits_plain trivial fun _ => h)
  | captureOrderPaymentWithOutbox params => exact permitted_capture h.1 h.2
  | failOrderPaymentWithOutbox params => exact permitted_fail h
  | processOrderRefund params => exact permitted_refund h env.now
  | syncRefundFromWebhook params => exact permitted_syncRefund params env.now
  | markFailed razorpayOrderId failureReason =>
      exact Respects.call (permits_status (fun row => rfl) (fun row => rfl) fun row => Or.inl rfl)
  | resetToCreated razorpayOrderId => exact Respects.call (permits_plan h (fun row => rfl) fun _ _ => nofun)
  | activateSubscriptionWithOutbox params => exact permitted_activate h.1 h.2
  | expireSubscriptions pastDue now => exact permitted_expire h.1 h.2
  | _ => exact Respects.call (permits_plain trivial fun _ => trivial)

end Methods

end SpotqPayment
