import SpotqPayment.System.Disciplines

/-! The references between rows. A payment may belong to a subscription and to a plan,
an invoice to a subscription and to a payment, a refund belongs to a payment, and a
subscription to a plan. The statements are not checked for it: the use cases and the
repositories write no reference but to rows that they have read or written before. -/
namespace SpotqPayment

open Process Engine ReadCommitted PaymentTransactionRepository SubscriptionRepository

/-- The rows that a row refers to. -/
def Write.references : Write → List RowLock
  | .transaction row => row.subscriptionId.toList.map .subscription
  | .refund row => [.transaction row.paymentTransactionId]
  | .subscription _ => []
  | .invoice row => row.subscriptionId.toList.map .subscription ++ row.paymentTransactionId.toList.map .transaction
  | .outbox _ => []

/-- The plan that it refers to. -/
def Write.planReference : Write → Option Uuid
  | .transaction row => row.planId
  | .subscription row => some row.planId
  | _ => none

def Database.Has (db : Database) (lock : RowLock) : Prop := (db.row lock).isSome = true

variable (plans : Table SubscriptionPlan)

/-- Nothing is missing that the row refers to. -/
structure Write.Refers (world : World) (write : Write) : Prop where
  rows : ∀ lock ∈ write.references, world.db.Has lock
  plan : ∀ id ∈ write.planReference, (plans.get? id).isSome = true

theorem Database.Has.since {first second : Database} {lock : RowLock} (h : first.Has lock)
    (hRows : ∀ lock old, first.row lock = some old → ∃ newer, second.row lock = some newer ∧ True) : second.Has lock := by
  obtain ⟨old, hOld⟩ := Option.isSome_iff_exists.mp h
  obtain ⟨newer, hNewer, _⟩ := hRows lock old hOld
  exact Option.isSome_iff_exists.mpr ⟨newer, hNewer⟩

/-- No row is lost, and none refers to a missing one. -/
def referenceDiscipline : Discipline paymentStore where
  steady := fun world => world.db.plans = plans
  proper := Write.Refers plans
  succeeds := fun _ _ => True
  refl := fun _ => trivial
  trans := fun _ _ => trivial
  own := paymentStore_own
  steady_apply := by
    intro world after write hWrite hPlans
    have hView : applyAll paymentStore.apply world [write] = some after := (applyAll_singleton _ _ _).trans hWrite
    exact (written_of_view hView).plans.trans hPlans
  steady_carry := fun hCarry hPlans => (congrArg Database.plans (carry_db hCarry)).trans hPlans
  lasts := fun hRows hRefers => ⟨fun lock hLock => (hRefers.rows lock hLock).since hRows, hRefers.plan⟩

variable {plans} {world view after : World}

section Statements

/-- Both rows refer to the same. -/
def Write.RefersAlike (write version : Write) : Prop :=
  write.references = version.references ∧ write.planReference = version.planReference

/-- An update leaves the references of every row alone. -/
def Statement.KeepsReferences : Statement → Prop
  | .updateTransaction _ data | .updateManyTransactions _ data =>
      ∀ row, (Write.transaction (data row)).RefersAlike (.transaction row)
  | .updateRefund _ data => ∀ row, (Write.refund (data row)).RefersAlike (.refund row)
  | .updateManySubscriptions _ data => ∀ row, (Write.subscription (data row)).RefersAlike (.subscription row)
  | .updateInvoice _ data | .updateManyInvoices _ data => ∀ row, (Write.invoice (data row)).RefersAlike (.invoice row)
  | .createTransaction _ | .createRefund _ | .createSubscription _ | .createInvoice _ => False
  | _ => True

/-- What the answer to a statement says of the rows. -/
def Statement.Tells (plans : Table SubscriptionPlan) (world : World) : (statement : Statement) → statement.Answer → Prop
  | .findTransaction key, found => ∀ tx ∈ found, world.db.Has (.transaction tx.id) ∧ ∀ id, key = .id id → tx.id = id
  | .createTransaction _, row => world.db.Has (.transaction row.id)
  | .createSubscription _, row => world.db.Has (.subscription row.id)
  | .findPlan _, found => ∀ plan ∈ found, (plans.get? plan.id).isSome = true
  | _, _ => True

theorem Write.RefersAlike.refers {write version : Write} (h : write.RefersAlike version)
    (hVersion : version.Refers plans world) : write.Refers plans world where
  rows := h.1 ▸ hVersion.rows
  plan := h.2 ▸ hVersion.plan

theorem kept_refers (hKept : (referenceDiscipline plans).Kept world) {version : Write}
    (hVersion : world.db.row version.lock = some version) : version.Refers plans world :=
  hKept.proper version.lock version hVersion

theorem Statement.KeepsReferences.refers {statement : Statement} (h : statement.KeepsReferences)
    (hKept : (referenceDiscipline plans).Kept world) {write : Write} (hYields : statement.Yields world.db write) :
    write.Refers plans world := by
  cases statement with
  | updateTransaction key data =>
      obtain ⟨row, hRow, rfl⟩ := hYields
      exact (h row).refers (kept_refers hKept (Database.row_transaction (Database.findTransaction_mem hRow)))
  | updateManyTransactions matching data =>
      obtain ⟨row, hRow, _, rfl⟩ := hYields
      exact (h row).refers (kept_refers hKept (Database.row_transaction hRow))
  | updateRefund id data =>
      obtain ⟨row, hRow, rfl⟩ := hYields
      exact (h row).refers (kept_refers hKept (Database.row_refund (Table.get?_eq_some.mp hRow).1))
  | updateManySubscriptions matching data =>
      obtain ⟨row, hRow, _, rfl⟩ := hYields
      exact (h row).refers (kept_refers hKept (Database.row_subscription hRow))
  | updateInvoice id data =>
      obtain ⟨row, hRow, rfl⟩ := hYields
      exact (h row).refers (kept_refers hKept (Database.row_invoice (Table.get?_eq_some.mp hRow).1))
  | updateManyInvoices matching data =>
      obtain ⟨row, hRow, _, rfl⟩ := hYields
      exact (h row).refers (kept_refers hKept (Database.row_invoice hRow))
  | createOutboxEvent data =>
      obtain ⟨id, now, _, rfl⟩ := hYields
      exact ⟨fun _ hLock => absurd hLock List.not_mem_nil, nofun⟩
  | createTransaction data | createRefund data | createSubscription data | createInvoice data => cases h
  | _ => cases hYields

/-- A statement whose writes refer to stored rows. -/
theorem logged_refers {env : Env} {statement : Statement} {result : statement.Answer} {writes : List Write}
    (hEval : statement.eval env world.db = .ok (result, writes))
    (h : ∀ write, statement.Yields world.db write → write.Refers plans world) :
    (referenceDiscipline plans).Logged world writes :=
  Discipline.Logged.of_each fun write hWrite =>
    ⟨fun _ hLater => (referenceDiscipline plans).lasts hLater (h write (Statement.yields_of_eval hEval write hWrite)),
      fun _ _ => trivial⟩

theorem permits_keeping {statement : Statement} (h : statement.KeepsReferences) :
    (referenceDiscipline plans).Permits world statement :=
  fun _ _ _ _ _ hKept hEval => logged_refers hEval fun _ hYields => h.refers hKept hYields

theorem Database.Has.later {lock : RowLock} (h : world.db.Has lock)
    (hLater : (referenceDiscipline plans).Follows world after) : after.db.Has lock := h.since hLater

theorem Database.has_transaction {db : Database} {row : PaymentTransaction} (h : row ∈ db.transactions.rows) :
    db.Has (.transaction row.id) := by
  have hRow : db.row (.transaction row.id) = some (.transaction row) := row_transaction h
  rw [Has, hRow]
  rfl

/-- A row that has been written is there. -/
theorem has_written {before last : World} {write : Write} (h : applyAll paymentStore.apply before [write] = some last) :
    last.db.Has write.lock := by
  rw [applyAll_singleton] at h
  exact Option.isSome_iff_exists.mpr ⟨write, paymentStore_own h⟩

/-- What an answer says is true when the writes of the statement have been applied. -/
theorem Statement.tells_of_eval {env : Env} {statement : Statement} {result : statement.Answer} {writes : List Write}
    {before last : World} (hKept : (referenceDiscipline plans).Kept world)
    (hEval : statement.eval env world.db = .ok (result, writes))
    (hBefore : (referenceDiscipline plans).Follows world before)
    (hLast : applyAll paymentStore.apply before writes = some last) : statement.Tells plans last result := by
  cases statement with
  | findTransaction key =>
      cases hEval
      cases hLast
      intro tx hTx
      refine ⟨(Database.has_transaction (Database.findTransaction_mem hTx)).later hBefore, ?_⟩
      rintro id rfl
      exact (Table.get?_eq_some.mp hTx).2
  | createTransaction data =>
      cases hEval
      exact has_written hLast
  | createSubscription data =>
      cases hEval
      exact has_written hLast
  | findPlan id =>
      cases hEval
      intro plan hPlan
      have hStored := (Table.get?_eq_some.mp hPlan).1
      rw [hKept.steady] at hStored
      exact Option.isSome_iff_exists.mpr ⟨plan, Table.get?_key hStored⟩
  | _ => trivial

end Statements

section Methods

variable {Final : Type} {onValue : Final → World → Prop}

/-- What a method does and answers, as far as references go. -/
abbrev Referring (plans : Table SubscriptionPlan) (onValue : Final → World → Prop) (body : Repository Final)
    (view : World) : Prop :=
  @Discipline.Obeys _ _ _ _ _ _ _ _ _ paymentStore _ (referenceDiscipline plans) onValue body view

/-- A statement, and the rest with what its answer says. -/
theorem referring_bind {statement : Statement} {next : statement.Answer → Repository Final}
    (hRefers : ∀ later, (referenceDiscipline plans).Follows view later → (referenceDiscipline plans).Kept later →
      ∀ write, statement.Yields later.db write → write.Refers plans later)
    (hNext : ∀ last result, (referenceDiscipline plans).Follows view last → statement.Tells plans last result →
      Referring plans onValue (next result) last) :
    Referring plans onValue (query statement >>= next) view := by
  refine Discipline.Obeys.call_bind fun env later result writes hLater hKept hEval => ?_
  have hLogged := logged_refers hEval (hRefers later hLater hKept)
  refine ⟨hLogged, fun before last hBefore hSame hLast => hNext last result ?_ ?_⟩
  · exact (hLater.trans hBefore).trans ((hLogged.succeeding.later hSame).follows hLast)
  · exact Statement.tells_of_eval hKept hEval hBefore hLast

/-- A method of one statement. -/
theorem referring_call {statement : Statement} {onValue : statement.Answer → World → Prop}
    (hRefers : ∀ later, (referenceDiscipline plans).Follows view later → (referenceDiscipline plans).Kept later →
      ∀ write, statement.Yields later.db write → write.Refers plans later)
    (hValue : ∀ last result, statement.Tells plans last result → onValue result last)
    (hLasts : ∀ last final result, (referenceDiscipline plans).Follows last final → onValue result last →
      onValue result final) : Referring plans onValue (query statement) view := by
  refine Discipline.Obeys.call fun env later result writes hLater hKept hEval => ?_
  refine ⟨logged_refers hEval (hRefers later hLater hKept), fun before last hBefore hLast final hFinal => ?_⟩
  exact hLasts last final result hFinal (hValue last result (Statement.tells_of_eval hKept hEval hBefore hLast))

/-- A statement that keeps all references. -/
theorem referring_keeping {statement : Statement} {next : statement.Answer → Repository Final}
    (h : statement.KeepsReferences)
    (hNext : ∀ last result, (referenceDiscipline plans).Follows view last → statement.Tells plans last result →
      Referring plans onValue (next result) last) :
    Referring plans onValue (query statement >>= next) view :=
  referring_bind (fun _ _ hKept _ hYields => h.refers hKept hYields) hNext

/-- A method of such statements only. -/
abbrev KeepsReferences (body : Repository Final) : Prop := body.Respects Statement.KeepsReferences fun _ _ => True

theorem referring_of_keeping {body : Repository Final} (h : KeepsReferences body)
    (hValue : ∀ value last, (referenceDiscipline plans).Follows view last → onValue value last) :
    Referring plans onValue body view :=
  Discipline.obeys_of_permitted (h.mono fun _ hKeeps => permits_keeping hKeeps) hValue

theorem keeps_capture (params : CaptureOrderPaymentWithOutboxParams) :
    KeepsReferences (captureOrderPaymentWithOutbox params) := by
  refine Respects.call_bind trivial fun found _ => ?_
  cases found with
  | none => trivial
  | some existing =>
      simp only
      split
      · trivial
      · refine Respects.call_bind (fun row => ⟨rfl, rfl⟩) fun updated _ => ?_
        exact Respects.call_bind trivial fun event _ => trivial

theorem keeps_fail (params : FailOrderPaymentWithOutboxParams) : KeepsReferences (failOrderPaymentWithOutbox params) := by
  refine Respects.call_bind trivial fun found _ => ?_
  cases found with
  | none => trivial
  | some existing =>
      simp only
      split
      · trivial
      · refine Respects.call_bind (fun row => ⟨rfl, rfl⟩) fun updated _ => ?_
        exact Respects.call_bind trivial fun event _ => trivial

theorem keeps_voidInvoices (transactionId : Uuid) (now : Instant) : KeepsReferences (voidInvoices transactionId now) :=
  Respects.call fun _ => ⟨rfl, rfl⟩

theorem keeps_settleRefund (transactionId : Uuid) (now : Instant) : KeepsReferences (settleRefund transactionId now) := by
  refine Respects.call_bind (fun row => ⟨rfl, rfl⟩) fun updated _ => ?_
  exact (keeps_voidInvoices _ _).bind fun count => trivial

open PaymentSubscriptionExpiryService in
theorem keeps_expire (pastDue : List (Subscription × SubscriptionPlan)) (now : Instant) :
    KeepsReferences (expire pastDue now) := by
  have hAnnounce : ∀ rest, KeepsReferences (announceExpiry now rest) := by
    intro rest
    induction rest with
    | nil => trivial
    | cons pair rest ih => exact Respects.call_bind trivial fun event _ => ih
  exact Respects.call_bind (fun row => ⟨rfl, rfl⟩) fun count _ => hAnnounce pastDue

/-- A refund refers to a payment that has been read. -/
theorem refers_createRefund {data : CreateRefundInput} (hTx : view.db.Has (.transaction data.paymentTransactionId))
    (hLater : (referenceDiscipline plans).Follows view after) {write : Write}
    (hYields : (Statement.createRefund data).Yields after.db write) : write.Refers plans after := by
  obtain ⟨id, now, _, rfl⟩ := hYields
  exact ⟨List.forall_mem_singleton.mpr (hTx.later hLater), nofun⟩

theorem referring_refund (params : ProcessOrderRefundParams) (now : Instant) :
    Referring plans (fun _ _ => True) (PaymentTransactionRepository.processOrderRefund params now) view := by
  refine referring_keeping trivial fun last found _ hFound => ?_
  cases found with
  | none => trivial
  | some existing =>
      simp only
      split
      · trivial
      · obtain ⟨hTx, hId⟩ := hFound existing rfl
        rw [hId _ rfl] at hTx
        refine referring_keeping (fun row => ⟨rfl, rfl⟩) fun last updated hLast _ => ?_
        refine referring_bind (fun later hLater _ _ hYields => refers_createRefund hTx (hLast.trans hLater) hYields)
          fun last refund _ _ => ?_
        exact referring_of_keeping ((keeps_voidInvoices _ _).bind fun count => trivial) fun _ _ _ => trivial

theorem referring_syncRefund (params : SyncRefundFromWebhookParams) (now : Instant) :
    Referring plans (fun _ _ => True) (syncRefundFromWebhook params now) view := by
  refine referring_keeping trivial fun last found _ _ => ?_
  cases found with
  | some refund =>
      simp only
      refine referring_keeping (fun row => ⟨rfl, rfl⟩) fun last updated _ _ => ?_
      split
      · exact referring_of_keeping (keeps_settleRefund _ _) fun _ _ _ => trivial
      · exact fun _ _ => trivial
  | none =>
      simp only
      split
      · exact fun _ _ => trivial
      · refine referring_keeping trivial fun last row _ hRow => ?_
        cases row with
        | none => exact fun _ _ => trivial
        | some txRecord =>
            simp only
            refine referring_bind (fun later hLater _ _ hYields => refers_createRefund (hRow txRecord rfl).1 hLater hYields)
              fun last refund _ _ => ?_
            split
            · exact referring_of_keeping (keeps_settleRefund _ _) fun _ _ _ => trivial
            · exact fun _ _ => trivial

section Activation

variable {params : ActivateSubscriptionWithOutboxParams} {existingTx : Option PaymentTransaction}
variable {invoiceNumber : String} {now : Instant}

theorem keeps_linkedSubscription (tx : Option PaymentTransaction) : KeepsReferences (linkedSubscription tx) := by
  unfold linkedSubscription
  split
  · trivial
  · exact Respects.call trivial

/-- An invoice refers to the new subscription and to the payment read before. -/
theorem referring_recordInvoice {subscriptionId : Uuid} {onValue : Unit → World → Prop}
    (hTx : ∀ tx ∈ existingTx, view.db.Has (.transaction tx.id)) (hSubscription : view.db.Has (.subscription subscriptionId))
    (hValue : ∀ last, onValue () last) :
    Referring plans onValue (recordInvoice params existingTx subscriptionId invoiceNumber now) view := by
  refine referring_keeping trivial fun last found hLast _ => ?_
  cases found with
  | some invoice =>
      refine referring_bind (fun later hLater hKept write hYields => ?_) fun _ _ _ _ => fun last _ => hValue last
      obtain ⟨row, hRow, rfl⟩ := hYields
      have hRefers := kept_refers hKept (Database.row_invoice (Table.get?_eq_some.mp hRow).1)
      refine ⟨fun lock hLock => ?_, nofun⟩
      rcases List.mem_append.mp hLock with hNew | hOld
      · rw [List.mem_singleton.mp hNew]
        exact hSubscription.later (hLast.trans hLater)
      · exact hRefers.rows lock (List.mem_append_right _ hOld)
  | none =>
      cases existingTx with
      | none => exact fun last _ => hValue last
      | some tx =>
          refine referring_bind (fun later hLater _ write hYields => ?_) fun _ _ _ _ => fun last _ => hValue last
          obtain ⟨id, createdAt, _, rfl⟩ := hYields
          refine ⟨fun lock hLock => ?_, nofun⟩
          rcases List.mem_append.mp hLock with hNew | hPayment
          · rw [List.mem_singleton.mp hNew]
            exact hSubscription.later (hLast.trans hLater)
          · rw [List.mem_singleton.mp hPayment]
            exact (hTx tx rfl).later (hLast.trans hLater)

variable (hPlan : (plans.get? params.subscription.planId).isSome = true)

include hPlan

theorem referring_openSubscription (hTx : ∀ tx ∈ existingTx, view.db.Has (.transaction tx.id)) :
    Referring plans (fun _ _ => True) (openSubscription params existingTx invoiceNumber now) view := by
  refine referring_bind (fun later _ _ write hYields => ?_) fun last subRecord hLast hSub => ?_
  · obtain ⟨id, createdAt, _, rfl⟩ := hYields
    exact ⟨fun _ hLock => absurd hLock List.not_mem_nil, fun _ hId => Option.some.inj hId ▸ hPlan⟩
  refine referring_bind (fun later hLater hKept write hYields => ?_) fun _ updated hUpdated _ => ?_
  · obtain ⟨row, hRow, rfl⟩ := hYields
    have hRefers := kept_refers hKept (Database.row_transaction (Database.findTransaction_mem hRow))
    exact ⟨List.forall_mem_singleton.mpr (hSub.later hLater), hRefers.plan⟩
  refine Discipline.Obeys.bind (referring_recordInvoice (fun tx hMem => (hTx tx hMem).later (hLast.trans hUpdated))
    (hSub.later hUpdated) fun last => ?_)
  exact referring_keeping trivial fun _ _ _ _ => fun _ _ => trivial

theorem referring_claimAndOpen (hTx : ∀ tx ∈ existingTx, view.db.Has (.transaction tx.id)) :
    Referring plans (fun _ _ => True) (claimAndOpen params existingTx invoiceNumber now) view := by
  refine referring_keeping (fun row => ⟨rfl, rfl⟩) fun last count hLast _ => ?_
  have hStill : ∀ tx ∈ existingTx, last.db.Has (.transaction tx.id) := fun tx hMem => (hTx tx hMem).later hLast
  split
  · refine referring_keeping trivial fun last updatedTx hRead _ => ?_
    refine Discipline.Obeys.bind (referring_of_keeping (keeps_linkedSubscription updatedTx) fun linked last hLinked => ?_)
    cases linked with
    | none => exact referring_openSubscription hPlan fun tx hMem => (hStill tx hMem).later (hRead.trans hLinked)
    | some existingSub => exact fun _ _ => trivial
  · exact referring_openSubscription hPlan hStill

theorem referring_activate :
    Referring plans (fun _ _ => True) (activateSubscriptionWithOutbox params invoiceNumber now) view := by
  refine referring_keeping trivial fun last existingTx _ hFound => ?_
  refine Discipline.Obeys.bind (referring_of_keeping (keeps_linkedSubscription _) fun linked last hLinked => ?_)
  cases linked with
  | none => exact referring_claimAndOpen hPlan fun tx hMem => (hFound tx hMem).1.later hLinked
  | some existingSub => exact fun _ _ => trivial

end Activation

/-- What a use case has to know when it calls a method. -/
def RepositoryCall.Refers (plans : Table SubscriptionPlan) (world : World) : RepositoryCall → Prop
  | .createTransaction data => ∀ id ∈ data.planId, (plans.get? id).isSome = true
  | .createInvoice data => (∀ id ∈ data.subscriptionId, world.db.Has (.subscription id)) ∧
      ∀ id ∈ data.paymentTransactionId, world.db.Has (.transaction id)
  | .activateSubscriptionWithOutbox params => (plans.get? params.subscription.planId).isSome = true
  | _ => True

/-- What the answers of the methods say of rows and plans. -/
def AnswersRefer (plans : Table SubscriptionPlan) (request : RepositoryCall) (world : World) (value : request.Answer) :
    Prop :=
  match request, value with
  | .createTransaction _, row => world.db.Has (.transaction row.id)
  | .findPlanById _, found => ∀ plan ∈ found, (plans.get? plan.id).isSome = true
  | _, _ => True

theorem referring_body {env : Env} {request : RepositoryCall} (h : request.Refers plans view) :
    Referring plans (fun value last => AnswersRefer plans request last value) (request.body env) view := by
  cases request with
  | createTransaction data =>
      refine referring_call (fun later _ _ write hYields => ?_) (fun _ _ hTells => hTells) fun _ _ _ hLater hHas =>
        hHas.later hLater
      obtain ⟨id, now, _, rfl⟩ := hYields
      exact ⟨fun _ hLock => absurd hLock List.not_mem_nil, h⟩
  | captureOrderPaymentWithOutbox params => exact referring_of_keeping (keeps_capture params) fun _ _ _ => trivial
  | failOrderPaymentWithOutbox params => exact referring_of_keeping (keeps_fail params) fun _ _ _ => trivial
  | processOrderRefund params => exact referring_refund params env.now
  | syncRefundFromWebhook params => exact referring_syncRefund params env.now
  | markFailed razorpayOrderId failureReason =>
      exact referring_of_keeping (Respects.call fun row => ⟨rfl, rfl⟩) fun _ _ _ => trivial
  | resetToCreated razorpayOrderId =>
      exact referring_of_keeping (Respects.call fun row => ⟨rfl, rfl⟩) fun _ _ _ => trivial
  | activateSubscriptionWithOutbox params => exact referring_activate h
  | expireSubscriptions pastDue now => exact referring_of_keeping (keeps_expire pastDue now) fun _ _ _ => trivial
  | createInvoice data =>
      refine referring_call (fun later hLater _ write hYields => ?_) (fun _ _ _ => trivial) fun _ _ _ _ _ => trivial
      obtain ⟨id, now, _, rfl⟩ := hYields
      refine ⟨fun lock hLock => ?_, nofun⟩
      rcases List.mem_append.mp hLock with hSubscription | hPayment
      · obtain ⟨id, hId, rfl⟩ := List.mem_map.mp hSubscription
        exact (h.1 id (Option.mem_toList.mp hId)).later hLater
      · obtain ⟨id, hId, rfl⟩ := List.mem_map.mp hPayment
        exact (h.2 id (Option.mem_toList.mp hId)).later hLater
  | findPlanById id =>
      exact referring_call (fun _ _ _ _ hYields => nomatch hYields) (fun _ _ hTells => hTells) fun _ _ _ _ hFound => hFound
  | _ => exact referring_of_keeping (Respects.call trivial) fun _ _ _ => trivial

end Methods

end SpotqPayment
