import SpotqPayment.System.Changes
import SpotqPayment.System.Concurrent

/-! Calls about one subscription order that run at the same time. The activation
checks the status once more in its own transaction, but `markFailed` and
`resetToCreated` write on the strength of a status that was read earlier. -/
namespace SpotqPayment

open Process Transition PaymentTransactionRepository SubscriptionRepository

/-- The subscription that the order has bought: the transaction is SUCCESS and linked to it. -/
def Database.purchase (db : Database) (razorpayOrderId : String) : Option Uuid :=
  (db.findTransaction (.razorpayOrderId razorpayOrderId)).bind completedSubscription

/-- The order belongs to a stored transaction of no food order, and a
subscription that it is linked to is stored as well. -/
def Database.OrdersSubscription (db : Database) (razorpayOrderId : String) : Prop :=
  ∃ tx, db.findTransaction (.razorpayOrderId razorpayOrderId) = some tx ∧ tx.orderId = none ∧
    ∀ id, tx.subscriptionId = some id → (db.subscriptions.get? id).isSome

/-- The calls that may work on a subscription order at the same time. -/
inductive Call.CompetesFor (razorpayOrderId : String) : Call → Prop where
  | verifyPayment {input : VerifyPaymentInput} (hOrder : input.razorpayOrderId = razorpayOrderId) :
      CompetesFor razorpayOrderId (.verifyPayment input)
  | createSubscriptionOrder (input : CreateSubscriptionOrderInput) :
      CompetesFor razorpayOrderId (.createSubscriptionOrder input)
  | handleWebhook {input : HandleWebhookInput}
      (hOrder : input.parsedPayload.reportedOrder = some razorpayOrderId) :
      CompetesFor razorpayOrderId (.handleWebhook input)

/-- A write that sets the status of the order whatever it was. -/
def Port.Overwrites (razorpayOrderId : String) : Port → Prop
  | .repository (.markFailed target _) => target = razorpayOrderId
  | .repository (.resetToCreated target) => target = razorpayOrderId
  | _ => False

/-- No `markFailed` and no `resetToCreated` is executed on the order once it has
bought a subscription. -/
def KeepsPurchase {kind : Call → Prop} (razorpayOrderId : String) (calls : Calls) :
    Move (RequestOf kind) Turn → Prop
  | .start _ => True
  | .advance index turn =>
      ∀ op, (calls.threads[index]?).bind Process.awaited = some op → op.Overwrites razorpayOrderId →
        turn.databaseFails = false → calls.shared.db.purchase razorpayOrderId = none

/-- What the competing calls await: everything that they can do to a transaction
other than reading it is an activation or an update of its status. -/
def Port.CompetesFor (razorpayOrderId : String) : Port → Prop
  | .repository (.captureOrderPaymentWithOutbox _) | .repository (.failOrderPaymentWithOutbox _)
  | .repository (.processOrderRefund _) | .repository (.syncRefundFromWebhook _)
  | .repository (.expireSubscriptions _ _) | .createRefund _ _ => False
  | .repository (.activateSubscriptionWithOutbox params) => params.payment.razorpayOrderId = razorpayOrderId
  | _ => True

/-- The transaction of the order is read as one of no food order. -/
def ReadsSubscriptionOrder (razorpayOrderId : String) :
    (port : Port) → Except ServiceError port.Answer → Prop
  | .repository (.findByOrderId target), .ok (some tx) =>
      target = razorpayOrderId → tx.orderId = none ∧ tx.razorpayOrderId = razorpayOrderId
  | _, _ => True

variable {config : Config} {razorpayOrderId : String} {tx : PaymentTransaction} {now : Instant}

section Calls

theorem respects_completedResponse (subscriptionId : Uuid) :
    (completedResponse tx subscriptionId now).Respects (Port.CompetesFor razorpayOrderId)
      (ReadsSubscriptionOrder razorpayOrderId) := by
  refine Respects.call_bind trivial fun subscription _ => ?_
  cases tx.planId with
  | none => trivial
  | some planId => exact Respects.call_bind trivial fun plan _ => trivial

theorem respects_activateVerified {input : VerifyPaymentInput} (hOrder : tx.razorpayOrderId = razorpayOrderId) :
    (activateVerified input tx now).Respects (Port.CompetesFor razorpayOrderId)
      (ReadsSubscriptionOrder razorpayOrderId) := by
  unfold activateVerified
  cases tx.planId with
  | none => trivial
  | some planId =>
      refine Respects.call_bind trivial fun found _ => ?_
      cases found with
      | none => trivial
      | some plan => exact Respects.call_bind hOrder fun subscription _ => trivial

theorem respects_verifyPayment {input : VerifyPaymentInput} (hOrder : input.razorpayOrderId = razorpayOrderId) :
    (verifyPayment config input now).Respects (Port.CompetesFor razorpayOrderId)
      (ReadsSubscriptionOrder razorpayOrderId) := by
  unfold verifyPayment
  split
  · trivial
  · refine Respects.call_bind trivial fun found hFound => ?_
    cases found with
    | none => trivial
    | some tx =>
        have hTx : tx.orderId = none ∧ tx.razorpayOrderId = razorpayOrderId := hFound hOrder
        simp only
        split
        · trivial
        · split
          · exact respects_completedResponse _
          · exact respects_activateVerified hTx.2

theorem respects_createSubscriptionOrder (input : CreateSubscriptionOrderInput) (invoiceNumber : String) :
    (createSubscriptionOrder config input invoiceNumber now).Respects (Port.CompetesFor razorpayOrderId)
      (ReadsSubscriptionOrder razorpayOrderId) := by
  unfold createSubscriptionOrder
  split
  · trivial
  refine Respects.call_bind trivial fun found _ => ?_
  cases found with
  | none => trivial
  | some plan =>
      simp only
      split
      · trivial
      refine Respects.call_bind trivial fun existing _ => ?_
      split
      · trivial
      refine Respects.call_bind trivial fun pending _ => ?_
      cases pending with
      | none =>
          refine Respects.call_bind trivial fun orderId _ => ?_
          refine Respects.call_bind trivial fun record _ => ?_
          exact Respects.call_bind trivial fun invoice _ => trivial
      | some pendingTx =>
          simp only
          split
          · exact Respects.call_bind trivial fun reset _ => trivial
          · trivial

theorem respects_activateFromWebhook (payload : WebhookPayload) (hOrder : tx.razorpayOrderId = razorpayOrderId) :
    (activateFromWebhook payload tx now).Respects (Port.CompetesFor razorpayOrderId)
      (ReadsSubscriptionOrder razorpayOrderId) := by
  unfold activateFromWebhook
  split
  · trivial
  · trivial
  · refine Respects.call_bind trivial fun found _ => ?_
    cases found with
    | none => trivial
    | some plan => exact Respects.call_bind hOrder fun subscription _ => trivial

theorem respects_handleSuccess {payload : WebhookPayload} (hOrder : payload.successOrderId = some razorpayOrderId) :
    (handleSuccess payload now).Respects (Port.CompetesFor razorpayOrderId)
      (ReadsSubscriptionOrder razorpayOrderId) := by
  unfold handleSuccess
  rw [hOrder]
  refine Respects.call_bind trivial fun found hFound => ?_
  cases found with
  | none => trivial
  | some tx =>
      have hTx : tx.orderId = none ∧ tx.razorpayOrderId = razorpayOrderId := hFound rfl
      simp only [hTx.1]
      exact respects_activateFromWebhook payload hTx.2

theorem respects_handleFailure {payload : WebhookPayload}
    (hOrder : truthy (payload.payment.bind (·.orderId)) = some razorpayOrderId) :
    (handleFailure payload now).Respects (Port.CompetesFor razorpayOrderId)
      (ReadsSubscriptionOrder razorpayOrderId) := by
  unfold handleFailure
  cases hPayment : payload.payment with
  | none => trivial
  | some entity =>
      rw [hPayment, Option.bind_some] at hOrder
      simp only [hOrder]
      refine Respects.call_bind trivial fun found hFound => ?_
      cases found with
      | none => trivial
      | some tx =>
          have hTx : tx.orderId = none ∧ tx.razorpayOrderId = razorpayOrderId := hFound rfl
          simp only [failFromWebhook, hTx.1]
          split
          · trivial
          · exact Respects.call_bind trivial fun row _ => trivial

theorem respects_dispatchWebhook {payload : WebhookPayload} (hOrder : payload.reportedOrder = some razorpayOrderId) :
    (dispatchWebhook payload now).Respects (Port.CompetesFor razorpayOrderId)
      (ReadsSubscriptionOrder razorpayOrderId) := by
  unfold WebhookPayload.reportedOrder at hOrder
  unfold dispatchWebhook
  cases hEvent : payload.event <;> rw [hEvent] at hOrder
  case paymentCaptured | orderPaid =>
    simp only
    split
    · exact respects_handleSuccess hOrder
    · trivial
  case paymentFailed => exact respects_handleFailure hOrder
  all_goals cases hOrder

theorem respects_handleWebhook {input : HandleWebhookInput}
    (hOrder : input.parsedPayload.reportedOrder = some razorpayOrderId) :
    (handleWebhook config input now).Respects (Port.CompetesFor razorpayOrderId)
      (ReadsSubscriptionOrder razorpayOrderId) := by
  unfold handleWebhook
  split
  · trivial
  · exact (respects_dispatchWebhook hOrder).bind fun _ => trivial

/-- Every competing call keeps to the operations listed above. -/
theorem Call.CompetesFor.respects {request : Request} (h : request.call.CompetesFor razorpayOrderId) :
    (request.call.process config request.env).Respects (Port.CompetesFor razorpayOrderId)
      (ReadsSubscriptionOrder razorpayOrderId) := by
  obtain ⟨call, env⟩ := request
  cases h with
  | verifyPayment hOrder => exact (respects_verifyPayment hOrder).map _
  | createSubscriptionOrder input => exact (respects_createSubscriptionOrder input env.invoiceNumber).map _
  | handleWebhook hOrder => exact (respects_handleWebhook hOrder).map _

end Calls

/-- What an awaited operation does to the order. -/
inductive OrderStep (razorpayOrderId : String) (overwrites : Prop) (db after : Database) : Prop where
  | kept (hIdle : ¬ overwrites)
      (hRow : after.findTransaction (.razorpayOrderId razorpayOrderId) =
        db.findTransaction (.razorpayOrderId razorpayOrderId))
      (hSubscriptions : after.subscriptions = db.subscriptions)
  | activated (hIdle : ¬ overwrites) (hOpen : db.purchase razorpayOrderId = none)
      (hOrder : after.OrdersSubscription razorpayOrderId)
  | overwritten (hActs : overwrites) (hLost : after.purchase razorpayOrderId = none)
      (hOrder : after.OrdersSubscription razorpayOrderId)

namespace OrderStep

variable {overwrites : Prop} {db after : Database}

theorem of_iff (h : OrderStep razorpayOrderId overwrites db after) {other : Prop} (hIff : overwrites ↔ other) :
    OrderStep razorpayOrderId other db after := propext hIff ▸ h

theorem ordersSubscription (h : OrderStep razorpayOrderId overwrites db after)
    (hOrder : db.OrdersSubscription razorpayOrderId) : after.OrdersSubscription razorpayOrderId := by
  cases h with
  | kept hIdle hRow hSubscriptions =>
      unfold Database.OrdersSubscription
      rw [hRow, hSubscriptions]
      exact hOrder
  | activated hIdle hOpen hAfter => exact hAfter
  | overwritten hActs hLost hAfter => exact hAfter

/-- A purchase is lost exactly when it is there and the operation overwrites the order. -/
theorem keeps_iff (h : OrderStep razorpayOrderId overwrites db after) :
    (overwrites → db.purchase razorpayOrderId = none) ↔
      ∀ id, db.purchase razorpayOrderId = some id → after.purchase razorpayOrderId = some id := by
  cases h with
  | kept hIdle hRow hSubscriptions =>
      have hSame : after.purchase razorpayOrderId = db.purchase razorpayOrderId := by
        unfold Database.purchase
        rw [hRow]
      exact ⟨fun _ id hId => hSame.trans hId, fun _ hActs => absurd hActs hIdle⟩
  | activated hIdle hOpen hAfter =>
      refine ⟨fun _ id hId => ?_, fun _ hActs => absurd hActs hIdle⟩
      rw [hOpen] at hId
      cases hId
  | overwritten hActs hLost hAfter =>
      constructor
      · intro hNone id hId
        rw [hNone hActs] at hId
        cases hId
      · intro hKeeps _
        refine Option.eq_none_iff_forall_ne_some.mpr fun id hId => ?_
        have hAfterId := hKeeps id hId
        rw [hLost] at hAfterId
        cases hAfterId

end OrderStep

section Operations

variable {env : Env} {db written : Database} {world : World} {overwrites : Prop}

theorem Database.OrdersSubscription.ne_of_missing (h : db.OrdersSubscription razorpayOrderId)
    {target : String} (hTarget : db.findTransaction (.razorpayOrderId target) = none) :
    target ≠ razorpayOrderId := by
  obtain ⟨own, hOwn, _, _⟩ := h
  rintro rfl
  rw [hTarget] at hOwn
  cases hOwn

/-- Writes to other transactions leave the order alone. -/
theorem orderStep_untouched {writes : List Write} (hIdle : ¬ overwrites)
    (hTx : db.findTransaction (.razorpayOrderId razorpayOrderId) = some tx)
    (hRows : ∀ row ∈ writes.filterMap Write.transaction?, row.id ≠ tx.id)
    (hSubscriptions : writes.filterMap Write.subscription? = []) :
    OrderStep razorpayOrderId overwrites db (db.store writes) := by
  rcases db.store_cases writes with ⟨_, hSame⟩ | ⟨written, hWritten, hStored⟩
  · rw [hSame]
    exact .kept hIdle rfl rfl
  have hTables := Database.written_of_writeAll hWritten
  have hMem := Database.findTransaction_mem hTx
  have hGet : written.transactions.get? tx.id = some tx := by
    rw [Table.get?_putAll_of_absent hTables.transactions hRows]
    exact Table.get?_key hMem
  have hTable := hTables.subscriptions
  rw [hSubscriptions] at hTable
  rw [hStored]
  refine .kept hIdle ?_ (Option.some.inj hTable).symm
  rw [hTx, ← Database.findTransaction_orderId hTx]
  exact Database.findTransaction_of_mem (Table.get?_eq_some.mp hGet).1

/-- The order after a write of its row. -/
theorem findTransaction_of_get? {id : Uuid} {row : PaymentTransaction}
    (hGet : db.transactions.get? id = some row) (hOrder : row.razorpayOrderId = razorpayOrderId) :
    db.findTransaction (.razorpayOrderId razorpayOrderId) = some row := by
  rw [← hOrder]
  exact Database.findTransaction_of_mem (Table.get?_eq_some.mp hGet).1

theorem purchase_of_found {row : PaymentTransaction}
    (hRow : db.findTransaction (.razorpayOrderId razorpayOrderId) = some row) :
    db.purchase razorpayOrderId = completedSubscription row := by
  rw [Database.purchase, hRow, Option.bind_some]

/-- An update of the row by gateway order to a status that is not SUCCESS, which
leaves the ids and the link alone. -/
theorem orderStep_update {target : String} {row : PaymentTransaction}
    (hOrder : db.OrdersSubscription razorpayOrderId)
    (hTarget : db.findTransaction (.razorpayOrderId target) = some tx)
    (hSame : row.SamePayment tx) (hPayment : row.razorpayPaymentId = tx.razorpayPaymentId)
    (hLink : row.subscriptionId = tx.subscriptionId) (hStatus : row.status ≠ .success) :
    OrderStep razorpayOrderId (target = razorpayOrderId) db (db.store [.transaction row]) := by
  obtain ⟨own, hOwn, hPlain, hStored⟩ := hOrder
  have hMem := Database.findTransaction_mem hTarget
  by_cases hIs : target = razorpayOrderId
  · rw [hIs, hOwn] at hTarget
    cases hTarget
    obtain ⟨written, hWritten⟩ := transaction_accepted row hMem hSame.id hSame.razorpayOrderId
      hSame.amountPaise hPayment
    have hTables := Database.written_of_writeAll hWritten
    have hGet := hTables.get?_single rfl row.id
    rw [if_pos rfl] at hGet
    have hSubscriptions : written.subscriptions = db.subscriptions :=
      (Option.some.inj hTables.subscriptions).symm
    have hRow := findTransaction_of_get? hGet
      (hSame.razorpayOrderId.trans (Database.findTransaction_orderId hOwn))
    rw [Database.store_of_writeAll hWritten]
    refine .overwritten hIs ?_ ⟨row, hRow, hSame.orderId.trans hPlain, fun id hId => ?_⟩
    · rw [purchase_of_found hRow, completedSubscription, if_neg hStatus]
    · rw [hSubscriptions]
      exact hStored id (hLink.symm.trans hId)
  · refine orderStep_untouched hIs hOwn (fun other hOther => ?_) rfl
    rw [List.mem_singleton.mp hOther, hSame.id]
    intro hId
    have hEq : tx = own := Table.eq_of_key hMem (Database.findTransaction_mem hOwn) hId
    rw [← Database.findTransaction_orderId hTarget, ← Database.findTransaction_orderId hOwn, hEq] at hIs
    exact hIs rfl

theorem orderStep_activate {params : ActivateSubscriptionWithOutboxParams}
    (hOrder : world.db.OrdersSubscription razorpayOrderId)
    (hParams : params.payment.razorpayOrderId = razorpayOrderId) (hIdle : ¬ overwrites) :
    OrderStep razorpayOrderId overwrites world.db
      (Port.perform env (.repository (.activateSubscriptionWithOutbox params)) world).2.db := by
  obtain ⟨own, hOwn, hPlain, hStored⟩ := hOrder
  have hRow : world.db.findTransaction (.razorpayOrderId params.payment.razorpayOrderId) = some own := by
    rw [hParams, hOwn]
  cases hDone : completedSubscription own with
  | some id =>
      have hPaid : own.status = .success ∧ own.subscriptionId = some id := by
        simpa [completedSubscription] using hDone
      obtain ⟨subscription, hFound⟩ := Option.isSome_iff_exists.mp (hStored id hPaid.2)
      rw [perform_of_writes (activateSubscriptionWithOutbox_idle hRow hPaid.1 hPaid.2 hFound)]
      exact .kept hIdle rfl rfl
  | none =>
      have hUnlinked : own.status = .success → ∀ id, own.subscriptionId = some id →
          world.db.subscriptions.get? id = none := by
        intro hStatus id hId
        rw [completedSubscription, if_pos hStatus, hId] at hDone
        cases hDone
      rw [perform_of_writes (activateSubscriptionWithOutbox_writes hRow hUnlinked)]
      show OrderStep razorpayOrderId overwrites world.db
        (world.db.store (activationWrites world.db env own params))
      rcases world.db.store_cases (activationWrites world.db env own params) with
        ⟨_, hSame⟩ | ⟨written, hWritten, hWrittenIs⟩
      · rw [hSame]
        exact .kept hIdle rfl rfl
      have hGet := get?_activated hWritten own.id
      rw [if_pos rfl] at hGet
      have hSamePayment := @activatedRow_samePayment own params.payment
        (world.db.subscriptionRow env params.subscription).id env.now
      have hTable := (Database.written_of_writeAll hWritten).subscriptions
      rw [activationWrites_subscription?, Table.putAll_singleton] at hTable
      have hAfter := findTransaction_of_get? hGet
        (hSamePayment.razorpayOrderId.trans (Database.findTransaction_orderId hOwn))
      rw [hWrittenIs]
      refine .activated hIdle (by rw [purchase_of_found hOwn, hDone])
        ⟨_, hAfter, hSamePayment.orderId.trans hPlain, fun id hId => ?_⟩
      rw [← Option.some.inj hId, Option.isSome_iff_exists]
      exact ⟨_, Table.get?_put_self hTable⟩

theorem orderStep_markFailed (hOrder : world.db.OrdersSubscription razorpayOrderId)
    (target failureReason : String) :
    OrderStep razorpayOrderId (target = razorpayOrderId) world.db
      (Port.perform env (.repository (.markFailed target failureReason)) world).2.db := by
  cases hTarget : world.db.findTransaction (.razorpayOrderId target) with
  | some row =>
      rw [perform_markFailed hTarget]
      exact orderStep_update hOrder hTarget ⟨rfl, rfl, rfl, rfl, rfl⟩ rfl rfl nofun
  | none =>
      rw [perform_markFailed_missing hTarget]
      exact .kept (hOrder.ne_of_missing hTarget) rfl rfl

theorem orderStep_resetToCreated (hOrder : world.db.OrdersSubscription razorpayOrderId) (target : String) :
    OrderStep razorpayOrderId (target = razorpayOrderId) world.db
      (Port.perform env (.repository (.resetToCreated target)) world).2.db := by
  cases hTarget : world.db.findTransaction (.razorpayOrderId target) with
  | some row =>
      rw [perform_resetToCreated hTarget]
      exact orderStep_update hOrder hTarget ⟨rfl, rfl, rfl, rfl, rfl⟩ rfl rfl nofun
  | none =>
      rw [perform_resetToCreated_missing hTarget]
      exact .kept (hOrder.ne_of_missing hTarget) rfl rfl

theorem orderStep_createTransaction (hOrder : world.db.OrdersSubscription razorpayOrderId)
    (data : CreatePaymentTransactionInput) (hIdle : ¬ overwrites) :
    OrderStep razorpayOrderId overwrites world.db
      (Port.perform env (.repository (.createTransaction data)) world).2.db := by
  obtain ⟨own, hOwn, _, _⟩ := hOrder
  rw [perform_createTransaction]
  refine orderStep_untouched hIdle hOwn (fun row hRow => ?_) rfl
  rw [List.mem_singleton.mp hRow]
  exact transactionRow_id_ne (Database.findTransaction_mem hOwn) data

theorem orderStep_createInvoice (hOrder : world.db.OrdersSubscription razorpayOrderId)
    (data : CreateBillingInvoiceInput) (hIdle : ¬ overwrites) :
    OrderStep razorpayOrderId overwrites world.db
      (Port.perform env (.repository (.createInvoice data)) world).2.db := by
  obtain ⟨own, hOwn, _, _⟩ := hOrder
  rw [perform_createInvoice]
  exact orderStep_untouched hIdle hOwn (fun row hRow => absurd hRow List.not_mem_nil) rfl

/-- An operation of a competing call, one case for each of them. -/
theorem orderStep_of_competes (hOrder : world.db.OrdersSubscription razorpayOrderId) {op : Port}
    (hOp : op.CompetesFor razorpayOrderId) :
    OrderStep razorpayOrderId (op.Overwrites razorpayOrderId) world.db (Port.perform env op world).2.db := by
  cases op with
  | createOrder amountInPaise currency =>
      have hSame : (Port.perform env (.createOrder amountInPaise currency) world).2.db = world.db := by
        unfold Port.perform
        cases env.gatewayOrderId <;> rfl
      rw [hSame]
      exact .kept id rfl rfl
  | createRefund paymentId amountInPaise => exact absurd hOp id
  | repository request =>
      cases request with
      | findByOrderId target => exact .kept id rfl rfl
      | findByCustomerOrderId orderId => exact .kept id rfl rfl
      | findPendingByRestaurantAndPlan restaurantId planId => exact .kept id rfl rfl
      | createTransaction data => exact orderStep_createTransaction hOrder data id
      | captureOrderPaymentWithOutbox params => exact absurd hOp id
      | failOrderPaymentWithOutbox params => exact absurd hOp id
      | processOrderRefund params => exact absurd hOp id
      | syncRefundFromWebhook params => exact absurd hOp id
      | markFailed target failureReason => exact orderStep_markFailed hOrder target failureReason
      | resetToCreated target => exact orderStep_resetToCreated hOrder target
      | findPlanById id => exact .kept not_false rfl rfl
      | findActiveByRestaurantId restaurantId => exact .kept id rfl rfl
      | findSubscriptionById id => exact .kept not_false rfl rfl
      | activateSubscriptionWithOutbox params => exact orderStep_activate hOrder hOp id
      | createInvoice data => exact orderStep_createInvoice hOrder data id
      | findPastDueSubscriptions now => exact .kept id rfl rfl
      | expireSubscriptions pastDue now => exact absurd hOp id

/-- A transaction that the database fails leaves the order as it was. -/
theorem orderStep_of_turn (hOrder : world.db.OrdersSubscription razorpayOrderId) {op : Port}
    (hOp : op.CompetesFor razorpayOrderId) (turn : Turn) :
    OrderStep razorpayOrderId (op.Overwrites razorpayOrderId ∧ turn.databaseFails = false) world.db
      (turn.perform op world).2.db := by
  have hStep := @orderStep_of_competes razorpayOrderId turn.env world hOrder op hOp
  cases hFails : turn.databaseFails with
  | false =>
      have hSame : turn.perform op world = Port.perform turn.env op world := by
        cases op <;> simp [Turn.perform, hFails]
      rw [hSame]
      exact hStep.of_iff (and_iff_left rfl).symm
  | true =>
      cases op with
      | repository request =>
          simp only [Turn.perform, hFails, if_true]
          exact .kept nofun rfl rfl
      | createOrder amountInPaise currency => exact hStep.of_iff ⟨False.elim, fun h => nomatch h.2⟩
      | createRefund paymentId amountInPaise => exact absurd hOp id

/-- The order is read as what it is. -/
theorem readsSubscriptionOrder_of_turn (hOrder : world.db.OrdersSubscription razorpayOrderId) (op : Port)
    (turn : Turn) : ReadsSubscriptionOrder razorpayOrderId op (turn.perform op world).1 := by
  cases op with
  | createOrder amountInPaise currency => trivial
  | createRefund paymentId amountInPaise => trivial
  | repository request =>
      cases request
      case findByOrderId target =>
        obtain ⟨own, hOwn, hPlain, _⟩ := hOrder
        cases hFails : turn.databaseFails with
        | true =>
            simp only [Turn.perform, hFails, if_true]
            trivial
        | false =>
            simp only [Turn.perform, hFails, perform_findByOrderId]
            cases hFound : world.db.findTransaction (.razorpayOrderId target) with
            | none => trivial
            | some tx =>
                intro hTarget
                rw [hTarget, hOwn] at hFound
                cases hFound
                exact ⟨hPlain, Database.findTransaction_orderId hOwn⟩
      all_goals trivial

end Operations

section Runs

variable (config) (razorpayOrderId)

/-- The order stays one of a subscription, and all calls keep to their operations. -/
abbrev Competition : Calls → Prop :=
  Pool.Respecting (fun world : World => world.db.OrdersSubscription razorpayOrderId)
    (Port.CompetesFor razorpayOrderId) (ReadsSubscriptionOrder razorpayOrderId)

variable {config} {razorpayOrderId} {calls : Calls}

theorem competition_step (h : Competition razorpayOrderId calls)
    (move : Move (RequestOf (Call.CompetesFor razorpayOrderId)) Turn) :
    Competition razorpayOrderId (interleave config calls move) := by
  cases move with
  | start request => exact Pool.Respecting.start h request.2.respects
  | advance index turn =>
      refine Pool.Respecting.advance h fun thread op _ _ hOp => ⟨?_, ?_⟩
      · exact (orderStep_of_turn h.shared hOp turn).ordersSubscription h.shared
      · exact readsSubscriptionOrder_of_turn h.shared op turn

/-- What a step of a running call does to the order. -/
theorem Competition.orderStep (h : Competition razorpayOrderId calls) {index : Nat} {turn : Turn} {op : Port}
    (hOp : (calls.threads[index]?).bind Process.awaited = some op) :
    OrderStep razorpayOrderId (op.Overwrites razorpayOrderId ∧ turn.databaseFails = false)
      calls.shared.db (turn.perform op calls.shared).2.db := by
  obtain ⟨thread, hThread, hAwaited⟩ := Option.bind_eq_some_iff.mp hOp
  have hRespects := h.each thread (List.mem_of_getElem? hThread)
  exact orderStep_of_turn h.shared (hRespects.allowed_of_awaited hAwaited) turn

/-- A move loses no purchase exactly when it executes no stale write. -/
theorem keepsPurchase_step_iff (h : Competition razorpayOrderId calls)
    (move : Move (RequestOf (Call.CompetesFor razorpayOrderId)) Turn) :
    KeepsPurchase razorpayOrderId calls move ↔
      ∀ id, calls.shared.db.purchase razorpayOrderId = some id →
        (interleave config calls move).shared.db.purchase razorpayOrderId = some id := by
  cases move with
  | start request => exact ⟨fun _ _ hId => hId, fun _ => trivial⟩
  | advance index turn =>
      rw [KeepsPurchase, interleave_advance_shared]
      cases hOp : (calls.threads[index]?).bind Process.awaited with
      | none => exact ⟨fun _ _ hId => hId, fun _ _ hNone => nomatch hNone⟩
      | some op =>
          have hKeeps := (@Competition.orderStep razorpayOrderId calls h index turn op hOp).keeps_iff
          simp only [Option.some.injEq, forall_eq']
          rw [← hKeeps, and_imp]

/-- Whatever the calls and their order, every subscription that the order has
bought stays bought in exactly those runs in which no stale write is executed. -/
theorem purchase_stable_iff (config : Config) (world : World) (razorpayOrderId : String)
    (hOrder : world.db.OrdersSubscription razorpayOrderId)
    (moves : List (Move (RequestOf (Call.CompetesFor razorpayOrderId)) Turn)) :
    (∀ id, Stable (interleave config) world.idle moves fun calls =>
        calls.shared.db.purchase razorpayOrderId = some id) ↔
      EveryStep (interleave config) world.idle moves (KeepsPurchase razorpayOrderId) :=
  stable_family_iff (Competition razorpayOrderId) (fun _ move h => competition_step h move)
    (fun _ move h => keepsPurchase_step_iff h move) moves (Pool.Invariant.empty hOrder)

end Runs

namespace Sample

def turn (now : Instant) : Turn where
  env := env now
  databaseFails := false

/-- The failure of a first attempt is handled up to its write, a second attempt is
verified and activates the subscription, and then the failure is written. -/
def staleFailure : List (Move (RequestOf (Call.CompetesFor "order_1")) Turn) :=
  [.start ⟨failed 2000, .handleWebhook rfl⟩, .advance 0 (turn 2000),
    .start ⟨verifyPayment 3000 "order_1" "pay_1", .verifyPayment rfl⟩, .advance 1 (turn 3000),
    .advance 1 (turn 3000), .advance 1 (turn 3000), .advance 0 (turn 4000)]

end Sample

theorem openOrder_ordersSubscription : Sample.openOrder.db.OrdersSubscription "order_1" :=
  ⟨(Sample.openOrder.db.findTransaction (.razorpayOrderId "order_1")).get (by decide), by decide, by decide,
    by decide⟩

theorem purchase_stable_iff_openOrder :
    (∀ id, Stable (interleave Sample.config) Sample.openOrder.idle Sample.staleFailure fun calls =>
        calls.shared.db.purchase "order_1" = some id) ↔
      EveryStep (interleave Sample.config) Sample.openOrder.idle Sample.staleFailure (KeepsPurchase "order_1") :=
  purchase_stable_iff Sample.config Sample.openOrder "order_1" openOrder_ordersSubscription Sample.staleFailure

/-- The stale failure takes the purchase away. -/
theorem purchase_stable_fails :
    ¬ ∀ config (world : World) razorpayOrderId, world.db.OrdersSubscription razorpayOrderId →
      ∀ moves : List (Move (RequestOf (Call.CompetesFor razorpayOrderId)) Turn),
        ∀ id, Stable (interleave config) world.idle moves fun calls =>
          calls.shared.db.purchase razorpayOrderId = some id := by
  intro h
  have hStable := h Sample.config Sample.openOrder "order_1" openOrder_ordersSubscription Sample.staleFailure 0
    (Sample.staleFailure.take 6) Sample.staleFailure (List.take_prefix 6 Sample.staleFailure)
    List.prefix_rfl (by decide)
  exact absurd hStable (by decide)

end SpotqPayment
