import SpotqPayment.System.OrderPayments
import SpotqPayment.Properties.ChargedOnce

/-! What operations that name a food order find of its payments. They look at the
newest transaction of the order, while a payment may be reported for any of them. -/
namespace SpotqPayment

open Process Transition PaymentTransactionRepository SubscriptionRepository

/-- Some transaction of the order is CAPTURED. -/
def Database.Paid (db : Database) (orderId : Uuid) : Prop :=
  ∃ tx ∈ db.transactions.rows, tx.orderId = some orderId ∧ tx.status = .captured

instance (db : Database) (orderId : Uuid) : Decidable (db.Paid orderId) :=
  inferInstanceAs (Decidable (∃ tx ∈ db.transactions.rows, tx.orderId = some orderId ∧ tx.status = .captured))

/-- The state after a refund of an order without an amount. -/
def askRefund (config : Config) (world : World) (env : Env) (orderId : Uuid) (reason : Option String) : World :=
  serve config world { call := .processOrderRefund { orderId, amountPaise := none, reason }, env }

/-- What a paid order promises: no further payment is opened, the status is
reported to the customer of the order, and a refund takes back a payment. -/
structure FindsMoney (config : Config) (world : World) (orderId : Uuid) : Prop where
  refused : ∀ (env : Env) (input : CreateOrderPaymentInput), input.orderId = orderId →
    exec (Port.perform env) (createOrderPayment config input) world =
      (.error .orderPaymentAlreadyCaptured, world)
  reported : ∀ (env : Env) (customerId : Uuid),
    (∀ tx ∈ world.db.transactions.rows, tx.orderId = some orderId → tx.customerId = some customerId) →
      ∃ output, output.status = .captured ∧ exec (Port.perform env)
        (getOrderPaymentStatus { orderId, customerId := some customerId }) world = (.ok output, world)
  refunded : ∀ (env : Env) (answer : PaymentRefundResult) (reason : Option String),
    env.gatewayRefund = some answer →
      ∃ tx ∈ world.db.transactions.rows, ∃ paymentId, tx.orderId = some orderId ∧ tx.status = .captured ∧
        tx.razorpayPaymentId = some paymentId ∧ (askRefund config world env orderId reason).gateway.refunds =
          world.gateway.refunds ++
            [{ refundId := answer.refundId, paymentId := paymentId, amountInPaise := tx.amountPaise }]

/-- Of a paid order all newest transactions are CAPTURED and name their payment. -/
def Database.NewestPaid (db : Database) : Prop :=
  ∀ orderId, db.Paid orderId → ∀ tx, db.Newest orderId tx →
    tx.status = .captured ∧ truthy tx.razorpayPaymentId ≠ none

/-- The call captures no transaction of an unpaid order, unless it is newer than
all others of the order and its payment is named. -/
def CapturesNewest (config : Config) (world : World) (request : RequestOf Call.PaysOrder) : Prop :=
  ∀ tx params event, Captures config world.db request.1.env.now request.1.call tx params event →
    tx.Capturable → world.db.PaymentIdFree tx (params.paymentId.or tx.razorpayPaymentId) →
      (∃ paid ∈ world.db.transactions.rows, paid.orderId = tx.orderId ∧ paid.status = .captured) ∨
      (∀ other ∈ world.db.transactions.rows, other.orderId = tx.orderId → other.id ≠ tx.id →
          other.createdAt < tx.createdAt) ∧
        truthy (params.paymentId.or tx.razorpayPaymentId) ≠ none

variable {config : Config} {db : Database} {env : Env} {world : World} {tx : PaymentTransaction}
  {orderId : Uuid}

section Reading

/-- A transaction without an owner, or of this customer, is shown to them. -/
theorem getOrderPaymentStatus_ok {input : GetOrderPaymentStatusInput}
    (hNewest : world.db.newestOf env input.orderId = some tx)
    (hOwner : tx.assertOwnership input.customerId = .ok ()) :
    exec (Port.perform env) (getOrderPaymentStatus input) world =
      (.ok (OrderPaymentMapper.toStatusResponse tx), world) := by
  unfold Database.newestOf at hNewest
  rw [getOrderPaymentStatus, exec_call_bind, perform_findByCustomerOrderId, hNewest]
  simp only [hOwner, check_ok, ret_bind]
  rfl

theorem assertOwnership_self {customerId : Uuid} (h : tx.customerId = some customerId) :
    tx.assertOwnership (some customerId) = .ok () := by
  unfold PaymentTransaction.assertOwnership PaymentTransaction.isOwnedBy
  simp [h]

theorem refundAccepted_of_newest {paymentId : String} {reason : Option String}
    (hNewest : db.newestOf env orderId = some tx) (hStatus : tx.status = .captured)
    (hPayment : truthy tx.razorpayPaymentId = some paymentId) :
    ProcessOrderRefundInput.Accepted db env { orderId, amountPaise := none, reason } tx paymentId where
  newest := hNewest
  refundable := tx.refundable_of_paid (Or.inl hStatus) (by rw [hPayment]; exact Option.some_ne_none paymentId)
  payment := hPayment

/-- A refund that the gateway is asked for is one of the newest transaction. -/
theorem refundAccepted_of_asked {reason : Option String} {answer : PaymentRefundResult} {refund : GatewayRefund}
    (hAnswer : env.gatewayRefund = some answer)
    (hAsked : (askRefund config world env orderId reason).gateway.refunds = world.gateway.refunds ++ [refund]) :
    ∃ tx, ProcessOrderRefundInput.Accepted world.db env { orderId, amountPaise := none, reason } tx
      refund.paymentId := by
  unfold askRefund at hAsked
  by_cases hAccepted : ∃ tx paymentId,
      ProcessOrderRefundInput.Accepted world.db env { orderId, amountPaise := none, reason } tx paymentId
  · obtain ⟨tx, paymentId, hAccepted⟩ := hAccepted
    rw [serve_processOrderRefund hAccepted hAnswer] at hAsked
    have hLast := List.append_cancel_left hAsked
    cases hLast
    exact ⟨tx, hAccepted⟩
  · rw [serve_processOrderRefund_idle fun tx paymentId _ h => absurd ⟨tx, paymentId, h⟩ hAccepted] at hAsked
    exact absurd hAsked (by simp)

/-- A newest transaction is the one that some refund looks at. -/
theorem newestOf_refunding (hNewest : db.Newest orderId tx) : ∃ (env : Env) (answer : PaymentRefundResult),
    env.gatewayRefund = some answer ∧ db.newestOf env orderId = some tx := by
  obtain ⟨tie, hFound⟩ := newestOf_of_newest
    { Sample.env 0 with gatewayRefund := some { refundId := "rfnd_1", status := none, arn := none } } hNewest
  exact ⟨_, _, rfl, hFound⟩

end Reading

/-- A paid order is found by all operations exactly when they look at a payment. -/
theorem findsMoney_iff (hPaid : world.db.Paid orderId) : FindsMoney config world orderId ↔
    ∀ tx, world.db.Newest orderId tx → tx.status = .captured ∧ truthy tx.razorpayPaymentId ≠ none := by
  constructor
  · intro hFinds tx hNewest
    obtain ⟨env, answer, hAnswer, hFound⟩ := newestOf_refunding hNewest
    obtain ⟨paid, hMem, paymentId, hOrder, hStatus, hPaidId, hAsked⟩ := hFinds.refunded env answer none hAnswer
    obtain ⟨found, hAccepted⟩ := refundAccepted_of_asked hAnswer hAsked
    cases hFound.symm.trans hAccepted.newest
    have hSame : tx = paid := Database.eq_of_paymentId hNewest.mem hMem (truthy_eq_some hAccepted.payment).1 hPaidId
    rw [hAccepted.payment, hSame]
    exact ⟨hStatus, Option.some_ne_none paymentId⟩
  · intro hCaptured
    obtain ⟨paid, hPaidMem, hOrder, _⟩ := hPaid
    refine ⟨fun env input hInput => ?_, fun env customerId hOwner => ?_, fun env answer reason hAnswer => ?_⟩
    · subst hInput
      obtain ⟨tx, hNewest⟩ := exists_newestOf env hPaidMem hOrder
      exact createOrderPayment_refused hNewest (Or.inl (hCaptured tx (newest_of_newestOf hNewest)).1)
    · obtain ⟨tx, hNewest⟩ := exists_newestOf env hPaidMem hOrder
      have hTx := newest_of_newestOf hNewest
      refine ⟨OrderPaymentMapper.toStatusResponse tx, (hCaptured tx hTx).1, ?_⟩
      exact getOrderPaymentStatus_ok hNewest (assertOwnership_self (hOwner tx hTx.mem hTx.order))
    · obtain ⟨tx, hNewest⟩ := exists_newestOf env hPaidMem hOrder
      have hTx := newest_of_newestOf hNewest
      obtain ⟨hStatus, hPayment⟩ := hCaptured tx hTx
      obtain ⟨paymentId, hPaymentId⟩ := Option.ne_none_iff_exists'.mp hPayment
      refine ⟨tx, hTx.mem, paymentId, hTx.order, hStatus, (truthy_eq_some hPaymentId).1, ?_⟩
      rw [askRefund, serve_processOrderRefund (refundAccepted_of_newest hNewest hStatus hPaymentId) hAnswer]
      rfl

section Paying

/-- A change does not make a transaction newer. -/
theorem Change.createdAt {call : Call} {row : PaymentTransaction} (h : Change config db env call tx row) :
    row.createdAt = tx.createdAt := by
  cases h with
  | captured hCaptures hOpen hFree => rfl
  | failed hReported hFood hOpen => rfl
  | markedFailed hReported hPlain hOpen => rfl
  | activated hActivates hOpen hFree hReady =>
      unfold activatedRow claimedRow
      split <;> rfl
  | refunded hAccepted hAnswer hFresh => rfl
  | settled hReported hProcessed hRefund => rfl
  | reset hAccepted hPending hFailed => rfl

/-- No payment changes a food order that is captured already. -/
theorem Change.not_captured {call : Call} {row : PaymentTransaction} (hPays : call.PaysOrder)
    (h : Change config db env call tx row) (hOrder : tx.orderId = some orderId) : tx.status ≠ .captured := by
  cases h with
  | captured hCaptures hOpen hFree => exact hOpen.1
  | failed hReported hFood hOpen => exact fun hStatus => hOpen (Or.inl hStatus)
  | markedFailed hReported hPlain hOpen => exact fun hStatus => hOpen (Or.inr hStatus)
  | activated hActivates hOpen hFree hReady =>
      cases hActivates with
      | verify hAccepted => cases hPays
      | webhook hReported hPlain => cases hPlain.symm.trans hOrder
  | refunded hAccepted hAnswer hFresh => cases hPays
  | settled hReported hProcessed hRefund =>
      cases hPays with
      | handleWebhook input hEvent =>
          rcases hReported.refund with hRefunded | hRefunded <;>
            simp [WebhookEvent.isPayment, WebhookEvent.isSuccess, hRefunded] at hEvent
  | reset hAccepted hPending hFailed => cases hPays

variable {request : RequestOf Call.PaysOrder}

/-- A stored transaction is still stored after a call, as old and for the same order. -/
theorem payOrder_kept (hLinked : world.db.RefundsLinked) (hTx : tx ∈ world.db.transactions.rows) :
    ∃ row ∈ (payOrder config world request).db.transactions.rows,
      row.id = tx.id ∧ row.orderId = tx.orderId ∧ row.createdAt = tx.createdAt := by
  rcases (@serve_outcome config world hLinked request.1).of_stored hTx with hKept | ⟨row, hChange, hId, hGet⟩
  · exact ⟨tx, (Table.get?_eq_some.mp hKept).1, rfl, rfl, rfl⟩
  · exact ⟨row, (Table.get?_eq_some.mp hGet).1, hId, hChange.samePayment.orderId, hChange.createdAt⟩

/-- The newest transactions of an order are found among those that are as new. -/
theorem Database.Newest.before {row : PaymentTransaction} (hLinked : world.db.RefundsLinked)
    (hNewest : (payOrder config world request).db.Newest orderId row) (hTx : tx ∈ world.db.transactions.rows)
    (hOrder : row.orderId = tx.orderId) (hCreated : row.createdAt = tx.createdAt) :
    world.db.Newest orderId tx := by
  refine ⟨hTx, hOrder.symm.trans hNewest.order, fun other hOther hSame => ?_⟩
  obtain ⟨kept, hKept, _, hKeptOrder, hKeptCreated⟩ := @payOrder_kept config world other request hLinked hOther
  have hLatest := hNewest.latest kept hKept (hKeptOrder.trans hSame)
  rwa [hKeptCreated, hCreated] at hLatest

/-- What was paid before the call is found after it. -/
theorem newestPaid_kept (hLinked : world.db.RefundsLinked) (hPaid : world.db.Paid orderId)
    (hBefore : ∀ tx, world.db.Newest orderId tx → tx.status = .captured ∧ truthy tx.razorpayPaymentId ≠ none)
    (hNewest : (payOrder config world request).db.Newest orderId tx) :
    tx.status = .captured ∧ truthy tx.razorpayPaymentId ≠ none := by
  rcases payOrder_origin hLinked hNewest.mem with
    hOld | ⟨input, razorpayOrderId, _, hOpens, rfl⟩ | ⟨old, hOld, hChange⟩
  · exact hBefore tx (hNewest.before hLinked hOld rfl rfl)
  · -- The call found the newest transaction of the order, which is paid.
    obtain ⟨paid, hMem, hOrder, _⟩ := hPaid
    have hInput : input.orderId = orderId := Option.some.inj hNewest.order
    obtain ⟨newest, hFound⟩ := exists_newestOf request.1.env hMem hOrder
    have hCaptured := (hBefore newest (newest_of_newestOf hFound)).1
    rw [← hInput] at hFound
    exact absurd (Or.inl hCaptured) (hOpens.newest newest hFound).1
  · have hOldNewest := hNewest.before hLinked hOld hChange.samePayment.orderId hChange.createdAt
    exact absurd (hBefore old hOldNewest).1 (hChange.not_captured request.2 hOldNewest.order)

/-- The call that pays the newest transaction of an order opens no other one. -/
theorem newest_of_captured {paid row : PaymentTransaction} (hLinked : world.db.RefundsLinked)
    (hChange : Change config world.db request.1.env request.1.call tx paid)
    (hPaid : paid ∈ (payOrder config world request).db.transactions.rows)
    (hOrder : paid.orderId = some orderId)
    (hNewer : ∀ other ∈ world.db.transactions.rows, other.orderId = tx.orderId → other.id ≠ tx.id →
      other.createdAt < tx.createdAt)
    (hNewest : (payOrder config world request).db.Newest orderId row) : row = paid := by
  have hSame := hChange.samePayment
  have hLatest : tx.createdAt ≤ row.createdAt := hChange.createdAt ▸ hNewest.latest paid hPaid hOrder
  have hFood : row.orderId = tx.orderId := hNewest.order.trans (hOrder.symm.trans hSame.orderId)
  refine Table.eq_of_key hNewest.mem hPaid (Eq.trans ?_ hSame.id.symm)
  by_contra hOther
  rcases payOrder_origin hLinked hNewest.mem with hOld | ⟨input, _, hCall, _⟩ | ⟨old, hOld, hOldChange⟩
  · exact absurd (hNewer row hOld hFood hOther) (not_lt.mpr hLatest)
  · rw [hCall] at hChange
    cases hChange with
    | captured hCaptures hOpen hFree => cases hCaptures
    | activated hActivates hOpen hFree hReady => cases hActivates
  · have hOldSame := hOldChange.samePayment
    have hOlder := hNewer old hOld (hOldSame.orderId.symm.trans hFood) fun hId => hOther (hOldSame.id.trans hId)
    rw [← hOldChange.createdAt] at hOlder
    exact absurd hOlder (not_lt.mpr hLatest)

/-- A permitted call leaves every paid order with a payment as its newest transaction. -/
theorem newestPaid_step (hLinked : world.db.RefundsLinked) (hBefore : world.db.NewestPaid)
    (hCaptures : CapturesNewest config world request) : (payOrder config world request).db.NewestPaid := by
  rintro orderId ⟨paid, hMem, hOrder, hStatus⟩ row hNewest
  by_cases hPaid : world.db.Paid orderId
  · exact newestPaid_kept hLinked hPaid (hBefore orderId hPaid) hNewest
  rcases captured_before (serve_outcome hLinked request.1) hMem hStatus with hOld | ⟨tx, hTx, hChange⟩
  · exact absurd ⟨paid, hOld, hOrder, hStatus⟩ hPaid
  have hFood : tx.orderId = some orderId := hChange.samePayment.orderId.symm.trans hOrder
  obtain ⟨params, event, hCapture, hOpen, hFree, hRow⟩ := hChange.captured_cases hStatus
  rcases hCaptures tx params event hCapture hOpen hFree with
    ⟨other, hOther, hSame, hCaptured⟩ | ⟨hNewer, hPayment⟩
  · exact absurd ⟨other, hOther, hSame.trans hFood, hCaptured⟩ hPaid
  · rw [newest_of_captured hLinked hChange hMem hOrder hNewer hNewest]
    refine ⟨hStatus, ?_⟩
    rw [hRow]
    exact hPayment

/-- Of an order that was not paid before, the call that pays it leaves the
transaction it paid as the only newest one. -/
theorem newest_only {row newest : PaymentTransaction} {params : CaptureParams} {event : CreateOutboxEventInput}
    (hLinked : world.db.RefundsLinked)
    (hCapture : Captures config world.db request.1.env.now request.1.call tx params event)
    (hUnpaid : ¬ ∃ paid ∈ world.db.transactions.rows, paid.orderId = tx.orderId ∧ paid.status = .captured)
    (hRow : row ∈ (payOrder config world request).db.transactions.rows) (hId : row.id = tx.id)
    (hFood : tx.orderId = some orderId) (hNewest : (payOrder config world request).db.Newest orderId newest)
    (hStatus : newest.status = .captured) : newest = row := by
  rcases captured_before (serve_outcome hLinked request.1) hNewest.mem hStatus with hOld | ⟨old, _, hChange⟩
  · exact absurd ⟨newest, hOld, hNewest.order.trans hFood.symm, hStatus⟩ hUnpaid
  · obtain ⟨_, _, hOldCapture, _⟩ := hChange.captured_cases hStatus
    have hSame : old = tx := hOldCapture.unique hCapture
    subst hSame
    exact Table.eq_of_key hNewest.mem hRow (hChange.samePayment.id.trans hId.symm)

/-- A payment that is found after the call was the newest one of its order. -/
theorem capturesNewest_of_next (hLinked : world.db.RefundsLinked)
    (hAfter : (payOrder config world request).db.NewestPaid) : CapturesNewest config world request := by
  intro tx params event hCapture hOpen hFree
  by_cases hPaid : ∃ paid ∈ world.db.transactions.rows, paid.orderId = tx.orderId ∧ paid.status = .captured
  · exact Or.inl hPaid
  refine Or.inr ?_
  obtain ⟨orderId, hFood⟩ := hCapture.food
  have hGet := serve_of_change hCapture.mem (.captured hCapture hOpen hFree)
  have hRow : capturedRow (tx.captureFields params request.1.env.now) tx ∈
      (payOrder config world request).db.transactions.rows :=
    (Table.get?_eq_some.mp ((hGet tx.id).trans (if_pos rfl))).1
  have hCaptured (newest) (hNewest : (payOrder config world request).db.Newest orderId newest) :=
    hAfter orderId ⟨_, hRow, hFood, rfl⟩ newest hNewest
  have hOnly (newest) (hNewest : (payOrder config world request).db.Newest orderId newest) :=
    newest_only hLinked hCapture hPaid hRow rfl hFood hNewest (hCaptured newest hNewest).1
  obtain ⟨newest, hFound⟩ := exists_newestOf request.1.env hRow hFood
  have hNewest := newest_of_newestOf hFound
  rw [hOnly newest hNewest] at hNewest
  refine ⟨fun other hOther hSame hApart => ?_, (hCaptured _ hNewest).2⟩
  have hOtherGet := (hGet other.id).trans (if_neg fun hId => hApart hId.symm)
  have hKept : other ∈ (payOrder config world request).db.transactions.rows :=
    (Table.get?_eq_some.mp (hOtherGet.trans (Table.get?_key hOther))).1
  have hOlder : other.createdAt ≤ tx.createdAt := hNewest.latest other hKept (hSame.trans hFood)
  refine lt_of_le_of_ne hOlder fun hTied => hApart ?_
  have hOtherNewest : (payOrder config world request).db.Newest orderId other :=
    ⟨hKept, hSame.trans hFood, fun row hMem hOrder => (hNewest.latest row hMem hOrder).trans hTied.ge⟩
  rw [hOnly other hOtherNewest]
  rfl

end Paying

/-- Whatever a paid order promises holds in all states of exactly those runs in
which the first payment of an order is that of its newest transaction. -/
theorem findsMoney_always_iff (config : Config) (plans : Table SubscriptionPlan)
    (requests : List (RequestOf Call.PaysOrder)) :
    Always (payOrder config) (World.initial plans) requests
        (fun world => ∀ orderId, world.db.Paid orderId → FindsMoney config world orderId) ↔
      EveryStep (payOrder config) (World.initial plans) requests (CapturesNewest config) := by
  have hFinds (world : World) :
      (∀ orderId, world.db.Paid orderId → FindsMoney config world orderId) ↔ world.db.NewestPaid :=
    forall_congr' fun orderId => forall_congr' fun hPaid => findsMoney_iff hPaid
  simp only [hFinds]
  exact always_iff_everyStep (fun world : World => world.db.RefundsLinked ∧ world.db.NewestPaid) (fun _ h => h.2)
    (fun _ request h hCaptures =>
      ⟨serve_refundsLinked request.1 h.1, newestPaid_step h.1 h.2 hCaptures⟩)
    (fun _ request h hAfter => capturesNewest_of_next h.1 hAfter) requests
    ⟨refundsLinked_initial plans, fun _ ⟨_, hMem, _⟩ => absurd hMem List.not_mem_nil⟩

/-- The amount of an order changes, and then its first gateway order is paid. -/
def olderPayment : List (RequestOf Call.PaysOrder) :=
  [Sample.opens 1000 7 50000 Sample.price_pos "order_1", Sample.opens 2000 7 60000 Sample.dearerPrice_pos "order_2",
    Sample.verifies 3000 7 "order_1" "pay_1"]

theorem findsMoney_fails :
    ¬ ∀ config plans requests, Always (payOrder config) (World.initial plans) requests
      fun world => ∀ orderId, world.db.Paid orderId → FindsMoney config world orderId := by
  intro h
  have hPaid : (run (payOrder Sample.config) (World.initial Table.empty) olderPayment).db.Paid 7 := by decide
  have hFinds := h Sample.config Table.empty olderPayment olderPayment List.prefix_rfl 7 hPaid
  have hNewest : ∃ tx, (run (payOrder Sample.config) (World.initial Table.empty) olderPayment).db.newestOf
      (Sample.env 4000) 7 = some tx ∧ tx.status = .created := ⟨_, rfl, rfl⟩
  obtain ⟨tx, hFound, hOpen⟩ := hNewest
  have hStatus := ((findsMoney_iff hPaid).mp hFinds tx (newest_of_newestOf hFound)).1
  cases hOpen.symm.trans hStatus

end SpotqPayment
