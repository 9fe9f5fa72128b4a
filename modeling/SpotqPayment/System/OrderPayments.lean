import SpotqPayment.System.Invariants

/-! The calls of a food order up to its payment, and what opening a payment returns. -/
namespace SpotqPayment

open Process PaymentTransactionRepository

/-- The events about the payment of an order. -/
def WebhookEvent.isPayment (event : WebhookEvent) : Bool := event.isSuccess || event = .paymentFailed

/-- The calls that open and pay orders; refunds are left out. -/
inductive Call.PaysOrder : Call → Prop where
  | createOrderPayment (input : CreateOrderPaymentInput) : PaysOrder (.createOrderPayment input)
  | verifyOrderPayment (input : VerifyOrderPaymentInput) : PaysOrder (.verifyOrderPayment input)
  | handleWebhook (input : HandleWebhookInput) (hEvent : input.parsedPayload.event.isPayment = true) :
      PaysOrder (.handleWebhook input)

/-- The step of the system when only these calls are made. -/
def payOrder (config : Config) (world : World) (request : RequestOf Call.PaysOrder) : World :=
  serve config world request.1

/-- The newest transaction of a food order, as the database ranks them. -/
def Database.newestOf (db : Database) (env : Env) (orderId : Uuid) : Option PaymentTransaction :=
  db.transactions.findFirst env.tie PaymentTransaction.createdAt fun tx => tx.orderId = some orderId

/-- No transaction of the order was opened after this one. -/
structure Database.Newest (db : Database) (orderId : Uuid) (tx : PaymentTransaction) : Prop where
  mem : tx ∈ db.transactions.rows
  order : tx.orderId = some orderId
  latest : ∀ other ∈ db.transactions.rows, other.orderId = some orderId → other.createdAt ≤ tx.createdAt

variable {config : Config} {env : Env} {world : World} {tx : PaymentTransaction} {input : CreateOrderPaymentInput}

section Newest

variable {db : Database} {orderId : Uuid}

theorem newest_of_newestOf (h : db.newestOf env orderId = some tx) : db.Newest orderId tx := by
  obtain ⟨hMem, hOrder, hMax⟩ := Table.findFirst_some h
  exact ⟨hMem, of_decide_eq_true hOrder, fun other hOther hSame => hMax other hOther (decide_eq_true hSame)⟩

/-- Each of several newest transactions is the one that some search returns. -/
theorem newestOf_of_newest (env : Env) (h : db.Newest orderId tx) :
    ∃ tie, db.newestOf { env with tie := tie } orderId = some tx :=
  Table.exists_findFirst h.mem (decide_eq_true h.order) fun other hOther hSame =>
    h.latest other hOther (of_decide_eq_true hSame)

/-- An order with a transaction has a newest one. -/
theorem exists_newestOf (env : Env) (hTx : tx ∈ db.transactions.rows) (hOrder : tx.orderId = some orderId) :
    ∃ newest, db.newestOf env orderId = some newest := by
  cases hNewest : db.newestOf env orderId with
  | none => exact absurd (Table.findFirst_eq_none.mp hNewest tx hTx) (by simp [hOrder])
  | some newest => exact ⟨newest, rfl⟩

end Newest

section Opening

/-- An order whose newest transaction is paid is refused. -/
theorem createOrderPayment_refused (hNewest : world.db.newestOf env input.orderId = some tx)
    (hPaid : tx.status = .captured ∨ tx.status = .success) :
    exec (Port.perform env) (createOrderPayment config input) world = (.error .orderPaymentAlreadyCaptured, world) := by
  unfold Database.newestOf at hNewest
  rw [createOrderPayment, exec_call_bind, perform_findByCustomerOrderId, hNewest]
  simp only [if_pos hPaid]
  rfl

/-- An open transaction of the same amount is used again. -/
theorem createOrderPayment_reused (hNewest : world.db.newestOf env input.orderId = some tx)
    (hOpen : tx.status = .created) (hAmount : tx.amountPaise = input.amountPaise) :
    exec (Port.perform env) (createOrderPayment config input) world =
      (.ok (OrderPaymentMapper.toCreateResponse tx config.keyId), world) := by
  have hUnpaid : ¬ (tx.status = .captured ∨ tx.status = .success) := by
    rw [hOpen]
    decide
  unfold Database.newestOf at hNewest
  rw [createOrderPayment, exec_call_bind, perform_findByCustomerOrderId, hNewest]
  simp only [if_neg hUnpaid, if_pos (And.intro hOpen hAmount)]
  rfl

/-- In all other cases a gateway order is opened. -/
theorem createOrderPayment_opens (hNew : ∀ tx, world.db.newestOf env input.orderId = some tx →
    ¬ (tx.status = .captured ∨ tx.status = .success) ∧ ¬ (tx.status = .created ∧ tx.amountPaise = input.amountPaise)) :
    exec (Port.perform env) (createOrderPayment config input) world =
      exec (Port.perform env) (openGatewayOrder config input) world := by
  rw [createOrderPayment, exec_call_bind, perform_findByCustomerOrderId]
  cases hNewest : world.db.transactions.findFirst env.tie PaymentTransaction.createdAt
      (fun tx => tx.orderId = some input.orderId) with
  | none => rfl
  | some tx =>
      obtain ⟨hUnpaid, hOther⟩ := hNew tx hNewest
      simp only [if_neg hUnpaid, if_neg hOther]

/-- A new transaction is returned as it is stored. -/
theorem openGatewayOrder_ok {output : CreateOrderPaymentOutput}
    (h : (exec (Port.perform env) (openGatewayOrder config input) world).1 = .ok output) :
    ∃ orderId, env.gatewayOrderId = some orderId ∧
      output = OrderPaymentMapper.toCreateResponse (world.db.transactionRow env (input.transaction orderId)) config.keyId ∧
        world.db.transactionRow env (input.transaction orderId) ∈
          (exec (Port.perform env) (openGatewayOrder config input) world).2.db.transactions.rows := by
  cases hGateway : env.gatewayOrderId with
  | none =>
      unfold openGatewayOrder at h
      simp only at h
      rw [exec_call_bind, perform_createOrder_failed hGateway] at h
      cases h
  | some orderId =>
      refine ⟨orderId, rfl, ?_⟩
      unfold openGatewayOrder at h ⊢
      simp only at h ⊢
      rw [exec_call_bind, perform_createOrder hGateway] at h ⊢
      simp only at h ⊢
      rw [exec_call_bind, perform_createTransaction] at h ⊢
      generalize hWorld : world.ordered input.amountPaise ((truthy input.currency).getD defaultCurrency) orderId =
        ordered at h ⊢
      have hRow : world.db.transactionRow env (input.transaction orderId) =
          ordered.db.transactionRow env (input.transaction orderId) := by
        rw [← hWorld]
        rfl
      rw [hRow]
      cases hWrite : ordered.db.writeAll [.transaction (ordered.db.transactionRow env (input.transaction orderId))] with
      | none =>
          rw [World.commit_of_refused hWrite] at h
          cases h
      | some written =>
          have hPut := Table.putAll_singleton.mp (Database.written_of_writeAll hWrite).transactions
          rw [World.commit_of_written hWrite] at h ⊢
          exact ⟨(Except.ok.inj h).symm, (Table.mem_put hPut).mpr (Or.inl rfl)⟩

end Opening

/-- Where a transaction comes from that is stored after one of these calls. -/
theorem payOrder_origin {request : RequestOf Call.PaysOrder} {row : PaymentTransaction}
    (hLinked : world.db.RefundsLinked) (hRow : row ∈ (payOrder config world request).db.transactions.rows) :
    row ∈ world.db.transactions.rows ∨
    (∃ input orderId, request.1.call = .createOrderPayment input ∧ input.Opens world.db request.1.env orderId ∧
      row = world.db.transactionRow request.1.env (input.transaction orderId)) ∨
    ∃ tx ∈ world.db.transactions.rows, Change config world.db request.1.env request.1.call tx row := by
  rcases serve_origin request.1 hLinked hRow with hOld | hOpened | ⟨input, restaurantId, plan, orderId, hCall, _⟩ | hChanged
  · exact Or.inl hOld
  · exact Or.inr (Or.inl hOpened)
  · have hPays := request.2
    rw [hCall] at hPays
    cases hPays
  · exact Or.inr (Or.inr hChanged)

/-- Sample requests as calls of this kind. -/
def Sample.opens (now : Instant) (orderId : Uuid) (amountPaise : Int) (amountPaise_pos : 0 < amountPaise)
    (razorpayOrderId : String) : RequestOf Call.PaysOrder :=
  ⟨Sample.createOrderPayment now orderId amountPaise amountPaise_pos razorpayOrderId, .createOrderPayment _⟩

def Sample.verifies (now : Instant) (orderId : Uuid) (razorpayOrderId razorpayPaymentId : String) :
    RequestOf Call.PaysOrder :=
  ⟨Sample.verifyOrderPayment now orderId razorpayOrderId razorpayPaymentId, .verifyOrderPayment _⟩

end SpotqPayment
