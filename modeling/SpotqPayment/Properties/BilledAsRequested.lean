import SpotqPayment.System.OrderPayments

/-! What the payment handed out for an order bills. A new transaction takes all
its fields from the request. An open one is used again when its amount is that
of the request; its other fields are not compared. -/
namespace SpotqPayment

open Process Transition

/-- The transaction is payable and bills what the request asks for. -/
structure PaymentTransaction.Bills (tx : PaymentTransaction) (input : CreateOrderPaymentInput) : Prop where
  status : tx.status = .created
  orderId : tx.orderId = some input.orderId
  customerId : tx.customerId = some input.customerId
  restaurantId : tx.restaurantId = input.restaurantId
  amountPaise : tx.amountPaise = input.amountPaise
  currency : tx.currency = (truthy input.currency).getD defaultCurrency

/-- The call, if it returns, returns a stored transaction that bills what was
requested. -/
def BilledAsRequested (config : Config) (world : World) (env : Env) (input : CreateOrderPaymentInput) : Prop :=
  ∀ output, (exec (Port.perform env) (createOrderPayment config input) world).1 = .ok output →
    ∃ tx ∈ (exec (Port.perform env) (createOrderPayment config input) world).2.db.transactions.rows,
      output = OrderPaymentMapper.toCreateResponse tx config.keyId ∧ tx.Bills input

/-- If the newest transaction of the order is open at the requested amount, it
names the customer, the restaurant and the currency of the request. -/
def Database.ReuseMatches (db : Database) (env : Env) (input : CreateOrderPaymentInput) : Prop :=
  ∀ tx, db.newestOf env input.orderId = some tx → tx.status = .created → tx.amountPaise = input.amountPaise →
    tx.customerId = some input.customerId ∧ tx.restaurantId = input.restaurantId ∧
      tx.currency = (truthy input.currency).getD defaultCurrency

variable {config : Config} {env : Env} {world : World} {tx : PaymentTransaction} {input : CreateOrderPaymentInput}

/-- A new transaction bills what was requested. -/
theorem transactionRow_bills (db : Database) (env : Env) (input : CreateOrderPaymentInput) (orderId : String) :
    (db.transactionRow env (input.transaction orderId)).Bills input where
  status := rfl
  orderId := rfl
  customerId := rfl
  restaurantId := rfl
  amountPaise := rfl
  currency := rfl

/-- What is billed when the newest transaction is used again. -/
theorem billedAsRequested_reused (hNewest : world.db.newestOf env input.orderId = some tx)
    (hOpen : tx.status = .created) (hAmount : tx.amountPaise = input.amountPaise) :
    BilledAsRequested config world env input ↔ tx.customerId = some input.customerId ∧
      tx.restaurantId = input.restaurantId ∧ tx.currency = (truthy input.currency).getD defaultCurrency := by
  obtain ⟨hMem, hOrder, _⟩ := newest_of_newestOf hNewest
  unfold BilledAsRequested
  rw [createOrderPayment_reused hNewest hOpen hAmount]
  constructor
  · intro h
    obtain ⟨row, hRow, hOutput, hBills⟩ := h _ rfl
    have hId : tx.id = row.id := congrArg CreateOrderPaymentOutput.paymentId hOutput
    have hSame : tx = row := Table.eq_of_key hMem hRow hId
    subst hSame
    exact ⟨hBills.customerId, hBills.restaurantId, hBills.currency⟩
  · rintro ⟨hCustomer, hRestaurant, hCurrency⟩ output hOutput
    exact ⟨tx, hMem, (Except.ok.inj hOutput).symm, hOpen, hOrder, hCustomer, hRestaurant, hAmount, hCurrency⟩

/-- A gateway order that is opened bills what was requested. -/
theorem billedAsRequested_opened (hNew : ∀ tx, world.db.newestOf env input.orderId = some tx →
    ¬ (tx.status = .captured ∨ tx.status = .success) ∧ ¬ (tx.status = .created ∧ tx.amountPaise = input.amountPaise)) :
    BilledAsRequested config world env input := by
  intro output hOutput
  rw [createOrderPayment_opens hNew] at hOutput ⊢
  obtain ⟨orderId, _, hBilled, hStored⟩ := openGatewayOrder_ok hOutput
  exact ⟨_, hStored, hBilled, transactionRow_bills world.db env input orderId⟩

/-- In any state, a payment that is handed out bills what was requested exactly
when a transaction that would be used again does so. -/
theorem billedAsRequested_iff_reuse :
    BilledAsRequested config world env input ↔ world.db.ReuseMatches env input := by
  by_cases hReused : ∃ tx, world.db.newestOf env input.orderId = some tx ∧ tx.status = .created ∧
      tx.amountPaise = input.amountPaise
  · obtain ⟨tx, hNewest, hOpen, hAmount⟩ := hReused
    rw [billedAsRequested_reused hNewest hOpen hAmount]
    constructor
    · intro hBills row hRow _ _
      cases hNewest.symm.trans hRow
      exact hBills
    · intro hMatches
      exact hMatches tx hNewest hOpen hAmount
  · refine iff_of_true ?_ fun tx hNewest hOpen hAmount => absurd ⟨tx, hNewest, hOpen, hAmount⟩ hReused
    by_cases hRefused : ∃ tx, world.db.newestOf env input.orderId = some tx ∧
        (tx.status = .captured ∨ tx.status = .success)
    · obtain ⟨tx, hNewest, hPaid⟩ := hRefused
      intro output hOutput
      rw [createOrderPayment_refused hNewest hPaid] at hOutput
      cases hOutput
    · refine billedAsRequested_opened fun tx hNewest => ⟨fun hPaid => ?_, fun hSame => ?_⟩
      · exact hRefused ⟨tx, hNewest, hPaid⟩
      · exact hReused ⟨tx, hNewest, hSame.1, hSame.2⟩

/-- After any calls that open and pay orders, a payment that is handed out bills
what was requested exactly when a transaction that would be used again does so. -/
theorem billedAsRequested_iff (config : Config) (plans : Table SubscriptionPlan)
    (requests : List (RequestOf Call.PaysOrder)) (env : Env) (input : CreateOrderPaymentInput) :
    BilledAsRequested config (run (payOrder config) (World.initial plans) requests) env input ↔
      (run (payOrder config) (World.initial plans) requests).db.ReuseMatches env input :=
  billedAsRequested_iff_reuse

/-- A customer opens a payment in rupees. -/
def firstCustomer : List (RequestOf Call.PaysOrder) :=
  [Sample.opens 1000 7 50000 Sample.price_pos "order_1"]

/-- Another one asks for the same amount in dollars, for another restaurant. -/
def otherCustomer : CreateOrderPaymentInput where
  orderId := 7
  customerId := 9
  restaurantId := 3
  amountPaise := 50000
  currency := some "USD"
  amountPaise_pos := Sample.price_pos

/-- The other customer is handed the payment of the first one. -/
theorem billedAsRequested_fails :
    ¬ ∀ config plans requests env input,
      BilledAsRequested config (run (payOrder config) (World.initial plans) requests) env input := by
  intro h
  have hBilled := h Sample.config Table.empty firstCustomer (Sample.env 2000) otherCustomer
  rw [billedAsRequested_iff_reuse] at hBilled
  have hStored : ∃ tx, (run (payOrder Sample.config) (World.initial Table.empty) firstCustomer).db.newestOf
      (Sample.env 2000) otherCustomer.orderId = some tx ∧ tx.status = .created ∧ tx.amountPaise = 50000 ∧
        tx.restaurantId = 21 := ⟨_, rfl, rfl, rfl, rfl⟩
  obtain ⟨tx, hNewest, hOpen, hAmount, hRestaurant⟩ := hStored
  have hSame := (hBilled tx hNewest hOpen hAmount).2.1
  rw [hRestaurant] at hSame
  cases hSame

end SpotqPayment
