import SpotqPayment.System.Invariants

/-! A subscription order, its invoice and its subscription agree. The order and
its draft invoice are stored one after the other, so that an order may lack its
invoice; an activation pays the invoice or writes the missing one, and a refund
voids it together with the payment. -/
namespace SpotqPayment

open Process Transition Engine PaymentTransactionRepository SubscriptionRepository

/-- The calls that handle subscriptions. -/
inductive Call.HandlesSubscriptions : Call → Prop where
  | createSubscriptionOrder (input : CreateSubscriptionOrderInput) :
      HandlesSubscriptions (.createSubscriptionOrder input)
  | verifyPayment (input : VerifyPaymentInput) : HandlesSubscriptions (.verifyPayment input)
  | handleWebhook (input : HandleWebhookInput) : HandlesSubscriptions (.handleWebhook input)
  | expirePastDueSubscriptions : HandlesSubscriptions .expirePastDueSubscriptions

/-- A completed call, or the creation of an order that crashes after some of its awaits. -/
inductive SubscriptionStep where
  | completed (request : RequestOf Call.HandlesSubscriptions)
  | crashed (input : CreateSubscriptionOrderInput) (env : Env) (awaits : Nat)

def serveSubscriptions (config : Config) (world : World) : SubscriptionStep → World
  | .completed request => serve config world request.1
  | .crashed input env awaits =>
      stopAfter (Port.perform env) awaits ((Call.createSubscriptionOrder input).process config env) world

def Database.invoicesOf (db : Database) (transactionId : Uuid) : List BillingInvoice :=
  db.invoices.rows.filter fun invoice => invoice.paymentTransactionId = some transactionId

/-- The subscription that the transaction has paid for. -/
structure Subscription.BoughtBy (subscription : Subscription) (plans : Table SubscriptionPlan)
    (tx : PaymentTransaction) : Prop where
  linked : tx.subscriptionId = some subscription.id
  restaurantId : subscription.restaurantId = tx.restaurantId
  planId : tx.planId = some subscription.planId
  period : ∃ plan, plans.get? subscription.planId = some plan ∧
    subscription.currentPeriodEnd = plan.calculatePeriodEnd subscription.currentPeriodStart

/-- The only invoice of a transaction, made out for its subscription. -/
structure BillingInvoice.IsOnlyOf (invoice : BillingInvoice) (db : Database) (tx : PaymentTransaction) :
    Prop where
  only : db.invoicesOf tx.id = [invoice]
  subscriptionId : invoice.subscriptionId = tx.subscriptionId
  restaurantId : invoice.restaurantId = tx.restaurantId
  amountPaise : invoice.amountPaise = tx.amountPaise
  currency : invoice.currency = tx.currency

/-- Transactions, invoices and subscriptions agree. Without food orders every
stored transaction is one of a subscription order. -/
structure Database.BillingAgrees (db : Database) : Prop where
  subscriptionOrder : ∀ tx ∈ db.transactions.rows, tx.orderId = none
  oneInvoice : ∀ tx ∈ db.transactions.rows, (db.invoicesOf tx.id).length ≤ 1
  paid : ∀ tx ∈ db.transactions.rows, ∀ invoice ∈ db.invoicesOf tx.id,
    invoice.status = .paid ↔ tx.status = .success
  success : ∀ tx ∈ db.transactions.rows, tx.status = .success →
    (∃ subscription, db.subscriptions.get? subscription.id = some subscription ∧
      subscription.BoughtBy db.plans tx) ∧ ∃ invoice : BillingInvoice, invoice.IsOnlyOf db tx

/-- What an invoice says about its transaction at any time. -/
structure BillingInvoice.Bills (invoice : BillingInvoice) (tx : PaymentTransaction) : Prop where
  restaurantId : invoice.restaurantId = tx.restaurantId
  amountPaise : invoice.amountPaise = tx.amountPaise
  currency : invoice.currency = tx.currency
  paid : invoice.status = .paid ↔ tx.status = .success
  subscriptionId : tx.status = .success → invoice.subscriptionId = tx.subscriptionId

/-- The invoices and the subscription of one transaction. -/
structure Database.Billed (db : Database) (tx : PaymentTransaction) : Prop where
  bills : ∀ invoice ∈ db.invoices.rows, invoice.paymentTransactionId = some tx.id → invoice.Bills tx
  single : ∀ first ∈ db.invoices.rows, ∀ second ∈ db.invoices.rows,
    first.paymentTransactionId = some tx.id → second.paymentTransactionId = some tx.id →
      first.id = second.id
  bought : tx.status = .success →
    (∃ invoice ∈ db.invoices.rows, invoice.paymentTransactionId = some tx.id) ∧
      ∃ subscription ∈ db.subscriptions.rows, subscription.BoughtBy db.plans tx

/-- The invariant of the runs. -/
structure Database.Billing (db : Database) : Prop where
  plain : ∀ tx ∈ db.transactions.rows, tx.orderId = none
  billed : ∀ tx ∈ db.transactions.rows, db.Billed tx
  owned : ∀ invoice ∈ db.invoices.rows, ∃ tx ∈ db.transactions.rows,
    invoice.paymentTransactionId = some tx.id

variable {config : Config} {env : Env} {db written : Database} {world : World}
variable {tx row : PaymentTransaction}

theorem Database.mem_invoicesOf {id : Uuid} {invoice : BillingInvoice} :
    invoice ∈ db.invoicesOf id ↔ invoice ∈ db.invoices.rows ∧ invoice.paymentTransactionId = some id := by
  simp [Database.invoicesOf]

/-- The invoices of a transaction with one of them are that one. -/
theorem Database.Billed.invoicesOf_eq (h : db.Billed tx) {invoice : BillingInvoice}
    (hInvoice : invoice ∈ db.invoices.rows) (hOf : invoice.paymentTransactionId = some tx.id) :
    db.invoicesOf tx.id = [invoice] := by
  refine Table.filter_eq_singleton hInvoice (by simpa using hOf) fun other hOther hMatch => ?_
  exact h.single other hOther invoice hInvoice (by simpa using hMatch) hOf

theorem Database.Billing.agrees (h : db.Billing) : db.BillingAgrees where
  subscriptionOrder := h.plain
  oneInvoice := by
    intro tx hTx
    cases hInvoices : db.invoicesOf tx.id with
    | nil => exact Nat.zero_le 1
    | cons invoice rest =>
        have hMem : invoice ∈ db.invoicesOf tx.id := hInvoices ▸ List.mem_cons_self
        obtain ⟨hInvoice, hOf⟩ := Database.mem_invoicesOf.mp hMem
        rw [← hInvoices, (h.billed tx hTx).invoicesOf_eq hInvoice hOf]
        exact Nat.le_refl 1
  paid := by
    intro tx hTx invoice hMem
    obtain ⟨hInvoice, hOf⟩ := Database.mem_invoicesOf.mp hMem
    exact ((h.billed tx hTx).bills invoice hInvoice hOf).paid
  success := by
    intro tx hTx hSuccess
    obtain ⟨⟨invoice, hInvoice, hOf⟩, subscription, hSubscription, hBought⟩ :=
      (h.billed tx hTx).bought hSuccess
    have hBills := (h.billed tx hTx).bills invoice hInvoice hOf
    exact ⟨⟨subscription, Table.get?_key hSubscription, hBought⟩, invoice,
      (h.billed tx hTx).invoicesOf_eq hInvoice hOf, hBills.subscriptionId hSuccess, hBills.restaurantId,
      hBills.amountPaise, hBills.currency⟩

theorem billing_initial (plans : Table SubscriptionPlan) : (Database.initial plans).Billing where
  plain := by
    intro tx hTx
    cases hTx
  billed := by
    intro tx hTx
    cases hTx
  owned := by
    intro invoice hInvoice
    cases hInvoice

/-- A step that writes one transaction and touches no invoice but those of it. -/
structure Database.Rebilled (db written : Database) (row : PaymentTransaction) : Prop where
  transactions : ∀ id, written.transactions.get? id =
    if row.id = id then some row else db.transactions.get? id
  invoices : ∀ invoice : BillingInvoice, invoice.paymentTransactionId ≠ some row.id →
    (invoice ∈ written.invoices.rows ↔ invoice ∈ db.invoices.rows)
  subscriptions : ∀ subscription ∈ db.subscriptions.rows, subscription ∈ written.subscriptions.rows
  plans : written.plans = db.plans
  plain : row.orderId = none
  billed : written.Billed row

theorem Database.Rebilled.mem_iff (h : db.Rebilled written row) :
    tx ∈ written.transactions.rows ↔ tx = row ∨ (tx ∈ db.transactions.rows ∧ tx.id ≠ row.id) := by
  have hMem (table : Table PaymentTransaction) : tx ∈ table.rows ↔ table.get? tx.id = some tx :=
    ⟨Table.get?_key, fun hGet => (Table.get?_eq_some.mp hGet).1⟩
  rw [hMem, hMem, h.transactions]
  by_cases hId : row.id = tx.id
  · rw [if_pos hId]
    constructor
    · intro hSame
      exact Or.inl (Option.some.inj hSame).symm
    · rintro (rfl | ⟨_, hOther⟩)
      · rfl
      · exact absurd hId.symm hOther
  · rw [if_neg hId]
    constructor
    · intro hGet
      exact Or.inr ⟨hGet, fun hSame => hId hSame.symm⟩
    · rintro (rfl | ⟨hGet, _⟩)
      · exact absurd rfl hId
      · exact hGet

/-- The bills of the other transactions stay as they were. -/
theorem Database.Billing.rebilled (h : db.Billing) (hStep : db.Rebilled written row) : written.Billing where
  plain := by
    intro tx hTx
    rcases hStep.mem_iff.mp hTx with rfl | ⟨hOld, _⟩
    · exact hStep.plain
    · exact h.plain tx hOld
  billed := by
    intro tx hTx
    rcases hStep.mem_iff.mp hTx with rfl | ⟨hOld, hOther⟩
    · exact hStep.billed
    · have hBilled := h.billed tx hOld
      have hInvoices : ∀ invoice : BillingInvoice, invoice.paymentTransactionId = some tx.id →
          (invoice ∈ written.invoices.rows ↔ invoice ∈ db.invoices.rows) := by
        intro invoice hOf
        refine hStep.invoices invoice fun hRow => hOther ?_
        exact Option.some.inj (hOf.symm.trans hRow)
      refine ⟨?_, ?_, ?_⟩
      · intro invoice hInvoice hOf
        exact hBilled.bills invoice ((hInvoices invoice hOf).mp hInvoice) hOf
      · intro first hFirst second hSecond hFirstOf hSecondOf
        exact hBilled.single first ((hInvoices first hFirstOf).mp hFirst) second
          ((hInvoices second hSecondOf).mp hSecond) hFirstOf hSecondOf
      · intro hSuccess
        obtain ⟨⟨invoice, hInvoice, hOf⟩, subscription, hSubscription, hBought⟩ := hBilled.bought hSuccess
        rw [hStep.plans]
        exact ⟨⟨invoice, (hInvoices invoice hOf).mpr hInvoice, hOf⟩, subscription,
          hStep.subscriptions subscription hSubscription, hBought⟩
  owned := by
    intro invoice hInvoice
    by_cases hOf : invoice.paymentTransactionId = some row.id
    · exact ⟨row, hStep.mem_iff.mpr (Or.inl rfl), hOf⟩
    · obtain ⟨tx, hTx, hOwner⟩ := h.owned invoice ((hStep.invoices invoice hOf).mp hInvoice)
      refine ⟨tx, hStep.mem_iff.mpr (Or.inr ⟨hTx, fun hSame => hOf ?_⟩), hOwner⟩
      rw [hOwner, hSame]

/-- A later row of the subscription covers the same period of the same plan. -/
structure Subscription.SamePeriod (later subscription : Subscription) : Prop where
  id : later.id = subscription.id
  restaurantId : later.restaurantId = subscription.restaurantId
  planId : later.planId = subscription.planId
  currentPeriodStart : later.currentPeriodStart = subscription.currentPeriodStart
  currentPeriodEnd : later.currentPeriodEnd = subscription.currentPeriodEnd

theorem Subscription.BoughtBy.later {subscription later : Subscription} {plans : Table SubscriptionPlan}
    (h : subscription.BoughtBy plans tx) (hSame : later.SamePeriod subscription) :
    later.BoughtBy plans tx where
  linked := by rw [hSame.id, h.linked]
  restaurantId := by rw [hSame.restaurantId, h.restaurantId]
  planId := by rw [hSame.planId, h.planId]
  period := by
    rw [hSame.planId, hSame.currentPeriodStart, hSame.currentPeriodEnd]
    exact h.period

/-- A step that writes neither transactions nor invoices. -/
theorem Database.Billing.same (h : db.Billing) (hTransactions : written.transactions = db.transactions)
    (hInvoices : written.invoices = db.invoices) (hPlans : written.plans = db.plans)
    (hSubscriptions : ∀ subscription ∈ db.subscriptions.rows, ∃ later ∈ written.subscriptions.rows,
      later.SamePeriod subscription) : written.Billing where
  plain := by
    rw [hTransactions]
    exact h.plain
  billed := by
    intro tx hTx
    rw [hTransactions] at hTx
    have hBilled := h.billed tx hTx
    refine ⟨?_, ?_, fun hSuccess => ?_⟩
    · rw [hInvoices]
      exact hBilled.bills
    · rw [hInvoices]
      exact hBilled.single
    · obtain ⟨hInvoice, subscription, hSubscription, hBought⟩ := hBilled.bought hSuccess
      obtain ⟨later, hLater, hSame⟩ := hSubscriptions subscription hSubscription
      rw [hInvoices, hPlans]
      exact ⟨hInvoice, later, hLater, hBought.later hSame⟩
  owned := by
    rw [hInvoices, hTransactions]
    exact h.owned

/-- A later row of the transaction that its invoice has to agree with. -/
structure PaymentTransaction.SameBill (row tx : PaymentTransaction) : Prop where
  id : row.id = tx.id
  orderId : row.orderId = tx.orderId
  restaurantId : row.restaurantId = tx.restaurantId
  amountPaise : row.amountPaise = tx.amountPaise
  currency : row.currency = tx.currency

/-- The bill of a transaction that neither was nor becomes SUCCESS. -/
theorem Database.Billed.unpaid (h : db.Billed tx) (hSame : row.SameBill tx) (hOpen : tx.status ≠ .success)
    (hStill : row.status ≠ .success) : db.Billed row where
  bills := by
    intro invoice hInvoice hOf
    rw [hSame.id] at hOf
    have hBills := h.bills invoice hInvoice hOf
    refine ⟨?_, ?_, ?_, ?_, fun hSuccess => absurd hSuccess hStill⟩
    · rw [hBills.restaurantId, hSame.restaurantId]
    · rw [hBills.amountPaise, hSame.amountPaise]
    · rw [hBills.currency, hSame.currency]
    · exact ⟨fun hPaid => absurd (hBills.paid.mp hPaid) hOpen, fun hSuccess => absurd hSuccess hStill⟩
  single := by
    rw [hSame.id]
    exact h.single
  bought := fun hSuccess => absurd hSuccess hStill

theorem Database.Billing.statusChanged (h : db.Billing) (hTx : tx ∈ db.transactions.rows)
    (hTables : db.Written [.transaction row] written) (hSame : row.SameBill tx) (hOpen : tx.status ≠ .success)
    (hStill : row.status ≠ .success) : written.Billing := by
  have hInvoices : some db.invoices = some written.invoices := hTables.invoices
  have hSubscriptions : some db.subscriptions = some written.subscriptions := hTables.subscriptions
  have hBilled := (h.billed tx hTx).unpaid hSame hOpen hStill
  refine h.rebilled ⟨hTables.get?_single rfl, ?_, ?_, hTables.plans, ?_, ?_⟩
  · rw [← Option.some.inj hInvoices]
    exact fun _ _ => Iff.rfl
  · rw [← Option.some.inj hSubscriptions]
    exact fun _ => id
  · rw [hSame.orderId]
    exact h.plain tx hTx
  · obtain ⟨hBills, hSingle, _⟩ := hBilled
    rw [Option.some.inj hInvoices] at hBills hSingle
    exact ⟨hBills, hSingle, fun hSuccess => absurd hSuccess hStill⟩

/-- The invoices after those of one transaction are voided. -/
theorem mem_voided {transactionId : Uuid} {now : Instant} {invoices : Table BillingInvoice}
    (h : db.invoices.putAll ((db.voidedInvoices transactionId now).filterMap Write.invoice?) = some invoices)
    {invoice : BillingInvoice} :
    invoice ∈ invoices.rows ↔
      (invoice ∈ db.invoices.rows ∧ invoice.paymentTransactionId ≠ some transactionId) ∨
        ∃ old ∈ db.invoices.rows, old.paymentTransactionId = some transactionId ∧
          invoice = voidInvoice now old := by
  rw [voidedInvoices_invoice?] at h
  have hKey : ∀ old : BillingInvoice, Record.key (voidInvoice now old) = Record.key old := fun _ => rfl
  rw [Table.mem_updateMany hKey h]
  simp only [decide_eq_true_eq]
  constructor
  · rintro ⟨old, hOld, rfl⟩
    by_cases hOf : old.paymentTransactionId = some transactionId
    · rw [if_pos hOf]
      exact Or.inr ⟨old, hOld, hOf, rfl⟩
    · rw [if_neg hOf]
      exact Or.inl ⟨hOld, hOf⟩
  · rintro (⟨hOld, hOther⟩ | ⟨old, hOld, hOf, rfl⟩)
    · exact ⟨invoice, hOld, (if_neg hOther).symm⟩
    · exact ⟨old, hOld, (if_pos hOf).symm⟩

/-- A refund closes the transaction and voids its invoice. -/
theorem Database.Billing.refunded (h : db.Billing) (hTx : tx ∈ db.transactions.rows) {now : Instant}
    (hTransactions : ∀ id, written.transactions.get? id =
      if tx.id = id then some (statusRow .refunded now tx) else db.transactions.get? id)
    (hInvoices : db.invoices.putAll ((db.voidedInvoices tx.id now).filterMap Write.invoice?) =
      some written.invoices)
    (hSubscriptions : written.subscriptions = db.subscriptions) (hPlans : written.plans = db.plans) :
    written.Billing := by
  have hBilled := h.billed tx hTx
  have hVoided : ∀ invoice ∈ written.invoices.rows, invoice.paymentTransactionId = some tx.id →
      ∃ old ∈ db.invoices.rows, old.paymentTransactionId = some tx.id ∧ invoice = voidInvoice now old := by
    intro invoice hInvoice hOf
    rcases (mem_voided hInvoices).mp hInvoice with ⟨_, hOther⟩ | hOld
    · exact absurd hOf hOther
    · exact hOld
  have hBill : written.Billed (statusRow .refunded now tx) := by
    refine ⟨?_, ?_, nofun⟩
    · intro invoice hInvoice hOf
      obtain ⟨old, hOld, hOldOf, rfl⟩ := hVoided invoice hInvoice hOf
      have hBills := hBilled.bills old hOld hOldOf
      exact ⟨hBills.restaurantId, hBills.amountPaise, hBills.currency, ⟨nofun, nofun⟩, nofun⟩
    · intro first hFirst second hSecond hFirstOf hSecondOf
      obtain ⟨oldFirst, hOldFirst, hFirstOld, rfl⟩ := hVoided first hFirst hFirstOf
      obtain ⟨oldSecond, hOldSecond, hSecondOld, rfl⟩ := hVoided second hSecond hSecondOf
      exact hBilled.single oldFirst hOldFirst oldSecond hOldSecond hFirstOld hSecondOld
  have hPlain : (statusRow .refunded now tx).orderId = none := h.plain tx hTx
  refine h.rebilled ⟨hTransactions, ?_, ?_, hPlans, hPlain, hBill⟩
  · intro invoice hOther
    rw [mem_voided hInvoices]
    constructor
    · rintro (⟨hOld, _⟩ | ⟨old, _, hOf, rfl⟩)
      · exact hOld
      · exact absurd hOf hOther
    · intro hOld
      exact Or.inl ⟨hOld, hOther⟩
  · rw [hSubscriptions]
    exact fun _ => id

/-- A refund event closes the transaction, or it changes only the refund. -/
theorem Database.Billing.settled (h : db.Billing) (hTx : tx ∈ db.transactions.rows) {refund : PaymentRefund}
    {status : RefundStatus} {now : Instant}
    (hTables : db.Written (.refund refund :: settlement db status tx now) written) : written.Billing := by
  have hSubscriptions : db.subscriptions.putAll ((settlement db status tx now).filterMap Write.subscription?) =
      some written.subscriptions := hTables.subscriptions
  have hInvoices : db.invoices.putAll ((settlement db status tx now).filterMap Write.invoice?) =
      some written.invoices := hTables.invoices
  have hTransactions : db.transactions.putAll ((settlement db status tx now).filterMap Write.transaction?) =
      some written.transactions := hTables.transactions
  rw [settlement_subscription?] at hSubscriptions
  by_cases hProcessed : status = .processed
  · rw [settlement, if_pos hProcessed] at hInvoices
    have hRows : (Write.refund refund :: settlement db status tx now).filterMap Write.transaction? =
        [statusRow .refunded now tx] := by
      show (settlement db status tx now).filterMap Write.transaction? = _
      rw [settlement_transaction?, if_pos hProcessed]
    exact h.refunded hTx (hTables.get?_single hRows) hInvoices (Option.some.inj hSubscriptions).symm hTables.plans
  · rw [settlement, if_neg hProcessed] at hInvoices hTransactions
    refine h.same (Option.some.inj hTransactions).symm (Option.some.inj hInvoices).symm hTables.plans ?_
    rw [← Option.some.inj hSubscriptions]
    exact fun subscription hSubscription => ⟨subscription, hSubscription, rfl, rfl, rfl, rfl, rfl⟩

/-- No invoice names a transaction that is not stored yet. -/
theorem Database.Billing.unbilled (h : db.Billing) (data : CreatePaymentTransactionInput)
    {invoice : BillingInvoice} (hInvoice : invoice ∈ db.invoices.rows) :
    invoice.paymentTransactionId ≠ some (db.transactionRow env data).id := by
  intro hOf
  obtain ⟨tx, hTx, hOwner⟩ := h.owned invoice hInvoice
  exact transactionRow_id_ne hTx data (Option.some.inj (hOf.symm.trans hOwner))

/-- A new order comes with its draft invoice or, after a crash, without. -/
theorem Database.Billing.ordered (h : db.Billing) {restaurantId : Uuid} {plan : SubscriptionPlan}
    {orderId : String} {writes : List Write} (hWrites : writes <+: orderWrites db env restaurantId plan orderId)
    (hTables : db.Written writes written) : written.Billing := by
  have hUnbilled := @Database.Billing.unbilled env db h (subscriptionTransaction restaurantId plan orderId env.now)
  rcases prefix_pair hWrites with rfl | rfl | rfl
  · have hTransactions : some db.transactions = some written.transactions := hTables.transactions
    have hInvoices : some db.invoices = some written.invoices := hTables.invoices
    have hSubscriptions : some db.subscriptions = some written.subscriptions := hTables.subscriptions
    refine h.same (Option.some.inj hTransactions).symm (Option.some.inj hInvoices).symm hTables.plans ?_
    rw [← Option.some.inj hSubscriptions]
    exact fun subscription hSubscription => ⟨subscription, hSubscription, rfl, rfl, rfl, rfl, rfl⟩
  · have hInvoices : some db.invoices = some written.invoices := hTables.invoices
    have hSubscriptions : some db.subscriptions = some written.subscriptions := hTables.subscriptions
    have hBill : written.Billed (orderedRow db env restaurantId plan orderId) := by
      rw [Option.some.inj hInvoices] at hUnbilled
      refine ⟨?_, ?_, nofun⟩
      · intro invoice hInvoice hOf
        exact absurd hOf (hUnbilled hInvoice)
      · intro first hFirst second hSecond hFirstOf
        exact absurd hFirstOf (hUnbilled hFirst)
    refine h.rebilled ⟨hTables.get?_single rfl, ?_, ?_, hTables.plans, rfl, hBill⟩
    · rw [← Option.some.inj hInvoices]
      exact fun _ _ => Iff.rfl
    · rw [← Option.some.inj hSubscriptions]
      exact fun _ => id
  · have hInvoices := Table.putAll_singleton.mp hTables.invoices
    have hSubscriptions : some db.subscriptions = some written.subscriptions := hTables.subscriptions
    have hMem (invoice : BillingInvoice) : invoice ∈ written.invoices.rows ↔
        invoice = orderedInvoice db env restaurantId plan orderId ∨ (invoice ∈ db.invoices.rows ∧
          invoice.id ≠ (orderedInvoice db env restaurantId plan orderId).id) := Table.mem_put hInvoices
    have hNew : ∀ invoice ∈ written.invoices.rows,
        invoice.paymentTransactionId = some (orderedRow db env restaurantId plan orderId).id →
          invoice = orderedInvoice db env restaurantId plan orderId := by
      intro invoice hInvoice hOf
      rcases (hMem invoice).mp hInvoice with hSame | ⟨hOld, _⟩
      · exact hSame
      · exact absurd hOf (hUnbilled hOld)
    have hBill : written.Billed (orderedRow db env restaurantId plan orderId) := by
      refine ⟨?_, ?_, nofun⟩
      · intro invoice hInvoice hOf
        rw [hNew invoice hInvoice hOf]
        exact ⟨rfl, rfl, rfl, ⟨nofun, nofun⟩, nofun⟩
      · intro first hFirst second hSecond hFirstOf hSecondOf
        rw [hNew first hFirst hFirstOf, hNew second hSecond hSecondOf]
    refine h.rebilled ⟨hTables.get?_single rfl, ?_, ?_, hTables.plans, rfl, hBill⟩
    · intro invoice hOther
      rw [hMem]
      constructor
      · rintro (rfl | ⟨hOld, _⟩)
        · exact absurd rfl hOther
        · exact hOld
      · intro hOld
        exact Or.inr ⟨hOld, Nat.ne_of_lt (Table.key_lt_freshKey hOld)⟩
    · rw [← Option.some.inj hSubscriptions]
      exact fun _ => id

/-- The invoice of an activation takes the place of the one that the transaction has. -/
theorem Database.Billed.replaced (h : db.Billed tx) (params : ActivateSubscriptionWithOutboxParams)
    (subscriptionId : Uuid) {invoice : BillingInvoice} (hInvoice : invoice ∈ db.invoices.rows) :
    invoice.id = (activationInvoice db env params tx subscriptionId env.invoiceNumber env.now).id ↔
      invoice.paymentTransactionId = some tx.id := by
  unfold activationInvoice
  cases hFind : db.invoices.findFirst env.tie (fun _ => 0)
      (fun invoice => invoice.paymentTransactionId = some tx.id) with
  | some found =>
      obtain ⟨hMem, hMatch, _⟩ := Table.findFirst_some hFind
      have hOf : found.paymentTransactionId = some tx.id := of_decide_eq_true hMatch
      constructor
      · intro hId
        rw [Table.eq_of_key hInvoice hMem hId]
        exact hOf
      · intro hSame
        exact h.single invoice hInvoice found hMem hSame hOf
  | none =>
      have hNone := Table.findFirst_eq_none.mp hFind invoice hInvoice
      constructor
      · intro hId
        exact absurd hId (Nat.ne_of_lt (Table.key_lt_freshKey hInvoice))
      · intro hSame
        exact absurd hSame (of_decide_eq_false hNone)

theorem activatedRow_sameBill (payment : ActivationPayment) (subscriptionId : Uuid) (now : Instant) :
    (activatedRow payment subscriptionId now tx).SameBill tx := by
  unfold activatedRow claimedRow
  split <;> exact ⟨rfl, rfl, rfl, rfl, rfl⟩

/-- It is made out for the transaction and names the new subscription. -/
theorem activationInvoice_bills (h : db.Billed tx) {params : ActivateSubscriptionWithOutboxParams}
    (hRestaurant : params.subscription.restaurantId = tx.restaurantId) (subscriptionId : Uuid) :
    (activationInvoice db env params tx subscriptionId env.invoiceNumber env.now).paymentTransactionId =
        some tx.id ∧
      (activationInvoice db env params tx subscriptionId env.invoiceNumber env.now).Bills
        (activatedRow params.payment subscriptionId env.now tx) := by
  have hRow := @activatedRow_sameBill tx params.payment subscriptionId env.now
  unfold activationInvoice
  cases hFind : db.invoices.findFirst env.tie (fun _ => 0)
      (fun invoice => invoice.paymentTransactionId = some tx.id) with
  | some found =>
      obtain ⟨hMem, hMatch, _⟩ := Table.findFirst_some hFind
      have hOf : found.paymentTransactionId = some tx.id := of_decide_eq_true hMatch
      have hBills := h.bills found hMem hOf
      refine ⟨hOf, ?_, ?_, ?_, ?_, fun _ => rfl⟩
      · rw [hRow.restaurantId]
        exact hBills.restaurantId
      · rw [hRow.amountPaise]
        exact hBills.amountPaise
      · rw [hRow.currency]
        exact hBills.currency
      · exact iff_of_true rfl (activatedRow_status _ _ _)
  | none =>
      refine ⟨rfl, ?_, ?_, ?_, ?_, fun _ => rfl⟩
      · rw [hRow.restaurantId]
        exact hRestaurant
      · rw [hRow.amountPaise]
        rfl
      · rw [hRow.currency]
        rfl
      · exact iff_of_true rfl (activatedRow_status _ _ _)

/-- A paid order with the invoice that takes the place of its old one and with a
new subscription. -/
theorem Database.Billing.paid (h : db.Billing) (hTx : tx ∈ db.transactions.rows) (hSame : row.SameBill tx)
    {invoice : BillingInvoice} {subscription : Subscription}
    (hTransactions : ∀ id, written.transactions.get? id =
      if row.id = id then some row else db.transactions.get? id)
    (hInvoices : db.invoices.put invoice = some written.invoices)
    (hReplaced : ∀ old ∈ db.invoices.rows, old.id = invoice.id ↔ old.paymentTransactionId = some tx.id)
    (hOf : invoice.paymentTransactionId = some tx.id) (hBills : invoice.Bills row)
    (hSubscriptions : db.subscriptions.put subscription = some written.subscriptions)
    (hFresh : db.subscriptions.get? subscription.id = none)
    (hBought : subscription.BoughtBy db.plans row) (hPlans : written.plans = db.plans) : written.Billing := by
  have hMem (other : BillingInvoice) : other ∈ written.invoices.rows ↔
      other = invoice ∨ (other ∈ db.invoices.rows ∧ other.id ≠ invoice.id) := Table.mem_put hInvoices
  have hOnly : ∀ other ∈ written.invoices.rows, other.paymentTransactionId = some row.id → other = invoice := by
    intro other hOther hOtherOf
    rcases (hMem other).mp hOther with hNew | ⟨hOld, hKept⟩
    · exact hNew
    · rw [hSame.id] at hOtherOf
      exact absurd ((hReplaced other hOld).mpr hOtherOf) hKept
  have hBill : written.Billed row := by
    refine ⟨?_, ?_, fun _ => ⟨⟨invoice, (hMem invoice).mpr (Or.inl rfl), ?_⟩, subscription, ?_, ?_⟩⟩
    · intro other hOther hOtherOf
      rw [hOnly other hOther hOtherOf]
      exact hBills
    · intro first hFirst second hSecond hFirstOf hSecondOf
      rw [hOnly first hFirst hFirstOf, hOnly second hSecond hSecondOf]
    · rw [hSame.id]
      exact hOf
    · exact (Table.mem_put hSubscriptions).mpr (Or.inl rfl)
    · rw [hPlans]
      exact hBought
  refine h.rebilled ⟨hTransactions, ?_, ?_, hPlans, ?_, hBill⟩
  · intro other hOther
    rw [hSame.id] at hOther
    rw [hMem]
    constructor
    · rintro (rfl | ⟨hOld, _⟩)
      · exact absurd hOf hOther
      · exact hOld
    · intro hOld
      exact Or.inr ⟨hOld, fun hId => hOther ((hReplaced other hOld).mp hId)⟩
  · intro old hOld
    exact (Table.mem_put hSubscriptions).mpr (Or.inr ⟨hOld, Table.get?_eq_none.mp hFresh old hOld⟩)
  · rw [hSame.orderId]
    exact h.plain tx hTx

/-- An activation leaves a paid order with its invoice and its subscription. -/
theorem Database.Billing.activated (h : db.Billing) (hTx : tx ∈ db.transactions.rows)
    {plan : SubscriptionPlan} {paymentId signature : String} (hOpen : tx.Activatable db plan)
    (hWritten : db.writeAll (activationWrites db env tx
      (activationParams tx plan paymentId signature env.now)) = some written) : written.Billing := by
  have hTables := Database.written_of_writeAll hWritten
  have hBilled := h.billed tx hTx
  obtain ⟨planId, hPlanId, hPlan⟩ := hOpen.plan
  have hPlanKey : plan.id = planId := (Table.get?_eq_some.mp hPlan).2
  have hSame := @activatedRow_sameBill tx (activationParams tx plan paymentId signature env.now).payment
    (db.subscriptionRow env (activationParams tx plan paymentId signature env.now).subscription).id env.now
  have hPayment := @activatedRow_samePayment tx (activationParams tx plan paymentId signature env.now).payment
    (db.subscriptionRow env (activationParams tx plan paymentId signature env.now).subscription).id env.now
  have hGet := fun id => get?_activated hWritten id
  have hInvoices := hTables.invoices
  have hSubscriptions := hTables.subscriptions
  rw [activationWrites_invoice?, Table.putAll_singleton] at hInvoices
  rw [activationWrites_subscription?, Table.putAll_singleton] at hSubscriptions
  obtain ⟨hOf, hBills⟩ := @activationInvoice_bills env db tx hBilled
    (activationParams tx plan paymentId signature env.now) rfl
    (db.subscriptionRow env (activationParams tx plan paymentId signature env.now).subscription).id
  refine h.paid hTx hSame (fun id => ?_) hInvoices (fun old hOld => hBilled.replaced _ _ hOld) hOf hBills
    hSubscriptions Table.get?_freshKey ?_ hTables.plans
  · rw [hGet, hSame.id]
  · refine ⟨rfl, hSame.restaurantId.symm, ?_, plan, ?_, rfl⟩
    · rw [hPayment.planId, hPlanId, ← hPlanKey]
      rfl
    · show db.plans.get? plan.id = some plan
      rw [hPlanKey]
      exact hPlan

/-- The expiry keeps the periods of all subscriptions. -/
theorem Database.Billing.expired (h : db.Billing) {events : List OutboxEvent} {now : Instant}
    (hTables : db.Written (PaymentSubscriptionExpiryService.expiredSubscriptions db (pastDue db now) now ++
      events.map Write.outbox) written) : written.Billing := by
  have hTransactions := hTables.transactions
  have hInvoices := hTables.invoices
  have hSubscriptions := hTables.subscriptions
  rw [expiry_transaction?] at hTransactions
  rw [expiredSubscriptions_invoice?] at hInvoices
  rw [expiredSubscriptions_subscription?] at hSubscriptions
  refine h.same (Option.some.inj hTransactions).symm (Option.some.inj hInvoices).symm hTables.plans ?_
  intro subscription hSubscription
  have hKey : ∀ row : Subscription,
      Record.key ({ row with status := .expired, updatedAt := now } : Subscription) = Record.key row := fun _ => rfl
  refine ⟨_, (Table.mem_updateMany hKey hSubscriptions).mpr ⟨subscription, hSubscription, rfl⟩, ?_⟩
  split <;> exact ⟨rfl, rfl, rfl, rfl, rfl⟩

/-- Every effect of a call that handles subscriptions keeps the invariant. -/
theorem Database.Billing.effect (h : db.Billing) {call : Call} (hKind : call.HandlesSubscriptions)
    {writes : List Write} (hEffect : Effect config db env call writes) : (db.store writes).Billing := by
  rcases db.store_cases writes with ⟨_, hSame⟩ | ⟨written, hWritten, hStored⟩
  · rw [hSame]
    exact h
  rw [hStored]
  have hTables := Database.written_of_writeAll hWritten
  cases hEffect with
  | nothing call =>
      cases hWritten
      exact h
  | captured hCaptures hOpen =>
      cases hCaptures with
      | verify hAccepted => cases hKind
      | webhook hReported hFood =>
          obtain ⟨orderId, _, hFound⟩ := hReported.found
          rw [h.plain _ (Database.findTransaction_mem hFound)] at hFood
          cases hFood
  | failed hReported hFood hOpen =>
      obtain ⟨orderId, _, hFound⟩ := hReported.found
      rw [h.plain _ (Database.findTransaction_mem hFound)] at hFood
      cases hFood
  | markedFailed hReported hPlain hOpen =>
      obtain ⟨orderId, _, hFound⟩ := hReported.found
      exact h.statusChanged (Database.findTransaction_mem hFound) hTables ⟨rfl, rfl, rfl, rfl, rfl⟩
        (fun hSuccess => hOpen (Or.inl hSuccess)) nofun
  | activated hActivates hOpen => exact h.activated hActivates.mem hOpen hWritten
  | refunded hAccepted hAnswer => cases hKind
  | refundSynced hReported hKnown hRow => exact h.settled (Database.findTransaction_mem hRow) hTables
  | refundRecorded hReported hUnknown hPayment hRow =>
      exact h.settled (Database.findTransaction_mem hRow) hTables
  | orderOpened hOpens => cases hKind
  | subscriptionOrdered hAccepted hPending hGateway hWrites => exact h.ordered hWrites hTables
  | reset hAccepted hPending hFailed =>
      refine h.statusChanged (Table.findFirst_some hPending).1 hTables ⟨rfl, rfl, rfl, rfl, rfl⟩ ?_ nofun
      rw [hFailed]
      exact nofun
  | expired hTypes => exact h.expired hTables

section Crashes

variable {restaurantId : Uuid} {plan : SubscriptionPlan} {input : CreateSubscriptionOrderInput}

/-- The states that a crash of the call can leave behind. -/
def Ordered (config : Config) (env : Env) (input : CreateSubscriptionOrderInput) (db : Database) (world : World) :
    Prop :=
  ∃ writes, Effect config db env (.createSubscriptionOrder input) writes ∧ world.db = db.store writes

theorem ordered_same {later : World} (hSame : later.db = world.db) : Ordered config env input world.db later :=
  ⟨[], .nothing _, hSame⟩

/-- The transaction of a new order is stored before its invoice. -/
theorem passes_storeOrder {later : World} {orderId : String} (hAccepted : input.Accepted world.db env restaurantId plan)
    (hPending : pendingOrder world.db env restaurantId plan.id = none)
    (hGateway : env.gatewayOrderId = some orderId) (hLater : later.db = world.db)
    (f : BillingInvoice → CreateSubscriptionOrderOutput) :
    Passes (Port.perform env) (Ordered config env input world.db)
      (repository (.createTransaction (subscriptionTransaction restaurantId plan orderId env.now)) >>=
        fun row => repository (.createInvoice
          (draftInvoice restaurantId plan row.id env.invoiceNumber)) >>= fun invoice => .ret (f invoice)) later := by
  have hEffect : ∀ writes, writes <+: orderWrites world.db env restaurantId plan orderId →
      Effect config world.db env (.createSubscriptionOrder input) writes :=
    fun writes hWrites => .subscriptionOrdered hAccepted hPending hGateway hWrites
  refine Passes.call_bind (ordered_same hLater) ?_
  have hCreate : Port.perform env
      (.repository (.createTransaction (subscriptionTransaction restaurantId plan orderId env.now))) later =
      later.commit (orderedRow world.db env restaurantId plan orderId)
        [.transaction (orderedRow world.db env restaurantId plan orderId)] := by
    rw [perform_createTransaction, hLater]
    rfl
  rw [hCreate]
  cases hRow : later.db.writeAll [.transaction (orderedRow world.db env restaurantId plan orderId)] with
  | none =>
      rw [World.commit_of_refused hRow]
      exact ordered_same hLater
  | some written =>
      rw [World.commit_of_written hRow]
      rw [hLater] at hRow
      obtain ⟨table, hPut, rfl⟩ := Database.write_transaction hRow
      have hStored : Ordered config env input world.db
          { later with db := { world.db with transactions := table } } :=
        ⟨_, hEffect _ (List.prefix_append _ [Write.invoice (orderedInvoice world.db env restaurantId plan orderId)]),
          (Database.store_of_writeAll hRow).symm⟩
      refine Passes.call_ret hStored ?_
      rw [perform_createInvoice]
      cases hInvoice : { world.db with transactions := table }.writeAll
          [.invoice (orderedInvoice world.db env restaurantId plan orderId)] with
      | none =>
          rw [World.commit_of_refused hInvoice]
          exact hStored
      | some final =>
          have hBoth : world.db.writeAll (orderWrites world.db env restaurantId plan orderId) = some final :=
            Database.writeAll_of_written hRow hInvoice
          rw [World.commit_of_written hInvoice]
          exact ⟨_, hEffect _ List.prefix_rfl, (Database.store_of_writeAll hBoth).symm⟩

theorem passes_reuseOrOpenOrder (hAccepted : input.Accepted world.db env restaurantId plan) :
    Passes (Port.perform env) (Ordered config env input world.db)
      (reuseOrOpenOrder config restaurantId plan env.invoiceNumber env.now) world := by
  refine Passes.call_bind (ordered_same rfl) ?_
  rw [perform_findPendingByRestaurantAndPlan]
  cases hPending : pendingOrder world.db env restaurantId plan.id with
  | some tx =>
      have hRow := Database.findTransaction_of_mem (Table.findFirst_some hPending).1
      have hFound := hPending
      unfold pendingOrder at hFound
      rw [hFound]
      simp only
      split
      · next hFailed =>
          refine Passes.call_ret (ordered_same rfl) ?_
          rw [perform_resetToCreated hRow]
          exact ⟨_, .reset hAccepted hPending hFailed, rfl⟩
      · exact ordered_same rfl
  | none =>
      have hFound := hPending
      unfold pendingOrder at hFound
      rw [hFound]
      refine Passes.call_bind (ordered_same rfl) ?_
      cases hGateway : env.gatewayOrderId with
      | none =>
          rw [perform_createOrder_failed hGateway]
          exact ordered_same rfl
      | some orderId =>
          rw [perform_createOrder hGateway]
          have hSame : (world.ordered plan.pricePaise plan.currency orderId).db = world.db := rfl
          exact passes_storeOrder hAccepted hPending hGateway hSame fun _ =>
            subscriptionOrderResponse config orderId plan.pricePaise plan.currency plan

/-- The call only reads up to the lookup of a pending order. -/
theorem passes_createSubscriptionOrder :
    Passes (Port.perform env) (Ordered config env input world.db)
      (createSubscriptionOrder config input env.invoiceNumber env.now) world := by
  unfold createSubscriptionOrder
  cases hRestaurant : input.restaurantId with
  | none => exact ordered_same rfl
  | some restaurantId =>
      refine Passes.call_bind (ordered_same rfl) ?_
      rw [perform_findPlanById]
      cases hPlan : world.db.plans.get? input.planId with
      | none => exact ordered_same rfl
      | some plan =>
          simp only
          split
          · exact ordered_same rfl
          · next hActive =>
              refine Passes.call_bind (ordered_same rfl) ?_
              rw [perform_findActiveByRestaurantId]
              simp only
              split
              · exact ordered_same rfl
              · next hNone =>
                  exact passes_reuseOrOpenOrder
                    ⟨hRestaurant, hPlan, by simpa using hActive, by simpa using hNone⟩

/-- A crash leaves the rows that an effect of the call writes. -/
theorem effect_crashed (input : CreateSubscriptionOrderInput) (env : Env) (awaits : Nat) (world : World) :
    Ordered config env input world.db (serveSubscriptions config world (.crashed input env awaits)) :=
  (passes_createSubscriptionOrder.map Reply.subscriptionOrder).stopAfter awaits

/-- A crash right after the transaction is stored leaves the order without an invoice. -/
example : (serveSubscriptions Sample.config (World.initial Sample.plans)
    (.crashed { restaurantId := some 21, planId := 5 }
      { Sample.env 1000 with gatewayOrderId := some "order_1" } 5)).db.invoicesOf 0 = [] := by decide

end Crashes

/-- Every step keeps the invariant. -/
theorem billing_step (world : World) (step : SubscriptionStep) (hLinked : world.db.RefundsLinked)
    (h : world.db.Billing) :
    (serveSubscriptions config world step).db.RefundsLinked ∧ (serveSubscriptions config world step).db.Billing := by
  have hEffect : ∃ call env writes, call.HandlesSubscriptions ∧ Effect config world.db env call writes ∧
      (serveSubscriptions config world step).db = world.db.store writes := by
    cases step with
    | completed request =>
        obtain ⟨writes, hEffect, hStore⟩ := @serve_effect config world hLinked request.1
        exact ⟨_, _, writes, request.2, hEffect, hStore⟩
    | crashed input env awaits =>
        obtain ⟨writes, hEffect, hStore⟩ := @effect_crashed config input env awaits world
        exact ⟨_, _, writes, .createSubscriptionOrder input, hEffect, hStore⟩
  obtain ⟨call, env, writes, hKind, hEffect, hStore⟩ := hEffect
  rw [hStore]
  exact ⟨refundsLinked_store hLinked hEffect, h.effect hKind hEffect⟩

/-- In every run from empty tables the transactions of subscription orders agree
with their invoices and subscriptions, wherever the creation of an order crashes. -/
theorem billingAgrees_always (config : Config) (plans : Table SubscriptionPlan) (steps : List SubscriptionStep) :
    Always (serveSubscriptions config) (World.initial plans) steps fun world => world.db.BillingAgrees := by
  intro past _
  have hReached := run_invariant (fun world : World => world.db.RefundsLinked ∧ world.db.Billing)
    (fun world step h => @billing_step config world step h.1 h.2)
    ⟨refundsLinked_initial plans, billing_initial plans⟩ past
  exact hReached.2.agrees

end SpotqPayment
