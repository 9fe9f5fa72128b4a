import SpotqPayment.System.Changes
import SpotqPayment.System.Isolation

/-! What the transactions of the service commit, whatever runs beside them. A row
of a payment transaction keeps its order, an announced status is written together
with its event, and a paid status rests on a signature. -/
namespace SpotqPayment

open Process Engine ReadCommitted PaymentTransactionRepository SubscriptionRepository

/-- The columns of a transaction that no operation changes. -/
structure PaymentTransaction.SameOrder (row old : PaymentTransaction) : Prop where
  id : row.id = old.id
  razorpayOrderId : row.razorpayOrderId = old.razorpayOrderId
  orderId : row.orderId = old.orderId
  customerId : row.customerId = old.customerId
  restaurantId : row.restaurantId = old.restaurantId
  amountPaise : row.amountPaise = old.amountPaise
  currency : row.currency = old.currency

/-- What an event row was created from. -/
def OutboxEvent.data (event : OutboxEvent) : CreateOutboxEventInput where
  eventType := event.eventType
  aggregateId := event.aggregateId
  payload := event.payload

namespace CreateOutboxEventInput

def AnnouncesCapture (data : CreateOutboxEventInput) (tx : PaymentTransaction) (orderId : Uuid) : Prop :=
  data.eventType = .orderCaptured ∧ data.aggregateId = orderId ∧ ∃ gatewayPaymentId method timestamp,
    data.payload = .orderCaptured tx.id orderId tx.customerId tx.restaurantId tx.amountPaise tx.currency
      gatewayPaymentId method timestamp

def AnnouncesFailure (data : CreateOutboxEventInput) (tx : PaymentTransaction) (orderId : Uuid) : Prop :=
  data.eventType = .orderFailed ∧ data.aggregateId = orderId ∧ ∃ failureReason timestamp,
    data.payload = .orderFailed tx.id orderId tx.customerId tx.restaurantId tx.amountPaise tx.currency
      failureReason timestamp

def AnnouncesActivation (data : CreateOutboxEventInput) (subscriptionId : Uuid) : Prop :=
  data.eventType = .subscriptionActivated ∧ data.payload.subscriptionId? = some subscriptionId

def AnnouncesExpiry (data : CreateOutboxEventInput) (subscriptionId : Uuid) : Prop :=
  data.eventType = .subscriptionExpired ∧ data.payload.subscriptionId? = some subscriptionId

/-- The type is the one that belongs to the payload. -/
def Produced (data : CreateOutboxEventInput) : Prop :=
  match data.payload with
  | .orderCaptured .. => data.eventType = .orderCaptured
  | .orderFailed .. => data.eventType = .orderFailed
  | .subscriptionActivated .. => data.eventType = .subscriptionActivated
  | .subscriptionExpired .. => data.eventType = .subscriptionExpired

variable {data : CreateOutboxEventInput} {row old : PaymentTransaction} {orderId : Uuid}

theorem AnnouncesCapture.sameOrder (h : data.AnnouncesCapture old orderId) (hSame : row.SameOrder old) :
    data.AnnouncesCapture row orderId := by
  obtain ⟨hType, hAggregate, gatewayPaymentId, method, timestamp, hPayload⟩ := h
  refine ⟨hType, hAggregate, gatewayPaymentId, method, timestamp, ?_⟩
  rw [hPayload, hSame.id, hSame.customerId, hSame.restaurantId, hSame.amountPaise, hSame.currency]

theorem AnnouncesFailure.sameOrder (h : data.AnnouncesFailure old orderId) (hSame : row.SameOrder old) :
    data.AnnouncesFailure row orderId := by
  obtain ⟨hType, hAggregate, failureReason, timestamp, hPayload⟩ := h
  refine ⟨hType, hAggregate, failureReason, timestamp, ?_⟩
  rw [hPayload, hSame.id, hSame.customerId, hSame.restaurantId, hSame.amountPaise, hSame.currency]

end CreateOutboxEventInput

/-- The order, the payment and the signature that a checkout hands in. -/
def Call.checkout? : Call → Option (String × String × String)
  | .verifyOrderPayment input => some (input.razorpayOrderId, input.razorpayPaymentId, input.razorpaySignature)
  | .verifyPayment input => some (input.razorpayOrderId, input.razorpayPaymentId, input.razorpaySignature)
  | _ => none

/-- What the service takes as the payment of an order: a signed checkout for the
stored payment, or an accepted success event. -/
inductive Paid (config : Config) (kind : Call → Prop) (razorpayOrderId : String) (stored : Option String) : Prop where
  | checkout {call : Call} {razorpayPaymentId signature : String} (hKind : kind call)
      (hCheckout : call.checkout? = some (razorpayOrderId, razorpayPaymentId, signature))
      (hSignature : RazorpayGateway.verifyPaymentSignature config razorpayOrderId razorpayPaymentId signature = true)
      (hStored : stored = some razorpayPaymentId)
  | webhook {input : HandleWebhookInput} (hKind : kind (.handleWebhook input))
      (hAccepted : webhookAccepted config input = true) (hEvent : input.parsedPayload.event.isSuccess = true)
      (hOrder : input.parsedPayload.successOrderId = some razorpayOrderId)

/-- The deployment and its calls, with the events that a transaction has promised. -/
structure Commitment where
  config : Config
  kind : Call → Prop
  announced : CreateOutboxEventInput → Prop

/-- The status with which a transaction may be written. -/
inductive WrittenStatus (commitment : Commitment) (db : Database) (row : PaymentTransaction) : Prop where
  | created (hStatus : row.status = .created)
  | kept (hStatus : db.statusOf row.id = some row.status)
  | captured (hStatus : row.status = .captured)
      (hPaid : Paid commitment.config commitment.kind row.razorpayOrderId row.razorpayPaymentId)
      (hEvent : ∀ orderId, row.orderId = some orderId →
        ∃ data, commitment.announced data ∧ data.AnnouncesCapture row orderId)
  | failed (hStatus : row.status = .failed) (hEvent : ∀ orderId, row.orderId = some orderId →
        ∃ data, commitment.announced data ∧ data.AnnouncesFailure row orderId)
  | refunded (hStatus : row.status = .refunded)
  | success (hStatus : row.status = .success)
      (hPaid : Paid commitment.config commitment.kind row.razorpayOrderId row.razorpayPaymentId)

structure TransactionWrite (commitment : Commitment) (db : Database) (row : PaymentTransaction) : Prop where
  identity : ∀ old, db.transactions.get? row.id = some old → row.SameOrder old
  status : WrittenStatus commitment db row

/-- A subscription is opened or expires. -/
inductive SubscriptionWrite (commitment : Commitment) (db : Database) (row : Subscription) : Prop where
  | opened (hStatus : row.status = .active)
      (hEvent : ∃ data, commitment.announced data ∧ data.AnnouncesActivation row.id)
  | expired (hOld : ∃ old, db.subscriptions.get? row.id = some old)
      (hEvent : ∃ data, commitment.announced data ∧ data.AnnouncesExpiry row.id)

/-- What a transaction may have written, seen from the committed state. -/
structure Commit (commitment : Commitment) (db : Database) (writes : List Write) : Prop where
  transactions : ∀ row, .transaction row ∈ writes → TransactionWrite commitment db row
  subscriptions : ∀ row, .subscription row ∈ writes → SubscriptionWrite commitment db row
  events : ∀ event, .outbox event ∈ writes → db.outbox.get? event.id = none ∧
    ∃ data id now, event = CreateOutboxEventInput.toRow data id now ∧ data.Produced
  apart : ((writes.filterMap Write.outbox?).map OutboxEvent.id).Nodup

/-- All promised events have been written. -/
def Commitment.Fulfilled (commitment : Commitment) (writes : List Write) : Prop :=
  ∀ data, commitment.announced data → ∃ event, .outbox event ∈ writes ∧ event.data = data

/-- Transactions stay, each with its order. -/
def Database.Extends (before after : Database) : Prop :=
  ∀ id old, before.transactions.get? id = some old →
    ∃ row, after.transactions.get? id = some row ∧ row.SameOrder old

/-- The transaction is stored, perhaps with other columns by now. -/
def PaymentTransaction.Known (tx : PaymentTransaction) (db : Database) : Prop :=
  ∃ row, db.transactions.get? tx.id = some row ∧ row.SameOrder tx

variable {commitment : Commitment} {db after view : Database} {writes : List Write}

theorem sameOrder_refl (tx : PaymentTransaction) : tx.SameOrder tx := ⟨rfl, rfl, rfl, rfl, rfl, rfl, rfl⟩

namespace PaymentTransaction.SameOrder

variable {row old older : PaymentTransaction}

theorem trans (hRow : row.SameOrder old) (hOld : old.SameOrder older) : row.SameOrder older where
  id := hRow.id.trans hOld.id
  razorpayOrderId := hRow.razorpayOrderId.trans hOld.razorpayOrderId
  orderId := hRow.orderId.trans hOld.orderId
  customerId := hRow.customerId.trans hOld.customerId
  restaurantId := hRow.restaurantId.trans hOld.restaurantId
  amountPaise := hRow.amountPaise.trans hOld.amountPaise
  currency := hRow.currency.trans hOld.currency

end PaymentTransaction.SameOrder

theorem Database.Extends.refl (db : Database) : db.Extends db := fun _ old hOld => ⟨old, hOld, sameOrder_refl old⟩

theorem Database.Extends.trans {first second third : Database} (hFirst : first.Extends second)
    (hSecond : second.Extends third) : first.Extends third := by
  intro id old hOld
  obtain ⟨row, hRow, hSame⟩ := hFirst id old hOld
  obtain ⟨last, hLast, hSameLast⟩ := hSecond id row hRow
  exact ⟨last, hLast, hSameLast.trans hSame⟩

theorem PaymentTransaction.Known.later {tx : PaymentTransaction} (h : tx.Known db) (hExtends : db.Extends after) :
    tx.Known after := by
  obtain ⟨row, hRow, hSame⟩ := h
  obtain ⟨last, hLast, hSameLast⟩ := hExtends tx.id row hRow
  exact ⟨last, hLast, hSameLast.trans hSame⟩

theorem known_of_mem {tx : PaymentTransaction} (h : tx ∈ db.transactions.rows) : tx.Known db :=
  ⟨tx, Table.get?_key h, sameOrder_refl tx⟩

/-- A known transaction is the same order as a row that is written for its id. -/
theorem TransactionWrite.sameOrder {tx row : PaymentTransaction} (h : TransactionWrite commitment db row)
    (hTx : tx.Known db) (hId : row.id = tx.id) : row.SameOrder tx := by
  obtain ⟨old, hOld, hSame⟩ := hTx
  exact (h.identity old (hId ▸ hOld)).trans hSame

theorem transactionWrite_of_mem {row : PaymentTransaction} (h : row ∈ db.transactions.rows) :
    TransactionWrite commitment db row where
  identity := by
    intro old hOld
    have hGet : db.transactions.get? row.id = some row := Table.get?_key h
    rw [hGet] at hOld
    cases hOld
    exact sameOrder_refl row
  status := .kept (statusOf_eq_some.mpr ⟨row, Table.get?_key h, rfl⟩)

/-- A row written again with its status and its payment. -/
theorem TransactionWrite.again {row next : PaymentTransaction} (h : TransactionWrite commitment db row)
    (hSame : next.SameOrder row) (hStatus : next.status = row.status)
    (hPayment : next.razorpayPaymentId = row.razorpayPaymentId) : TransactionWrite commitment db next where
  identity := fun old hOld => hSame.trans (h.identity old (hSame.id ▸ hOld))
  status := by
    cases h.status with
    | created hRow => exact .created (hStatus.trans hRow)
    | kept hRow =>
        refine .kept ?_
        rw [hSame.id, hStatus]
        exact hRow
    | captured hRow hPaid hEvent =>
        refine .captured (hStatus.trans hRow) ?_ fun orderId hOrder => ?_
        · rw [hSame.razorpayOrderId, hPayment]
          exact hPaid
        · obtain ⟨data, hData, hAnnounces⟩ := hEvent orderId (hSame.orderId.symm.trans hOrder)
          exact ⟨data, hData, hAnnounces.sameOrder hSame⟩
    | failed hRow hEvent =>
        refine .failed (hStatus.trans hRow) fun orderId hOrder => ?_
        obtain ⟨data, hData, hAnnounces⟩ := hEvent orderId (hSame.orderId.symm.trans hOrder)
        exact ⟨data, hData, hAnnounces.sameOrder hSame⟩
    | refunded hRow => exact .refunded (hStatus.trans hRow)
    | success hRow hPaid =>
        refine .success (hStatus.trans hRow) ?_
        rw [hSame.razorpayOrderId, hPayment]
        exact hPaid

/-- A row written again with a status that needs no event and no payment, or has them. -/
theorem TransactionWrite.change {row next : PaymentTransaction} (h : TransactionWrite commitment db row)
    (hSame : next.SameOrder row) (hStatus : WrittenStatus commitment db next) :
    TransactionWrite commitment db next where
  identity := fun old hOld => hSame.trans (h.identity old (hSame.id ▸ hOld))
  status := hStatus

namespace Commit

theorem nil : Commit commitment db [] where
  transactions := fun _ hRow => absurd hRow List.not_mem_nil
  subscriptions := fun _ hRow => absurd hRow List.not_mem_nil
  events := fun _ hEvent => absurd hEvent List.not_mem_nil
  apart := List.nodup_nil

/-- The rows of one table among the writes, each of which is written to that table only. -/
theorem mem_rows {Row : Type} {row? : Write → Option Row} {put : Row → Write}
    (hRow : ∀ write row, row? write = some row ↔ write = put row) {row : Row} :
    row ∈ writes.filterMap row? ↔ put row ∈ writes := by
  simp only [List.mem_filterMap, hRow, exists_eq_right]

theorem mem_transactions {row : PaymentTransaction} :
    row ∈ writes.filterMap Write.transaction? ↔ .transaction row ∈ writes :=
  mem_rows fun write row => by cases write <;> simp [Write.transaction?]

theorem mem_events {event : OutboxEvent} : event ∈ writes.filterMap Write.outbox? ↔ .outbox event ∈ writes :=
  mem_rows fun write row => by cases write <;> simp [Write.outbox?]

theorem mem_subscriptions {row : Subscription} :
    row ∈ writes.filterMap Write.subscription? ↔ .subscription row ∈ writes :=
  mem_rows fun write row => by cases write <;> simp [Write.subscription?]

/-- A row that the transaction can see is stored or was written by it. -/
theorem view_row (h : Commit commitment db writes) (hView : db.Written writes view) {row : PaymentTransaction}
    (hRow : row ∈ view.transactions.rows) : TransactionWrite commitment db row := by
  rcases Table.mem_of_putAll hView.transactions hRow with hOld | hNew
  · exact transactionWrite_of_mem hOld
  · exact h.transactions row (mem_transactions.mp hNew)

/-- A commit keeps every transaction and its order. -/
theorem extends_written (h : Commit commitment db writes) (hView : db.Written writes view) : db.Extends view := by
  intro id old hOld
  obtain ⟨hMem, rfl⟩ := Table.get?_eq_some.mp hOld
  obtain ⟨row, hRow, hKey⟩ := Table.key_mem_of_putAll hView.transactions hMem
  have hGet : view.transactions.get? row.id = some row := Table.get?_key hRow
  have hId : row.id = old.id := hKey
  rw [hId] at hGet
  exact ⟨row, hGet, (h.view_row hView hRow).identity old (hId ▸ hOld)⟩

/-- The rows behind the locks of a transaction are as they were. -/
def SameRows (writes : List Write) (db after : Database) : Prop :=
  ∀ write ∈ writes, after.row write.lock = db.row write.lock

theorem SameRows.transaction (h : SameRows writes db after) {row : PaymentTransaction}
    (hRow : .transaction row ∈ writes) : after.transactions.get? row.id = db.transactions.get? row.id :=
  Option.map_injective (fun _ _ hSame => Write.transaction.inj hSame) (h _ hRow)

theorem SameRows.subscription (h : SameRows writes db after) {row : Subscription}
    (hRow : .subscription row ∈ writes) : after.subscriptions.get? row.id = db.subscriptions.get? row.id :=
  Option.map_injective (fun _ _ hSame => Write.subscription.inj hSame) (h _ hRow)

theorem SameRows.outbox (h : SameRows writes db after) {event : OutboxEvent} (hEvent : .outbox event ∈ writes) :
    after.outbox.get? event.id = db.outbox.get? event.id :=
  Option.map_injective (fun _ _ hSame => Write.outbox.inj hSame) (h _ hEvent)

/-- Events stay in the outbox. -/
theorem event_kept (h : Commit commitment db writes) (hWritten : db.Written writes after) {event : OutboxEvent}
    (hEvent : event ∈ db.outbox.rows) : event ∈ after.outbox.rows := by
  have hGet : db.outbox.get? event.id = some event := Table.get?_key hEvent
  have hAbsent : ∀ other ∈ writes.filterMap Write.outbox?, other.id ≠ event.id := by
    intro other hOther hSame
    have hNew := (h.events other (mem_events.mp hOther)).1
    rw [hSame, hGet] at hNew
    cases hNew
  have hStill : after.outbox.get? event.id = some event :=
    (Table.get?_putAll_of_absent hWritten.outbox hAbsent).trans hGet
  exact (Table.get?_eq_some.mp hStill).1

/-- A created event is in the outbox. -/
theorem event_stored (h : Commit commitment db writes) (hWritten : db.Written writes after) {event : OutboxEvent}
    (hEvent : .outbox event ∈ writes) : event ∈ after.outbox.rows := by
  have hStored : after.outbox.get? event.id = some event :=
    Table.get?_putAll_of_mem hWritten.outbox h.apart (mem_events.mpr hEvent)
  exact (Table.get?_eq_some.mp hStored).1

/-- A commit adds its events to the outbox and changes no other. -/
theorem mem_outbox (h : Commit commitment db writes) (hWritten : db.Written writes after) (event : OutboxEvent) :
    event ∈ after.outbox.rows ↔ event ∈ db.outbox.rows ∨ event ∈ writes.filterMap Write.outbox? := by
  constructor
  · exact Table.mem_of_putAll hWritten.outbox
  · rintro (hOld | hNew)
    · exact h.event_kept hWritten hOld
    · exact h.event_stored hWritten (mem_events.mp hNew)

/-- What others commit does not touch the rows of the transaction. -/
theorem later (h : Commit commitment db writes) (hRows : SameRows writes db after) :
    Commit commitment after writes where
  transactions := by
    intro row hRow
    obtain ⟨hIdentity, hStatus⟩ := h.transactions row hRow
    have hGet := hRows.transaction hRow
    refine ⟨fun old hOld => hIdentity old (hGet ▸ hOld), ?_⟩
    cases hStatus with
    | created hRow => exact .created hRow
    | kept hRow =>
        refine .kept ?_
        rw [Database.statusOf, hGet]
        exact hRow
    | captured hRow hPaid hEvent => exact .captured hRow hPaid hEvent
    | failed hRow hEvent => exact .failed hRow hEvent
    | refunded hRow => exact .refunded hRow
    | success hRow hPaid => exact .success hRow hPaid
  subscriptions := by
    intro row hRow
    cases h.subscriptions row hRow with
    | opened hStatus hEvent => exact .opened hStatus hEvent
    | expired hOld hEvent =>
        refine .expired ?_ hEvent
        rw [hRows.subscription hRow]
        exact hOld
  events := by
    intro event hEvent
    rw [hRows.outbox hEvent]
    exact h.events event hEvent
  apart := h.apart

/-- More events may be promised. -/
theorem promise {announced : CreateOutboxEventInput → Prop} (h : Commit commitment db writes)
    (hAnnounced : ∀ data, commitment.announced data → announced data) :
    Commit { commitment with announced := announced } db writes where
  transactions := by
    intro row hRow
    obtain ⟨hIdentity, hStatus⟩ := h.transactions row hRow
    refine ⟨hIdentity, ?_⟩
    cases hStatus with
    | created hRow => exact .created hRow
    | kept hRow => exact .kept hRow
    | captured hRow hPaid hEvent =>
        refine .captured hRow hPaid fun orderId hOrder => ?_
        obtain ⟨data, hData, hAnnounces⟩ := hEvent orderId hOrder
        exact ⟨data, hAnnounced data hData, hAnnounces⟩
    | failed hRow hEvent =>
        refine .failed hRow fun orderId hOrder => ?_
        obtain ⟨data, hData, hAnnounces⟩ := hEvent orderId hOrder
        exact ⟨data, hAnnounced data hData, hAnnounces⟩
    | refunded hRow => exact .refunded hRow
    | success hRow hPaid => exact .success hRow hPaid
  subscriptions := by
    intro row hRow
    cases h.subscriptions row hRow with
    | opened hStatus hEvent =>
        obtain ⟨data, hData, hAnnounces⟩ := hEvent
        exact .opened hStatus ⟨data, hAnnounced data hData, hAnnounces⟩
    | expired hOld hEvent =>
        obtain ⟨data, hData, hAnnounces⟩ := hEvent
        exact .expired hOld ⟨data, hAnnounced data hData, hAnnounces⟩
  events := h.events
  apart := h.apart

/-- The writes of one more statement that creates no event. -/
theorem append {new : List Write} (h : Commit commitment db writes)
    (hTransactions : ∀ row, .transaction row ∈ new → TransactionWrite commitment db row)
    (hSubscriptions : ∀ row, .subscription row ∈ new → SubscriptionWrite commitment db row)
    (hEvents : ∀ event, .outbox event ∉ new) : Commit commitment db (writes ++ new) where
  transactions := fun row hRow => (List.mem_append.mp hRow).elim (h.transactions row) (hTransactions row)
  subscriptions := fun row hRow => (List.mem_append.mp hRow).elim (h.subscriptions row) (hSubscriptions row)
  events := fun event hEvent =>
    (List.mem_append.mp hEvent).elim (h.events event) fun hNew => absurd hNew (hEvents event)
  apart := by
    have hNone : new.filterMap Write.outbox? = [] :=
      List.eq_nil_iff_forall_not_mem.mpr fun event hEvent => hEvents event (mem_events.mp hEvent)
    rw [List.filterMap_append, hNone, List.append_nil]
    exact h.apart

theorem append_transaction {row : PaymentTransaction} (h : Commit commitment db writes)
    (hRow : TransactionWrite commitment db row) : Commit commitment db (writes ++ [.transaction row]) := by
  refine h.append (fun other hOther => ?_) (fun other hOther => ?_) fun event hEvent => ?_
  · cases List.mem_singleton.mp hOther
    exact hRow
  · cases List.mem_singleton.mp hOther
  · cases List.mem_singleton.mp hEvent

/-- A new event gets an id that no stored event and no event of the transaction has. -/
theorem append_event {data : CreateOutboxEventInput} {env : Env} (h : Commit commitment db writes)
    (hView : db.Written writes view) (hData : data.Produced) :
    Commit commitment db (writes ++ [.outbox (view.outboxRow env data)]) := by
  have hFresh : ∀ event ∈ view.outbox.rows, event.id ≠ (view.outboxRow env data).id :=
    Table.get?_eq_none.mp Table.get?_freshKey
  have hNew : db.outbox.get? (view.outboxRow env data).id = none := by
    refine Table.get?_eq_none.mpr fun event hEvent hSame => ?_
    obtain ⟨other, hOther, hKey⟩ := Table.key_mem_of_putAll hView.outbox hEvent
    exact hFresh other hOther (hKey.trans hSame)
  refine ⟨fun row hRow => ?_, fun row hRow => ?_, fun event hEvent => ?_, ?_⟩
  · rcases List.mem_append.mp hRow with hOld | hOne
    · exact h.transactions row hOld
    · cases List.mem_singleton.mp hOne
  · rcases List.mem_append.mp hRow with hOld | hOne
    · exact h.subscriptions row hOld
    · cases List.mem_singleton.mp hOne
  · rcases List.mem_append.mp hEvent with hOld | hOne
    · exact h.events event hOld
    · cases List.mem_singleton.mp hOne
      exact ⟨hNew, data, _, _, rfl, hData⟩
  · rw [List.filterMap_append, List.map_append]
    refine List.nodup_append.mpr ⟨h.apart, List.nodup_singleton _, ?_⟩
    rintro id hId _ hOne rfl
    obtain ⟨event, hEvent, rfl⟩ := List.mem_map.mp hId
    have hStored : view.outbox.get? event.id = some event := Table.get?_putAll_of_mem hView.outbox h.apart hEvent
    exact hFresh event (Table.get?_eq_some.mp hStored).1 (List.mem_singleton.mp hOne)

end Commit

/-- The rows that an expiry updates, with the events that it has promised. -/
theorem commit_expired (config : Config) (kind : Call → Prop) (db : Database)
    (pastDue : List (Subscription × SubscriptionPlan)) (now : Instant) :
    Commit { config, kind, announced := fun data =>
        ∃ pair ∈ pastDue, data = PaymentSubscriptionExpiryService.expiryEvent now pair.1 pair.2 } db
      ([] ++ (db.subscriptions.rows.filter fun row => (pastDue.map (·.1.id)).contains row.id).map fun row =>
        .subscription { row with status := .expired, updatedAt := now }) := by
  refine Commit.nil.append (fun row hRow => ?_) (fun row hRow => ?_) fun event hEvent => ?_
  · obtain ⟨_, _, hSame⟩ := List.mem_map.mp hRow
    cases hSame
  · obtain ⟨old, hOld, hSame⟩ := List.mem_map.mp hRow
    cases hSame
    obtain ⟨hMem, hIds⟩ := List.mem_filter.mp hOld
    obtain ⟨pair, hPair, hId⟩ := List.mem_map.mp (List.contains_iff_mem.mp hIds)
    exact .expired ⟨old, Table.get?_key hMem⟩ ⟨_, ⟨pair, hPair, rfl⟩, rfl, congrArg some hId⟩
  · obtain ⟨_, _, hSame⟩ := List.mem_map.mp hEvent
    cases hSame

/-- A transaction is read with its order as it is stored. -/
def ReadsKnown : (port : Port) → World → port.Answer → Prop
  | .repository (.findByOrderId target), world, some row => row.Known world.db ∧ row.razorpayOrderId = target
  | _, _, _ => True

/-- Every transaction of the service is committed with a log of this kind. -/
def commitContract (config : Config) (kind : Call → Prop) : Contract paymentStore Reply where
  invariant := fun _ => True
  guarantee := fun world later => world.db.Extends later.db
  refl := fun world => Database.Extends.refl world.db
  trans := Database.Extends.trans
  logged := fun world writes => ∃ announced, Commit { config, kind, announced } world.db writes ∧
    Commitment.Fulfilled { config, kind, announced } writes
  returns := ReadsKnown
  result := fun _ _ => True
  stable := fun _ _ => trivial

/-- A statement that writes no transaction, no subscription and no event. -/
def Statement.Plain : Statement → Prop
  | .createTransaction _ | .updateTransaction _ _ | .updateManyTransactions _ _ => False
  | .createSubscription _ | .updateManySubscriptions _ _ | .createOutboxEvent _ => False
  | _ => True

theorem Statement.writes_of_plain {statement : Statement} (h : statement.Plain) {env : Env}
    {result : statement.Answer} {new : List Write} (hEval : statement.eval env db = .ok (result, new)) :
    ∀ write ∈ new, write.transaction? = none ∧ write.subscription? = none ∧ write.outbox? = none := by
  cases statement with
  | createTransaction data => exact absurd h id
  | updateTransaction key data => exact absurd h id
  | updateManyTransactions matching data => exact absurd h id
  | createSubscription data => exact absurd h id
  | updateManySubscriptions matching data => exact absurd h id
  | createOutboxEvent data => exact absurd h id
  | createRefund data =>
      cases hEval
      exact List.forall_mem_singleton.mpr ⟨rfl, rfl, rfl⟩
  | updateRefund id data =>
      unfold Statement.eval at hEval
      cases hRow : db.refunds.get? id with
      | none =>
          simp only [hRow] at hEval
          cases hEval
      | some row =>
          simp only [hRow] at hEval
          cases hEval
          exact List.forall_mem_singleton.mpr ⟨rfl, rfl, rfl⟩
  | createInvoice data =>
      cases hEval
      exact List.forall_mem_singleton.mpr ⟨rfl, rfl, rfl⟩
  | updateInvoice id data =>
      unfold Statement.eval at hEval
      cases hRow : db.invoices.get? id with
      | none =>
          simp only [hRow] at hEval
          cases hEval
      | some row =>
          simp only [hRow] at hEval
          cases hEval
          exact List.forall_mem_singleton.mpr ⟨rfl, rfl, rfl⟩
  | updateManyInvoices matching data =>
      cases hEval
      intro write hWrite
      obtain ⟨row, _, rfl⟩ := List.mem_map.mp hWrite
      exact ⟨rfl, rfl, rfl⟩
  | _ =>
      cases hEval
      exact fun write hWrite => absurd hWrite List.not_mem_nil

def TransactionKey.Matches (row : PaymentTransaction) : TransactionKey → Prop
  | .id value => row.id = value
  | .razorpayOrderId value => row.razorpayOrderId = value
  | .razorpayPaymentId value => row.razorpayPaymentId = some value

theorem findTransaction_matches {key : TransactionKey} {row : PaymentTransaction}
    (h : db.findTransaction key = some row) : key.Matches row := by
  cases key with
  | id id => exact (Table.get?_eq_some.mp h).2
  | razorpayOrderId value => exact Database.findTransaction_orderId h
  | razorpayPaymentId value => exact (Table.lookup_mem h).2

section Statements

variable {config : Config} {kind : Call → Prop} {announced : CreateOutboxEventInput → Prop}
variable {world : World}

theorem sound_ret {request : RepositoryCall} {value : request.Answer} (h : Commit { config, kind, announced } world.db writes)
    (hDone : Commitment.Fulfilled { config, kind, announced } writes)
    (hValue : ∀ world, ReadsKnown (.repository request) world value) :
    MethodSound (commitContract config kind) request (.ret value) writes world :=
  fun _ hRely _ => ⟨⟨announced, h.later hRely.2, hDone⟩, fun committed _ => hValue committed⟩

/-- A statement whose rows the contract says nothing about. -/
theorem sound_plain (request : RepositoryCall) {statement : Statement} {next : statement.Answer → Repository request.Answer}
    (h : Commit { config, kind, announced } world.db writes) (hPlain : statement.Plain)
    (hNext : ∀ later answer new, world.db.Extends later.db →
      Commit { config, kind, announced } later.db (writes ++ new) →
        MethodSound (commitContract config kind) request (next answer) (writes ++ new) later) :
    MethodSound (commitContract config kind) request (query statement >>= next) writes world := by
  refine Contract.Sound.call_bind fun env later view hRely _ _ answer new hEval => ?_
  have hNew := Statement.writes_of_plain hPlain hEval
  refine hNext later answer new hRely.1 ((h.later hRely.2).append ?_ ?_ ?_)
  · exact fun row hRow => absurd (hNew _ hRow).1 (Option.some_ne_none row)
  · exact fun row hRow => absurd (hNew _ hRow).2.1 (Option.some_ne_none row)
  · exact fun event hEvent => absurd (hNew _ hEvent).2.2 (Option.some_ne_none event)

/-- An update of one transaction, from the row that the transaction can see. -/
theorem sound_update (request : RepositoryCall) {key : TransactionKey} {data : PaymentTransaction → PaymentTransaction}
    {next : PaymentTransaction → Repository request.Answer}
    (h : Commit { config, kind, announced } world.db writes)
    (hData : ∀ db row, world.db.Extends db → TransactionWrite { config, kind, announced } db row →
      key.Matches row → TransactionWrite { config, kind, announced } db (data row))
    (hNext : ∀ later row, world.db.Extends later.db →
      Commit { config, kind, announced } later.db (writes ++ [.transaction row]) →
        MethodSound (commitContract config kind) request (next row) (writes ++ [.transaction row]) later) :
    MethodSound (commitContract config kind) request (query (.updateTransaction key data) >>= next) writes world := by
  refine Contract.Sound.call_bind fun env later view hRely _ hView answer new hEval => ?_
  have hLater := h.later hRely.2
  cases hRow : view.db.findTransaction key with
  | none =>
      cases (eval_updateTransaction_missing hRow data).symm.trans hEval
  | some row =>
      cases (eval_updateTransaction hRow data).symm.trans hEval
      have hSeen := hLater.view_row (written_of_view hView) (Database.findTransaction_mem hRow)
      exact hNext later (data row) hRely.1
        (hLater.append_transaction (hData later.db row hRely.1 hSeen (findTransaction_matches hRow)))

/-- The insert of a promised event. -/
theorem sound_createEvent (request : RepositoryCall) {data : CreateOutboxEventInput} {next : OutboxEvent → Repository request.Answer}
    (h : Commit { config, kind, announced } world.db writes) (hData : data.Produced)
    (hNext : ∀ later event, event.data = data →
      Commit { config, kind, announced } later.db (writes ++ [.outbox event]) →
        MethodSound (commitContract config kind) request (next event) (writes ++ [.outbox event]) later) :
    MethodSound (commitContract config kind) request (query (.createOutboxEvent data) >>= next) writes world := by
  refine Contract.Sound.call_bind fun env later view hRely _ hView answer new hEval => ?_
  cases hEval
  exact hNext later _ rfl ((h.later hRely.2).append_event (written_of_view hView) hData)

end Statements

end SpotqPayment
