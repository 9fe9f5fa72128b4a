import SpotqPayment.System.Invariants

/-! A payment buys one subscription period as long as no call activates a
transaction that is linked to a subscription already: the guards ask for SUCCESS
together with the link, and a refund takes the SUCCESS away. -/
namespace SpotqPayment

open Transition PaymentTransactionRepository SubscriptionRepository

/-- The gateway order whose payment a call reports. -/
def Call.paidOrder : Call → Option String
  | .verifyPayment input => some input.razorpayOrderId
  | .handleWebhook input => input.parsedPayload.successOrderId
  | _ => none

/-- The call reports a payment of the transaction. -/
def Call.concerns (call : Call) (db : Database) (id : Uuid) : Bool :=
  (call.paidOrder.bind fun orderId => db.findTransaction (.razorpayOrderId orderId)).any (·.id = id)

def Database.activationEvents (db : Database) : Nat :=
  (db.outbox.rows.filter fun event => event.eventType = .subscriptionActivated).length

/-- What has been written on account of one transaction so far. -/
structure Tally where
  world : World
  subscriptions : Nat
  events : Nat

/-- A call is booked to the transaction whose payment it reports: the number of
subscription rows and of activation events that it adds. -/
def tally (config : Config) (id : Uuid) (account : Tally) (request : Request) : Tally where
  world := serve config account.world request
  subscriptions := account.subscriptions +
    if request.call.concerns account.world.db id then
      (serve config account.world request).db.subscriptions.rows.length -
        account.world.db.subscriptions.rows.length
    else 0
  events := account.events +
    if request.call.concerns account.world.db id then
      (serve config account.world request).db.activationEvents - account.world.db.activationEvents
    else 0

def Tally.initial (plans : Table SubscriptionPlan) : Tally where
  world := World.initial plans
  subscriptions := 0
  events := 0

/-- Along the run every transaction gets at most one subscription and one event. -/
def OnePurchaseEach (config : Config) (plans : Table SubscriptionPlan) (requests : List Request) : Prop :=
  ∀ id, Always (tally config id) (Tally.initial plans) requests fun account =>
    account.subscriptions ≤ 1 ∧ account.events ≤ 1

/-- The call activates no transaction that has bought a subscription before. -/
def BuysOnce (config : Config) (world : World) (request : Request) : Prop :=
  ∀ tx ∈ world.db.transactions.rows, ∀ plan paymentId signature,
    Buys config world.db request.env request.call tx plan paymentId signature → tx.subscriptionId = none

variable {config : Config} {db written : Database} {env : Env} {world : World} {tx : PaymentTransaction}

theorem Activates.concerns {call : Call} {paymentId signature : String}
    (h : Activates config db call tx paymentId signature) (id : Uuid) :
    call.concerns db id = true ↔ tx.id = id := by
  cases h with
  | verify hAccepted => simp [Call.concerns, Call.paidOrder, hAccepted.found]
  | webhook hReported hPlain =>
      obtain ⟨orderId, hOrder, hFound⟩ := hReported.found
      simp [Call.concerns, Call.paidOrder, hOrder, hFound]

/-- The subscription that a transaction links to, if it is stored and linked. -/
def Database.linkOf (db : Database) (id : Uuid) : Option Uuid :=
  (db.transactions.get? id).bind PaymentTransaction.subscriptionId

/-- Nothing but the activation of a transaction changes its link. -/
theorem Change.link_kept {call : Call} {row : PaymentTransaction} (h : Change config db env call tx row) :
    row.subscriptionId = tx.subscriptionId ∨
      ∃ plan paymentId signature, Buys config db env call tx plan paymentId signature := by
  cases h with
  | captured hCaptures hOpen hFree => exact Or.inl rfl
  | failed hReported hFood hOpen => exact Or.inl rfl
  | markedFailed hReported hPlain hOpen => exact Or.inl rfl
  | activated hActivates hOpen hFree hReady => exact Or.inr ⟨_, _, _, hActivates, hOpen, hFree, hReady⟩
  | refunded hAccepted hAnswer hFresh => exact Or.inl rfl
  | settled hReported hProcessed hRefund => exact Or.inl rfl
  | reset hAccepted hPending hFailed => exact Or.inl rfl

theorem linkOf_kept {call : Call} {id : Uuid} (hOutcome : Outcome config db env call written)
    (hIdle : ∀ tx ∈ db.transactions.rows, tx.id = id → ∀ plan paymentId signature,
      ¬ Buys config db env call tx plan paymentId signature) :
    written.linkOf id = db.linkOf id := by
  unfold Database.linkOf
  cases hOutcome with
  | same hSame => rw [hSame]
  | opened data _ hOpened =>
      rw [hOpened]
      split
      · next hId =>
          have hNone : db.transactions.get? id = none := hId ▸ Table.get?_freshKey
          rw [hNone]
          rfl
      · rfl
  | changed tx row hTx hChange hId hChanged =>
      rw [hChanged]
      split
      · next hSame =>
          have hGet : db.transactions.get? id = some tx := hSame ▸ Table.get?_key hTx
          rw [hGet]
          rcases hChange.link_kept with hKept | ⟨plan, paymentId, signature, hBuys⟩
          · exact hKept
          · exact absurd hBuys (hIdle tx hTx hSame plan paymentId signature)
      · rfl

variable {account : Tally} {id : Uuid} {request : Request}

theorem activationEvents_le {writes : List Write} (h : db.Written writes written)
    (hOther : ∀ event ∈ writes.filterMap Write.outbox?, event.eventType ≠ .subscriptionActivated) :
    written.activationEvents ≤ db.activationEvents :=
  Table.filter_putAll_le h.outbox fun event hEvent => decide_eq_false (hOther event hEvent)

theorem tally_booked (h : request.call.concerns account.world.db id = true) :
    (tally config id account request).subscriptions = account.subscriptions +
        ((serve config account.world request).db.subscriptions.rows.length -
          account.world.db.subscriptions.rows.length) ∧
      (tally config id account request).events = account.events +
        ((serve config account.world request).db.activationEvents - account.world.db.activationEvents) := by
  unfold tally
  rw [if_pos h, if_pos h]
  exact ⟨rfl, rfl⟩

theorem tally_unbooked (h : ¬ request.call.concerns account.world.db id = true) :
    (tally config id account request).subscriptions = account.subscriptions ∧
      (tally config id account request).events = account.events := by
  unfold tally
  rw [if_neg h, if_neg h]
  exact ⟨rfl, rfl⟩

/-- A call that buys nothing for the transaction adds nothing to its account. -/
theorem tally_idle (hLinked : account.world.db.RefundsLinked)
    (hIdle : ∀ tx ∈ account.world.db.transactions.rows, tx.id = id → ∀ plan paymentId signature,
      ¬ Buys config account.world.db request.env request.call tx plan paymentId signature) :
    (tally config id account request).subscriptions = account.subscriptions ∧
      (tally config id account request).events = account.events ∧
      (tally config id account request).world.db.linkOf id = account.world.db.linkOf id := by
  have hLink := linkOf_kept (@serve_outcome config account.world hLinked request) hIdle
  obtain ⟨writes, hEffect, hStore⟩ := @serve_effect config account.world hLinked request
  by_cases hConcerns : request.call.concerns account.world.db id = true
  · obtain ⟨hSubscriptions, hEvents⟩ := @tally_booked config account id request hConcerns
    rw [hSubscriptions, hEvents]
    refine and_assoc.mp ⟨?_, hLink⟩
    rw [hStore]
    rcases account.world.db.store_cases writes with ⟨_, hSame⟩ | ⟨written, hWritten, hStored⟩
    · rw [hSame, Nat.sub_self, Nat.sub_self]
      exact ⟨rfl, rfl⟩
    have hTables := Database.written_of_writeAll hWritten
    rw [hStored]
    rcases hEffect.purchase with ⟨hNone, hOther⟩ | ⟨hExpire, _⟩ | ⟨tx, plan, paymentId, signature, hActivates, hOpen, rfl⟩
    · have hCount := activationEvents_le hTables hOther
      have hTable := hTables.subscriptions
      rw [hNone] at hTable
      rw [← Option.some.inj hTable, Nat.sub_self, Nat.sub_eq_zero_of_le hCount]
      exact ⟨rfl, rfl⟩
    · rw [hExpire] at hConcerns
      cases hConcerns
    · obtain ⟨hFree, hReady⟩ := (activationWrites_accepted hActivates.mem _).mp ⟨written, hWritten⟩
      exact absurd ⟨hActivates, hOpen, hFree, hReady⟩
        (hIdle tx hActivates.mem ((hActivates.concerns id).mp hConcerns) plan paymentId signature)
  · obtain ⟨hSubscriptions, hEvents⟩ := @tally_unbooked config account id request hConcerns
    exact ⟨hSubscriptions, hEvents, hLink⟩

/-- An activation adds one subscription row and one activation event. -/
theorem activation_adds {plan : SubscriptionPlan} {paymentId signature : String}
    (hWritten : db.writeAll (activationWrites db env tx
      (activationParams tx plan paymentId signature env.now)) = some written) :
    written.subscriptions.rows.length = db.subscriptions.rows.length + 1 ∧
      written.activationEvents = db.activationEvents + 1 := by
  have hTables := Database.written_of_writeAll hWritten
  have hSubscriptions := hTables.subscriptions
  have hOutbox := hTables.outbox
  rw [activationWrites_subscription?, Table.putAll_singleton] at hSubscriptions
  rw [activationWrites_outbox?, Table.putAll_singleton] at hOutbox
  constructor
  · rw [Table.rows_put_fresh hSubscriptions Table.get?_freshKey, List.length_append, List.length_singleton]
  · unfold Database.activationEvents
    rw [Table.rows_put_fresh hOutbox Table.get?_freshKey, List.filter_append, List.length_append]
    rfl

/-- A call that buys a period for the transaction adds one of each. -/
theorem tally_buys {plan : SubscriptionPlan} {paymentId signature : String} (hId : tx.id = id)
    (hBuys : Buys config account.world.db request.env request.call tx plan paymentId signature) :
    (tally config id account request).subscriptions = account.subscriptions + 1 ∧
      (tally config id account request).events = account.events + 1 ∧
      (tally config id account request).world.db.linkOf id ≠ none := by
  obtain ⟨written, hWritten⟩ := hBuys.accepted
  have hServe : (serve config account.world request).db = written := by
    rw [show request = { call := request.call, env := request.env } from rfl,
      serve_of_activates hBuys.activates hBuys.open_]
    exact Database.store_of_writeAll hWritten
  have hConcerns := (hBuys.activates.concerns id).mpr hId
  obtain ⟨hRows, hEvents⟩ := activation_adds hWritten
  have hBooked := @tally_booked config account id request hConcerns
  rw [hServe, hRows, hEvents] at hBooked
  refine ⟨by omega, by omega, ?_⟩
  show (serve config account.world request).db.linkOf id ≠ none
  rw [hServe]
  rw [Database.linkOf, get?_activated hWritten, if_pos hId]
  exact nofun

/-- The account is empty exactly when the transaction has no link yet. -/
structure Tally.Balanced (account : Tally) (id : Uuid) : Prop where
  linked : account.world.db.RefundsLinked
  events : account.events = account.subscriptions
  link : account.subscriptions = 0 ↔ account.world.db.linkOf id = none
  once : account.subscriptions ≤ 1

/-- The call does not buy a period for this transaction a second time. -/
def BuysOnceFor (config : Config) (id : Uuid) (world : World) (request : Request) : Prop :=
  ∀ tx ∈ world.db.transactions.rows, tx.id = id → ∀ plan paymentId signature,
    Buys config world.db request.env request.call tx plan paymentId signature → tx.subscriptionId = none

theorem linkOf_mem (hTx : tx ∈ db.transactions.rows) : db.linkOf tx.id = tx.subscriptionId := by
  have hGet : db.transactions.get? tx.id = some tx := Table.get?_key hTx
  rw [Database.linkOf, hGet]
  rfl

theorem balanced_step (hBalanced : account.Balanced id) (hOnce : BuysOnceFor config id account.world request) :
    (tally config id account request).Balanced id := by
  have hLinked : (tally config id account request).world.db.RefundsLinked :=
    serve_refundsLinked request hBalanced.linked
  by_cases hBuys : ∃ tx ∈ account.world.db.transactions.rows, tx.id = id ∧ ∃ plan paymentId signature,
      Buys config account.world.db request.env request.call tx plan paymentId signature
  · obtain ⟨tx, hTx, hId, plan, paymentId, signature, hBuys⟩ := hBuys
    obtain ⟨hSubscriptions, hEvents, hLink⟩ := @tally_buys config tx account id request plan paymentId signature hId hBuys
    have hUnlinked := hOnce tx hTx hId plan paymentId signature hBuys
    have hZero : account.subscriptions = 0 := hBalanced.link.mpr (by rw [← hId, linkOf_mem hTx, hUnlinked])
    have hSame := hBalanced.events
    refine ⟨hLinked, by omega, ⟨fun h => ?_, fun h => absurd h hLink⟩, by omega⟩
    omega
  · obtain ⟨hSubscriptions, hEvents, hLink⟩ := tally_idle hBalanced.linked
      fun tx hTx hId plan paymentId signature h => hBuys ⟨tx, hTx, hId, plan, paymentId, signature, h⟩
    have hSame := hBalanced.events
    have hOnceBefore := hBalanced.once
    refine ⟨hLinked, by omega, ?_, by omega⟩
    rw [hSubscriptions, hLink]
    exact hBalanced.link

theorem buysOnceFor_of_next (hBalanced : account.Balanced id)
    (hNext : (tally config id account request).subscriptions ≤ 1) :
    BuysOnceFor config id account.world request := by
  intro tx hTx hId plan paymentId signature hBuys
  obtain ⟨hSubscriptions, _, _⟩ := @tally_buys config tx account id request plan paymentId signature hId hBuys
  have hZero : account.subscriptions = 0 := by omega
  have hLink := hBalanced.link.mp hZero
  rwa [← hId, linkOf_mem hTx] at hLink

theorem balanced_initial (plans : Table SubscriptionPlan) : (Tally.initial plans).Balanced id :=
  ⟨refundsLinked_initial plans, rfl, ⟨fun _ => rfl, fun _ => rfl⟩, Nat.zero_le 1⟩

/-- Every payment buys at most one period in exactly those runs in which no call
activates a transaction that is linked to a subscription already. -/
theorem onePurchaseEach_iff (config : Config) (plans : Table SubscriptionPlan) (requests : List Request) :
    OnePurchaseEach config plans requests ↔
      EveryStep (serve config) (World.initial plans) requests (BuysOnce config) := by
  have hEach (id : Uuid) :
      (Always (tally config id) (Tally.initial plans) requests fun account =>
        account.subscriptions ≤ 1 ∧ account.events ≤ 1) ↔
      EveryStep (serve config) (World.initial plans) requests (BuysOnceFor config id) := by
    rw [always_iff_everyStep (fun account => account.Balanced id)
      (fun account h => ⟨h.once, h.events ▸ h.once⟩) (fun account request => balanced_step)
      (fun account request h hNext => buysOnceFor_of_next h hNext.1) requests (balanced_initial plans)]
    exact everyStep_map Tally.world (fun _ _ => rfl)
  unfold OnePurchaseEach
  rw [forall_congr' hEach]
  constructor
  · intro h past request hStep tx hTx plan paymentId signature hBuys
    exact h tx.id past request hStep tx hTx rfl plan paymentId signature hBuys
  · intro h id past request hStep tx hTx _ plan paymentId signature hBuys
    exact h past request hStep tx hTx plan paymentId signature hBuys

/-- A subscription is bought, its payment is refunded at the gateway, and then
the verification of the payment is repeated. -/
def repeatedVerification : List Request :=
  [Sample.createSubscriptionOrder 1000 5 "order_1", Sample.verifyPayment 2000 "order_1" "pay_1",
    Sample.refundProcessed 3000, Sample.verifyPayment 4000 "order_1" "pay_1"]

/-- The repeated call opens a second subscription for the refunded payment. -/
theorem onePurchaseEach_fails :
    ¬ ∀ config plans requests, OnePurchaseEach config plans requests := by
  intro h
  have hOnce := h Sample.config Sample.plans repeatedVerification 0 repeatedVerification List.prefix_rfl
  exact absurd hOnce (by decide)

end SpotqPayment
