import SpotqPayment.System.Invariants

/-! A restaurant holds one live subscription as long as no payment activates a
second one: only the creation of an order asks for an active subscription, and
orders that were open before are activated without asking again. -/
namespace SpotqPayment

open Transition SubscriptionRepository

/-- At most one subscription of a restaurant is ACTIVE and runs until `t`. -/
def Database.LiveOnce (db : Database) (t : Instant) : Prop :=
  ∀ restaurantId, ∀ first ∈ db.subscriptions.rows, ∀ second ∈ db.subscriptions.rows,
    first.restaurantId = restaurantId → second.restaurantId = restaurantId →
      first.status = .active ∧ t ≤ first.currentPeriodEnd →
        second.status = .active ∧ t ≤ second.currentPeriodEnd → first.id = second.id

/-- The call activates no period that runs until `t` for a restaurant with an
active subscription that does so too. -/
def ActivatesOnce (t : Instant) (config : Config) (world : World) (request : Request) : Prop :=
  ∀ tx plan paymentId signature,
    Buys config world.db request.env request.call tx plan paymentId signature →
      t ≤ plan.calculatePeriodEnd request.env.now →
        ∀ subscription ∈ world.db.subscriptions.rows, subscription.restaurantId = tx.restaurantId →
          subscription.status = .active → subscription.currentPeriodEnd < t

variable {config : Config} {db written : Database} {env : Env} {world : World} {tx : PaymentTransaction}

/-- The subscription that an activation opens. -/
def openedSubscription (db : Database) (env : Env) (tx : PaymentTransaction) (plan : SubscriptionPlan) :
    Subscription :=
  db.subscriptionRow env {
    restaurantId := tx.restaurantId
    planId := plan.id
    status := .active
    currentPeriodStart := env.now
    currentPeriodEnd := plan.calculatePeriodEnd env.now }

/-- A live subscription was there before the call or is opened by it. -/
theorem active_before {call : Call} {writes : List Write} (hEffect : Effect config db env call writes)
    (hWritten : db.writeAll writes = some written) {row : Subscription}
    (hRow : row ∈ written.subscriptions.rows) (hStatus : row.status = .active) :
    row ∈ db.subscriptions.rows ∨ ∃ tx plan paymentId signature,
      Buys config db env call tx plan paymentId signature ∧ row = openedSubscription db env tx plan ∧
        written.subscriptions.rows = db.subscriptions.rows ++ [row] := by
  have hTables := Database.written_of_writeAll hWritten
  rcases Table.mem_of_putAll hTables.subscriptions hRow with hOld | hNew
  · exact Or.inl hOld
  rcases hEffect.purchase with ⟨hNone, _⟩ | ⟨_, hExpired⟩ | ⟨tx, plan, paymentId, signature, hActivates, hOpen, rfl⟩
  · rw [hNone] at hNew
    cases hNew
  · rw [hExpired row hNew] at hStatus
    cases hStatus
  · obtain ⟨hFree, hReady⟩ := (activationWrites_accepted hActivates.mem _).mp ⟨written, hWritten⟩
    have hTable := hTables.subscriptions
    rw [activationWrites_subscription?] at hNew hTable
    rw [Table.putAll_singleton] at hTable
    rw [List.mem_singleton] at hNew
    refine Or.inr ⟨tx, plan, paymentId, signature, ⟨hActivates, hOpen, hFree, hReady⟩, hNew, ?_⟩
    rw [Table.rows_put_fresh hTable Table.get?_freshKey, hNew]

/-- A permitted activation meets no other live subscription of the restaurant. -/
theorem ActivatesOnce.apart {t : Instant} {request : Request} (hOnce : ActivatesOnce t config world request)
    {plan : SubscriptionPlan} {paymentId signature : String}
    (hBuys : Buys config world.db request.env request.call tx plan paymentId signature)
    {old : Subscription} (hOld : old ∈ world.db.subscriptions.rows)
    (hRestaurant : old.restaurantId = (openedSubscription world.db request.env tx plan).restaurantId)
    (hLive : old.status = .active ∧ t ≤ old.currentPeriodEnd)
    (hOpened : t ≤ (openedSubscription world.db request.env tx plan).currentPeriodEnd) : False := by
  have hEnded := hOnce tx plan paymentId signature hBuys hOpened old hOld hRestaurant hLive.1
  exact absurd hEnded (not_lt.mpr hLive.2)

theorem liveOnce_step {t : Instant} (hLinked : world.db.RefundsLinked) (hLive : world.db.LiveOnce t)
    (request : Request) (hOnce : ActivatesOnce t config world request) :
    (serve config world request).db.LiveOnce t := by
  obtain ⟨writes, hEffect, hStore⟩ := @serve_effect config world hLinked request
  rw [hStore]
  rcases world.db.store_cases writes with ⟨_, hSame⟩ | ⟨written, hWritten, hStored⟩
  · rw [hSame]
    exact hLive
  rw [hStored]
  intro restaurantId first hFirst second hSecond hFirstOwner hSecondOwner hFirstLive hSecondLive
  have hOwner : first.restaurantId = second.restaurantId := hFirstOwner.trans hSecondOwner.symm
  rcases active_before hEffect hWritten hFirst hFirstLive.1 with
    hOldFirst | ⟨tx, plan, paymentId, signature, hBuys, rfl, hRows⟩
  · rcases active_before hEffect hWritten hSecond hSecondLive.1 with
      hOldSecond | ⟨tx, plan, paymentId, signature, hBuys, rfl, _⟩
    · exact hLive restaurantId first hOldFirst second hOldSecond hFirstOwner hSecondOwner hFirstLive hSecondLive
    · exact absurd (hOnce.apart hBuys hOldFirst hOwner hFirstLive hSecondLive.2) id
  · rw [hRows, List.mem_append, List.mem_singleton] at hSecond
    rcases hSecond with hOldSecond | hSame
    · exact absurd (hOnce.apart hBuys hOldSecond hOwner.symm hSecondLive hFirstLive.2) id
    · rw [hSame]

/-- An activation after which the restaurant has one live subscription was permitted. -/
theorem activatesOnce_of_next {t : Instant} (request : Request)
    (hAfter : (serve config world request).db.LiveOnce t) : ActivatesOnce t config world request := by
  intro tx plan paymentId signature hBuys hEnd old hOld hOwner hActive
  by_contra hRuns
  obtain ⟨written, hWritten⟩ := hBuys.accepted
  have hServe : (serve config world request).db = written := by
    rw [show request = { call := request.call, env := request.env } from rfl,
      serve_of_activates hBuys.activates hBuys.open_]
    exact Database.store_of_writeAll hWritten
  have hTable := (Database.written_of_writeAll hWritten).subscriptions
  rw [activationWrites_subscription?, Table.putAll_singleton] at hTable
  have hRows := Table.rows_put_fresh hTable Table.get?_freshKey
  rw [hServe] at hAfter
  have hSame := hAfter tx.restaurantId old (by rw [hRows]; exact List.mem_append_left _ hOld)
    (openedSubscription world.db request.env tx plan) (by rw [hRows]; exact List.mem_append_right _ List.mem_cons_self)
    hOwner rfl ⟨hActive, not_lt.mp hRuns⟩ ⟨rfl, hEnd⟩
  exact absurd hSame (Nat.ne_of_lt (Table.key_lt_freshKey hOld))

/-- For every instant, a restaurant has at most one live subscription in exactly
those runs in which no call activates a second one that lives then. -/
theorem liveOnce_iff (config : Config) (plans : Table SubscriptionPlan) (requests : List Request)
    (t : Instant) :
    Always (serve config) (World.initial plans) requests (fun world => world.db.LiveOnce t) ↔
      EveryStep (serve config) (World.initial plans) requests (ActivatesOnce t config) :=
  always_iff_everyStep (fun world : World => world.db.RefundsLinked ∧ world.db.LiveOnce t) (fun _ h => h.2)
    (fun _ request h hOnce => ⟨serve_refundsLinked request h.1, liveOnce_step h.1 h.2 request hOnce⟩)
    (fun _ request _ hAfter => activatesOnce_of_next request hAfter) requests
    ⟨refundsLinked_initial plans, fun _ _ hFirst => absurd hFirst List.not_mem_nil⟩

/-- Two orders for different plans are open together, and both are paid. -/
def twoOpenOrders : List Request :=
  [Sample.createSubscriptionOrder 1000 5 "order_1", Sample.createSubscriptionOrder 2000 6 "order_2",
    Sample.verifyPayment 3000 "order_1" "pay_1", Sample.verifyPayment 4000 "order_2" "pay_2"]

theorem liveOnce_fails :
    ¬ ∀ config plans requests t,
      Always (serve config) (World.initial plans) requests fun world => world.db.LiveOnce t := by
  intro h
  have hLive := h Sample.config Sample.plans twoOpenOrders 5000 twoOpenOrders List.prefix_rfl 21
  exact absurd hLive (by decide)

end SpotqPayment
