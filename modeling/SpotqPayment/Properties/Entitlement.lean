import SpotqPayment.Application.SubscriptionStatus
import SpotqPayment.Properties.FailedCalls
import SpotqPayment.Properties.PaymentKinds

/-! Whether a restaurant is subscribed depends on its periods alone. A subscription that
has run out may still be ACTIVE until the next expiry, and one that is EXPIRED may still
be found by an older reading of the clock; neither changes what the restaurant is told. -/
namespace SpotqPayment

open Process Transition ReadCommitted

/-- The period of some subscription of the restaurant has begun and has not run out. -/
def Database.Entitled (db : Database) (restaurantId : Uuid) (now : Instant) : Prop :=
  ∃ subscription ∈ db.subscriptions.rows, subscription.restaurantId = restaurantId ∧
    subscription.currentPeriodStart ≤ now ∧ now ≤ subscription.currentPeriodEnd

instance (db : Database) (restaurantId : Uuid) (now : Instant) : Decidable (db.Entitled restaurantId now) :=
  inferInstanceAs (Decidable (∃ subscription ∈ db.subscriptions.rows, subscription.restaurantId = restaurantId ∧
    subscription.currentPeriodStart ≤ now ∧ now ≤ subscription.currentPeriodEnd))

/-- The subscription that `findActiveByRestaurantId` returns. -/
def activeSubscription (db : Database) (env : Env) (restaurantId : Uuid) : Option Subscription :=
  db.subscriptions.findFirst env.tie Subscription.currentPeriodEnd fun subscription =>
    subscription.restaurantId = restaurantId && subscription.status = .active && env.now ≤ subscription.currentPeriodEnd

section Search

variable {db : Database} {env : Env} {now : Instant} {restaurantId : Uuid} {row : Subscription}

/-- By the clock of all calls only subscriptions of the past have expired. -/
theorem active_of_current (hTimely : row.Timely (· ≤ now)) (hCurrent : now ≤ row.currentPeriodEnd) :
    row.status = .active := by
  rcases hTimely with hActive | ⟨_, expiredAt, hClock, hEnd⟩
  · exact hActive
  · exact absurd hCurrent (not_le.mpr (lt_of_lt_of_le hEnd hClock))

theorem matches_of_current (hTimely : row.Timely (· ≤ now)) (hRead : env.now ≤ now)
    (hRestaurant : row.restaurantId = restaurantId) (hCurrent : now ≤ row.currentPeriodEnd) :
    (row.restaurantId = restaurantId && row.status = .active && env.now ≤ row.currentPeriodEnd : Bool) = true := by
  have hActive := active_of_current hTimely hCurrent
  have hSeen : env.now ≤ row.currentPeriodEnd := le_trans hRead hCurrent
  simp [hRestaurant, hActive, hSeen]

variable (hBegun : ∀ row ∈ db.subscriptions.rows, row.Begun (· ≤ now)) (hRead : env.now ≤ now)

include hBegun hRead

/-- The search and the second look of the entity find out the entitlement. -/
theorem activeSubscription_any :
    (activeSubscription db env restaurantId).any (·.isActive now) = true ↔ db.Entitled restaurantId now := by
  constructor
  · intro hAny
    obtain ⟨row, hFound, hActive⟩ := (Option.any_eq_true _ _).mp hAny
    obtain ⟨hRow, hMatch, _⟩ := Table.findFirst_some hFound
    simp only [Bool.and_eq_true, decide_eq_true_eq] at hMatch
    exact ⟨row, hRow, hMatch.1.1, (hBegun row hRow).1, of_decide_eq_true (Bool.and_eq_true_iff.mp hActive).2⟩
  · rintro ⟨row, hRow, hRestaurant, _, hCurrent⟩
    have hMatch := matches_of_current (hBegun row hRow).2 hRead hRestaurant hCurrent
    cases hFound : activeSubscription db env restaurantId with
    | none =>
        have hNone := Table.findFirst_eq_none.mp hFound row hRow
        rw [hMatch] at hNone
        cases hNone
    | some best =>
        obtain ⟨_, hBest, hMax⟩ := Table.findFirst_some hFound
        simp only [Bool.and_eq_true, decide_eq_true_eq] at hBest
        have hLast : now ≤ best.currentPeriodEnd := le_trans hCurrent (hMax row hRow hMatch)
        simp [Subscription.isActive, hBest.1.2, hLast]

/-- The subscription that is found is the last one to run out. -/
theorem activeSubscription_latest (hFound : activeSubscription db env restaurantId = some row)
    (hActive : row.isActive now = true) {other : Subscription} (hOther : other ∈ db.subscriptions.rows)
    (hRestaurant : other.restaurantId = restaurantId) : other.currentPeriodEnd ≤ row.currentPeriodEnd := by
  obtain ⟨_, _, hMax⟩ := Table.findFirst_some hFound
  have hEnd : now ≤ row.currentPeriodEnd := of_decide_eq_true (Bool.and_eq_true_iff.mp hActive).2
  by_cases hCurrent : now ≤ other.currentPeriodEnd
  · exact hMax other hOther (matches_of_current (hBegun other hOther).2 hRead hRestaurant hCurrent)
  · exact le_trans (le_of_lt (not_le.mp hCurrent)) hEnd

end Search

section Answers

variable {env : Env} {now : Instant} {world : World} {restaurantId : Uuid}

theorem perform_activeSubscription :
    Port.perform env (.repository (.findActiveByRestaurantId restaurantId)) world =
      (.ok (activeSubscription world.db env restaurantId), world) := rfl

theorem exec_status_inactive (h : (activeSubscription world.db env restaurantId).any (·.isActive now) = false) :
    exec (Port.perform env) (getSubscriptionStatus (some restaurantId) now) world =
      (.ok SubscriptionStatusMapper.toInactiveResponse, world) := by
  unfold getSubscriptionStatus
  simp only
  rw [exec_call_bind, perform_activeSubscription]
  cases hFound : activeSubscription world.db env restaurantId with
  | none => rfl
  | some row =>
      rw [hFound] at h
      simp only [show row.isActive now = false from h, if_true]
      rfl

theorem exec_status_active {row : Subscription} (hFound : activeSubscription world.db env restaurantId = some row)
    (hActive : row.isActive now = true) :
    exec (Port.perform env) (getSubscriptionStatus (some restaurantId) now) world =
      (.ok (SubscriptionStatusMapper.toActiveResponse row (world.db.plans.get? row.planId)), world) := by
  unfold getSubscriptionStatus
  simp only
  rw [exec_call_bind, perform_activeSubscription, hFound]
  simp only [hActive, Bool.true_eq_false, if_false]
  rw [exec_call_bind, perform_findPlanById]
  rfl

variable {config : Config} {input : CreateSubscriptionOrderInput} {plan : SubscriptionPlan} {invoiceNumber : String}

/-- An order for a plan on sale is refused because of the active subscription, and of nothing else. -/
theorem exec_order_refused_iff (hRestaurant : input.restaurantId = some restaurantId)
    (hPlan : world.db.plans.get? input.planId = some plan) (hOnSale : plan.isActive = true) :
    (exec (Port.perform env) (createSubscriptionOrder config input invoiceNumber now) world).1 =
        .error .activeSubscriptionAlreadyExists ↔
      (activeSubscription world.db env restaurantId).any (·.isActive now) = true := by
  unfold createSubscriptionOrder
  simp only [hRestaurant]
  rw [exec_call_bind, perform_findPlanById, hPlan]
  simp only [hOnSale, Bool.true_eq_false, if_false]
  rw [exec_call_bind, perform_activeSubscription]
  simp only
  split
  · next hAny => exact iff_of_true rfl hAny
  · next hNone =>
      refine iff_of_false (fun hError => ?_) hNone
      have hOps : ∀ (port : Port) later error, (Port.perform env port later).1 = .error error → port.Fails error :=
        fun _ _ _ hFailed => fails_of_perform hFailed
      have hFailing : Failing [] (reuseOrOpenOrder config restaurantId plan invoiceNumber now) :=
        failing_reuseOrOpenOrder restaurantId plan invoiceNumber
      rcases Raises.of_exec hOps hFailing hError with hTechnical | hListed
      · cases hTechnical
      · cases hListed

end Answers

section Runs

variable {kind : Call → Prop}

/-- In every state that calls with clocks up to `now` lead to. -/
theorem begun_reached (config : Config) (plans : Table SubscriptionPlan) (moves : List (DeploymentMove kind)) (now : Instant)
    (hMoves : ∀ move ∈ moves, move.Starts fun request => request.env.now ≤ now) :
    ∀ row ∈ (run (Deployment.next config) (World.initial plans).deployed moves).sessions.shared.db.subscriptions.rows,
      row.Begun (· ≤ now) := by
  intro row hRow
  obtain ⟨hKept, _⟩ := integrity_run config (· ≤ now) plans moves [] (by rwa [List.append_nil])
  exact hKept.proper (.subscription row.id) (.subscription row) (Database.row_subscription hRow)

/-- In every run, with an expiry that has come, is under way or is still to come, the
status of a restaurant is active exactly while a period of it lasts, and the
subscription that is shown is the last one to run out. -/
theorem status_tells_entitlement (config : Config) (kind : Call → Prop) (plans : Table SubscriptionPlan)
    (moves : List (DeploymentMove kind)) (now : Instant)
    (hMoves : ∀ move ∈ moves, move.Starts fun request => request.env.now ≤ now) (env : Env) (hRead : env.now ≤ now)
    (restaurantId : Uuid) :
    let world := (run (Deployment.next config) (World.initial plans).deployed moves).sessions.shared
    ∃ output, exec (Port.perform env) (getSubscriptionStatus (some restaurantId) now) world = (.ok output, world) ∧
      (output.isSubscriptionActive = true ↔ world.db.Entitled restaurantId now) ∧
        (output.subscription.isSome = output.isSubscriptionActive) ∧
          ∀ summary ∈ output.subscription, ∃ row ∈ world.db.subscriptions.rows, row.id = summary.id ∧
            row.restaurantId = restaurantId ∧ summary.status = .active ∧
              summary.currentPeriodEnd = row.currentPeriodEnd ∧
                ∀ other ∈ world.db.subscriptions.rows, other.restaurantId = restaurantId →
                  other.currentPeriodEnd ≤ row.currentPeriodEnd := by
  intro world
  have hBegun := begun_reached config plans moves now hMoves
  have hAny : (activeSubscription world.db env restaurantId).any (·.isActive now) = true ↔
      world.db.Entitled restaurantId now := activeSubscription_any hBegun hRead
  cases hFound : (activeSubscription world.db env restaurantId).any (·.isActive now) with
  | false =>
      refine ⟨_, exec_status_inactive hFound, ?_, rfl, fun summary hSummary => nomatch hSummary⟩
      rw [← hAny, hFound]
      rfl
  | true =>
      obtain ⟨row, hRow, hActive⟩ := (Option.any_eq_true _ _).mp hFound
      refine ⟨_, exec_status_active hRow hActive, iff_of_true rfl (hAny.mp hFound), rfl, fun summary hSummary => ?_⟩
      cases hSummary
      obtain ⟨hMem, hMatch, _⟩ := Table.findFirst_some hRow
      simp only [Bool.and_eq_true, decide_eq_true_eq] at hMatch
      refine ⟨row, hMem, rfl, hMatch.1.1, hMatch.1.2, rfl, fun other hOther hRestaurant => ?_⟩
      exact activeSubscription_latest hBegun hRead hRow hActive hOther hRestaurant

namespace Sample

/-- The order and the payment of a monthly plan, and an expiry that has just begun. -/
def subscribedMoves : List (DeploymentMove fun _ => True) :=
  let ordered := createSubscriptionOrder 1000 5 "order_1"
  let paid := verifyPayment 2000 "order_1" "pay_1"
  [.service (.start ⟨ordered, trivial⟩)] ++ List.replicate 20 (.service (.advance 0 (.proceed ordered.env))) ++
    [.service (.start ⟨paid, trivial⟩)] ++ List.replicate 20 (.service (.advance 1 (.proceed paid.env))) ++
      [.service (.start ⟨{ call := .expirePastDueSubscriptions, env := env 3000 }, trivial⟩),
        .service (.advance 2 (.proceed (env 3000)))]

theorem subscribedMoves_starts : ∀ move ∈ subscribedMoves, move.Starts fun request => request.env.now ≤ 3000 := by
  intro move hMove
  simp only [subscribedMoves, List.mem_append, List.mem_replicate, List.mem_cons,
    List.not_mem_nil, or_false] at hMove
  rcases hMove with (((rfl | ⟨_, rfl⟩) | rfl) | ⟨_, rfl⟩) | rfl | rfl
  · exact (by decide : (1000 : Int) ≤ 3000)
  · trivial
  · exact (by decide : (2000 : Int) ≤ 3000)
  · trivial
  · exact le_refl (3000 : Int)
  · trivial

def subscribedWorld : World := (run (Deployment.next config) (World.initial plans).deployed subscribedMoves).sessions.shared

theorem subscribedWorld_entitled : subscribedWorld.db.Entitled 21 3000 := by decide +kernel

end Sample

theorem status_tells_entitlement_subscribed :
    ∃ output, exec (Port.perform (Sample.env 3000)) (getSubscriptionStatus (some 21) 3000) Sample.subscribedWorld =
        (.ok output, Sample.subscribedWorld) ∧
      output.isSubscriptionActive = true ∧ output.subscription.isSome = true := by
  obtain ⟨output, hExec, hActive, hShown, _⟩ := status_tells_entitlement Sample.config (fun _ => True) Sample.plans
    Sample.subscribedMoves 3000 Sample.subscribedMoves_starts (Sample.env 3000) (le_refl (3000 : Int)) 21
  have hTrue := hActive.mpr Sample.subscribedWorld_entitled
  exact ⟨output, hExec, hTrue, hShown.trans hTrue⟩

/-- So an order for a plan on sale is refused exactly while a period lasts. -/
theorem order_refused_iff_entitled (config : Config) (kind : Call → Prop) (plans : Table SubscriptionPlan)
    (moves : List (DeploymentMove kind)) (now : Instant)
    (hMoves : ∀ move ∈ moves, move.Starts fun request => request.env.now ≤ now) (env : Env) (hRead : env.now ≤ now)
    (restaurantId planId : Uuid) (invoiceNumber : String) (plan : SubscriptionPlan) :
    let world := (run (Deployment.next config) (World.initial plans).deployed moves).sessions.shared
    world.db.plans.get? planId = some plan → plan.isActive = true →
      ((exec (Port.perform env)
          (createSubscriptionOrder config { restaurantId := some restaurantId, planId } invoiceNumber now) world).1 =
        .error .activeSubscriptionAlreadyExists ↔ world.db.Entitled restaurantId now) := by
  intro world hPlan hOnSale
  rw [exec_order_refused_iff rfl hPlan hOnSale]
  exact activeSubscription_any (begun_reached config plans moves now hMoves) hRead

theorem order_refused_iff_entitled_subscribed :
    (exec (Port.perform (Sample.env 3000))
        (createSubscriptionOrder Sample.config { restaurantId := some 21, planId := 5 } "INV-1000" 3000)
          Sample.subscribedWorld).1 = .error .activeSubscriptionAlreadyExists :=
  (order_refused_iff_entitled Sample.config (fun _ => True) Sample.plans Sample.subscribedMoves 3000
    Sample.subscribedMoves_starts (Sample.env 3000) (le_refl (3000 : Int)) 21 5 "INV-1000" Sample.monthlyPlan
      (by decide +kernel) rfl).mpr Sample.subscribedWorld_entitled

end Runs

end SpotqPayment
