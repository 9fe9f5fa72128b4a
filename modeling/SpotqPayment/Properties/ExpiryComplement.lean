import SpotqPayment.System.Changes

/-! One run of the expiry service and what is active after it. The service asks for
periods that ended before the given instant, the entity and the query for those
that did not. -/
namespace SpotqPayment

open Process Engine PaymentSubscriptionExpiryService

def Subscription.isPastDue (subscription : Subscription) (now : Instant) : Bool :=
  subscription.status = .active && subscription.currentPeriodEnd < now

/-- Every subscription has its plan, as the foreign key demands. -/
def Database.PlansKnown (db : Database) : Prop :=
  ∀ subscription ∈ db.subscriptions.rows, (db.plans.get? subscription.planId).isSome = true

instance (db : Database) : Decidable db.PlansKnown :=
  inferInstanceAs (Decidable (∀ subscription ∈ db.subscriptions.rows, _))

/-- The pending event that says that the subscription has expired. -/
structure OutboxEvent.AnnouncesExpiry (event : OutboxEvent) (plans : Table SubscriptionPlan)
    (subscription : Subscription) (now : Instant) : Prop where
  eventType : event.eventType = .subscriptionExpired
  aggregateId : event.aggregateId = subscription.restaurantId
  payload : ∃ plan, plans.get? subscription.planId = some plan ∧
    event.payload = .subscriptionExpired subscription.id subscription.restaurantId plan.code .expired now
      subscription.currentPeriodEnd now
  status : event.status = .pending

/-- Exactly the past-due rows have become EXPIRED, and for each of them there is one
new event. `stamp` is what the update leaves in `updatedAt`. -/
structure ExpiredExactly (stamp : Subscription → Instant) (now : Instant) (before after : World) (count : Nat) :
    Prop where
  rows : ∀ id, after.db.subscriptions.get? id = (before.db.subscriptions.get? id).map fun row =>
    if row.isPastDue now then { row with status := .expired, updatedAt := stamp row } else row
  events : ∃ events, after.db.outbox.rows = before.db.outbox.rows ++ events ∧
    List.Forall₂ (fun event row => event.AnnouncesExpiry before.db.plans row now) events
      (before.db.subscriptions.rows.filter (·.isPastDue now))
  others : after = { before with db := { before.db with
    subscriptions := after.db.subscriptions, outbox := after.db.outbox } }
  count : count = (before.db.subscriptions.rows.filter (·.isPastDue now)).length

/-- The query for the active subscription of a restaurant may return the row. -/
def FoundActive (world : World) (now : Instant) (row : Subscription) : Prop :=
  ∃ env : Env, env.now = now ∧
    (Port.perform env (.repository (.findActiveByRestaurantId row.restaurantId)) world).1 = .ok (some row)

/-- Of the ACTIVE rows of its restaurant none ends later. -/
def Subscription.EndsLast (row : Subscription) (db : Database) : Prop :=
  ∀ other ∈ db.subscriptions.rows, other.restaurantId = row.restaurantId → other.status = .active →
    other.currentPeriodEnd ≤ row.currentPeriodEnd

/-- ACTIVE means active: to the entity, and to the query up to its choice of the
row that ends last. -/
structure ActiveExactly (now : Instant) (world : World) : Prop where
  entity : ∀ row ∈ world.db.subscriptions.rows, row.status = .active ↔ row.isActive now = true
  query : ∀ row ∈ world.db.subscriptions.rows,
    row.status = .active ∧ row.EndsLast world.db ↔ FoundActive world now row

/-- The environment, except that a statement of some repository calls fails. -/
def Port.failing (env : Env) (error : ServiceError) (fault : RepositoryCall → Option Nat) :
    (port : Port) → World → Except ServiceError port.Answer × World
  | .repository request, world =>
      match fault request with
      | none => Port.perform env (.repository request) world
      | some n =>
          let result := atomically (failingAt error (engine env).perform) (request.body env) (n, world.db)
          (result.1, { world with db := result.2.2 })
  | .createOrder amountInPaise currency, world => Port.perform env (.createOrder amountInPaise currency) world
  | .createRefund paymentId amountInPaise, world => Port.perform env (.createRefund paymentId amountInPaise) world

/-- What a completed run of the service comes to. -/
structure ExpiryRun (env : Env) (now : Instant) (world after : World) (count : Nat) : Prop where
  result : exec (Port.perform env) (expirePastDueSubscriptions now) world = (.ok count, after)
  expired : ∃ stamp, ExpiredExactly stamp now world after count
  active : ActiveExactly now after
  again : ∀ later : Env, exec (Port.perform later) (expirePastDueSubscriptions now) after = (.ok 0, after)
  /-- The transaction has one statement for the update and one for each event. -/
  undone : ∀ error fault n, 0 < count →
    fault (.expireSubscriptions (pastDue world.db now) now) = some n → n ≤ count →
      exec (Port.failing env error fault) (expirePastDueSubscriptions now) world = (.error error, world)

variable {env : Env} {db : Database} {world : World} {now : Instant}

section Reading

variable {plans : Table SubscriptionPlan} {rows : List Subscription}

/-- The rows that are read with their plans. -/
def withPlans (plans : Table SubscriptionPlan) (rows : List Subscription) :
    List (Subscription × SubscriptionPlan) :=
  rows.filterMap fun row => (plans.get? row.planId).map fun plan => (row, plan)

theorem pastDue_eq (db : Database) (now : Instant) :
    pastDue db now = withPlans db.plans (db.subscriptions.rows.filter (·.isPastDue now)) := rfl

theorem withPlans_cons {row : Subscription} {plan : SubscriptionPlan} (h : plans.get? row.planId = some plan) :
    withPlans plans (row :: rows) = (row, plan) :: withPlans plans rows :=
  List.filterMap_cons_some (by rw [h]; rfl)

theorem withPlans_fst (hPlans : ∀ row ∈ rows, (plans.get? row.planId).isSome = true) :
    (withPlans plans rows).map Prod.fst = rows := by
  induction rows with
  | nil => rfl
  | cons row rows ih =>
      obtain ⟨plan, hPlan⟩ := Option.isSome_iff_exists.mp (hPlans row List.mem_cons_self)
      have hRest := ih fun other hOther => hPlans other (List.mem_cons_of_mem row hOther)
      rw [withPlans_cons hPlan, List.map_cons, hRest]

/-- What holds of each row with its plan. -/
theorem forall₂_withPlans {Event : Type} {R : Event → Subscription × SubscriptionPlan → Prop}
    {events : List Event} (hPlans : ∀ row ∈ rows, (plans.get? row.planId).isSome = true)
    (h : List.Forall₂ R events (withPlans plans rows)) :
    List.Forall₂ (fun event row => ∃ plan, plans.get? row.planId = some plan ∧ R event (row, plan)) events rows := by
  induction rows generalizing events with
  | nil =>
      cases h
      exact .nil
  | cons row rows ih =>
      obtain ⟨plan, hPlan⟩ := Option.isSome_iff_exists.mp (hPlans row List.mem_cons_self)
      rw [withPlans_cons hPlan] at h
      cases h with
      | cons hFirst hRest =>
          exact .cons ⟨plan, hPlan, hFirst⟩
            (ih (fun other hOther => hPlans other (List.mem_cons_of_mem row hOther)) hRest)

end Reading

section Writing

theorem plansKnown_filter (hPlans : db.PlansKnown) :
    ∀ row ∈ db.subscriptions.rows.filter (·.isPastDue now), (db.plans.get? row.planId).isSome = true :=
  fun row hRow => hPlans row (List.mem_filter.mp hRow).1

theorem pastDue_rows (hPlans : db.PlansKnown) :
    (pastDue db now).map Prod.fst = db.subscriptions.rows.filter (·.isPastDue now) :=
  withPlans_fst (plansKnown_filter hPlans)

/-- The update by id meets exactly the rows that were read. -/
theorem pastDue_contains (hPlans : db.PlansKnown) {row : Subscription} (hRow : row ∈ db.subscriptions.rows) :
    ((pastDue db now).map (·.1.id)).contains row.id = row.isPastDue now := by
  have hIds : (pastDue db now).map (·.1.id) =
      (db.subscriptions.rows.filter (·.isPastDue now)).map Subscription.id := by
    rw [← pastDue_rows hPlans, List.map_map]
    rfl
  rw [hIds, Bool.eq_iff_iff, List.contains_iff_mem, List.mem_map]
  constructor
  · rintro ⟨other, hOther, hId⟩
    obtain ⟨hMem, hDue⟩ := List.mem_filter.mp hOther
    rwa [Table.eq_of_key hMem hRow hId] at hDue
  · intro hDue
    exact ⟨row, List.mem_filter.mpr ⟨hRow, hDue⟩, rfl⟩

theorem updated_rows (hPlans : db.PlansKnown) :
    (db.subscriptions.rows.filter fun row => ((pastDue db now).map (·.1.id)).contains row.id) =
      db.subscriptions.rows.filter (·.isPastDue now) :=
  List.filter_congr fun _ hRow => pastDue_contains hPlans hRow

/-- All writes of the run are accepted. -/
theorem expiry_accepted {events : List OutboxEvent}
    (hOutbox : ∃ outbox, db.outbox.putAll events = some outbox) :
    ∃ written, db.writeAll (expiredSubscriptions db (pastDue db now) now ++
      events.map Write.outbox) = some written := by
  refine Database.exists_writeAll ?_ ?_ ?_ ?_ ?_
  · rw [expiry_transaction?]
    exact ⟨_, rfl⟩
  · rw [expiredSubscriptions_refund?]
    exact ⟨_, rfl⟩
  · rw [expiredSubscriptions_subscription?]
    refine Table.exists_putAll_of_same fun row hRow => ?_
    obtain ⟨old, hOld, rfl⟩ := List.mem_map.mp hRow
    exact ⟨old, (List.mem_filter.mp hOld).1, rfl, rfl, fun column hColumn => absurd hColumn List.not_mem_nil⟩
  · rw [expiredSubscriptions_invoice?]
    exact ⟨_, rfl⟩
  · rw [expiredSubscriptions_outbox?]
    exact hOutbox

/-- The transaction is opened when some row is past due. -/
theorem exec_expirePastDueSubscriptions (env : Env) (now : Instant) (world : World) :
    exec (Port.perform env) (expirePastDueSubscriptions now) world =
      exec (Port.perform env) (if (pastDue world.db now).isEmpty = true then .ret 0 else do
        repository (.expireSubscriptions (pastDue world.db now) now)
        return (pastDue world.db now).length) world := by
  rw [expirePastDueSubscriptions, exec_call_bind, perform_findPastDueSubscriptions]
  rfl

/-- The run alone: its answer, what it writes, and the events it adds. -/
theorem expiry_result (env : Env) (now : Instant) (world : World) :
    ∃ events written,
      List.Forall₂ (IsExpiryOf env now) events (pastDue world.db now) ∧
      world.db.writeAll (expiredSubscriptions world.db (pastDue world.db now) now ++
        events.map Write.outbox) = some written ∧
      written.outbox.rows = world.db.outbox.rows ++ events ∧
      exec (Port.perform env) (expirePastDueSubscriptions now) world =
        (.ok (pastDue world.db now).length, { world with db := written }) := by
  obtain ⟨events, hEvents, ⟨outbox, hOutbox, hRows⟩, hWrites⟩ :=
    @expire_writes env world.db (pastDue world.db now) now
  obtain ⟨written, hWritten⟩ := @expiry_accepted world.db now events ⟨outbox, hOutbox⟩
  have hTable := (Database.written_of_writeAll hWritten).outbox
  rw [expiredSubscriptions_outbox?] at hTable
  refine ⟨events, written, hEvents, hWritten, ?_, ?_⟩
  · rw [← hRows, Option.some.inj (hTable.symm.trans hOutbox)]
  · have hPerform : Port.perform env (.repository (.expireSubscriptions (pastDue world.db now) now)) world =
        world.commit () _ := perform_of_writes hWrites
    rw [World.commit_of_written hWritten] at hPerform
    rw [exec_expirePastDueSubscriptions]
    by_cases hNone : (pastDue world.db now).isEmpty = true
    · have hNil : pastDue world.db now = [] := List.isEmpty_iff.mp hNone
      rw [hNil] at hEvents
      cases hEvents
      have hNothing : expiredSubscriptions world.db [] now = [] := by
        simp [expiredSubscriptions]
      rw [hNil, hNothing] at hWritten
      have hSame : world.db = written := Option.some.inj hWritten
      rw [if_pos hNone, hNil, ← hSame]
      rfl
    · rw [if_neg hNone, exec_call_bind, hPerform]
      rfl

end Writing

section Complement

variable {after : World} {count : Nat} {stamp : Subscription → Instant}

/-- What the writes of a run amount to. -/
theorem expiredExactly_of_written {events : List OutboxEvent} {written : Database} (hPlans : world.db.PlansKnown)
    (hEvents : List.Forall₂ (IsExpiryOf env now) events (pastDue world.db now))
    (hWritten : world.db.writeAll (expiredSubscriptions world.db
      (pastDue world.db now) now ++ events.map Write.outbox) = some written)
    (hRows : written.outbox.rows = world.db.outbox.rows ++ events) :
    ExpiredExactly (fun _ => now) now world { world with db := written } (pastDue world.db now).length := by
  obtain ⟨hTransactions, hRefunds, hSubscriptions, hInvoices, _, hKept⟩ := Database.written_of_writeAll hWritten
  rw [expiry_transaction?] at hTransactions
  rw [expiredSubscriptions_refund?] at hRefunds
  rw [expiredSubscriptions_invoice?] at hInvoices
  rw [expiredSubscriptions_subscription?, updated_rows hPlans] at hSubscriptions
  have hKey : ∀ row : Subscription,
      Record.key ({ row with status := .expired, updatedAt := now } : Subscription) = Record.key row := fun _ => rfl
  refine ⟨Table.get?_updateMany hKey hSubscriptions, ⟨events, hRows, ?_⟩, ?_, ?_⟩
  · refine (forall₂_withPlans (plansKnown_filter hPlans) hEvents).imp ?_
    rintro event row ⟨plan, hPlan, hEvent⟩
    rw [hEvent]
    exact ⟨rfl, rfl, ⟨plan, hPlan, rfl⟩, rfl⟩
  · show ({ world with db := written } : World) = { world with db :=
      ⟨world.db.transactions, world.db.refunds, written.subscriptions, world.db.invoices, written.outbox,
        world.db.plans⟩ }
    rw [Option.some.inj hTransactions, Option.some.inj hRefunds, Option.some.inj hInvoices, ← hKept]
  · rw [← pastDue_rows hPlans, List.length_map]

/-- After the run nothing is past due. -/
theorem ExpiredExactly.not_pastDue (h : ExpiredExactly stamp now world after count) {row : Subscription}
    (hRow : row ∈ after.db.subscriptions.rows) : row.isPastDue now = false := by
  have hGet := Table.get?_key hRow
  rw [h.rows] at hGet
  obtain ⟨old, _, hOld⟩ := Option.map_eq_some_iff.mp hGet
  by_cases hDue : old.isPastDue now = true
  · rw [if_pos hDue] at hOld
    rw [← hOld]
    rfl
  · rw [if_neg hDue] at hOld
    rw [← hOld]
    exact eq_false_of_ne_true hDue

theorem isActive_iff {row : Subscription} (h : row.isPastDue now = false) :
    row.status = .active ↔ row.isActive now = true := by
  unfold Subscription.isPastDue at h
  unfold Subscription.isActive
  rw [Bool.and_eq_true_iff, decide_eq_true_iff, decide_eq_true_iff]
  refine ⟨fun hStatus => ⟨hStatus, ?_⟩, And.left⟩
  rw [decide_eq_true hStatus, Bool.true_and, decide_eq_false_iff_not] at h
  exact not_lt.mp h

/-- The query returns exactly the active rows that end last. -/
theorem foundActive_iff (env : Env) {row : Subscription}
    (hPast : ∀ row ∈ world.db.subscriptions.rows, row.isPastDue now = false)
    (hRow : row ∈ world.db.subscriptions.rows) :
    row.status = .active ∧ row.EndsLast world.db ↔ FoundActive world now row := by
  have hMatch (other : Subscription) (hOther : other ∈ world.db.subscriptions.rows) :
      (other.restaurantId = row.restaurantId && other.status = .active && now ≤ other.currentPeriodEnd) = true ↔
        other.restaurantId = row.restaurantId ∧ other.status = .active := by
    have hActive := isActive_iff (hPast other hOther)
    rw [Bool.and_assoc, Bool.and_eq_true_iff, decide_eq_true_iff]
    exact and_congr_right fun _ => hActive.symm
  constructor
  · rintro ⟨hStatus, hLast⟩
    have hMax (other : Subscription) (hOther : other ∈ world.db.subscriptions.rows) (hSame : _ = true) :
        other.currentPeriodEnd ≤ row.currentPeriodEnd :=
      hLast other hOther ((hMatch other hOther).mp hSame).1 ((hMatch other hOther).mp hSame).2
    obtain ⟨tie, hFound⟩ := Table.exists_findFirst hRow ((hMatch row hRow).mpr ⟨rfl, hStatus⟩) hMax
    refine ⟨{ env with now := now, tie := tie }, rfl, ?_⟩
    rw [perform_findActiveByRestaurantId]
    exact congrArg Except.ok hFound
  · rintro ⟨env, rfl, hFound⟩
    rw [perform_findActiveByRestaurantId] at hFound
    obtain ⟨_, hActive, hMax⟩ := Table.findFirst_some (Except.ok.inj hFound)
    refine ⟨((hMatch row hRow).mp hActive).2, fun other hOther hSame hStatus => ?_⟩
    exact hMax other hOther ((hMatch other hOther).mpr ⟨hSame, hStatus⟩)

theorem ExpiredExactly.activeExactly (h : ExpiredExactly stamp now world after count) (env : Env) :
    ActiveExactly now after where
  entity := fun _ hRow => isActive_iff (h.not_pastDue hRow)
  query := fun _ hRow => foundActive_iff env (fun _ hOther => h.not_pastDue hOther) hRow

/-- Where nothing is past due the run does nothing. -/
theorem exec_nothing_pastDue (env : Env)
    (hPast : ∀ row ∈ world.db.subscriptions.rows, row.isPastDue now = false) :
    exec (Port.perform env) (expirePastDueSubscriptions now) world = (.ok 0, world) := by
  have hNone : pastDue world.db now = [] := by
    rw [pastDue_eq, List.filter_eq_nil_iff.mpr fun row hRow => by simp [hPast row hRow]]
    rfl
  rw [exec_expirePastDueSubscriptions, hNone]
  rfl

end Complement

section Faults

variable {error : ServiceError}

theorem exec_announce_failing {n : Nat} {pairs : List (Subscription × SubscriptionPlan)}
    (hLt : n < pairs.length) :
    (exec (failingAt error (engine env).perform) (announceExpiry now pairs) (n, db)).1 =
      .error error := by
  induction pairs generalizing n db with
  | nil => cases hLt
  | cons pair rest ih =>
      obtain ⟨sub, plan⟩ := pair
      unfold announceExpiry
      cases n with
      | zero => exact exec_failingAt_zero error _ _ db
      | succ n =>
          obtain ⟨table, hPut⟩ := db.exists_put_outbox
            (db.outboxRow env (expiryEvent now sub plan))
          have hApply : db.writeAll [.outbox (db.outboxRow env (expiryEvent now sub plan))] =
              some { db with outbox := table } := by
            rw [Database.writeAll, applyAll_singleton]
            exact Database.write_outbox_eq_some.mpr ⟨table, hPut, rfl⟩
          have hPerform := perform_of_ok
            (eval_createOutboxEvent (expiryEvent now sub plan)) hApply
          rw [exec_failingAt_succ hPerform]
          exact ih (Nat.lt_of_succ_lt_succ hLt)

/-- A statement of the expiry transaction that fails ends it. -/
theorem exec_expire_failing {n : Nat} (hLe : n ≤ (pastDue db now).length) :
    (exec (failingAt error (engine env).perform) (expire (pastDue db now) now)
      (n, db)).1 = .error error := by
  unfold expire
  cases n with
  | zero => exact exec_failingAt_zero error _ _ db
  | succ n =>
      obtain ⟨middle, hMiddle⟩ := @expiry_accepted db now [] ⟨_, rfl⟩
      rw [List.map_nil, List.append_nil] at hMiddle
      have hPerform := perform_of_ok
        (@eval_expire env db (pastDue db now) now) hMiddle
      rw [exec_failingAt_succ hPerform]
      exact exec_announce_failing hLe

theorem failing_none {fault : RepositoryCall → Option Nat} {request : RepositoryCall} (h : fault request = none) :
    Port.failing env error fault (.repository request) world = Port.perform env (.repository request) world := by
  simp only [Port.failing, h]

theorem failing_some {fault : RepositoryCall → Option Nat} {request : RepositoryCall} {n : Nat}
    (h : fault request = some n) :
    Port.failing env error fault (.repository request) world =
      ((atomically (failingAt error (engine env).perform) (request.body env) (n, world.db)).1,
        { world with db :=
          (atomically (failingAt error (engine env).perform) (request.body env) (n, world.db)).2.2 }) := by
  simp only [Port.failing, h]

/-- The read that precedes the transaction fails or answers as it would. -/
theorem failing_findPastDue (fault : RepositoryCall → Option Nat) :
    Port.failing env error fault (.repository (.findPastDueSubscriptions now)) world = (.error error, world) ∨
      Port.failing env error fault (.repository (.findPastDueSubscriptions now)) world =
        (.ok (pastDue world.db now), world) := by
  cases hFault : fault (.findPastDueSubscriptions now) with
  | none =>
      rw [failing_none hFault]
      exact Or.inr rfl
  | some n =>
      rw [failing_some hFault]
      cases n with
      | zero => exact Or.inl rfl
      | succ n => exact Or.inr rfl

theorem failing_expireSubscriptions {fault : RepositoryCall → Option Nat} {n : Nat}
    (hFault : fault (.expireSubscriptions (pastDue world.db now) now) = some n)
    (hLe : n ≤ (pastDue world.db now).length) :
    Port.failing env error fault (.repository (.expireSubscriptions (pastDue world.db now) now)) world =
      (.error error, world) := by
  rw [failing_some hFault, RepositoryCall.body, atomically_of_error (exec_expire_failing hLe)]

theorem exec_expiry_failing {fault : RepositoryCall → Option Nat} {n : Nat}
    (hSome : 0 < (pastDue world.db now).length)
    (hFault : fault (.expireSubscriptions (pastDue world.db now) now) = some n)
    (hLe : n ≤ (pastDue world.db now).length) :
    exec (Port.failing env error fault) (expirePastDueSubscriptions now) world = (.error error, world) := by
  have hNone : ¬ (pastDue world.db now).isEmpty = true := by
    rw [List.isEmpty_iff, ← List.length_eq_zero_iff]
    exact hSome.ne'
  rw [expirePastDueSubscriptions, exec_call_bind]
  rcases @failing_findPastDue env world now error fault with hFind | hFind
  · rw [hFind]
  · rw [hFind]
    simp only [if_neg hNone]
    rw [exec_call_bind, failing_expireSubscriptions hFault hLe]

end Faults

/-- A completed run expires exactly what is past due, with one event for each row,
and leaves as ACTIVE exactly what the entity and the query take for active. A run
whose transaction fails at any statement does nothing. -/
theorem expiry_complement (env : Env) (now : Instant) (world : World) (hPlans : world.db.PlansKnown) :
    ∃ after count, ExpiryRun env now world after count := by
  obtain ⟨events, written, hEvents, hWritten, hRows, hResult⟩ := expiry_result env now world
  have hExpired := expiredExactly_of_written hPlans hEvents hWritten hRows
  refine ⟨_, _, hResult, ⟨_, hExpired⟩, hExpired.activeExactly env, ?_, ?_⟩
  · intro later
    exact exec_nothing_pastDue later fun _ hRow => hExpired.not_pastDue hRow
  · intro error fault n hSome hFault hLe
    exact exec_expiry_failing hSome hFault hLe

namespace Sample

/-- A period of the monthly plan, bought by restaurant 21. -/
def subscription (id : Uuid) (start finish : Instant) : Subscription where
  id := id
  restaurantId := 21
  planId := 5
  status := .active
  currentPeriodStart := start
  currentPeriodEnd := finish
  canceledAt := none
  createdAt := start
  updatedAt := start

/-- One period has ended at 2000, the two others overlap. -/
def overlapping : World :=
  { World.initial plans with db := { Database.initial plans with subscriptions := {
    rows := [subscription 1 0 1000, subscription 2 500 3000, subscription 3 1500 4000]
    keys_nodup := by decide
    unique := by decide
    checked := fun _ _ => rfl } } }

def expiredAt (now : Instant) : World :=
  (exec (Port.perform (Sample.env now)) (expirePastDueSubscriptions now) overlapping).2

end Sample

theorem expiry_complement_subscribed :
    ∃ after count, ExpiryRun (Sample.env 2000) 2000 Sample.overlapping after count :=
  expiry_complement (Sample.env 2000) 2000 Sample.overlapping (by decide)

/-- The update stamps the rows it changes, and of two ACTIVE subscriptions of a
restaurant the query returns only the one that ends last. -/
theorem expiry_complement_fails :
    (∀ count, ¬ ExpiredExactly Subscription.updatedAt 2000 Sample.overlapping (Sample.expiredAt 2000) count) ∧
      ¬ ∀ row ∈ (Sample.expiredAt 2000).db.subscriptions.rows,
        row.status = .active ↔ FoundActive (Sample.expiredAt 2000) 2000 row := by
  constructor
  · intro count h
    exact absurd (h.rows 1) (by decide)
  · intro h
    have hShorter : Sample.subscription 2 500 3000 ∈ (Sample.expiredAt 2000).db.subscriptions.rows := by decide
    have hLonger : Sample.subscription 3 1500 4000 ∈ (Sample.expiredAt 2000).db.subscriptions.rows := by decide
    have hPast : ∀ row ∈ (Sample.expiredAt 2000).db.subscriptions.rows, row.isPastDue 2000 = false := by decide
    have hFound := (h _ hShorter).mp rfl
    have hLast := ((foundActive_iff (Sample.env 2000) hPast hShorter).mpr hFound).2
    exact absurd (hLast _ hLonger rfl rfl) (by decide)

end SpotqPayment
