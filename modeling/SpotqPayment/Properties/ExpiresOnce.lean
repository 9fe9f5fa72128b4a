import SpotqPayment.System.Commits

/-! Replicas that expire past-due subscriptions at the same time. The rows are read
before the transaction that updates them, and the update asks for their ids alone,
so that a row can be expired and announced once for each replica that has read it. -/
namespace SpotqPayment

open Process Transition Engine ReadCommitted PaymentSubscriptionExpiryService

inductive Call.ExpiresSubscriptions : Call → Prop where
  | expirePastDueSubscriptions : ExpiresSubscriptions .expirePastDueSubscriptions

/-- An event of the expiry of the subscription that was not there before. -/
def OutboxEvent.IsNewExpiry (event : OutboxEvent) (before : Database) (subscriptionId : Uuid) : Prop :=
  event ∉ before.outbox.rows ∧ event.eventType = .subscriptionExpired ∧
    event.payload.subscriptionId? = some subscriptionId

instance (event : OutboxEvent) (before : Database) (subscriptionId : Uuid) :
    Decidable (event.IsNewExpiry before subscriptionId) :=
  inferInstanceAs (Decidable (_ ∧ _ ∧ _))

/-- At most one expiry has been announced for each subscription. -/
def ExpiresOnce (before after : Database) : Prop :=
  ∀ subscriptionId, (after.outbox.rows.filter fun event => event.IsNewExpiry before subscriptionId).length ≤ 1

/-- A commit that takes effect updates only subscriptions that are still ACTIVE. -/
def ExpiresActive (sessions : Sessions) : Move (RequestOf Call.ExpiresSubscriptions) (Event Env ServiceError) → Prop
  | .start _ => True
  | .advance index event =>
      event.Commits → ∀ writes committed, (sessions.threads[index]?).bind Session.committing = some writes →
        applyAll paymentStore.apply sessions.shared writes = some committed →
          ∀ row, .subscription row ∈ writes →
            ∃ old, sessions.shared.db.subscriptions.get? row.id = some old ∧ old.status = .active

/-- A subscription is as it was and has not been announced, or it is EXPIRED and has
been announced once. -/
inductive SubscriptionState (start db : Database) (subscriptionId : Uuid) : Prop where
  | untouched (hRow : db.subscriptions.get? subscriptionId = start.subscriptions.get? subscriptionId)
      (hNone : ∀ event ∈ db.outbox.rows, ¬ event.IsNewExpiry start subscriptionId)
  | expired {row : Subscription} {event : OutboxEvent} (hRow : db.subscriptions.get? subscriptionId = some row)
      (hStatus : row.status = .expired) (hEvent : event ∈ db.outbox.rows)
      (hNew : event.IsNewExpiry start subscriptionId)
      (hOnly : ∀ other ∈ db.outbox.rows, other.IsNewExpiry start subscriptionId → other = event)

/-- The state of a run in which every subscription expires once. -/
structure ExpiryState (start db : Database) : Prop where
  kept : ∀ event ∈ start.outbox.rows, event ∈ db.outbox.rows
  each : ∀ subscriptionId, SubscriptionState start db subscriptionId

/-- Rows read as past due, which were ACTIVE from the start. -/
structure PastDue (start : Database) (pastDue : List (Subscription × SubscriptionPlan)) : Prop where
  apart : (pastDue.map (·.1.id)).Nodup
  active : ∀ pair ∈ pastDue, ∃ row, start.subscriptions.get? pair.1.id = some row ∧ row.status = .active

/-- The events that an expiry has promised. -/
def expiryCommitment (config : Config) (pastDue : List (Subscription × SubscriptionPlan)) (now : Instant) :
    Commitment where
  config := config
  kind := Call.ExpiresSubscriptions
  announced := fun data => ∃ pair ∈ pastDue, data = expiryEvent now pair.1 pair.2

/-- What an expiry has written when some of its events are still to come. -/
structure ExpiryLog (config : Config) (pastDue rest : List (Subscription × SubscriptionPlan)) (now : Instant)
    (db : Database) (writes : List Write) : Prop where
  commit : Commit (expiryCommitment config pastDue now) db writes
  expired : ∀ row, .subscription row ∈ writes → row.status = .expired ∧ row.id ∈ pastDue.map (·.1.id)
  all : ∀ pair ∈ pastDue, ∃ row, .subscription row ∈ writes ∧ row.id = pair.1.id
  apart : ((writes.filterMap Write.subscription?).map Subscription.id).Nodup
  events : ∃ done, pastDue = done ++ rest ∧ (writes.filterMap Write.outbox?).map OutboxEvent.data =
    done.map fun pair => expiryEvent now pair.1 pair.2

def expiryContract (config : Config) (start : Database) : Contract paymentStore Reply where
  invariant := fun world => ExpiryState start world.db
  guarantee := fun _ _ => True
  refl := fun _ => trivial
  trans := fun _ _ => trivial
  logged := fun world writes => ∃ pastDue now, PastDue start pastDue ∧ ExpiryLog config pastDue [] now world.db writes
  returns := fun port _ =>
    match port with
    | .repository (.findPastDueSubscriptions _) => fun pastDue => PastDue start pastDue
    | _ => fun _ => True
  result := fun _ _ => True
  stable := fun _ _ => trivial

variable {config : Config} {start db after : Database} {pastDue rest : List (Subscription × SubscriptionPlan)}
variable {now : Instant} {writes : List Write} {event : OutboxEvent} {row : Subscription} {id : Uuid}

theorem expiryState_refl (db : Database) : ExpiryState db db where
  kept := fun _ h => h
  each := fun _ => .untouched rfl fun _ hEvent hNew => hNew.1 hEvent

theorem expiresOnce_iff_same : ExpiresOnce start db ↔ ∀ subscriptionId, ∀ first ∈ db.outbox.rows,
    ∀ second ∈ db.outbox.rows, first.IsNewExpiry start subscriptionId → second.IsNewExpiry start subscriptionId →
      first = second := by
  refine forall_congr' fun subscriptionId => Table.filter_length_le_one_iff.trans ?_
  simp only [decide_eq_true_eq]

theorem ExpiryState.expiresOnce (h : ExpiryState start db) : ExpiresOnce start db := by
  rw [expiresOnce_iff_same]
  intro subscriptionId first hFirst second hSecond hFirstNew hSecondNew
  cases h.each subscriptionId with
  | untouched _ hNone => exact absurd hFirstNew (hNone first hFirst)
  | expired _ _ _ _ hOnly => rw [hOnly first hFirst hFirstNew, hOnly second hSecond hSecondNew]

/-- A subscription that is ACTIVE has been so from the start. -/
theorem ExpiryState.active (h : ExpiryState start db) (hRow : db.subscriptions.get? id = some row)
    (hActive : row.status = .active) :
    start.subscriptions.get? id = some row ∧ ∀ event ∈ db.outbox.rows, ¬ event.IsNewExpiry start id := by
  cases h.each id with
  | untouched hSame hNone => exact ⟨hSame.symm.trans hRow, hNone⟩
  | expired hOther hStatus _ _ _ =>
      rw [hOther] at hRow
      cases hRow
      rw [hStatus] at hActive
      cases hActive

/-- No subscription disappears. -/
theorem ExpiryState.exists_row (h : ExpiryState start db) (hRow : start.subscriptions.get? id = some row) :
    ∃ later, db.subscriptions.get? id = some later := by
  cases h.each id with
  | untouched hSame _ => exact ⟨row, hSame.trans hRow⟩
  | expired hLater _ _ _ _ => exact ⟨_, hLater⟩

/-! What a finished expiry brings to the database. -/
namespace ExpiryLog

/-- The ids of the written events, in the order of the rows that were read. -/
theorem subscriptionIds (h : ExpiryLog config pastDue [] now db writes) :
    (writes.filterMap Write.outbox?).map (fun event => event.data.payload.subscriptionId?) =
      (pastDue.map (·.1.id)).map some := by
  obtain ⟨done, hDone, hEvents⟩ := h.events
  rw [List.append_nil] at hDone
  have hIds := congrArg (List.map fun data : CreateOutboxEventInput => data.payload.subscriptionId?) hEvents
  rw [List.map_map, List.map_map] at hIds
  rw [hDone, List.map_map]
  exact hIds

theorem not_mem_outbox (h : ExpiryLog config pastDue [] now db writes) (hEvent : .outbox event ∈ writes) :
    event ∉ db.outbox.rows :=
  fun hOld => Table.get?_eq_none.mp (h.commit.events event hEvent).1 event hOld rfl

/-- An event of the transaction is new, and it is one of an expiry. -/
theorem isNewExpiry_iff (h : ExpiryLog config pastDue [] now db writes)
    (hKept : ∀ event ∈ start.outbox.rows, event ∈ db.outbox.rows) (hEvent : .outbox event ∈ writes) :
    event.IsNewExpiry start id ↔ event.payload.subscriptionId? = some id := by
  have hOld : event ∉ start.outbox.rows := fun hOld => h.not_mem_outbox hEvent (hKept event hOld)
  obtain ⟨done, _, hEvents⟩ := h.events
  have hData : event.data ∈ (writes.filterMap Write.outbox?).map OutboxEvent.data :=
    List.mem_map_of_mem (Commit.mem_events.mpr hEvent)
  rw [hEvents] at hData
  obtain ⟨pair, _, hPair⟩ := List.mem_map.mp hData
  exact ⟨fun hNew => hNew.2.2, fun hId => ⟨hOld, congrArg CreateOutboxEventInput.eventType hPair.symm, hId⟩⟩

theorem mem_of_event (h : ExpiryLog config pastDue [] now db writes) (hEvent : .outbox event ∈ writes)
    (hId : event.payload.subscriptionId? = some id) : id ∈ pastDue.map (·.1.id) := by
  have hMem : event.payload.subscriptionId? ∈ (pastDue.map (·.1.id)).map some := by
    rw [← h.subscriptionIds]
    exact List.mem_map.mpr ⟨event, Commit.mem_events.mpr hEvent, rfl⟩
  rw [hId] at hMem
  obtain ⟨other, hOther, hSame⟩ := List.mem_map.mp hMem
  cases hSame
  exact hOther

theorem exists_event (h : ExpiryLog config pastDue [] now db writes) (hId : id ∈ pastDue.map (·.1.id)) :
    ∃ event, .outbox event ∈ writes ∧ event.payload.subscriptionId? = some id := by
  have hMem : some id ∈ (pastDue.map (·.1.id)).map some := List.mem_map_of_mem hId
  rw [← h.subscriptionIds] at hMem
  obtain ⟨event, hEvent, hSame⟩ := List.mem_map.mp hMem
  exact ⟨event, Commit.mem_events.mp hEvent, hSame⟩

theorem event_unique (h : ExpiryLog config pastDue [] now db writes) (hPast : PastDue start pastDue)
    {first second : OutboxEvent} (hFirst : .outbox first ∈ writes) (hSecond : .outbox second ∈ writes)
    (hSame : first.payload.subscriptionId? = second.payload.subscriptionId?) : first = second := by
  have hNodup : ((writes.filterMap Write.outbox?).map fun event => event.data.payload.subscriptionId?).Nodup := by
    rw [h.subscriptionIds]
    exact hPast.apart.map fun _ _ => Option.some.inj
  exact List.inj_on_of_nodup_map hNodup (Commit.mem_events.mpr hFirst) (Commit.mem_events.mpr hSecond) hSame

/-- The row of a subscription that was read is EXPIRED afterwards. -/
theorem row_expired (h : ExpiryLog config pastDue [] now db writes) (hWritten : db.Written writes after)
    (hId : id ∈ pastDue.map (·.1.id)) :
    ∃ row, after.subscriptions.get? id = some row ∧ row.status = .expired := by
  obtain ⟨pair, hPair, rfl⟩ := List.mem_map.mp hId
  obtain ⟨row, hRow, hSame⟩ := h.all pair hPair
  refine ⟨row, ?_, (h.expired row hRow).1⟩
  rw [← hSame]
  exact Table.get?_putAll_of_mem hWritten.subscriptions h.apart (Commit.mem_subscriptions.mpr hRow)

theorem row_untouched (h : ExpiryLog config pastDue [] now db writes) (hWritten : db.Written writes after)
    (hId : id ∉ pastDue.map (·.1.id)) : after.subscriptions.get? id = db.subscriptions.get? id := by
  refine Table.get?_putAll_of_absent hWritten.subscriptions fun row hRow hSame => hId ?_
  rw [← (show row.id = id from hSame)]
  exact (h.expired row (Commit.mem_subscriptions.mp hRow)).2

/-- A commit that updates only ACTIVE rows. -/
theorem state (h : ExpiryLog config pastDue [] now db writes) (hPast : PastDue start pastDue)
    (hState : ExpiryState start db) (hWritten : db.Written writes after)
    (hActive : ∀ row, .subscription row ∈ writes →
      ∃ old, db.subscriptions.get? row.id = some old ∧ old.status = .active) : ExpiryState start after where
  kept := fun event hEvent => h.commit.event_kept hWritten (hState.kept event hEvent)
  each := by
    intro id
    by_cases hId : id ∈ pastDue.map (·.1.id)
    · obtain ⟨row, hRow, hStatus⟩ := h.row_expired hWritten hId
      obtain ⟨event, hEvent, hOf⟩ := h.exists_event hId
      have hNone : ∀ other ∈ db.outbox.rows, ¬ other.IsNewExpiry start id := by
        obtain ⟨pair, hPair, rfl⟩ := List.mem_map.mp hId
        obtain ⟨written, hWrite, hSame⟩ := h.all pair hPair
        obtain ⟨old, hOld, hIs⟩ := hActive written hWrite
        exact (hState.active (hSame ▸ hOld) hIs).2
      refine .expired hRow hStatus (h.commit.event_stored hWritten hEvent)
        ((h.isNewExpiry_iff hState.kept hEvent).mpr hOf) fun other hOther hNew => ?_
      rcases (h.commit.mem_outbox hWritten other).mp hOther with hOld | hAdded
      · exact absurd hNew (hNone other hOld)
      · exact h.event_unique hPast (Commit.mem_events.mp hAdded) hEvent (hNew.2.2.trans hOf.symm)
    · have hRow := h.row_untouched hWritten hId
      have hEvents : ∀ event ∈ after.outbox.rows, event.IsNewExpiry start id → event ∈ db.outbox.rows := by
        intro event hEvent hNew
        rcases (h.commit.mem_outbox hWritten event).mp hEvent with hOld | hAdded
        · exact hOld
        · exact absurd (h.mem_of_event (Commit.mem_events.mp hAdded) hNew.2.2) hId
      cases hState.each id with
      | untouched hSame hNone =>
          exact .untouched (hRow.trans hSame) fun event hEvent hNew => hNone event (hEvents event hEvent hNew) hNew
      | expired hOld hStatus hEvent hNew hOnly =>
          exact .expired (hRow.trans hOld) hStatus (h.commit.event_kept hWritten hEvent) hNew
            fun other hOther hOtherNew => hOnly other (hEvents other hOther hOtherNew) hOtherNew

/-- A commit after which every subscription has expired at most once. -/
theorem active_of_once (h : ExpiryLog config pastDue [] now db writes) (hPast : PastDue start pastDue)
    (hState : ExpiryState start db) (hWritten : db.Written writes after) (hOnce : ExpiresOnce start after)
    (hRow : .subscription row ∈ writes) : ∃ old, db.subscriptions.get? row.id = some old ∧ old.status = .active := by
  obtain ⟨pair, hPair, hId⟩ := List.mem_map.mp (h.expired row hRow).2
  obtain ⟨old, hOld, hIs⟩ := hPast.active pair hPair
  rw [hId] at hOld
  cases hState.each row.id with
  | untouched hSame _ => exact ⟨old, hSame.trans hOld, hIs⟩
  | @expired _ first _ _ hFirst hFirstNew _ =>
      obtain ⟨second, hSecond, hOf⟩ := h.exists_event (h.expired row hRow).2
      have hSecondNew := (h.isNewExpiry_iff hState.kept hSecond).mpr hOf
      have hSame : first = second := expiresOnce_iff_same.mp hOnce row.id first
        (h.commit.event_kept hWritten hFirst) second (h.commit.event_stored hWritten hSecond) hFirstNew hSecondNew
      rw [hSame] at hFirst
      exact absurd hFirst (h.not_mem_outbox hSecond)

end ExpiryLog

section Methods

variable {world : World} {view : Database} {env : Env} {pair : Subscription × SubscriptionPlan}

theorem ExpiryLog.later (h : ExpiryLog config pastDue rest now db writes) (hRows : Commit.SameRows writes db after) :
    ExpiryLog config pastDue rest now after writes := { h with commit := h.commit.later hRows }

/-- The event of the next row. -/
theorem ExpiryLog.append_event (h : ExpiryLog config pastDue (pair :: rest) now db writes)
    (hView : db.Written writes view) :
    ExpiryLog config pastDue rest now db
      (writes ++ [.outbox (view.outboxRow env (expiryEvent now pair.1 pair.2))]) := by
  have hMem : ∀ row, .subscription row ∈ writes ++ [.outbox (view.outboxRow env (expiryEvent now pair.1 pair.2))] ↔
      .subscription row ∈ writes := by simp
  refine ⟨h.commit.append_event hView rfl, fun row hRow => h.expired row ((hMem row).mp hRow), fun other hOther => ?_,
    ?_, ?_⟩
  · obtain ⟨row, hRow, hId⟩ := h.all other hOther
    exact ⟨row, (hMem row).mpr hRow, hId⟩
  · rw [List.filterMap_append]
    exact (List.append_nil _).symm ▸ h.apart
  · obtain ⟨done, hDone, hEvents⟩ := h.events
    refine ⟨done ++ [pair], hDone.trans (List.append_cons done pair rest), ?_⟩
    rw [List.filterMap_append, List.map_append, hEvents, List.map_append]
    rfl

theorem sound_announce (hPast : PastDue start pastDue) (h : ExpiryLog config pastDue rest now world.db writes) :
    MethodSound (expiryContract config start) (.expireSubscriptions pastDue now) (announceExpiry now rest) writes
      world := by
  induction rest generalizing world writes with
  | nil =>
      intro later hRely _
      exact ⟨⟨pastDue, now, hPast, h.later hRely.2⟩, fun _ _ => trivial⟩
  | cons pair rest ih =>
      refine Contract.Sound.call_bind fun env later view hRely _ hView event new hEval => ?_
      cases hEval
      exact ih ((h.later hRely.2).append_event (written_of_view hView))

theorem filterMap_subscriptions (rows : List Subscription) (update : Subscription → Subscription) :
    (rows.map fun row => Write.subscription (update row)).filterMap Write.subscription? = rows.map update := by
  rw [List.filterMap_map]
  exact congrFun List.filterMap_eq_map' rows

theorem filterMap_outbox_subscriptions (rows : List Subscription) (update : Subscription → Subscription) :
    (rows.map fun row => Write.subscription (update row)).filterMap Write.outbox? = [] := by
  rw [List.filterMap_map]
  exact List.filterMap_eq_nil_iff.mpr fun _ _ => rfl

/-- The update of the rows that were read, all of which are still there. -/
theorem expiryLog_update (hPast : PastDue start pastDue) (hState : ExpiryState start db) :
    ExpiryLog config pastDue pastDue now db
      ([] ++ (db.subscriptions.rows.filter fun row => (pastDue.map (·.1.id)).contains row.id).map fun row =>
        .subscription { row with status := .expired, updatedAt := now }) where
  commit := commit_expired config Call.ExpiresSubscriptions db pastDue now
  expired := by
    intro row hRow
    obtain ⟨old, hOld, hSame⟩ := List.mem_map.mp hRow
    cases hSame
    exact ⟨rfl, List.contains_iff_mem.mp (List.mem_filter.mp hOld).2⟩
  all := by
    intro pair hPair
    obtain ⟨first, hFirst, _⟩ := hPast.active pair hPair
    obtain ⟨row, hRow⟩ := hState.exists_row hFirst
    obtain ⟨hMem, hId⟩ := Table.get?_eq_some.mp hRow
    have hIn : pair.1.id ∈ pastDue.map (·.1.id) := List.mem_map_of_mem hPair
    have hMatch : (pastDue.map (·.1.id)).contains row.id = true :=
      List.contains_iff_mem.mpr ((show row.id = pair.1.id from hId) ▸ hIn)
    exact ⟨_, List.mem_map.mpr ⟨row, List.mem_filter.mpr ⟨hMem, hMatch⟩, rfl⟩, hId⟩
  apart := by
    have hIds : (Subscription.id ∘ fun row => { row with status := .expired, updatedAt := now }) = Subscription.id := rfl
    rw [List.nil_append, filterMap_subscriptions, List.map_map, hIds]
    exact db.subscriptions.keys_nodup.sublist (List.filter_sublist.map _)
  events := by
    refine ⟨[], rfl, ?_⟩
    rw [List.nil_append, filterMap_outbox_subscriptions]
    rfl

theorem sound_expirePastDue (hPast : PastDue start pastDue) :
    MethodSound (expiryContract config start) (.expireSubscriptions pastDue now) (expire pastDue now) [] world := by
  refine Contract.Sound.call_bind fun env later view _ hState hView count new hEval => ?_
  cases view_of_nil hView
  cases hEval
  exact sound_announce hPast (expiryLog_update hPast hState)

/-- The rows that were read come from the table, in its order. -/
theorem withPlan_sublist (plans : Table SubscriptionPlan) (rows : List Subscription) :
    ((rows.filterMap fun row => (plans.get? row.planId).map fun plan => (row, plan)).map (·.1)).Sublist rows := by
  induction rows with
  | nil => exact List.Sublist.slnil
  | cons row rows ih =>
      cases hPlan : plans.get? row.planId with
      | none =>
          rw [List.filterMap_cons_none (by rw [hPlan]; rfl)]
          exact ih.cons row
      | some plan =>
          rw [List.filterMap_cons_some (by rw [hPlan]; rfl)]
          exact ih.cons_cons row

/-- Rows that are read as past due were ACTIVE from the start. -/
theorem pastDue_of_read (hState : ExpiryState start db) (now : Instant) :
    PastDue start ((db.subscriptions.rows.filter fun subscription =>
      subscription.status = .active && subscription.currentPeriodEnd < now).filterMap fun row =>
        (db.plans.get? row.planId).map fun plan => (row, plan)) where
  apart := by
    have hRead := (withPlan_sublist db.plans (db.subscriptions.rows.filter fun subscription =>
      subscription.status = .active && subscription.currentPeriodEnd < now)).trans List.filter_sublist
    have hIds := hRead.map Subscription.id
    rw [List.map_map] at hIds
    exact db.subscriptions.keys_nodup.sublist hIds
  active := by
    intro pair hPair
    obtain ⟨row, hRow, hRead⟩ := List.mem_filterMap.mp hPair
    obtain ⟨plan, _, rfl⟩ := Option.map_eq_some_iff.mp hRead
    obtain ⟨hMem, hMatch⟩ := List.mem_filter.mp hRow
    have hActive : row.status = .active := of_decide_eq_true (Bool.and_eq_true_iff.mp hMatch).1
    exact ⟨row, (hState.active (Table.get?_key hMem) hActive).1, hActive⟩

theorem expiryLog_nil : ExpiryLog config [] [] now db [] where
  commit := Commit.nil
  expired := fun _ hRow => absurd hRow List.not_mem_nil
  all := fun _ hPair => absurd hPair List.not_mem_nil
  apart := List.nodup_nil
  events := ⟨[], rfl, rfl⟩

theorem sound_findPastDue :
    MethodSound (expiryContract config start) (.findPastDueSubscriptions now) (findPastDue now) [] world := by
  intro env later view _ hState hView
  cases view_of_nil hView
  refine ⟨fun error => trivial, fun answer new hEval => ?_⟩
  cases hEval
  intro last _ _
  exact ⟨⟨[], now, ⟨List.nodup_nil, fun _ hPair => absurd hPair List.not_mem_nil⟩, expiryLog_nil⟩,
    fun _ _ => pastDue_of_read hState now⟩

end Methods

section Programs

variable {world : World}

theorem follows_expiry :
    (expiryContract config start).Follows (.expired <$> expirePastDueSubscriptions now) world := by
  rw [map_eq, expirePastDueSubscriptions, bind_assoc]
  refine Contract.Follows.call_bind (fun env later _ _ => ⟨_, rfl, sound_findPastDue⟩) fun later pastDue _ _ hPast => ?_
  split
  · trivial
  · rw [bind_assoc]
    exact Contract.Follows.call_bind (fun env later _ _ => ⟨_, rfl, sound_expirePastDue hPast⟩) fun _ _ _ _ _ => trivial

theorem follows_request (request : RequestOf Call.ExpiresSubscriptions) :
    (expiryContract config start).Follows (request.1.call.process config request.1.env) world := by
  obtain ⟨⟨call, env⟩, hKind⟩ := request
  cases hKind
  exact follows_expiry

end Programs

section Runs

variable {sessions : Sessions}

/-- A step that is allowed keeps the contract and the state. -/
theorem expiry_step (h : (expiryContract config start).Holds sessions)
    (move : Move (RequestOf Call.ExpiresSubscriptions) (Event Env ServiceError)) (hMove : ExpiresActive sessions move) :
    (expiryContract config start).Holds (isolate config sessions move) := by
  cases move with
  | start request => exact Contract.Holds.start h (follows_request request) rfl
  | advance index event =>
      refine Contract.Holds.advance h fun session hSession hEvent => ?_
      rintro writes committed hCommitting ⟨pastDue, now, hPast, hLog⟩ hApply
      have hWrites : (sessions.threads[index]?).bind Session.committing = some writes := by
        rw [hSession]
        exact hCommitting
      exact ⟨hLog.state hPast h.shared (written_of_view hApply) (hMove hEvent writes committed hWrites hApply), trivial⟩

/-- A step after which every subscription has expired at most once was allowed. -/
theorem expiresActive_of_next (h : (expiryContract config start).Holds sessions)
    (move : Move (RequestOf Call.ExpiresSubscriptions) (Event Env ServiceError))
    (hOnce : ExpiresOnce start (isolate config sessions move).shared.db) : ExpiresActive sessions move := by
  cases move with
  | start request => trivial
  | advance index event =>
      intro hEvent writes committed hWrites hApply row hRow
      obtain ⟨pastDue, now, hPast, hLog⟩ := Contract.Holds.logged h hWrites
      have hNext : (@isolate config Call.ExpiresSubscriptions sessions (.advance index event)).shared = committed :=
        Contract.shared_of_commit hEvent hWrites hApply
      rw [hNext] at hOnce
      exact hLog.active_of_once hPast h.shared (written_of_view hApply) hOnce hRow

/-- For any tables, any number of expiries and any order of their statements: each
subscription is announced at most once if and only if every expiry that commits
updates rows that are still ACTIVE. -/
theorem expiresOnce_iff (config : Config) (world : World)
    (moves : List (Move (RequestOf Call.ExpiresSubscriptions) (Event Env ServiceError))) :
    Always (isolate config) world.quiet moves (fun sessions => ExpiresOnce world.db sessions.shared.db) ↔
      EveryStep (isolate config) world.quiet moves ExpiresActive :=
  always_iff_everyStep (fun sessions : Sessions => (expiryContract config world.db).Holds sessions)
    (fun _ h => ExpiryState.expiresOnce h.shared) (fun _ move h hMove => expiry_step h move hMove)
    (fun _ move h hOnce => expiresActive_of_next h move hOnce) moves
    (Pool.Invariant.empty (expiryState_refl world.db))

end Runs

namespace Sample

/-- A restaurant with a monthly subscription. -/
def subscribed : World := serve Sample.config openOrder (verifyPayment 2000 "order_1" "pay_1")

/-- The check of a replica, after more than a month. -/
def expiryCheck : RequestOf Call.ExpiresSubscriptions :=
  ⟨{ call := .expirePastDueSubscriptions, env := env 3000000000 }, .expirePastDueSubscriptions⟩

def expirySteps (replica steps : Nat) : List (Move (RequestOf Call.ExpiresSubscriptions) (Event Env ServiceError)) :=
  List.replicate steps (.advance replica (.proceed (env 3000000000)))

/-- Both replicas read the past-due row before either of them updates it. -/
def overlappingExpiries : List (Move (RequestOf Call.ExpiresSubscriptions) (Event Env ServiceError)) :=
  [.start expiryCheck, .start expiryCheck] ++ expirySteps 0 3 ++ expirySteps 1 3 ++ expirySteps 0 4 ++ expirySteps 1 4

end Sample

/-- The subscription is announced as expired twice. -/
theorem expiresOnce_fails :
    ¬ ∀ config (world : World) (moves : List (Move (RequestOf Call.ExpiresSubscriptions) (Event Env ServiceError))),
      Always (isolate config) world.quiet moves fun sessions => ExpiresOnce world.db sessions.shared.db := by
  intro h
  have hOnce := h Sample.config Sample.subscribed Sample.overlappingExpiries Sample.overlappingExpiries List.prefix_rfl 0
  exact absurd hOnce (by decide +kernel)

end SpotqPayment
