import SpotqPayment.System.Changes
import SpotqPayment.System.Isolation

/-! Activations of one subscription order that run at the same time. The update
of the status asks for a row that is not SUCCESS, and it waits for another
activation that has updated the row: the first to commit opens the subscription,
and all others find it. -/
namespace SpotqPayment

open Process Transition Engine ReadCommitted SubscriptionRepository

/-- What every caller passes to an activation of the order. -/
structure ActivateSubscriptionWithOutboxParams.IsFor (params : ActivateSubscriptionWithOutboxParams)
    (razorpayOrderId : String) : Prop where
  order : params.payment.razorpayOrderId = razorpayOrderId
  event : params.outbox.eventType = .subscriptionActivated
  payload : ∃ restaurantId planCode status periodStart periodEnd timestamp, params.outbox.payload =
    .subscriptionActivated restaurantId planCode status periodStart periodEnd timestamp none

theorem activationParams_isFor (tx : PaymentTransaction) (plan : SubscriptionPlan)
    (paymentId signature : String) (now : Instant) :
    (activationParams tx plan paymentId signature now).IsFor tx.razorpayOrderId :=
  ⟨rfl, rfl, _, _, _, _, _, _, rfl⟩

abbrev ActivationOf (razorpayOrderId : String) :=
  { params : ActivateSubscriptionWithOutboxParams // params.IsFor razorpayOrderId }

abbrev Activations := Pool World (Session ServiceError Write Subscription Port.Answer Statement.Answer)

/-- A new activation or the next step of a running one. -/
def activate {razorpayOrderId : String} (activations : Activations)
    (move : Move (ActivationOf razorpayOrderId) (Event Env ServiceError)) : Activations :=
  activations.next (fun params => .outside (repository (.activateSubscriptionWithOutbox params.1)))
    paymentStore.step move

/-- A subscription order that has not been paid, with at most one invoice. -/
structure AwaitsActivation (tx : PaymentTransaction) (db : Database) : Prop where
  stored : tx ∈ db.transactions.rows
  unpaid : tx.status = .created ∨ tx.status = .failed
  unlinked : tx.subscriptionId = none
  invoices : (db.invoices.rows.filter fun invoice => invoice.paymentTransactionId = some tx.id).length ≤ 1

theorem AwaitsActivation.sameInvoice {tx : PaymentTransaction} {db : Database} (h : AwaitsActivation tx db)
    {first second : BillingInvoice} (hFirst : first ∈ db.invoices.rows) (hSecond : second ∈ db.invoices.rows)
    (hFirstOf : first.paymentTransactionId = some tx.id) (hSecondOf : second.paymentTransactionId = some tx.id) :
    first.id = second.id := by
  have hMem : ∀ invoice ∈ db.invoices.rows, invoice.paymentTransactionId = some tx.id →
      invoice ∈ db.invoices.rows.filter fun invoice => invoice.paymentTransactionId = some tx.id :=
    fun invoice hInvoice hOf => List.mem_filter.mpr ⟨hInvoice, decide_eq_true hOf⟩
  rcases Nat.le_one_iff_eq_zero_or_eq_one.mp h.invoices with hNone | hOne
  · rw [List.length_eq_zero_iff.mp hNone] at hMem
    exact absurd (hMem first hFirst hFirstOf) List.not_mem_nil
  · obtain ⟨only, hOnly⟩ := List.length_eq_one_iff.mp hOne
    rw [hOnly] at hMem
    rw [List.mem_singleton.mp (hMem first hFirst hFirstOf), List.mem_singleton.mp (hMem second hSecond hSecondOf)]

/-- The order has bought this subscription and nothing else. -/
structure Activated (tx : PaymentTransaction) (before after : Database) (subscription : Subscription) : Prop where
  transaction : ∃ row, after.transactions.get? tx.id = some row ∧ row.razorpayOrderId = tx.razorpayOrderId ∧
    row.status = .success ∧ row.subscriptionId = some subscription.id
  subscriptions : after.subscriptions.rows = before.subscriptions.rows ++ [subscription]
  event : ∃ event, after.outbox.rows = before.outbox.rows ++ [event] ∧ event.eventType = .subscriptionActivated ∧
    event.payload.subscriptionId? = some subscription.id
  invoice : ∃ invoice, (after.invoices.rows.filter fun invoice => invoice.paymentTransactionId = some tx.id) =
    [invoice] ∧ invoice.status = .paid ∧ invoice.subscriptionId = some subscription.id

variable {tx : PaymentTransaction} {start world later view : World} {subscription : Subscription}

theorem AwaitsActivation.not_success (h : AwaitsActivation tx start.db) : tx.status ≠ .success := by
  intro hStatus
  rcases h.unpaid with hCreated | hFailed
  · rw [hCreated] at hStatus
    cases hStatus
  · rw [hFailed] at hStatus
    cases hStatus

theorem AwaitsActivation.not_activated (h : AwaitsActivation tx start.db) :
    ¬ Activated tx start.db start.db subscription := by
  rintro ⟨⟨row, hRow, _, hStatus, _⟩, _, _, _⟩
  have hGet : start.db.transactions.get? tx.id = some tx := Table.get?_key h.stored
  rw [hGet] at hRow
  cases hRow
  exact h.not_success hStatus

/-- Nothing has been committed, or one activation. -/
def ActivationState (tx : PaymentTransaction) (start world : World) : Prop :=
  world = start ∨ ∃ subscription, Activated tx start.db world.db subscription

/-- The state changes at most once, from the start by one activation. -/
def ActivationStep (tx : PaymentTransaction) (start world later : World) : Prop :=
  later = world ∨ (world = start ∧ ∃ subscription, Activated tx start.db later.db subscription)

def activationContract (tx : PaymentTransaction) (start : World) (hStart : AwaitsActivation tx start.db) :
    Contract paymentStore Subscription where
  invariant := ActivationState tx start
  guarantee := ActivationStep tx start
  refl := fun _ => Or.inl rfl
  trans := by
    intro first second third hFirst hSecond
    rcases hFirst with rfl | ⟨hStartIs, hActivated⟩
    · exact hSecond
    · rcases hSecond with rfl | ⟨_, hLater⟩
      · exact Or.inr ⟨hStartIs, hActivated⟩
      · exact Or.inr ⟨hStartIs, hLater⟩
  logged := fun world writes => writes = [] ∨ (world = start ∧
    ∀ committed, applyAll paymentStore.apply start writes = some committed →
      ∃ subscription, Activated tx start.db committed.db subscription)
  returns := fun port world =>
    match port with
    | .repository (.activateSubscriptionWithOutbox _) => Activated tx start.db world.db
    | _ => fun _ => True
  result := fun world subscription => Activated tx start.db world.db subscription
  stable := by
    intro world later subscription hActivated hStep
    rcases hStep with rfl | ⟨rfl, _⟩
    · exact hActivated
    · exact absurd hActivated hStart.not_activated

theorem Activated.unique {before after : Database} {first second : Subscription}
    (hFirst : Activated tx before after first) (hSecond : Activated tx before after second) : first = second := by
  have hRows := hFirst.subscriptions.symm.trans hSecond.subscriptions
  exact List.singleton_inj.mp (List.append_cancel_left hRows)

/-- What an activation of the untouched order commits. -/
def activationLog (tx : PaymentTransaction) (payment : ActivationPayment) (now : Instant)
    (subscription : Subscription) (invoice : BillingInvoice) (event : OutboxEvent) : List Write :=
  [.transaction (paidRow payment now tx), .subscription subscription,
    .transaction (activatedRow payment subscription.id now tx), .invoice invoice, .outbox event]

/-- The rows of an activation, as its statements make them. -/
structure ActivationRows (tx : PaymentTransaction) (db : Database) (subscription : Subscription)
    (invoice : BillingInvoice) (event : OutboxEvent) : Prop where
  newSubscription : db.subscriptions.get? subscription.id = none
  invoiceOf : invoice.paymentTransactionId = some tx.id ∧ invoice.status = .paid ∧
    invoice.subscriptionId = some subscription.id
  onlyInvoice : ∀ other ∈ db.invoices.rows, other.paymentTransactionId = some tx.id → other.id = invoice.id
  newEvent : db.outbox.get? event.id = none
  announces : event.eventType = .subscriptionActivated ∧ event.payload.subscriptionId? = some subscription.id

theorem AwaitsActivation.activated (h : AwaitsActivation tx start.db) {payment : ActivationPayment} {now : Instant}
    {invoice : BillingInvoice} {event : OutboxEvent} (hRows : ActivationRows tx start.db subscription invoice event)
    {after : Database} (hWritten : start.db.writeAll (activationLog tx payment now subscription invoice event) =
      some after) : Activated tx start.db after subscription := by
  have hTables := Database.written_of_writeAll hWritten
  have hSubscriptions : start.db.subscriptions.put subscription = some after.subscriptions :=
    Table.putAll_singleton.mp hTables.subscriptions
  have hInvoices : start.db.invoices.put invoice = some after.invoices := Table.putAll_singleton.mp hTables.invoices
  have hOutbox : start.db.outbox.put event = some after.outbox := Table.putAll_singleton.mp hTables.outbox
  have hId : (activatedRow payment subscription.id now tx).id = tx.id := activatedRow_id payment subscription.id now
  have hOrder : (activatedRow payment subscription.id now tx).razorpayOrderId = tx.razorpayOrderId := by
    simp only [activatedRow, claimedRow, if_neg h.not_success, paidRow]
  refine ⟨⟨_, ?_, hOrder, activatedRow_status payment subscription.id now, rfl⟩, ?_, ⟨event, ?_, hRows.announces⟩,
    ⟨invoice, ?_, hRows.invoiceOf.2⟩⟩
  · rw [hTables.get?_pair rfl hId.symm tx.id, if_pos hId]
  · exact Table.rows_put_fresh hSubscriptions hRows.newSubscription
  · exact Table.rows_put_fresh hOutbox hRows.newEvent
  · refine Table.filter_eq_singleton ((Table.mem_put hInvoices).mpr (Or.inl rfl))
      (decide_eq_true hRows.invoiceOf.1) fun other hOther hMatch => ?_
    rcases (Table.mem_put hInvoices).mp hOther with rfl | ⟨hOld, _⟩
    · rfl
    · exact hRows.onlyInvoice other hOld (of_decide_eq_true hMatch)

namespace activationContract

section Bodies

variable {hStart : AwaitsActivation tx start.db} {params : ActivateSubscriptionWithOutboxParams}
variable {invoiceNumber : String} {now : Instant}

/-- A transaction that has claimed the order keeps all others from activating it. -/
theorem start_of_claimed {writes : List Write} {payment : ActivationPayment}
    (hRely : (activationContract tx start hStart).Rely writes start later)
    (hWrite : .transaction (paidRow payment now tx) ∈ writes) : later = start := by
  rcases hRely.1 with hSame | ⟨_, subscription, hActivated⟩
  · exact hSame
  · obtain ⟨paid, hPaid, _, hStatus, _⟩ := hActivated.transaction
    have hRow : (later.db.transactions.get? tx.id).map Write.transaction =
        (start.db.transactions.get? tx.id).map Write.transaction := hRely.2 _ hWrite
    have hGet : start.db.transactions.get? tx.id = some tx := Table.get?_key hStart.stored
    rw [hPaid, hGet] at hRow
    cases hRow
    exact absurd hStatus hStart.not_success

/-- Once the order is activated nothing changes any more. -/
theorem eq_of_activated {writes : List Write} (hActivated : Activated tx start.db world.db subscription)
    (hRely : (activationContract tx start hStart).Rely writes world later) : later = world := by
  rcases hRely.1 with hSame | ⟨rfl, _⟩
  · exact hSame
  · exact absurd hActivated hStart.not_activated

/-- The linked subscription of the activated order is found and returned. -/
theorem sound_linked (hActivated : Activated tx start.db world.db subscription) {row : PaymentTransaction}
    (hLinked : row.subscriptionId = some subscription.id) {next : Option Subscription → Repository Subscription}
    (hNext : next (some subscription) = .ret subscription) :
    MethodSound (activationContract tx start hStart) (.activateSubscriptionWithOutbox params)
      (linkedSubscription (some row) >>= next) [] world := by
  have hFind : linkedSubscription (some row) = query (.findSubscription subscription.id) := by
    simp only [linkedSubscription, Option.bind_some, hLinked]
  rw [hFind]
  refine Contract.Sound.read_bind fun env later view hRely _ hView => ⟨_, rfl, ?_⟩
  cases view_of_nil hView
  cases eq_of_activated hActivated hRely
  have hMem : subscription ∈ world.db.subscriptions.rows := by
    rw [hActivated.subscriptions]
    exact List.mem_append_right _ List.mem_cons_self
  have hFound : world.db.subscriptions.get? subscription.id = some subscription := Table.get?_key hMem
  rw [hFound, hNext]
  intro final hFinal _
  refine ⟨Or.inl rfl, fun committed hCommitted => ?_⟩
  cases eq_of_activated hActivated hFinal
  cases view_of_nil hCommitted
  exact hActivated

/-- The activation that has written everything commits it on the untouched order. -/
theorem sound_activated {invoice : BillingInvoice} {event : OutboxEvent}
    (hRows : ActivationRows tx start.db subscription invoice event) :
    MethodSound (activationContract tx start hStart) (.activateSubscriptionWithOutbox params) (.ret subscription)
      (activationLog tx params.payment now subscription invoice event) start := by
  intro later hRely _
  cases start_of_claimed hRely List.mem_cons_self
  have hCommit : ∀ committed, applyAll paymentStore.apply start
      (activationLog tx params.payment now subscription invoice event) = some committed →
        Activated tx start.db committed.db subscription := by
    intro committed hCommitted
    obtain ⟨db, hDb, rfl⟩ := applyAll_world_eq_some.mp hCommitted
    exact hStart.activated hRows hDb
  exact ⟨Or.inr ⟨rfl, fun committed hCommitted => ⟨subscription, hCommit committed hCommitted⟩⟩, hCommit⟩

/-- The event of an activation is the last thing that it writes. -/
theorem sound_announce (hParams : params.IsFor tx.razorpayOrderId) {invoice : BillingInvoice}
    (hSubscription : start.db.subscriptions.get? subscription.id = none)
    (hInvoice : invoice.paymentTransactionId = some tx.id ∧ invoice.status = .paid ∧
      invoice.subscriptionId = some subscription.id)
    (hOnly : ∀ other ∈ start.db.invoices.rows, other.paymentTransactionId = some tx.id → other.id = invoice.id) :
    MethodSound (activationContract tx start hStart) (.activateSubscriptionWithOutbox params)
      (query (.createOutboxEvent (activationEvent params subscription.id)) >>= fun _ => .ret subscription)
      [.transaction (paidRow params.payment now tx), .subscription subscription,
        .transaction (activatedRow params.payment subscription.id now tx), .invoice invoice] start := by
  refine Contract.Sound.call_bind fun env later view hRely _ hView event new hEval => ?_
  cases start_of_claimed hRely List.mem_cons_self
  have hOutbox : some start.db.outbox = some view.db.outbox := (written_of_view hView).outbox
  cases hEval
  refine sound_activated ⟨hSubscription, hInvoice, hOnly, ?_, hParams.event, ?_⟩
  · rw [Option.some.inj hOutbox]
    exact Table.get?_freshKey
  · obtain ⟨restaurantId, planCode, status, periodStart, periodEnd, timestamp, hPayload⟩ := hParams.payload
    show (withSubscriptionId params.outbox.payload subscription.id).subscriptionId? = _
    rw [hPayload]
    rfl

/-- The invoice of the order, or a new one, is what the subscription is linked to. -/
theorem sound_recordInvoice (hParams : params.IsFor tx.razorpayOrderId)
    (hSubscription : start.db.subscriptions.get? subscription.id = none) :
    MethodSound (activationContract tx start hStart) (.activateSubscriptionWithOutbox params)
      (recordInvoice params (some tx) subscription.id invoiceNumber now >>= fun _ =>
        query (.createOutboxEvent (activationEvent params subscription.id)) >>= fun _ => .ret subscription)
      [.transaction (paidRow params.payment now tx), .subscription subscription,
        .transaction (activatedRow params.payment subscription.id now tx)] start := by
  unfold recordInvoice
  rw [bind_assoc]
  refine Contract.Sound.read_bind fun env later view hRely _ hView => ⟨_, rfl, ?_⟩
  cases start_of_claimed hRely List.mem_cons_self
  have hInvoices : some start.db.invoices = some view.db.invoices := (written_of_view hView).invoices
  rw [← Option.some.inj hInvoices]
  cases hFound : start.db.invoices.findFirst env.tie (fun _ => 0)
      (fun invoice => invoice.paymentTransactionId = some tx.id) with
  | none =>
      have hNone := Table.findFirst_eq_none.mp hFound
      refine Contract.Sound.call_bind fun env later view hRely _ hView invoice new hEval => ?_
      cases start_of_claimed hRely List.mem_cons_self
      cases hEval
      refine sound_announce hParams hSubscription ⟨rfl, rfl, rfl⟩ fun other hOther hMatch => ?_
      exact absurd hMatch (of_decide_eq_false (hNone other hOther))
  | some invoice =>
      obtain ⟨hInvoice, hMatch, _⟩ := Table.findFirst_some hFound
      refine Contract.Sound.call_bind fun env later view hRely _ hView updated new hEval => ?_
      cases start_of_claimed hRely List.mem_cons_self
      have hStill : some start.db.invoices = some view.db.invoices := (written_of_view hView).invoices
      rw [Option.some.inj hStill] at hInvoice
      cases (eval_updateInvoice hInvoice _).symm.trans hEval
      refine sound_announce hParams hSubscription ⟨of_decide_eq_true hMatch, rfl, rfl⟩ fun other hOther hOf => ?_
      rw [← Option.some.inj hStill] at hInvoice
      have hSame : other.id = invoice.id := hStart.sameInvoice hOther hInvoice hOf (of_decide_eq_true hMatch)
      exact hSame

/-- The last part of an activation, once the order is claimed. -/
theorem sound_openSubscription (hParams : params.IsFor tx.razorpayOrderId) :
    MethodSound (activationContract tx start hStart) (.activateSubscriptionWithOutbox params)
      (openSubscription params (some tx) invoiceNumber now) [.transaction (paidRow params.payment now tx)] start := by
  refine Contract.Sound.call_bind fun env later view hRely _ hView subscription new hEval => ?_
  cases start_of_claimed hRely List.mem_cons_self
  have hSubscriptions : some start.db.subscriptions = some view.db.subscriptions :=
    (written_of_view hView).subscriptions
  cases hEval
  refine Contract.Sound.call_bind fun env' later view' hRely _ hView' updated new hEval => ?_
  cases start_of_claimed hRely List.mem_cons_self
  have hPaid : view'.db.transactions.get? tx.id = some (paidRow params.payment now tx) := by
    rw [(written_of_view hView').get?_single rfl]
    exact if_pos rfl
  have hFound : view'.db.findTransaction (.razorpayOrderId params.payment.razorpayOrderId) =
      some (paidRow params.payment now tx) := by
    rw [hParams.order]
    exact Database.findTransaction_of_mem (Table.get?_eq_some.mp hPaid).1
  cases (eval_updateTransaction hFound _).symm.trans hEval
  have hActivated : ∀ id : Uuid, activatedRow params.payment id now tx =
      { paidRow params.payment now tx with subscriptionId := some id, updatedAt := now } := by
    intro id
    rw [activatedRow, claimedRow, if_neg hStart.not_success]
  rw [List.append_assoc, ← hActivated]
  refine sound_recordInvoice hParams ?_
  rw [Option.some.inj hSubscriptions]
  exact Table.get?_freshKey

/-- The compare-and-set. It finds the order unpaid and locks it, or finds that
another activation has been committed. -/
theorem sound_claimAndOpen (hParams : params.IsFor tx.razorpayOrderId) :
    MethodSound (activationContract tx start hStart) (.activateSubscriptionWithOutbox params)
      (claimAndOpen params (some tx) invoiceNumber now) [] world := by
  refine Contract.Sound.call_bind fun env later view _ hInvariant hView count new hEval => ?_
  cases view_of_nil hView
  rcases hInvariant with rfl | ⟨subscription, hActivated⟩
  · have hFound : later.db.findTransaction (.razorpayOrderId params.payment.razorpayOrderId) = some tx := by
      rw [hParams.order]
      exact Database.findTransaction_of_mem hStart.stored
    cases (eval_claim hFound).symm.trans hEval
    rw [claimWrites, if_neg hStart.not_success, if_neg hStart.not_success]
    exact sound_openSubscription hParams
  · obtain ⟨row, hRow, hOrder, hStatus, hLinked⟩ := hActivated.transaction
    have hFound : later.db.findTransaction (.razorpayOrderId params.payment.razorpayOrderId) = some row := by
      rw [hParams.order, ← hOrder]
      exact Database.findTransaction_of_mem (Table.get?_eq_some.mp hRow).1
    cases (eval_claim hFound).symm.trans hEval
    rw [claimWrites, if_pos hStatus, if_pos hStatus]
    refine Contract.Sound.read_bind fun env final view hRely _ hView => ⟨_, rfl, ?_⟩
    cases view_of_nil hView
    have hSame := eq_of_activated hActivated hRely
    rw [hSame, hFound]
    exact sound_linked hActivated hLinked rfl

/-- A whole activation, whatever the others commit between its statements. -/
theorem sound_activate (hParams : params.IsFor tx.razorpayOrderId) :
    MethodSound (activationContract tx start hStart) (.activateSubscriptionWithOutbox params)
      (activateSubscriptionWithOutbox params invoiceNumber now) [] world := by
  refine Contract.Sound.read_bind fun env later view _ hInvariant hView => ⟨_, rfl, ?_⟩
  cases view_of_nil hView
  rcases hInvariant with rfl | ⟨subscription, hActivated⟩
  · have hFound : later.db.findTransaction (.razorpayOrderId params.payment.razorpayOrderId) = some tx := by
      rw [hParams.order]
      exact Database.findTransaction_of_mem hStart.stored
    have hUnpaid : ((some tx).filter fun tx => tx.status = .success) = none := by
      rw [Option.filter_some, if_neg (by simpa using hStart.not_success)]
    rw [hFound, hUnpaid]
    exact sound_claimAndOpen hParams
  · obtain ⟨row, hRow, hOrder, hStatus, hLinked⟩ := hActivated.transaction
    have hFound : later.db.findTransaction (.razorpayOrderId params.payment.razorpayOrderId) = some row := by
      rw [hParams.order, ← hOrder]
      exact Database.findTransaction_of_mem (Table.get?_eq_some.mp hRow).1
    have hPaid : ((some row).filter fun tx => tx.status = .success) = some row := by
      rw [Option.filter_some, if_pos (decide_eq_true hStatus)]
    rw [hFound, hPaid]
    exact sound_linked hActivated hLinked rfl

end Bodies

end activationContract

section Runs

variable {hStart : AwaitsActivation tx start.db} {activations : Activations}

/-- Nothing has been committed and no call has returned, or one activation is
committed and its subscription is all that the calls return. -/
def ActivatedOnce (tx : PaymentTransaction) (start : World) (activations : Activations) : Prop :=
  (activations.shared = start ∧ ∀ session ∈ activations.threads, session.returned = none) ∨
    ∃ subscription, Activated tx start.db activations.shared.db subscription ∧
      ∀ session ∈ activations.threads, ∀ value, session.returned = some value → value = subscription

theorem activation_step (h : (activationContract tx start hStart).Holds activations)
    (move : Move (ActivationOf tx.razorpayOrderId) (Event Env ServiceError)) :
    (activationContract tx start hStart).Holds (activate activations move) := by
  cases move with
  | start params =>
      refine Contract.Holds.start h ?_ rfl
      exact @Contract.Follows.call _ _ _ _ _ _ _ _ _ paymentStore activations.shared
        (.repository (.activateSubscriptionWithOutbox params.1)) (activationContract tx start hStart)
        (fun env later _ _ => ⟨_, rfl, activationContract.sound_activate params.2⟩)
        fun later subscription _ _ hActivated => hActivated
  | advance index event =>
      refine Contract.Holds.advance h fun session _ _ writes committed _ hLogged hApply => ?_
      rcases hLogged with rfl | ⟨hShared, hCommits⟩
      · cases hApply
        exact ⟨h.shared, Or.inl rfl⟩
      · rw [hShared] at hApply
        obtain ⟨subscription, hActivated⟩ := hCommits committed hApply
        exact ⟨Or.inr ⟨subscription, hActivated⟩, Or.inr ⟨hShared, subscription, hActivated⟩⟩

theorem activatedOnce_of_holds (h : (activationContract tx start hStart).Holds activations) :
    ActivatedOnce tx start activations := by
  have hReturned : ∀ session ∈ activations.threads, ∀ value, session.returned = some value →
      Activated tx start.db activations.shared.db value :=
    fun session hSession value hValue => Contract.Holds.result h hSession hValue
  rcases h.shared with hNone | ⟨subscription, hActivated⟩
  · refine Or.inl ⟨hNone, fun session hSession => ?_⟩
    refine Option.eq_none_iff_forall_not_mem.mpr fun value hValue => ?_
    exact hStart.not_activated (hNone ▸ hReturned session hSession value hValue)
  · exact Or.inr ⟨subscription, hActivated, fun session hSession value hValue =>
      (hReturned session hSession value hValue).unique hActivated⟩

/-- Whatever the order of their statements, and whichever of them are aborted or
crash, the activations of one order activate it once. -/
theorem activatedOnce_always (start : World) (tx : PaymentTransaction) (hStart : AwaitsActivation tx start.db)
    (moves : List (Move (ActivationOf tx.razorpayOrderId) (Event Env ServiceError))) :
    Always activate { shared := start, threads := [] } moves (ActivatedOnce tx start) := by
  intro past _
  exact activatedOnce_of_holds (run_invariant (activationContract tx start hStart).Holds
    (fun _ move h => activation_step h move) (Pool.Invariant.empty (Or.inl rfl)) past)

end Runs

namespace Sample

def openTransaction : PaymentTransaction := (openOrder.db.transactions.get? 0).get (by decide)

/-- The activation of the open order at one time. -/
def activation (now : Instant) : ActivationOf openTransaction.razorpayOrderId :=
  ⟨activationParams openTransaction monthlyPlan "pay_1" "" now,
    activationParams_isFor openTransaction monthlyPlan "pay_1" "" now⟩

/-- A second activation waits for the row that the first one has claimed. -/
def overlappingActivations : List (Move (ActivationOf openTransaction.razorpayOrderId) (Event Env ServiceError)) :=
  [.start (activation 2000), .start (activation 3000)] ++
    List.replicate 4 (.advance 0 (.proceed (env 2000))) ++ List.replicate 4 (.advance 1 (.proceed (env 3000))) ++
    List.replicate 8 (.advance 0 (.proceed (env 2000))) ++ List.replicate 8 (.advance 1 (.proceed (env 3000)))

end Sample

theorem activatedOnce_overlapping :
    Always activate { shared := Sample.openOrder, threads := [] } Sample.overlappingActivations
      (ActivatedOnce Sample.openTransaction Sample.openOrder) :=
  activatedOnce_always Sample.openOrder Sample.openTransaction ⟨by decide, by decide, by decide, by decide⟩
    Sample.overlappingActivations

end SpotqPayment
