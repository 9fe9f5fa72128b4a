import SpotqPayment.System.Commits
import SpotqPayment.Library.Run

/-! The repository methods and the use cases, one after another: each transaction
that they open is committed with a log of the contract. -/
namespace SpotqPayment

open Process Transition Engine ReadCommitted PaymentTransactionRepository SubscriptionRepository

variable {config : Config} {kind : Call → Prop} {world : World} {tx : PaymentTransaction} {now : Instant}

/-- A transaction that has promised no event. -/
abbrev unpromised (config : Config) (kind : Call → Prop) : Commitment :=
  { config, kind, announced := fun _ => False }

section Methods

variable {announced : CreateOutboxEventInput → Prop} {writes : List Write}

theorem commit_nil : Commit (unpromised config kind) world.db [] := Commit.nil

theorem fulfilled_unpromised : (unpromised config kind).Fulfilled writes := fun _ hNone => absurd hNone id

/-- A method of one statement that the contract says nothing about. -/
theorem sound_await {request : RepositoryCall} {statement : Statement}
    {rest : Except ServiceError statement.Answer → Repository request.Answer} (hPlain : statement.Plain)
    (hOk : ∀ answer, ∃ value, rest (.ok answer) = .ret value ∧
      ∀ world, ReadsKnown (.repository request) world value)
    (hError : ∀ error, ∃ failure, rest (.error error) = .fail failure) :
    MethodSound (commitContract config kind) request (.await statement rest) [] world := by
  intro env later view _ _ _
  refine ⟨fun error => ?_, fun answer new hEval => ?_⟩
  · obtain ⟨failure, hFailure⟩ := hError error
    rw [hFailure]
    trivial
  · obtain ⟨value, hValue, hReads⟩ := hOk answer
    have hNew := Statement.writes_of_plain hPlain hEval
    have hCommit : Commit (unpromised config kind) later.db ([] ++ new) := by
      refine commit_nil.append ?_ ?_ ?_
      · exact fun row hRow => absurd (hNew _ hRow).1 (Option.some_ne_none row)
      · exact fun row hRow => absurd (hNew _ hRow).2.1 (Option.some_ne_none row)
      · exact fun event hEvent => absurd (hNew _ hEvent).2.2 (Option.some_ne_none event)
    rw [hValue]
    exact sound_ret hCommit fulfilled_unpromised hReads

/-- The requests of one statement, except for those about one gateway order. -/
def RepositoryCall.Plain : RepositoryCall → Prop
  | .findByCustomerOrderId _ | .findPendingByRestaurantAndPlan _ _ | .findPlanById _ => True
  | .findActiveByRestaurantId _ | .findSubscriptionById _ | .createInvoice _ | .findPastDueSubscriptions _ => True
  | _ => False

theorem sound_of_plain {request : RepositoryCall} (h : request.Plain) (env : Env) :
    MethodSound (commitContract config kind) request (request.body env) [] world := by
  cases request with
  | findByCustomerOrderId _ | findPendingByRestaurantAndPlan _ _ | findPlanById _
  | findActiveByRestaurantId _ | findSubscriptionById _ | createInvoice _ | findPastDueSubscriptions _ =>
      exact sound_await trivial (fun answer => ⟨answer, rfl, fun _ => trivial⟩) fun error => ⟨error, rfl⟩
  | _ => exact absurd h id

theorem sound_findByOrderId (target : String) :
    MethodSound (commitContract config kind) (.findByOrderId target) (findByOrderId target) [] world := by
  intro env later view _ _ hView
  refine ⟨fun error => trivial, fun found new hEval => ?_⟩
  cases view_of_nil hView
  cases hEval
  intro final hRely _
  refine ⟨⟨_, commit_nil, fulfilled_unpromised⟩, fun committed hCommitted => ?_⟩
  cases view_of_nil hCommitted
  cases hFound : later.db.findTransaction (.razorpayOrderId target) with
  | none => trivial
  | some row =>
      have hKnown := known_of_mem (Database.findTransaction_mem hFound)
      exact ⟨hKnown.later hRely.1, Database.findTransaction_orderId hFound⟩

theorem sound_createTransaction (data : CreatePaymentTransactionInput) :
    MethodSound (commitContract config kind) (.createTransaction data) (create data) [] world := by
  intro env later view _ _ hView
  refine ⟨fun error => trivial, fun row new hEval => ?_⟩
  cases view_of_nil hView
  cases hEval
  have hFresh : later.db.transactions.get? (later.db.transactionRow env data).id = none := Table.get?_freshKey
  have hWrite : TransactionWrite (unpromised config kind) later.db (later.db.transactionRow env data) := by
    refine ⟨fun old hOld => ?_, .created rfl⟩
    rw [hFresh] at hOld
    cases hOld
  exact sound_ret (commit_nil.append_transaction hWrite) fulfilled_unpromised fun _ => trivial

/-- An update of one transaction and the event that announces it. -/
theorem sound_outcome (request : RepositoryCall) {key : TransactionKey} {data : PaymentTransaction → PaymentTransaction}
    {event : CreateOutboxEventInput} (answer : PaymentTransaction → request.Answer)
    (hData : ∀ db row, world.db.Extends db → TransactionWrite { config, kind, announced := (· = event) } db row →
      key.Matches row → TransactionWrite { config, kind, announced := (· = event) } db (data row))
    (hEvent : event.Produced) (hAnswer : ∀ world value, ReadsKnown (.repository request) world value) :
    MethodSound (commitContract config kind) request
      (query (.updateTransaction key data) >>= fun updated =>
        query (.createOutboxEvent event) >>= fun _ => .ret (answer updated)) [] world := by
  refine sound_update request Commit.nil hData fun later row _ hCommit => ?_
  refine sound_createEvent request hCommit hEvent fun last inserted hInserted hAll => ?_
  refine sound_ret hAll (fun promised hPromised => ⟨inserted, ?_, hInserted.trans hPromised.symm⟩)
    fun world => hAnswer world _
  exact List.mem_append_right _ List.mem_cons_self

theorem sound_captureOrderPayment {params : CaptureOrderPaymentWithOutboxParams} (hTx : tx.Known world.db)
    (hId : params.transaction.id = tx.id) (hStatus : params.transaction.status = .captured)
    (hPaid : Paid config kind tx.razorpayOrderId params.transaction.razorpayPaymentId)
    (hEvent : ∀ orderId, tx.orderId = some orderId → params.outbox.AnnouncesCapture tx orderId)
    (hProduced : params.outbox.Produced) :
    MethodSound (commitContract config kind) (.captureOrderPaymentWithOutbox params)
      (captureOrderPaymentWithOutbox params) [] world := by
  refine Contract.Sound.read_bind fun env later view hRely _ _ => ⟨_, rfl, ?_⟩
  have hKnown := hTx.later hRely.1
  cases view.db.findTransaction (.id params.transaction.id) with
  | none => trivial
  | some existing =>
      simp only
      split
      · exact sound_ret commit_nil fulfilled_unpromised fun _ => trivial
      · unfold storeCapture
        refine sound_outcome (.captureOrderPaymentWithOutbox params) id (fun db row hExtends hRow hMatch => ?_) hProduced fun _ _ => trivial
        have hSame := hRow.sameOrder (hKnown.later hExtends) (hMatch.trans hId)
        have hChanged : (capturedRow params.transaction row).SameOrder row := ⟨rfl, rfl, rfl, rfl, rfl, rfl, rfl⟩
        refine hRow.change hChanged (.captured hStatus ?_ fun orderId hOrder => ?_)
        · show Paid config kind row.razorpayOrderId _
          rw [hSame.razorpayOrderId]
          exact hPaid
        · have hAnnounces := hEvent orderId (hSame.orderId.symm.trans hOrder)
          exact ⟨params.outbox, rfl, hAnnounces.sameOrder (hChanged.trans hSame)⟩

theorem sound_failOrderPayment {params : FailOrderPaymentWithOutboxParams} (hTx : tx.Known world.db)
    (hId : params.transaction.id = tx.id) (hStatus : params.transaction.status = .failed)
    (hEvent : ∀ orderId, tx.orderId = some orderId → params.outbox.AnnouncesFailure tx orderId)
    (hProduced : params.outbox.Produced) :
    MethodSound (commitContract config kind) (.failOrderPaymentWithOutbox params)
      (failOrderPaymentWithOutbox params) [] world := by
  refine Contract.Sound.read_bind fun env later view hRely _ _ => ⟨_, rfl, ?_⟩
  have hKnown := hTx.later hRely.1
  cases view.db.findTransaction (.id params.transaction.id) with
  | none => trivial
  | some existing =>
      simp only
      split
      · exact sound_ret commit_nil fulfilled_unpromised fun _ => trivial
      · unfold storeFailure
        refine sound_outcome (.failOrderPaymentWithOutbox params) id (fun db row hExtends hRow hMatch => ?_) hProduced fun _ _ => trivial
        have hSame := hRow.sameOrder (hKnown.later hExtends) (hMatch.trans hId)
        have hChanged : (failedRow params.transaction row).SameOrder row := ⟨rfl, rfl, rfl, rfl, rfl, rfl, rfl⟩
        refine hRow.change hChanged (.failed hStatus fun orderId hOrder => ?_)
        have hAnnounces := hEvent orderId (hSame.orderId.symm.trans hOrder)
        exact ⟨params.outbox, rfl, hAnnounces.sameOrder (hChanged.trans hSame)⟩

/-- A status that neither an event nor a payment goes with. -/
theorem TransactionWrite.silent {commitment : Commitment} {db : Database} {row : PaymentTransaction}
    (h : TransactionWrite commitment db row) {status : PaymentStatus} (updatedAt : Instant)
    (hStatus : status = .created ∨ status = .refunded) :
    TransactionWrite commitment db (statusRow status updatedAt row) := by
  refine h.change ⟨rfl, rfl, rfl, rfl, rfl, rfl, rfl⟩ ?_
  rcases hStatus with rfl | rfl
  · exact .created rfl
  · exact .refunded rfl

theorem sound_processOrderRefund {params : ProcessOrderRefundParams} (hStatus : params.transaction.status = .refunded) :
    MethodSound (commitContract config kind) (.processOrderRefund params)
      (PaymentTransactionRepository.processOrderRefund params now) [] world := by
  refine Contract.Sound.read_bind fun env later view _ _ _ => ⟨_, rfl, ?_⟩
  cases view.db.findTransaction (.id params.transaction.id) with
  | none => trivial
  | some existing =>
      simp only
      split
      · trivial
      · refine sound_update (.processOrderRefund params) commit_nil (fun db row _ hRow _ =>
          hRow.silent params.transaction.updatedAt (Or.inr hStatus)) fun _ row _ hCommit => ?_
        refine sound_plain (.processOrderRefund params) hCommit trivial fun _ refund _ _ hCommit => ?_
        refine sound_plain (.processOrderRefund params) hCommit trivial fun _ count _ _ hCommit => ?_
        exact sound_ret hCommit fulfilled_unpromised fun _ => trivial

theorem sound_settleRefund (params : SyncRefundFromWebhookParams) (transactionId : Uuid)
    (h : Commit (unpromised config kind) world.db writes) :
    MethodSound (commitContract config kind) (.syncRefundFromWebhook params)
      (settleRefund transactionId now) writes world := by
  refine sound_update (.syncRefundFromWebhook params) h (fun db row _ hRow _ => hRow.silent now (Or.inr rfl)) fun _ row _ hCommit => ?_
  refine sound_plain (.syncRefundFromWebhook params) hCommit trivial fun _ count _ _ hCommit => ?_
  exact sound_ret hCommit fulfilled_unpromised fun _ => trivial

theorem sound_syncRefund (params : SyncRefundFromWebhookParams) :
    MethodSound (commitContract config kind) (.syncRefundFromWebhook params)
      (syncRefundFromWebhook params now) [] world := by
  refine Contract.Sound.read_bind fun env later view _ _ _ => ⟨_, rfl, ?_⟩
  cases view.db.findRefund params.razorpayRefundId with
  | some refund =>
      simp only
      refine sound_plain (.syncRefundFromWebhook params) commit_nil trivial fun _ updated _ _ hCommit => ?_
      split
      · exact sound_settleRefund params _ hCommit
      · exact sound_ret hCommit fulfilled_unpromised fun _ => trivial
  | none =>
      simp only
      split
      · exact sound_ret commit_nil fulfilled_unpromised fun _ => trivial
      · refine Contract.Sound.read_bind fun env later view _ _ _ => ⟨_, rfl, ?_⟩
        split
        · exact sound_ret commit_nil fulfilled_unpromised fun _ => trivial
        · refine sound_plain (.syncRefundFromWebhook params) commit_nil trivial fun _ refund _ _ hCommit => ?_
          split
          · exact sound_settleRefund params _ hCommit
          · exact sound_ret hCommit fulfilled_unpromised fun _ => trivial

/-- A failure is marked only on an order of no food order. -/
theorem sound_markFailed (hTx : tx.Known world.db) (hPlain : tx.orderId = none) (failureReason : String) :
    MethodSound (commitContract config kind) (.markFailed tx.razorpayOrderId failureReason)
      (PaymentTransactionRepository.markFailed tx.razorpayOrderId failureReason now) [] world := by
  intro env later view hRely _ hView
  refine ⟨fun error => trivial, fun answer new hEval => ?_⟩
  cases view_of_nil hView
  obtain ⟨own, hOwn, hSame⟩ := hTx.later hRely.1
  have hMem := (Table.get?_eq_some.mp hOwn).1
  have hFound := Database.findTransaction_of_mem hMem
  rw [hSame.razorpayOrderId] at hFound
  cases (eval_updateTransaction hFound _).symm.trans hEval
  have hWrite : TransactionWrite (unpromised config kind) later.db
      { own with status := .failed, failureReason := some failureReason, updatedAt := now } := by
    refine (transactionWrite_of_mem hMem).change ⟨rfl, rfl, rfl, rfl, rfl, rfl, rfl⟩ (.failed rfl ?_)
    intro orderId hOrder
    cases (hSame.orderId.trans hPlain).symm.trans hOrder
  exact sound_ret (commit_nil.append_transaction hWrite) fulfilled_unpromised fun _ => trivial

theorem sound_resetToCreated (target : String) :
    MethodSound (commitContract config kind) (.resetToCreated target) (resetToCreated target now) [] world := by
  have hSound : MethodSound (commitContract config kind) (.resetToCreated target)
      (resetToCreated target now >>= fun row => .ret row) [] world :=
    sound_update (.resetToCreated target) commit_nil (fun db row _ hRow _ => hRow.silent now (Or.inl rfl))
      fun _ row _ hCommit => sound_ret hCommit fulfilled_unpromised fun _ => trivial
  rw [bind_ret] at hSound
  exact hSound

/-- A claimed order is paid, by the payment that the activation has been given. -/
theorem paidRow_write {commitment : Commitment} {db : Database} {row : PaymentTransaction}
    {payment : ActivationPayment} (h : TransactionWrite commitment db row)
    (hOrder : row.razorpayOrderId = payment.razorpayOrderId)
    (hPaid : Paid commitment.config commitment.kind payment.razorpayOrderId (some payment.razorpayPaymentId)) :
    TransactionWrite commitment db (paidRow payment now row) := by
  refine h.change ⟨rfl, rfl, rfl, rfl, rfl, rfl, rfl⟩ (.success rfl ?_)
  show Paid _ _ row.razorpayOrderId (some payment.razorpayPaymentId)
  rw [hOrder]
  exact hPaid

section Activation

variable {params : ActivateSubscriptionWithOutboxParams} {invoiceNumber : String} {subscription : Subscription}

/-- The invoice of an activation, and what comes after it. -/
theorem sound_recordInvoice (existingTx : Option PaymentTransaction) {next : Unit → Repository Subscription}
    (h : Commit { config, kind, announced } world.db writes)
    (hNext : ∀ later new, Commit { config, kind, announced } later.db (writes ++ new) →
      MethodSound (commitContract config kind) (.activateSubscriptionWithOutbox params) (next ()) (writes ++ new)
        later) :
    MethodSound (commitContract config kind) (.activateSubscriptionWithOutbox params)
      (recordInvoice params existingTx subscription.id invoiceNumber now >>= next) writes world := by
  unfold recordInvoice
  rw [bind_assoc]
  refine Contract.Sound.read_bind fun env later view hRely _ _ => ⟨_, rfl, ?_⟩
  have hLater := h.later hRely.2
  split
  · rw [bind_assoc]
    exact sound_plain (.activateSubscriptionWithOutbox params) hLater trivial fun last _ new _ hCommit =>
      hNext last new hCommit
  · rw [bind_assoc]
    exact sound_plain (.activateSubscriptionWithOutbox params) hLater trivial fun last _ new _ hCommit =>
      hNext last new hCommit
  · have hSame := hNext later [] (by rwa [List.append_nil])
    rwa [List.append_nil] at hSame

/-- What the callers pass to an activation. -/
structure ActivateSubscriptionWithOutboxParams.Proper (config : Config) (kind : Call → Prop)
    (params : ActivateSubscriptionWithOutboxParams) : Prop where
  active : params.subscription.status = .active
  announces : ∀ id, (activationEvent params id).AnnouncesActivation id ∧ (activationEvent params id).Produced
  paid : Paid config kind params.payment.razorpayOrderId (some params.payment.razorpayPaymentId)

theorem sound_openSubscription (existingTx : Option PaymentTransaction) (hParams : params.Proper config kind)
    (h : Commit (unpromised config kind) world.db writes) :
    MethodSound (commitContract config kind) (.activateSubscriptionWithOutbox params)
      (openSubscription params existingTx invoiceNumber now) writes world := by
  refine Contract.Sound.call_bind fun env later view hRely _ _ subscription new hEval => ?_
  cases hEval
  have hEvent := hParams.announces (view.db.subscriptionRow env params.subscription).id
  have hOpened : Commit { config, kind, announced := (· = activationEvent params
      (view.db.subscriptionRow env params.subscription).id) } later.db
        (writes ++ [.subscription (view.db.subscriptionRow env params.subscription)]) := by
    refine ((h.later hRely.2).promise fun _ hNone => absurd hNone id).append ?_ ?_ ?_
    · exact fun row hRow => nomatch List.mem_singleton.mp hRow
    · intro row hRow
      cases List.mem_singleton.mp hRow
      exact .opened hParams.active ⟨_, rfl, hEvent.1⟩
    · exact fun event hRow => nomatch List.mem_singleton.mp hRow
  refine sound_update (.activateSubscriptionWithOutbox params) hOpened
    (fun db row _ hRow _ => hRow.again ⟨rfl, rfl, rfl, rfl, rfl, rfl, rfl⟩ rfl rfl) fun _ row _ hLinked => ?_
  refine sound_recordInvoice existingTx hLinked fun _ invoice hInvoiced => ?_
  refine sound_createEvent (.activateSubscriptionWithOutbox params) hInvoiced hEvent.2 fun _ event hData hAll => ?_
  refine sound_ret hAll (fun promised hPromised => ⟨event, ?_, hData.trans hPromised.symm⟩) fun _ => trivial
  exact List.mem_append_right _ List.mem_cons_self

/-- The second look for a linked subscription, and what comes after it. -/
theorem sound_linkedSubscription (found : Option PaymentTransaction) {next : Option Subscription → Repository Subscription}
    (h : Commit (unpromised config kind) world.db writes)
    (hNext : ∀ later, Commit (unpromised config kind) later.db writes →
      MethodSound (commitContract config kind) (.activateSubscriptionWithOutbox params) (next none) writes later)
    (hSome : ∀ subscription, next (some subscription) = .ret subscription) :
    MethodSound (commitContract config kind) (.activateSubscriptionWithOutbox params)
      (linkedSubscription found >>= next) writes world := by
  unfold linkedSubscription
  cases found.bind (·.subscriptionId) with
  | none => exact hNext world h
  | some id =>
      refine Contract.Sound.read_bind fun env later view hRely _ _ => ⟨_, rfl, ?_⟩
      cases view.db.subscriptions.get? id with
      | none => exact hNext later (h.later hRely.2)
      | some subscription =>
          rw [hSome]
          exact sound_ret (h.later hRely.2) fulfilled_unpromised fun _ => trivial

theorem sound_claimAndOpen (existingTx : Option PaymentTransaction) (hParams : params.Proper config kind) :
    MethodSound (commitContract config kind) (.activateSubscriptionWithOutbox params)
      (claimAndOpen params existingTx invoiceNumber now) [] world := by
  refine Contract.Sound.call_bind fun env later view _ _ hView count new hEval => ?_
  cases view_of_nil hView
  cases hEval
  have hClaimed : Commit (unpromised config kind) later.db
      ([] ++ (later.db.transactions.rows.filter fun row =>
        row.razorpayOrderId = params.payment.razorpayOrderId && row.status ≠ .success).map fun row =>
          .transaction (paidRow params.payment now row)) := by
    refine commit_nil.append (fun written hWritten => ?_) (fun row hRow => ?_) fun event hEvent => ?_
    · obtain ⟨row, hRow, hSame⟩ := List.mem_map.mp hWritten
      cases hSame
      obtain ⟨hMem, hMatch⟩ := List.mem_filter.mp hRow
      have hOrder : row.razorpayOrderId = params.payment.razorpayOrderId :=
        of_decide_eq_true (Bool.and_eq_true_iff.mp hMatch).1
      exact paidRow_write (transactionWrite_of_mem hMem) hOrder hParams.paid
    · obtain ⟨_, _, hSame⟩ := List.mem_map.mp hRow
      cases hSame
    · obtain ⟨_, _, hSame⟩ := List.mem_map.mp hEvent
      cases hSame
  split
  · refine Contract.Sound.read_bind fun env last view hRely _ _ => ⟨_, rfl, ?_⟩
    refine sound_linkedSubscription _ (hClaimed.later hRely.2) (fun world hCommit => ?_) fun _ => rfl
    exact sound_openSubscription existingTx hParams hCommit
  · exact sound_openSubscription existingTx hParams hClaimed

theorem sound_activate (hParams : params.Proper config kind) :
    MethodSound (commitContract config kind) (.activateSubscriptionWithOutbox params)
      (activateSubscriptionWithOutbox params invoiceNumber now) [] world := by
  refine Contract.Sound.read_bind fun env later view _ _ _ => ⟨_, rfl, ?_⟩
  exact sound_linkedSubscription _ commit_nil (fun world _ => sound_claimAndOpen _ hParams) fun _ => rfl

end Activation

section Expiry

open PaymentSubscriptionExpiryService

variable {pastDue rest : List (Subscription × SubscriptionPlan)}

/-- The events of an expiry: each is written already or still to come. -/
theorem sound_announceExpiry (announced : CreateOutboxEventInput → Prop)
    (h : Commit { config, kind, announced } world.db writes)
    (hRest : ∀ data, announced data → (∃ event, .outbox event ∈ writes ∧ event.data = data) ∨
      ∃ pair ∈ rest, data = expiryEvent now pair.1 pair.2) :
    MethodSound (commitContract config kind) (.expireSubscriptions pastDue now) (announceExpiry now rest) writes
      world := by
  induction rest generalizing world writes with
  | nil =>
      refine sound_ret h (fun data hData => ?_) fun _ => trivial
      rcases hRest data hData with hDone | ⟨_, hNone, _⟩
      · exact hDone
      · cases hNone
  | cons pair rest ih =>
      refine sound_createEvent (.expireSubscriptions pastDue now) h rfl fun _ event hEvent hCommit => ?_
      refine ih hCommit fun data hData => ?_
      rcases hRest data hData with ⟨done, hDone, hSame⟩ | ⟨other, hOther, hSame⟩
      · exact Or.inl ⟨done, List.mem_append_left _ hDone, hSame⟩
      · rcases List.mem_cons.mp hOther with rfl | hLater
        · exact Or.inl ⟨event, List.mem_append_right _ List.mem_cons_self, hEvent.trans hSame.symm⟩
        · exact Or.inr ⟨other, hLater, hSame⟩

theorem sound_expire :
    MethodSound (commitContract config kind) (.expireSubscriptions pastDue now) (expire pastDue now) [] world := by
  refine Contract.Sound.call_bind fun env later view _ _ hView count new hEval => ?_
  cases view_of_nil hView
  cases hEval
  exact sound_announceExpiry (fun data => ∃ pair ∈ pastDue, data = expiryEvent now pair.1 pair.2)
    (commit_expired config kind later.db pastDue now) fun data hData => Or.inr hData

end Expiry

end Methods

section Programs

theorem follows_method {request : RepositoryCall} {next : request.Answer → UseCase Reply}
    (hSound : ∀ env later, world.db.Extends later.db →
      MethodSound (commitContract config kind) request (request.body env) [] later)
    (hNext : ∀ later answer, world.db.Extends later.db → ReadsKnown (.repository request) later answer →
      (commitContract config kind).Follows (next answer) later) :
    (commitContract config kind).Follows (repository request >>= next) world :=
  Contract.Follows.call_bind (fun env later hLater _ => ⟨_, rfl, hSound env later hLater⟩)
    fun later answer hLater _ hAnswer => hNext later answer hLater hAnswer

theorem follows_plain {request : RepositoryCall} {next : request.Answer → UseCase Reply} (hPlain : request.Plain)
    (hNext : ∀ later answer, (commitContract config kind).Follows (next answer) later) :
    (commitContract config kind).Follows (repository request >>= next) world :=
  follows_method (fun env _ _ => sound_of_plain hPlain env) fun later answer _ _ => hNext later answer

theorem follows_findByOrderId {target : String} {next : Option PaymentTransaction → UseCase Reply}
    (hNone : ∀ later, (commitContract config kind).Follows (next none) later)
    (hSome : ∀ later row, row.Known later.db → row.razorpayOrderId = target →
      (commitContract config kind).Follows (next (some row)) later) :
    (commitContract config kind).Follows (repository (.findByOrderId target) >>= next) world := by
  refine follows_method (fun _ _ _ => sound_findByOrderId target) fun later found _ hFound => ?_
  cases found with
  | none => exact hNone later
  | some row => exact hSome later row hFound.1 hFound.2

/-- A remote call is carried out at once and touches no table. -/
theorem carried_remote {env : Env} {port : Port} {outcome : Except ServiceError port.Answer × World}
    (hCarry : paymentStore.carry env port world = .inl outcome)
    (hReturns : ∀ value, ReadsKnown port outcome.2 value) :
    (commitContract config kind).Carried env port world := by
  have hSame : outcome.2.db = world.db := carry_db hCarry
  refine Contract.carried_at_once hCarry trivial ?_ (fun lock => ?_) fun value _ => hReturns value
  · show world.db.Extends outcome.2.db
    rw [hSame]
    exact Database.Extends.refl world.db
  · show outcome.2.db.row lock = world.db.row lock
    rw [hSame]

theorem follows_createOrder {amountInPaise : Int} {currency : String} {next : String → UseCase Reply}
    (hNext : ∀ later orderId, (commitContract config kind).Follows (next orderId) later) :
    (commitContract config kind).Follows (call (Port.createOrder amountInPaise currency) >>= next) world :=
  Contract.Follows.carried_bind (fun _ _ _ _ => carried_remote rfl fun _ => trivial)
    fun later orderId _ _ _ => hNext later orderId

theorem follows_createOrderPayment (input : CreateOrderPaymentInput) :
    (commitContract config kind).Follows (.orderPayment <$> createOrderPayment config input) world := by
  have hOpen : ∀ world, (commitContract config kind).Follows
      (openGatewayOrder config input >>= fun output => .ret (.orderPayment output)) world := by
    intro world
    unfold openGatewayOrder
    simp only [bind_assoc]
    refine follows_createOrder fun later orderId => ?_
    exact follows_method (fun _ _ _ => sound_createTransaction _) fun _ row _ _ => trivial
  rw [map_eq, createOrderPayment, bind_assoc]
  refine follows_plain trivial fun later found => ?_
  cases found with
  | none => exact hOpen later
  | some existing =>
      simp only
      split
      · trivial
      · split
        · trivial
        · exact hOpen later

theorem follows_processOrderRefund (input : ProcessOrderRefundInput) :
    (commitContract config kind).Follows (.orderRefund <$> processOrderRefund input now) world := by
  rw [map_eq, processOrderRefund, bind_assoc]
  refine follows_plain trivial fun later found => ?_
  cases found with
  | none => trivial
  | some tx =>
      simp only [bind_assoc]
      refine Contract.Follows.check_bind fun _ _ => ?_
      unfold requestRefund
      split
      · trivial
      · simp only [bind_assoc]
        refine Contract.Follows.attempt_bind (fun _ _ _ _ => carried_remote rfl fun _ => trivial) fun last answer _ _ _ => ?_
        cases answer with
        | error error => trivial
        | ok refund =>
            simp only [recordRefund, bind_assoc]
            refine Contract.Follows.check_bind fun refunded hRefunded => ?_
            have hStatus : refunded.status = .refunded := by
              unfold PaymentTransaction.markRefunded at hRefunded
              split at hRefunded
              · cases hRefunded
              · cases hRefunded
                rfl
            exact follows_method (fun env _ _ => sound_processOrderRefund hStatus) fun _ _ _ _ => trivial

theorem follows_createSubscriptionOrder (input : CreateSubscriptionOrderInput) (invoiceNumber : String) :
    (commitContract config kind).Follows
      (.subscriptionOrder <$> createSubscriptionOrder config input invoiceNumber now) world := by
  rw [map_eq, createSubscriptionOrder]
  cases input.restaurantId with
  | none => trivial
  | some restaurantId =>
      simp only [bind_assoc]
      refine follows_plain trivial fun later found => ?_
      cases found with
      | none => trivial
      | some plan =>
          simp only
          split
          · trivial
          · simp only [bind_assoc]
            refine follows_plain trivial fun later existing => ?_
            split
            · trivial
            · simp only [reuseOrOpenOrder, bind_assoc]
              refine follows_plain trivial fun later pending => ?_
              cases pending with
              | none =>
                  simp only [openSubscriptionOrder, bind_assoc]
                  refine follows_createOrder fun later orderId => ?_
                  refine follows_method (fun _ _ _ => sound_createTransaction _) fun later row _ _ => ?_
                  exact follows_plain trivial fun _ invoice => trivial
              | some pendingTx =>
                  simp only
                  split
                  · exact follows_method (fun env _ _ => sound_resetToCreated _) fun _ _ _ _ => trivial
                  · trivial

theorem follows_expirePastDue :
    (commitContract config kind).Follows (.expired <$> expirePastDueSubscriptions now) world := by
  rw [map_eq, expirePastDueSubscriptions, bind_assoc]
  refine follows_plain trivial fun later pastDue => ?_
  split
  · trivial
  · simp only [bind_assoc]
    exact follows_method (fun env _ _ => sound_expire) fun _ _ _ _ => trivial

/-- The captured entity is the one that was read, with the payment of the caller. -/
theorem capture_eq {params : CaptureParams} {captured : PaymentTransaction} (hOpen : tx.status ≠ .captured)
    (h : tx.capture params now = .ok captured) : captured = tx.captureFields params now := by
  unfold PaymentTransaction.capture at h
  rw [if_neg hOpen] at h
  split at h
  · cases h
  · cases h
    rfl

theorem follows_capture {params : CaptureOrderPaymentWithOutboxParams} {next : PaymentTransaction → UseCase Reply}
    (hTx : tx.Known world.db) (hId : params.transaction.id = tx.id) (hStatus : params.transaction.status = .captured)
    (hPaid : Paid config kind tx.razorpayOrderId params.transaction.razorpayPaymentId)
    (hEvent : ∀ orderId, tx.orderId = some orderId → params.outbox.AnnouncesCapture tx orderId)
    (hProduced : params.outbox.Produced)
    (hNext : ∀ later row, (commitContract config kind).Follows (next row) later) :
    (commitContract config kind).Follows (repository (.captureOrderPaymentWithOutbox params) >>= next) world :=
  follows_method (fun _ _ hLater =>
      sound_captureOrderPayment (hTx.later hLater) hId hStatus hPaid hEvent hProduced)
    fun later row _ _ => hNext later row

theorem follows_verifyOrderPayment {input : VerifyOrderPaymentInput} (hKind : kind (.verifyOrderPayment input)) :
    (commitContract config kind).Follows (.orderVerification <$> verifyOrderPayment config input now) world := by
  rw [map_eq, verifyOrderPayment, bind_assoc]
  refine follows_findByOrderId (fun _ => trivial) fun later tx hTx hOrder => ?_
  simp only [bind_assoc]
  refine Contract.Follows.check_bind fun _ hBelongs => ?_
  refine Contract.Follows.check_bind fun _ _ => ?_
  split
  · trivial
  · next hOpen =>
      split
      · trivial
      · next hSigned =>
          simp only [captureVerified, bind_assoc]
          refine Contract.Follows.check_bind fun captured hCaptured => ?_
          have hFood : tx.orderId = some input.orderId := by
            unfold PaymentTransaction.assertBelongsToOrder at hBelongs
            split at hBelongs
            · next hBelongsTo => exact eq_of_beq hBelongsTo
            · cases hBelongs
          have hFields := capture_eq hOpen hCaptured
          refine follows_capture hTx (by rw [hFields]; rfl) (by rw [hFields]; rfl) ?_ ?_ rfl fun _ _ => trivial
          · rw [hOrder, hFields]
            exact .checkout hKind rfl (Bool.eq_true_of_not_eq_false hSigned) rfl
          · intro orderId hOrderId
            cases hFood.symm.trans hOrderId
            exact ⟨rfl, rfl, _, _, _, rfl⟩

/-- The activation of a stored transaction, on the strength of a payment. -/
theorem activationParams_proper {plan : SubscriptionPlan} {paymentId signature : String} {at' : Instant}
    (hPaid : Paid config kind tx.razorpayOrderId (some paymentId)) :
    (activationParams tx plan paymentId signature at').Proper config kind where
  active := rfl
  announces := fun _ => ⟨⟨rfl, rfl⟩, rfl⟩
  paid := hPaid

theorem follows_verifyPayment {input : VerifyPaymentInput} (hKind : kind (.verifyPayment input)) :
    (commitContract config kind).Follows (.verification <$> verifyPayment config input now) world := by
  rw [map_eq, verifyPayment]
  split
  · trivial
  · next hSigned =>
      rw [bind_assoc]
      refine follows_findByOrderId (fun _ => trivial) fun later tx hTx hOrder => ?_
      simp only
      split
      · trivial
      · split
        · simp only [completedResponse, bind_assoc]
          refine follows_plain trivial fun _ subscription => ?_
          split
          · simp only [bind_assoc]
            exact follows_plain trivial fun _ plan => trivial
          · trivial
        · unfold activateVerified
          split
          · trivial
          · simp only [bind_assoc]
            refine follows_plain trivial fun _ found => ?_
            cases found with
            | none => trivial
            | some plan =>
                simp only [bind_assoc]
                have hPaid : Paid config kind tx.razorpayOrderId (some input.razorpayPaymentId) := by
                  rw [hOrder]
                  exact .checkout hKind rfl (Bool.eq_true_of_not_eq_false hSigned) rfl
                exact follows_method (fun _ _ _ => sound_activate (activationParams_proper hPaid))
                  fun _ _ _ _ => trivial

variable {payload : WebhookPayload} {next : Unit → UseCase Reply}

theorem follows_handleSuccess (hDone : ∀ later, (commitContract config kind).Follows (next ()) later)
    (hPaid : ∀ razorpayOrderId stored, payload.successOrderId = some razorpayOrderId →
      Paid config kind razorpayOrderId stored) :
    (commitContract config kind).Follows (handleSuccess payload now >>= next) world := by
  unfold handleSuccess
  split
  · exact hDone world
  · next orderId hOrder =>
      simp only [bind_assoc]
      refine follows_findByOrderId hDone fun later tx hTx hTarget => ?_
      have hOwn : ∀ stored, Paid config kind tx.razorpayOrderId stored := fun stored =>
        hTarget ▸ hPaid orderId stored hOrder
      cases hFood : tx.orderId with
      | some foodOrderId =>
          simp only [captureFromWebhook, hFood]
          split
          · exact hDone later
          · next hOpen =>
              simp only [bind_assoc]
              refine Contract.Follows.check_bind fun captured hCaptured => ?_
              have hFields := capture_eq hOpen hCaptured
              refine follows_capture hTx (by rw [hFields]; rfl) (by rw [hFields]; rfl) (hOwn _) ?_ rfl
                fun later _ => hDone later
              intro other hOther
              cases hFood.symm.trans hOther
              exact ⟨rfl, rfl, _, _, _, rfl⟩
      | none =>
          simp only [activateFromWebhook, hFood]
          split
          · exact hDone later
          · exact hDone later
          · simp only [bind_assoc]
            refine follows_plain trivial fun later found => ?_
            cases found with
            | none => exact hDone later
            | some plan =>
                simp only [bind_assoc]
                exact follows_method (fun _ _ _ => sound_activate (activationParams_proper (hOwn _)))
                  fun later _ _ _ => hDone later

theorem follows_handleFailure (hDone : ∀ later, (commitContract config kind).Follows (next ()) later) :
    (commitContract config kind).Follows (handleFailure payload now >>= next) world := by
  unfold handleFailure
  split
  · exact hDone world
  · next entity _ =>
      split
      · exact hDone world
      · next orderId _ =>
          simp only [bind_assoc]
          refine follows_findByOrderId hDone fun later tx hTx hTarget => ?_
          simp only
          split
          · exact hDone later
          · next hOpen =>
              cases hFood : tx.orderId with
              | some foodOrderId =>
                  simp only [failFromWebhook, hFood, bind_assoc]
                  have hStatus : (tx.markFailed entity.failureReason now).status = .failed := by
                    rw [PaymentTransaction.markFailed, if_neg fun h => hOpen (Or.symm h)]
                  refine follows_method (fun _ _ hLater => sound_failOrderPayment (hTx.later hLater)
                    (markFailed_id _ _) hStatus ?_ rfl) fun later _ _ _ => hDone later
                  intro other hOther
                  cases hFood.symm.trans hOther
                  exact ⟨rfl, rfl, _, _, rfl⟩
              | none =>
                  simp only [failFromWebhook, hFood, bind_assoc]
                  rw [← hTarget]
                  exact follows_method (fun _ _ hLater => sound_markFailed (hTx.later hLater) hFood _)
                    fun later _ _ _ => hDone later

theorem follows_handleRefund (hDone : ∀ later, (commitContract config kind).Follows (next ()) later) :
    (commitContract config kind).Follows (handleRefund payload >>= next) world := by
  unfold handleRefund
  split
  · exact hDone world
  · split
    · exact hDone world
    · exact follows_method (fun _ _ _ => sound_syncRefund _) fun later _ _ _ => hDone later

theorem follows_handleWebhook {input : HandleWebhookInput} (hKind : kind (.handleWebhook input)) :
    (commitContract config kind).Follows (.webhook <$> handleWebhook config input now) world := by
  rw [map_eq, handleWebhook]
  split
  · trivial
  · next hAccepted =>
      simp only [bind_assoc]
      have hPaid : input.parsedPayload.event.isSuccess = true → ∀ razorpayOrderId stored,
          input.parsedPayload.successOrderId = some razorpayOrderId → Paid config kind razorpayOrderId stored :=
        fun hEvent _ _ hOrder => .webhook hKind (Bool.eq_true_of_not_eq_false hAccepted) hEvent hOrder
      unfold dispatchWebhook
      cases hEvent : input.parsedPayload.event with
      | paymentCaptured | orderPaid =>
          simp only
          split
          · exact follows_handleSuccess (fun _ => trivial) (hPaid (by rw [hEvent]; rfl))
          · trivial
      | paymentFailed => exact follows_handleFailure fun _ => trivial
      | refundProcessed | refundFailed => exact follows_handleRefund fun _ => trivial
      | other name => trivial

/-- Every call of the service, whatever runs beside it. -/
theorem follows_process {request : Request} (hKind : kind request.call) :
    (commitContract config kind).Follows (request.call.process config request.env) world := by
  obtain ⟨call, env⟩ := request
  cases call with
  | createOrderPayment input => exact follows_createOrderPayment input
  | verifyOrderPayment input => exact follows_verifyOrderPayment hKind
  | processOrderRefund input => exact follows_processOrderRefund input
  | createSubscriptionOrder input => exact follows_createSubscriptionOrder input env.invoiceNumber
  | verifyPayment input => exact follows_verifyPayment hKind
  | handleWebhook input => exact follows_handleWebhook hKind
  | expirePastDueSubscriptions => exact follows_expirePastDue

end Programs

section Runs

variable {sessions : Sessions}

/-- The session may take any step: what it commits keeps every order. -/
theorem commits_well (session : ServiceSession) (world : World) :
    Contract.CommitsWell (commitContract config kind) session world := by
  rintro writes committed _ ⟨announced, hCommit, _⟩ hApply
  exact ⟨trivial, hCommit.extends_written (written_of_view hApply)⟩

theorem commit_step (h : (commitContract config kind).Holds sessions)
    (move : Move (RequestOf kind) (Event Env ServiceError)) :
    (commitContract config kind).Holds (isolate config sessions move) := by
  cases move with
  | start request => exact Contract.Holds.start h (follows_process request.2) rfl
  | advance index event => exact Contract.Holds.advance h fun session _ _ => commits_well session sessions.shared

/-- What a step of a run does to the database: nothing, or one commit. -/
theorem step_commits (h : (commitContract config kind).Holds sessions)
    (move : Move (RequestOf kind) (Event Env ServiceError)) :
    (isolate config sessions move).shared.db = sessions.shared.db ∨ ∃ announced writes,
      Commit { config, kind, announced } sessions.shared.db writes ∧
        Commitment.Fulfilled { config, kind, announced } writes ∧
          sessions.shared.db.Written writes (isolate config sessions move).shared.db := by
  cases move with
  | start request => exact Or.inl rfl
  | advance index event =>
      unfold isolate
      cases hSession : sessions.threads[index]? with
      | none =>
          rw [Pool.next_missing hSession]
          exact Or.inl rfl
      | some session =>
          rw [Pool.next_advance hSession]
          rcases paymentStore.step_cases event (sessions.threads.eraseIdx index) session sessions.shared with
            hSame | ⟨env, op, answer, after, _, _, hCarry, hAfter⟩ | ⟨writes, committed, hWrites, hApply, hAfter⟩
          · exact Or.inl (congrArg World.db hSame)
          · exact Or.inl ((congrArg World.db hAfter).trans (carry_db hCarry))
          · obtain ⟨announced, hCommit, hFulfilled⟩ := Contract.Holds.logged h
              (by rw [hSession]; exact hWrites : (sessions.threads[index]?).bind Session.committing = some writes)
            refine Or.inr ⟨announced, writes, hCommit, hFulfilled, ?_⟩
            rw [hAfter]
            exact written_of_view hApply

theorem holds_quiet (world : World) : (commitContract config kind).Holds world.quiet := Pool.Invariant.empty trivial

/-- What every commit keeps holds in all states of every run. -/
theorem always_of_commits (J : Database → Prop)
    (hKeep : ∀ announced db writes after, Commit { config, kind, announced } db writes →
      Commitment.Fulfilled { config, kind, announced } writes → db.Written writes after → J db → J after)
    (hStart : J world.db) (moves : List (Move (RequestOf kind) (Event Env ServiceError))) :
    Always (isolate config) world.quiet moves fun sessions => J sessions.shared.db := by
  have hStep : ∀ (sessions : Sessions) (move : Move (RequestOf kind) (Event Env ServiceError)),
      (commitContract config kind).Holds sessions ∧ J sessions.shared.db →
        (commitContract config kind).Holds (isolate config sessions move) ∧
          J (isolate config sessions move).shared.db := by
    rintro sessions move ⟨hHolds, hJ⟩
    refine ⟨commit_step hHolds move, ?_⟩
    rcases step_commits hHolds move with hSame | ⟨announced, writes, hCommit, hFulfilled, hWritten⟩
    · rw [hSame]
      exact hJ
    · exact hKeep announced _ writes _ hCommit hFulfilled hWritten hJ
  intro past _
  have hReached := run_invariant (fun sessions : Sessions =>
    (commitContract config kind).Holds sessions ∧ J sessions.shared.db) hStep ⟨holds_quiet world, hStart⟩ past
  exact hReached.2

end Runs

end SpotqPayment
