import SpotqPayment.System.Changes
import SpotqPayment.System.Isolation

/-! Verifications and webhooks of one food order that run at the same time. The
status is read before the transaction and once more inside it, but neither read
locks the row, and the update does not look at the status. -/
namespace SpotqPayment

open Process Transition Engine ReadCommitted PaymentTransactionRepository

/-- The outcomes announced for a transaction, oldest first. -/
def Database.outcomes (db : Database) (id : Uuid) : List PaymentStatus :=
  db.outbox.rows.filterMap fun event =>
    if event.payload.paymentId? = some id then event.eventType.outcome? else none

/-- The calls that settle a food order. -/
inductive Call.Settles (razorpayOrderId : String) : Call → Prop where
  | verifyOrderPayment {input : VerifyOrderPaymentInput} (hOrder : input.razorpayOrderId = razorpayOrderId) :
      Settles razorpayOrderId (.verifyOrderPayment input)
  | handleWebhook {input : HandleWebhookInput}
      (hOrder : input.parsedPayload.reportedOrder = some razorpayOrderId) :
      Settles razorpayOrderId (.handleWebhook input)

/-- A food order that is CREATED without an announced outcome, or CAPTURED or
FAILED with the event that says so. -/
structure OutcomeLedger (tx : PaymentTransaction) (db : Database) : Prop where
  stored : ∃ row, db.transactions.get? tx.id = some row ∧ row.razorpayOrderId = tx.razorpayOrderId ∧
    row.orderId = tx.orderId
  announced : (db.statusOf tx.id = some .created ∧ db.outcomes tx.id = []) ∨
    ∃ outcome, (outcome = .captured ∨ outcome = .failed) ∧ db.statusOf tx.id = some outcome ∧
      db.outcomes tx.id = [outcome]

/-- At most one outcome is announced, and with no call in flight it is the stored one. -/
def OneOutcome (tx : PaymentTransaction) (sessions : Sessions) : Prop :=
  (sessions.shared.db.outcomes tx.id).length ≤ 1 ∧
    ((∀ session ∈ sessions.threads, session.Ended) →
      ∀ outcome ∈ sessions.shared.db.outcomes tx.id, sessions.shared.db.statusOf tx.id = some outcome)

/-- A transaction that has updated the order is committed only while the
committed status is still CREATED. -/
def CommitsOutcomeOnce {kind : Call → Prop} (tx : PaymentTransaction) (sessions : Sessions) :
    Move (RequestOf kind) (Event Env ServiceError) → Prop
  | .start _ => True
  | .advance index event =>
      event.Commits → ∀ writes, (sessions.threads[index]?).bind Session.committing = some writes →
        writes.filterMap Write.transaction? ≠ [] → (sessions.shared.db.writeAll writes).isSome →
          sessions.shared.db.statusOf tx.id = some .created

/-- The log of a capture or of a failure: the new row and the event that announces it. -/
def Announces (tx : PaymentTransaction) (db : Database) (writes : List Write) : Prop :=
  ∃ row event outcome, writes = [.transaction row, .outbox event] ∧ row.id = tx.id ∧
    row.razorpayOrderId = tx.razorpayOrderId ∧ row.orderId = tx.orderId ∧ row.status = outcome ∧
    (outcome = .captured ∨ outcome = .failed) ∧ event.payload.paymentId? = some tx.id ∧
    event.eventType.outcome? = some outcome ∧ db.outbox.get? event.id = none

/-- The order is read as the transaction that it belongs to. -/
def ReadsFoodOrder (tx : PaymentTransaction) : (port : Port) → World → port.Answer → Prop
  | .repository (.findByOrderId target), _, some row =>
      target = tx.razorpayOrderId → row.id = tx.id ∧ row.orderId = tx.orderId
  | _, _, _ => True

def outcomeContract (tx : PaymentTransaction) : Contract paymentStore Reply where
  invariant := fun world => OutcomeLedger tx world.db
  guarantee := fun _ _ => True
  refl := fun _ => trivial
  trans := fun _ _ => trivial
  logged := fun world writes => writes = [] ∨ Announces tx world.db writes
  returns := ReadsFoodOrder tx
  result := fun _ _ => True
  stable := fun _ _ => trivial

variable {config : Config} {tx row : PaymentTransaction} {world : World} {db : Database}

namespace outcomeContract

section Bodies

variable {port : Port} {now : Instant}

/-- The row and the view of a transaction that has written it. -/
theorem outbox_of_view {row : PaymentTransaction} {world view : World}
    (h : applyAll paymentStore.apply world [.transaction row] = some view) : view.db.outbox = world.db.outbox := by
  obtain ⟨db, hDb, rfl⟩ := applyAll_world_eq_some.mp h
  obtain ⟨table, _, rfl⟩ := Database.write_transaction hDb
  rfl

theorem sound_findByOrderId (target : String) :
    MethodSound (outcomeContract tx) (.findByOrderId target)
      (PaymentTransactionRepository.findByOrderId target) [] world := by
  intro env later view _ hLedger hView
  refine ⟨fun error => trivial, fun result new hEval => ?_⟩
  cases view_of_nil hView
  cases hEval
  intro final _ _
  refine ⟨Or.inl rfl, fun committed _ => ?_⟩
  cases hFound : later.db.findTransaction (.razorpayOrderId target) with
  | none => trivial
  | some found =>
      intro hTarget
      obtain ⟨own, hOwn, hOrder, hFood⟩ := OutcomeLedger.stored hLedger
      obtain ⟨hOwnRow, hOwnId⟩ := Table.get?_eq_some.mp hOwn
      have hId := Database.id_eq_of_orderId (Database.findTransaction_mem hFound) hOwnRow
        ((Database.findTransaction_orderId hFound).trans (hTarget.trans hOrder.symm))
      have hSame := Table.eq_of_key (Database.findTransaction_mem hFound) hOwnRow hId
      rw [hSame]
      exact ⟨hOwnId, hFood⟩

/-- The update of the order and the event that announces it, as the end of a method. -/
theorem sound_outcome (request : RepositoryCall) {data : PaymentTransaction → PaymentTransaction}
    {event : CreateOutboxEventInput} {outcome : PaymentStatus} (answer : PaymentTransaction → request.Answer)
    (hData : ∀ row, (data row).id = row.id ∧ (data row).razorpayOrderId = row.razorpayOrderId ∧
      (data row).orderId = row.orderId ∧ (data row).status = outcome)
    (hOutcome : outcome = .captured ∨ outcome = .failed) (hPayment : event.payload.paymentId? = some tx.id)
    (hType : event.eventType.outcome? = some outcome)
    (hReturns : ∀ world value, ReadsFoodOrder tx (.repository request) world value) :
    MethodSound (outcomeContract tx) request
      (query (.updateTransaction (.id tx.id) data) >>= fun updated =>
        query (.createOutboxEvent event) >>= fun _ => .ret (answer updated)) [] world := by
  refine Contract.Sound.call_bind fun env later view _ hLedger hView updated new hEval => ?_
  cases view_of_nil hView
  obtain ⟨row, hRow, hOrder, hFood⟩ := OutcomeLedger.stored hLedger
  have hEvalRow : (engine env).eval (.updateTransaction (.id tx.id) data) later.db =
      .ok (data row, [.transaction (data row)]) :=
    eval_updateTransaction (show later.db.findTransaction (.id tx.id) = some row from hRow) data
  cases hEvalRow.symm.trans hEval
  have hId : row.id = tx.id := (Table.get?_eq_some.mp hRow).2
  obtain ⟨hDataId, hDataOrder, hDataFood, hStatus⟩ := hData row
  refine Contract.Sound.call_bind fun env final view _ _ hView inserted new hEval => ?_
  cases hEval
  have hOutbox := outbox_of_view hView
  have hFresh : final.db.outbox.get? (event.toRow (view.db.outbox.freshKey env.uuidFloor) env.now).id = none := by
    rw [← hOutbox]
    exact Table.get?_freshKey
  intro last hRely _
  refine ⟨Or.inr ⟨_, _, outcome, rfl, hDataId.trans hId, hDataOrder.trans hOrder, hDataFood.trans hFood,
    hStatus, hOutcome, hPayment, hType, ?_⟩, fun committed _ => hReturns committed _⟩
  -- the lock on the inserted event keeps others from storing one under its id
  have hKept := hRely.2 (.outbox (event.toRow (view.db.outbox.freshKey env.uuidFloor) env.now)) (by simp)
  have hKeptRow : (last.db.outbox.get? (event.toRow (view.db.outbox.freshKey env.uuidFloor) env.now).id).map
      Write.outbox = (final.db.outbox.get? _).map Write.outbox := hKept
  rw [hFresh] at hKeptRow
  exact Option.map_eq_none_iff.mp hKeptRow

theorem sound_captureOrderPayment {params : CaptureOrderPaymentWithOutboxParams}
    (hId : params.transaction.id = tx.id) (hStatus : params.transaction.status = .captured)
    (hPayment : params.outbox.payload.paymentId? = some tx.id)
    (hType : params.outbox.eventType.outcome? = some .captured) :
    MethodSound (outcomeContract tx) (.captureOrderPaymentWithOutbox params)
      (captureOrderPaymentWithOutbox params) [] world := by
  refine Contract.Sound.read_bind fun env later view _ _ hView => ⟨_, rfl, ?_⟩
  cases view.db.findTransaction (.id params.transaction.id) with
  | none => trivial
  | some existing =>
      simp only
      split
      · exact fun final _ _ => ⟨Or.inl rfl, fun _ _ => trivial⟩
      · unfold storeCapture
        rw [hId]
        exact sound_outcome (.captureOrderPaymentWithOutbox params) id (fun row => ⟨rfl, rfl, rfl, hStatus⟩)
          (Or.inl rfl) hPayment hType
          fun _ _ => trivial

theorem sound_failOrderPayment {params : FailOrderPaymentWithOutboxParams}
    (hId : params.transaction.id = tx.id) (hStatus : params.transaction.status = .failed)
    (hPayment : params.outbox.payload.paymentId? = some tx.id)
    (hType : params.outbox.eventType.outcome? = some .failed) :
    MethodSound (outcomeContract tx) (.failOrderPaymentWithOutbox params)
      (failOrderPaymentWithOutbox params) [] world := by
  refine Contract.Sound.read_bind fun env later view _ _ hView => ⟨_, rfl, ?_⟩
  cases view.db.findTransaction (.id params.transaction.id) with
  | none => trivial
  | some existing =>
      simp only
      split
      · exact fun final _ _ => ⟨Or.inl rfl, fun _ _ => trivial⟩
      · unfold storeFailure
        rw [hId]
        exact sound_outcome (.failOrderPaymentWithOutbox params) id (fun row => ⟨rfl, rfl, rfl, hStatus⟩)
          (Or.inr rfl) hPayment hType
          fun _ _ => trivial

end Bodies

section Programs

variable {now : Instant}

/-- The captured entity keeps its id, whatever status it had before. -/
theorem captured_of_capture {params : CaptureParams} {captured : PaymentTransaction}
    (h : row.capture params now = .ok captured) : captured.id = row.id ∧ captured.status = .captured := by
  unfold PaymentTransaction.capture at h
  split at h
  · next hCaptured =>
      cases h
      exact ⟨rfl, hCaptured⟩
  · split at h
    · cases h
    · cases h
      exact ⟨rfl, rfl⟩

theorem follows_findByOrderId {target : String} {next : Option PaymentTransaction → UseCase Reply}
    (hNone : ∀ later, (outcomeContract tx).Follows (next none) later)
    (hSome : ∀ later row, (target = tx.razorpayOrderId → row.id = tx.id ∧ row.orderId = tx.orderId) →
      (outcomeContract tx).Follows (next (some row)) later) :
    (outcomeContract tx).Follows (repository (.findByOrderId target) >>= next) world := by
  refine Contract.Follows.call_bind (fun env later _ _ => ⟨_, rfl, sound_findByOrderId target⟩) ?_
  intro later found _ _ hFound
  cases found with
  | none => exact hNone later
  | some row => exact hSome later row hFound

theorem follows_capture {params : CaptureOrderPaymentWithOutboxParams}
    (hId : params.transaction.id = tx.id) (hStatus : params.transaction.status = .captured)
    (hPayment : params.outbox.payload.paymentId? = some tx.id)
    (hType : params.outbox.eventType.outcome? = some .captured)
    (f : PaymentTransaction → UseCase Reply) (hNext : ∀ later row, (outcomeContract tx).Follows (f row) later) :
    (outcomeContract tx).Follows (repository (.captureOrderPaymentWithOutbox params) >>= f) world :=
  Contract.Follows.call_bind
    (fun _ _ _ _ => ⟨_, rfl, sound_captureOrderPayment hId hStatus hPayment hType⟩)
    fun later row _ _ _ => hNext later row

theorem follows_verifyOrderPayment {input : VerifyOrderPaymentInput}
    (hOrder : input.razorpayOrderId = tx.razorpayOrderId) :
    (outcomeContract tx).Follows (.orderVerification <$> verifyOrderPayment config input now) world := by
  rw [map_eq, verifyOrderPayment, bind_assoc]
  refine follows_findByOrderId (fun later => trivial) fun later row hRow => ?_
  obtain ⟨hId, hFood⟩ := hRow hOrder
  simp only [bind_assoc]
  refine Contract.Follows.check_bind fun _ hBelongs => ?_
  refine Contract.Follows.check_bind fun _ _ => ?_
  split
  · trivial
  · split
    · trivial
    · simp only [captureVerified, bind_assoc]
      refine Contract.Follows.check_bind fun captured hCaptured => ?_
      obtain ⟨hSame, hStatus⟩ := captured_of_capture hCaptured
      refine follows_capture (hSame.trans hId) hStatus ?_ rfl _ fun _ _ => trivial
      exact congrArg some hId

theorem follows_handleSuccess {payload : WebhookPayload} {f : Unit → UseCase Reply} (hTx : tx.orderId ≠ none)
    (hDone : ∀ later, (outcomeContract tx).Follows (f ()) later)
    (hOrder : payload.successOrderId = some tx.razorpayOrderId) :
    (outcomeContract tx).Follows (handleSuccess payload now >>= f) world := by
  unfold handleSuccess
  rw [hOrder]
  simp only [bind_assoc]
  refine follows_findByOrderId hDone fun later row hRow => ?_
  obtain ⟨hId, hFood⟩ := hRow rfl
  obtain ⟨foodOrderId, hSome⟩ := Option.ne_none_iff_exists'.mp hTx
  simp only [hFood, hSome, captureFromWebhook]
  split
  · exact hDone later
  · simp only [bind_assoc]
    refine Contract.Follows.check_bind fun captured hCaptured => ?_
    obtain ⟨hSame, hStatus⟩ := captured_of_capture hCaptured
    refine follows_capture (hSame.trans hId) hStatus ?_ rfl _ fun later _ => hDone later
    exact congrArg some hId

theorem follows_handleFailure {payload : WebhookPayload} {f : Unit → UseCase Reply} (hTx : tx.orderId ≠ none)
    (hDone : ∀ later, (outcomeContract tx).Follows (f ()) later)
    (hOrder : truthy (payload.payment.bind (·.orderId)) = some tx.razorpayOrderId) :
    (outcomeContract tx).Follows (handleFailure payload now >>= f) world := by
  unfold handleFailure
  cases hPayment : payload.payment with
  | none => exact hDone world
  | some entity =>
      rw [hPayment, Option.bind_some] at hOrder
      simp only [hOrder, bind_assoc]
      refine follows_findByOrderId hDone fun later row hRow => ?_
      obtain ⟨hId, hFood⟩ := hRow rfl
      obtain ⟨foodOrderId, hSome⟩ := Option.ne_none_iff_exists'.mp hTx
      simp only [failFromWebhook, hFood, hSome]
      split
      · exact hDone later
      · next hOpen =>
          simp only [bind_assoc]
          have hStatus : (row.markFailed entity.failureReason now).status = .failed := by
            rw [PaymentTransaction.markFailed, if_neg fun h => hOpen (Or.symm h)]
          have hSame : (row.markFailed entity.failureReason now).id = tx.id := by
            rw [markFailed_id, hId]
          exact Contract.Follows.call_bind
            (fun _ _ _ _ => ⟨_, rfl, sound_failOrderPayment hSame hStatus (congrArg some hId) rfl⟩)
            fun later _ _ _ _ => hDone later

theorem follows_handleWebhook {input : HandleWebhookInput} (hTx : tx.orderId ≠ none)
    (hOrder : input.parsedPayload.reportedOrder = some tx.razorpayOrderId) :
    (outcomeContract tx).Follows (.webhook <$> handleWebhook config input now) world := by
  rw [map_eq, handleWebhook]
  split
  · trivial
  · simp only [bind_assoc]
    unfold WebhookPayload.reportedOrder at hOrder
    unfold dispatchWebhook
    cases hEvent : input.parsedPayload.event <;> rw [hEvent] at hOrder
    case paymentCaptured | orderPaid =>
      simp only
      split
      · exact follows_handleSuccess hTx (fun _ => trivial) hOrder
      · trivial
    case paymentFailed => exact follows_handleFailure hTx (fun _ => trivial) hOrder
    all_goals cases hOrder

end Programs

end outcomeContract

/-- Every call that settles the order meets the contract. -/
theorem Call.Settles.follows {request : Request} (h : request.call.Settles tx.razorpayOrderId)
    (hTx : tx.orderId ≠ none) :
    (outcomeContract tx).Follows (request.call.process config request.env) world := by
  obtain ⟨call, env⟩ := request
  cases h with
  | verifyOrderPayment hOrder => exact outcomeContract.follows_verifyOrderPayment hOrder
  | handleWebhook hOrder => exact outcomeContract.follows_handleWebhook hTx hOrder

section Runs

variable {sessions : Sessions}

/-- The commit of an outcome adds it to the announced ones and stores it. -/
theorem Announces.committed {writes : List Write} {after : World} (h : Announces tx world.db writes)
    (hApply : applyAll paymentStore.apply world writes = some after) :
    ∃ row outcome, (outcome = .captured ∨ outcome = .failed) ∧ after.db.transactions.get? tx.id = some row ∧
      row.razorpayOrderId = tx.razorpayOrderId ∧ row.orderId = tx.orderId ∧ row.status = outcome ∧
        after.db.outcomes tx.id = world.db.outcomes tx.id ++ [outcome] := by
  obtain ⟨row, event, outcome, rfl, hId, hOrder, hFood, hStatus, hOutcome, hPayment, hType, hFresh⟩ := h
  obtain ⟨db, hDb, rfl⟩ := applyAll_world_eq_some.mp hApply
  have hTables := Database.written_of_writeAll hDb
  have hGet := hTables.get?_single rfl tx.id
  rw [if_pos hId] at hGet
  have hOutbox : world.db.outbox.putAll [event] = some db.outbox := hTables.outbox
  have hRows := Table.rows_put_fresh (Table.putAll_singleton.mp hOutbox) hFresh
  refine ⟨row, outcome, hOutcome, hGet, hOrder, hFood, hStatus, ?_⟩
  show List.filterMap _ db.outbox.rows = _
  rw [hRows, List.filterMap_append]
  simp only [List.filterMap_cons, List.filterMap_nil, hPayment, if_true, hType]
  rfl

/-- A step keeps the contract when it commits no second outcome. -/
theorem outcome_step (h : (outcomeContract tx).Holds sessions) (hTx : tx.orderId ≠ none)
    (move : Move (RequestOf (Call.Settles tx.razorpayOrderId)) (Event Env ServiceError))
    (hMove : CommitsOutcomeOnce tx sessions move) :
    (outcomeContract tx).Holds (isolate config sessions move) := by
  cases move with
  | start request => exact Contract.Holds.start h (request.2.follows hTx) rfl
  | advance index event =>
      refine Contract.Holds.advance h fun session hSession hEvent writes committed hWrites hLogged hApply => ?_
      refine ⟨?_, trivial⟩
      have hCommitting : (sessions.threads[index]?).bind Session.committing = some writes := by
        rw [hSession]
        exact hWrites
      rcases hLogged with rfl | hAnnounces
      · cases hApply
        exact h.shared
      obtain ⟨row, outcome, hOutcome, hGet, hOrder, hFood, hStatus, hOutcomes⟩ := hAnnounces.committed hApply
      have hOpen : sessions.shared.db.statusOf tx.id = some .created := by
        obtain ⟨db, hDb, _⟩ := applyAll_world_eq_some.mp hApply
        refine hMove hEvent writes hCommitting ?_ (by rw [hDb]; rfl)
        obtain ⟨_, _, _, rfl, _⟩ := hAnnounces
        exact List.cons_ne_nil _ _
      refine ⟨⟨row, hGet, hOrder, hFood⟩, Or.inr ⟨outcome, hOutcome, statusOf_eq_some.mpr ⟨row, hGet, hStatus⟩, ?_⟩⟩
      rcases OutcomeLedger.announced h.shared with ⟨_, hNone⟩ | ⟨other, hOther, hClosed, _⟩
      · rw [hOutcomes, hNone]
        rfl
      · rw [hOpen] at hClosed
        rcases hOther with rfl | rfl <;> cases hClosed

/-- A second outcome would be one too many. -/
theorem commitsOutcomeOnce_of_next (h : (outcomeContract tx).Holds sessions)
    (move : Move (RequestOf (Call.Settles tx.razorpayOrderId)) (Event Env ServiceError))
    (hAfter : OneOutcome tx (isolate config sessions move)) : CommitsOutcomeOnce tx sessions move := by
  cases move with
  | start request => trivial
  | advance index event =>
      intro hEvent writes hWrites hSome hAccepted
      obtain ⟨db, hDb⟩ := Option.isSome_iff_exists.mp hAccepted
      have hApply : applyAll paymentStore.apply sessions.shared writes = some { sessions.shared with db := db } :=
        applyAll_world_eq_some.mpr ⟨db, hDb, rfl⟩
      have hShared : (isolate config sessions (.advance index event :
          Move (RequestOf (Call.Settles tx.razorpayOrderId)) (Event Env ServiceError))).shared =
            { sessions.shared with db := db } := Contract.shared_of_commit hEvent hWrites hApply
      have hLogged : Announces tx sessions.shared.db writes := by
        rcases Contract.Holds.logged h hWrites with rfl | hAnnounces
        · exact absurd rfl hSome
        · exact hAnnounces
      obtain ⟨row, outcome, _, _, _, _, _, hOutcomes⟩ := hLogged.committed hApply
      have hOne := hAfter.1
      rw [hShared, hOutcomes, List.length_append] at hOne
      rcases OutcomeLedger.announced h.shared with ⟨hCreated, _⟩ | ⟨other, _, _, hOther⟩
      · exact hCreated
      · rw [hOther] at hOne
        exact absurd hOne (by simp)

theorem OutcomeLedger.oneOutcome (h : OutcomeLedger tx sessions.shared.db) : OneOutcome tx sessions := by
  rcases h.announced with ⟨_, hNone⟩ | ⟨outcome, _, hStatus, hOne⟩
  · rw [OneOutcome, hNone]
    exact ⟨Nat.zero_le 1, fun _ outcome hOutcome => absurd hOutcome List.not_mem_nil⟩
  · rw [OneOutcome, hOne]
    refine ⟨le_rfl, fun _ other hOther => ?_⟩
    rw [List.mem_singleton.mp hOther]
    exact hStatus

/-- A CREATED food order gets one outcome in exactly those runs in which a
transaction that updates it is committed only while it is CREATED. -/
theorem oneOutcome_iff (config : Config) (world : World) (tx : PaymentTransaction) (hTx : tx.orderId ≠ none)
    (hStored : tx ∈ world.db.transactions.rows) (hStatus : tx.status = .created)
    (hNone : world.db.outcomes tx.id = [])
    (moves : List (Move (RequestOf (Call.Settles tx.razorpayOrderId)) (Event Env ServiceError))) :
    Always (isolate config) world.quiet moves (OneOutcome tx) ↔
      EveryStep (isolate config) world.quiet moves (CommitsOutcomeOnce tx) := by
  have hGet : world.db.transactions.get? tx.id = some tx := Table.get?_key hStored
  have hLedger : OutcomeLedger tx world.db :=
    ⟨⟨tx, hGet, rfl, rfl⟩, Or.inl ⟨statusOf_eq_some.mpr ⟨tx, hGet, hStatus⟩, hNone⟩⟩
  exact always_iff_everyStep (outcomeContract tx).Holds (fun sessions h => OutcomeLedger.oneOutcome h.shared)
    (fun _ move h hMove => outcome_step h hTx move hMove)
    (fun _ move h hAfter => commitsOutcomeOnce_of_next h move hAfter) moves (Pool.Invariant.empty hLedger)

end Runs

namespace Sample

def openFoodTransaction : PaymentTransaction := (openFoodOrder.db.transactions.get? 0).get (by decide)

/-- Steps of one call without an interruption. -/
def steps {kind : Call → Prop} (index : Nat) (now : Instant) (count : Nat) :
    List (Move (RequestOf kind) (Event Env ServiceError)) :=
  List.replicate count (.advance index (.proceed (env now)))

/-- Two verifications both look at the status inside their transactions before
either of them updates the row. -/
def overlappingVerifications : List (Move (RequestOf (Call.Settles "order_1")) (Event Env ServiceError)) :=
  [.start ⟨verifyOrderPayment 2000 7 "order_1" "pay_1", .verifyOrderPayment rfl⟩,
    .start ⟨verifyOrderPayment 2000 7 "order_1" "pay_1", .verifyOrderPayment rfl⟩] ++
    steps 0 2000 5 ++ steps 1 2000 5 ++ steps 0 2000 3 ++ steps 1 2000 3

end Sample

theorem oneOutcome_iff_openFoodOrder :
    Always (isolate Sample.config) Sample.openFoodOrder.quiet Sample.overlappingVerifications
        (OneOutcome Sample.openFoodTransaction) ↔
      EveryStep (isolate Sample.config) Sample.openFoodOrder.quiet Sample.overlappingVerifications
        (CommitsOutcomeOnce Sample.openFoodTransaction) :=
  oneOutcome_iff Sample.config Sample.openFoodOrder Sample.openFoodTransaction (by decide) (by decide) (by decide)
    (by decide) Sample.overlappingVerifications

/-- The order is announced as captured twice. -/
theorem oneOutcome_fails :
    ¬ ∀ config (world : World) (tx : PaymentTransaction), tx.orderId ≠ none → tx ∈ world.db.transactions.rows →
      tx.status = .created → world.db.outcomes tx.id = [] →
        ∀ moves : List (Move (RequestOf (Call.Settles tx.razorpayOrderId)) (Event Env ServiceError)),
          Always (isolate config) world.quiet moves (OneOutcome tx) := by
  intro h
  have hOne := h Sample.config Sample.openFoodOrder Sample.openFoodTransaction (by decide) (by decide) (by decide)
    (by decide) Sample.overlappingVerifications Sample.overlappingVerifications List.prefix_rfl
  exact absurd hOne.1 (by decide)

end SpotqPayment
