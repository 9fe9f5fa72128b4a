import SpotqPayment.System.Integrity

/-! Every use case follows the rules for payments and subscriptions: it calls each
method with a licence, on the strength of what it has read before. -/
namespace SpotqPayment

open Process Engine ReadCommitted

variable {clock : Instant → Prop} {world : World} {env : Env}

/-- What the reading methods return. -/
def ReadsStored (request : RepositoryCall) (world : World) (value : request.Answer) : Prop :=
  match request, value with
  | .findByOrderId _, some tx => tx.Stored world.db
  | .findPendingByRestaurantAndPlan _ _, some tx => tx.Stored world.db ∧ tx.planId.isSome
  | .findPastDueSubscriptions now, pastDue => ∀ pair ∈ pastDue, world.db.HasPastDue pair.1.id now
  | _, _ => True

/-- The contract of all sessions, whatever calls they are. -/
abbrev integrityContract (clock : Instant → Prop) : Contract paymentStore Reply :=
  rowContract (integrityDiscipline clock) ReadsStored

section Carried

theorem sound_found (target : String) :
    MethodSound (integrityContract clock) (.findByOrderId target)
      (PaymentTransactionRepository.findByOrderId target) [] world := by
  refine Discipline.sound_read (fun _ _ _ _ hEval => ?_) (fun found => ⟨found, rfl, ?_⟩) fun error => ⟨error, rfl⟩
  · cases hEval
    rfl
  · intro _ state hKept hEval after hAfter
    have hFound : state.db.findTransaction (.razorpayOrderId target) = found :=
      congrArg Prod.fst (Except.ok.inj hEval)
    cases found with
    | none => trivial
    | some tx => exact (stored_of_mem hKept (Database.findTransaction_mem hFound)).later hAfter

theorem sound_pending (restaurantId planId : Uuid) (now : Instant) :
    MethodSound (integrityContract clock) (.findPendingByRestaurantAndPlan restaurantId planId)
      (PaymentTransactionRepository.findPendingByRestaurantAndPlan restaurantId planId now) [] world := by
  refine Discipline.sound_read (fun _ _ _ _ hEval => ?_) (fun found => ⟨found, rfl, ?_⟩) fun error => ⟨error, rfl⟩
  · cases hEval
    rfl
  · intro choice state hKept hEval after hAfter
    cases found with
    | none => trivial
    | some tx =>
        obtain ⟨hMem, hMatch, _⟩ := Table.findFirst_some (congrArg Prod.fst (Except.ok.inj hEval))
        simp only [Bool.and_eq_true, decide_eq_true_eq] at hMatch
        refine ⟨(stored_of_mem hKept hMem).later hAfter, ?_⟩
        rw [hMatch.1.1.1.2]
        rfl

theorem sound_pastDue (now : Instant) :
    MethodSound (integrityContract clock) (.findPastDueSubscriptions now)
      (PaymentSubscriptionExpiryService.findPastDue now) [] world := by
  refine Discipline.sound_read (fun _ _ _ _ hEval => ?_) (fun found => ⟨found, rfl, ?_⟩) fun error => ⟨error, rfl⟩
  · cases hEval
    rfl
  · intro _ state _ hEval after hAfter pair hPair
    cases hEval
    obtain ⟨row, hRow, hPlan⟩ := List.mem_filterMap.mp hPair
    obtain ⟨plan, _, rfl⟩ := Option.map_eq_some_iff.mp hPlan
    obtain ⟨hMem, hMatch⟩ := List.mem_filter.mp hRow
    have hEnd : row.currentPeriodEnd < now := of_decide_eq_true (Bool.and_eq_true_iff.mp hMatch).2
    exact Database.HasPastDue.later ⟨row, Table.get?_key hMem, hEnd⟩ hAfter

/-- A method that is called with a licence is carried out. -/
theorem licensed_carried {request : RepositoryCall} (h : request.Licensed clock world.db) :
    (integrityContract clock).Carried env (.repository request) world := by
  cases request with
  | findByOrderId target => exact Contract.carried_of_sound ⟨_, rfl, sound_found target⟩
  | findPendingByRestaurantAndPlan restaurantId planId =>
      exact Contract.carried_of_sound ⟨_, rfl, sound_pending restaurantId planId env.now⟩
  | findPastDueSubscriptions now => exact Contract.carried_of_sound ⟨_, rfl, sound_pastDue now⟩
  | _ => exact carried_permitted (permitted_body env h) fun _ _ => trivial

end Carried

section Programs

variable {now : Instant}

theorem licensed_bind {request : RepositoryCall} {next : request.Answer → UseCase Reply}
    (hLicensed : ∀ later, (integrityDiscipline clock).Follows world later → request.Licensed clock later.db)
    (hNext : ∀ later answer, (integrityDiscipline clock).Follows world later → ReadsStored request later answer →
      (integrityContract clock).Follows (next answer) later) :
    (integrityContract clock).Follows (repository request >>= next) world :=
  Contract.Follows.carried_bind (fun _ later hLater _ => licensed_carried (hLicensed later hLater))
    fun later answer hLater _ hAnswer => hNext later answer hLater hAnswer

/-- A method that may always be called. -/
theorem licensed_plain {request : RepositoryCall} {next : request.Answer → UseCase Reply}
    (hLicensed : ∀ db, request.Licensed clock db)
    (hNext : ∀ later answer, ReadsStored request later answer →
      (integrityContract clock).Follows (next answer) later) :
    (integrityContract clock).Follows (repository request >>= next) world :=
  licensed_bind (fun later _ => hLicensed later.db) fun later answer _ hAnswer => hNext later answer hAnswer

theorem licensed_findByOrderId {target : String} {next : Option PaymentTransaction → UseCase Reply}
    (hNone : ∀ later, (integrityContract clock).Follows (next none) later)
    (hSome : ∀ later tx, tx.Stored later.db → (integrityContract clock).Follows (next (some tx)) later) :
    (integrityContract clock).Follows (repository (.findByOrderId target) >>= next) world := by
  refine licensed_plain (fun _ => trivial) fun later found hFound => ?_
  cases found with
  | none => exact hNone later
  | some tx => exact hSome later tx hFound

theorem licensed_createOrder {amountInPaise : Int} {currency : String} {next : String → UseCase Reply}
    (hNext : ∀ later orderId, (integrityContract clock).Follows (next orderId) later) :
    (integrityContract clock).Follows (call (Port.createOrder amountInPaise currency) >>= next) world :=
  Contract.Follows.carried_bind (fun _ _ _ hKept => carried_createOrder hKept amountInPaise currency)
    fun later orderId _ _ _ => hNext later orderId

theorem licensed_createOrderPayment (config : Config) (input : CreateOrderPaymentInput) :
    (integrityContract clock).Follows (.orderPayment <$> createOrderPayment config input) world := by
  have hOpen : ∀ world, (integrityContract clock).Follows
      (openGatewayOrder config input >>= fun output => .ret (.orderPayment output)) world := by
    intro world
    simp only [openGatewayOrder, bind_assoc]
    refine licensed_createOrder fun later orderId => ?_
    exact licensed_plain (fun _ id at' => .foodOrder rfl rfl rfl rfl nofun) fun _ _ _ => trivial
  rw [map_eq, createOrderPayment, bind_assoc]
  refine licensed_plain (fun _ => trivial) fun later found _ => ?_
  cases found with
  | none => exact hOpen later
  | some existing =>
      simp only
      split
      · trivial
      · split
        · trivial
        · exact hOpen later

theorem licensed_processOrderRefund (input : ProcessOrderRefundInput) :
    (integrityContract clock).Follows (.orderRefund <$> processOrderRefund input now) world := by
  rw [map_eq, processOrderRefund, bind_assoc]
  refine licensed_plain (fun _ => trivial) fun later found _ => ?_
  cases found with
  | none => trivial
  | some tx =>
      simp only [bind_assoc]
      refine Contract.Follows.check_bind fun _ _ => ?_
      unfold requestRefund
      split
      · trivial
      · simp only [bind_assoc]
        refine Contract.Follows.attempt_bind (fun _ _ _ hKept => carried_createRefund hKept _ _) fun _ answer _ _ _ => ?_
        cases answer with
        | error error => trivial
        | ok refund =>
            simp only [recordRefund, bind_assoc]
            refine Contract.Follows.check_bind fun refunded hRefunded => ?_
            have hStatus : refunded.status = .refunded := by
              unfold PaymentTransaction.markRefunded at hRefunded
              split at hRefunded
              · cases hRefunded
              · cases hRefunded
                rfl
            exact licensed_plain (fun _ => hStatus) fun _ _ _ => trivial

theorem licensed_createSubscriptionOrder (config : Config) (input : CreateSubscriptionOrderInput)
    (invoiceNumber : String) :
    (integrityContract clock).Follows
      (.subscriptionOrder <$> createSubscriptionOrder config input invoiceNumber now) world := by
  rw [map_eq, createSubscriptionOrder]
  cases input.restaurantId with
  | none => trivial
  | some restaurantId =>
      simp only [bind_assoc]
      refine licensed_plain (fun _ => trivial) fun later found _ => ?_
      cases found with
      | none => trivial
      | some plan =>
          simp only
          split
          · trivial
          · simp only [bind_assoc]
            refine licensed_plain (fun _ => trivial) fun later existing _ => ?_
            split
            · trivial
            · simp only [reuseOrOpenOrder, bind_assoc]
              refine licensed_plain (fun _ => trivial) fun later pending hPending => ?_
              cases pending with
              | none =>
                  simp only [openSubscriptionOrder, bind_assoc]
                  refine licensed_createOrder fun later orderId => ?_
                  refine licensed_plain (fun _ id at' => .plan rfl rfl rfl ?_) fun later row _ => ?_
                  · intro hCaptured
                    cases hCaptured
                  · exact licensed_plain (fun _ => trivial) fun _ _ _ => trivial
              | some pendingTx =>
                  obtain ⟨hStored, hPlan⟩ := hPending
                  simp only
                  split
                  · have hOrder := hStored.planOrder (hStored.1.orderId_eq_none hPlan)
                    exact licensed_bind (fun _ hLater => hOrder.later hLater) fun _ _ _ _ => trivial
                  · trivial

theorem licensed_expirePastDue (hClock : clock now) :
    (integrityContract clock).Follows (.expired <$> expirePastDueSubscriptions now) world := by
  rw [map_eq, expirePastDueSubscriptions, bind_assoc]
  refine licensed_plain (fun _ => trivial) fun later pastDue hPastDue => ?_
  split
  · trivial
  · simp only [bind_assoc]
    exact licensed_bind (fun _ hLater => ⟨hClock, fun pair hPair => (hPastDue pair hPair).later hLater⟩)
      fun _ _ _ _ => trivial

theorem licensed_capture {tx : PaymentTransaction} {params : CaptureOrderPaymentWithOutboxParams}
    {next : PaymentTransaction → UseCase Reply} (hTx : tx.Stored world.db) (hFood : tx.orderId.isSome)
    (hId : params.transaction.id = tx.id) (hStatus : params.transaction.status = .captured)
    (hNext : ∀ later row, (integrityContract clock).Follows (next row) later) :
    (integrityContract clock).Follows (repository (.captureOrderPaymentWithOutbox params) >>= next) world :=
  licensed_bind (fun _ hLater => ⟨hId ▸ (hTx.foodOrder hFood).later hLater, hStatus⟩)
    fun later row _ _ => hNext later row

theorem licensed_activate {tx : PaymentTransaction} {plan : SubscriptionPlan} {paymentId signature : String}
    {next : Subscription → UseCase Reply} (hClock : clock now) (hTx : tx.Stored world.db) (hPlan : tx.orderId = none)
    (hNext : ∀ later subscription, (integrityContract clock).Follows (next subscription) later) :
    (integrityContract clock).Follows
      (repository (.activateSubscriptionWithOutbox (activationParams tx plan paymentId signature now)) >>= next) world :=
  licensed_bind (fun _ hLater => ⟨(hTx.planOrder hPlan).later hLater, hClock, rfl⟩)
    fun later subscription _ _ => hNext later subscription

theorem licensed_verifyOrderPayment (config : Config) (input : VerifyOrderPaymentInput) :
    (integrityContract clock).Follows (.orderVerification <$> verifyOrderPayment config input now) world := by
  rw [map_eq, verifyOrderPayment, bind_assoc]
  refine licensed_findByOrderId (fun _ => trivial) fun later tx hTx => ?_
  simp only [bind_assoc]
  refine Contract.Follows.check_bind fun _ hBelongs => ?_
  refine Contract.Follows.check_bind fun _ _ => ?_
  split
  · trivial
  · next hOpen =>
      split
      · trivial
      · simp only [captureVerified, bind_assoc]
        refine Contract.Follows.check_bind fun captured hCaptured => ?_
        have hFood : tx.orderId.isSome := by
          unfold PaymentTransaction.assertBelongsToOrder at hBelongs
          split at hBelongs
          · next hBelongsTo =>
              rw [eq_of_beq hBelongsTo]
              rfl
          · cases hBelongs
        have hFields := capture_eq hOpen hCaptured
        exact licensed_capture hTx hFood (by rw [hFields]; rfl) (by rw [hFields]; rfl) fun _ _ => trivial

theorem licensed_verifyPayment (config : Config) (input : VerifyPaymentInput) (hClock : clock now) :
    (integrityContract clock).Follows (.verification <$> verifyPayment config input now) world := by
  rw [map_eq, verifyPayment]
  split
  · trivial
  · rw [bind_assoc]
    refine licensed_findByOrderId (fun _ => trivial) fun later tx hTx => ?_
    simp only
    split
    · trivial
    · split
      · simp only [completedResponse, bind_assoc]
        refine licensed_plain (fun _ => trivial) fun _ subscription _ => ?_
        split
        · simp only [bind_assoc]
          exact licensed_plain (fun _ => trivial) fun _ plan _ => trivial
        · trivial
      · unfold activateVerified
        cases hPlan : tx.planId with
        | none => trivial
        | some planId =>
            have hNone := hTx.1.orderId_eq_none (by rw [hPlan]; rfl)
            simp only [bind_assoc]
            refine licensed_bind (fun _ _ => trivial) fun last found hLast _ => ?_
            cases found with
            | none => trivial
            | some plan =>
                simp only [bind_assoc]
                exact licensed_activate hClock (hTx.later hLast) hNone fun _ _ => trivial

variable {payload : WebhookPayload} {next : Unit → UseCase Reply}

theorem licensed_handleSuccess (hClock : clock now)
    (hDone : ∀ later, (integrityContract clock).Follows (next ()) later) :
    (integrityContract clock).Follows (handleSuccess payload now >>= next) world := by
  unfold handleSuccess
  split
  · exact hDone world
  · simp only [bind_assoc]
    refine licensed_findByOrderId hDone fun later tx hTx => ?_
    cases hFood : tx.orderId with
    | some foodOrderId =>
        simp only [captureFromWebhook, hFood]
        split
        · exact hDone later
        · next hOpen =>
            simp only [bind_assoc]
            refine Contract.Follows.check_bind fun captured hCaptured => ?_
            have hFields := capture_eq hOpen hCaptured
            exact licensed_capture hTx (by rw [hFood]; rfl) (by rw [hFields]; rfl) (by rw [hFields]; rfl)
              fun later _ => hDone later
    | none =>
        simp only [activateFromWebhook, hFood]
        split
        · exact hDone later
        · exact hDone later
        · simp only [bind_assoc]
          refine licensed_bind (fun _ _ => trivial) fun last found hLast _ => ?_
          cases found with
          | none => exact hDone last
          | some plan =>
              simp only [bind_assoc]
              exact licensed_activate hClock (hTx.later hLast) hFood fun later _ => hDone later

theorem licensed_handleFailure (hDone : ∀ later, (integrityContract clock).Follows (next ()) later) :
    (integrityContract clock).Follows (handleFailure payload now >>= next) world := by
  unfold handleFailure
  split
  · exact hDone world
  · next entity _ =>
      split
      · exact hDone world
      · next orderId _ =>
          simp only [bind_assoc]
          refine licensed_findByOrderId hDone fun later tx _ => ?_
          simp only
          split
          · exact hDone later
          · next hOpen =>
              cases hFood : tx.orderId with
              | some foodOrderId =>
                  simp only [failFromWebhook, hFood, bind_assoc]
                  have hStatus : (tx.markFailed entity.failureReason now).status = .failed := by
                    rw [PaymentTransaction.markFailed, if_neg fun h => hOpen (Or.symm h)]
                  exact licensed_plain (fun _ => hStatus) fun last _ _ => hDone last
              | none =>
                  simp only [failFromWebhook, hFood, bind_assoc]
                  exact licensed_plain (fun _ => trivial) fun last _ _ => hDone last

theorem licensed_handleRefund (hDone : ∀ later, (integrityContract clock).Follows (next ()) later) :
    (integrityContract clock).Follows (handleRefund payload >>= next) world := by
  unfold handleRefund
  split
  · exact hDone world
  · split
    · exact hDone world
    · exact licensed_plain (fun _ => trivial) fun later _ _ => hDone later

theorem licensed_handleWebhook (config : Config) (input : HandleWebhookInput) (hClock : clock now) :
    (integrityContract clock).Follows (.webhook <$> handleWebhook config input now) world := by
  rw [map_eq, handleWebhook]
  split
  · trivial
  · simp only [bind_assoc]
    unfold dispatchWebhook
    cases input.parsedPayload.event with
    | paymentCaptured | orderPaid =>
        simp only
        split
        · exact licensed_handleSuccess hClock fun _ => trivial
        · trivial
    | paymentFailed => exact licensed_handleFailure fun _ => trivial
    | refundProcessed | refundFailed => exact licensed_handleRefund fun _ => trivial
    | other name => trivial

/-- Calls that start at the times of the clock follow the rules. -/
theorem licensed_calls (config : Config) (kind : Call → Prop) (clock : Instant → Prop) :
    CallsFollow config kind (integrityDiscipline clock) ReadsStored fun request => clock request.env.now := by
  intro request hClock world
  obtain ⟨⟨call, env⟩, hKind⟩ := request
  cases call with
  | createOrderPayment input => exact licensed_createOrderPayment config input
  | verifyOrderPayment input => exact licensed_verifyOrderPayment config input
  | processOrderRefund input => exact licensed_processOrderRefund input
  | createSubscriptionOrder input => exact licensed_createSubscriptionOrder config input env.invoiceNumber
  | verifyPayment input => exact licensed_verifyPayment config input hClock
  | handleWebhook input => exact licensed_handleWebhook config input hClock
  | expirePastDueSubscriptions => exact licensed_expirePastDue hClock

end Programs

theorem integrity_relays : AdmitsRelays (integrityDiscipline clock) where
  steady := fun _ _ _ => trivial
  proper := fun _ _ _ _ _ => trivial
  succeeds := fun _ _ hRecord => ⟨congrArg Write.outbox hRecord, trivial⟩

end SpotqPayment
