import SpotqPayment.Library.Run
import SpotqPayment.System.Failures

/-! What a failed call means to its caller: the errors of the domain are those of the
call, and nothing has been stored on its behalf. Only a subscription order may fail
after a change, and then with a technical error. -/
namespace SpotqPayment

open Process Transition Engine ReadCommitted

/-- The errors of the domain that a call can end with. -/
def Call.domainErrors : Call → List ServiceError
  | .createOrderPayment _ => [.orderPaymentAlreadyCaptured]
  | .verifyOrderPayment _ =>
      [.paymentOrderNotFound, .customerUnauthorized, .invalidPaymentSignature, .invalidPaymentStateTransition]
  | .processOrderRefund _ =>
      [.paymentOrderNotFound, .paymentAlreadyRefunded, .cannotRefundUncapturedPayment, .refundAmountExceedsBalance,
        .refundAmountInvalid, .paymentGatewayError]
  | .createSubscriptionOrder _ => [.unauthorizedRestaurant, .planNotFound, .activeSubscriptionAlreadyExists]
  | .verifyPayment _ => [.invalidPaymentSignature, .paymentOrderNotFound, .unauthorizedRestaurant, .planNotFound]
  | .handleWebhook _ => [.paymentOrderNotFound, .invalidPaymentStateTransition]
  | .expirePastDueSubscriptions => []

/-- The errors that a call may still end with when it has stored something. -/
def Call.Late : Call → ServiceError → Prop
  | .createSubscriptionOrder _, error => error.Technical
  | _, _ => False

section Programs

/-- A program that ends with technical errors and the listed ones. -/
abbrev Failing {Value : Type} (errors : List ServiceError) (program : UseCase Value) : Prop :=
  program.Raises Port.Fails fun error => error.Technical ∨ error ∈ errors

abbrev FailingEarly {Value : Type} (late : ServiceError → Prop) (program : UseCase Value) : Prop :=
  program.RaisesEarly Port.Fails Port.Harmless late

variable {Value : Type} {errors : List ServiceError} {late : ServiceError → Prop}
variable {config : Config} {now : Instant} {tx : PaymentTransaction}

theorem failing_bind {request : RepositoryCall} {next : request.Answer → UseCase Value}
    (hThrows : ∀ error, request.Throws error → error ∈ errors) (hNext : ∀ answer, Failing errors (next answer)) :
    Failing errors (repository request >>= next) :=
  Raises.call_bind (fun error hError => hError.imp_right (hThrows error)) hNext

theorem failing_read {request : RepositoryCall} {next : request.Answer → UseCase Value}
    (hThrows : ∀ error, ¬ request.Throws error) (hNext : ∀ answer, Failing errors (next answer)) :
    Failing errors (repository request >>= next) :=
  failing_bind (fun error hError => absurd hError (hThrows error)) hNext

/-- A remote call that the program does not guard. -/
theorem failing_createOrder {amountInPaise : Int} {currency : String} {next : String → UseCase Value}
    (hNext : ∀ answer, Failing errors (next answer)) :
    Failing errors (call (Port.createOrder amountInPaise currency) >>= next) :=
  Raises.call_bind (fun _ hError => Or.inl hError) hNext

theorem early_read {request : RepositoryCall} {next : request.Answer → UseCase Value} (hRead : request.IsRead)
    (hNext : ∀ answer, FailingEarly late (next answer)) : FailingEarly late (repository request >>= next) :=
  RaisesEarly.call_bind hNext (Or.inl hRead)

/-- The last operation of a program. -/
theorem early_last {request : RepositoryCall} {next : request.Answer → UseCase Value}
    (hNext : ∀ answer, ∃ value, next answer = .ret value) : FailingEarly late (repository request >>= next) := by
  refine RaisesEarly.call_bind (fun answer => ?_) (Or.inr fun answer => ?_)
  · obtain ⟨value, hValue⟩ := hNext answer
    rw [hValue]
    trivial
  · obtain ⟨value, hValue⟩ := hNext answer
    rw [hValue]
    trivial

theorem assertBelongsToOrder_error {orderId : Uuid} {error : ServiceError}
    (h : tx.assertBelongsToOrder orderId = .error error) : error = .paymentOrderNotFound := by
  unfold PaymentTransaction.assertBelongsToOrder at h
  split at h <;> cases h
  rfl

theorem assertOwnership_error {customerId : Option Uuid} {error : ServiceError}
    (h : tx.assertOwnership customerId = .error error) : error = .customerUnauthorized := by
  unfold PaymentTransaction.assertOwnership at h
  split at h
  · cases h
  · cases h
    rfl
  · split at h <;> cases h
    rfl

theorem capture_error {params : CaptureParams} {error : ServiceError} (h : tx.capture params now = .error error) :
    error = .invalidPaymentStateTransition := by
  unfold PaymentTransaction.capture at h
  split at h
  · cases h
  · split at h <;> cases h
    rfl

/-- A payment that can be refunded can also be marked so. -/
theorem markRefunded_ok {amount : Option Int} (h : tx.assertCanRefund amount = .ok ()) :
    ∃ refunded, tx.markRefunded now = .ok refunded := by
  unfold PaymentTransaction.assertCanRefund at h
  split at h
  · cases h
  · split at h
    · cases h
    · next hPaid => exact ⟨_, if_neg hPaid⟩

theorem assertCanRefund_error {amount : Option Int} {error : ServiceError} (h : tx.assertCanRefund amount = .error error) :
    error ∈ [ServiceError.paymentAlreadyRefunded, .cannotRefundUncapturedPayment, .refundAmountExceedsBalance,
      .refundAmountInvalid] := by
  unfold PaymentTransaction.assertCanRefund at h
  split at h
  · cases h
    decide
  · split at h
    · cases h
      decide
    · split at h
      · cases h
        decide
      · split at h
        · cases h
        · split at h
          · cases h
            decide
          · split at h <;> cases h
            decide

theorem failing_createOrderPayment (input : CreateOrderPaymentInput) :
    Failing (Call.createOrderPayment input).domainErrors (Reply.orderPayment <$> createOrderPayment config input) := by
  have hOpen : Failing (Call.createOrderPayment input).domainErrors
      (openGatewayOrder config input >>= fun output => .ret (Reply.orderPayment output)) := by
    simp only [openGatewayOrder, Process.bind_assoc]
    exact failing_createOrder fun _ => failing_read (fun _ => id) fun _ => trivial
  rw [map_eq, createOrderPayment, Process.bind_assoc]
  refine failing_read (fun _ => id) fun found => ?_
  cases found with
  | none => exact hOpen
  | some existing =>
      simp only
      split
      · exact Or.inr List.mem_cons_self
      · split
        · trivial
        · exact hOpen

theorem failing_verifyOrderPayment (input : VerifyOrderPaymentInput) :
    Failing (Call.verifyOrderPayment input).domainErrors (Reply.orderVerification <$> verifyOrderPayment config input now) := by
  rw [map_eq, verifyOrderPayment, Process.bind_assoc]
  refine failing_read (fun _ => id) fun found => ?_
  cases found with
  | none => exact Or.inr (by simp [Call.domainErrors])
  | some tx =>
      simp only [Process.bind_assoc]
      refine Raises.check_bind (fun error hError => ?_) fun _ _ => ?_
      · rw [assertBelongsToOrder_error hError]
        exact Or.inr (by simp [Call.domainErrors])
      refine Raises.check_bind (fun error hError => ?_) fun _ _ => ?_
      · rw [assertOwnership_error hError]
        exact Or.inr (by simp [Call.domainErrors])
      split
      · trivial
      · split
        · exact Or.inr (by simp [Call.domainErrors])
        · simp only [captureVerified, Process.bind_assoc]
          refine Raises.check_bind (fun error hError => ?_) fun captured _ => ?_
          · rw [capture_error hError]
            exact Or.inr (by simp [Call.domainErrors])
          · refine failing_bind (fun error hError => ?_) fun _ => trivial
            rw [show error = .paymentOrderNotFound from hError]
            exact List.mem_cons_self

theorem failing_processOrderRefund (input : ProcessOrderRefundInput) :
    Failing (Call.processOrderRefund input).domainErrors (Reply.orderRefund <$> processOrderRefund input now) := by
  rw [map_eq, processOrderRefund, Process.bind_assoc]
  refine failing_read (fun _ => id) fun found => ?_
  cases found with
  | none => exact Or.inr (by simp [Call.domainErrors])
  | some tx =>
      simp only [Process.bind_assoc]
      refine Raises.check_bind (fun error hError => Or.inr ?_) fun _ hRefundable => ?_
      · exact List.mem_cons_of_mem _ (List.mem_append_left _ (assertCanRefund_error hError))
      unfold requestRefund
      split
      · exact Or.inr (by simp [Call.domainErrors])
      · simp only [Process.bind_assoc]
        refine Raises.attempt_bind fun answer => ?_
        cases answer with
        | error error => exact Or.inr (by simp [Call.domainErrors])
        | ok refund =>
            obtain ⟨refunded, hRefunded⟩ := @markRefunded_ok now tx _ hRefundable
            simp only [recordRefund, Process.bind_assoc, hRefunded]
            refine failing_bind (fun error hError => ?_) fun _ => trivial
            rcases hError with rfl | rfl <;> simp [Call.domainErrors]

/-- Once the request is accepted, only technical errors remain. -/
theorem failing_reuseOrOpenOrder (restaurantId : Uuid) (plan : SubscriptionPlan) (invoiceNumber : String) :
    Failing errors (reuseOrOpenOrder config restaurantId plan invoiceNumber now) := by
  refine failing_read (fun _ => id) fun pending => ?_
  cases pending with
  | none =>
      exact failing_createOrder fun _ => failing_read (fun _ => id) fun _ => failing_read (fun _ => id) fun _ => trivial
  | some pendingTx =>
      simp only
      split
      · exact failing_read (fun _ => id) fun _ => trivial
      · trivial

theorem failing_createSubscriptionOrder (input : CreateSubscriptionOrderInput) (invoiceNumber : String) :
    Failing (Call.createSubscriptionOrder input).domainErrors
      (Reply.subscriptionOrder <$> createSubscriptionOrder config input invoiceNumber now) := by
  rw [map_eq, createSubscriptionOrder]
  cases input.restaurantId with
  | none => exact Or.inr List.mem_cons_self
  | some restaurantId =>
      simp only [Process.bind_assoc]
      refine failing_read (fun _ => id) fun found => ?_
      cases found with
      | none => exact Or.inr (by simp [Call.domainErrors])
      | some plan =>
          simp only
          split
          · exact Or.inr (by simp [Call.domainErrors])
          · simp only [Process.bind_assoc]
            refine failing_read (fun _ => id) fun existing => ?_
            split
            · exact Or.inr (by simp [Call.domainErrors])
            · exact (failing_reuseOrOpenOrder restaurantId plan invoiceNumber).bind fun _ => trivial

theorem failing_verifyPayment (input : VerifyPaymentInput) :
    Failing (Call.verifyPayment input).domainErrors (Reply.verification <$> verifyPayment config input now) := by
  rw [map_eq, verifyPayment]
  split
  · exact Or.inr List.mem_cons_self
  · rw [Process.bind_assoc]
    refine failing_read (fun _ => id) fun found => ?_
    cases found with
    | none => exact Or.inr (by simp [Call.domainErrors])
    | some tx =>
        simp only
        split
        · exact Or.inr (by simp [Call.domainErrors])
        · split
          · simp only [completedResponse, Process.bind_assoc]
            refine failing_read (fun _ => id) fun _ => ?_
            split
            · exact failing_read (fun _ => id) fun _ => trivial
            · trivial
          · unfold activateVerified
            split
            · exact Or.inr (by simp [Call.domainErrors])
            · simp only [Process.bind_assoc]
              refine failing_read (fun _ => id) fun found => ?_
              cases found with
              | none => exact Or.inr (by simp [Call.domainErrors])
              | some plan => exact failing_read (fun _ => id) fun _ => trivial

section Webhook

variable {payload : WebhookPayload}

theorem failing_handleSuccess :
    Failing [.paymentOrderNotFound, .invalidPaymentStateTransition] (handleSuccess payload now) := by
  unfold handleSuccess
  split
  · trivial
  · refine failing_read (fun _ => id) fun found => ?_
    cases found with
    | none => trivial
    | some tx =>
        simp only
        split
        · unfold captureFromWebhook
          split
          · trivial
          · refine Raises.check_bind (fun error hError => ?_) fun captured _ => ?_
            · rw [capture_error hError]
              exact Or.inr (by decide)
            · exact failing_bind (fun error hError => List.mem_cons.mpr (Or.inl hError)) fun _ => trivial
        · unfold activateFromWebhook
          split
          · trivial
          · trivial
          · refine failing_read (fun _ => id) fun found => ?_
            cases found with
            | none => trivial
            | some plan => exact failing_read (fun _ => id) fun _ => trivial

theorem failing_handleFailure : Failing [.paymentOrderNotFound] (handleFailure payload now) := by
  unfold handleFailure
  split
  · trivial
  · split
    · trivial
    · refine failing_read (fun _ => id) fun found => ?_
      cases found with
      | none => trivial
      | some tx =>
          simp only
          split
          · trivial
          · unfold failFromWebhook
            split
            · exact failing_bind (fun error hError => List.mem_cons.mpr (Or.inl hError)) fun _ => trivial
            · exact failing_read (fun _ => id) fun _ => trivial

theorem failing_handleRefund : Failing errors (handleRefund payload) := by
  unfold handleRefund
  split
  · trivial
  · split
    · trivial
    · exact Raises.call fun error hError => Or.inl (hError.resolve_right id)

theorem Failing.weaken {program : UseCase Value} {more : List ServiceError} (h : Failing errors program)
    (hMore : errors ⊆ more) : Failing more program := by
  induction program with
  | ret value => trivial
  | fail error => exact h.imp_right (@hMore error)
  | await port next ih => exact ⟨fun value => ih _ (h.1 value), fun error hError => ih _ (h.2 error hError)⟩

theorem failing_handleWebhook (input : HandleWebhookInput) :
    Failing (Call.handleWebhook input).domainErrors (Reply.webhook <$> handleWebhook config input now) := by
  rw [map_eq, handleWebhook]
  split
  · trivial
  · simp only [Process.bind_assoc]
    refine Raises.bind ?_ fun _ => trivial
    unfold dispatchWebhook
    cases input.parsedPayload.event with
    | paymentCaptured | orderPaid =>
        simp only
        split
        · exact failing_handleSuccess
        · trivial
    | paymentFailed => exact failing_handleFailure.weaken (List.cons_subset_cons _ (List.nil_subset _))
    | refundProcessed | refundFailed => exact failing_handleRefund
    | other name => trivial

end Webhook

theorem failing_expirePastDue :
    Failing Call.expirePastDueSubscriptions.domainErrors (Reply.expired <$> expirePastDueSubscriptions now) := by
  rw [map_eq, expirePastDueSubscriptions, Process.bind_assoc]
  refine failing_read (fun _ => id) fun pastDue => ?_
  split
  · trivial
  · simp only [Process.bind_assoc]
    exact failing_read (fun _ => id) fun _ => trivial

/-- Every call ends with its own errors of the domain, or with technical ones. -/
theorem failing_process (config : Config) (request : Request) :
    Failing request.call.domainErrors (request.call.process config request.env) := by
  obtain ⟨call, env⟩ := request
  cases call with
  | createOrderPayment input => exact failing_createOrderPayment input
  | verifyOrderPayment input => exact failing_verifyOrderPayment input
  | processOrderRefund input => exact failing_processOrderRefund input
  | createSubscriptionOrder input => exact failing_createSubscriptionOrder input env.invoiceNumber
  | verifyPayment input => exact failing_verifyPayment input
  | handleWebhook input => exact failing_handleWebhook input
  | expirePastDueSubscriptions => exact failing_expirePastDue

end Programs

/-! The same calls, with an eye on what they have stored before they fail. -/
section Early

variable {late : ServiceError → Prop} {config : Config} {now : Instant} {payload : WebhookPayload}

theorem early_createOrderPayment (input : CreateOrderPaymentInput) :
    FailingEarly late (Reply.orderPayment <$> createOrderPayment config input) := by
  have hOpen : FailingEarly late (openGatewayOrder config input >>= fun output => .ret (Reply.orderPayment output)) := by
    simp only [openGatewayOrder, Process.bind_assoc]
    exact RaisesEarly.call_bind (fun _ => early_last fun _ => ⟨_, rfl⟩) (Or.inl trivial)
  rw [map_eq, createOrderPayment, Process.bind_assoc]
  refine early_read trivial fun found => ?_
  cases found with
  | none => exact hOpen
  | some existing =>
      simp only
      split
      · trivial
      · split
        · trivial
        · exact hOpen

theorem early_verifyOrderPayment (input : VerifyOrderPaymentInput) :
    FailingEarly late (Reply.orderVerification <$> verifyOrderPayment config input now) := by
  rw [map_eq, verifyOrderPayment, Process.bind_assoc]
  refine early_read trivial fun found => ?_
  cases found with
  | none => trivial
  | some tx =>
      simp only [Process.bind_assoc]
      refine RaisesEarly.check_bind fun _ _ => RaisesEarly.check_bind fun _ _ => ?_
      split
      · trivial
      · split
        · trivial
        · simp only [captureVerified, Process.bind_assoc]
          exact RaisesEarly.check_bind fun captured _ => early_last fun _ => ⟨_, rfl⟩

theorem early_processOrderRefund (input : ProcessOrderRefundInput) :
    FailingEarly late (Reply.orderRefund <$> processOrderRefund input now) := by
  rw [map_eq, processOrderRefund, Process.bind_assoc]
  refine early_read trivial fun found => ?_
  cases found with
  | none => trivial
  | some tx =>
      simp only [Process.bind_assoc]
      refine RaisesEarly.check_bind fun _ _ => ?_
      unfold requestRefund
      split
      · trivial
      · simp only [Process.bind_assoc]
        refine RaisesEarly.attempt_bind (fun answer => ?_) trivial
        cases answer with
        | error error => trivial
        | ok refund =>
            simp only [recordRefund, Process.bind_assoc]
            exact RaisesEarly.check_bind fun refunded _ => early_last fun _ => ⟨_, rfl⟩

/-- The draft invoice comes after the transaction is stored. -/
theorem early_createSubscriptionOrder (input : CreateSubscriptionOrderInput) (invoiceNumber : String) :
    FailingEarly ServiceError.Technical
      (Reply.subscriptionOrder <$> createSubscriptionOrder config input invoiceNumber now) := by
  rw [map_eq, createSubscriptionOrder]
  cases input.restaurantId with
  | none => trivial
  | some restaurantId =>
      simp only [Process.bind_assoc]
      refine early_read trivial fun found => ?_
      cases found with
      | none => trivial
      | some plan =>
          simp only
          split
          · trivial
          · simp only [Process.bind_assoc]
            refine early_read trivial fun existing => ?_
            split
            · trivial
            · simp only [reuseOrOpenOrder, Process.bind_assoc]
              refine early_read trivial fun pending => ?_
              cases pending with
              | none =>
                  simp only [openSubscriptionOrder, Process.bind_assoc]
                  refine RaisesEarly.call_bind (fun _ => ?_) (Or.inl trivial)
                  refine RaisesEarly.call_bind (fun row => early_last fun _ => ⟨_, rfl⟩) (Or.inr fun row => ?_)
                  exact Raises.call_bind (fun error hError => hError.resolve_right id) fun _ => trivial
              | some pendingTx =>
                  simp only
                  split
                  · exact early_last fun _ => ⟨_, rfl⟩
                  · trivial

theorem early_verifyPayment (input : VerifyPaymentInput) :
    FailingEarly late (Reply.verification <$> verifyPayment config input now) := by
  rw [map_eq, verifyPayment]
  split
  · trivial
  · rw [Process.bind_assoc]
    refine early_read trivial fun found => ?_
    cases found with
    | none => trivial
    | some tx =>
        simp only
        split
        · trivial
        · split
          · simp only [completedResponse, Process.bind_assoc]
            refine early_read trivial fun _ => ?_
            split
            · exact early_read trivial fun _ => trivial
            · trivial
          · unfold activateVerified
            split
            · trivial
            · simp only [Process.bind_assoc]
              refine early_read trivial fun found => ?_
              cases found with
              | none => trivial
              | some plan => exact early_last fun _ => ⟨_, rfl⟩

variable {next : Unit → UseCase Reply} (hNext : ∃ reply, next () = .ret reply)

include hNext

theorem early_handleSuccess : FailingEarly late (handleSuccess payload now >>= next) := by
  obtain ⟨reply, hReply⟩ := hNext
  have hDone : FailingEarly late (next ()) := by
    rw [hReply]
    trivial
  unfold handleSuccess
  split
  · exact hDone
  · simp only [Process.bind_assoc]
    refine early_read trivial fun found => ?_
    cases found with
    | none => exact hDone
    | some tx =>
        simp only
        split
        · unfold captureFromWebhook
          split
          · exact hDone
          · simp only [Process.bind_assoc]
            exact RaisesEarly.check_bind fun captured _ => early_last fun _ => ⟨reply, hReply⟩
        · unfold activateFromWebhook
          split
          · exact hDone
          · exact hDone
          · simp only [Process.bind_assoc]
            refine early_read trivial fun found => ?_
            cases found with
            | none => exact hDone
            | some plan =>
                simp only [Process.bind_assoc]
                exact early_last fun _ => ⟨reply, hReply⟩

theorem early_handleFailure : FailingEarly late (handleFailure payload now >>= next) := by
  obtain ⟨reply, hReply⟩ := hNext
  have hDone : FailingEarly late (next ()) := by
    rw [hReply]
    trivial
  unfold handleFailure
  split
  · exact hDone
  · split
    · exact hDone
    · simp only [Process.bind_assoc]
      refine early_read trivial fun found => ?_
      cases found with
      | none => exact hDone
      | some tx =>
          simp only
          split
          · exact hDone
          · unfold failFromWebhook
            split
            · simp only [Process.bind_assoc]
              exact early_last fun _ => ⟨reply, hReply⟩
            · simp only [Process.bind_assoc]
              exact early_last fun _ => ⟨reply, hReply⟩

theorem early_handleRefund : FailingEarly late (handleRefund payload >>= next) := by
  obtain ⟨reply, hReply⟩ := hNext
  have hDone : FailingEarly late (next ()) := by
    rw [hReply]
    trivial
  unfold handleRefund
  split
  · exact hDone
  · split
    · exact hDone
    · exact early_last fun _ => ⟨reply, hReply⟩

omit hNext

theorem early_handleWebhook (input : HandleWebhookInput) :
    FailingEarly late (Reply.webhook <$> handleWebhook config input now) := by
  rw [map_eq, handleWebhook]
  split
  · trivial
  · simp only [Process.bind_assoc]
    unfold dispatchWebhook
    cases input.parsedPayload.event with
    | paymentCaptured | orderPaid =>
        simp only
        split
        · exact early_handleSuccess ⟨_, rfl⟩
        · trivial
    | paymentFailed => exact early_handleFailure ⟨_, rfl⟩
    | refundProcessed | refundFailed => exact early_handleRefund ⟨_, rfl⟩
    | other name => trivial

theorem early_expirePastDue : FailingEarly late (Reply.expired <$> expirePastDueSubscriptions now) := by
  rw [map_eq, expirePastDueSubscriptions, Process.bind_assoc]
  refine early_read trivial fun pastDue => ?_
  split
  · trivial
  · simp only [Process.bind_assoc]
    exact early_last fun _ => ⟨_, rfl⟩

/-- No call but a subscription order fails after it has stored something. -/
theorem early_process (config : Config) (request : Request) :
    FailingEarly request.call.Late (request.call.process config request.env) := by
  obtain ⟨call, env⟩ := request
  cases call with
  | createOrderPayment input => exact early_createOrderPayment input
  | verifyOrderPayment input => exact early_verifyOrderPayment input
  | processOrderRefund input => exact early_processOrderRefund input
  | createSubscriptionOrder input => exact early_createSubscriptionOrder input env.invoiceNumber
  | verifyPayment input => exact early_verifyPayment input
  | handleWebhook input => exact early_handleWebhook input
  | expirePastDueSubscriptions => exact early_expirePastDue

end Early

section Runs

variable {config : Config} {kind : Call → Prop} {deployment : Deployment} {index : Nat} {session : ServiceSession}
variable {late : ServiceError → Prop} {error : ServiceError}

/-- The database ends transactions with technical errors, and so does a lost answer. -/
def DeploymentMove.Honest : DeploymentMove kind → Prop
  | .service (.advance _ event) => paymentFailures.Honest event
  | _ => True

/-- A session of the service is changed by its own moves only. -/
theorem deployment_thread (config : Config) (hSession : deployment.sessions.threads[index]? = some session) (move : DeploymentMove kind) :
    (∃ event, move = .service (.advance index event) ∧
      (deployment.next config move).sessions.shared =
        (paymentStore.step event (deployment.sessions.threads.eraseIdx index) session deployment.sessions.shared).1 ∧
      (deployment.next config move).sessions.threads[index]? =
        some (paymentStore.step event (deployment.sessions.threads.eraseIdx index) session deployment.sessions.shared).2) ∨
    (∀ event, move ≠ .service (.advance index event)) ∧
      (deployment.next config move).sessions.threads[index]? = some session := by
  cases move with
  | service move =>
      rcases @Pool.thread_next _ _ _ _ (fun request : RequestOf kind =>
          (.outside (request.1.call.process config request.1.env) : ServiceSession)) paymentStore.step _ _ _
        hSession move with ⟨event, rfl, hShared, hThread⟩ | ⟨hOther, hThread⟩
      · exact Or.inl ⟨event, rfl, hShared, hThread⟩
      · refine Or.inr ⟨fun event hMove => hOther event (DeploymentMove.service.inj hMove), hThread⟩
  | relay move =>
      refine Or.inr ⟨fun _ hMove => (nomatch hMove), ?_⟩
      by_cases hWaits : deployment.Waits move
      · rw [deployment_waits hWaits]
        exact hSession
      · rw [deployment_relay hWaits]
        exact hSession
  | elapse milliseconds => exact Or.inr ⟨fun _ hMove => (nomatch hMove), hSession⟩

theorem late_run (config : Config) (h : paymentFailures.Late late session)
    (hSession : deployment.sessions.threads[index]? = some session) (moves : List (DeploymentMove kind))
    (hHonest : ∀ move ∈ moves, move.Honest) :
    ∃ last, (run (Deployment.next config) deployment moves).sessions.threads[index]? = some last ∧
      paymentFailures.Late late last := by
  induction moves generalizing deployment session with
  | nil => exact ⟨session, hSession, h⟩
  | cons move moves ih =>
      have hRest : ∀ other ∈ moves, other.Honest := fun other hOther => hHonest other (List.mem_cons_of_mem move hOther)
      rcases deployment_thread config hSession move with ⟨event, rfl, _, hThread⟩ | ⟨_, hThread⟩
      · exact ih (h.step (hHonest _ List.mem_cons_self) _ _) hThread hRest
      · exact ih h hThread hRest

/-- Until a clean session ends with an error that is not late, its steps change nothing,
unless it ends with a technical error in place of a lost answer. -/
theorem clean_run (h : paymentFailures.Clean late session)
    (hSession : deployment.sessions.threads[index]? = some session) {moves : List (DeploymentMove kind)}
    (hHonest : ∀ move ∈ moves, move.Honest)
    (hFailed : (run (Deployment.next config) deployment moves).sessions.threads[index]? = some (.outside (.fail error)))
    (hEarly : ¬ late error) {before after : List (DeploymentMove kind)} {event : Event Env ServiceError}
    (hHeard : ¬ error.Technical ∨ ∀ lost, event ≠ .unanswered lost)
    (hMoves : moves = before ++ .service (.advance index event) :: after) :
    (run (Deployment.next config) deployment (before ++ [.service (.advance index event)])).sessions.shared.db =
      (run (Deployment.next config) deployment before).sessions.shared.db := by
  have hNotLate : ∀ {deployment : Deployment} {session : ServiceSession} {moves : List (DeploymentMove kind)},
      (∀ move ∈ moves, move.Honest) → deployment.sessions.threads[index]? = some session →
      (run (Deployment.next config) deployment moves).sessions.threads[index]? = some (.outside (.fail error)) →
        ¬ paymentFailures.Late late session := by
    intro deployment session moves hHonest hSession hFailed hLate
    obtain ⟨last, hLast, hEnd⟩ := late_run config hLate hSession moves hHonest
    rw [hFailed] at hLast
    cases hLast
    exact hEarly hEnd
  induction before generalizing deployment session moves with
  | nil =>
      subst hMoves
      rcases deployment_thread config hSession (.service (.advance index event) : DeploymentMove kind) with
        ⟨_, hMove, hShared, hThread⟩ | ⟨hOther, _⟩
      · cases hMove
        have hRest : ∀ move ∈ after, move.Honest := fun move hMove => hHonest move (List.mem_cons_of_mem _ hMove)
        rcases h.step (hHonest _ List.mem_cons_self) (deployment.sessions.threads.eraseIdx index)
          deployment.sessions.shared with ⟨_, hSame | ⟨lost, rfl, hTechnical, hLost⟩⟩ | hLate
        · exact (congrArg World.db hShared).trans hSame
        · rw [hLost] at hThread
          have hFinal : paymentFailures.Late (· = lost) (.outside (.fail lost) : ServiceSession) := rfl
          obtain ⟨last, hLast, hEnd⟩ := late_run config hFinal hThread after hRest
          cases hFailed.symm.trans hLast
          rcases hHeard with hDomain | hHeard
          · rw [show error = lost from hEnd] at hDomain
            exact absurd hTechnical hDomain
          · exact absurd rfl (hHeard lost)
        · exact absurd hLate (hNotLate hRest hThread hFailed)
      · exact absurd rfl (hOther event)
  | cons move before ih =>
      subst hMoves
      have hRest : ∀ other ∈ before ++ .service (.advance index event) :: after, other.Honest :=
        fun other hOther => hHonest other (List.mem_cons_of_mem move hOther)
      rcases deployment_thread config hSession move with ⟨own, rfl, _, hThread⟩ | ⟨_, hThread⟩
      · rcases h.step (hHonest _ List.mem_cons_self) (deployment.sessions.threads.eraseIdx index)
          deployment.sessions.shared with ⟨hClean, _⟩ | hLate
        · exact ih hClean hThread hRest hFailed rfl
        · exact absurd hLate (hNotLate hRest hThread hFailed)
      · exact ih h hThread hRest hFailed rfl

theorem technical_status {now : Instant} (h : error.Technical) : (error.answer now).statusCode = 500 := by
  unfold ServiceError.answer
  rw [show error.domainError? = none from h]
  rfl

/-- A call that is started in any state and fails, beside any other calls and relays,
fails with a technical error or with one of its own. None of its steps has changed the
database, unless it is answered with 500, and then it is a subscription order or the step
is a commit whose answer was lost. -/
theorem failed_call_leaves_no_trace (config : Config) (kind : Call → Prop) (deployment : Deployment)
    (request : RequestOf kind) (rest : List (DeploymentMove kind)) (hHonest : ∀ move ∈ rest, move.Honest)
    (error : ServiceError) :
    let index := deployment.sessions.threads.length
    let started := deployment.next config (.service (.start request))
    (run (Deployment.next config) started rest).sessions.threads[index]? = some (.outside (.fail error)) →
      (error.Technical ∨ error ∈ request.1.call.domainErrors) ∧
        ∀ before event after, rest = before ++ .service (.advance index event) :: after →
          ((∀ now, (error.answer now).statusCode < 500) ∨
            (∀ input, request.1.call ≠ .createSubscriptionOrder input) ∧ ∀ lost, event ≠ .unanswered lost) →
            (run (Deployment.next config) started (before ++ [.service (.advance index event)])).sessions.shared.db =
              (run (Deployment.next config) started before).sessions.shared.db := by
  intro index started hFailed
  have hSession : started.sessions.threads[index]? =
      some (.outside (request.1.call.process config request.1.env)) := List.getElem?_concat_length
  constructor
  · have hLate : paymentFailures.Late (fun error => error.Technical ∨ error ∈ request.1.call.domainErrors)
        (.outside (request.1.call.process config request.1.env) : ServiceSession) := failing_process config request.1
    obtain ⟨last, hLast, hEnd⟩ := late_run config hLate hSession rest hHonest
    rw [hFailed] at hLast
    cases hLast
    exact hEnd
  · intro before event after hRest hAnswer
    have hClean : paymentFailures.Clean request.1.call.Late
        (.outside (request.1.call.process config request.1.env) : ServiceSession) := early_process config request.1
    have hDomain : (∀ now, (error.answer now).statusCode < 500) → ¬ error.Technical := fun hStatus hTechnical =>
      absurd (hStatus 0) (by rw [@technical_status error 0 hTechnical]; decide)
    refine clean_run hClean hSession hHonest hFailed (fun hLate => ?_) (hAnswer.imp hDomain And.right) hRest
    unfold Call.Late at hLate
    split at hLate
    · next input hCall =>
        rcases hAnswer with hStatus | ⟨hOther, _⟩
        · exact hDomain hStatus hLate
        · exact hOther input hCall
    · exact hLate

end Runs

namespace Sample

/-- The verification of the stored order by a customer that it does not belong to. -/
def othersVerification : Request where
  call := .verifyOrderPayment {
    orderId := 7
    razorpayOrderId := "order_1"
    razorpayPaymentId := "pay_1"
    razorpaySignature := signature "order_1" "pay_1"
    customerId := some 12 }
  env := env 2000

/-- The owner's verification has locked the order and not committed yet. -/
def verifying : Deployment :=
  run (Deployment.next Sample.config) openFoodOrder.deployed
    (.service (.start ⟨verifyOrderPayment 2000 7 "order_1" "pay_1", trivial⟩) ::
      List.replicate 6 (.service (.advance 0 (.proceed (env 2000)))) : List (DeploymentMove fun _ => True))

def ownersStep : DeploymentMove fun _ => True := .service (.advance 0 (.proceed (env 2000)))

def othersStep : DeploymentMove fun _ => True := .service (.advance 1 (.proceed (env 2000)))

/-- The owner's commit comes between the steps of the other customer. -/
def besideCommit : List (DeploymentMove fun _ => True) :=
  [othersStep, ownersStep, othersStep, ownersStep, othersStep]

theorem besideCommit_honest : ∀ move ∈ besideCommit, move.Honest := by
  intro move hMove
  simp only [besideCommit, List.mem_cons, List.not_mem_nil, or_false] at hMove
  rcases hMove with rfl | rfl | rfl | rfl | rfl <;> trivial

end Sample

theorem failed_call_leaves_no_trace_others :
    let started : Deployment := @Deployment.next Sample.config (fun _ => True) Sample.verifying
      (.service (.start ⟨Sample.othersVerification, trivial⟩))
    let last := run (Deployment.next Sample.config) started Sample.besideCommit
    last.sessions.shared.db.statusOf 0 = some .captured ∧
      last.sessions.shared.db = (run (Deployment.next Sample.config) started Sample.besideCommit.dropLast).sessions.shared.db := by
  intro started last
  have hError : last.sessions.threads[1]?.bind Session.failed = some .customerUnauthorized := by decide +kernel
  obtain ⟨session, hSession, hEnd⟩ := Option.bind_eq_some_iff.mp hError
  have hFailed : last.sessions.threads[1]? = some (.outside (.fail .customerUnauthorized)) :=
    hSession.trans (congrArg some (Session.failed_eq_some.mp hEnd))
  obtain ⟨_, hTrace⟩ := failed_call_leaves_no_trace Sample.config (fun _ => True) Sample.verifying
    ⟨Sample.othersVerification, trivial⟩ Sample.besideCommit Sample.besideCommit_honest .customerUnauthorized hFailed
  exact ⟨by decide +kernel, hTrace Sample.besideCommit.dropLast _ [] rfl (Or.inl fun _ => (by decide : 403 < 500))⟩

end SpotqPayment
