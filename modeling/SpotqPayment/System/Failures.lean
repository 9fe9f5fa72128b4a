import SpotqPayment.Library.Failures
import SpotqPayment.Presentation.RefundRoute
import SpotqPayment.System.Deployment

/-! How the calls of the service fail. Each of them has a few errors of the domain of its
own; all other errors come from the database and the gateway. A call that fails has
changed nothing, except for a subscription order whose draft invoice could not be stored. -/
namespace SpotqPayment

open Process Engine ReadCommitted PaymentTransactionRepository SubscriptionRepository

/-- An error that is none of the domain. -/
def ServiceError.Technical (error : ServiceError) : Prop := error.domainError? = none

instance (error : ServiceError) : Decidable error.Technical :=
  match h : error.domainError? with
  | none => isTrue h
  | some _ => isFalse fun hNone => nomatch h.symm.trans hNone

/-- The errors of the domain that a method throws. -/
def RepositoryCall.Throws (error : ServiceError) : RepositoryCall → Prop
  | .captureOrderPaymentWithOutbox _ | .failOrderPaymentWithOutbox _ => error = .paymentOrderNotFound
  | .processOrderRefund _ => error = .paymentOrderNotFound ∨ error = .paymentAlreadyRefunded
  | _ => False

def RepositoryCall.IsRead : RepositoryCall → Prop
  | .findByOrderId _ | .findByCustomerOrderId _ | .findPendingByRestaurantAndPlan _ _ | .findPlanById _
  | .findActiveByRestaurantId _ | .findSubscriptionById _ | .findPastDueSubscriptions _ => True
  | _ => False

def Port.Fails : Port → ServiceError → Prop
  | .repository request, error => error.Technical ∨ request.Throws error
  | _, error => error.Technical

/-- Remote calls touch no table. -/
def Port.Harmless : Port → Prop
  | .repository request => request.IsRead
  | _ => True

section Methods

/-- A method that ends only with technical errors and those of one kind. -/
abbrev Throwing {Value : Type} (thrown : ServiceError → Prop) (body : Repository Value) : Prop :=
  body.Raises (fun _ => ServiceError.Technical) fun error => error.Technical ∨ thrown error

variable {thrown : ServiceError → Prop}

theorem throwing_bind {Value : Type} {statement : Statement} {next : statement.Answer → Repository Value}
    (hNext : ∀ answer, Throwing thrown (next answer)) : Throwing thrown (query statement >>= next) :=
  Raises.call_bind (fun _ => Or.inl) hNext

theorem throwing_query (statement : Statement) : Throwing thrown (query statement) :=
  Raises.call fun _ => Or.inl

theorem throwing_capture (params : CaptureOrderPaymentWithOutboxParams) :
    Throwing (· = .paymentOrderNotFound) (captureOrderPaymentWithOutbox params) := by
  refine throwing_bind fun found => ?_
  cases found with
  | none => exact Or.inr rfl
  | some existing =>
      simp only
      split
      · trivial
      · exact throwing_bind fun _ => throwing_bind fun _ => trivial

theorem throwing_fail (params : FailOrderPaymentWithOutboxParams) :
    Throwing (· = .paymentOrderNotFound) (failOrderPaymentWithOutbox params) := by
  refine throwing_bind fun found => ?_
  cases found with
  | none => exact Or.inr rfl
  | some existing =>
      simp only
      split
      · trivial
      · exact throwing_bind fun _ => throwing_bind fun _ => trivial

theorem throwing_refund (params : ProcessOrderRefundParams) (now : Instant) :
    Throwing (fun error => error = .paymentOrderNotFound ∨ error = .paymentAlreadyRefunded)
      (PaymentTransactionRepository.processOrderRefund params now) := by
  refine throwing_bind fun found => ?_
  cases found with
  | none => exact Or.inr (Or.inl rfl)
  | some existing =>
      simp only
      split
      · exact Or.inr (Or.inr rfl)
      · exact throwing_bind fun _ => throwing_bind fun _ => throwing_bind fun _ => trivial

theorem throwing_settleRefund (transactionId : Uuid) (now : Instant) :
    Throwing thrown (settleRefund transactionId now) :=
  throwing_bind fun _ => throwing_bind fun _ => trivial

theorem throwing_syncRefund (params : SyncRefundFromWebhookParams) (now : Instant) :
    Throwing thrown (syncRefundFromWebhook params now) := by
  refine throwing_bind fun found => ?_
  cases found with
  | some refund =>
      refine throwing_bind fun _ => ?_
      split
      · exact throwing_settleRefund _ _
      · trivial
  | none =>
      simp only
      split
      · trivial
      · refine throwing_bind fun row => ?_
        cases row with
        | none => trivial
        | some txRecord =>
            refine throwing_bind fun _ => ?_
            split
            · exact throwing_settleRefund _ _
            · trivial

theorem throwing_linkedSubscription (tx : Option PaymentTransaction) : Throwing thrown (linkedSubscription tx) := by
  unfold linkedSubscription
  split
  · trivial
  · exact throwing_query _

section Activation

variable {params : ActivateSubscriptionWithOutboxParams} {existingTx : Option PaymentTransaction}
variable {invoiceNumber : String} {now : Instant}

theorem throwing_openSubscription : Throwing thrown (openSubscription params existingTx invoiceNumber now) := by
  refine throwing_bind fun subRecord => throwing_bind fun _ => ?_
  have hInvoice : Throwing thrown (recordInvoice params existingTx subRecord.id invoiceNumber now) := by
    refine throwing_bind fun found => ?_
    split
    · exact throwing_bind fun _ => trivial
    · exact throwing_bind fun _ => trivial
    · trivial
  exact hInvoice.bind fun _ => throwing_bind fun _ => trivial

theorem throwing_activate : Throwing thrown (activateSubscriptionWithOutbox params invoiceNumber now) := by
  refine throwing_bind fun existing => (throwing_linkedSubscription _).bind fun linked => ?_
  cases linked with
  | some existingSub => trivial
  | none =>
      refine throwing_bind fun count => ?_
      split
      · refine throwing_bind fun updatedTx => (throwing_linkedSubscription updatedTx).bind fun linked => ?_
        cases linked with
        | some existingSub => trivial
        | none => exact throwing_openSubscription
      · exact throwing_openSubscription

end Activation

open PaymentSubscriptionExpiryService in
theorem throwing_expire (pastDue : List (Subscription × SubscriptionPlan)) (now : Instant) :
    Throwing thrown (expire pastDue now) := by
  have hAnnounce : ∀ rest, Throwing thrown (announceExpiry now rest) := by
    intro rest
    induction rest with
    | nil => trivial
    | cons pair rest ih => exact throwing_bind fun _ => ih
  exact throwing_bind fun _ => hAnnounce pastDue

/-- Every method throws its own errors only. -/
theorem throwing_body (env : Env) (request : RepositoryCall) :
    Throwing (fun error => request.Throws error) (request.body env) := by
  cases request with
  | captureOrderPaymentWithOutbox params => exact throwing_capture params
  | failOrderPaymentWithOutbox params => exact throwing_fail params
  | processOrderRefund params => exact throwing_refund params env.now
  | syncRefundFromWebhook params => exact throwing_syncRefund params env.now
  | activateSubscriptionWithOutbox params => exact throwing_activate
  | expireSubscriptions pastDue now => exact throwing_expire pastDue now
  | _ => exact throwing_query _

theorem readsOnly_body (env : Env) {request : RepositoryCall} (h : request.IsRead) :
    (request.body env).Respects paymentStore.ReadsOnly fun _ _ => True := by
  cases request with
  | findByOrderId | findByCustomerOrderId | findPendingByRestaurantAndPlan | findPlanById | findActiveByRestaurantId
  | findSubscriptionById | findPastDueSubscriptions =>
      refine Respects.call fun _ _ _ _ hEval => ?_
      cases hEval
      rfl
  | _ => exact h.elim

theorem technical_of_eval {env : Env} {statement : Statement} {db : Database} {error : ServiceError}
    (h : statement.eval env db = .error error) : error.Technical := by
  cases statement with
  | updateTransaction key data | updateRefund id data | updateInvoice id data =>
      unfold Statement.eval at h
      simp only at h
      split at h
      · cases h
        rfl
      · cases h
  | _ => cases h

end Methods

/-- The gateway fails with its own error. -/
theorem technical_of_remote {env : Env} {port : Port} {world : World} {error : ServiceError}
    (h : (Port.perform env port world).1 = .error error) (hRemote : ∀ request, port ≠ .repository request) :
    error.Technical := by
  cases port with
  | repository request => exact absurd rfl (hRemote request)
  | createOrder amountInPaise currency =>
      simp only [Port.perform] at h
      cases hOrder : env.gatewayOrderId with
      | none =>
          rw [hOrder] at h
          cases h
          rfl
      | some orderId =>
          rw [hOrder] at h
          cases h
  | createRefund paymentId amountInPaise =>
      simp only [Port.perform] at h
      cases hRefund : env.gatewayRefund with
      | none =>
          rw [hRefund] at h
          cases h
          rfl
      | some refund =>
          rw [hRefund] at h
          cases h

/-- An operation that takes place at once fails as its port does. -/
theorem fails_of_perform {env : Env} {port : Port} {world : World} {error : ServiceError}
    (h : (Port.perform env port world).1 = .error error) : port.Fails error := by
  cases port with
  | repository request =>
      have hExec : (exec (engine env).perform (request.body env) world.db).1 = .error error := by
        rw [perform_repository, atomically] at h
        rcases hBody : exec (engine env).perform (request.body env) world.db with ⟨failure | answer, final⟩
        · rw [hBody] at h
          exact h
        · rw [hBody] at h
          cases h
      refine Raises.of_exec (fun statement db failure hFailure => ?_) (throwing_body env request) hExec
      unfold Engine.perform at hFailure
      cases hEval : (engine env).eval statement db with
      | error raised =>
          rw [hEval] at hFailure
          cases hFailure
          exact technical_of_eval hEval
      | ok outcome =>
          obtain ⟨answer, writes⟩ := outcome
          simp only [hEval] at hFailure
          split at hFailure
          · cases hFailure
          · cases hFailure
            rfl
  | createOrder => exact technical_of_remote h (by simp)
  | createRefund => exact technical_of_remote h (by simp)

/-- The failures of the payment database and the gateway. -/
def paymentFailures : FailureModel paymentStore where
  broken := ServiceError.Technical
  raises := Port.Fails
  harmless := Port.Harmless
  unchanged := fun before after => after.db = before.db
  refl := fun _ => rfl
  refused := rfl
  eval := technical_of_eval
  raises_broken := by
    intro port error hTechnical
    cases port with
    | repository request => exact Or.inl hTechnical
    | createOrder => exact hTechnical
    | createRefund => exact hTechnical
  remote := by
    intro env port world answer after hCarry
    refine ⟨carry_db hCarry, fun error hError => ?_⟩
    subst hError
    cases port with
    | repository request => cases hCarry
    | createOrder => exact technical_of_remote (congrArg Prod.fst (Sum.inl.inj hCarry)) (by simp)
    | createRefund => exact technical_of_remote (congrArg Prod.fst (Sum.inl.inj hCarry)) (by simp)
  body := by
    intro env port world body hCarry
    cases port with
    | repository request =>
        cases hCarry
        exact ⟨throwing_body env request, readsOnly_body env⟩
    | createOrder => cases hCarry
    | createRefund => cases hCarry

end SpotqPayment
