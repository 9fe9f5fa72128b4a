import SpotqPayment.Presentation.RefundRoute
import SpotqPayment.System.CallEffects
import SpotqPayment.System.Service

/-! What a refund request is told. The answer depends on the body of the request and
the place where it is stored on the header alone, so that a replayed answer belongs
to the key. It belongs to the order too if no key is used for two orders. -/
namespace SpotqPayment

open Process Transition PaymentTransactionRepository

/-- The use case of the request was successful, for the order that was asked for, and
the answer says so. -/
def ServedRefund.Refunded (served : ServedRefund) : Prop :=
  ∃ output, served.refund = some (.ok output) ∧ output.orderId = some served.request.input.orderId ∧
    served.answer = processRefund (.ok output) served.request.env.now

/-- Every request that is answered with 200 was executed, or it has the answer of an
earlier request that was executed and that is the same in the given sense. -/
def AnsweredFor (Same : RoutedRefund → RoutedRefund → Prop) (served : List ServedRefund) : Prop :=
  ∀ earlier current, earlier ++ [current] <+: served → current.answer.statusCode = 200 →
    current.Refunded ∨ ∃ first ∈ earlier, first.Refunded ∧ first.answer = current.answer ∧
      Same first.request current.request

def RoutedRefund.SameOrder (first second : RoutedRefund) : Prop := first.input.orderId = second.input.orderId

def RoutedRefund.SameKey (first second : RoutedRefund) : Prop :=
  ∃ key, idempotencyKey first.header = some key ∧ idempotencyKey second.header = some key

/-- No key has been used for two orders. -/
def KeysKeptApart (served : List ServedRefund) : Prop :=
  ∀ first ∈ served, ∀ second ∈ served, first.request.SameKey second.request →
    first.request.SameOrder second.request

/-- Refund requests one after another, with other calls of the service and passing
time between them. -/
inductive RefundMove where
  | refund (request : RoutedRefund)
  | call (request : Request)
  | elapse (milliseconds : Nat)

def RefundService.next (config : Config) (service : RefundService) : RefundMove → RefundService
  | .refund request => service.refund request
  | .call request => { service with world := serve config service.world request }
  | .elapse milliseconds => { service with redis := service.redis.elapse milliseconds }

/-- The service with an empty cache. -/
def RefundService.start (world : World) : RefundService where
  world := world
  redis := ExpiringStore.empty
  served := []

section Order

variable {input : ProcessOrderRefundInput} {env : Env} {world : World} {tx refunded : PaymentTransaction}

theorem markRefunded_eq {now : Instant} (h : tx.markRefunded now = .ok refunded) :
    refunded = statusRow .refunded now tx := by
  unfold PaymentTransaction.markRefunded at h
  split at h
  · cases h
  · cases h
    rfl

/-- The recorded refund is one of the transaction that was read. -/
theorem order_of_recordRefund {amount : Int} {answer : PaymentRefundResult} {output : ProcessOrderRefundOutput}
    (hMem : tx ∈ world.db.transactions.rows) (hOpen : tx.status ≠ .refunded)
    (h : (exec (Port.perform env) (recordRefund input tx amount answer env.now) world).1 = .ok output) :
    output.orderId = tx.orderId := by
  obtain ⟨refunded, hRefunded, h⟩ := exec_check_bind_ok h
  obtain rfl := markRefunded_eq hRefunded
  obtain ⟨stored, hStored, h⟩ := exec_call_bind_ok h
  cases h
  have hRow : world.db.findTransaction (.id (statusRow .refunded env.now tx).id) = some tx :=
    Database.findTransaction_id hMem
  rw [perform_of_writes (processOrderRefund_writes hRow hOpen)] at hStored
  unfold World.commit at hStored
  split at hStored
  · cases hStored
    rfl
  · cases hStored

theorem order_of_requestRefund {output : ProcessOrderRefundOutput} (hMem : tx ∈ world.db.transactions.rows)
    (hOpen : tx.status ≠ .refunded)
    (h : (exec (Port.perform env) (requestRefund input tx env.now) world).1 = .ok output) :
    output.orderId = tx.orderId := by
  unfold requestRefund at h
  cases hPayment : truthy tx.razorpayPaymentId with
  | none =>
      rw [hPayment] at h
      cases h
  | some paymentId =>
      rw [hPayment] at h
      simp only at h
      rw [exec_attempt_bind] at h
      cases hGateway : env.gatewayRefund with
      | none =>
          rw [perform_createRefund_failed hGateway] at h
          cases h
      | some answer =>
          rw [perform_createRefund hGateway] at h
          exact @order_of_recordRefund input env (world.refunded paymentId _ answer) tx _ answer output hMem hOpen h

/-- A successful refund is one of the order that was asked for. -/
theorem order_of_processOrderRefund {output : ProcessOrderRefundOutput}
    (h : (exec (Port.perform env) (processOrderRefund input env.now) world).1 = .ok output) :
    output.orderId = some input.orderId := by
  obtain ⟨found, hFound, h⟩ := exec_call_bind_ok h
  rw [perform_findByCustomerOrderId] at hFound
  cases hFound
  cases hNewest : world.db.transactions.findFirst env.tie PaymentTransaction.createdAt
      (fun tx => tx.orderId = some input.orderId) with
  | none =>
      rw [perform_findByCustomerOrderId, hNewest] at h
      cases h
  | some tx =>
      rw [perform_findByCustomerOrderId, hNewest] at h
      obtain ⟨_, hAllowed, h⟩ := exec_check_bind_ok h
      obtain ⟨hMem, hOrder⟩ := Table.findFirst_some hNewest
      have hOpen : tx.status ≠ .refunded := by
        rcases tx.paid_of_refundable hAllowed with hPaid | hPaid <;> simp [hPaid]
      exact (order_of_requestRefund hMem hOpen h).trans (of_decide_eq_true hOrder.1)

end Order

theorem ServedRefund.Refunded.answer_eq {served : ServedRefund} (h : served.Refunded) :
    served.answer = { statusCode := 200, body := served.answer.body } := by
  obtain ⟨output, _, _, hAnswer⟩ := h
  rw [hAnswer]
  rfl

section Answers

variable {Same : RoutedRefund → RoutedRefund → Prop} {served : List ServedRefund} {new : ServedRefund}

theorem AnsweredFor.snoc (h : AnsweredFor Same served)
    (hNew : new.answer.statusCode = 200 → new.Refunded ∨ ∃ first ∈ served, first.Refunded ∧ first.answer = new.answer ∧
      Same first.request new.request) : AnsweredFor Same (served ++ [new]) := by
  intro earlier current hPrefix hStatus
  rcases List.prefix_concat_iff.mp hPrefix with hWhole | hBefore
  · obtain ⟨rfl, hSame⟩ := List.append_inj' hWhole rfl
    cases hSame
    exact hNew hStatus
  · exact h earlier current hBefore hStatus

/-- With a key for each order, what belongs to the key belongs to the order. -/
theorem AnsweredFor.sameOrder (h : AnsweredFor RoutedRefund.SameKey served) (hKeys : KeysKeptApart served) :
    AnsweredFor RoutedRefund.SameOrder served := by
  intro earlier current hPrefix hStatus
  rcases h earlier current hPrefix hStatus with hOwn | ⟨first, hFirst, hRefunded, hAnswer, hKey⟩
  · exact Or.inl hOwn
  · have hMem : ∀ other ∈ earlier ++ [current], other ∈ served := fun other hOther => hPrefix.subset hOther
    refine Or.inr ⟨first, hFirst, hRefunded, hAnswer, hKeys first ?_ current ?_ hKey⟩
    · exact hMem first (List.mem_append_left _ hFirst)
    · exact hMem current (List.mem_append_right _ (List.mem_singleton_self current))

/-- A replayed answer needs an earlier request that is the same. -/
theorem not_answeredFor_replayed (hRefund : new.refund = none) (hStatus : new.answer.statusCode = 200)
    (hOther : ∀ first ∈ served, ¬ Same first.request new.request) : ¬ AnsweredFor Same (served ++ [new]) := by
  intro h
  rcases h served new List.prefix_rfl hStatus with ⟨output, hOutput, _⟩ | ⟨first, hFirst, _, _, hSame⟩
  · rw [hRefund] at hOutput
    cases hOutput
  · exact hOther first hFirst hSame

end Answers

/-- Every stored answer is that of a successful refund with its key, and so is every
answer with 200. -/
structure RefundService.Proper (service : RefundService) : Prop where
  stored : ∀ key body, storedAnswer key service.redis = some body →
    ∃ first ∈ service.served, first.Refunded ∧ first.answer = { statusCode := 200, body } ∧
      idempotencyKey first.request.header = some key
  answered : AnsweredFor RoutedRefund.SameKey service.served

namespace RefundService.Proper

variable {config : Config} {service : RefundService} {request : RoutedRefund} {redis : Redis}

/-- Answers that were stored before are still accounted for. -/
theorem stored_snoc (h : service.Proper) {key : String} {body : Json} (hStored : storedAnswer key service.redis = some body)
    (new : ServedRefund) : ∃ first ∈ service.served ++ [new], first.Refunded ∧
      first.answer = { statusCode := 200, body } ∧ idempotencyKey first.request.header = some key := by
  obtain ⟨first, hFirst, hRefunded⟩ := h.stored key body hStored
  exact ⟨first, List.mem_append_left _ hFirst, hRefunded⟩

theorem refuse (h : service.Proper) {answer : HttpAnswer} (hStatus : answer.statusCode ≠ 200) :
    (service.reply request answer service.redis).Proper where
  stored := fun _ _ hStored => h.stored_snoc hStored _
  answered := h.answered.snoc fun hSuccess => absurd hSuccess hStatus

theorem replay (h : service.Proper) {key : String} {body : Json} (hKey : idempotencyKey request.header = some key)
    (hStored : storedAnswer key service.redis = some body) :
    (service.reply request { statusCode := 200, body } service.redis).Proper where
  stored := fun _ _ hStored => h.stored_snoc hStored _
  answered := by
    obtain ⟨first, hFirst, hRefunded, hAnswer, hSame⟩ := h.stored key body hStored
    exact h.answered.snoc fun _ => Or.inr ⟨first, hFirst, hRefunded, hAnswer, key, hSame, hKey⟩

/-- A handler that has answered with success has refunded the order. -/
theorem refunded_of_successful {world : World}
    (h : (processRefund (request.execute world).1 request.env.now).Successful) :
    ServedRefund.Refunded {
      request
      refund := some (request.execute world).1
      answer := processRefund (request.execute world).1 request.env.now } := by
  obtain ⟨output, hResult⟩ := processRefund_successful h
  exact ⟨output, congrArg some hResult, order_of_processOrderRefund hResult,
    congrArg (processRefund · request.env.now) hResult⟩

theorem handle (h : service.Proper) {key : String} (hKey : idempotencyKey request.header = some key)
    (entry : Expiring String) :
    (service.handle request (Hooks.installed (refundIdempotency.cacheKey key) (refundIdempotency.lockKey key))
      (service.redis.put (refundIdempotency.lockKey key) entry)).Proper := by
  refine ⟨fun other body hStored => ?_, h.answered.snoc fun hStatus => Or.inl ?_⟩
  · have hAfter := storedAnswer_settle.symm.trans hStored
    split at hAfter
    · next hNew =>
        obtain ⟨hSuccess, rfl⟩ := hNew
        cases hAfter
        have hRefunded := refunded_of_successful hSuccess
        exact ⟨_, List.mem_append_right _ (List.mem_singleton_self _), hRefunded, hRefunded.answer_eq, hKey⟩
    · rw [storedAnswer_put_lock] at hAfter
      exact h.stored_snoc hAfter _
  · have hSuccess : (processRefund (request.execute service.world).1 request.env.now).statusCode = 200 := hStatus
    exact refunded_of_successful ⟨hSuccess.ge, hSuccess.trans_lt (by decide)⟩

/-- One refund request. -/
theorem refund (h : service.Proper) (request : RoutedRefund) : (service.refund request).Proper := by
  have hEnds := idempotencyMiddleware_ends request.header service.redis
  unfold RefundService.refund
  generalize exec (CacheCall.perform true) (idempotencyMiddleware refundIdempotency request.header) service.redis =
    result at hEnds ⊢
  cases hEnds with
  | refused hStatus => exact h.refuse hStatus
  | replay hKey hStored => exact h.replay hKey hStored
  | next hKey entry => exact h.handle hKey entry

theorem next (h : service.Proper) (move : RefundMove) : (service.next config move).Proper := by
  cases move with
  | refund request => exact h.refund request
  | call request => exact ⟨h.stored, h.answered⟩
  | elapse milliseconds => exact ⟨fun key body hStored => h.stored key body (storedAnswer_elapse hStored), h.answered⟩

end RefundService.Proper

theorem start_proper (world : World) : (RefundService.start world).Proper where
  stored := nofun
  answered := fun earlier current hPrefix => by
    have hNil := List.prefix_nil.mp hPrefix
    exact absurd hNil (List.append_ne_nil_of_right_ne_nil earlier (List.cons_ne_nil current []))

/-- For any refund requests one after another, with any other calls and any time
between them: an answer with 200 is that of a refund of the order, or that of an
earlier refund with the key. It is one for the order in both cases if the callers
keep the keys of two orders apart. -/
theorem refund_answered_for_key (config : Config) (world : World) (moves : List RefundMove) :
    Always (RefundService.next config) (RefundService.start world) moves fun service =>
      AnsweredFor RoutedRefund.SameKey service.served ∧
        (KeysKeptApart service.served → AnsweredFor RoutedRefund.SameOrder service.served) := by
  have hProper : Always (RefundService.next config) (RefundService.start world) moves RefundService.Proper :=
    fun past _ => run_invariant RefundService.Proper (fun _ move h => h.next move) (start_proper world) past
  exact fun past hPast =>
    ⟨(hProper past hPast).answered, fun hKeys => (hProper past hPast).answered.sameOrder hKeys⟩

namespace Sample

def routedRefund (now : Instant) (orderId : Uuid) (refundId : String) : RoutedRefund where
  header := ["k"]
  input := { orderId := orderId, amountPaise := none, reason := none }
  env := (processOrderRefund now orderId refundId "processed").env

def payTwoOrders : List RefundMove :=
  [.call (createOrderPayment 1000 7 50000 Sample.price_pos "order_1"),
    .call (createOrderPayment 1000 8 60000 Sample.dearerPrice_pos "order_2"),
    .call (verifyOrderPayment 2000 7 "order_1" "pay_1"), .call (verifyOrderPayment 2000 8 "order_2" "pay_2")]

def twoPaidOrders : RefundService :=
  run (RefundService.next config) (RefundService.start (World.initial Table.empty)) payTwoOrders

/-- The refunds of the two orders, with one key. -/
def firstRefund : RoutedRefund := routedRefund 3000 7 "rfnd_1"

def secondRefund : RoutedRefund := routedRefund 4000 8 "rfnd_2"

end Sample

theorem run_refunds (config : Config) (start : RefundService) (moves : List RefundMove) (first second : RoutedRefund) :
    run (RefundService.next config) start (moves ++ [.refund first, .refund second]) =
      ((run (RefundService.next config) start moves).refund first).refund second :=
  run_append (RefundService.next config) start moves [.refund first, .refund second]

/-- The second request is told of a refund, and its order is not refunded. -/
theorem refund_answered_for_order_fails :
    ¬ ∀ config world moves, Always (RefundService.next config) (RefundService.start world) moves fun service =>
      AnsweredFor RoutedRefund.SameOrder service.served := by
  intro h
  have hEnd := h Sample.config (World.initial Table.empty)
    (Sample.payTwoOrders ++ [.refund Sample.firstRefund, .refund Sample.secondRefund]) _ List.prefix_rfl
  have hSuccess : (processRefund (Sample.firstRefund.execute Sample.twoPaidOrders.world).1
      Sample.firstRefund.env.now).Successful := by decide +kernel
  have hOrders : ∀ served ∈ (Sample.twoPaidOrders.refund Sample.firstRefund).served,
      served.request.input.orderId ≠ Sample.secondRefund.input.orderId := by decide +kernel
  have hKey : idempotencyKey ["k"] = some "k" := by decide +kernel
  have hNone : storedAnswer "k" Sample.twoPaidOrders.redis = none := by decide +kernel
  have hFree : Sample.twoPaidOrders.redis.find? (refundIdempotency.lockKey "k") = none := by decide +kernel
  have hReplayed := @refund_replayed Sample.twoPaidOrders Sample.firstRefund Sample.secondRefund "k"
    hKey hKey hNone hFree hSuccess
  have hPaid : run (RefundService.next Sample.config) (RefundService.start (World.initial Table.empty))
      Sample.payTwoOrders = Sample.twoPaidOrders := rfl
  rw [run_refunds, hPaid, hReplayed] at hEnd
  exact not_answeredFor_replayed rfl rfl hOrders hEnd

end SpotqPayment
