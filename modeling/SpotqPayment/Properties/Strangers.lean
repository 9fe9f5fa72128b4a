import SpotqPayment.System.OrderPayments
import SpotqPayment.Properties.NamedOnly
import SpotqPayment.Properties.RoutesGuarded

/-! What requests over HTTP can see and change of a food order that is not their own. -/
namespace SpotqPayment

open Process Transition Router ReadCommitted

section Http

variable {config : Config} {gate : Gate} {redis : Redis} {request : HttpRequest} {tx : PaymentTransaction}
variable {db : Database} {call : Call}

/-- A request of neither the other services nor the customer of the payment, with no
signature of the gateway. -/
structure HttpRequest.Stranger (config : Config) (gate : Gate) (tx : PaymentTransaction) (request : HttpRequest) :
    Prop where
  service : gate.authMiddleware request.headers.authorization ≠ .ok ()
  customer : request.headers.userId.bind gate.uuid ≠ tx.customerId
  webhook : ∀ parsedPayload, webhookAccepted config {
    rawBody := request.rawBody
    signature := request.headers.razorpaySignature.getD ""
    parsedPayload } = false

/-- The calls of strangers, and the expiry that the service starts on its own. -/
def StrangersCall (config : Config) (tx : PaymentTransaction) (call : Call) : Prop :=
  call = .expirePastDueSubscriptions ∨
    ∃ request gate redis, HttpRequest.Stranger config gate tx request ∧ request.call? gate redis = some call

section Requests

theorem HttpRequest.reached_of_call (h : request.call? gate redis = some call) :
    ∃ handler params final, request.dispatch gate redis = .reached handler params final ∧
      handler.call? gate final = some call := by
  unfold HttpRequest.call? at h
  split at h
  · next handler params final hReached => exact ⟨handler, params, final, hReached, h⟩
  · cases h
  · cases h

/-- A customer who passed the middleware is the one of the header. -/
theorem HttpRequest.IsCustomer.customerId_eq {final : HttpRequest} (h : final.IsCustomer) :
    final.customerId gate = final.headers.userId.bind gate.uuid := by
  obtain ⟨⟨user, hUser, hHeader, _⟩, _⟩ := h
  rw [HttpRequest.customerId, hUser, hHeader]
  rfl

theorem verifyOrderPaymentSchema_customer {body : Json} {customerId : Option Uuid} {input : VerifyOrderPaymentInput}
    (h : verifyOrderPaymentSchema gate body customerId = some input) : input.customerId = customerId := by
  unfold verifyOrderPaymentSchema at h
  simp only [Option.bind_eq_bind, Option.bind_eq_some_iff] at h
  obtain ⟨_, _, _, _, _, _, _, _, hInput⟩ := h
  cases hInput
  rfl

/-- The payment belongs to a food order and its customer. -/
structure PaymentTransaction.OfFoodOrder (tx : PaymentTransaction) : Prop where
  customer : tx.customerId.isSome
  plan : tx.planId = none

/-- Strangers reach no refund; their other calls do not carry the ids of the payment or
its customer, or are webhooks without a signature. -/
theorem strangers_unnamed (hTx : tx.OfFoodOrder) (hStranger : HttpRequest.Stranger config gate tx request)
    (h : request.call? gate redis = some call) :
    ¬ call.Names db tx ∨ ∃ input, call = .handleWebhook input ∧ webhookAccepted config input = false := by
  obtain ⟨handler, params, final, hReached, hCall⟩ := HttpRequest.reached_of_call h
  have hExtends := reached_extends hReached
  cases handler with
  | createOrder =>
      obtain ⟨input, _, rfl⟩ := Option.map_eq_some_iff.mp hCall
      refine Or.inl fun hNames => ?_
      rw [Call.Names, hTx.plan] at hNames
      cases hNames.2
  | verifyPayment =>
      obtain ⟨input, _, rfl⟩ := Option.map_eq_some_iff.mp hCall
      refine Or.inl fun hNames => ?_
      rw [Call.Names, hTx.plan] at hNames
      exact absurd hNames.2.1 (by simp)
  | handleWebhook =>
      obtain ⟨input, hInput, rfl⟩ := Option.map_eq_some_iff.mp hCall
      obtain ⟨body, _, hBody⟩ := Option.bind_eq_some_iff.mp hInput
      refine Or.inr ⟨input, rfl, ?_⟩
      cases hBody
      rw [hExtends.rawBody, hExtends.headers]
      exact hStranger.webhook _
  | createGatewayOrder =>
      obtain ⟨input, _, rfl⟩ := Option.map_eq_some_iff.mp hCall
      exact Or.inl id
  | verifyOrderPayment =>
      obtain ⟨input, hInput, rfl⟩ := Option.map_eq_some_iff.mp hCall
      obtain ⟨body, _, hSchema⟩ := Option.bind_eq_some_iff.mp hInput
      refine Or.inl fun hNames => ?_
      have hCustomer : input.customerId = request.headers.userId.bind gate.uuid := by
        rw [verifyOrderPaymentSchema_customer hSchema, ← hExtends.headers]
        exact (reached_customer hReached (by decide +kernel)).customerId_eq
      rcases hNames.2.2 with hNone | hSame
      · have hOwned := hTx.customer
        rw [hNone] at hOwned
        cases hOwned
      · exact hStranger.customer (hCustomer.symm.trans hSame.symm)
  | processRefund =>
      have hService := reached_service hReached (by decide +kernel)
      exact absurd (hExtends.headers ▸ hService) hStranger.service
  | _ => cases hCall

end Requests

section Runs

/-- An unsigned webhook is answered and forgotten. -/
theorem spares_unsigned {input : HandleWebhookInput} {now : Instant} (h : webhookAccepted config input = false) :
    Spares db tx (handleWebhook config input now) := by
  unfold handleWebhook
  rw [if_pos h]
  trivial

theorem strangers_calls (config : Config) (db : Database) (hTx : tx.OfFoodOrder) :
    CallsFollow config (StrangersCall config tx) (sparingDiscipline db tx)
      (fun request _ value => AnswersApart tx request value) fun _ => True := by
  rintro ⟨⟨call, env⟩, hCall⟩ _ world
  have hCalls := sparing_calls config (fun call => ¬ call.Names db tx) db tx fun _ => id
  have hKind := hCall
  rcases hKind with hExpiry | ⟨request, gate, redis, hStranger, hSame⟩
  · have hNames : ¬ call.Names db tx := (show call = .expirePastDueSubscriptions from hExpiry) ▸ id
    exact hCalls ⟨⟨call, env⟩, hNames⟩ trivial world
  · rcases strangers_unnamed hTx hStranger hSame with hNames | ⟨input, rfl, hUnsigned⟩
    · exact hCalls ⟨⟨call, env⟩, hNames⟩ trivial world
    · exact follows_of_spares ((spares_unsigned hUnsigned).map _)

variable {kind : Call → Prop}

theorem ofFoodOrder_reached (config : Config) (plans : Table SubscriptionPlan) (past : List (DeploymentMove kind))
    (hTx : tx ∈ (run (Deployment.next config) (World.initial plans).deployed past).sessions.shared.db.transactions.rows)
    (hOrder : tx.orderId.isSome) : tx.OfFoodOrder := by
  obtain ⟨hKept, _⟩ := integrity_run config (fun _ => True) plans past [] fun move _ =>
    starts_any (fun _ => trivial) move
  cases stored_sorted hKept hTx with
  | foodOrder _ hCustomer hPlan _ _ => exact ⟨hCustomer, hPlan⟩
  | plan hNone _ _ _ =>
      rw [hNone] at hOrder
      cases hOrder

/-- Once a food order has its payment, no run of requests by strangers, of expiries and
relays, with failures and crashes at every await, changes the payment or its refunds. -/
theorem strangers_change_nothing (config : Config) (plans : Table SubscriptionPlan)
    (past : List (DeploymentMove kind)) (tx : PaymentTransaction)
    (hTx : tx ∈ (run (Deployment.next config) (World.initial plans).deployed past).sessions.shared.db.transactions.rows)
    (hOrder : tx.orderId.isSome) (moves : List (DeploymentMove (StrangersCall config tx))) :
    let world := (run (Deployment.next config) (World.initial plans).deployed past).sessions.shared
    let after := (run (Deployment.next config) world.deployed moves).sessions.shared.db
    tx ∈ after.transactions.rows ∧
      ∀ refund, refund.paymentTransactionId = tx.id → (refund ∈ after.refunds.rows ↔ refund ∈ world.db.refunds.rows) := by
  intro world after
  have hCalls := strangers_calls config world.db (ofFoodOrder_reached config plans past hTx hOrder)
  obtain ⟨hKept, hFollows⟩ := sparing_run config world hTx hCalls moves
  exact ⟨stored_of_kept hKept, fun refund => refunds_spared hKept hFollows⟩

theorem HttpRequest.reached_of_orderStatus {input : GetOrderPaymentStatusInput}
    (h : request.orderStatus? gate redis = some input) :
    ∃ params final, request.dispatch gate redis = .reached .getOrderStatus params final ∧
      input.customerId = final.customerId gate := by
  unfold HttpRequest.orderStatus? at h
  split at h
  · next params final hReached =>
      obtain ⟨orderId, _, hInput⟩ := Option.bind_eq_some_iff.mp h
      cases hInput
      exact ⟨params, final, hReached, rfl⟩
  · cases h

/-- The status of an order is that of its newest payment, shown to the customer it belongs to. -/
theorem getOrderPaymentStatus_shown {world : World} {env : Env} {input : GetOrderPaymentStatusInput}
    {output : GetOrderPaymentStatusOutput}
    (h : (exec (Port.perform env) (getOrderPaymentStatus input) world).1 = .ok output) :
    ∃ tx, world.db.Newest input.orderId tx ∧ tx.assertOwnership input.customerId = .ok () ∧
      output = OrderPaymentMapper.toStatusResponse tx := by
  rw [getOrderPaymentStatus, exec_call_bind, perform_findByCustomerOrderId] at h
  cases hNewest : world.db.newestOf env input.orderId with
  | none =>
      unfold Database.newestOf at hNewest
      rw [hNewest] at h
      cases h
  | some tx =>
      have hFound := newest_of_newestOf hNewest
      unfold Database.newestOf at hNewest
      rw [hNewest] at h
      cases hOwner : tx.assertOwnership input.customerId with
      | error error =>
          simp only [hOwner, check_error, fail_bind, exec_fail] at h
          cases h
      | ok passed =>
          simp only [hOwner, check_ok, ret_bind] at h
          cases h
          exact ⟨tx, hFound, hOwner, rfl⟩

theorem owner_of_assertOwnership {customerId : Option Uuid} (hOwned : tx.customerId.isSome)
    (h : tx.assertOwnership customerId = .ok ()) : customerId = tx.customerId := by
  obtain ⟨owner, hOwner⟩ := Option.isSome_iff_exists.mp hOwned
  unfold PaymentTransaction.assertOwnership PaymentTransaction.isOwnedBy at h
  rw [hOwner] at h ⊢
  cases customerId with
  | none => cases h
  | some caller =>
      simp only [beq_iff_eq] at h
      split at h
      · next hSame => rw [hSame]
      · cases h

/-- In every run, a request that is shown the status of an order comes from the customer
of its payment, and is shown the newest one. -/
theorem order_status_private (config : Config) (gate : Gate) (redis : Redis) (plans : Table SubscriptionPlan)
    (moves : List (DeploymentMove kind)) (request : HttpRequest) (input : GetOrderPaymentStatusInput) (env : Env)
    (output : GetOrderPaymentStatusOutput) (hRequest : request.orderStatus? gate redis = some input)
    (hShown : (exec (Port.perform env) (getOrderPaymentStatus input)
      (run (Deployment.next config) (World.initial plans).deployed moves).sessions.shared).1 = .ok output) :
    let world := (run (Deployment.next config) (World.initial plans).deployed moves).sessions.shared
    ∃ tx, world.db.Newest input.orderId tx ∧ output = OrderPaymentMapper.toStatusResponse tx ∧
      tx.customerId.isSome ∧ request.headers.userId.bind gate.uuid = tx.customerId ∧
        ∀ role, truthy (request.headers.userRole.map String.toLower) = some role → role = "customer" := by
  intro world
  obtain ⟨tx, hNewest, hOwner, hOutput⟩ := getOrderPaymentStatus_shown hShown
  obtain ⟨params, final, hReached, hInput⟩ := HttpRequest.reached_of_orderStatus hRequest
  have hFood := ofFoodOrder_reached config plans moves hNewest.mem (hNewest.order ▸ rfl)
  have hCustomer := reached_customer hReached (by decide +kernel)
  have hHeaders := (reached_extends hReached).headers
  refine ⟨tx, hNewest, hOutput, hFood.customer, ?_, hHeaders ▸ hCustomer.2⟩
  rw [← owner_of_assertOwnership hFood.customer hOwner, hInput, hCustomer.customerId_eq, hHeaders]

end Runs

end Http

namespace Sample

/-- The order that the requests name is opened for its customer. -/
def opening : Request where
  call := .createOrderPayment {
    orderId := 0x40008000000000000007
    customerId := 0x4000800000000000000b
    restaurantId := 21
    amountPaise := 50000
    currency := none
    amountPaise_pos := price_pos }
  env := { env 1000 with gatewayOrderId := some "order_1" }

def openingMoves : List (DeploymentMove fun _ => True) :=
  .service (.start ⟨opening, trivial⟩) :: List.replicate 8 (.service (.advance 0 (.proceed opening.env)))

def opened : World := (run (Deployment.next config) (World.initial plans).deployed openingMoves).sessions.shared

theorem openedPayment_isSome : (opened.db.transactions.get? 0).isSome = true := by decide +kernel

def openedPayment : PaymentTransaction := (opened.db.transactions.get? 0).get openedPayment_isSome

theorem openedPayment_mem : openedPayment ∈ opened.db.transactions.rows :=
  (Table.get?_eq_some.mp (Option.some_get openedPayment_isSome).symm).1

/-- Another customer brings the signed payment. -/
def strangersRequest : HttpRequest := verificationRequest "00000000-0000-4000-8000-00000000000c"

theorem strangersRequest_call : (strangersRequest.call? gate ExpiringStore.empty).isSome = true := by decide +kernel

theorem strangersRequest_service : gate.authMiddleware strangersRequest.headers.authorization ≠ .ok () := by
  simp [strangersRequest, verificationRequest, headers, gate]

theorem strangersRequest_customer : strangersRequest.headers.userId.bind gate.uuid ≠ openedPayment.customerId := by
  decide +kernel

theorem strangersRequest_stranger : HttpRequest.Stranger config gate openedPayment strangersRequest where
  service := strangersRequest_service
  customer := strangersRequest_customer
  webhook := fun _ => rfl

def strangersVerification : Request where
  call := (strangersRequest.call? gate ExpiringStore.empty).get strangersRequest_call
  env := env 2000

theorem strangersVerification_call : StrangersCall config openedPayment strangersVerification.call :=
  Or.inr ⟨strangersRequest, gate, ExpiringStore.empty, strangersRequest_stranger,
    (Option.some_get strangersRequest_call).symm⟩

def strangersMoves : List (DeploymentMove (StrangersCall config openedPayment)) :=
  .service (.start ⟨strangersVerification, strangersVerification_call⟩) ::
    List.replicate 8 (.service (.advance 0 (.proceed (env 2000))))

theorem openedPayment_order : openedPayment.orderId.isSome = true := by decide +kernel

end Sample

theorem strangers_change_nothing_verification :
    let after := (run (Deployment.next Sample.config) Sample.opened.deployed Sample.strangersMoves).sessions.shared.db
    Sample.openedPayment ∈ after.transactions.rows ∧
      ∀ refund, refund.paymentTransactionId = Sample.openedPayment.id →
        (refund ∈ after.refunds.rows ↔ refund ∈ Sample.opened.db.refunds.rows) :=
  strangers_change_nothing Sample.config Sample.plans Sample.openingMoves Sample.openedPayment
    Sample.openedPayment_mem Sample.openedPayment_order Sample.strangersMoves

namespace Sample

def ownersRequest : HttpRequest := statusRequest customerText

theorem ownersRequest_status : (ownersRequest.orderStatus? gate ExpiringStore.empty).isSome = true := by
  decide +kernel

def ownersInput : GetOrderPaymentStatusInput :=
  (ownersRequest.orderStatus? gate ExpiringStore.empty).get ownersRequest_status

theorem ownersOutput_isSome :
    ((exec (Port.perform (env 2000)) (getOrderPaymentStatus ownersInput) opened).1.toOption).isSome = true := by
  decide +kernel

def ownersOutput : GetOrderPaymentStatusOutput :=
  ((exec (Port.perform (env 2000)) (getOrderPaymentStatus ownersInput) opened).1.toOption).get ownersOutput_isSome

end Sample

theorem order_status_private_owner :
    ∃ tx, Sample.opened.db.Newest Sample.ownersInput.orderId tx ∧
      Sample.ownersRequest.headers.userId.bind Sample.gate.uuid = tx.customerId := by
  have hShown : (exec (Port.perform (Sample.env 2000)) (getOrderPaymentStatus Sample.ownersInput) Sample.opened).1 =
      .ok Sample.ownersOutput := by decide +kernel
  obtain ⟨tx, hNewest, _, _, hCustomer, _⟩ := order_status_private Sample.config Sample.gate ExpiringStore.empty
    Sample.plans Sample.openingMoves Sample.ownersRequest Sample.ownersInput (Sample.env 2000) Sample.ownersOutput
    (Option.some_get Sample.ownersRequest_status).symm hShown
  exact ⟨tx, hNewest, hCustomer⟩

end SpotqPayment
