import SpotqPayment.System.References

/-! The foreign keys of the schema hold in every state that the service leads to, so
that the database has never a statement to refuse on their account. -/
namespace SpotqPayment

open Process Transition Engine ReadCommitted

variable {plans : Table SubscriptionPlan} {world : World} {config : Config} {kind : Call → Prop}

abbrev referenceContract (plans : Table SubscriptionPlan) : Contract paymentStore Reply :=
  rowContract (referenceDiscipline plans) (AnswersRefer plans)

/-- An operation that a program may always await. -/
def Port.Refers (plans : Table SubscriptionPlan) : Port → Prop
  | .repository (.createTransaction data) => ∀ id ∈ data.planId, (plans.get? id).isSome = true
  | .repository (.createInvoice _) => False
  | .repository (.activateSubscriptionWithOutbox params) => (plans.get? params.subscription.planId).isSome = true
  | _ => True

/-- What the program knows of the answers. -/
def Port.Tells (plans : Table SubscriptionPlan) : (port : Port) → Except ServiceError port.Answer → Prop
  | .repository (.findPlanById _), .ok found => ∀ plan ∈ found, (plans.get? plan.id).isSome = true
  | _, _ => True

abbrev Refers (plans : Table SubscriptionPlan) {Value : Type} (program : UseCase Value) : Prop :=
  program.Respects (Port.Refers plans) (Port.Tells plans)

section Contracts

theorem refers_repository {request : RepositoryCall} (h : (Port.repository request).Refers plans) :
    request.Refers plans world := by
  cases request with
  | createTransaction data => exact h
  | createInvoice data => exact absurd h id
  | activateSubscriptionWithOutbox params => exact h
  | _ => trivial

theorem carried_refers {env : Env} {request : RepositoryCall}
    (h : ∀ later, (referenceDiscipline plans).Follows world later → request.Refers plans later) :
    (referenceContract plans).Carried env (.repository request) world :=
  carried_obeying fun later hLater => referring_body (h later hLater)

theorem follows_of_refers {program : UseCase Reply} (h : Refers plans program) :
    (referenceContract plans).Follows program world := by
  induction program generalizing world with
  | ret value => trivial
  | fail error => trivial
  | await port next ih =>
      intro later _ hKept
      refine ⟨fun env => ?_, fun value hValue => ih _ (h.2 (.ok value) ?_), fun error => ih _ (h.2 (.error error) ?_)⟩
      · cases port with
        | repository request => exact carried_refers fun _ _ => refers_repository h.1
        | createOrder amountInPaise currency => exact carried_createOrder hKept amountInPaise currency
        | createRefund paymentId amountInPaise => exact carried_createRefund hKept paymentId amountInPaise
      · cases port with
        | repository request =>
            cases request with
            | findPlanById id => exact hValue
            | _ => trivial
        | createOrder amountInPaise currency => trivial
        | createRefund paymentId amountInPaise => trivial
      · cases port with
        | repository request => cases request <;> trivial
        | createOrder amountInPaise currency => trivial
        | createRefund paymentId amountInPaise => trivial

end Contracts

section Programs

variable {now : Instant} {payload : WebhookPayload}

theorem refers_createOrderPayment (config : Config) (input : CreateOrderPaymentInput) :
    Refers plans (createOrderPayment config input) := by
  have hOpen : Refers plans (openGatewayOrder config input) :=
    Respects.call_bind trivial fun orderId _ => Respects.call_bind nofun fun _ _ => trivial
  refine Respects.call_bind trivial fun found _ => ?_
  cases found with
  | none => exact hOpen
  | some existing =>
      simp only
      split
      · trivial
      · split
        · trivial
        · exact hOpen

theorem refers_verifyOrderPayment (config : Config) (input : VerifyOrderPaymentInput) :
    Refers plans (verifyOrderPayment config input now) := by
  refine Respects.call_bind trivial fun found _ => ?_
  cases found with
  | none => trivial
  | some tx =>
      refine Respects.check_bind fun _ _ => Respects.check_bind fun _ _ => ?_
      split
      · trivial
      · split
        · trivial
        · exact Respects.check_bind fun captured _ => Respects.call_bind trivial fun _ _ => trivial

theorem refers_processOrderRefund (input : ProcessOrderRefundInput) : Refers plans (processOrderRefund input now) := by
  refine Respects.call_bind trivial fun found _ => ?_
  cases found with
  | none => trivial
  | some tx =>
      refine Respects.check_bind fun _ _ => ?_
      unfold requestRefund
      split
      · trivial
      · refine Respects.attempt_bind trivial fun answer _ => ?_
        cases answer with
        | error error => trivial
        | ok refund => exact Respects.check_bind fun refunded _ => Respects.call_bind trivial fun _ _ => trivial

theorem refers_expirePastDue : Refers plans (expirePastDueSubscriptions now) := by
  refine Respects.call_bind trivial fun pastDue _ => ?_
  split
  · trivial
  · exact Respects.call_bind trivial fun _ _ => trivial

theorem refers_verifyPayment (config : Config) (input : VerifyPaymentInput) :
    Refers plans (verifyPayment config input now) := by
  unfold verifyPayment
  split
  · trivial
  · refine Respects.call_bind trivial fun found _ => ?_
    cases found with
    | none => trivial
    | some tx =>
        simp only
        split
        · trivial
        · split
          · refine Respects.call_bind trivial fun existing _ => ?_
            split
            · exact Respects.call_bind trivial fun _ _ => trivial
            · trivial
          · unfold activateVerified
            split
            · trivial
            · refine Respects.call_bind trivial fun found hFound => ?_
              cases found with
              | none => trivial
              | some plan => exact Respects.call_bind (hFound plan rfl) fun _ _ => trivial

theorem refers_handleSuccess : Refers plans (handleSuccess payload now) := by
  unfold handleSuccess
  split
  · trivial
  · refine Respects.call_bind trivial fun found _ => ?_
    cases found with
    | none => trivial
    | some tx =>
        simp only
        split
        · unfold captureFromWebhook
          split
          · trivial
          · exact Respects.check_bind fun captured _ => Respects.call_bind trivial fun _ _ => trivial
        · unfold activateFromWebhook
          split
          · trivial
          · trivial
          · refine Respects.call_bind trivial fun found hFound => ?_
            cases found with
            | none => trivial
            | some plan => exact Respects.call_bind (hFound plan rfl) fun _ _ => trivial

theorem refers_handleFailure : Refers plans (handleFailure payload now) := by
  unfold handleFailure
  split
  · trivial
  · split
    · trivial
    · refine Respects.call_bind trivial fun found _ => ?_
      cases found with
      | none => trivial
      | some tx =>
          simp only
          split
          · trivial
          · unfold failFromWebhook
            split
            · exact Respects.call_bind trivial fun _ _ => trivial
            · exact Respects.call_bind trivial fun _ _ => trivial

theorem refers_handleRefund : Refers plans (handleRefund payload) := by
  unfold handleRefund
  split
  · trivial
  · split
    · trivial
    · exact Respects.call trivial

theorem refers_handleWebhook (config : Config) (input : HandleWebhookInput) :
    Refers plans (handleWebhook config input now) := by
  unfold handleWebhook
  split
  · trivial
  · refine Respects.bind ?_ fun _ => trivial
    unfold dispatchWebhook
    split
    · split
      · exact refers_handleSuccess
      · trivial
    · split
      · exact refers_handleSuccess
      · trivial
    · exact refers_handleFailure
    · exact refers_handleRefund
    · exact refers_handleRefund
    · trivial

/-- A method that may be called, and the rest with what its answer says. -/
theorem referring_method {request : RepositoryCall} {next : request.Answer → UseCase Reply}
    (hRefers : ∀ later, (referenceDiscipline plans).Follows world later → request.Refers plans later)
    (hNext : ∀ later answer, AnswersRefer plans request later answer →
      (referenceContract plans).Follows (next answer) later) :
    (referenceContract plans).Follows (repository request >>= next) world :=
  Contract.Follows.carried_bind
    (fun _ _ hLater _ => carried_refers fun last hLast => hRefers last (hLater.trans hLast))
    fun later answer _ _ hAnswer => hNext later answer hAnswer

/-- The draft invoice refers to the payment that has been stored right before it. -/
theorem referring_openSubscriptionOrder (config : Config) (restaurantId : Uuid) {plan : SubscriptionPlan}
    (invoiceNumber : String) (hPlan : (plans.get? plan.id).isSome = true) :
    (referenceContract plans).Follows
      (.subscriptionOrder <$> openSubscriptionOrder config restaurantId plan invoiceNumber now) world := by
  rw [map_eq, openSubscriptionOrder]
  simp only [bind_assoc]
  refine Contract.Follows.carried_bind (fun _ _ _ hKept => carried_createOrder hKept _ _) fun later orderId _ _ _ => ?_
  refine referring_method (fun _ _ => ?_) fun last txRecord hTx => ?_
  · exact fun id hId => Option.some.inj hId ▸ hPlan
  · refine referring_method (fun final hFinal => ⟨fun id hNone => ?_, fun id hId => ?_⟩) fun _ _ _ => trivial
    · cases hNone
    · cases hId
      exact hTx.later hFinal

theorem referring_createSubscriptionOrder (config : Config) (input : CreateSubscriptionOrderInput) (invoiceNumber : String) :
    (referenceContract plans).Follows
      (.subscriptionOrder <$> createSubscriptionOrder config input invoiceNumber now) world := by
  rw [map_eq, createSubscriptionOrder]
  cases input.restaurantId with
  | none => trivial
  | some restaurantId =>
      simp only [bind_assoc]
      refine referring_method (fun _ _ => trivial) fun later found hFound => ?_
      cases found with
      | none => trivial
      | some plan =>
          simp only
          split
          · trivial
          · simp only [bind_assoc]
            refine referring_method (fun _ _ => trivial) fun later existing _ => ?_
            split
            · trivial
            · simp only [reuseOrOpenOrder, bind_assoc]
              refine referring_method (fun _ _ => trivial) fun later pending _ => ?_
              cases pending with
              | none => exact referring_openSubscriptionOrder config restaurantId invoiceNumber (hFound plan rfl)
              | some pendingTx =>
                  simp only
                  split
                  · exact referring_method (fun _ _ => trivial) fun _ _ _ => trivial
                  · trivial

theorem reference_calls (config : Config) (kind : Call → Prop) :
    CallsFollow config kind (referenceDiscipline plans) (AnswersRefer plans) fun _ => True := by
  intro request _ world
  obtain ⟨⟨call, env⟩, hKind⟩ := request
  cases call with
  | createOrderPayment input => exact follows_of_refers ((refers_createOrderPayment config input).map _)
  | verifyOrderPayment input => exact follows_of_refers ((refers_verifyOrderPayment config input).map _)
  | processOrderRefund input => exact follows_of_refers ((refers_processOrderRefund input).map _)
  | createSubscriptionOrder input => exact referring_createSubscriptionOrder config input env.invoiceNumber
  | verifyPayment input => exact follows_of_refers ((refers_verifyPayment config input).map _)
  | handleWebhook input => exact follows_of_refers ((refers_handleWebhook config input).map _)
  | expirePastDueSubscriptions => exact follows_of_refers (refers_expirePastDue.map _)

theorem reference_relays : AdmitsRelays (referenceDiscipline plans) where
  steady := fun _ _ hPlans => hPlans
  proper := fun _ _ _ _ _ => ⟨fun _ hLock => absurd hLock List.not_mem_nil, nofun⟩
  succeeds := fun _ _ _ => trivial

end Programs

/-- The foreign keys of the schema. -/
structure Database.ForeignKeys (db : Database) : Prop where
  subscriptionPlan : ∀ row ∈ db.subscriptions.rows, (db.plans.get? row.planId).isSome = true
  transactionSubscription : ∀ row ∈ db.transactions.rows, ∀ id ∈ row.subscriptionId,
    (db.subscriptions.get? id).isSome = true
  transactionPlan : ∀ row ∈ db.transactions.rows, ∀ id ∈ row.planId, (db.plans.get? id).isSome = true
  invoiceSubscription : ∀ row ∈ db.invoices.rows, ∀ id ∈ row.subscriptionId, (db.subscriptions.get? id).isSome = true
  invoiceTransaction : ∀ row ∈ db.invoices.rows, ∀ id ∈ row.paymentTransactionId,
    (db.transactions.get? id).isSome = true
  refundTransaction : ∀ row ∈ db.refunds.rows, (db.transactions.get? row.paymentTransactionId).isSome = true

theorem has_subscription {db : Database} {id : Uuid} (h : db.Has (.subscription id)) :
    (db.subscriptions.get? id).isSome = true := by
  rwa [Database.Has, Database.row, Option.isSome_map] at h

theorem has_payment {db : Database} {id : Uuid} (h : db.Has (.transaction id)) :
    (db.transactions.get? id).isSome = true := by
  rwa [Database.Has, Database.row, Option.isSome_map] at h

/-- The rules say what the foreign keys say. -/
theorem foreignKeys_of_kept (hKept : (referenceDiscipline plans).Kept world) : world.db.ForeignKeys := by
  have hPlans : world.db.plans = plans := hKept.steady
  constructor
  · intro row hRow
    rw [hPlans]
    exact (kept_refers hKept (Database.row_subscription hRow)).plan _ rfl
  · intro row hRow id hId
    exact has_subscription ((kept_refers hKept (Database.row_transaction hRow)).rows _
      (List.mem_map_of_mem (Option.mem_toList.mpr hId)))
  · intro row hRow id hId
    rw [hPlans]
    exact (kept_refers hKept (Database.row_transaction hRow)).plan id hId
  · intro row hRow id hId
    exact has_subscription ((kept_refers hKept (Database.row_invoice hRow)).rows _
      (List.mem_append_left _ (List.mem_map_of_mem (Option.mem_toList.mpr hId))))
  · intro row hRow id hId
    exact has_payment ((kept_refers hKept (Database.row_invoice hRow)).rows _
      (List.mem_append_right _ (List.mem_map_of_mem (Option.mem_toList.mpr hId))))
  · intro row hRow
    exact has_payment ((kept_refers hKept (Database.row_refund hRow)).rows _ List.mem_cons_self)

/-- In every run of all calls and any number of relays, with failures and crashes at
every await, each reference of a stored row leads to a stored row, although no
statement is checked for it. -/
theorem foreign_keys_hold (config : Config) (kind : Call → Prop) (plans : Table SubscriptionPlan)
    (moves : List (DeploymentMove kind)) :
    (run (Deployment.next config) (World.initial plans).deployed moves).sessions.shared.db.ForeignKeys := by
  obtain ⟨hHolds, _⟩ := deployment_run_disciplined (reference_calls config kind) reference_relays
    (initial_disciplined plans rfl) moves fun move _ => starts_any (fun _ => trivial) move
  exact foreignKeys_of_kept hHolds.shared

end SpotqPayment
