import SpotqPayment.System.CallEffects
import SpotqPayment.System.NamedPayments

/-! A payment and its refunds are changed only by requests that name it: with the order,
the gateway ids and the owner that they carry. -/
namespace SpotqPayment

open Process Transition Engine ReadCommitted

variable {db : Database} {tx : PaymentTransaction} {world : World} {config : Config}

abbrev sparingContract (db : Database) (tx : PaymentTransaction) : Contract paymentStore Reply :=
  rowContract (sparingDiscipline db tx) fun request _ value => AnswersApart tx request value

/-- An operation that a program may always await. -/
def Port.Spares (db : Database) (tx : PaymentTransaction) : Port → Prop
  | .repository request => request.Spares db tx
  | _ => True

/-- What the program knows of the answers. -/
def Port.TellsApart (tx : PaymentTransaction) : (port : Port) → Except ServiceError port.Answer → Prop
  | .repository request, .ok value => AnswersApart tx request value
  | _, _ => True

abbrev Spares (db : Database) (tx : PaymentTransaction) {Value : Type} (program : UseCase Value) : Prop :=
  program.Respects (Port.Spares db tx) (Port.TellsApart tx)

theorem follows_of_spares {program : UseCase Reply} (h : Spares db tx program) :
    (sparingContract db tx).Follows program world := by
  induction program generalizing world with
  | ret value => trivial
  | fail error => trivial
  | await port next ih =>
      intro later _ hKept
      refine ⟨fun env => ?_, fun value hValue => ih _ (h.2 (.ok value) ?_), fun error => ih _ (h.2 (.error error) ?_)⟩
      · cases port with
        | repository request => exact carried_obeying fun _ _ => sparing_body h.1
        | createOrder amountInPaise currency => exact carried_createOrder hKept amountInPaise currency
        | createRefund paymentId amountInPaise => exact carried_createRefund hKept paymentId amountInPaise
      · cases port with
        | repository request => exact hValue
        | createOrder amountInPaise currency => trivial
        | createRefund paymentId amountInPaise => trivial
      · cases port <;> trivial

section Programs

variable {now : Instant}

theorem markRefunded_id {row refunded : PaymentTransaction} (h : row.markRefunded now = .ok refunded) :
    refunded.id = row.id := by
  unfold PaymentTransaction.markRefunded at h
  split at h
  · cases h
  · cases h
    rfl

theorem spares_createOrderPayment (input : CreateOrderPaymentInput) : Spares db tx (createOrderPayment config input) := by
  have hOpen : Spares db tx (openGatewayOrder config input) :=
    Respects.call_bind trivial fun _ _ => Respects.call_bind trivial fun _ _ => trivial
  refine Respects.call_bind trivial fun found _ => ?_
  cases found with
  | none => exact hOpen
  | some existing =>
      simp only
      split
      · trivial
      · split
        · trivial
        · exact hOpen

theorem spares_verifyOrderPayment {input : VerifyOrderPaymentInput}
    (h : ¬ (Call.verifyOrderPayment input).Names db tx) : Spares db tx (verifyOrderPayment config input now) := by
  refine Respects.call_bind trivial fun found hFound => ?_
  cases found with
  | none => trivial
  | some row =>
      obtain ⟨hOrder, hSame, _⟩ := hFound row rfl
      refine Respects.check_bind fun _ hBelongs => Respects.check_bind fun _ hOwns => ?_
      have hId : row.id ≠ tx.id := by
        intro hId
        obtain rfl := hSame hId
        exact h ⟨hOrder.symm, assertBelongsToOrder_iff.mp hBelongs, assertOwnership_iff.mp hOwns⟩
      split
      · trivial
      · next hOpen =>
          split
          · trivial
          · refine Respects.check_bind fun captured hCaptured => Respects.call_bind ?_ fun _ _ => trivial
            show captured.id ≠ tx.id
            rw [capture_eq hOpen hCaptured]
            exact hId

theorem spares_processOrderRefund {input : ProcessOrderRefundInput}
    (h : ¬ (Call.processOrderRefund input).Names db tx) : Spares db tx (processOrderRefund input now) := by
  refine Respects.call_bind trivial fun found hFound => ?_
  cases found with
  | none => trivial
  | some row =>
      obtain ⟨hOrder, hSame⟩ := hFound row rfl
      have hId : row.id ≠ tx.id := by
        intro hId
        obtain rfl := hSame hId
        exact h hOrder
      refine Respects.check_bind fun _ _ => ?_
      unfold requestRefund
      split
      · trivial
      · refine Respects.attempt_bind trivial fun answer _ => ?_
        cases answer with
        | error error => trivial
        | ok refund =>
            refine Respects.check_bind fun refunded hRefunded => Respects.call_bind ?_ fun _ _ => trivial
            show refunded.id ≠ tx.id
            rw [markRefunded_id hRefunded]
            exact hId

theorem spares_openSubscriptionOrder (restaurantId : Uuid) (plan : SubscriptionPlan) (invoiceNumber : String) :
    Spares db tx (openSubscriptionOrder config restaurantId plan invoiceNumber now) :=
  Respects.call_bind trivial fun _ _ => Respects.call_bind trivial fun _ _ =>
    Respects.call_bind trivial fun _ _ => trivial

theorem spares_createSubscriptionOrder {input : CreateSubscriptionOrderInput} (invoiceNumber : String)
    (h : ¬ (Call.createSubscriptionOrder input).Names db tx) :
    Spares db tx (createSubscriptionOrder config input invoiceNumber now) := by
  unfold createSubscriptionOrder
  split
  · trivial
  · next restaurantId hRestaurant =>
      refine Respects.call_bind trivial fun found hFound => ?_
      cases found with
      | none => trivial
      | some plan =>
          simp only
          split
          · trivial
          · refine Respects.call_bind trivial fun existing _ => ?_
            split
            · trivial
            · refine Respects.call_bind trivial fun pending hPending => ?_
              cases pending with
              | none => exact spares_openSubscriptionOrder restaurantId plan invoiceNumber
              | some pendingTx =>
                  obtain ⟨hRestaurantId, hPlanId, hSame⟩ := hPending pendingTx rfl
                  simp only
                  split
                  · refine Respects.call_bind (fun hOrder => ?_) fun _ _ => trivial
                    obtain rfl := hSame hOrder
                    exact h ⟨hRestaurant.trans (congrArg some hRestaurantId.symm), hFound plan rfl ▸ hPlanId⟩
                  · trivial

theorem spares_verifyPayment {input : VerifyPaymentInput} (h : ¬ (Call.verifyPayment input).Names db tx) :
    Spares db tx (verifyPayment config input now) := by
  unfold verifyPayment
  split
  · trivial
  · refine Respects.call_bind trivial fun found hFound => ?_
    cases found with
    | none => trivial
    | some row =>
        obtain ⟨hOrder, _, hSame⟩ := hFound row rfl
        simp only
        split
        · trivial
        · next hRestaurant =>
            split
            · refine Respects.call_bind trivial fun existing _ => ?_
              split
              · exact Respects.call_bind trivial fun _ _ => trivial
              · trivial
            · unfold activateVerified
              split
              · trivial
              · next planId hPlan =>
                  refine Respects.call_bind trivial fun found _ => ?_
                  cases found with
                  | none => trivial
                  | some plan =>
                      refine Respects.call_bind (fun hTx => ?_) fun _ _ => trivial
                      obtain rfl := hSame hTx
                      refine h ⟨hOrder.symm, Option.isSome_iff_exists.mpr ⟨planId, hPlan⟩, fun restaurantId hInput => ?_⟩
                      rw [hInput] at hRestaurant
                      simpa using hRestaurant

theorem spares_expirePastDue : Spares db tx (expirePastDueSubscriptions now) := by
  refine Respects.call_bind trivial fun pastDue _ => ?_
  split
  · trivial
  · exact Respects.call_bind trivial fun _ _ => trivial

section Webhook

variable {payload : WebhookPayload}

theorem spares_handleSuccess (hOrder : payload.successOrderId ≠ some tx.razorpayOrderId) :
    Spares db tx (handleSuccess payload now) := by
  unfold handleSuccess
  split
  · trivial
  · next orderId hSuccess =>
      refine Respects.call_bind trivial fun found hFound => ?_
      cases found with
      | none => trivial
      | some row =>
          obtain ⟨hRow, hSame, _⟩ := hFound row rfl
          have hOther : row.razorpayOrderId ≠ tx.razorpayOrderId := by
            rw [hRow]
            exact fun hTx => hOrder (hSuccess.trans (congrArg some hTx))
          simp only
          split
          · unfold captureFromWebhook
            split
            · trivial
            · next hOpen =>
                refine Respects.check_bind fun captured hCaptured => Respects.call_bind ?_ fun _ _ => trivial
                intro hId
                rw [capture_eq hOpen hCaptured] at hId
                exact hOther (congrArg PaymentTransaction.razorpayOrderId (hSame hId))
          · unfold activateFromWebhook
            split
            · trivial
            · trivial
            · refine Respects.call_bind trivial fun found _ => ?_
              cases found with
              | none => trivial
              | some plan => exact Respects.call_bind hOther fun _ _ => trivial

theorem spares_handleFailure
    (hOrder : truthy (payload.payment.bind (·.orderId)) ≠ some tx.razorpayOrderId) :
    Spares db tx (handleFailure payload now) := by
  unfold handleFailure
  split
  · trivial
  · next entity hPayment =>
      split
      · trivial
      · next orderId hEntity =>
          have hOther : orderId ≠ tx.razorpayOrderId := by
            rintro rfl
            rw [hPayment] at hOrder
            exact hOrder hEntity
          refine Respects.call_bind trivial fun found hFound => ?_
          cases found with
          | none => trivial
          | some row =>
              obtain ⟨hRow, hSame, _⟩ := hFound row rfl
              simp only
              split
              · trivial
              · unfold failFromWebhook
                split
                · refine Respects.call_bind ?_ fun _ _ => trivial
                  intro hId
                  rw [markFailed_id] at hId
                  exact hOther (hRow.symm.trans (congrArg PaymentTransaction.razorpayOrderId (hSame hId)))
                · exact Respects.call_bind hOther fun _ _ => trivial

theorem spares_handleRefund (h : ∀ refund ∈ payload.refund, ∀ refundId, truthy refund.id = some refundId →
      (RepositoryCall.syncRefundFromWebhook (payload.syncParams refund refundId)).Spares db tx) :
    Spares db tx (handleRefund payload) := by
  unfold handleRefund
  split
  · trivial
  · next refund hRefund =>
      split
      · trivial
      · next refundId hId => exact Respects.call (h refund hRefund refundId hId)

theorem refundSpares_of_unnamed (hKind : payload.event = .refundProcessed ∨ payload.event = .refundFailed)
    (h : ¬ payload.Names db tx) {refund : WebhookRefundEntity} (hRefund : refund ∈ payload.refund)
    {refundId : String} (hId : truthy refund.id = some refundId) :
    (RepositoryCall.syncRefundFromWebhook (payload.syncParams refund refundId)).Spares db tx := by
  have hNames : payload.Names db tx ↔ ∃ refund ∈ payload.refund,
      (∃ row ∈ db.refunds.rows, row.paymentTransactionId = tx.id ∧ refund.id = some row.razorpayRefundId) ∨
        ∃ paymentId, truthy (orElse refund.paymentId payload.paymentId) = some paymentId ∧
          tx.razorpayPaymentId = some paymentId := by
    unfold WebhookPayload.Names
    rcases hKind with hKind | hKind <;> rw [hKind]
  rw [hNames] at h
  refine ⟨fun row hRow hTx hSame => h ⟨refund, hRefund, Or.inl ⟨row, hRow, hTx, ?_⟩⟩, ?_⟩
  · exact (truthy_eq_some hId).1.trans (congrArg some hSame.symm)
  · intro paymentId hPayment hPaid
    refine h ⟨refund, hRefund, Or.inr ⟨paymentId, ?_, hPaid⟩⟩
    exact (truthy_eq_some hPayment).1

/-- Each event reaches only what its branch names. -/
theorem spares_dispatchWebhook (h : ¬ payload.Names db tx) : Spares db tx (dispatchWebhook payload now) := by
  unfold dispatchWebhook
  split
  · next hEvent =>
      have hOrder : payload.successOrderId ≠ some tx.razorpayOrderId := by
        simpa only [WebhookPayload.Names, WebhookPayload.reportedOrder, hEvent] using h
      split
      · exact spares_handleSuccess hOrder
      · trivial
  · next hEvent =>
      have hOrder : payload.successOrderId ≠ some tx.razorpayOrderId := by
        simpa only [WebhookPayload.Names, WebhookPayload.reportedOrder, hEvent] using h
      split
      · exact spares_handleSuccess hOrder
      · trivial
  · next hEvent =>
      refine spares_handleFailure ?_
      simpa only [WebhookPayload.Names, WebhookPayload.reportedOrder, hEvent] using h
  · next hEvent =>
      exact spares_handleRefund fun refund hRefund refundId => refundSpares_of_unnamed (Or.inl hEvent) h hRefund
  · next hEvent =>
      exact spares_handleRefund fun refund hRefund refundId => refundSpares_of_unnamed (Or.inr hEvent) h hRefund
  · trivial

theorem spares_handleWebhook {input : HandleWebhookInput} (h : ¬ (Call.handleWebhook input).Names db tx) :
    Spares db tx (handleWebhook config input now) := by
  unfold handleWebhook
  split
  · trivial
  · exact (spares_dispatchWebhook h).bind fun _ => trivial

end Webhook

theorem sparing_calls (config : Config) (kind : Call → Prop) (db : Database) (tx : PaymentTransaction)
    (hKind : ∀ call, kind call → ¬ call.Names db tx) :
    CallsFollow config kind (sparingDiscipline db tx) (fun request _ value => AnswersApart tx request value)
      fun _ => True := by
  intro request _ world
  obtain ⟨⟨call, env⟩, hCall⟩ := request
  have hNames := hKind call hCall
  cases call with
  | createOrderPayment input => exact follows_of_spares ((spares_createOrderPayment input).map _)
  | verifyOrderPayment input => exact follows_of_spares ((spares_verifyOrderPayment hNames).map _)
  | processOrderRefund input => exact follows_of_spares ((spares_processOrderRefund hNames).map _)
  | createSubscriptionOrder input =>
      exact follows_of_spares ((spares_createSubscriptionOrder env.invoiceNumber hNames).map _)
  | verifyPayment input => exact follows_of_spares ((spares_verifyPayment hNames).map _)
  | handleWebhook input => exact follows_of_spares ((spares_handleWebhook hNames).map _)
  | expirePastDueSubscriptions => exact follows_of_spares (spares_expirePastDue.map _)

theorem sparing_relays : AdmitsRelays (sparingDiscipline db tx) where
  steady := fun _ _ hStored => hStored
  proper := fun _ _ _ _ _ => trivial
  succeeds := fun _ _ hRecord => congrArg Write.outbox hRecord

end Programs

section Runs

variable {kind : Call → Prop}

theorem Database.mem_of_row_transaction {lock : RowLock} {row : PaymentTransaction}
    (h : db.row lock = some (.transaction row)) : row ∈ db.transactions.rows := by
  cases lock <;> obtain ⟨stored, hGet, hSame⟩ := Option.map_eq_some_iff.mp h <;> cases hSame
  exact (Table.get?_eq_some.mp hGet).1

theorem Database.mem_of_row_refund {lock : RowLock} {row : PaymentRefund}
    (h : db.row lock = some (.refund row)) : row ∈ db.refunds.rows := by
  cases lock <;> obtain ⟨stored, hGet, hSame⟩ := Option.map_eq_some_iff.mp h <;> cases hSame
  exact (Table.get?_eq_some.mp hGet).1

/-- In the beginning the payment and its refunds are what they are. -/
theorem sparing_start (hTx : tx ∈ world.db.transactions.rows) : (sparingDiscipline world.db tx).Kept world where
  steady := Option.isSome_iff_exists.mpr ⟨tx, Table.get?_key hTx⟩
  proper := by
    intro lock version hVersion
    cases version with
    | transaction row => exact fun hId => Table.eq_of_key (Database.mem_of_row_transaction hVersion) hTx hId
    | refund row => exact fun _ => Database.mem_of_row_refund hVersion
    | _ => trivial

/-- Versions of a refund are about one payment, so that no refund of this one is lost or new. -/
theorem refunds_spared {after : World} (hKept : (sparingDiscipline world.db tx).Kept after)
    (hFollows : (sparingDiscipline world.db tx).Follows world after) {refund : PaymentRefund}
    (hTx : refund.paymentTransactionId = tx.id) :
    refund ∈ after.db.refunds.rows ↔ refund ∈ world.db.refunds.rows := by
  refine ⟨fun hMem => refund_of_kept hKept hMem hTx, fun hMem => ?_⟩
  obtain ⟨version, hVersion, hRecord⟩ := hFollows (.refund refund.id) (.refund refund) (Database.row_refund hMem)
  have hRecord : version.recorded = (Write.refund refund).recorded := hRecord
  cases version with
  | refund row =>
      have hSame : row.recorded = refund.recorded := Write.refund.inj hRecord
      have hRowTx : row.recorded.paymentTransactionId = tx.id :=
        (congrArg PaymentRefund.paymentTransactionId hSame).trans hTx
      have hRow := @Database.mem_of_row_refund after.db (.refund refund.id) row hVersion
      have hId : row.recorded.id = refund.recorded.id := congrArg PaymentRefund.id hSame
      rwa [← Table.eq_of_key (refund_of_kept hKept hRow hRowTx) hMem hId]
  | _ => cases hRecord

theorem sparing_run (config : Config) (world : World) (hTx : tx ∈ world.db.transactions.rows)
    (hCalls : CallsFollow config kind (sparingDiscipline world.db tx)
      (fun request _ value => AnswersApart tx request value) fun _ => True) (moves : List (DeploymentMove kind)) :
    let after := (run (Deployment.next config) world.deployed moves).sessions.shared
    (sparingDiscipline world.db tx).Kept after ∧ (sparingDiscipline world.db tx).Follows world after := by
  have hStart : (sparingContract world.db tx).Holds world.deployed.sessions := Pool.Invariant.empty (sparing_start hTx)
  obtain ⟨hHolds, hFollows⟩ := deployment_run_disciplined hCalls sparing_relays hStart moves
    fun move _ => starts_any (fun _ => trivial) move
  exact ⟨hHolds.shared, hFollows⟩

/-- In every run of calls none of which names the payment, with any number of relays,
failures and crashes at every await, the payment stays as it is and so do its refunds. -/
theorem unnamed_payment_untouched (config : Config) (world : World) (tx : PaymentTransaction)
    (hTx : tx ∈ world.db.transactions.rows) (moves : List (DeploymentMove fun call => ¬ call.Names world.db tx)) :
    let after := (run (Deployment.next config) world.deployed moves).sessions.shared.db
    tx ∈ after.transactions.rows ∧
      ∀ refund, refund.paymentTransactionId = tx.id → (refund ∈ after.refunds.rows ↔ refund ∈ world.db.refunds.rows) := by
  have hCalls := sparing_calls config (fun call => ¬ call.Names world.db tx) world.db tx fun _ => id
  obtain ⟨hKept, hFollows⟩ := sparing_run config world hTx hCalls moves
  exact ⟨stored_of_kept hKept, fun refund => refunds_spared hKept hFollows⟩

end Runs

namespace Sample

theorem foodPayment_isSome : (openFoodOrder.db.transactions.get? 0).isSome = true := by decide +kernel

def foodPayment : PaymentTransaction := (openFoodOrder.db.transactions.get? 0).get foodPayment_isSome

/-- Another customer has come by the order and a signed payment for it. -/
def foreignVerification : Request where
  call := .verifyOrderPayment {
    orderId := 7
    razorpayOrderId := "order_1"
    razorpayPaymentId := "pay_1"
    razorpaySignature := signature "order_1" "pay_1"
    customerId := some 12 }
  env := env 2000

theorem foodPayment_owner : foodPayment.customerId = some 11 := by decide +kernel

theorem foreignVerification_unnamed : ¬ foreignVerification.call.Names openFoodOrder.db foodPayment := by
  intro hNames
  have hOwner : foodPayment.customerId = none ∨ foodPayment.customerId = some 12 := hNames.2.2
  rw [foodPayment_owner] at hOwner
  cases hOwner <;> contradiction

/-- The call runs to its end. -/
def foreignMoves : List (DeploymentMove fun call => ¬ call.Names openFoodOrder.db foodPayment) :=
  .service (.start ⟨foreignVerification, foreignVerification_unnamed⟩) ::
    List.replicate 4 (.service (.advance 0 (.proceed (env 2000))))

end Sample

theorem unnamed_payment_untouched_foreign :
    let after := (run (Deployment.next Sample.config) Sample.openFoodOrder.deployed Sample.foreignMoves).sessions.shared.db
    Sample.foodPayment ∈ after.transactions.rows ∧ ∀ refund, refund.paymentTransactionId = Sample.foodPayment.id →
      (refund ∈ after.refunds.rows ↔ refund ∈ Sample.openFoodOrder.db.refunds.rows) :=
  unnamed_payment_untouched Sample.config Sample.openFoodOrder Sample.foodPayment
    (Table.get?_eq_some.mp (Option.some_get Sample.foodPayment_isSome).symm).1 Sample.foreignMoves

end SpotqPayment
