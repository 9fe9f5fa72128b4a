import SpotqPayment.System.Changes

/-! What the webhooks of one gateway order come to, for every order in which they
are delivered. A subscription order that is paid ends paid. A food order takes
the outcome of the first webhook that is not refused: after a failure `capture`
refuses it for good. -/
namespace SpotqPayment

open Transition PaymentTransactionRepository SubscriptionRepository

/-- One delivery of a webhook. -/
structure Delivery where
  input : HandleWebhookInput
  env : Env

def Delivery.request (delivery : Delivery) : Request where
  call := .handleWebhook delivery.input
  env := delivery.env

/-- A signed success event of a gateway order. -/
structure Delivery.Succeeded (config : Config) (orderId : String) (delivery : Delivery) : Prop where
  signed : webhookAccepted config delivery.input = true
  success : delivery.input.parsedPayload.event.isSuccess = true
  order : delivery.input.parsedPayload.successOrderId = some orderId

/-- One that carries a payment id. -/
structure Delivery.Paid (config : Config) (orderId : String) (delivery : Delivery) : Prop
    extends delivery.Succeeded config orderId where
  payment : ∃ paymentId, truthy delivery.input.parsedPayload.paymentId = some paymentId

/-- A signed `payment.failed` event of a gateway order. -/
structure Delivery.Failed (config : Config) (orderId : String) (delivery : Delivery) : Prop where
  signed : webhookAccepted config delivery.input = true
  failure : delivery.input.parsedPayload.event = .paymentFailed
  attempt : ∃ entity, delivery.input.parsedPayload.payment = some entity ∧
    truthy entity.orderId = some orderId

/-- The payment id that the event carries, if it carries one, is stored with another transaction. -/
def Delivery.Clashes (db : Database) (tx : PaymentTransaction) (delivery : Delivery) : Prop :=
  ∃ other ∈ db.transactions.rows, other.id ≠ tx.id ∧ delivery.input.parsedPayload.paymentId ≠ none ∧
    other.razorpayPaymentId = delivery.input.parsedPayload.paymentId

instance (db : Database) (tx : PaymentTransaction) (delivery : Delivery) : Decidable (delivery.Clashes db tx) :=
  inferInstanceAs (Decidable (∃ other ∈ db.transactions.rows, other.id ≠ tx.id ∧
    delivery.input.parsedPayload.paymentId ≠ none ∧
      other.razorpayPaymentId = delivery.input.parsedPayload.paymentId))

/-- The webhooks of a transaction that is stored as CREATED. At least one success event
carries a payment id, which no other transaction carries, and gives a subscription order
a number for its invoice. -/
structure WebhooksOf (config : Config) (db : Database) (tx : PaymentTransaction)
    (deliveries : List Delivery) : Prop where
  stored : tx ∈ db.transactions.rows
  created : tx.status = .created
  plan : tx.orderId = none → ∃ planId plan, tx.planId = some planId ∧ db.plans.get? planId = some plan
  events : ∀ delivery ∈ deliveries,
    delivery.Succeeded config tx.razorpayOrderId ∨ delivery.Failed config tx.razorpayOrderId
  paid : ∃ delivery ∈ deliveries, delivery.Paid config tx.razorpayOrderId ∧ ¬ delivery.Clashes db tx ∧
    (tx.orderId = none → db.InvoiceReady delivery.env tx)

/-- The subscription order is paid and linked to a stored subscription. -/
def Database.Subscribed (db : Database) (tx : PaymentTransaction) : Prop :=
  tx.status = .success ∧ ∃ subscription ∈ db.subscriptions.rows, tx.subscriptionId = some subscription.id

/-- What a webhook reports. -/
def Delivery.outcome (delivery : Delivery) : PaymentStatus :=
  if delivery.input.parsedPayload.event.isSuccess then .captured else .failed

/-- A success event whose payment id is stored with another transaction is refused. -/
def Delivery.isRefused (db : Database) (tx : PaymentTransaction) (delivery : Delivery) : Bool :=
  delivery.input.parsedPayload.event.isSuccess && decide (delivery.Clashes db tx)

/-- The outcome that the first of the webhooks reports, apart from the refused ones. -/
def firstOutcome (db : Database) (tx : PaymentTransaction) (deliveries : List Delivery) : Option PaymentStatus :=
  (deliveries.find? fun delivery => !delivery.isRefused db tx).map Delivery.outcome

variable {config : Config} {db : Database} {env : Env} {world : World} {tx row : PaymentTransaction}
variable {delivery : Delivery} {deliveries : List Delivery}

theorem Delivery.Succeeded.reports (h : delivery.Succeeded config row.razorpayOrderId)
    (hRow : row ∈ db.transactions.rows) : delivery.input.ReportsSuccess config db row :=
  ⟨h.signed, h.success, _, h.order, Database.findTransaction_of_mem hRow⟩

theorem Delivery.Failed.reports (h : delivery.Failed config row.razorpayOrderId)
    (hRow : row ∈ db.transactions.rows) : ∃ entity, delivery.input.ReportsFailure config db entity row := by
  obtain ⟨entity, hPayment, hOrder⟩ := h.attempt
  exact ⟨entity, h.signed, h.failure, hPayment, _, hOrder, Database.findTransaction_of_mem hRow⟩

/-- The payment id of a capture is free unless the event clashes. -/
theorem paymentIdFree_captured (hRow : row ∈ db.transactions.rows) :
    db.PaymentIdFree row ((delivery.input.parsedPayload.captureParams row).paymentId.or row.razorpayPaymentId) ↔
      ¬ delivery.Clashes db row := by
  have hParams : (delivery.input.parsedPayload.captureParams row).paymentId =
      delivery.input.parsedPayload.capturedPaymentId row := rfl
  rw [hParams, WebhookPayload.capturedPaymentId]
  cases hPayment : delivery.input.parsedPayload.paymentId with
  | none =>
      have hOwn : (none : Option String).or row.razorpayPaymentId = row.razorpayPaymentId := Option.none_or
      have hSelf : row.razorpayPaymentId.or row.razorpayPaymentId = row.razorpayPaymentId := Option.or_self
      rw [hOwn, hSelf]
      refine iff_of_true (Database.paymentIdFree_self hRow) ?_
      rintro ⟨other, _, _, hSome, _⟩
      exact hSome hPayment
  | some paymentId =>
      unfold Delivery.Clashes Database.PaymentIdFree
      rw [hPayment]
      push Not
      constructor
      · intro hFree other hOther hApart _ hSame
        exact hApart (hFree other hOther hSame nofun)
      · intro hFree other hOther hSame _
        by_contra hApart
        exact hFree other hOther hApart nofun hSame

theorem Delivery.Paid.activationPaymentId (h : delivery.Paid config row.razorpayOrderId) :
    some (SpotqPayment.activationPaymentId delivery.input.parsedPayload row) =
      delivery.input.parsedPayload.paymentId := by
  obtain ⟨paymentId, hPayment⟩ := h.payment
  unfold SpotqPayment.activationPaymentId orElse
  rw [hPayment, (truthy_eq_some hPayment).1]
  rfl

section Food

/-- A food order with an outcome is left alone by all webhooks. -/
theorem serve_settled {foodOrderId : Uuid} (hRow : row ∈ world.db.transactions.rows)
    (hFood : row.orderId = some foodOrderId) (hClosed : row.status = .captured ∨ row.status = .failed)
    (hEvent : delivery.Succeeded config row.razorpayOrderId ∨ delivery.Failed config row.razorpayOrderId) :
    serve config world delivery.request = world := by
  rcases hEvent with hSucceeded | hFailed
  · have hShut : ¬ row.Capturable := by
      intro hOpen
      rcases hClosed with hStatus | hStatus
      · exact hOpen.1 hStatus
      · exact hOpen.2 hStatus
    exact serve_captured_idle (hSucceeded.reports hRow) hFood hShut
  · obtain ⟨entity, hReported⟩ := hFailed.reports hRow
    refine serve_failed_idle hReported hFood ?_
    rcases hClosed with hStatus | hStatus
    · exact Or.inl hStatus
    · exact Or.inr (Or.inr hStatus)

theorem run_settled {foodOrderId : Uuid} (hRow : row ∈ world.db.transactions.rows)
    (hFood : row.orderId = some foodOrderId) (hClosed : row.status = .captured ∨ row.status = .failed)
    (hEvents : ∀ delivery ∈ deliveries,
      delivery.Succeeded config row.razorpayOrderId ∨ delivery.Failed config row.razorpayOrderId) :
    run (serve config) world (deliveries.map Delivery.request) = world :=
  run_of_idle (List.forall_mem_map.mpr fun delivery hDelivery =>
    serve_settled hRow hFood hClosed (hEvents delivery hDelivery))

section First

variable {foodOrderId : Uuid} (hTx : tx ∈ world.db.transactions.rows) (hFood : tx.orderId = some foodOrderId)
  (hCreated : tx.status = .created)

include hTx hFood hCreated

/-- A success event whose payment id is stored elsewhere is refused. -/
theorem serve_clashing (hEvent : delivery.Succeeded config tx.razorpayOrderId)
    (hClashes : delivery.Clashes world.db tx) : serve config world delivery.request = world := by
  have hOpen : tx.Capturable := by simp [PaymentTransaction.Capturable, hCreated]
  have hCaptures : Captures config world.db delivery.env.now (.handleWebhook delivery.input) tx _ _ :=
    .webhook (hEvent.reports hTx) hFood
  have hRefused : world.db.writeAll (captureWrites world.db delivery.env tx
      (delivery.input.parsedPayload.captureParams tx)
        (delivery.input.parsedPayload.capturedEvent tx foodOrderId delivery.env.now)) = none := by
    by_contra hSome
    have hFree := (captureWrites_accepted hTx _ _).mp (Option.ne_none_iff_exists'.mp hSome)
    exact (paymentIdFree_captured hTx).mp hFree hClashes
  rw [Delivery.request, serve_of_captures hCaptures hOpen, World.store, Database.store_of_refused hRefused]

/-- Every other webhook decides. -/
theorem serve_deciding
    (hEvent : delivery.Succeeded config tx.razorpayOrderId ∨ delivery.Failed config tx.razorpayOrderId)
    (hTakes : delivery.input.parsedPayload.event.isSuccess = true → ¬ delivery.Clashes world.db tx) :
    ∃ row, (serve config world delivery.request).db.transactions.get? tx.id = some row ∧
      row.SamePayment tx ∧ row.status = delivery.outcome := by
  rcases hEvent with hSucceeded | hFailed
  · have hOpen : tx.Capturable := by simp [PaymentTransaction.Capturable, hCreated]
    have hFree := (paymentIdFree_captured hTx).mpr (hTakes hSucceeded.success)
    have hChange : Change config world.db delivery.env (.handleWebhook delivery.input) tx _ :=
      .captured (.webhook (hSucceeded.reports hTx) hFood) hOpen hFree
    have hGet := serve_of_change hTx hChange tx.id
    rw [if_pos rfl] at hGet
    refine ⟨_, hGet, hChange.samePayment, ?_⟩
    simp [Delivery.outcome, hSucceeded.success, capturedRow, PaymentTransaction.captureFields]
  · obtain ⟨entity, hReported⟩ := hFailed.reports hTx
    have hChange : Change config world.db delivery.env (.handleWebhook delivery.input) tx _ :=
      .failed hReported hFood (by simp [hCreated])
    have hGet := serve_of_change hTx hChange tx.id
    rw [if_pos rfl] at hGet
    refine ⟨_, hGet, hChange.samePayment, ?_⟩
    simp [Delivery.outcome, hFailed.failure, WebhookEvent.isSuccess, failedRow, PaymentTransaction.markFailed, hCreated]

/-- A food order takes the outcome of the first webhook that is not refused. -/
theorem run_food
    (hEvents : ∀ delivery ∈ deliveries,
      delivery.Succeeded config tx.razorpayOrderId ∨ delivery.Failed config tx.razorpayOrderId)
    {status : PaymentStatus} (hFirst : firstOutcome world.db tx deliveries = some status) :
    ∃ row, (run (serve config) world (deliveries.map Delivery.request)).db.transactions.get? tx.id = some row ∧
      row.status = status := by
  induction deliveries with
  | nil => cases hFirst
  | cons first rest ih =>
      have hRest := fun delivery hDelivery => hEvents delivery (List.mem_cons_of_mem first hDelivery)
      have hEvent := hEvents first List.mem_cons_self
      rw [List.map_cons, run_cons]
      unfold firstOutcome at hFirst
      cases hRefused : first.isRefused world.db tx with
      | true =>
          rw [List.find?_cons, hRefused] at hFirst
          rw [Delivery.isRefused, Bool.and_eq_true, decide_eq_true_eq] at hRefused
          have hSucceeded : first.Succeeded config tx.razorpayOrderId := by
            refine hEvent.resolve_right fun hFailed => ?_
            rw [hFailed.failure] at hRefused
            cases hRefused.1
          rw [serve_clashing hTx hFood hCreated hSucceeded hRefused.2]
          exact ih hRest hFirst
      | false =>
          rw [List.find?_cons, hRefused] at hFirst
          rw [Delivery.isRefused, Bool.and_eq_false_iff, decide_eq_false_iff_not] at hRefused
          obtain ⟨row, hGet, hSame, hStatus⟩ := serve_deciding hTx hFood hCreated hEvent fun hSuccess hClashes =>
            hRefused.elim (fun h => by cases hSuccess.symm.trans h) fun h => h hClashes
          have hClosed : row.status = .captured ∨ row.status = .failed := by
            rw [hStatus]
            unfold Delivery.outcome
            split
            · exact Or.inl rfl
            · exact Or.inr rfl
          have hIdle : run (serve config) (serve config world first.request) (rest.map Delivery.request) =
              serve config world first.request := by
            refine run_settled (Table.get?_eq_some.mp hGet).1 (hSame.orderId.trans hFood) hClosed ?_
            rw [hSame.razorpayOrderId]
            exact hRest
          rw [hIdle]
          exact ⟨row, hGet, hStatus.trans (Option.some.inj hFirst)⟩

end First

/-- A success event that does not clash is not refused. -/
theorem firstOutcome_isSome (hDelivery : delivery ∈ deliveries) (hTakes : ¬ delivery.Clashes db tx) :
    ∃ status, firstOutcome db tx deliveries = some status := by
  refine Option.isSome_iff_exists.mp ?_
  rw [firstOutcome, Option.isSome_map, List.find?_isSome]
  exact ⟨delivery, hDelivery, by simp [Delivery.isRefused, hTakes]⟩

end Food

section Subscription

/-- A subscription order that is not paid yet, with the webhooks still to come. -/
structure Unpaid (config : Config) (db : Database) (row : PaymentTransaction) (deliveries : List Delivery) :
    Prop where
  stored : row ∈ db.transactions.rows
  status : row.status = .created ∨ row.status = .failed
  plain : row.orderId = none
  plan : ∃ planId plan, row.planId = some planId ∧ db.plans.get? planId = some plan
  events : ∀ delivery ∈ deliveries,
    delivery.Succeeded config row.razorpayOrderId ∨ delivery.Failed config row.razorpayOrderId
  paid : ∃ delivery ∈ deliveries, delivery.Paid config row.razorpayOrderId ∧ ¬ delivery.Clashes db row ∧
    db.InvoiceReady delivery.env row

theorem Delivery.Succeeded.not_failed {orderId : String} (h : delivery.Succeeded config orderId) :
    ¬ delivery.Failed config orderId := by
  intro hFailed
  have hSuccess := h.success
  rw [hFailed.failure] at hSuccess
  cases hSuccess

/-- A subscription order that is paid and linked is left alone by all webhooks. -/
theorem serve_subscribed (hRow : row ∈ world.db.transactions.rows) (hPlain : row.orderId = none)
    (hPaid : world.db.Subscribed row)
    (hEvent : delivery.Succeeded config row.razorpayOrderId ∨ delivery.Failed config row.razorpayOrderId) :
    serve config world delivery.request = world := by
  obtain ⟨hStatus, subscription, _, hLink⟩ := hPaid
  rcases hEvent with hSucceeded | hFailed
  · refine serve_activated_idle (hSucceeded.reports hRow) hPlain fun plan hOpen => ?_
    have hUnlinked := hOpen.unlinked hStatus
    rw [hLink] at hUnlinked
    cases hUnlinked
  · obtain ⟨entity, hReported⟩ := hFailed.reports hRow
    exact serve_markedFailed_idle hReported (Or.inl hStatus)

theorem run_subscribed (hRow : row ∈ world.db.transactions.rows) (hPlain : row.orderId = none)
    (hPaid : world.db.Subscribed row) (hEvents : ∀ delivery ∈ deliveries,
      delivery.Succeeded config row.razorpayOrderId ∨ delivery.Failed config row.razorpayOrderId) :
    run (serve config) world (deliveries.map Delivery.request) = world :=
  run_of_idle (List.forall_mem_map.mpr fun delivery hDelivery =>
    serve_subscribed hRow hPlain hPaid (hEvents delivery hDelivery))

/-- A failed attempt leaves the order unpaid and open for the webhooks to come. -/
theorem Unpaid.after_failure (h : Unpaid config world.db row (delivery :: deliveries))
    (hFailed : delivery.Failed config row.razorpayOrderId) :
    ∃ failed, failed.SamePayment row ∧
      Unpaid config (serve config world delivery.request).db failed deliveries := by
  obtain ⟨entity, hReported⟩ := hFailed.reports h.stored
  have hOpen : ¬ (row.status = .success ∨ row.status = .captured) := by
    rcases h.status with hStatus | hStatus <;> simp [hStatus]
  have hServe : serve config world delivery.request =
      world.store [.transaction (markedFailedRow entity.failureReason delivery.env.now row)] :=
    serve_markedFailed hReported h.plain hOpen
  obtain ⟨written, hWritten⟩ := transaction_accepted
    (markedFailedRow entity.failureReason delivery.env.now row) h.stored rfl rfl rfl rfl
  have hDb : (serve config world delivery.request).db = written := by
    rw [hServe]
    exact Database.store_of_writeAll hWritten
  have hTables := Database.written_of_writeAll hWritten
  have hPut : world.db.transactions.put (markedFailedRow entity.failureReason delivery.env.now row) =
      some written.transactions := Table.putAll_singleton.mp hTables.transactions
  have hInvoices : written.invoices = world.db.invoices := (Option.some.inj hTables.invoices).symm
  refine ⟨markedFailedRow entity.failureReason delivery.env.now row, ⟨rfl, rfl, rfl, rfl, rfl⟩, ?_⟩
  rw [hDb]
  refine ⟨(Table.mem_put hPut).mpr (Or.inl rfl), Or.inr rfl, h.plain, ?_, ?_, ?_⟩
  · rw [hTables.plans]
    exact h.plan
  · intro other hOther
    exact h.events other (List.mem_cons_of_mem delivery hOther)
  · obtain ⟨paying, hPaying, hPaid, hTakes, hReady⟩ := h.paid
    rcases List.mem_cons.mp hPaying with rfl | hRest
    · exact absurd hFailed hPaid.not_failed
    · refine ⟨paying, hRest, hPaid, ?_, ?_⟩
      · rintro ⟨other, hOther, hApart, hSome, hSame⟩
        rcases (Table.mem_put hPut).mp hOther with rfl | ⟨hOld, _⟩
        · exact hApart rfl
        · exact hTakes ⟨other, hOld, hApart, hSome, hSame⟩
      · unfold Database.InvoiceReady
        rw [hInvoices]
        exact hReady

/-- The payment id of an event that does not clash is free for an unpaid order. -/
theorem Delivery.Paid.free (h : delivery.Paid config row.razorpayOrderId) (hTakes : ¬ delivery.Clashes db row)
    (hOpen : row.status ≠ .success) :
    db.PaymentIdFree row
      (claimedPaymentId row (SpotqPayment.activationPaymentId delivery.input.parsedPayload row)) := by
  rw [claimedPaymentId, if_neg hOpen, h.activationPaymentId]
  intro other hOther hSame hSome
  by_contra hApart
  exact hTakes ⟨other, hOther, hApart, hSome, hSame⟩

/-- A success event either subscribes the order or is refused for its payment id or for
want of an invoice number, and then nothing has changed. -/
theorem Unpaid.after_success (h : Unpaid config world.db row (delivery :: deliveries))
    (hSucceeded : delivery.Succeeded config row.razorpayOrderId) :
    (∃ paid, (serve config world delivery.request).db.transactions.get? row.id = some paid ∧
      paid.SamePayment row ∧ (serve config world delivery.request).db.Subscribed paid) ∨
    (serve config world delivery.request = world ∧ Unpaid config world.db row deliveries) := by
  obtain ⟨planId, plan, hPlanId, hPlan⟩ := h.plan
  have hNotSuccess : row.status ≠ .success := by
    rcases h.status with hStatus | hStatus <;> simp [hStatus]
  have hOpen : row.Activatable world.db plan := ⟨if_neg hNotSuccess, planId, hPlanId, hPlan⟩
  have hServe := @serve_activated config delivery.env world row delivery.input plan (hSucceeded.reports h.stored)
    h.plain hOpen
  have hAccepted := @activationWrites_accepted delivery.env world.db row h.stored
    (activationParams row plan (activationPaymentId delivery.input.parsedPayload row) "" delivery.env.now)
  by_cases hReady : world.db.PaymentIdFree row
      (claimedPaymentId row (activationPaymentId delivery.input.parsedPayload row)) ∧
    world.db.InvoiceReady delivery.env row
  · obtain ⟨written, hWritten⟩ := hAccepted.mpr hReady
    have hDb : (serve config world delivery.request).db = written := by
      rw [Delivery.request, hServe]
      exact Database.store_of_writeAll hWritten
    have hSubscriptions := (Database.written_of_writeAll hWritten).subscriptions
    rw [activationWrites_subscription?] at hSubscriptions
    refine Or.inl ?_
    rw [hDb]
    refine ⟨_, (get?_activated hWritten row.id).trans (if_pos rfl), activatedRow_samePayment _ _ _,
      activatedRow_status _ _ _, _, ?_, rfl⟩
    exact (Table.mem_put (Table.putAll_singleton.mp hSubscriptions)).mpr (Or.inl rfl)
  · have hRefused : world.db.writeAll (activationWrites world.db delivery.env row (activationParams row plan
        (activationPaymentId delivery.input.parsedPayload row) "" delivery.env.now)) = none := by
      by_contra hSome
      exact hReady (hAccepted.mp (Option.ne_none_iff_exists'.mp hSome))
    have hSame : serve config world delivery.request = world := by
      rw [Delivery.request, hServe, World.store, Database.store_of_refused hRefused]
    refine Or.inr ⟨hSame, h.stored, h.status, h.plain, ⟨planId, plan, hPlanId, hPlan⟩, ?_, ?_⟩
    · intro other hOther
      exact h.events other (List.mem_cons_of_mem delivery hOther)
    · obtain ⟨paying, hPaying, hPays, hTakes, hPayingReady⟩ := h.paid
      rcases List.mem_cons.mp hPaying with rfl | hRest
      · exact absurd ⟨hPays.free hTakes hNotSuccess, hPayingReady⟩ hReady
      · exact ⟨paying, hRest, hPays, hTakes, hPayingReady⟩

/-- An unpaid subscription order is subscribed after all its webhooks. -/
theorem run_unpaid (h : Unpaid config world.db row deliveries) :
    ∃ paid, (run (serve config) world (deliveries.map Delivery.request)).db.transactions.get? row.id = some paid ∧
      (run (serve config) world (deliveries.map Delivery.request)).db.Subscribed paid := by
  induction deliveries generalizing world row with
  | nil =>
      obtain ⟨delivery, hNone, _⟩ := h.paid
      cases hNone
  | cons first rest ih =>
      rw [List.map_cons, run_cons]
      rcases h.events first List.mem_cons_self with hSucceeded | hFailed
      · rcases h.after_success hSucceeded with ⟨paid, hGet, hSame, hSubscribed⟩ | ⟨hServe, hRest⟩
        · have hStored := (Table.get?_eq_some.mp hGet).1
          have hIdle : run (serve config) (serve config world first.request) (rest.map Delivery.request) =
              serve config world first.request := by
            refine run_subscribed hStored (hSame.orderId.trans h.plain) hSubscribed fun delivery hDelivery => ?_
            rw [hSame.razorpayOrderId]
            exact h.events delivery (List.mem_cons_of_mem first hDelivery)
          rw [hIdle]
          exact ⟨paid, hGet, hSubscribed⟩
        · rw [hServe]
          exact ih hRest
      · obtain ⟨failed, hSame, hRest⟩ := h.after_failure hFailed
        have hEnd := ih hRest
        rw [hSame.id] at hEnd
        exact hEnd

end Subscription

/-- After all webhooks of its gateway order a subscription order is subscribed,
and a food order has the outcome of the first webhook that is not refused. -/
theorem outcome_of_webhooks (config : Config) (world : World) (tx : PaymentTransaction)
    (deliveries : List Delivery) (h : WebhooksOf config world.db tx deliveries) :
    ∃ row, (run (serve config) world (deliveries.map Delivery.request)).db.transactions.get? tx.id = some row ∧
      (tx.orderId = none →
        (run (serve config) world (deliveries.map Delivery.request)).db.Subscribed row) ∧
      (tx.orderId ≠ none → firstOutcome world.db tx deliveries = some row.status) := by
  obtain ⟨delivery, hDelivery, hPaid, hTakes, hReady⟩ := h.paid
  cases hFood : tx.orderId with
  | none =>
      obtain ⟨row, hGet, hSubscribed⟩ := run_unpaid
        ⟨h.stored, Or.inl h.created, hFood, h.plan hFood, h.events, ⟨delivery, hDelivery, hPaid, hTakes, hReady hFood⟩⟩
      exact ⟨row, hGet, fun _ => hSubscribed, absurd rfl⟩
  | some foodOrderId =>
      obtain ⟨status, hFirst⟩ := firstOutcome_isSome hDelivery hTakes
      obtain ⟨row, hGet, hStatus⟩ := run_food h.stored hFood h.created h.events hFirst
      exact ⟨row, hGet, nofun, fun _ => hStatus ▸ hFirst⟩

section Samples

/-- A food order after it was created, and a subscription order. -/
def createdFoodOrder : World :=
  serve Sample.config (World.initial Table.empty) (Sample.createOrderPayment 1000 7 50000 Sample.price_pos "order_1")

def createdSubscriptionOrder : World :=
  serve Sample.config (World.initial Sample.plans) (Sample.createSubscriptionOrder 1000 5 "order_1")

def createdFoodTransaction : PaymentTransaction := createdFoodOrder.db.transactions.rows.head (by decide)

def createdSubscriptionTransaction : PaymentTransaction :=
  createdSubscriptionOrder.db.transactions.rows.head (by decide)

/-- The payment `pay_1` of `order_1`, and an attempt that failed before. -/
def payment : Delivery where
  input := Sample.signedInput Sample.capturedBody (Sample.paymentPayload .paymentCaptured "order_1" "pay_1")
  env := Sample.env 3000

def failedAttempt : Delivery where
  input := Sample.signedInput Sample.failedBody (Sample.paymentPayload .paymentFailed "order_1" "pay_0")
  env := Sample.env 2000

theorem payment_paid : payment.Paid Sample.config "order_1" :=
  ⟨⟨by decide, by decide, by decide⟩, "pay_1", by decide⟩

theorem failedAttempt_failed : failedAttempt.Failed Sample.config "order_1" :=
  ⟨by decide, by decide, _, rfl, by decide⟩

/-- A failed attempt and a payment, delivered in any order and any number of
times, for the only transaction of a database. -/
theorem webhooksOf_sample (hTx : db.transactions.rows = [tx]) (hCreated : tx.status = .created)
    (hOrder : tx.razorpayOrderId = "order_1")
    (hPlan : tx.orderId = none → ∃ planId plan, tx.planId = some planId ∧ db.plans.get? planId = some plan)
    (hReady : tx.orderId = none → db.InvoiceReady payment.env tx)
    (hPayment : payment ∈ deliveries)
    (hDeliveries : ∀ delivery ∈ deliveries, delivery = failedAttempt ∨ delivery = payment) :
    WebhooksOf Sample.config db tx deliveries := by
  refine ⟨?_, hCreated, hPlan, ?_, ⟨payment, hPayment, hOrder ▸ payment_paid, ?_, hReady⟩⟩
  · rw [hTx]
    exact List.mem_singleton.mpr rfl
  · intro delivery hDelivery
    rw [hOrder]
    rcases hDeliveries delivery hDelivery with rfl | rfl
    · exact Or.inr failedAttempt_failed
    · exact Or.inl payment_paid.toSucceeded
  · rintro ⟨other, hOther, hApart, _⟩
    rw [hTx, List.mem_singleton] at hOther
    exact hApart (congrArg PaymentTransaction.id hOther)

theorem webhooksOf_createdFoodTransaction (hPayment : payment ∈ deliveries)
    (hDeliveries : ∀ delivery ∈ deliveries, delivery = failedAttempt ∨ delivery = payment) :
    WebhooksOf Sample.config createdFoodOrder.db createdFoodTransaction deliveries :=
  have hFood : createdFoodTransaction.orderId ≠ none := by decide
  webhooksOf_sample (by decide) (by decide) (by decide) (fun hNone => absurd hNone hFood)
    (fun hNone => absurd hNone hFood) hPayment hDeliveries

theorem webhooksOf_createdSubscriptionTransaction (hPayment : payment ∈ deliveries)
    (hDeliveries : ∀ delivery ∈ deliveries, delivery = failedAttempt ∨ delivery = payment) :
    WebhooksOf Sample.config createdSubscriptionOrder.db createdSubscriptionTransaction deliveries :=
  webhooksOf_sample (by decide) (by decide) (by decide) (fun _ => ⟨5, Sample.monthlyPlan, by decide, by decide⟩)
    (fun _ => Or.inl (by decide)) hPayment hDeliveries

/-- The payment first, for a food order, and the failed attempt first, for a
subscription order. -/
theorem outcome_of_webhooks_samples :
    (∃ row, (run (serve Sample.config) createdFoodOrder
        ([payment, failedAttempt].map Delivery.request)).db.transactions.get? createdFoodTransaction.id = some row ∧
      row.status = .captured) ∧
    ∃ row, (run (serve Sample.config) createdSubscriptionOrder
        ([failedAttempt, payment].map Delivery.request)).db.transactions.get? createdSubscriptionTransaction.id =
          some row ∧
      (run (serve Sample.config) createdSubscriptionOrder
        ([failedAttempt, payment].map Delivery.request)).db.Subscribed row := by
  obtain ⟨row, hGet, _, hFood⟩ := outcome_of_webhooks Sample.config createdFoodOrder createdFoodTransaction
    [payment, failedAttempt] (webhooksOf_createdFoodTransaction (by simp) (by simp))
  obtain ⟨paid, hPaid, hSubscribed, _⟩ := outcome_of_webhooks Sample.config createdSubscriptionOrder
    createdSubscriptionTransaction [failedAttempt, payment] (webhooksOf_createdSubscriptionTransaction (by simp) (by simp))
  have hCaptured : firstOutcome createdFoodOrder.db createdFoodTransaction [payment, failedAttempt] =
      some .captured := by decide
  exact ⟨⟨row, hGet, (Option.some.inj (hCaptured.symm.trans (hFood (by decide)))).symm⟩,
    ⟨paid, hPaid, hSubscribed (by decide)⟩⟩

/-- With the failed attempt first the food order is not captured, even though the
payment is delivered twice. -/
theorem capture_depends_on_order :
    ¬ ∀ config world tx deliveries, WebhooksOf config world.db tx deliveries →
      ∃ row, (run (serve config) world (deliveries.map Delivery.request)).db.transactions.get? tx.id = some row ∧
        (tx.orderId = none →
          (run (serve config) world (deliveries.map Delivery.request)).db.Subscribed row) ∧
        (tx.orderId ≠ none → row.status = .captured) := by
  intro h
  obtain ⟨row, hGet, _, hFood⟩ := h Sample.config createdFoodOrder createdFoodTransaction
    [failedAttempt, payment, payment] (webhooksOf_createdFoodTransaction (by simp) (by simp))
  have hStatus : ((run (serve Sample.config) createdFoodOrder
      ([failedAttempt, payment, payment].map Delivery.request)).db.transactions.get? createdFoodTransaction.id).map
        PaymentTransaction.status = some .failed := by decide
  rw [hGet, Option.map_some, hFood (by decide)] at hStatus
  cases hStatus

end Samples

end SpotqPayment
