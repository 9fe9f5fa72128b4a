import SpotqPayment.System.Changes
import SpotqPayment.System.Concurrent

/-! Refund requests that run at the same time. The check of the status, the call
of the gateway and the write that records it are three steps, and nothing holds
the payment between them. -/
namespace SpotqPayment

open Process Transition PaymentTransactionRepository

inductive Call.RequestsRefund : Call → Prop where
  | processOrderRefund (input : ProcessOrderRefundInput) : RequestsRefund (.processOrderRefund input)

/-- The refund is stored for the transaction. -/
def Database.Records (db : Database) (tx : PaymentTransaction) (refundId : String) : Prop :=
  ∃ refund ∈ db.refunds.rows, refund.paymentTransactionId = tx.id ∧ refund.razorpayRefundId = refundId

/-- What the service knows about the refunds of a payment that the gateway has made for
its calls: none or one of the whole amount, which comes with the status REFUNDED once it
is recorded. The transaction is `closed` when it had that status before the first call;
otherwise the status comes with a refund at the gateway. -/
structure RefundLedger (tx : PaymentTransaction) (paymentId : String) (closed : Prop) (world : World) : Prop where
  stored : ∃ row, world.db.transactions.get? tx.id = some row ∧ row.razorpayPaymentId = some paymentId ∧
    row.amountPaise = tx.amountPaise
  made : world.gateway.refundsOf paymentId = [] ∨ world.gateway.refundsOf paymentId = [tx.amountPaise]
  recorded : ∀ made ∈ world.gateway.refunds, made.paymentId = paymentId →
    world.db.Records tx made.refundId → world.db.statusOf tx.id = some .refunded
  refunded : world.db.statusOf tx.id = some .refunded → closed ∨ world.gateway.refundsOf paymentId ≠ []
  closed : closed → world.db.statusOf tx.id = some .refunded

/-- The gateway accepts a refund of the payment only while the transaction is not
REFUNDED and every refund of the payment that it has made is recorded. -/
def RefundsUpToDate {kind : Call → Prop} (tx : PaymentTransaction) (paymentId : String) (calls : Calls) :
    Move (RequestOf kind) Turn → Prop
  | .start _ => True
  | .advance index turn =>
      ∀ amountInPaise,
        (calls.threads[index]?).bind Process.awaited = some (.createRefund paymentId amountInPaise) →
          turn.env.gatewayRefund.isSome →
            calls.shared.db.statusOf tx.id ≠ some .refunded ∧
              ∀ made ∈ calls.shared.gateway.refunds, made.paymentId = paymentId →
                calls.shared.db.Records tx made.refundId

/-- The gateway answers with a fresh refund id. -/
def RefundsFresh {kind : Call → Prop} (calls : Calls) : Move (RequestOf kind) Turn → Prop
  | .start _ => True
  | .advance index turn =>
      ∀ target amountInPaise answer,
        (calls.threads[index]?).bind Process.awaited = some (.createRefund target amountInPaise) →
          turn.env.gatewayRefund = some answer →
            ∀ refund ∈ calls.shared.db.refunds.rows, refund.razorpayRefundId ≠ answer.refundId

/-- What a refund request awaits. It does not ask for a refund of a closed transaction,
and as long as it has not made the refund of the payment, which `pending` says, it does
not record one for the transaction. -/
def RefundOperation (tx : PaymentTransaction) (paymentId : String) (closed pending : Prop) : Port → Prop
  | .repository (.findByCustomerOrderId _) => True
  | .createRefund target amountInPaise => target = paymentId → amountInPaise = tx.amountPaise ∧ ¬ closed
  | .repository (.processOrderRefund params) =>
      params.transaction.status = .refunded ∧ (params.transaction.id = tx.id → ¬ pending)
  | _ => False

/-- The payment is read with its transaction and amount, and as REFUNDED when it is
closed; while its refund is pending the gateway has made none. -/
def RefundAnswer (tx : PaymentTransaction) (paymentId : String) (closed pending : Prop) :
    (port : Port) → Except ServiceError port.Answer → Prop
  | .repository (.findByCustomerOrderId _), .ok (some row) =>
      (row.id = tx.id ↔ row.razorpayPaymentId = some paymentId) ∧
        (row.id = tx.id → row.amountPaise = tx.amountPaise ∧ (closed → row.status = .refunded))
  | .createRefund target _, .ok _ => pending → target ≠ paymentId
  | _, _ => True

variable {config : Config} {tx row : PaymentTransaction} {paymentId : String} {closed pending : Prop}
variable {now : Instant}

theorem respects_recordRefund {input : ProcessOrderRefundInput} {amount : Int} {answer : PaymentRefundResult}
    (hPending : row.id = tx.id → ¬ pending) :
    (recordRefund input row amount answer now).Respects (RefundOperation tx paymentId closed pending)
      (RefundAnswer tx paymentId closed pending) := by
  refine Respects.check_bind fun refunded hRefunded => ?_
  unfold PaymentTransaction.markRefunded at hRefunded
  split at hRefunded
  · cases hRefunded
  · cases hRefunded
    exact Respects.call_bind ⟨rfl, hPending⟩ fun _ _ => trivial

theorem respects_processOrderRefund (input : ProcessOrderRefundInput) :
    (processOrderRefund input now).Respects (RefundOperation tx paymentId closed pending)
      (RefundAnswer tx paymentId closed pending) := by
  refine Respects.call_bind trivial fun found hFound => ?_
  cases found with
  | none => trivial
  | some row =>
      obtain ⟨hSame, hRead⟩ : (row.id = tx.id ↔ row.razorpayPaymentId = some paymentId) ∧
        (row.id = tx.id → row.amountPaise = tx.amountPaise ∧ (closed → row.status = .refunded)) := hFound
      refine Respects.check_bind fun _ hAllowed => ?_
      unfold requestRefund
      cases hPayment : truthy row.razorpayPaymentId with
      | none => trivial
      | some target =>
          have hTarget : row.razorpayPaymentId = some target := (Option.filter_eq_some_iff.mp hPayment).1
          refine Respects.attempt_bind ?_ fun answer hAnswer => ?_
          · intro hIs
            obtain ⟨hAmount, hClosed⟩ := hRead (hSame.mpr (hTarget.trans (congrArg some hIs)))
            rw [PaymentTransaction.amount_of_refundable hAllowed]
            refine ⟨hAmount, fun h => ?_⟩
            rcases PaymentTransaction.paid_of_refundable hAllowed with hPaid | hPaid
            · cases (hClosed h).symm.trans hPaid
            · cases (hClosed h).symm.trans hPaid
          · cases answer with
            | error error => trivial
            | ok answer =>
                refine respects_recordRefund fun hId hPending => ?_
                have hIs := hTarget.symm.trans (hSame.mp hId)
                exact hAnswer hPending (Option.some.inj hIs)

section Steps

variable {env : Env} {world : World}

theorem refundsOf_append (gateway : Gateway) (refund : GatewayRefund) :
    { gateway with refunds := gateway.refunds ++ [refund] }.refundsOf paymentId =
      gateway.refundsOf paymentId ++ if refund.paymentId = paymentId then [refund.amountInPaise] else [] := by
  unfold Gateway.refundsOf
  rw [List.filter_append, List.map_append]
  by_cases hIs : refund.paymentId = paymentId <;> simp [hIs]

/-- A recorded refund: its writes are all stored, or the call fails and changes nothing. -/
theorem perform_processOrderRefund (params : ProcessOrderRefundParams) (world : World) :
    (Port.perform env (.repository (.processOrderRefund params)) world).2 = world ∨
      ∃ row written, world.db.transactions.get? params.transaction.id = some row ∧
        world.db.writeAll
          ([.transaction (statusRow params.transaction.status params.transaction.updatedAt row),
            .refund (world.db.refundRow env (requestedRefund params env.now))] ++
            world.db.voidedInvoices params.transaction.id env.now) = some written ∧
          (Port.perform env (.repository (.processOrderRefund params)) world).2 = { world with db := written } := by
  by_cases hClosed : ∀ row, world.db.findTransaction (.id params.transaction.id) = some row → row.status = .refunded
  · obtain ⟨error, hPerform⟩ := @perform_refund_closed env world params hClosed
    exact Or.inl (congrArg Prod.snd hPerform)
  · push Not at hClosed
    obtain ⟨row, hRow, hOpen⟩ := hClosed
    have hWrites := @processOrderRefund_writes env world.db params row env.now hRow hOpen
    have hPerform := @perform_of_writes env (.processOrderRefund params) world _ _ hWrites
    rw [hPerform]
    rcases world.db.store_cases _ with ⟨_, hSame⟩ | ⟨written, hWritten, hStored⟩
    · refine Or.inl ?_
      rw [World.commit, World.store, hSame]
    · refine Or.inr ⟨row, written, hRow, hWritten, ?_⟩
      rw [World.commit, World.store, hStored]

theorem exists_of_refundsOf {gateway : Gateway} (h : gateway.refundsOf paymentId ≠ []) :
    ∃ made ∈ gateway.refunds, made.paymentId = paymentId := by
  obtain ⟨amount, hAmount⟩ := List.exists_mem_of_ne_nil _ h
  obtain ⟨made, hMade, _⟩ := List.mem_map.mp hAmount
  obtain ⟨hMem, hIs⟩ := List.mem_filter.mp hMade
  exact ⟨made, hMem, of_decide_eq_true hIs⟩

/-- The first refund of a payment. -/
theorem RefundLedger.make (h : RefundLedger tx paymentId closed world)
    (hNone : world.gateway.refundsOf paymentId = []) (hOpen : world.db.statusOf tx.id ≠ some .refunded)
    {refund : GatewayRefund} (hAmount : refund.amountInPaise = tx.amountPaise)
    (hIs : refund.paymentId = paymentId)
    (hFresh : ∀ row ∈ world.db.refunds.rows, row.razorpayRefundId ≠ refund.refundId) :
    RefundLedger tx paymentId closed { world with gateway :=
      { world.gateway with refunds := world.gateway.refunds ++ [refund] } } := by
  refine ⟨h.stored, ?_, fun made hMade hOwn hRecorded => ?_, fun hRefunded => absurd hRefunded hOpen, h.closed⟩
  · rw [refundsOf_append, hNone, if_pos hIs, hAmount]
    exact Or.inr rfl
  · rcases List.mem_append.mp hMade with hOld | hNew
    · exact h.recorded made hOld hOwn hRecorded
    · obtain ⟨row, hRow, _, hId⟩ := hRecorded
      rw [List.mem_singleton.mp hNew] at hId
      exact absurd hId (hFresh row hRow)

/-- The refund of another payment. -/
theorem RefundLedger.makeOther (h : RefundLedger tx paymentId closed world) {refund : GatewayRefund}
    (hOther : refund.paymentId ≠ paymentId) :
    RefundLedger tx paymentId closed { world with gateway :=
      { world.gateway with refunds := world.gateway.refunds ++ [refund] } } := by
  have hSame : { world.gateway with refunds := world.gateway.refunds ++ [refund] }.refundsOf paymentId =
      world.gateway.refundsOf paymentId := by
    rw [refundsOf_append, if_neg hOther, List.append_nil]
  refine ⟨h.stored, by rw [hSame]; exact h.made, fun made hMade hOwn => ?_, by rw [hSame]; exact h.refunded, h.closed⟩
  rcases List.mem_append.mp hMade with hOld | hNew
  · exact h.recorded made hOld hOwn
  · exact absurd (List.mem_singleton.mp hNew ▸ hOwn) hOther

/-- A refund is recorded, for the transaction only when the gateway has made it. -/
theorem RefundLedger.record (h : RefundLedger tx paymentId closed world) {params : ProcessOrderRefundParams}
    (hStatus : params.transaction.status = .refunded)
    (hMade : params.transaction.id = tx.id → world.gateway.refundsOf paymentId ≠ []) :
    RefundLedger tx paymentId closed (Port.perform env (.repository (.processOrderRefund params)) world).2 := by
  rcases @perform_processOrderRefund env params world with hSame | ⟨row, written, hRow, hWritten, hAfter⟩
  · rw [hSame]
    exact h
  rw [hAfter]
  obtain ⟨own, hOwn, hPayment, hAmount⟩ := h.stored
  have hTables := Database.written_of_writeAll hWritten
  have hKey : row.id = params.transaction.id := (Table.get?_eq_some.mp hRow).2
  have hGet := hTables.get?_single (by rw [List.filterMap_append, voidedInvoices_transaction?]; rfl) tx.id
  have hRefunds := hTables.refunds
  rw [List.filterMap_append, voidedInvoices_refund?] at hRefunds
  change written.transactions.get? tx.id = if row.id = tx.id then _ else _ at hGet
  by_cases hIs : row.id = tx.id
  · rw [if_pos hIs] at hGet
    have hRefunded : written.statusOf tx.id = some .refunded := statusOf_eq_some.mpr ⟨_, hGet, hStatus⟩
    rw [← hKey, hIs, hOwn, Option.some.injEq] at hRow
    rw [← hRow] at hGet
    exact ⟨⟨_, hGet, hPayment, hAmount⟩, h.made, fun _ _ _ _ => hRefunded,
      fun _ => Or.inr (hMade (hKey.symm.trans hIs)), fun _ => hRefunded⟩
  · rw [if_neg hIs] at hGet
    have hSame : written.statusOf tx.id = world.db.statusOf tx.id := by
      unfold Database.statusOf
      rw [hGet]
    refine ⟨⟨own, hGet.trans hOwn, hPayment, hAmount⟩, h.made, ?_, by rw [hSame]; exact h.refunded,
      by rw [hSame]; exact h.closed⟩
    rintro made hMadeRefund hOwnPayment ⟨refund, hRefund, hOwner, hId⟩
    rw [hSame]
    rcases Table.mem_of_putAll hRefunds hRefund with hOld | hNew
    · exact h.recorded made hMadeRefund hOwnPayment ⟨refund, hOld, hOwner, hId⟩
    · rw [List.mem_singleton.mp hNew] at hOwner
      exact absurd (hKey.trans hOwner) hIs

/-- The transaction of the payment is the only one that carries its id. -/
theorem RefundLedger.reads (h : RefundLedger tx paymentId closed world) (hRow : row ∈ world.db.transactions.rows) :
    (row.id = tx.id ↔ row.razorpayPaymentId = some paymentId) ∧
      (row.id = tx.id → row.amountPaise = tx.amountPaise ∧ (closed → row.status = .refunded)) := by
  obtain ⟨own, hGet, hPayment, hAmount⟩ := h.stored
  obtain ⟨hOwn, hOwnId⟩ := Table.get?_eq_some.mp hGet
  have hIs : row.id = tx.id → row = own := fun hId => Table.eq_of_key hRow hOwn (hId.trans hOwnId.symm)
  refine ⟨⟨fun hId => hIs hId ▸ hPayment, fun hSame => ?_⟩, fun hId => ⟨hIs hId ▸ hAmount, fun hClosed => ?_⟩⟩
  case refine_2 =>
    obtain ⟨stored, hStored, hStatus⟩ := statusOf_eq_some.mp (h.closed hClosed)
    rw [hIs hId, Option.some.inj (hGet.symm.trans hStored)]
    exact hStatus
  have hOnly : row = own := Database.eq_of_paymentId hRow hOwn hSame hPayment
  exact hOnly ▸ hOwnId

/-- What the gateway has refunded, and which answers the calls get. -/
theorem RefundLedger.answers (h : RefundLedger tx paymentId closed world) (op : Port) (turn : Turn)
    (hPending : pending → (turn.perform op world).2.gateway.refundsOf paymentId = []) :
    RefundAnswer tx paymentId closed pending op (turn.perform op world).1 := by
  cases op with
  | createOrder amountInPaise currency => trivial
  | createRefund target amountInPaise =>
      cases hAnswer : turn.env.gatewayRefund with
      | none =>
          simp only [Turn.perform, Port.perform, hAnswer]
          trivial
      | some answer =>
          simp only [Turn.perform, Port.perform, hAnswer, refundsOf_append] at hPending ⊢
          intro hIs hTarget
          have hNone := (List.append_eq_nil_iff.mp (hPending hIs)).2
          rw [if_pos hTarget] at hNone
          cases hNone
  | repository request =>
      cases request
      case findByCustomerOrderId orderId =>
        cases hFails : turn.databaseFails with
        | true =>
            simp only [Turn.perform, hFails, if_true]
            trivial
        | false =>
            simp only [Turn.perform, hFails, perform_findByCustomerOrderId]
            cases hFound : world.db.transactions.findFirst turn.env.tie PaymentTransaction.createdAt
                fun tx => tx.orderId = some orderId with
            | none => trivial
            | some row => exact h.reads (Table.findFirst_some hFound).1
      all_goals trivial

/-- Refunds at the gateway are never taken back. -/
theorem refundsOf_of_perform {turn : Turn} {op : Port}
    (h : (turn.perform op world).2.gateway.refundsOf paymentId = []) :
    world.gateway.refundsOf paymentId = [] := by
  cases op with
  | createOrder amountInPaise currency =>
      cases hAnswer : turn.env.gatewayOrderId <;> simp only [Turn.perform, Port.perform, hAnswer] at h <;> exact h
  | createRefund target amountInPaise =>
      cases hAnswer : turn.env.gatewayRefund with
      | none =>
          simp only [Turn.perform, Port.perform, hAnswer] at h
          exact h
      | some answer =>
          simp only [Turn.perform, Port.perform, hAnswer, refundsOf_append] at h
          exact (List.append_eq_nil_iff.mp h).1
  | repository request =>
      cases hFails : turn.databaseFails <;> simp only [Turn.perform, hFails] at h <;> exact h

/-- An operation of a refund request keeps the ledger, if a refund that the
gateway accepts is the first one. -/
theorem RefundLedger.perform (h : RefundLedger tx paymentId closed world) {op : Port} {turn : Turn}
    (hOp : RefundOperation tx paymentId closed (world.gateway.refundsOf paymentId = []) op)
    (hFirst : ∀ amountInPaise, op = .createRefund paymentId amountInPaise → turn.env.gatewayRefund.isSome →
      world.db.statusOf tx.id ≠ some .refunded ∧ world.gateway.refundsOf paymentId = [])
    (hFresh : ∀ target amountInPaise answer, op = .createRefund target amountInPaise →
      turn.env.gatewayRefund = some answer →
        ∀ refund ∈ world.db.refunds.rows, refund.razorpayRefundId ≠ answer.refundId) :
    RefundLedger tx paymentId closed (turn.perform op world).2 := by
  cases op with
  | createOrder amountInPaise currency => exact absurd hOp id
  | createRefund target amountInPaise =>
      cases hAnswer : turn.env.gatewayRefund with
      | none =>
          simp only [Turn.perform, Port.perform, hAnswer]
          exact h
      | some answer =>
          simp only [Turn.perform, Port.perform, hAnswer]
          by_cases hIs : target = paymentId
          · obtain ⟨hOpen, hNone⟩ := hFirst amountInPaise (congrArg (Port.createRefund · amountInPaise) hIs)
              (by rw [hAnswer]; rfl)
            exact h.make hNone hOpen (hOp hIs).1 hIs (hFresh target amountInPaise answer rfl hAnswer)
          · exact h.makeOther hIs
  | repository request =>
      cases hFails : turn.databaseFails with
      | true =>
          simp only [Turn.perform, hFails, if_true]
          exact h
      | false =>
          cases request
          case findByCustomerOrderId orderId =>
            simp only [Turn.perform, hFails, perform_findByCustomerOrderId]
            exact h
          case processOrderRefund params =>
            simp only [Turn.perform, hFails]
            exact h.record hOp.1 hOp.2
          all_goals exact absurd hOp id

end Steps

section Runs

variable (config) (tx) (paymentId) (closed)

/-- A call that still has to refund the payment, or may have done so already. -/
def RefundRequest (world : World) (thread : UseCase Reply) : Prop :=
  ∀ pending : Prop, (pending → world.gateway.refundsOf paymentId = []) →
    thread.Respects (RefundOperation tx paymentId closed pending) (RefundAnswer tx paymentId closed pending)

/-- The ledger is right, and all calls are refund requests. -/
abbrev Refunding : Calls → Prop :=
  Pool.Invariant (RefundLedger tx paymentId closed) (RefundRequest tx paymentId closed) fun _ _ => True

variable {config} {tx} {paymentId} {closed} {calls : Calls}

theorem refunding_step (h : Refunding tx paymentId closed calls)
    (move : Move (RequestOf Call.RequestsRefund) Turn) (hFresh : RefundsFresh calls move)
    (hMove : RefundsUpToDate tx paymentId calls move) :
    Refunding tx paymentId closed (interleave config calls move) := by
  cases move with
  | start request =>
      refine Pool.Invariant.start h (fun pending _ => ?_) fun _ _ => trivial
      obtain ⟨⟨call, env⟩, hCall⟩ := request
      cases hCall with
      | processOrderRefund input => exact (respects_processOrderRefund input).map _
  | advance index turn =>
      refine Pool.Invariant.advance h (fun _ _ _ => trivial) fun thread others hThread hSelf hOthers => ?_
      cases thread with
      | ret value => exact ⟨h.shared, hSelf, hOthers⟩
      | fail error => exact ⟨h.shared, hSelf, hOthers⟩
      | await op next =>
          have hOp := (hSelf _ id).1
          have hAwaited : (calls.threads[index]?).bind Process.awaited = some op := by
            rw [hThread]
            rfl
          refine ⟨h.shared.perform hOp ?_ ?_, fun pending hPending => ?_, fun other hOther => ⟨?_, trivial⟩⟩
          · intro amountInPaise hIs hAnswer
            obtain ⟨hOpen, hKnown⟩ := hMove amountInPaise (hIs ▸ hAwaited) hAnswer
            refine ⟨hOpen, ?_⟩
            by_contra hMade
            obtain ⟨made, hMem, hOwn⟩ := exists_of_refundsOf hMade
            exact hOpen (h.shared.recorded made hMem hOwn (hKnown made hMem hOwn))
          · intro target amountInPaise answer hIs hAnswer
            exact hFresh target amountInPaise answer (hIs ▸ hAwaited) hAnswer
          · exact (hSelf pending fun hIs => refundsOf_of_perform (hPending hIs)).2 _
              (h.shared.answers op turn hPending)
          · intro pending hPending
            exact (hOthers other hOther).1 pending fun hIs => refundsOf_of_perform (hPending hIs)

/-- A refund that leaves the total within the amount was the first one. -/
theorem refundsUpToDate_of_next (h : Refunding tx paymentId closed calls) (hAmount : 0 < tx.amountPaise)
    (move : Move (RequestOf Call.RequestsRefund) Turn)
    (hAfter : (interleave config calls move).shared.gateway.refundedPaise paymentId ≤ tx.amountPaise) :
    RefundsUpToDate tx paymentId calls move := by
  cases move with
  | start request => trivial
  | advance index turn =>
      intro amountInPaise hOp hAnswer
      obtain ⟨answer, hAnswer⟩ := Option.isSome_iff_exists.mp hAnswer
      obtain ⟨thread, hThread, hAwaited⟩ := Option.bind_eq_some_iff.mp hOp
      have hRespects := h.each thread (List.mem_of_getElem? hThread) False False.elim
      obtain ⟨hWhole, hNotClosed⟩ := hRespects.allowed_of_awaited hAwaited rfl
      rw [interleave_advance_shared, hOp] at hAfter
      simp only [Turn.perform, Port.perform, hAnswer, Gateway.refundedPaise, refundsOf_append, if_true,
        List.sum_append, List.sum_singleton] at hAfter
      rcases h.shared.made with hNone | hOne
      · refine ⟨fun hRefunded => (h.shared.refunded hRefunded).elim hNotClosed fun hMade => hMade hNone, ?_⟩
        intro made hMade hOwn
        have hMem : made.amountInPaise ∈ calls.shared.gateway.refundsOf paymentId :=
          List.mem_map.mpr ⟨made, List.mem_filter.mpr ⟨hMade, decide_eq_true hOwn⟩, rfl⟩
        rw [hNone] at hMem
        cases hMem
      · rw [hOne, List.sum_singleton, hWhole] at hAfter
        omega

/-- The ledger before the first of the calls. -/
theorem refundLedger_start {world : World} (hTx : tx ∈ world.db.transactions.rows)
    (hPayment : tx.razorpayPaymentId = some paymentId) (hNone : world.gateway.refundsOf paymentId = []) :
    RefundLedger tx paymentId (world.db.statusOf tx.id = some .refunded) world where
  stored := ⟨tx, Table.get?_key hTx, hPayment, rfl⟩
  made := Or.inl hNone
  recorded := by
    intro made hMade hOwn _
    have hMem : made.amountInPaise ∈ world.gateway.refundsOf paymentId :=
      List.mem_map.mpr ⟨made, List.mem_filter.mpr ⟨hMade, decide_eq_true hOwn⟩, rfl⟩
    rw [hNone] at hMem
    cases hMem
  refunded := Or.inl
  closed := id

/-- Whatever is stored of a payment when its first refund is asked for, it is refunded
within its amount in exactly those runs in which the gateway accepts a refund of it only
while the stored state is up to date. -/
theorem refundedOnce_iff (config : Config) (world : World) (tx : PaymentTransaction) (paymentId : String)
    (hTx : tx ∈ world.db.transactions.rows) (hPayment : tx.razorpayPaymentId = some paymentId)
    (hNone : world.gateway.refundsOf paymentId = []) (moves : List (Move (RequestOf Call.RequestsRefund) Turn))
    (hFresh : EveryStep (interleave config) world.idle moves RefundsFresh) :
    Always (interleave config) world.idle moves (fun calls =>
        calls.shared.gateway.refundedPaise paymentId ≤ tx.amountPaise) ↔
      EveryStep (interleave config) world.idle moves (RefundsUpToDate tx paymentId) := by
  have hAmount : 0 < tx.amountPaise := (Database.amountFits_iff.mp (Database.amountFits_of_mem hTx)).1
  refine always_iff_everyStep_assuming (Refunding tx paymentId (world.db.statusOf tx.id = some .refunded))
    (fun calls h => ?_) (fun _ move h hFresh hMove => refunding_step h move hFresh hMove)
    (fun _ move h _ hAfter => refundsUpToDate_of_next h hAmount move hAfter) moves
    (Pool.Invariant.empty (refundLedger_start hTx hPayment hNone)) hFresh
  unfold Gateway.refundedPaise
  rcases h.shared.made with hNone | hOne
  · rw [hNone]
    exact hAmount.le
  · rw [hOne, List.sum_singleton]

end Runs

namespace Sample

/-- A food order of 500 rupees that is paid. -/
def paidOrder : World :=
  run (serve Sample.config) (World.initial Table.empty)
    [createOrderPayment 1000 7 50000 Sample.price_pos "order_1", verifyOrderPayment 2000 7 "order_1" "pay_1"]

def paidTransaction : PaymentTransaction := (paidOrder.db.transactions.get? 0).get (by decide)

/-- A step in which the gateway answers with a refund. -/
def refundTurn (now : Instant) (refundId : String) : Turn where
  env := (processOrderRefund now 7 refundId "processed").env
  databaseFails := false

/-- Two refund requests read the paid order before either asks the gateway. -/
def overlappingRefunds : List (Move (RequestOf Call.RequestsRefund) Turn) :=
  [.start ⟨processOrderRefund 3000 7 "rfnd_1" "processed", .processOrderRefund _⟩,
    .start ⟨processOrderRefund 3000 7 "rfnd_2" "processed", .processOrderRefund _⟩,
    .advance 0 (refundTurn 3000 "rfnd_1"), .advance 1 (refundTurn 3000 "rfnd_2"),
    .advance 0 (refundTurn 3000 "rfnd_1"), .advance 1 (refundTurn 3000 "rfnd_2")]

end Sample

instance {kind : Call → Prop} (calls : Calls) : (move : Move (RequestOf kind) Turn) →
    Decidable (RefundsFresh calls move)
  | .start _ => isTrue trivial
  | .advance index turn =>
      match hAwaited : (calls.threads[index]?).bind Process.awaited, hAnswer : turn.env.gatewayRefund with
      | some (.createRefund _ _), some answer =>
          decidable_of_iff (∀ refund ∈ calls.shared.db.refunds.rows, refund.razorpayRefundId ≠ answer.refundId)
            ⟨fun h _ _ _ _ hSame => by
              rw [hAnswer] at hSame
              exact Option.some.inj hSame ▸ h,
            fun h => h _ _ answer hAwaited hAnswer⟩
      | some (.createOrder _ _), _ => isTrue fun _ _ _ h => by
          rw [hAwaited] at h
          cases h
      | some (.repository _), _ => isTrue fun _ _ _ h => by
          rw [hAwaited] at h
          cases h
      | none, _ => isTrue fun _ _ _ h => by
          rw [hAwaited] at h
          cases h
      | some (.createRefund _ _), none => isTrue fun _ _ _ _ h => by
          rw [hAnswer] at h
          cases h

theorem overlappingRefunds_fresh :
    EveryStep (interleave Sample.config) Sample.paidOrder.idle Sample.overlappingRefunds RefundsFresh := by
  decide

theorem refundedOnce_iff_paidOrder :
    Always (interleave Sample.config) Sample.paidOrder.idle Sample.overlappingRefunds (fun calls =>
        calls.shared.gateway.refundedPaise "pay_1" ≤ Sample.paidTransaction.amountPaise) ↔
      EveryStep (interleave Sample.config) Sample.paidOrder.idle Sample.overlappingRefunds
        (RefundsUpToDate Sample.paidTransaction "pay_1") :=
  refundedOnce_iff Sample.config Sample.paidOrder Sample.paidTransaction "pay_1" (by decide) (by decide) (by decide)
    Sample.overlappingRefunds overlappingRefunds_fresh

/-- The gateway refunds the payment twice. -/
theorem refundedOnce_fails :
    ¬ ∀ config (world : World) (tx : PaymentTransaction) paymentId, tx ∈ world.db.transactions.rows →
      tx.orderId ≠ none → tx.razorpayPaymentId = some paymentId → world.gateway.refundsOf paymentId = [] →
        ∀ moves : List (Move (RequestOf Call.RequestsRefund) Turn),
          EveryStep (interleave config) world.idle moves RefundsFresh →
            Always (interleave config) world.idle moves fun calls =>
              calls.shared.gateway.refundedPaise paymentId ≤ tx.amountPaise := by
  intro h
  have hWithin := h Sample.config Sample.paidOrder Sample.paidTransaction "pay_1" (by decide) (by decide) (by decide)
    (by decide) Sample.overlappingRefunds overlappingRefunds_fresh Sample.overlappingRefunds List.prefix_rfl
  exact absurd hWithin (by decide)

end SpotqPayment
