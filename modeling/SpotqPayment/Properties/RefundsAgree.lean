import SpotqPayment.Properties.RefundedTerminal

/-! The status of a food order and its refund rows agree as long as no event
brings back a refund of another amount than is still to be refunded, takes a
refund back, or reopens the refunded payment. -/
namespace SpotqPayment

open Transition PaymentTransactionRepository

/-- A refund that is PENDING or PROCESSED. -/
def PaymentRefund.isLive (refund : PaymentRefund) : Bool :=
  refund.status = .pending || refund.status = .processed

/-- What a refund row adds to the refunds of a transaction. -/
def PaymentRefund.livePaise (id : Uuid) (refund : PaymentRefund) : Int :=
  if refund.paymentTransactionId = id ∧ refund.isLive then refund.amountPaise else 0

/-- The amounts of the PENDING and PROCESSED refunds of a transaction, added up. -/
def Database.livePaise (db : Database) (id : Uuid) : Int := db.refunds.total (PaymentRefund.livePaise id)

/-- A food order is REFUNDED exactly when its refunds add up to its amount. -/
def Database.RefundsAgree (db : Database) : Prop :=
  ∀ tx ∈ db.transactions.rows, tx.orderId ≠ none →
    (tx.status = .refunded ↔ db.livePaise tx.id = tx.amountPaise)

/-- What is still to be refunded of a payment. -/
def PaymentTransaction.outstandingPaise (tx : PaymentTransaction) : Int :=
  if tx.status = .refunded then 0 else tx.amountPaise

/-- The calls that set the status of a transaction and its refunds apart. -/
inductive SetsApart (config : Config) (db : Database) (env : Env) : Call → PaymentTransaction → Prop where
  | reopened {call : Call} {tx : PaymentTransaction} (hStatus : tx.status = .refunded)
      (hReopens : Reopens config db env call tx) : SetsApart config db env call tx
  | recovered {input : HandleWebhookInput} {params : SyncRefundFromWebhookParams} {refund : PaymentRefund}
      {tx : PaymentTransaction} (hReported : input.ReportsRefund config params)
      (hProcessed : params.status = .processed)
      (hKnown : db.findRefund params.razorpayRefundId = some refund)
      (hRow : db.findTransaction (.id refund.paymentTransactionId) = some tx)
      (hFailed : refund.status = .failed) (hAmount : refund.amountPaise ≠ tx.outstandingPaise) :
      SetsApart config db env (.handleWebhook input) tx
  | recorded {input : HandleWebhookInput} {params : SyncRefundFromWebhookParams} {razorpayPaymentId : String}
      {tx : PaymentTransaction} (hReported : input.ReportsRefund config params)
      (hProcessed : params.status = .processed)
      (hUnknown : db.findRefund params.razorpayRefundId = none)
      (hPayment : truthy params.razorpayPaymentId = some razorpayPaymentId)
      (hRow : db.findTransaction (.razorpayPaymentId razorpayPaymentId) = some tx)
      (hFits : amountFits (params.amountPaise.getD tx.amountPaise) = true)
      (hAmount : params.amountPaise.getD tx.amountPaise ≠ tx.outstandingPaise) :
      SetsApart config db env (.handleWebhook input) tx
  | withdrawn {input : HandleWebhookInput} {params : SyncRefundFromWebhookParams} {refund : PaymentRefund}
      {tx : PaymentTransaction} (hReported : input.ReportsRefund config params)
      (hFailed : params.status = .failed)
      (hKnown : db.findRefund params.razorpayRefundId = some refund)
      (hRow : db.findTransaction (.id refund.paymentTransactionId) = some tx)
      (hLive : refund.status ≠ .failed) :
      SetsApart config db env (.handleWebhook input) tx

/-- The call sets no food order and its refunds apart. -/
def KeepsTogether (config : Config) (world : World) (request : Request) : Prop :=
  ∀ tx ∈ world.db.transactions.rows, tx.orderId ≠ none →
    ¬ SetsApart config world.db request.env request.call tx

variable {config : Config} {db written : Database} {env : Env} {world : World} {tx : PaymentTransaction}

section Refunds

variable {refund : PaymentRefund}

theorem PaymentRefund.isLive_iff : refund.isLive = true ↔ refund.status ≠ .failed := by
  unfold PaymentRefund.isLive
  cases refund.status <;> decide

theorem PaymentRefund.livePaise_of_live (hOwner : refund.paymentTransactionId = tx.id)
    (hLive : refund.status ≠ .failed) : refund.livePaise tx.id = refund.amountPaise :=
  if_pos ⟨hOwner, PaymentRefund.isLive_iff.mpr hLive⟩

theorem PaymentRefund.livePaise_of_failed (id : Uuid) (hFailed : refund.status = .failed) :
    refund.livePaise id = 0 :=
  if_neg fun h => PaymentRefund.isLive_iff.mp h.2 hFailed

theorem PaymentRefund.livePaise_of_other {id : Uuid} (hOther : refund.paymentTransactionId ≠ id) :
    refund.livePaise id = 0 :=
  if_neg fun h => hOther h.1

/-- The refund row that a call replaces, if there is one, is of the same
transaction and for the same amount. -/
theorem RefundChange.replaced {call : Call} (h : RefundChange config db env call refund tx) :
    db.refunds.get? refund.id = none ∨ ∃ old, db.refunds.get? refund.id = some old ∧
      old.paymentTransactionId = refund.paymentTransactionId ∧ old.amountPaise = refund.amountPaise := by
  cases h with
  | requested hAccepted hAnswer => exact Or.inl Table.get?_freshKey
  | @synced _ params old _ hReported hKnown hRow =>
      exact Or.inr ⟨old, Table.get?_key (Table.lookup_mem hKnown).1, rfl, rfl⟩
  | recorded hReported hUnknown hPayment hRow => exact Or.inl Table.get?_freshKey

/-- A written refund row changes the refunds of a transaction by what it is worth. -/
theorem livePaise_put (hPut : db.refunds.put refund = some written.refunds) (id : Uuid) :
    written.livePaise id =
      db.livePaise id - (db.refunds.get? refund.id).elim 0 (PaymentRefund.livePaise id) + refund.livePaise id :=
  Table.total_put hPut (PaymentRefund.livePaise id)

/-- Only the refunds of the transaction of a written refund row change. -/
theorem RefundChange.livePaise_other {call : Call} (h : RefundChange config db env call refund tx)
    (hOwner : refund.paymentTransactionId = tx.id) (hPut : db.refunds.put refund = some written.refunds)
    {id : Uuid} (hOther : id ≠ tx.id) : written.livePaise id = db.livePaise id := by
  have hApart : refund.paymentTransactionId ≠ id := fun hSame => hOther (hSame.symm.trans hOwner)
  rw [livePaise_put hPut, PaymentRefund.livePaise_of_other hApart]
  rcases h.replaced with hNone | ⟨old, hOld, hSame, _⟩
  · rw [hNone]
    show db.livePaise id - 0 + 0 = db.livePaise id
    omega
  · rw [hOld]
    show db.livePaise id - old.livePaise id + 0 = db.livePaise id
    rw [PaymentRefund.livePaise_of_other (hSame ▸ hApart)]
    omega

end Refunds

/-- The books of a food order: its refunds come to its amount when it is
REFUNDED, and otherwise it has none that is live. -/
structure Database.Ledger (db : Database) (tx : PaymentTransaction) : Prop where
  positive : 0 < tx.amountPaise
  closed : tx.status = .refunded → db.livePaise tx.id = tx.amountPaise
  idle : tx.status ≠ .refunded →
    ∀ refund ∈ db.refunds.rows, refund.paymentTransactionId = tx.id → refund.status = .failed

def Database.Ledgers (db : Database) : Prop :=
  ∀ tx ∈ db.transactions.rows, tx.orderId ≠ none → db.Ledger tx

theorem Database.Ledger.livePaise_of_idle (h : db.Ledger tx) (hStatus : tx.status ≠ .refunded) :
    db.livePaise tx.id = 0 :=
  Table.total_eq_zero fun refund hRefund => by
    by_cases hOwner : refund.paymentTransactionId = tx.id
    · exact PaymentRefund.livePaise_of_failed tx.id (h.idle hStatus refund hRefund hOwner)
    · exact PaymentRefund.livePaise_of_other hOwner

theorem Database.Ledger.agrees (h : db.Ledger tx) :
    tx.status = .refunded ↔ db.livePaise tx.id = tx.amountPaise := by
  refine ⟨h.closed, fun hPaid => ?_⟩
  by_contra hStatus
  have hZero := h.livePaise_of_idle hStatus
  have hPositive := h.positive
  omega

/-- What is not refunded yet is still to be refunded. -/
theorem Database.Ledger.outstanding (h : db.Ledger tx) :
    db.livePaise tx.id + tx.outstandingPaise = tx.amountPaise := by
  unfold PaymentTransaction.outstandingPaise
  by_cases hStatus : tx.status = .refunded
  · rw [if_pos hStatus, h.closed hStatus]
    omega
  · rw [if_neg hStatus, h.livePaise_of_idle hStatus]
    omega

/-- A call writes no refund and no transaction that is REFUNDED, or it writes one
refund, and the transaction becomes REFUNDED unless that refund has failed. -/
theorem Effect.ledger {call : Call} {writes : List Write} (hEffect : Effect config db env call writes) :
    (writes.filterMap Write.refund? = [] ∧
      ∀ row ∈ writes.filterMap Write.transaction?, row.status ≠ .refunded) ∨
    ∃ refund tx, RefundChange config db env call refund tx ∧ tx ∈ db.transactions.rows ∧
      refund.paymentTransactionId = tx.id ∧ writes.filterMap Write.refund? = [refund] ∧
      writes.filterMap Write.transaction? =
        if refund.status = .failed then [] else [statusRow .refunded env.now tx] := by
  cases hEffect with
  | nothing call => exact Or.inl ⟨rfl, by simp⟩
  | captured hCaptures hOpen =>
      refine Or.inl ⟨rfl, fun row hRow => ?_⟩
      rw [List.mem_singleton.mp hRow]
      show PaymentStatus.captured ≠ .refunded
      decide
  | @failed _ entity tx _ hReported hFood hOpen =>
      refine Or.inl ⟨rfl, fun row hRow => ?_⟩
      have hStatus : (tx.markFailed entity.failureReason env.now).status = .failed := by
        rw [PaymentTransaction.markFailed, if_neg (by tauto)]
      rw [List.mem_singleton.mp hRow]
      show (tx.markFailed entity.failureReason env.now).status ≠ .refunded
      rw [hStatus]
      decide
  | markedFailed hReported hPlain hOpen =>
      refine Or.inl ⟨rfl, fun row hRow => ?_⟩
      rw [List.mem_singleton.mp hRow]
      show PaymentStatus.failed ≠ .refunded
      decide
  | @activated _ tx plan paymentId signature hActivates hOpen =>
      refine Or.inl ⟨activationWrites_refund? _, fun row hRow => ?_⟩
      obtain ⟨_, hStatus⟩ := mem_activationWrites hRow
      rw [hStatus]
      decide
  | @refunded input tx paymentId answer hAccepted hAnswer =>
      have hLive : (requestedRow db env input tx answer).status ≠ .failed := by
        show refundStatusOf answer.status ≠ .failed
        unfold refundStatusOf
        split <;> decide
      refine Or.inr ⟨_, tx, .requested hAccepted hAnswer, (Table.findFirst_some hAccepted.newest).1, rfl, ?_, ?_⟩
      · rw [refundWrites, List.filterMap_append, voidedInvoices_refund?]
        rfl
      · rw [refundWrites, List.filterMap_append, voidedInvoices_transaction?, if_neg hLive]
        rfl
  | @refundSynced _ params refund tx hReported hKnown hRow =>
      refine Or.inr ⟨_, tx, .synced hReported hKnown hRow, Database.findTransaction_mem hRow,
        (Table.get?_eq_some.mp hRow).2.symm, ?_, ?_⟩
      · rw [List.filterMap_cons, settlement_refund?]
        rfl
      · exact settlement_ledger hReported.status
  | @refundRecorded _ params razorpayPaymentId tx hReported hUnknown hPayment hRow =>
      refine Or.inr ⟨_, tx, .recorded hReported hUnknown hPayment hRow, Database.findTransaction_mem hRow,
        rfl, ?_, ?_⟩
      · rw [List.filterMap_cons, settlement_refund?]
        rfl
      · exact settlement_ledger hReported.status
  | orderOpened hOpens =>
      refine Or.inl ⟨rfl, fun row hRow => ?_⟩
      rw [List.mem_singleton.mp hRow]
      show PaymentStatus.created ≠ .refunded
      decide
  | subscriptionOrdered hAccepted hPending hGateway hWrites =>
      refine Or.inl ?_
      rcases prefix_pair hWrites with rfl | rfl | rfl
      · exact ⟨rfl, by simp⟩
      · refine ⟨rfl, fun row hRow => ?_⟩
        rw [List.mem_singleton.mp hRow]
        show PaymentStatus.created ≠ .refunded
        decide
      · refine ⟨rfl, fun row hRow => ?_⟩
        rw [List.mem_singleton.mp hRow]
        show PaymentStatus.created ≠ .refunded
        decide
  | reset hAccepted hPending hFailed =>
      refine Or.inl ⟨rfl, fun row hRow => ?_⟩
      rw [List.mem_singleton.mp hRow]
      show PaymentStatus.created ≠ .refunded
      decide
  | @expired events hTypes =>
      refine Or.inl ⟨?_, ?_⟩
      · simp [PaymentSubscriptionExpiryService.expiredSubscriptions, List.filterMap_append,
          List.filterMap_map, Function.comp_def, Write.refund?]
      · rw [expiry_transaction? env.now events]
        simp

section Settled

variable {call : Call} {refund : PaymentRefund}

/-- A refund that succeeds and sets nothing apart brings the refunds of its
transaction to the amount. -/
theorem livePaise_of_settled (hLedger : db.Ledger tx) (hChange : RefundChange config db env call refund tx)
    (hOwner : refund.paymentTransactionId = tx.id) (hPut : db.refunds.put refund = some written.refunds)
    (hTogether : ¬ SetsApart config db env call tx) (hLive : refund.status ≠ .failed) :
    written.livePaise tx.id = tx.amountPaise := by
  have hOutstanding := hLedger.outstanding
  rw [livePaise_put hPut, PaymentRefund.livePaise_of_live hOwner hLive]
  cases hChange with
  | @requested input _ paymentId answer hAccepted hAnswer =>
      have hFresh : db.refunds.get? (requestedRow db env input tx answer).id = none := Table.get?_freshKey
      have hAmount : (requestedRow db env input tx answer).amountPaise = tx.amountPaise :=
        PaymentTransaction.amount_of_refundable hAccepted.refundable
      have hOpen : tx.status ≠ .refunded := by
        rcases PaymentTransaction.paid_of_refundable hAccepted.refundable with h | h <;> simp [h]
      rw [hFresh, hAmount, hLedger.livePaise_of_idle hOpen]
      show (0 : Int) - 0 + tx.amountPaise = tx.amountPaise
      omega
  | @synced _ params old _ hReported hKnown hRow =>
      have hMem := (Table.lookup_mem hKnown).1
      have hOldOwner : old.paymentTransactionId = tx.id := hOwner
      have hOld : db.refunds.get? (syncedRefund params env.now old).id = some old := Table.get?_key hMem
      rw [hOld]
      show db.livePaise tx.id - old.livePaise tx.id + old.amountPaise = tx.amountPaise
      by_cases hFailed : old.status = .failed
      · have hProcessed : params.status = .processed := hReported.status.resolve_right hLive
        have hAmount : old.amountPaise = tx.outstandingPaise := by
          by_contra hOther
          exact hTogether (.recovered hReported hProcessed hKnown hRow hFailed hOther)
        rw [PaymentRefund.livePaise_of_failed tx.id hFailed]
        omega
      · have hClosed : tx.status = .refunded := by
          by_contra hOpen
          exact hFailed (hLedger.idle hOpen old hMem hOldOwner)
        have hPaid := hLedger.closed hClosed
        rw [PaymentRefund.livePaise_of_live hOldOwner hFailed]
        omega
  | @recorded _ params razorpayPaymentId _ hReported hUnknown hPayment hRow =>
      have hFresh : db.refunds.get? (db.refundRow env (reportedRefund params tx env.now)).id = none :=
        Table.get?_freshKey
      have hProcessed : params.status = .processed := hReported.status.resolve_right hLive
      have hFits := ((exists_put_refund (reportedRefund params tx env.now)).mp ⟨_, hPut⟩).1
      have hAmount : params.amountPaise.getD tx.amountPaise = tx.outstandingPaise := by
        by_contra hOther
        exact hTogether (.recorded hReported hProcessed hUnknown hPayment hRow hFits hOther)
      rw [hFresh]
      show db.livePaise tx.id - 0 + params.amountPaise.getD tx.amountPaise = tx.amountPaise
      omega

/-- A refund that fails and sets nothing apart changes no sum. -/
theorem livePaise_of_failure (hChange : RefundChange config db env call refund tx)
    (hOwner : refund.paymentTransactionId = tx.id) (hPut : db.refunds.put refund = some written.refunds)
    (hTogether : ¬ SetsApart config db env call tx) (hFailed : refund.status = .failed) :
    written.livePaise tx.id = db.livePaise tx.id := by
  rw [livePaise_put hPut, PaymentRefund.livePaise_of_failed tx.id hFailed]
  cases hChange with
  | @requested input _ paymentId answer hAccepted hAnswer =>
      have hFresh : db.refunds.get? (requestedRow db env input tx answer).id = none := Table.get?_freshKey
      rw [hFresh]
      show db.livePaise tx.id - 0 + 0 = db.livePaise tx.id
      omega
  | @synced _ params old _ hReported hKnown hRow =>
      have hOldOwner : old.paymentTransactionId = tx.id := hOwner
      have hOld : db.refunds.get? (syncedRefund params env.now old).id = some old :=
        Table.get?_key (Table.lookup_mem hKnown).1
      rw [hOld]
      show db.livePaise tx.id - old.livePaise tx.id + 0 = db.livePaise tx.id
      by_cases hGone : old.status = .failed
      · rw [PaymentRefund.livePaise_of_failed tx.id hGone]
        omega
      · exact absurd (.withdrawn hReported hFailed hKnown hRow hGone) hTogether
  | @recorded _ params razorpayPaymentId _ hReported hUnknown hPayment hRow =>
      have hFresh : db.refunds.get? (db.refundRow env (reportedRefund params tx env.now)).id = none :=
        Table.get?_freshKey
      rw [hFresh]
      show db.livePaise tx.id - 0 + 0 = db.livePaise tx.id
      omega

/-- Nor does it turn up a refund that is live. -/
theorem failed_of_failure (hPut : db.refunds.put refund = some written.refunds)
    (hFailed : refund.status = .failed)
    (hIdle : ∀ refund ∈ db.refunds.rows, refund.paymentTransactionId = tx.id → refund.status = .failed)
    {row : PaymentRefund} (hRow : row ∈ written.refunds.rows) (hOwner : row.paymentTransactionId = tx.id) :
    row.status = .failed := by
  rcases (Table.mem_put hPut).mp hRow with rfl | ⟨hOld, _⟩
  · exact hFailed
  · exact hIdle row hOld hOwner

end Settled

section Step

variable {request : Request}

/-- The books of a transaction whose refunds are as before. -/
theorem Database.Ledger.of_refunds {row : PaymentTransaction} (h : db.Ledger tx) (hSame : row.SamePayment tx)
    (hStatus : row.status = .refunded ↔ tx.status = .refunded) (hRefunds : written.refunds = db.refunds) :
    written.Ledger row := by
  constructor
  · rw [hSame.amountPaise]
    exact h.positive
  · intro hClosed
    unfold Database.livePaise
    rw [hRefunds, hSame.id, hSame.amountPaise]
    exact h.closed (hStatus.mp hClosed)
  · intro hOpen
    rw [hRefunds, hSame.id]
    exact h.idle fun hClosed => hOpen (hStatus.mpr hClosed)

theorem samePayment_refl : tx.SamePayment tx := ⟨rfl, rfl, rfl, rfl, rfl⟩

/-- A call that writes no refund keeps the books, if it reopens nothing. -/
theorem ledgers_of_no_refund {call : Call} {writes : List Write} (hLinked : db.RefundsLinked)
    (hLedgers : db.Ledgers) (hEffect : Effect config db env call writes)
    (hWritten : db.writeAll writes = some written)
    (hTogether : ∀ tx ∈ db.transactions.rows, tx.orderId ≠ none → ¬ SetsApart config db env call tx)
    (hNone : writes.filterMap Write.refund? = [])
    (hOpen : ∀ row ∈ writes.filterMap Write.transaction?, row.status ≠ .refunded) : written.Ledgers := by
  have hTables := Database.written_of_writeAll hWritten
  have hRefunds : written.refunds = db.refunds := by
    have hTable := hTables.refunds
    rw [hNone] at hTable
    exact (Option.some.inj hTable).symm
  intro row hRow hFood
  rcases Table.mem_of_putAll hTables.transactions hRow with hOld | hNew
  · exact (hLedgers row hOld hFood).of_refunds samePayment_refl Iff.rfl hRefunds
  have hStatus := hOpen row hNew
  rcases (hEffect.outcome hWritten).origin hRow with hOld | ⟨data, hAmount, rfl⟩ | ⟨tx, hTx, hChange, _⟩
  · exact (hLedgers row hOld hFood).of_refunds samePayment_refl Iff.rfl hRefunds
  · refine ⟨hAmount hFood, fun hClosed => absurd hClosed hStatus, fun _ refund hRefund hOwner => ?_⟩
    rw [hRefunds] at hRefund
    obtain ⟨tx, hTx⟩ := hLinked refund hRefund
    have hFresh : db.transactions.get? (db.transactionRow env data).id = none := Table.get?_freshKey
    rw [← hOwner] at hFresh
    exact absurd (hTx.symm.trans hFresh) nofun
  · have hSame := hChange.samePayment
    have hTxFood : tx.orderId ≠ none := hSame.orderId ▸ hFood
    have hTxOpen : tx.status ≠ .refunded := fun hClosed =>
      hStatus (hChange.refunded_of_not_reopens hClosed fun hReopens =>
        hTogether tx hTx hTxFood (.reopened hClosed hReopens))
    exact (hLedgers tx hTx hTxFood).of_refunds hSame
      ⟨fun h => absurd h hStatus, fun h => absurd h hTxOpen⟩ hRefunds

/-- A refund that sets nothing apart keeps the books. -/
theorem ledgers_of_refund {call : Call} {writes : List Write} {refund : PaymentRefund}
    (hLedgers : db.Ledgers) (hWritten : db.writeAll writes = some written)
    (hTogether : tx.orderId ≠ none → ¬ SetsApart config db env call tx)
    (hChange : RefundChange config db env call refund tx) (hTx : tx ∈ db.transactions.rows)
    (hOwner : refund.paymentTransactionId = tx.id)
    (hRefund : writes.filterMap Write.refund? = [refund])
    (hRows : writes.filterMap Write.transaction? =
      if refund.status = .failed then [] else [statusRow .refunded env.now tx]) : written.Ledgers := by
  have hTables := Database.written_of_writeAll hWritten
  have hPut : db.refunds.put refund = some written.refunds := by
    have hTable := hTables.refunds
    rw [hRefund] at hTable
    exact Table.putAll_singleton.mp hTable
  have hOther (row : PaymentTransaction) (hRow : row ∈ db.transactions.rows) (hFood : row.orderId ≠ none)
      (hId : row.id ≠ tx.id) : written.Ledger row := by
    have hBefore := hLedgers row hRow hFood
    have hSum := hChange.livePaise_other hOwner hPut hId
    refine ⟨hBefore.positive, fun hClosed => hSum.trans (hBefore.closed hClosed), fun hOpen old hOld hSame => ?_⟩
    rcases (Table.mem_put hPut).mp hOld with rfl | ⟨hMem, _⟩
    · exact absurd (hSame.symm.trans hOwner) hId
    · exact hBefore.idle hOpen old hMem hSame
  intro row hRow hFood
  by_cases hFailed : refund.status = .failed
  · have hSame : written.transactions = db.transactions := by
      have hTable := hTables.transactions
      rw [hRows, if_pos hFailed] at hTable
      exact (Option.some.inj hTable).symm
    rw [hSame] at hRow
    by_cases hId : row.id = tx.id
    · have hEq : row = tx := Table.eq_of_key hRow hTx hId
      subst hEq
      have hBefore := hLedgers row hRow hFood
      have hSum := livePaise_of_failure hChange hOwner hPut (hTogether hFood) hFailed
      exact ⟨hBefore.positive, fun hClosed => hSum.trans (hBefore.closed hClosed),
        fun hOpen old hOld => failed_of_failure hPut hFailed (hBefore.idle hOpen) hOld⟩
    · exact hOther row hRow hFood hId
  · have hTable : db.transactions.put (statusRow .refunded env.now tx) = some written.transactions := by
      have hTable := hTables.transactions
      rw [hRows, if_neg hFailed] at hTable
      exact Table.putAll_singleton.mp hTable
    rcases (Table.mem_put hTable).mp hRow with rfl | ⟨hOld, hId⟩
    · have hBefore := hLedgers tx hTx hFood
      have hSum := livePaise_of_settled hBefore hChange hOwner hPut (hTogether hFood) hFailed
      exact ⟨hBefore.positive, fun _ => hSum, fun hOpen => absurd rfl hOpen⟩
    · exact hOther row hOld hFood hId

theorem ledgers_step (hLinked : world.db.RefundsLinked) (hLedgers : world.db.Ledgers)
    (hTogether : KeepsTogether config world request) : (serve config world request).db.Ledgers := by
  obtain ⟨writes, hEffect, hStore⟩ := @serve_effect config world hLinked request
  rw [hStore]
  rcases world.db.store_cases writes with ⟨_, hSame⟩ | ⟨written, hWritten, hStored⟩
  · rw [hSame]
    exact hLedgers
  rw [hStored]
  rcases hEffect.ledger with ⟨hNone, hOpen⟩ | ⟨refund, tx, hChange, hTx, hOwner, hRefund, hRows⟩
  · exact ledgers_of_no_refund hLinked hLedgers hEffect hWritten hTogether hNone hOpen
  · exact ledgers_of_refund hLedgers hWritten (hTogether tx hTx) hChange hTx hOwner hRefund hRows

/-- What reopens a transaction writes no refund. -/
theorem Reopens.no_refund {call : Call} {refund : PaymentRefund} {other : PaymentTransaction}
    (h : Reopens config db env call tx) : ¬ RefundChange config db env call refund other := by
  intro hChange
  have hEvent {input : HandleWebhookInput} {params : SyncRefundFromWebhookParams}
      (hReported : input.ReportsRefund config params) : input.parsedPayload.event.isSuccess = false ∧
        input.parsedPayload.event ≠ .paymentFailed := by
    rcases hReported.refund with hEvent | hEvent <;> rw [hEvent] <;> decide
  have hCase : (∃ input params, call = .handleWebhook input ∧ input.ReportsRefund config params) ∨
      ∃ input, call = .processOrderRefund input := by
    cases hChange with
    | requested hAccepted hAnswer => exact Or.inr ⟨_, rfl⟩
    | synced hReported hKnown hRow => exact Or.inl ⟨_, _, rfl, hReported⟩
    | recorded hReported hUnknown hPayment hRow => exact Or.inl ⟨_, _, rfl, hReported⟩
  rcases hCase with ⟨input, params, rfl, hReported⟩ | ⟨input, rfl⟩
  · obtain ⟨hNotSuccess, hNotFailure⟩ := hEvent hReported
    cases h with
    | captured hCaptures hFree =>
        cases hCaptures with
        | webhook hSuccess hFood => exact absurd (hSuccess.success.symm.trans hNotSuccess) nofun
    | failed hFailure => exact hNotFailure hFailure.failure
    | activated hActivates hPlanId hPlan hFree hReady =>
        cases hActivates with
        | webhook hSuccess hPlain => exact absurd (hSuccess.success.symm.trans hNotSuccess) nofun
  · cases h with
    | captured hCaptures hFree => cases hCaptures
    | activated hActivates hPlanId hPlan hFree hReady => cases hActivates

theorem serve_refunds_of_reopens (hLinked : world.db.RefundsLinked)
    (h : Reopens config world.db request.env request.call tx) :
    (serve config world request).db.refunds = world.db.refunds := by
  obtain ⟨writes, hEffect, hStore⟩ := @serve_effect config world hLinked request
  rw [hStore]
  rcases world.db.store_cases writes with ⟨_, hSame⟩ | ⟨written, hWritten, hStored⟩
  · rw [hSame]
  rw [hStored]
  rcases hEffect.refunds with hNone | ⟨refund, other, hChange, _⟩
  · have hTable := (Database.written_of_writeAll hWritten).refunds
    rw [hNone] at hTable
    exact (Option.some.inj hTable).symm
  · exact absurd hChange h.no_refund

/-- What agreement after a refund event says about the refunds before it. -/
theorem agrees_of_settlement {row : PaymentRefund} {status : RefundStatus} {now : Instant}
    (hStatus : status = .processed ∨ status = .failed) (hTx : tx ∈ db.transactions.rows)
    (hFood : tx.orderId ≠ none) (hPut : ∃ table, db.refunds.put row = some table)
    (hAfter : (db.store (.refund row :: settlement db status tx now)).RefundsAgree) :
    (if status = .failed then tx else statusRow .refunded now tx).status = .refunded ↔
      db.livePaise tx.id - (db.refunds.get? row.id).elim 0 (PaymentRefund.livePaise tx.id) +
        row.livePaise tx.id = tx.amountPaise := by
  obtain ⟨hRefunds, hGet⟩ := @settlement_next db tx row status now hStatus hTx hPut
  have hAgree := hAfter _ (Table.get?_eq_some.mp hGet).1
  rw [← livePaise_put hRefunds]
  by_cases hFailed : status = .failed
  · rw [if_pos hFailed] at hAgree ⊢
    exact hAgree hFood
  · rw [if_neg hFailed] at hAgree ⊢
    exact hAgree hFood

/-- The same for a webhook about a known refund, whose part in the sum it replaces. -/
theorem agrees_of_synced {input : HandleWebhookInput} {params : SyncRefundFromWebhookParams} {refund : PaymentRefund}
    (hReported : input.ReportsRefund config params)
    (hKnown : world.db.findRefund params.razorpayRefundId = some refund)
    (hRow : world.db.findTransaction (.id refund.paymentTransactionId) = some tx) (hFood : tx.orderId ≠ none)
    (hAfter : (serve config world { call := .handleWebhook input, env }).db.RefundsAgree) :
    (if params.status = .failed then tx else statusRow .refunded env.now tx).status = .refunded ↔
      world.db.livePaise tx.id - refund.livePaise tx.id + (syncedRefund params env.now refund).livePaise tx.id =
        tx.amountPaise := by
  have hMem := (Table.lookup_mem hKnown).1
  have hOld : world.db.refunds.get? (syncedRefund params env.now refund).id = some refund := Table.get?_key hMem
  rw [serve_refundSynced hReported hKnown hRow] at hAfter
  have hAgree := agrees_of_settlement hReported.status (Database.findTransaction_mem hRow) hFood
    (exists_put_synced hMem params env.now) hAfter
  rwa [hOld] at hAgree

/-- Calls after which status and refunds agree set nothing apart. -/
theorem keepsTogether_of_next (hLinked : world.db.RefundsLinked) (hLedgers : world.db.Ledgers)
    (hAfter : (serve config world request).db.RefundsAgree) : KeepsTogether config world request := by
  intro tx hTx hFood hApart
  have hLedger := hLedgers tx hTx hFood
  have hOutstanding := hLedger.outstanding
  obtain ⟨call, env⟩ := request
  cases hApart with
  | reopened hStatus hReopens =>
      obtain ⟨row, hChange, hOpen⟩ := hReopens.change hStatus
      have hSame := hChange.samePayment
      have hGet := serve_of_change hTx hChange tx.id
      rw [if_pos rfl] at hGet
      have hAgree := hAfter row (Table.get?_eq_some.mp hGet).1 (hSame.orderId ▸ hFood)
      have hSum : (serve config world { call, env }).db.livePaise row.id = world.db.livePaise tx.id := by
        unfold Database.livePaise
        rw [@serve_refunds_of_reopens config world tx { call, env } hLinked hReopens, hSame.id]
      rw [hSum, hSame.amountPaise] at hAgree
      exact hOpen (hAgree.mpr (hLedger.closed hStatus))
  | @recovered input params refund _ hReported hProcessed hKnown hRow hFailed hAmount =>
      have hOwner : refund.paymentTransactionId = tx.id := (Table.get?_eq_some.mp hRow).2.symm
      have hLive : params.status ≠ .failed := by
        rw [hProcessed]
        decide
      have hWorth : (syncedRefund params env.now refund).livePaise tx.id = refund.amountPaise :=
        PaymentRefund.livePaise_of_live hOwner hLive
      have hAgree := agrees_of_synced hReported hKnown hRow hFood hAfter
      rw [hWorth, if_neg hLive, PaymentRefund.livePaise_of_failed tx.id hFailed] at hAgree
      have hSum : world.db.livePaise tx.id - 0 + refund.amountPaise = tx.amountPaise := hAgree.mp rfl
      omega
  | @recorded input params razorpayPaymentId _ hReported hProcessed hUnknown hPayment hRow hFits hAmount =>
      have hFresh : world.db.refunds.get? (world.db.refundRow env (reportedRefund params tx env.now)).id = none :=
        Table.get?_freshKey
      have hLive : params.status ≠ .failed := by
        rw [hProcessed]
        decide
      have hWorth : (world.db.refundRow env (reportedRefund params tx env.now)).livePaise tx.id =
          params.amountPaise.getD tx.amountPaise := PaymentRefund.livePaise_of_live rfl hLive
      rw [serve_refundRecorded hReported hUnknown hPayment hRow] at hAfter
      have hAgree := agrees_of_settlement (Or.inl hProcessed) hTx hFood
        ((exists_put_refund (reportedRefund params tx env.now)).mpr ⟨hFits, hUnknown⟩) hAfter
      rw [hFresh, hWorth, if_neg hLive] at hAgree
      have hSum : world.db.livePaise tx.id - 0 + params.amountPaise.getD tx.amountPaise = tx.amountPaise :=
        hAgree.mp rfl
      omega
  | @withdrawn input params refund _ hReported hFailed hKnown hRow hLive =>
      have hMem := (Table.lookup_mem hKnown).1
      have hOwner : refund.paymentTransactionId = tx.id := (Table.get?_eq_some.mp hRow).2.symm
      have hWorth : (syncedRefund params env.now refund).livePaise tx.id = 0 :=
        PaymentRefund.livePaise_of_failed tx.id hFailed
      have hClosed : tx.status = .refunded := by
        by_contra hOpen
        exact hLive (hLedger.idle hOpen refund hMem hOwner)
      have hPaid := hLedger.closed hClosed
      have hAgree := agrees_of_synced hReported hKnown hRow hFood hAfter
      rw [hWorth, if_pos hFailed] at hAgree
      have hSum : world.db.livePaise tx.id - refund.livePaise tx.id + 0 = tx.amountPaise := hAgree.mp hClosed
      have hPositive := Database.refund_positive hMem
      rw [PaymentRefund.livePaise_of_live hOwner hLive] at hSum
      omega

end Step

/-- Status and refunds of every food order agree in exactly those runs in which
no call sets them apart. -/
theorem refundsAgree_iff (config : Config) (plans : Table SubscriptionPlan) (requests : List Request) :
    Always (serve config) (World.initial plans) requests (fun world => world.db.RefundsAgree) ↔
      EveryStep (serve config) (World.initial plans) requests (KeepsTogether config) :=
  always_iff_everyStep (fun world : World => world.db.RefundsLinked ∧ world.db.Ledgers)
    (fun _ h tx hTx hFood => (h.2 tx hTx hFood).agrees)
    (fun _ request h hTogether => ⟨serve_refundsLinked request h.1, ledgers_step h.1 h.2 hTogether⟩)
    (fun _ _ h hAfter => keepsTogether_of_next h.1 h.2 hAfter) requests
    ⟨refundsLinked_initial plans, fun _ hTx => absurd hTx List.not_mem_nil⟩

/-- An order is paid, its refund is accepted as pending, and then it fails. -/
def failedRefund : List Request :=
  [Sample.createOrderPayment 1000 7 50000 Sample.price_pos "order_1",
    Sample.verifyOrderPayment 2000 7 "order_1" "pay_1",
    Sample.processOrderRefund 3000 7 "rfnd_1" "pending",
    Sample.refundFailed 4000]

/-- The payment stays REFUNDED without any refund that counts. -/
theorem refundsAgree_fails :
    ¬ ∀ config plans requests,
      Always (serve config) (World.initial plans) requests fun world => world.db.RefundsAgree := by
  intro h
  have hAgree := h Sample.config Table.empty failedRefund failedRefund List.prefix_rfl
  unfold Database.RefundsAgree at hAgree
  exact absurd hAgree (by decide)

end SpotqPayment
