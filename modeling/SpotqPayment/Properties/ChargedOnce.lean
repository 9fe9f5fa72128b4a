import SpotqPayment.System.Invariants

/-! A food order is charged once as long as no payment is reported for one of its
transactions after another one was captured. Opening a payment looks at the
newest transaction of the order only and leaves older gateway orders payable. -/
namespace SpotqPayment

open Transition PaymentTransactionRepository

/-- Of the transactions of a food order at most one is CAPTURED. -/
def Database.ChargedOnce (db : Database) : Prop :=
  ∀ orderId, ∀ first ∈ db.transactions.rows, ∀ second ∈ db.transactions.rows,
    first.orderId = some orderId → second.orderId = some orderId →
      first.status = .captured → second.status = .captured → first.id = second.id

/-- The call captures no transaction of an order that another transaction has
been captured for. -/
def ChargesOnce (config : Config) (world : World) (request : Request) : Prop :=
  ∀ tx params event, Captures config world.db request.env.now request.call tx params event →
    tx.Capturable → world.db.PaymentIdFree tx (params.paymentId.or tx.razorpayPaymentId) →
      ∀ other ∈ world.db.transactions.rows, other.orderId = tx.orderId →
        other.status = .captured → other.id = tx.id

variable {config : Config} {db : Database} {env : Env} {world : World} {tx : PaymentTransaction}

/-- Only captures lead to CAPTURED. -/
theorem Change.captured_cases {call : Call} {row : PaymentTransaction}
    (h : Change config db env call tx row) (hStatus : row.status = .captured) :
    ∃ params event, Captures config db env.now call tx params event ∧ tx.Capturable ∧
      db.PaymentIdFree tx (params.paymentId.or tx.razorpayPaymentId) ∧
        row = capturedRow (tx.captureFields params env.now) tx := by
  cases h with
  | captured hCaptures hOpen hFree => exact ⟨_, _, hCaptures, hOpen, hFree, rfl⟩
  | @failed _ entity _ _ hReported hFood hOpen =>
      have hRow : (tx.markFailed entity.failureReason env.now).status = .captured := hStatus
      rw [PaymentTransaction.markFailed, if_neg (by tauto)] at hRow
      cases hRow
  | markedFailed hReported hPlain hOpen => cases hStatus
  | activated hActivates hOpen hFree hReady =>
      rw [activatedRow_status] at hStatus
      cases hStatus
  | refunded hAccepted hAnswer hFresh => cases hStatus
  | settled hReported hProcessed hRefund => cases hStatus
  | reset hAccepted hPending hFailed => cases hStatus

/-- A call reports the payment of one transaction. -/
theorem Captures.unique {call : Call} {now : Instant} {other : PaymentTransaction}
    {params params' : CaptureParams} {event event' : CreateOutboxEventInput}
    (hFirst : Captures config db now call tx params event)
    (hSecond : Captures config db now call other params' event') : tx = other := by
  cases hFirst with
  | verify hAccepted =>
      cases hSecond with
      | verify hOther => exact Option.some.inj (hAccepted.found.symm.trans hOther.found)
  | webhook hReported hFood =>
      cases hSecond with
      | webhook hOther hOtherFood =>
          obtain ⟨orderId, hOrder, hFound⟩ := hReported.found
          obtain ⟨otherId, hOtherOrder, hOtherFound⟩ := hOther.found
          cases hOrder.symm.trans hOtherOrder
          exact Option.some.inj (hFound.symm.trans hOtherFound)

/-- A captured transaction was captured before the call or by it. -/
theorem captured_before {call : Call} {after : Database} (hOutcome : Outcome config db env call after)
    {row : PaymentTransaction} (hRow : row ∈ after.transactions.rows) (hStatus : row.status = .captured) :
    row ∈ db.transactions.rows ∨ ∃ tx ∈ db.transactions.rows, Change config db env call tx row := by
  rcases hOutcome.origin hRow with hOld | ⟨data, _, rfl⟩ | ⟨tx, hTx, hChange, _⟩
  · exact Or.inl hOld
  · cases hStatus
  · exact Or.inr ⟨tx, hTx, hChange⟩

/-- What a permitted capture means for the other transactions of the order. -/
theorem ChargesOnce.of_change {request : Request} {row other : PaymentTransaction}
    (hCharges : ChargesOnce config world request)
    (hChange : Change config world.db request.env request.call tx row) (hStatus : row.status = .captured)
    (hOther : other ∈ world.db.transactions.rows) (hOrder : other.orderId = row.orderId)
    (hCaptured : other.status = .captured) : other.id = row.id := by
  obtain ⟨params, event, hCaptures, hOpen, hFree, _⟩ := hChange.captured_cases hStatus
  have hSame := hChange.samePayment
  have hId := hCharges tx params event hCaptures hOpen hFree other hOther
    (hOrder.trans hSame.orderId) hCaptured
  exact hId.trans hSame.id.symm

theorem chargedOnce_step (hLinked : world.db.RefundsLinked) (hOnce : world.db.ChargedOnce)
    (request : Request) (hCharges : ChargesOnce config world request) :
    (serve config world request).db.ChargedOnce := by
  have hOutcome := @serve_outcome config world hLinked request
  intro orderId first hFirst second hSecond hFirstOrder hSecondOrder hFirstStatus hSecondStatus
  have hOrder : first.orderId = second.orderId := hFirstOrder.trans hSecondOrder.symm
  rcases captured_before hOutcome hFirst hFirstStatus with hOldFirst | ⟨tx, hTx, hChange⟩
  · rcases captured_before hOutcome hSecond hSecondStatus with hOldSecond | ⟨tx, hTx, hChange⟩
    · exact hOnce orderId first hOldFirst second hOldSecond hFirstOrder hSecondOrder hFirstStatus hSecondStatus
    · exact hCharges.of_change hChange hSecondStatus hOldFirst hOrder hFirstStatus
  · rcases captured_before hOutcome hSecond hSecondStatus with hOldSecond | ⟨other, hOther, hOtherChange⟩
    · exact (hCharges.of_change hChange hFirstStatus hOldSecond hOrder.symm hSecondStatus).symm
    · obtain ⟨_, _, hCaptures, _⟩ := hChange.captured_cases hFirstStatus
      obtain ⟨_, _, hOtherCaptures, _⟩ := hOtherChange.captured_cases hSecondStatus
      have hEq := hCaptures.unique hOtherCaptures
      subst hEq
      exact hChange.samePayment.id.trans hOtherChange.samePayment.id.symm

/-- A capture after which the order is charged once was permitted. -/
theorem chargesOnce_of_next (request : Request) (hAfter : (serve config world request).db.ChargedOnce) :
    ChargesOnce config world request := by
  intro tx params event hCaptures hOpen hFree other hOther hOrder hStatus
  by_contra hApart
  obtain ⟨orderId, hFood⟩ := hCaptures.food
  obtain ⟨row, hChange, hRowStatus⟩ : ∃ row,
      Change config world.db request.env request.call tx row ∧ row.status = .captured :=
    ⟨_, .captured hCaptures hOpen hFree, rfl⟩
  have hSame := hChange.samePayment
  have hGetTx := serve_of_change hCaptures.mem hChange tx.id
  have hGetOther := serve_of_change hCaptures.mem hChange other.id
  have hStored : world.db.transactions.get? other.id = some other := Table.get?_key hOther
  rw [if_pos rfl] at hGetTx
  rw [if_neg fun hId => hApart hId.symm, hStored] at hGetOther
  have hId := hAfter orderId other (Table.get?_eq_some.mp hGetOther).1 row (Table.get?_eq_some.mp hGetTx).1
    (hOrder.trans hFood) (hSame.orderId.trans hFood) hStatus hRowStatus
  exact hApart (hId.trans hSame.id)

/-- Every food order is charged at most once in exactly those runs in which no
payment is reported for a transaction of an order that was paid by another one. -/
theorem chargedOnce_iff (config : Config) (plans : Table SubscriptionPlan) (requests : List Request) :
    Always (serve config) (World.initial plans) requests (fun world => world.db.ChargedOnce) ↔
      EveryStep (serve config) (World.initial plans) requests (ChargesOnce config) :=
  always_iff_everyStep (fun world : World => world.db.RefundsLinked ∧ world.db.ChargedOnce) (fun _ h => h.2)
    (fun _ request h hCharges =>
      ⟨serve_refundsLinked request h.1, chargedOnce_step h.1 h.2 request hCharges⟩)
    (fun _ request _ hAfter => chargesOnce_of_next request hAfter) requests
    ⟨refundsLinked_initial plans, fun _ _ hFirst => absurd hFirst List.not_mem_nil⟩

/-- The amount of an order changes between two payment attempts, and both of the
gateway orders are paid. -/
def twoPayments : List Request :=
  [Sample.createOrderPayment 1000 7 50000 Sample.price_pos "order_1",
    Sample.createOrderPayment 2000 7 60000 Sample.dearerPrice_pos "order_2",
    Sample.verifyOrderPayment 3000 7 "order_1" "pay_1",
    Sample.verifyOrderPayment 4000 7 "order_2" "pay_2"]

theorem chargedOnce_fails :
    ¬ ∀ config plans requests,
      Always (serve config) (World.initial plans) requests fun world => world.db.ChargedOnce := by
  intro h
  have hOnce := h Sample.config Table.empty twoPayments twoPayments List.prefix_rfl 7
  exact absurd hOnce (by decide)

end SpotqPayment
