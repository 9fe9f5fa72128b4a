import SpotqPayment.System.CommittedCalls

/-! Nothing is paid without a signature of the gateway for that very order. What
the gateway has signed is a set of messages for each secret, and a caller can hand
in a signature that verifies only for one of these. -/
namespace SpotqPayment

open Process Transition Engine ReadCommitted

/-- The calls that an adversary can make: a signature verifies only for a message
that the gateway has signed, and the payload of a webhook is its parsed body. -/
structure Call.Genuine (config : Config) (signed : String → String → Prop)
    (parse : String → Option WebhookPayload) (call : Call) : Prop where
  checkout : ∀ orderId paymentId signature, call.checkout? = some (orderId, paymentId, signature) →
    RazorpayGateway.verifyPaymentSignature config orderId paymentId signature = true →
      signed config.keySecret (orderId ++ "|" ++ paymentId)
  webhook : ∀ input, call = .handleWebhook input →
    RazorpayGateway.verifyWebhookSignature config input.rawBody input.signature (webhookSecret config) = true →
      signed (webhookSecret config) input.rawBody
  parsed : ∀ input, call = .handleWebhook input → parse input.rawBody = some input.parsedPayload

/-- The gateway has signed the checkout of this payment of this order, and the
signed text is that of no other checkout. -/
structure SignedCheckout (config : Config) (signed : String → String → Prop) (orderId paymentId : String) : Prop where
  signed : signed config.keySecret (orderId ++ "|" ++ paymentId)
  only : '|' ∉ orderId.toList → ∀ otherOrder otherPayment, '|' ∉ otherOrder.toList →
    otherOrder ++ "|" ++ otherPayment = orderId ++ "|" ++ paymentId →
      otherOrder = orderId ∧ otherPayment = paymentId

/-- The gateway has signed a webhook that reports the payment of the order. -/
def SignedReport (config : Config) (signed : String → String → Prop) (parse : String → Option WebhookPayload)
    (orderId : String) : Prop :=
  ∃ body payload, signed (webhookSecret config) body ∧ parse body = some payload ∧
    payload.event.isSuccess = true ∧ payload.successOrderId = some orderId

/-- Every transaction that a step moves into CAPTURED or SUCCESS has been paid. -/
def PaidBySignature (config : Config) (signed : String → String → Prop) (parse : String → Option WebhookPayload)
    (before after : Database) : Prop :=
  ∀ tx ∈ after.transactions.rows, tx.status = .captured ∨ tx.status = .success →
    before.statusOf tx.id ≠ some tx.status →
      (∃ paymentId, tx.razorpayPaymentId = some paymentId ∧
        SignedCheckout config signed tx.razorpayOrderId paymentId) ∨
      SignedReport config signed parse tx.razorpayOrderId

variable {config : Config} {signed : String → String → Prop} {parse : String → Option WebhookPayload}

/-- The first separator ends the order, since no order contains it. -/
theorem checkout_injective {first second firstRest secondRest : List Char} {separator : Char}
    (hFirst : separator ∉ first) (hSecond : separator ∉ second)
    (h : first ++ separator :: firstRest = second ++ separator :: secondRest) :
    first = second ∧ firstRest = secondRest := by
  induction first generalizing second with
  | nil =>
      cases second with
      | nil => exact ⟨rfl, (List.cons.inj h).2⟩
      | cons head tail => exact absurd (List.cons.inj h).1 (List.ne_of_not_mem_cons hSecond)
  | cons head tail ih =>
      cases second with
      | nil => exact absurd (List.cons.inj h).1.symm (List.ne_of_not_mem_cons hFirst)
      | cons other rest =>
          obtain ⟨hSame, hRest⟩ := List.cons.inj h
          obtain ⟨hTails, hPayments⟩ := ih (List.not_mem_of_not_mem_cons hFirst)
            (List.not_mem_of_not_mem_cons hSecond) hRest
          exact ⟨List.cons_eq_cons.mpr ⟨hSame, hTails⟩, hPayments⟩

theorem signedCheckout_of_signed {orderId paymentId : String}
    (h : signed config.keySecret (orderId ++ "|" ++ paymentId)) : SignedCheckout config signed orderId paymentId where
  signed := h
  only := by
    intro hOrder otherOrder otherPayment hOther hSame
    have hChars : otherOrder.toList ++ '|' :: otherPayment.toList = orderId.toList ++ '|' :: paymentId.toList := by
      have hLists := congrArg String.toList hSame
      simpa using hLists
    obtain ⟨hOrders, hPayments⟩ := checkout_injective hOther hOrder hChars
    exact ⟨String.toList_inj.mp hOrders, String.toList_inj.mp hPayments⟩

/-- With a key secret there is always a secret for webhooks. -/
theorem webhookSecret_ne (hKey : config.keySecret ≠ "") : webhookSecret config ≠ "" := by
  unfold webhookSecret orElse
  cases hSecret : truthy config.webhookSecret with
  | none => exact hKey
  | some secret =>
      have hNonempty := (Option.filter_eq_some_iff.mp hSecret).2
      exact of_decide_eq_true hNonempty

/-- What the service takes as a payment has been signed. -/
theorem Paid.has_signature (hKey : config.keySecret ≠ "") {orderId : String} {stored : Option String}
    (h : Paid config (Call.Genuine config signed parse) orderId stored) :
    (∃ paymentId, stored = some paymentId ∧ SignedCheckout config signed orderId paymentId) ∨
      SignedReport config signed parse orderId := by
  cases h with
  | checkout hGenuine hCheckout hSignature hStored =>
      exact Or.inl ⟨_, hStored, signedCheckout_of_signed (hGenuine.checkout _ _ _ hCheckout hSignature)⟩
  | @webhook input hGenuine hAccepted hEvent hOrder =>
      have hVerified : RazorpayGateway.verifyWebhookSignature config input.rawBody input.signature
          (webhookSecret config) = true := by
        rcases Bool.or_eq_true_iff.mp hAccepted with hEmpty | hVerified
        · exact absurd (of_decide_eq_true hEmpty) (webhookSecret_ne hKey)
        · exact hVerified
      exact Or.inr ⟨_, _, hGenuine.webhook input rfl hVerified, hGenuine.parsed input rfl, hEvent, hOrder⟩

/-- In every run of all calls, with whatever bodies, signatures and ids they are
made, a step that pays an order has a signature for it. -/
theorem paidBySignature_everyStep (config : Config) (signed : String → String → Prop)
    (parse : String → Option WebhookPayload) (hKey : config.keySecret ≠ "") (world : World)
    (moves : List (Move (RequestOf (Call.Genuine config signed parse)) (Event Env ServiceError))) :
    EveryStep (isolate config) world.quiet moves fun sessions move =>
      PaidBySignature config signed parse sessions.shared.db (isolate config sessions move).shared.db := by
  intro past move _ tx hTx hPaid hMoved
  have hHolds := run_invariant (commitContract config (Call.Genuine config signed parse)).Holds
    (fun _ move h => commit_step h move) (holds_quiet world) past
  rcases step_commits hHolds move with hSame | ⟨announced, writes, hCommit, _, hWritten⟩
  · rw [hSame] at hTx
    exact absurd (statusOf_eq_some.mpr ⟨tx, Table.get?_key hTx, rfl⟩) hMoved
  · cases (hCommit.view_row hWritten hTx).status with
    | kept hKept => exact absurd hKept hMoved
    | captured _ hSigned => exact hSigned.has_signature hKey
    | success _ hSigned => exact hSigned.has_signature hKey
    | created hStatus =>
        rw [hStatus] at hPaid
        rcases hPaid with hOther | hOther <;> cases hOther
    | failed hStatus =>
        rw [hStatus] at hPaid
        rcases hPaid with hOther | hOther <;> cases hOther
    | refunded hStatus =>
        rw [hStatus] at hPaid
        rcases hPaid with hOther | hOther <;> cases hOther

namespace Sample

/-- The messages with a known digest are those that the gateway has signed. -/
def hasDigest (secret message : String) : Prop := (digests.lookup (secret, message)).isSome

instance (secret message : String) : Decidable (hasDigest secret message) :=
  inferInstanceAs (Decidable ((digests.lookup (secret, message)).isSome = true))

def parseBody (body : String) : Option WebhookPayload :=
  if body = capturedBody then some (paymentPayload .paymentCaptured "order_1" "pay_1") else none

theorem genuine_verification : (verifyOrderPayment 2000 7 "order_1" "pay_1").call.Genuine Sample.config hasDigest parseBody where
  checkout := by
    intro orderId paymentId signature hCheckout _
    cases hCheckout
    decide
  webhook := fun _ hInput => nomatch hInput
  parsed := fun _ hInput => nomatch hInput

theorem genuine_report : (captured 3000).call.Genuine Sample.config hasDigest parseBody where
  checkout := fun _ _ _ hCheckout => nomatch hCheckout
  webhook := by
    intro input hInput _
    cases hInput
    decide
  parsed := by
    intro input hInput
    cases hInput
    decide

/-- A food order is verified and then reported once more. -/
def verifiedAndReported : List (Move (RequestOf (Call.Genuine Sample.config hasDigest parseBody)) (Event Env ServiceError)) :=
  [.start ⟨verifyOrderPayment 2000 7 "order_1" "pay_1", genuine_verification⟩,
    .start ⟨captured 3000, genuine_report⟩] ++
    List.replicate 10 (.advance 0 (.proceed (env 2000))) ++ List.replicate 10 (.advance 1 (.proceed (env 3000)))

end Sample

theorem paidBySignature_verified :
    EveryStep (isolate Sample.config) Sample.openFoodOrder.quiet Sample.verifiedAndReported
      fun sessions move => PaidBySignature Sample.config Sample.hasDigest Sample.parseBody sessions.shared.db
        (isolate Sample.config sessions move).shared.db :=
  paidBySignature_everyStep Sample.config Sample.hasDigest Sample.parseBody (by decide) Sample.openFoodOrder
    Sample.verifiedAndReported

end SpotqPayment
