import SpotqPayment.System.CommittedCalls

/-! The transactional outbox is complete: whatever calls run at the same time and
wherever they end, no order is CAPTURED or FAILED, and no subscription opened or
EXPIRED, without the event that says so. -/
namespace SpotqPayment

open Process Transition Engine ReadCommitted

/-- Every announced state has its event in the outbox. -/
structure Database.Announced (db : Database) : Prop where
  captured : ∀ tx ∈ db.transactions.rows, ∀ orderId, tx.orderId = some orderId → tx.status = .captured →
    ∃ event ∈ db.outbox.rows, event.data.AnnouncesCapture tx orderId
  failed : ∀ tx ∈ db.transactions.rows, ∀ orderId, tx.orderId = some orderId → tx.status = .failed →
    ∃ event ∈ db.outbox.rows, event.data.AnnouncesFailure tx orderId
  activated : ∀ subscription ∈ db.subscriptions.rows,
    ∃ event ∈ db.outbox.rows, event.data.AnnouncesActivation subscription.id
  expired : ∀ subscription ∈ db.subscriptions.rows, subscription.status = .expired →
    ∃ event ∈ db.outbox.rows, event.data.AnnouncesExpiry subscription.id

theorem announced_initial (plans : Table SubscriptionPlan) : (Database.initial plans).Announced where
  captured := fun _ hTx => absurd hTx List.not_mem_nil
  failed := fun _ hTx => absurd hTx List.not_mem_nil
  activated := fun _ hRow => absurd hRow List.not_mem_nil
  expired := fun _ hRow => absurd hRow List.not_mem_nil

namespace Commit

variable {commitment : Commitment} {db after : Database} {writes : List Write}

/-- What a transaction has promised is announced after its commit. -/
theorem announced_of_promised (h : Commit commitment db writes) (hWritten : db.Written writes after)
    (hFulfilled : commitment.Fulfilled writes) {Announces : CreateOutboxEventInput → Prop}
    (hPromised : ∃ data, commitment.announced data ∧ Announces data) :
    ∃ event ∈ after.outbox.rows, Announces event.data := by
  obtain ⟨data, hData, hAnnounces⟩ := hPromised
  obtain ⟨event, hEvent, rfl⟩ := hFulfilled data hData
  exact ⟨event, h.event_stored hWritten hEvent, hAnnounces⟩

/-- A transaction that has kept its status has a stored predecessor of the same order. -/
theorem kept_of_status (h : Commit commitment db writes) (hWritten : db.Written writes after)
    {row : PaymentTransaction} (hRow : row ∈ after.transactions.rows)
    (hStatus : db.statusOf row.id = some row.status) :
    ∃ old ∈ db.transactions.rows, row.SameOrder old ∧ old.status = row.status := by
  obtain ⟨old, hOld, hSame⟩ := statusOf_eq_some.mp hStatus
  exact ⟨old, (Table.get?_eq_some.mp hOld).1, (h.view_row hWritten hRow).identity old hOld, hSame⟩

/-- A commit announces what it changes. -/
theorem announced (h : Commit commitment db writes) (hWritten : db.Written writes after)
    (hFulfilled : commitment.Fulfilled writes) (hBefore : db.Announced) : after.Announced where
  captured := by
    intro row hRow orderId hOrder hStatus
    cases (h.view_row hWritten hRow).status with
    | kept hKept =>
        obtain ⟨old, hOld, hSame, hOldStatus⟩ := h.kept_of_status hWritten hRow hKept
        obtain ⟨event, hEvent, hAnnounces⟩ := hBefore.captured old hOld orderId
          (hSame.orderId.symm.trans hOrder) (hOldStatus.trans hStatus)
        exact ⟨event, h.event_kept hWritten hEvent, hAnnounces.sameOrder hSame⟩
    | captured _ _ hPromised =>
        exact h.announced_of_promised hWritten hFulfilled (hPromised orderId hOrder)
    | created hOther => cases hOther.symm.trans hStatus
    | failed hOther => cases hOther.symm.trans hStatus
    | refunded hOther => cases hOther.symm.trans hStatus
    | success hOther => cases hOther.symm.trans hStatus
  failed := by
    intro row hRow orderId hOrder hStatus
    cases (h.view_row hWritten hRow).status with
    | kept hKept =>
        obtain ⟨old, hOld, hSame, hOldStatus⟩ := h.kept_of_status hWritten hRow hKept
        obtain ⟨event, hEvent, hAnnounces⟩ := hBefore.failed old hOld orderId
          (hSame.orderId.symm.trans hOrder) (hOldStatus.trans hStatus)
        exact ⟨event, h.event_kept hWritten hEvent, hAnnounces.sameOrder hSame⟩
    | failed _ hPromised =>
        exact h.announced_of_promised hWritten hFulfilled (hPromised orderId hOrder)
    | created hOther => cases hOther.symm.trans hStatus
    | captured hOther => cases hOther.symm.trans hStatus
    | refunded hOther => cases hOther.symm.trans hStatus
    | success hOther => cases hOther.symm.trans hStatus
  activated := by
    intro row hRow
    rcases Table.mem_of_putAll hWritten.subscriptions hRow with hOld | hNew
    · obtain ⟨event, hEvent, hAnnounces⟩ := hBefore.activated row hOld
      exact ⟨event, h.event_kept hWritten hEvent, hAnnounces⟩
    · cases h.subscriptions row (mem_subscriptions.mp hNew) with
      | opened _ hPromised =>
          exact h.announced_of_promised hWritten hFulfilled hPromised
      | expired hOld _ =>
          obtain ⟨old, hGet⟩ := hOld
          obtain ⟨hMem, hId⟩ := Table.get?_eq_some.mp hGet
          obtain ⟨event, hEvent, hAnnounces⟩ := hBefore.activated old hMem
          have hSame : old.id = row.id := hId
          rw [hSame] at hAnnounces
          exact ⟨event, h.event_kept hWritten hEvent, hAnnounces⟩
  expired := by
    intro row hRow hStatus
    rcases Table.mem_of_putAll hWritten.subscriptions hRow with hOld | hNew
    · obtain ⟨event, hEvent, hAnnounces⟩ := hBefore.expired row hOld hStatus
      exact ⟨event, h.event_kept hWritten hEvent, hAnnounces⟩
    · cases h.subscriptions row (mem_subscriptions.mp hNew) with
      | opened hActive _ => cases hActive.symm.trans hStatus
      | expired _ hPromised =>
          exact h.announced_of_promised hWritten hFulfilled hPromised

end Commit

/-- From empty tables, in every state of every run of all calls, interleaved at
every await and ended by aborts and crashes anywhere, the outbox is complete. -/
theorem announced_always (config : Config) (plans : Table SubscriptionPlan)
    (moves : List (Move (RequestOf fun _ => True) (Event Env ServiceError))) :
    Always (isolate config) (World.initial plans).quiet moves fun sessions => sessions.shared.db.Announced :=
  always_of_commits Database.Announced
    (fun _ _ _ _ hCommit hFulfilled hWritten hBefore => hCommit.announced hWritten hFulfilled hBefore)
    (announced_initial plans) moves

end SpotqPayment
