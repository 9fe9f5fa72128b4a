import SpotqPayment.Infrastructure.Redis
import SpotqPayment.Library.Pool
import SpotqPayment.Library.Run

/-! The lock in Redis is exclusive as long as nobody releases it late. A release
deletes the key whoever has set it, so that a caller whose time has run out frees
the lock of its successor. -/
namespace SpotqPayment

open Transition

/-- A positive number of seconds, since Redis refuses to expire a key at once. -/
structure LockRequest where
  ttlSeconds : Nat
  ttlSeconds_pos : 0 < ttlSeconds

/-- Where a caller stands that acquires the lock and releases it later, if it has got it. -/
inductive LockCaller where
  | acquiring (request : LockRequest)
  | holding (expiresAt : Int)
  | refused
  | released

/-- The caller has acquired the lock, has not released it, and its time has not run out. -/
def LockCaller.InForce (now : Int) : LockCaller → Prop
  | .holding expiresAt => now < expiresAt
  | _ => False

instance (now : Int) : (caller : LockCaller) → Decidable (caller.InForce now)
  | .acquiring _ => instDecidableFalse
  | .holding expiresAt => inferInstanceAs (Decidable (now < expiresAt))
  | .refused => instDecidableFalse
  | .released => instDecidableFalse

/-- The next command of a caller, with Redis reachable. -/
def LockCaller.step (key : String) (caller : LockCaller) (redis : Redis) : Redis × LockCaller :=
  match caller with
  | .acquiring request =>
      match RedisService.acquireLock true redis key request.ttlSeconds with
      | (true, after) => (after, .holding (redis.expiry request.ttlSeconds))
      | (false, after) => (after, .refused)
  | .holding _ => (RedisService.releaseLock true redis key, .released)
  | .refused => (redis, .refused)
  | .released => (redis, .released)

abbrev LockUse := Pool Redis LockCaller

/-- A caller arrives, a caller takes its next step, or time passes. -/
inductive LockMove where
  | caller (move : Move LockRequest Unit)
  | elapse (milliseconds : Nat)

def LockUse.next (key : String) (use : LockUse) : LockMove → LockUse
  | .caller move => Pool.next .acquiring (fun _ _ => LockCaller.step key) use move
  | .elapse milliseconds => { use with shared := use.shared.elapse milliseconds }

/-- While a lock is in force, nobody else acquires it. -/
def LockExclusive (key : String) (use : LockUse) : Prop :=
  ∀ caller ∈ use.threads, caller.InForce use.shared.now → ∀ request : LockRequest,
    (RedisService.acquireLock true use.shared key request.ttlSeconds).1 = false

/-- No caller releases the lock late, at a time at which another one has it. -/
def ReleasesInTime (use : LockUse) : LockMove → Prop
  | .caller (.advance index ()) => ∀ expiresAt, use.threads[index]? = some (.holding expiresAt) →
      use.shared.now < expiresAt ∨ ∀ caller ∈ use.threads, ¬ caller.InForce use.shared.now
  | _ => True

/-- Whoever has the lock in force is alone with it, and Redis knows it. -/
structure LockUse.Consistent (key : String) (use : LockUse) : Prop where
  stored : ∀ expiresAt, .holding expiresAt ∈ use.threads → use.shared.now < expiresAt →
    use.shared.entries key = some { value := "locked", expiresAt := some expiresAt }
  alone : use.threads.Pairwise fun first second =>
    ¬ (first.InForce use.shared.now ∧ second.InForce use.shared.now)

variable {key : String} {use : LockUse}

theorem LockUse.next_advance {index : Nat} {choice : Unit} {caller : LockCaller}
    (hCaller : use.threads[index]? = some caller) :
    use.next key (.caller (.advance index choice)) =
      { shared := (caller.step key use.shared).1, threads := use.threads.set index (caller.step key use.shared).2 } := by
  rw [next, Pool.next_advance hCaller]

theorem LockUse.next_missing {index : Nat} {choice : Unit} (hCaller : use.threads[index]? = none) :
    use.next key (.caller (.advance index choice)) = use := by
  rw [next, Pool.next_missing hCaller]

theorem LockRequest.ttlSeconds_ne_zero (request : LockRequest) : request.ttlSeconds ≠ 0 :=
  Nat.ne_of_gt request.ttlSeconds_pos

theorem LockCaller.inForce_iff {caller : LockCaller} {now : Int} :
    caller.InForce now ↔ ∃ expiresAt, caller = .holding expiresAt ∧ now < expiresAt := by
  cases caller with
  | holding expiresAt =>
      refine ⟨fun hLive => ⟨expiresAt, rfl, hLive⟩, ?_⟩
      rintro ⟨_, hSame, hLive⟩
      cases hSame
      exact hLive
  | acquiring request => exact ⟨False.elim, nofun⟩
  | refused => exact ⟨False.elim, nofun⟩
  | released => exact ⟨False.elim, nofun⟩

namespace LockUse.Consistent

theorem found (h : use.Consistent key) {caller : LockCaller} (hCaller : caller ∈ use.threads)
    (hForce : caller.InForce use.shared.now) : use.shared.find? key ≠ none := by
  obtain ⟨expiresAt, rfl, hLive⟩ := LockCaller.inForce_iff.mp hForce
  have hFound : use.shared.find? key = some { value := "locked", expiresAt := some expiresAt } := by
    refine ExpiringStore.find?_eq_some.mpr ⟨h.stored expiresAt hCaller hLive, fun expiry hExpiry => ?_⟩
    cases hExpiry
    exact hLive
  rw [hFound]
  exact Option.some_ne_none _

theorem exclusive (h : use.Consistent key) : LockExclusive key use := by
  intro caller hCaller hForce request
  rw [RedisService.acquireLock_taken request.ttlSeconds_ne_zero (h.found hCaller hForce)]

/-- A state in which no lock is in force. -/
theorem of_free (hFree : ∀ caller ∈ use.threads, ¬ caller.InForce use.shared.now) : use.Consistent key where
  stored := fun expiresAt hCaller hLive => absurd hLive (hFree _ hCaller)
  alone := by
    refine List.Pairwise.imp_of_mem ?_ (List.pairwise_of_forall fun _ _ => trivial)
    exact fun hFirst _ _ hBoth => hFree _ hFirst hBoth.1

/-- A caller that has no lock after its step, and has not touched Redis. -/
theorem quiet (h : use.Consistent key) (index : Nat) {after : LockCaller} (hAfter : ∀ now, ¬ after.InForce now) :
    LockUse.Consistent key { use with threads := use.threads.set index after } where
  stored := by
    intro expiresAt hCaller hLive
    rcases List.mem_or_eq_of_mem_set hCaller with hOld | hNew
    · exact h.stored expiresAt hOld hLive
    · rw [← hNew] at hAfter
      exact absurd hLive (hAfter use.shared.now)
  alone := by
    refine Pool.pairwise_set (fun _ _ hApart hBoth => hApart hBoth.symm) h.alone fun _ _ hBoth => ?_
    exact hAfter use.shared.now hBoth.1

/-- A caller that finds the key free gets the lock. -/
theorem acquired (h : use.Consistent key) (index : Nat) (request : LockRequest)
    (hFree : use.shared.find? key = none) : LockUse.Consistent key {
      shared := use.shared.put key { value := "locked", expiresAt := some (use.shared.expiry request.ttlSeconds) }
      threads := use.threads.set index (.holding (use.shared.expiry request.ttlSeconds)) } := by
  have hNobody : ∀ caller ∈ use.threads, ¬ caller.InForce use.shared.now := fun caller hCaller hForce =>
    h.found hCaller hForce hFree
  refine ⟨fun expiresAt hCaller hLive => ?_, ?_⟩
  · rcases List.mem_or_eq_of_mem_set hCaller with hOld | hNew
    · exact absurd hLive (hNobody _ hOld)
    · cases hNew
      exact ExpiringStore.entries_put.trans (if_pos rfl)
  · refine Pool.pairwise_set (fun _ _ hApart hBoth => hApart hBoth.symm) h.alone fun other hOther hBoth => ?_
    exact hNobody other (List.mem_of_mem_eraseIdx hOther) hBoth.2

/-- A release in time leaves nobody with a lock in force. -/
theorem free_of_release (h : use.Consistent key) {index : Nat} {expiresAt : Int}
    (hCaller : use.threads[index]? = some (.holding expiresAt))
    (hInTime : use.shared.now < expiresAt ∨ ∀ caller ∈ use.threads, ¬ caller.InForce use.shared.now) :
    ∀ caller ∈ use.threads.set index .released, ¬ caller.InForce use.shared.now := by
  refine Pool.forall_mem_set (fun other hOther hForce => ?_) id
  rcases hInTime with hLive | hNobody
  · exact Pool.related_others (fun _ _ hApart hBoth => hApart hBoth.symm) h.alone hCaller other hOther
      ⟨hLive, hForce⟩
  · exact hNobody other (List.mem_of_mem_eraseIdx hOther) hForce

/-- Moves that release nothing late keep the locks consistent. -/
theorem next (h : use.Consistent key) {move : LockMove} (hInTime : ReleasesInTime use move) :
    (use.next key move).Consistent key := by
  cases move with
  | elapse milliseconds =>
      have hEarlier : ∀ caller : LockCaller, caller.InForce (use.shared.now + milliseconds) →
          caller.InForce use.shared.now := by
        intro caller hForce
        obtain ⟨expiresAt, rfl, hLive⟩ := LockCaller.inForce_iff.mp hForce
        show use.shared.now < expiresAt
        omega
      refine ⟨fun expiresAt hCaller hLive => ?_, h.alone.imp fun hApart hBoth => ?_⟩
      · exact h.stored expiresAt hCaller (hEarlier (.holding expiresAt) hLive)
      · exact hApart ⟨hEarlier _ hBoth.1, hEarlier _ hBoth.2⟩
  | caller move =>
      cases move with
      | start request =>
          refine ⟨fun expiresAt hCaller hLive => ?_, ?_⟩
          · rcases List.mem_append.mp hCaller with hOld | hNew
            · exact h.stored expiresAt hOld hLive
            · cases List.mem_singleton.mp hNew
          · refine List.pairwise_append.mpr ⟨h.alone, List.pairwise_singleton _ _, fun caller _ other hOther => ?_⟩
            rw [List.mem_singleton.mp hOther]
            exact fun hBoth => hBoth.2
      | advance index choice =>
          cases hCaller : use.threads[index]? with
          | none =>
              rw [next_missing hCaller]
              exact h
          | some caller =>
              rw [next_advance hCaller]
              cases caller with
              | acquiring request =>
                  cases hFound : use.shared.find? key with
                  | none =>
                      simp only [LockCaller.step, RedisService.acquireLock_free request.ttlSeconds_ne_zero hFound]
                      exact h.acquired index request hFound
                  | some entry =>
                      have hTaken : use.shared.find? key ≠ none := by
                        rw [hFound]
                        exact Option.some_ne_none entry
                      simp only [LockCaller.step, RedisService.acquireLock_taken request.ttlSeconds_ne_zero hTaken]
                      exact h.quiet index fun _ => id
              | holding expiresAt => exact of_free (h.free_of_release hCaller (hInTime expiresAt hCaller))
              | refused => exact h.quiet index fun _ => id
              | released => exact h.quiet index fun _ => id

end LockUse.Consistent

/-- A late release frees the lock of another caller. -/
theorem releasesInTime_of_exclusive {move : LockMove} (hExclusive : LockExclusive key (use.next key move)) :
    ReleasesInTime use move := by
  cases move with
  | elapse milliseconds => trivial
  | caller move =>
      cases move with
      | start request => trivial
      | advance index choice =>
          intro expiresAt hCaller
          refine or_iff_not_imp_left.mpr fun hLate other hMem hForce => ?_
          have hOther : other ≠ .holding expiresAt := by
            rintro rfl
            exact hLate hForce
          rw [LockUse.next_advance hCaller] at hExclusive
          have hRefused : (RedisService.acquireLock true (use.shared.delete key) key 1).1 = false :=
            hExclusive other (Pool.mem_set_of_ne hCaller hMem hOther) hForce { ttlSeconds := 1, ttlSeconds_pos := Nat.one_pos }
          rw [RedisService.acquireLock_free Nat.one_ne_zero ExpiringStore.find?_delete_self] at hRefused
          cases hRefused

/-- For any number of callers and delays, a lock in force is exclusive in exactly
those runs in which nobody releases late while another caller has the lock. -/
theorem lockExclusive_iff (key : String) (redis : Redis) (moves : List LockMove) :
    Always (LockUse.next key) { shared := redis, threads := [] } moves (LockExclusive key) ↔
      EveryStep (LockUse.next key) { shared := redis, threads := [] } moves ReleasesInTime :=
  always_iff_everyStep (LockUse.Consistent key) (fun _ h => h.exclusive) (fun _ _ h hInTime => h.next hInTime)
    (fun _ _ _ hExclusive => releasesInTime_of_exclusive hExclusive) moves
    (LockUse.Consistent.of_free fun _ hCaller => absurd hCaller List.not_mem_nil)

namespace Sample

def lockRequest : LockRequest where
  ttlSeconds := 10
  ttlSeconds_pos := by decide

/-- The lock of a first caller runs out, a second one acquires it, and then the
first one releases it. -/
def lateRelease : List LockMove :=
  [.caller (.start lockRequest), .caller (.start lockRequest), .caller (.advance 0 ()), .elapse 10000,
    .caller (.advance 1 ()), .caller (.advance 0 ())]

end Sample

/-- A third caller can acquire the lock while the second one has it. -/
theorem lockExclusive_fails :
    ¬ ∀ key redis moves,
      Always (LockUse.next key) { shared := redis, threads := [] } moves (LockExclusive key) := by
  intro h
  have hExclusive := h "lock:outbox-relay" ExpiringStore.empty Sample.lateRelease Sample.lateRelease List.prefix_rfl
  have hRefused := hExclusive (.holding 20000) (List.mem_of_getElem? (i := 1) rfl) (by decide) Sample.lockRequest
  exact absurd hRefused (by decide)

end SpotqPayment
