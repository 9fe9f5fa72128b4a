import SpotqPayment.Presentation.Idempotency
import SpotqPayment.Library.Pool
import SpotqPayment.Library.Run

/-! One idempotency key stands for one successful execution, as long as the lock is
only granted while no earlier request is at work, no answer is cached and none was
sent past the cache. The cache is read before the lock is taken, neither the handler
nor the cache write has to be over when the lock is released, and only `res.json`
writes the cache. -/
namespace SpotqPayment

open Process Transition

/-! What the requests of one key amount to: each of them has a status, and the cache
may hold the body of an answer. -/
namespace Execution

variable {Body : Type}

inductive Status (Body : Type) where
  | waiting
  | replayed (body : Body)
  | running
  | failed
  | writing (body : Body)
  | done (body : Body)
  | uncached (body : Body)

/-- The body of a successful execution. -/
def Status.executed? : Status Body → Option Body
  | .writing body => some body
  | .done body => some body
  | .uncached body => some body
  | _ => none

/-- The body of a successful answer, from the handler or from the cache. -/
def Status.received? : Status Body → Option Body
  | .replayed body => some body
  | status => status.executed?

/-- The handler is not at work, and a success has been cached. -/
def Status.Settled : Status Body → Prop
  | .running => False
  | .writing _ => False
  | .uncached _ => False
  | _ => True

/-- What a step of one request does to its status and to the cache. -/
inductive Step (cache : Option Body) : Status Body → Status Body → Option Body → Prop
  | same (status : Status Body) : Step cache status status cache
  | replay {body : Body} (hCache : cache = some body) : Step cache .waiting (.replayed body) cache
  | grant : Step cache .waiting .running cache
  | fail : Step cache .running .failed cache
  | succeed (body : Body) : Step cache .running (.writing body) cache
  | bypass (body : Body) : Step cache .running (.uncached body) cache
  | store (body : Body) : Step cache (.writing body) (.done body) (some body)

/-- At most one execution succeeds, and all successful answers have one body. -/
structure AtMostOne (statuses : List (Status Body)) : Prop where
  executed : statuses.Pairwise fun first second => first.executed? = none ∨ second.executed? = none
  received : ∀ first ∈ statuses, ∀ second ∈ statuses, ∀ body other,
    first.received? = some body → second.received? = some other → body = other

/-- At most one of two requests has been executed with success. -/
abbrev Apart (first second : Status Body) : Prop := first.executed? = none ∨ second.executed? = none

/-- How far the requests have come: nobody has succeeded and at most one handler is
at work; or one has succeeded and its answer is not cached, or not yet; or its answer
is cached. -/
inductive Phase : Option Body → List (Status Body) → Prop
  | unanswered {statuses : List (Status Body)}
      (hAll : ∀ status ∈ statuses, status = .waiting ∨ status = .running ∨ status = .failed)
      (hOne : statuses.Pairwise fun first second => first.Settled ∨ second.Settled) : Phase none statuses
  | answered {statuses : List (Status Body)} {body : Body}
      (hAll : ∀ status ∈ statuses,
        status = .waiting ∨ status = .failed ∨ status = .writing body ∨ status = .uncached body)
      (hOne : statuses.Pairwise Apart) (hMem : ∃ status ∈ statuses, ¬ status.Settled) : Phase none statuses
  | cached {statuses : List (Status Body)} {body : Body}
      (hAll : ∀ status ∈ statuses,
        status = .waiting ∨ status = .failed ∨ status = .done body ∨ status = .replayed body)
      (hOne : statuses.Pairwise Apart) : Phase (some body) statuses

variable {cache after : Option Body} {statuses : List (Status Body)} {status stepped : Status Body} {index : Nat}
variable {body : Body}

theorem apart_symm (first second : Status Body) (h : Apart first second) : Apart second first := h.symm

theorem settled_symm (first second : Status Body) (h : first.Settled ∨ second.Settled) :
    second.Settled ∨ first.Settled := h.symm

theorem AtMostOne.of_body (body : Body) (hOne : statuses.Pairwise Apart)
    (hBody : ∀ status ∈ statuses, ∀ other, status.received? = some other → other = body) : AtMostOne statuses where
  executed := hOne
  received := fun first hFirst second hSecond _ _ hReceived hOther =>
    (hBody first hFirst _ hReceived).trans (hBody second hSecond _ hOther).symm

theorem pairwise_of_unexecuted (h : ∀ status ∈ statuses, status.executed? = none) : statuses.Pairwise Apart :=
  List.Pairwise.imp_of_mem (fun hFirst _ _ => Or.inl (h _ hFirst)) (List.pairwise_of_forall fun _ _ => trivial)

theorem Phase.atMostOne (h : Phase cache statuses) : AtMostOne statuses := by
  cases h with
  | unanswered hAll _ =>
      refine ⟨pairwise_of_unexecuted fun status hStatus => ?_, fun first hFirst _ _ body _ hBody _ => ?_⟩
      · rcases hAll status hStatus with rfl | rfl | rfl <;> rfl
      · rcases hAll first hFirst with rfl | rfl | rfl <;> cases hBody
  | @answered _ body hAll hOne _ =>
      refine AtMostOne.of_body body hOne fun status hStatus other hOther => ?_
      rcases hAll status hStatus with rfl | rfl | rfl | rfl <;> cases hOther <;> rfl
  | @cached _ body hAll hOne =>
      refine AtMostOne.of_body body hOne fun status hStatus other hOther => ?_
      rcases hAll status hStatus with rfl | rfl | rfl | rfl <;> cases hOther <;> rfl

/-- While a handler is at work, nobody has succeeded and no other handler is at work. -/
theorem Phase.others_of_running (h : Phase cache statuses) (hStatus : statuses[index]? = some .running) :
    cache = none ∧ ∀ other ∈ statuses.eraseIdx index, other = .waiting ∨ other = .failed := by
  have hMem := List.mem_of_getElem? hStatus
  cases h with
  | unanswered hAll hOne =>
      refine ⟨rfl, fun other hOther => ?_⟩
      rcases hAll other (List.mem_of_mem_eraseIdx hOther) with hWaiting | rfl | hFailed
      · exact Or.inl hWaiting
      · rcases Pool.related_others settled_symm hOne hStatus _ hOther with hSettled | hSettled <;>
          exact absurd hSettled id
      · exact Or.inr hFailed
  | answered hAll _ _ => rcases hAll _ hMem with hOther | hOther | hOther | hOther <;> cases hOther
  | cached hAll _ => rcases hAll _ hMem with hOther | hOther | hOther | hOther <;> cases hOther

/-- While a cache write is under way, nobody else has succeeded. -/
theorem Phase.others_of_writing (h : Phase cache statuses) (hStatus : statuses[index]? = some (.writing body)) :
    ∀ other ∈ statuses.eraseIdx index, other = .waiting ∨ other = .failed := by
  have hMem := List.mem_of_getElem? hStatus
  cases h with
  | unanswered hAll _ => rcases hAll _ hMem with hOther | hOther | hOther <;> cases hOther
  | cached hAll _ => rcases hAll _ hMem with hOther | hOther | hOther | hOther <;> cases hOther
  | answered hAll hOne _ =>
      intro other hOther
      rcases hAll other (List.mem_of_mem_eraseIdx hOther) with hWaiting | hFailed | rfl | rfl
      · exact Or.inl hWaiting
      · exact Or.inr hFailed
      all_goals rcases Pool.related_others apart_symm hOne hStatus _ hOther with hSelf | hSelf <;> cases hSelf

/-- A request among others that have neither succeeded nor are at work. -/
theorem pairwise_among_idle {R : Status Body → Status Body → Prop}
    (hSymm : ∀ first second, R first second → R second first)
    (hOthers : ∀ other ∈ statuses.eraseIdx index, other = .waiting ∨ other = .failed)
    (hIdle : ∀ status other, other = .waiting ∨ other = .failed → R status other) :
    (statuses.set index stepped).Pairwise R := by
  refine Pool.pairwise_set_of_others hSymm ?_ fun other hOther => hIdle stepped other (hOthers other hOther)
  exact List.Pairwise.imp_of_mem (fun _ hSecond _ => hIdle _ _ (hOthers _ hSecond))
    (List.pairwise_of_forall fun _ _ => trivial)

theorem settled_idle (status other : Status Body) (h : other = .waiting ∨ other = .failed) :
    status.Settled ∨ other.Settled := by
  rcases h with rfl | rfl <;> exact Or.inr trivial

theorem apart_idle (status other : Status Body) (h : other = .waiting ∨ other = .failed) : Apart status other := by
  rcases h with rfl | rfl <;> exact Or.inr rfl

/-- Nobody is at work, so that the next request may run. -/
theorem Phase.grant (h : Phase cache statuses) (hCache : cache = none)
    (hSettled : ∀ status ∈ statuses, status.Settled) : Phase cache (statuses.set index .running) := by
  cases h with
  | unanswered hAll hOne =>
      refine .unanswered (Pool.forall_mem_set_of_all hAll (Or.inr (Or.inl rfl))) ?_
      exact Pool.pairwise_set settled_symm hOne fun other hOther =>
        Or.inr (hSettled other (List.mem_of_mem_eraseIdx hOther))
  | answered _ _ hMem =>
      obtain ⟨status, hStatus, hUnsettled⟩ := hMem
      exact absurd (hSettled status hStatus) hUnsettled
  | cached _ _ => cases hCache

theorem Phase.replay (h : Phase (some body) statuses) : Phase (some body) (statuses.set index (.replayed body)) := by
  cases h with
  | cached hAll hOne =>
      refine .cached (Pool.forall_mem_set_of_all hAll (Or.inr (Or.inr (Or.inr rfl)))) ?_
      exact Pool.pairwise_set apart_symm hOne fun _ _ => Or.inl rfl

theorem Phase.fail (h : Phase cache statuses) (hStatus : statuses[index]? = some .running) :
    Phase cache (statuses.set index .failed) := by
  obtain ⟨rfl, hOthers⟩ := h.others_of_running hStatus
  refine .unanswered (Pool.forall_mem_set (fun other hOther => ?_) (Or.inr (Or.inr rfl)))
    (pairwise_among_idle settled_symm hOthers settled_idle)
  rcases hOthers other hOther with hWaiting | hFailed
  · exact Or.inl hWaiting
  · exact Or.inr (Or.inr hFailed)

/-- The handler succeeds, and its answer is being written or never will be. -/
theorem Phase.succeed (h : Phase cache statuses) (hStatus : statuses[index]? = some .running)
    (hStepped : stepped = .writing body ∨ stepped = .uncached body) : Phase cache (statuses.set index stepped) := by
  obtain ⟨rfl, hOthers⟩ := h.others_of_running hStatus
  have hUnsettled : ¬ stepped.Settled := by rcases hStepped with rfl | rfl <;> exact id
  refine @Phase.answered _ _ body (Pool.forall_mem_set (fun other hOther => ?_) (Or.inr (Or.inr hStepped)))
    (pairwise_among_idle apart_symm hOthers apart_idle) ⟨stepped, Pool.mem_set_self hStatus, hUnsettled⟩
  rcases hOthers other hOther with hWaiting | hFailed
  · exact Or.inl hWaiting
  · exact Or.inr (Or.inl hFailed)

theorem Phase.store (h : Phase cache statuses) (hStatus : statuses[index]? = some (.writing body)) :
    Phase (some body) (statuses.set index (.done body)) := by
  have hOthers := h.others_of_writing hStatus
  refine .cached (Pool.forall_mem_set (fun other hOther => ?_) (Or.inr (Or.inr (Or.inl rfl))))
    (pairwise_among_idle apart_symm hOthers apart_idle)
  rcases hOthers other hOther with hWaiting | hFailed
  · exact Or.inl hWaiting
  · exact Or.inr (Or.inl hFailed)

/-- A new request. -/
theorem Phase.arrive (h : Phase cache statuses) : Phase cache (statuses ++ [.waiting]) := by
  have hAppend : ∀ {Q : Status Body → Prop}, (∀ status ∈ statuses, Q status) → Q .waiting →
      ∀ status ∈ statuses ++ [Status.waiting], Q status := by
    intro Q hAll hNew status hStatus
    rcases List.mem_append.mp hStatus with hOld | hOne
    · exact hAll status hOld
    · rw [List.mem_singleton.mp hOne]
      exact hNew
  have hPairwise : ∀ {R : Status Body → Status Body → Prop}, statuses.Pairwise R → (∀ status, R status .waiting) →
      (statuses ++ [Status.waiting]).Pairwise R := by
    intro R hOld hNew
    refine List.pairwise_append.mpr ⟨hOld, List.pairwise_singleton R .waiting, fun status _ other hOther => ?_⟩
    rw [List.mem_singleton.mp hOther]
    exact hNew status
  cases h with
  | unanswered hAll hOne =>
      exact .unanswered (hAppend hAll (Or.inl rfl)) (hPairwise hOne fun _ => Or.inr trivial)
  | answered hAll hOne hMem =>
      obtain ⟨status, hStatus, hUnsettled⟩ := hMem
      exact .answered (hAppend hAll (Or.inl rfl)) (hPairwise hOne fun _ => Or.inr rfl)
        ⟨status, List.mem_append_left _ hStatus, hUnsettled⟩
  | cached hAll hOne => exact .cached (hAppend hAll (Or.inl rfl)) (hPairwise hOne fun _ => Or.inr rfl)

/-- A step keeps to the phases if it grants the lock in turn. -/
theorem Phase.step (h : Phase cache statuses) (hStatus : statuses[index]? = some status)
    (hStep : Step cache status stepped after)
    (hGrant : status = .waiting → stepped = .running → cache = none ∧ ∀ status ∈ statuses, status.Settled) :
    Phase after (statuses.set index stepped) := by
  cases hStep with
  | same =>
      rw [Pool.set_same hStatus]
      exact h
  | replay hCache =>
      cases hCache
      exact h.replay
  | grant =>
      obtain ⟨hCache, hSettled⟩ := hGrant rfl rfl
      exact h.grant hCache hSettled
  | fail => exact h.fail hStatus
  | succeed body => exact h.succeed hStatus (Or.inl rfl)
  | bypass body => exact h.succeed hStatus (Or.inr rfl)
  | store body => exact h.store hStatus

end Execution

/-- The body with which the handler has answered, if it has succeeded. -/
def Exchange.success? : Exchange → Option SentBody
  | .passing _ => none
  | .handling hooks => (hooks.answer.filter fun answer => answer.Successful).map SentAnswer.body

/-- The body of the successful answer that the request has received, if any. -/
def Exchange.received? : Exchange → Option SentBody
  | .passing (.ret (.replay body)) => some (.json body)
  | exchange => exchange.success?

/-- The middleware awaits the lock. -/
def Exchange.awaitsLock : Exchange → Bool
  | .passing (.await (.acquireLock _ _) _) => true
  | _ => false

/-- The handler is at work, or the cache write that its answer has started is under way. -/
def Exchange.AtWork : Exchange → Prop
  | .passing _ => False
  | .handling hooks => hooks.answer = none ∨ hooks.writing ≠ []

instance : (exchange : Exchange) → Decidable exchange.AtWork
  | .passing _ => instDecidableFalse
  | .handling hooks => inferInstanceAs (Decidable (hooks.answer = none ∨ hooks.writing ≠ []))

/-- The handler has answered. -/
def Exchange.answered : Exchange → Bool
  | .passing _ => false
  | .handling hooks => hooks.answer.isSome

/-- The handler has succeeded without `res.json`. -/
def Exchange.bypassed : Exchange → Bool
  | .passing _ => false
  | .handling hooks => hooks.answer.any fun answer => answer.Successful && answer.body.isText

abbrev Exchanges := Pool Redis Exchange

/-- The header of a request with the idempotency key. -/
def KeyedHeader (key : String) : Type := { header : List String // idempotencyKey header = some key }

/-- A step of the requests of one key, or passing time. -/
inductive ExchangeMove (key : String) where
  | request (move : Move (KeyedHeader key) ExchangeStep)
  | elapse (milliseconds : Nat)

def Exchanges.next {key : String} (exchanges : Exchanges) : ExchangeMove key → Exchanges
  | .request move =>
      Pool.next (fun header => Exchange.start refundIdempotency header.1)
        (fun step _ => Exchange.step refundIdempotency step) exchanges move
  | .elapse milliseconds => { exchanges with shared := exchanges.shared.elapse milliseconds }

/-- At most one handler succeeds, and all requests that receive a success receive
the same body. -/
structure OneExecution (exchanges : Exchanges) : Prop where
  executed : exchanges.threads.Pairwise fun first second => first.success? = none ∨ second.success? = none
  received : ∀ first ∈ exchanges.threads, ∀ second ∈ exchanges.threads, ∀ body other,
    first.received? = some body → second.received? = some other → body = other

/-- Neither a stored answer nor a lock of the key runs out. -/
def NothingExpires {key : String} (exchanges : Exchanges) : ExchangeMove key → Prop
  | .elapse milliseconds =>
      (exchanges.shared.elapse milliseconds).find? (refundIdempotency.cacheKey key) =
          exchanges.shared.find? (refundIdempotency.cacheKey key) ∧
        (exchanges.shared.elapse milliseconds).find? (refundIdempotency.lockKey key) =
          exchanges.shared.find? (refundIdempotency.lockKey key)
  | .request _ => True

/-- Where the lock is granted, no answer is cached, no other request is at work and
none has succeeded past the cache. -/
def GrantsInTurn {key : String} (exchanges : Exchanges) : ExchangeMove key → Prop
  | .request (.advance index .proceed) =>
      (exchanges.threads[index]?).any Exchange.awaitsLock = true →
        exchanges.shared.find? (refundIdempotency.lockKey key) = none →
          storedAnswer key exchanges.shared = none ∧
            ∀ exchange ∈ exchanges.threads, ¬ exchange.AtWork ∧ exchange.bypassed = false
  | _ => True

/-- A handler that has answered does not call `res.json` with a success once more. -/
def AnswersOnce {key : String} (exchanges : Exchanges) : ExchangeMove key → Prop
  | .request (.advance index (.json answer)) =>
      answer.Successful → (exchanges.threads[index]?).any Exchange.answered = false
  | _ => True

section Requests

variable {key : String} {redis : Redis} {exchange : Exchange} {exchanges : Exchanges}

/-- The stored answer, as a client receives it. -/
def cachedBody (key : String) (redis : Redis) : Option SentBody := (storedAnswer key redis).map SentBody.json

/-- What an answer is once no write of it is under way. -/
def SentAnswer.status (answer : SentAnswer) : Execution.Status SentBody :=
  if answer.Successful then if answer.body.isText then .uncached answer.body else .done answer.body else .failed

def Hooks.status (hooks : Hooks) : Execution.Status SentBody :=
  match hooks.answer, hooks.writing with
  | none, _ => .running
  | some _, body :: _ => .writing (.json body)
  | some answer, [] => answer.status

def Exchange.status : Exchange → Execution.Status SentBody
  | .passing (.ret (.replay body)) => .replayed (.json body)
  | .passing _ => .waiting
  | .handling hooks => hooks.status

/-- The hooks belong to the key, and what is being written is the body of the
successful answer, once. -/
structure Hooks.Proper (key : String) (hooks : Hooks) : Prop where
  cacheKey : hooks.cacheKey = refundIdempotency.cacheKey key
  lockKey : hooks.lockKey = refundIdempotency.lockKey key
  writing : hooks.writing ≠ [] →
    ∃ answer : HttpAnswer, hooks.answer = some answer.sent ∧ answer.Successful ∧ hooks.writing = [answer.body]

/-- Where a request with the key can stand. -/
inductive Exchange.Proper (key : String) : Exchange → Prop
  | reading : Proper key (.passing (refundIdempotency.readCache key))
  | locking : Proper key (.passing (refundIdempotency.takeLock key))
  | replayed (body : Json) : Proper key (.passing (.ret (.replay body)))
  | refused (error : AppError) : Proper key (.passing (.fail error))
  | handling {hooks : Hooks} (hHooks : hooks.Proper key) : Proper key (.handling hooks)

section Hooks

variable {hooks : Hooks} {answer : SentAnswer} {body : Json} {later : List Json}

theorem SentAnswer.executed?_status (answer : SentAnswer) :
    answer.status.executed? = if answer.Successful then some answer.body else none := by
  unfold status
  split
  · split <;> rfl
  · rfl

theorem SentAnswer.received?_status (answer : SentAnswer) : answer.status.received? = answer.status.executed? := by
  unfold status
  split
  · split <;> rfl
  · rfl

theorem HttpAnswer.status_sent {answer : HttpAnswer} (h : answer.Successful) :
    answer.sent.status = .done (.json answer.body) := if_pos h

theorem Hooks.status_running (hAnswer : hooks.answer = none) : hooks.status = .running := by
  unfold status
  rw [hAnswer]

theorem Hooks.status_writing (hAnswer : hooks.answer = some answer) (hWriting : hooks.writing = body :: later) :
    hooks.status = .writing (.json body) := by
  unfold status
  rw [hAnswer, hWriting]

theorem Hooks.status_answered (hAnswer : hooks.answer = some answer) (hWriting : hooks.writing = []) :
    hooks.status = answer.status := by
  unfold status
  rw [hAnswer, hWriting]

theorem Exchange.success?_handling (hAnswer : hooks.answer = some answer) :
    Exchange.success? (.handling hooks) = if answer.Successful then some answer.body else none := by
  show (hooks.answer.filter fun answer => answer.Successful).map SentAnswer.body = _
  rw [hAnswer, Option.filter_some]
  split
  · next hSuccess => rw [if_pos (of_decide_eq_true hSuccess), Option.map_some]
  · next hFailure => rw [if_neg fun hSuccess => hFailure (decide_eq_true hSuccess), Option.map_none]

theorem Hooks.Proper.success? (h : hooks.Proper key) : Exchange.success? (.handling hooks) = hooks.status.executed? := by
  cases hAnswer : hooks.answer with
  | none =>
      rw [Hooks.status_running hAnswer]
      show (hooks.answer.filter fun answer => answer.Successful).map SentAnswer.body = none
      rw [hAnswer]
      rfl
  | some answer =>
      rw [Exchange.success?_handling hAnswer]
      by_cases hWriting : hooks.writing = []
      · rw [Hooks.status_answered hAnswer hWriting, SentAnswer.executed?_status]
      · obtain ⟨written, hWritten, hSuccess, hOne⟩ := h.writing hWriting
        cases hAnswer.symm.trans hWritten
        have hSent : written.sent.Successful := hSuccess
        rw [if_pos hSent, Hooks.status_writing hAnswer hOne]
        rfl

end Hooks

theorem Exchange.Proper.success? (h : exchange.Proper key) : exchange.success? = exchange.status.executed? := by
  cases h with
  | reading => rfl
  | locking => rfl
  | replayed body => rfl
  | refused error => rfl
  | handling hHooks => exact hHooks.success?

theorem Exchange.Proper.received? (h : exchange.Proper key) : exchange.received? = exchange.status.received? := by
  cases h with
  | reading => rfl
  | locking => rfl
  | replayed body => rfl
  | refused error => rfl
  | @handling hooks hHooks =>
      refine hHooks.success?.trans ?_
      show hooks.status.executed? = hooks.status.received?
      unfold Hooks.status
      split
      · rfl
      · rfl
      · rw [SentAnswer.received?_status]

/-- A request that is not at work and has not succeeded past the cache is settled. -/
theorem Exchange.settled_of_not_atWork (hIdle : ¬ exchange.AtWork) (hBypassed : exchange.bypassed = false) :
    exchange.status.Settled := by
  cases exchange with
  | passing middleware =>
      unfold Exchange.status
      split <;> trivial
  | handling hooks =>
      obtain ⟨hAnswer, hWriting⟩ := not_or.mp hIdle
      obtain ⟨answer, hSome⟩ := Option.ne_none_iff_exists'.mp hAnswer
      have hJson : (answer.Successful && answer.body.isText) = false := by
        have hAny : (hooks.answer.any fun answer => answer.Successful && answer.body.isText) = false := hBypassed
        rwa [hSome] at hAny
      show hooks.status.Settled
      rw [Hooks.status_answered hSome (not_not.mp hWriting)]
      unfold SentAnswer.status
      split
      · next hSuccess =>
          rw [decide_eq_true hSuccess, Bool.true_and] at hJson
          rw [if_neg (by rw [hJson]; exact Bool.false_ne_true)]
          trivial
      · trivial

/-- What a step of one request means: it stays with its key, its status and the
stored answer change as the statuses of a request do, and it starts its handler only
with a lock that was free. -/
structure Exchange.Refines (key : String) (step : ExchangeStep) (exchange : Exchange) (redis : Redis)
    (result : Redis × Exchange) : Prop where
  proper : result.2.Proper key
  status : Execution.Step (cachedBody key redis) exchange.status result.2.status (cachedBody key result.1)
  grant : exchange.status = .waiting → result.2.status = .running →
    step = .proceed ∧ exchange.awaitsLock = true ∧ redis.find? (refundIdempotency.lockKey key) = none

theorem Exchange.Refines.same (step : ExchangeStep) (h : exchange.Proper key) :
    Exchange.Refines key step exchange redis (redis, exchange) where
  proper := h
  status := .same exchange.status
  grant := fun hWaiting hRunning => by
    rw [hWaiting] at hRunning
    cases hRunning

/-- A change that leaves the status and the stored answer alone. -/
theorem Exchange.Refines.quiet {step : ExchangeStep} {after : Redis} {stepped : Exchange} (hProper : stepped.Proper key)
    (hStatus : stepped.status = exchange.status) (hStored : storedAnswer key after = storedAnswer key redis) :
    Exchange.Refines key step exchange redis (after, stepped) where
  proper := hProper
  status := by
    unfold cachedBody
    rw [hStatus, hStored]
    exact .same exchange.status
  grant := fun hWaiting hRunning => by
    rw [hStatus, hWaiting] at hRunning
    cases hRunning

theorem readCache_refines : Exchange.Refines key .proceed (.passing (refundIdempotency.readCache key)) redis
    (Exchange.step refundIdempotency .proceed (.passing (refundIdempotency.readCache key)) redis) := by
  have hStep : Exchange.step refundIdempotency .proceed (.passing (refundIdempotency.readCache key)) redis =
      (redis, .ofMiddleware (refundIdempotency.afterRead key (storedAnswer key redis))) := by
    rw [IdempotencyMiddlewareOptions.readCache_eq]
    rfl
  rw [hStep]
  cases hStored : storedAnswer key redis with
  | none => exact .quiet .locking rfl rfl
  | some body =>
      exact ⟨.replayed body, .replay (congrArg (Option.map SentBody.json) hStored), nofun⟩

theorem takeLock_refines : Exchange.Refines key .proceed (.passing (refundIdempotency.takeLock key)) redis
    (Exchange.step refundIdempotency .proceed (.passing (refundIdempotency.takeLock key)) redis) := by
  have hTtl : refundIdempotency.lockTtlSeconds ≠ 0 := by decide
  have hStep : Exchange.step refundIdempotency .proceed (.passing (refundIdempotency.takeLock key)) redis =
      let result := RedisService.acquireLock true redis (refundIdempotency.lockKey key) refundIdempotency.lockTtlSeconds
      (result.2, .ofMiddleware (if result.1 = false then
        throw (conflictError "A conflict occurred with the current state of the resource")
        else return .next (refundIdempotency.cacheKey key) (refundIdempotency.lockKey key))) := rfl
  rw [hStep]
  cases hFound : redis.find? (refundIdempotency.lockKey key) with
  | some entry =>
      have hTaken : redis.find? (refundIdempotency.lockKey key) ≠ none := by
        rw [hFound]
        exact Option.some_ne_none entry
      rw [RedisService.acquireLock_taken hTtl hTaken]
      exact .quiet (.refused _) rfl rfl
  | none =>
      rw [RedisService.acquireLock_free hTtl hFound]
      refine ⟨.handling ⟨rfl, rfl, fun hWriting => absurd rfl hWriting⟩, ?_, fun _ _ => ⟨rfl, rfl, hFound⟩⟩
      unfold cachedBody
      rw [storedAnswer_put_lock]
      exact .grant

/-- A call of `res.json`, which starts the cache write if it is a success. -/
theorem json_refines {hooks : Hooks} (h : hooks.Proper key) {answer : HttpAnswer}
    (hOnce : answer.Successful → hooks.answer = none) :
    Exchange.Refines key (.json answer) (.handling hooks) redis
      (Exchange.step refundIdempotency (.json answer) (.handling hooks) redis) := by
  show Exchange.Refines key _ _ redis (redis, .handling (hooks.json answer))
  by_cases hAnswer : hooks.answer = none
  · have hRunning : Exchange.status (.handling hooks) = .running := Hooks.status_running hAnswer
    have hSent : (hooks.json answer).answer = some answer.sent := by
      show hooks.answer.or (some answer.sent) = _
      rw [hAnswer, Option.none_or]
    have hNothing : hooks.writing = [] := by
      by_contra hWriting
      obtain ⟨written, hWritten, _⟩ := h.writing hWriting
      rw [hAnswer] at hWritten
      cases hWritten
    by_cases hSuccess : answer.Successful
    · have hWriting : (hooks.json answer).writing = [answer.body] := by
        show (if answer.Successful then hooks.writing ++ [answer.body] else hooks.writing) = _
        rw [if_pos hSuccess, hNothing, List.nil_append]
      refine ⟨.handling ⟨h.cacheKey, h.lockKey, fun _ => ⟨answer, hSent, hSuccess, hWriting⟩⟩, ?_, ?_⟩
      · show Execution.Step _ _ (hooks.json answer).status _
        rw [hRunning, Hooks.status_writing hSent hWriting]
        exact .succeed (SentBody.json answer.body)
      · rw [hRunning]
        exact fun hWaiting => nomatch hWaiting
    · have hWriting : (hooks.json answer).writing = [] := (if_neg hSuccess).trans hNothing
      refine ⟨.handling ⟨h.cacheKey, h.lockKey, fun hSome => absurd hWriting hSome⟩, ?_, ?_⟩
      · show Execution.Step _ _ (hooks.json answer).status _
        have hFailed : answer.sent.status = .failed := if_neg hSuccess
        rw [hRunning, Hooks.status_answered hSent hWriting, hFailed]
        exact .fail
      · rw [hRunning]
        exact fun hWaiting => nomatch hWaiting
  · have hFailure : ¬ answer.Successful := fun hSuccess => hAnswer (hOnce hSuccess)
    obtain ⟨earlier, hEarlier⟩ := Option.ne_none_iff_exists'.mp hAnswer
    have hSame : hooks.json answer = hooks := by
      unfold Hooks.json
      rw [if_neg hFailure, hEarlier, Option.some_or, ← hEarlier]
    rw [hSame]
    exact .same _ (.handling h)

/-- An answer past `res.json`. -/
theorem send_refines {hooks : Hooks} (h : hooks.Proper key) (statusCode : Nat) (text : String) :
    Exchange.Refines key (.send statusCode text) (.handling hooks) redis
      (Exchange.step refundIdempotency (.send statusCode text) (.handling hooks) redis) := by
  show Exchange.Refines key _ _ redis (redis, .handling (hooks.send statusCode text))
  cases hAnswer : hooks.answer with
  | some answer =>
      have hSame : hooks.send statusCode text = hooks := by
        unfold Hooks.send
        rw [hAnswer, Option.some_or, ← hAnswer]
      rw [hSame]
      exact .same _ (.handling h)
  | none =>
      have hRunning : Exchange.status (.handling hooks) = .running := Hooks.status_running hAnswer
      have hSent : (hooks.send statusCode text).answer = some { statusCode, body := .text text } := by
        show hooks.answer.or _ = _
        rw [hAnswer, Option.none_or]
      have hNothing : (hooks.send statusCode text).writing = [] := by
        by_contra hWriting
        obtain ⟨written, hWritten, _⟩ := h.writing hWriting
        rw [hAnswer] at hWritten
        cases hWritten
      refine ⟨.handling ⟨h.cacheKey, h.lockKey, fun hSome => absurd hNothing hSome⟩, ?_, ?_⟩
      · show Execution.Step _ _ (hooks.send statusCode text).status _
        rw [hRunning, Hooks.status_answered hSent hNothing]
        unfold SentAnswer.status
        split
        · exact .bypass (SentBody.text text)
        · exact .fail
      · rw [hRunning]
        exact fun hWaiting => nomatch hWaiting

/-- The cache write. -/
theorem write_refines {hooks : Hooks} (h : hooks.Proper key) :
    Exchange.Refines key .write (.handling hooks) redis
      (Exchange.step refundIdempotency .write (.handling hooks) redis) := by
  have hStep : Exchange.step refundIdempotency .write (.handling hooks) redis =
      ((hooks.write refundIdempotency redis).1, .handling (hooks.write refundIdempotency redis).2) := rfl
  rw [hStep]
  unfold Hooks.write
  by_cases hWriting : hooks.writing = []
  · rw [hWriting]
    exact .same _ (.handling h)
  · obtain ⟨answer, hAnswer, hSuccess, hOne⟩ := h.writing hWriting
    have hBefore : Exchange.status (.handling hooks) = .writing (.json answer.body) := Hooks.status_writing hAnswer hOne
    have hAfter : Exchange.status (.handling { hooks with writing := [] }) = .done (.json answer.body) :=
      (@Hooks.status_answered { hooks with writing := [] } answer.sent hAnswer rfl).trans (HttpAnswer.status_sent hSuccess)
    rw [hOne]
    refine ⟨.handling ⟨h.cacheKey, h.lockKey, fun hSome => absurd rfl hSome⟩, ?_, fun hWaiting => ?_⟩
    · unfold cachedBody
      simp only
      rw [hBefore, hAfter, h.cacheKey, storedAnswer_set_self]
      exact .store (SentBody.json answer.body)
    · rw [hBefore] at hWaiting
      cases hWaiting

/-- The end of the response and the release change neither the answer nor the cache. -/
theorem close_refines {hooks : Hooks} (h : hooks.Proper key) :
    Exchange.Refines key .close (.handling hooks) redis
      (Exchange.step refundIdempotency .close (.handling hooks) redis) := by
  show Exchange.Refines key .close (.handling hooks) redis (redis, .handling hooks.releaseLockSafely)
  unfold Hooks.releaseLockSafely
  split
  · exact .same _ (.handling h)
  · exact .quiet (.handling ⟨h.cacheKey, h.lockKey, h.writing⟩) rfl rfl

theorem release_refines {hooks : Hooks} (h : hooks.Proper key) :
    Exchange.Refines key .release (.handling hooks) redis
      (Exchange.step refundIdempotency .release (.handling hooks) redis) := by
  have hStep : Exchange.step refundIdempotency .release (.handling hooks) redis =
      ((hooks.release redis).1, .handling (hooks.release redis).2) := rfl
  rw [hStep]
  unfold Hooks.release
  by_cases hReleasing : hooks.releasing = true
  · have hStored : storedAnswer key (RedisService.releaseLock true redis hooks.lockKey) = storedAnswer key redis := by
      rw [h.lockKey]
      exact storedAnswer_delete_lock
    rw [if_pos hReleasing]
    exact .quiet (.handling ⟨h.cacheKey, h.lockKey, h.writing⟩) rfl hStored
  · rw [if_neg hReleasing]
    exact .same _ (.handling h)

/-- Every step of a request of the key. -/
theorem Exchange.Proper.step (h : exchange.Proper key) (step : ExchangeStep)
    (hOnce : ∀ answer, step = .json answer → answer.Successful → exchange.answered = false) :
    Exchange.Refines key step exchange redis (Exchange.step refundIdempotency step exchange redis) := by
  cases h with
  | reading =>
      cases step with
      | proceed => exact readCache_refines
      | _ => exact .same _ .reading
  | locking =>
      cases step with
      | proceed => exact takeLock_refines
      | _ => exact .same _ .locking
  | replayed body =>
      cases step with
      | proceed => exact .quiet (.replayed body) rfl rfl
      | _ => exact .same _ (.replayed body)
  | refused error =>
      cases step with
      | proceed => exact .quiet (.refused error) rfl rfl
      | _ => exact .same _ (.refused error)
  | handling hHooks =>
      cases step with
      | proceed => exact .same _ (.handling hHooks)
      | json answer =>
          exact json_refines hHooks fun hSuccess => Option.not_isSome_iff_eq_none.mp
            (Bool.eq_false_iff.mp (hOnce answer rfl hSuccess))
      | send statusCode text => exact send_refines hHooks statusCode text
      | write => exact write_refines hHooks
      | close => exact close_refines hHooks
      | release => exact release_refines hHooks

/-- All requests stand where a request with the key can stand, and together they are
in one of the phases. -/
structure Exchanges.InPhase (key : String) (exchanges : Exchanges) : Prop where
  proper : ∀ exchange ∈ exchanges.threads, exchange.Proper key
  phase : Execution.Phase (cachedBody key exchanges.shared) (exchanges.threads.map Exchange.status)

theorem Exchanges.InPhase.oneExecution (h : exchanges.InPhase key) : OneExecution exchanges where
  executed := by
    have hExecuted := List.pairwise_map.mp h.phase.atMostOne.executed
    refine hExecuted.imp_of_mem fun hFirst hSecond hApart => ?_
    rw [(h.proper _ hFirst).success?, (h.proper _ hSecond).success?]
    exact hApart
  received := by
    intro first hFirst second hSecond body other hBody hOther
    rw [(h.proper first hFirst).received?] at hBody
    rw [(h.proper second hSecond).received?] at hOther
    exact h.phase.atMostOne.received _ (List.mem_map_of_mem hFirst) _ (List.mem_map_of_mem hSecond) body other hBody hOther

theorem start_keyed (header : KeyedHeader key) :
    Exchange.start refundIdempotency header.1 = .passing (refundIdempotency.readCache key) := by
  unfold Exchange.start idempotencyMiddleware
  rw [header.2]
  rfl

/-- One step of a request, granted in turn. -/
theorem Exchanges.InPhase.advance (h : exchanges.InPhase key) {index : Nat} {step : ExchangeStep}
    (hExchange : exchanges.threads[index]? = some exchange)
    (hTurn : @GrantsInTurn key exchanges (.request (.advance index step)))
    (hOnce : @AnswersOnce key exchanges (.request (.advance index step))) :
    Exchanges.InPhase key {
      shared := (Exchange.step refundIdempotency step exchange exchanges.shared).1
      threads := exchanges.threads.set index (Exchange.step refundIdempotency step exchange exchanges.shared).2 } := by
  have hProper := h.proper exchange (List.mem_of_getElem? hExchange)
  have hUnanswered : ∀ answer, step = .json answer → answer.Successful → exchange.answered = false := by
    rintro answer rfl hSuccess
    have hAny := hOnce hSuccess
    rwa [hExchange] at hAny
  obtain ⟨hStepped, hStatus, hGrant⟩ := @Exchange.Proper.step key exchanges.shared exchange hProper step hUnanswered
  refine ⟨Pool.forall_mem_set_of_all h.proper hStepped, ?_⟩
  rw [List.map_set]
  have hStatuses : (exchanges.threads.map Exchange.status)[index]? = some exchange.status := by
    rw [List.getElem?_map, hExchange]
    rfl
  refine h.phase.step hStatuses hStatus fun hWaiting hRunning => ?_
  obtain ⟨rfl, hAwaits, hFree⟩ := hGrant hWaiting hRunning
  have hAny : (exchanges.threads[index]?).any Exchange.awaitsLock = true := by
    rw [hExchange]
    exact hAwaits
  obtain ⟨hNone, hIdle⟩ := hTurn hAny hFree
  refine ⟨congrArg (Option.map SentBody.json) hNone, fun status hMem => ?_⟩
  obtain ⟨other, hOther, rfl⟩ := List.mem_map.mp hMem
  exact Exchange.settled_of_not_atWork (hIdle other hOther).1 (hIdle other hOther).2

theorem Exchanges.InPhase.next (h : exchanges.InPhase key) {move : ExchangeMove key}
    (hFresh : NothingExpires exchanges move) (hTurn : GrantsInTurn exchanges move) (hOnce : AnswersOnce exchanges move) :
    (exchanges.next move).InPhase key := by
  cases move with
  | elapse milliseconds =>
      refine ⟨h.proper, ?_⟩
      have hStored : storedAnswer key (exchanges.shared.elapse milliseconds) = storedAnswer key exchanges.shared := by
        unfold storedAnswer ExpiringStore.get?
        rw [hFresh.1]
      show Execution.Phase (cachedBody key (exchanges.shared.elapse milliseconds)) _
      unfold cachedBody
      rw [hStored]
      exact h.phase
  | request move =>
      cases move with
      | start header =>
          have hNext : exchanges.next (.request (.start header)) = { exchanges with
              threads := exchanges.threads ++ [.passing (refundIdempotency.readCache key)] } := by
            rw [Exchanges.next, Pool.next_start, start_keyed]
          rw [hNext]
          refine ⟨fun exchange hExchange => ?_, ?_⟩
          · rcases List.mem_append.mp hExchange with hOld | hNew
            · exact h.proper exchange hOld
            · rw [List.mem_singleton.mp hNew]
              exact .reading
          · rw [List.map_append]
            exact h.phase.arrive
      | advance index step =>
          cases hExchange : exchanges.threads[index]? with
          | none =>
              rw [Exchanges.next, Pool.next_missing hExchange]
              exact h
          | some exchange =>
              rw [Exchanges.next, Pool.next_advance hExchange]
              exact h.advance hExchange hTurn hOnce

end Requests

instance {key : String} (exchanges : Exchanges) : (move : ExchangeMove key) → Decidable (NothingExpires exchanges move)
  | .elapse _ => inferInstanceAs (Decidable (_ ∧ _))
  | .request _ => instDecidableTrue

instance {key : String} (exchanges : Exchanges) : (move : ExchangeMove key) → Decidable (GrantsInTurn exchanges move)
  | .request (.advance _ .proceed) => inferInstanceAs (Decidable (_ → _ → _ ∧ _))
  | .request (.advance _ (.json _)) => instDecidableTrue
  | .request (.advance _ (.send _ _)) => instDecidableTrue
  | .request (.advance _ .write) => instDecidableTrue
  | .request (.advance _ .close) => instDecidableTrue
  | .request (.advance _ .release) => instDecidableTrue
  | .request (.start _) => instDecidableTrue
  | .elapse _ => instDecidableTrue

instance {key : String} (exchanges : Exchanges) : (move : ExchangeMove key) → Decidable (AnswersOnce exchanges move)
  | .request (.advance _ (.json _)) => inferInstanceAs (Decidable (_ → _))
  | .request (.advance _ .proceed) => instDecidableTrue
  | .request (.advance _ (.send _ _)) => instDecidableTrue
  | .request (.advance _ .write) => instDecidableTrue
  | .request (.advance _ .close) => instDecidableTrue
  | .request (.advance _ .release) => instDecidableTrue
  | .request (.start _) => instDecidableTrue
  | .elapse _ => instDecidableTrue

namespace Sample

def keyedHeader : KeyedHeader "k" := ⟨["k"], by decide +kernel⟩

def accepted (body : Int) : HttpAnswer where
  statusCode := 200
  body := .num body

/-- The first request is served, and the second is answered from the cache. -/
def replayedInTurn : List (ExchangeMove "k") :=
  [.request (.start keyedHeader), .request (.advance 0 .proceed), .request (.advance 0 .proceed),
    .request (.advance 0 (.json (accepted 1))), .request (.advance 0 .write), .request (.advance 0 .close),
    .request (.advance 0 .release), .elapse 1000, .request (.start keyedHeader), .request (.advance 1 .proceed)]

/-- Both requests look into the cache before the first of them takes the lock. -/
def readBeforeWrite : List (ExchangeMove "k") :=
  [.request (.start keyedHeader), .request (.start keyedHeader), .request (.advance 0 .proceed),
    .request (.advance 1 .proceed), .request (.advance 0 .proceed), .request (.advance 0 (.json (accepted 1))),
    .request (.advance 0 .write), .request (.advance 0 .close), .request (.advance 0 .release),
    .request (.advance 1 .proceed), .request (.advance 1 (.json (accepted 2)))]

end Sample

end SpotqPayment
