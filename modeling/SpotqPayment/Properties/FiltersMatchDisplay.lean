import SpotqPayment.Properties.PagesShowOnce
import SpotqPayment.System.Invariants

/-! The filters of a list and what the list displays. The filter of the payment method
reads a field of the metadata that the service never writes, while the list displays
the method from another one. -/
namespace SpotqPayment

open Selection Transition PaymentTransactionRepository SubscriptionRepository TransactionQueryRepository

section Metadata

variable {config : Config} {db : Database} {env : Env} {call : Call} {world : World} {row tx : PaymentTransaction}

theorem lookup_merge_eq_none {base extra : JsonObject} {name : String} (hBase : base.lookup name = none)
    (hExtra : extra.lookup name = none) : (JsonObject.merge base extra).lookup name = none := by
  rw [List.lookup_eq_none_iff] at hBase hExtra ⊢
  intro field hField
  rcases List.mem_append.mp hField with hOld | hNew
  · obtain ⟨old, hMem, rfl⟩ := List.mem_map.mp hOld
    exact hBase old hMem
  · exact hExtra field (List.mem_of_mem_filter hNew)

/-- The metadata has no field of the name that the filter of the method reads. -/
def PaymentTransaction.LacksPaymentMethod (tx : PaymentTransaction) : Prop :=
  (tx.metadata.getD []).lookup "paymentMethod" = none

theorem PaymentTransaction.LacksPaymentMethod.field (h : tx.LacksPaymentMethod) : tx.field "paymentMethod" = .null := by
  rw [PaymentTransaction.field, h]
  rfl

def Database.LacksPaymentMethods (db : Database) : Prop := ∀ tx ∈ db.transactions.rows, tx.LacksPaymentMethod

/-- A success event adds the method under another name, and a checkout adds nothing. -/
theorem Captures.lacksPaymentMethod {params : CaptureParams} {event : CreateOutboxEventInput}
    (h : Captures config db env.now call tx params event) (hTx : tx.LacksPaymentMethod) :
    (capturedRow (tx.captureFields params env.now) tx).LacksPaymentMethod := by
  cases h with
  | verify hAccepted =>
      show ((tx.metadata.or tx.metadata).getD []).lookup "paymentMethod" = none
      rwa [Option.or_self]
  | webhook hReported hFood => exact lookup_merge_eq_none hTx rfl

theorem Change.lacksPaymentMethod (h : Change config db env call tx row) (hTx : tx.LacksPaymentMethod) :
    row.LacksPaymentMethod := by
  cases h with
  | captured hCaptures hOpen hFree => exact hCaptures.lacksPaymentMethod hTx
  | failed hReported hFood hOpen => exact hTx
  | markedFailed hReported hPlain hOpen => exact hTx
  | activated hActivates hOpen hFree hReady =>
      unfold activatedRow claimedRow
      split <;> exact hTx
  | refunded hAccepted hAnswer hFresh => exact hTx
  | settled hReported hProcessed hRefund => exact hTx
  | reset hAccepted hPending hFailed => exact hTx

theorem serve_lacksPaymentMethods (request : Request) (hLinked : world.db.RefundsLinked)
    (h : world.db.LacksPaymentMethods) : (serve config world request).db.LacksPaymentMethods := by
  intro row hRow
  rcases serve_origin request hLinked hRow with hOld | ⟨input, orderId, _, _, rfl⟩ |
    ⟨input, restaurantId, plan, orderId, _, _, rfl⟩ | ⟨tx, hTx, hChange⟩
  · exact h row hOld
  · rfl
  · rfl
  · exact hChange.lacksPaymentMethod (h tx hTx)

/-- No sequence of calls stores a method where the filter looks for it. -/
theorem run_lacksPaymentMethods (config : Config) (plans : Table SubscriptionPlan) (requests : List Request) :
    (run (serve config) (World.initial plans) requests).db.LacksPaymentMethods := by
  have hInitial : (World.initial plans).db.LacksPaymentMethods := fun tx hTx => nomatch hTx
  have hReached := run_invariant (fun world : World => world.db.RefundsLinked ∧ world.db.LacksPaymentMethods)
    (fun world request h => ⟨@serve_refundsLinked config world request h.1,
      @serve_lacksPaymentMethods config world request h.1 h.2⟩) ⟨refundsLinked_initial plans, hInitial⟩ requests
  exact hReached.2

end Metadata

/-- The filters of a query other than that of the method. -/
structure ListTransactionsQuery.Passes (query : ListTransactionsQuery) (status : PaymentStatus) (amountPaise : Int)
    (createdAt : Instant) : Prop where
  status : query.status = .all ∨ query.status.paymentStatus? = some status
  minAmount : ∀ least ∈ query.minAmount, least ≤ amountPaise
  maxAmount : ∀ most ∈ query.maxAmount, amountPaise ≤ most
  startDate : ∀ start ∈ query.startDate, start ≤ Calendar.day createdAt
  endDate : ∀ finish ∈ query.endDate, Calendar.day createdAt ≤ finish

/-- What is displayed satisfies every filter of the query. -/
structure ListTransactionsQuery.Fits (query : ListTransactionsQuery) (summary : TransactionSummary) : Prop where
  passes : query.Passes summary.status summary.amountPaise summary.createdAt
  method : query.method = .all ∨ summary.paymentMethod = query.method.text

/-- The query is answered, and of the transactions of the restaurant it selects, on all
pages together, those whose summaries satisfy the filters. -/
structure FiltersMatchDisplay (repository : TransactionQueryRepository) (db : Database) (query : ListTransactionsQuery)
    (restaurantId : String) (restaurant : Uuid) : Prop where
  answered : ∃ result, repository.findTransactionsByRestaurant db (query.toDTO restaurantId).params = .ok result
  displayed : ∀ tx ∈ db.transactions.rows, tx.restaurantId = restaurant →
    (tx ∈ repository.matching db (query.toDTO restaurantId).params ↔
      ∃ summary, tx.summary repository.upperCase = .ok summary ∧ query.Fits summary)

/-- The status is one that the column has and the amounts fit it. Of the transactions of
the restaurant that pass the other filters, none has a stored method that is displayed as
the requested one or, if all methods are wanted, one that is no text. -/
structure Filterable (upperCase : UpperCase) (db : Database) (query : ListTransactionsQuery) (restaurant : Uuid) :
    Prop where
  status : query.status ≠ .pending
  minAmount : ∀ least ∈ query.minAmount, Sql.Fits 32 least
  maxAmount : ∀ most ∈ query.maxAmount, Sql.Fits 32 most
  all : query.method = .all → ∀ tx ∈ db.transactions.rows, tx.restaurantId = restaurant →
    query.Passes tx.status tx.amountPaise tx.createdAt → (tx.field "method").isTrue = true →
      ∃ text, tx.field "method" = .str text
  chosen : query.method ≠ .all → ∀ tx ∈ db.transactions.rows, tx.restaurantId = restaurant →
    query.Passes tx.status tx.amountPaise tx.createdAt → ∀ text, tx.field "method" = .str text →
      upperCase.apply text ≠ query.method.text

section Display

variable {upperCase : UpperCase} {repository : TransactionQueryRepository} {db : Database} {query : ListTransactionsQuery}
  {restaurantId : String} {restaurant : Uuid} {tx : PaymentTransaction}

theorem methodText_eq (h : tx.LacksPaymentMethod) :
    tx.methodText upperCase = upperCase.toUpperCase ((tx.field "method").or (.str defaultPaymentMethod)) := by
  rw [PaymentTransaction.methodText, h.field]
  rfl

/-- A method is displayed unless it is something other than a text. -/
theorem methodText_isOk (h : tx.LacksPaymentMethod) : (∃ text, tx.methodText upperCase = .ok text) ↔
    ((tx.field "method").isTrue = true → ∃ text, tx.field "method" = .str text) := by
  rw [methodText_eq h, JsonValue.or]
  split
  · next hTrue =>
      rw [forall_prop_of_true hTrue]
      cases tx.field "method" with
      | str text => exact iff_of_true ⟨_, rfl⟩ ⟨text, rfl⟩
      | null => exact iff_of_false (fun ⟨_, h⟩ => nomatch h) (fun ⟨_, h⟩ => nomatch h)
      | other text => exact iff_of_false (fun ⟨_, h⟩ => nomatch h) (fun ⟨_, h⟩ => nomatch h)
  · next hFalse => exact iff_of_true ⟨_, rfl⟩ fun hTrue => absurd hTrue hFalse

theorem text_ne_default {method : TransactionPaymentMethod} (hChosen : method ≠ .all) :
    upperCase.apply defaultPaymentMethod ≠ method.text ∧ upperCase.apply "" ≠ method.text := by
  have hDefault := upperCase.ascii defaultPaymentMethod (by simp [defaultPaymentMethod])
  have hEmpty := upperCase.ascii "" (by simp)
  rw [hDefault, hEmpty]
  cases method with
  | all => exact absurd rfl hChosen
  | upi => decide +kernel
  | card => decide +kernel
  | netbanking => decide +kernel

/-- A method that can be asked for is displayed from a stored text only. -/
theorem methodText_eq_chosen (h : tx.LacksPaymentMethod) (hChosen : query.method ≠ .all) :
    tx.methodText upperCase = .ok query.method.text ↔
      ∃ text, tx.field "method" = .str text ∧ upperCase.apply text = query.method.text := by
  obtain ⟨hDefault, hEmpty⟩ := @text_ne_default upperCase _ hChosen
  have hUnnamed : upperCase.toUpperCase (.str defaultPaymentMethod) ≠ .ok query.method.text := fun hSame =>
    hDefault (Except.ok.inj hSame)
  rw [methodText_eq h, JsonValue.or]
  cases tx.field "method" with
  | null => exact iff_of_false hUnnamed fun ⟨_, hField, _⟩ => nomatch hField
  | other text =>
      refine iff_of_false ?_ fun ⟨_, hField, _⟩ => nomatch hField
      split
      · exact fun hSame => nomatch hSame
      · exact hUnnamed
  | str text =>
      have hText : (∃ other, JsonValue.str text = .str other ∧ upperCase.apply other = query.method.text) ↔
          upperCase.apply text = query.method.text := by simp
      rw [hText]
      split
      · exact ⟨fun hSame => Except.ok.inj hSame, fun hSame => congrArg Except.ok hSame⟩
      · next hFalse =>
          have hNothing : text = "" := by simpa [JsonValue.isTrue] using hFalse
          exact iff_of_false hUnnamed (hNothing ▸ hEmpty)

/-- The clause of a query without a search. -/
theorem whereClause_unsearched (hSearch : query.search = none) :
    repository.whereClause db (query.toDTO restaurantId).params = baseClause (query.toDTO restaurantId).params := by
  have hTerm : searchTerm? (query.toDTO restaurantId).params = none := by
    show truthy (query.search.map trim) = none
    rw [hSearch]
    rfl
  rw [whereClause, hTerm]

theorem status_matches {status : PaymentStatus} :
    ((some query.status).filter (· ≠ .all)).all (fun wanted => wanted.paymentStatus? = some status) = true ↔
      query.status = .all ∨ query.status.paymentStatus? = some status := by
  by_cases hAll : query.status = .all
  · simp [hAll, Option.filter]
  · simp [hAll, Option.filter]

theorem method_matches : (((some query.method).filter (· ≠ .all)).map TransactionPaymentMethod.text).all
    (fun method => tx.field "paymentMethod" = .str method) = true ↔
      query.method = .all ∨ tx.field "paymentMethod" = .str query.method.text := by
  by_cases hAll : query.method = .all
  · simp [hAll, Option.filter]
  · simp [hAll, Option.filter]

theorem amount_matches {amountPaise : Int} :
    ({ gte := query.minAmount, lte := query.maxAmount } : RangeFilter).matches amountPaise = true ↔
      (∀ least ∈ query.minAmount, least ≤ amountPaise) ∧ ∀ most ∈ query.maxAmount, amountPaise ≤ most := by
  simp [RangeFilter.matches, Option.all_eq_true]

/-- The first millisecond of a day begins it, and the last one ends it. -/
theorem createdAt_matches {createdAt : Instant} :
    RangeFilter.matches
      { gte := query.startDate.map (Calendar.makeDate · 0), lte := query.endDate.map (Calendar.makeDate · endOfDay) }
      createdAt = true ↔
        (∀ start ∈ query.startDate, start ≤ Calendar.day createdAt) ∧
          ∀ finish ∈ query.endDate, Calendar.day createdAt ≤ finish := by
  have hEnd (finish : Int) : createdAt ≤ Calendar.makeDate finish endOfDay ↔ Calendar.day createdAt ≤ finish := by
    rw [← Int.lt_add_one_iff, ← Int.lt_add_one_iff, ← Calendar.lt_makeDate_iff]
    unfold Calendar.makeDate endOfDay
    rw [Int.add_mul]
    omega
  simp [RangeFilter.matches, Option.all_eq_true, Calendar.makeDate_le_iff, hEnd]

theorem clauseMatches_iff :
    repository.engine.clauseMatches (baseClause (query.toDTO restaurantId).params) tx = true ↔
      repository.engine.restaurantMatches restaurantId tx = true ∧
        query.Passes tx.status tx.amountPaise tx.createdAt ∧
          (query.method = .all ∨ tx.field "paymentMethod" = .str query.method.text) := by
  simp only [QueryEngine.clauseMatches, Bool.and_eq_true]
  constructor
  · rintro ⟨⟨⟨⟨⟨⟨hOwn, hStatus⟩, hAmount⟩, hCreated⟩, hMethod⟩, _⟩, _⟩
    obtain ⟨hLeast, hMost⟩ := amount_matches.mp hAmount
    obtain ⟨hStart, hFinish⟩ := createdAt_matches.mp hCreated
    exact ⟨hOwn, ⟨status_matches.mp hStatus, hLeast, hMost, hStart, hFinish⟩, method_matches.mp hMethod⟩
  · rintro ⟨hOwn, ⟨hStatus, hLeast, hMost, hStart, hFinish⟩, hMethod⟩
    have hAmount := amount_matches.mpr ⟨hLeast, hMost⟩
    have hCreated := createdAt_matches.mpr ⟨hStart, hFinish⟩
    exact ⟨⟨⟨⟨⟨⟨hOwn, status_matches.mpr hStatus⟩, hAmount⟩, hCreated⟩, method_matches.mpr hMethod⟩, rfl⟩, rfl⟩

/-- No filter of the method selects anything. -/
theorem mem_matching (hRestaurant : repository.engine.uuid restaurantId = some restaurant)
    (hSearch : query.search = none) (hRow : tx ∈ db.transactions.rows) (hOwn : tx.restaurantId = restaurant)
    (hLacks : tx.LacksPaymentMethod) : tx ∈ repository.matching db (query.toDTO restaurantId).params ↔
      query.Passes tx.status tx.amountPaise tx.createdAt ∧ query.method = .all := by
  have hRestaurantMatches : repository.engine.restaurantMatches restaurantId tx = true :=
    decide_eq_true (hOwn ▸ hRestaurant)
  have hField : ¬ tx.field "paymentMethod" = .str query.method.text := by
    rw [hLacks.field]
    exact fun hSame => nomatch hSame
  rw [matching, mem_select, and_iff_right hRow, whereClause_unsearched hSearch, clauseMatches_iff,
    and_iff_right hRestaurantMatches, or_iff_left hField]

theorem all_fits {amount : Option Int} :
    amount.all (fun amount => Sql.Fits 32 amount) = true ↔ ∀ value ∈ amount, Sql.Fits 32 value := by
  simp [Option.all_eq_true]

/-- What Prisma accepts of the clause. -/
theorem accepts_iff (hRestaurant : repository.engine.uuid restaurantId = some restaurant) :
    repository.engine.accepts (baseClause (query.toDTO restaurantId).params) = true ↔
      query.status ≠ .pending ∧ (∀ least ∈ query.minAmount, Sql.Fits 32 least) ∧
        ∀ most ∈ query.maxAmount, Sql.Fits 32 most := by
  have hStatus : ((some query.status).filter (· ≠ .all)).all (fun status => status.paymentStatus?.isSome) = true ↔
      query.status ≠ .pending := by
    cases query.status <;> decide
  have hUuid : (repository.engine.uuid restaurantId).isSome = true := by
    rw [hRestaurant]
    rfl
  rw [← hStatus]
  simp only [QueryEngine.accepts, Bool.and_eq_true]
  constructor
  · rintro ⟨⟨⟨⟨_, hKnown⟩, hLeast⟩, hMost⟩, _⟩
    exact ⟨hKnown, all_fits.mp hLeast, all_fits.mp hMost⟩
  · rintro ⟨hKnown, hLeast, hMost⟩
    exact ⟨⟨⟨⟨hUuid, hKnown⟩, all_fits.mpr hLeast⟩, all_fits.mpr hMost⟩, rfl⟩

theorem accepts_of_answered {params : TransactionFilterParams} {result : PaginatedTransactionsResult}
    (h : repository.findTransactionsByRestaurant db params = .ok result) :
    repository.engine.accepts (repository.whereClause db params) = true := by
  by_contra hRefused
  rw [findTransactionsByRestaurant, Bool.eq_false_iff.mpr hRefused] at h
  cases h

/-- A query that Prisma accepts is answered if all that it selects can be shown. -/
theorem answered_of_shown {params : TransactionFilterParams}
    (hAccepts : repository.engine.accepts (repository.whereClause db params) = true)
    (hShown : ∀ tx ∈ repository.matching db params, ∃ text, tx.methodText repository.upperCase = .ok text) :
    ∃ result, repository.findTransactionsByRestaurant db params = .ok result := by
  have hRecords : ∀ tx ∈ (repository.fetch db (repository.whereClause db params) params).2,
      display repository.upperCase tx = .ok tx.id := fun tx hTx => display_isOk.mpr (hShown tx (mem_select.mpr (mem_findMany hTx)))
  have hIds := (Paging.mapM_display (fun tx id => @display_id repository.upperCase tx id)).mpr ⟨hRecords, rfl⟩
  unfold display at hIds
  rw [← Paging.map_mapM (PaymentTransaction.summary repository.upperCase) TransactionSummary.id] at hIds
  rw [findTransactionsByRestaurant, hAccepts]
  generalize repository.fetch db (repository.whereClause db params) params = fetched at hIds ⊢
  cases hSummaries : fetched.2.mapM (PaymentTransaction.summary repository.upperCase) with
  | error error =>
      rw [hSummaries] at hIds
      cases hIds
  | ok shown =>
      simp only [hSummaries]
      exact ⟨_, rfl⟩

theorem fits_iff : (∃ summary, tx.summary upperCase = .ok summary ∧ query.Fits summary) ↔
    query.Passes tx.status tx.amountPaise tx.createdAt ∧
      ∃ text, tx.methodText upperCase = .ok text ∧ (query.method = .all ∨ text = query.method.text) := by
  unfold PaymentTransaction.summary
  cases tx.methodText upperCase with
  | error error => exact iff_of_false (fun ⟨_, h, _⟩ => nomatch h) (fun ⟨_, _, h, _⟩ => nomatch h)
  | ok text =>
      constructor
      · rintro ⟨summary, hSummary, hPasses, hMethod⟩
        cases hSummary
        exact ⟨hPasses, text, rfl, hMethod⟩
      · rintro ⟨hPasses, shown, hShown, hMethod⟩
        cases hShown
        exact ⟨_, rfl, hPasses, hMethod⟩

/-- What is displayed of a transaction agrees with the selection exactly when its stored
method is none that the filters have to tell. -/
theorem row_iff (hRestaurant : repository.engine.uuid restaurantId = some restaurant) (hSearch : query.search = none)
    (hRow : tx ∈ db.transactions.rows) (hOwn : tx.restaurantId = restaurant) (hLacks : tx.LacksPaymentMethod) :
    (tx ∈ repository.matching db (query.toDTO restaurantId).params ↔
      ∃ summary, tx.summary repository.upperCase = .ok summary ∧ query.Fits summary) ↔
    (query.Passes tx.status tx.amountPaise tx.createdAt →
      (query.method = .all → (tx.field "method").isTrue = true → ∃ text, tx.field "method" = .str text) ∧
      (query.method ≠ .all → ∀ text, tx.field "method" = .str text → repository.upperCase.apply text ≠ query.method.text)) := by
  rw [mem_matching hRestaurant hSearch hRow hOwn hLacks, fits_iff, and_congr_right_iff]
  refine imp_congr_right fun _ => ?_
  by_cases hAll : query.method = .all
  · simp only [hAll, true_iff, true_or, and_true, ne_eq, not_true_eq_false, false_implies, true_implies]
    exact methodText_isOk hLacks
  · have hChosen := @methodText_eq_chosen repository.upperCase query tx hLacks hAll
    simp only [hAll, false_iff, false_or, ne_eq, not_false_eq_true, false_implies, true_implies, true_and]
    simp only [exists_eq_right, hChosen, not_exists, not_and]

theorem filtersMatchDisplay_iff (hRestaurant : repository.engine.uuid restaurantId = some restaurant)
    (hSearch : query.search = none) (hLacks : db.LacksPaymentMethods) :
    FiltersMatchDisplay repository db query restaurantId restaurant ↔ Filterable repository.upperCase db query restaurant := by
  have hAccepts : repository.engine.accepts (repository.whereClause db (query.toDTO restaurantId).params) = true ↔
      query.status ≠ .pending ∧ (∀ least ∈ query.minAmount, Sql.Fits 32 least) ∧
        ∀ most ∈ query.maxAmount, Sql.Fits 32 most := by
    rw [whereClause_unsearched hSearch]
    exact accepts_iff hRestaurant
  have hDisplayed (tx : PaymentTransaction) (hRow : tx ∈ db.transactions.rows) (hOwn : tx.restaurantId = restaurant) :=
    row_iff hRestaurant hSearch hRow hOwn (hLacks tx hRow)
  constructor
  · rintro ⟨⟨result, hResult⟩, hRows⟩
    obtain ⟨hStatus, hLeast, hMost⟩ := hAccepts.mp (accepts_of_answered hResult)
    refine ⟨hStatus, hLeast, hMost, fun hAll tx hRow hOwn hPasses => ?_, fun hChosen tx hRow hOwn hPasses => ?_⟩
    · exact ((hDisplayed tx hRow hOwn).mp (hRows tx hRow hOwn) hPasses).1 hAll
    · exact ((hDisplayed tx hRow hOwn).mp (hRows tx hRow hOwn) hPasses).2 hChosen
  · rintro ⟨hStatus, hLeast, hMost, hAll, hChosen⟩
    have hRows : ∀ tx ∈ db.transactions.rows, tx.restaurantId = restaurant →
        (tx ∈ repository.matching db (query.toDTO restaurantId).params ↔
          ∃ summary, tx.summary repository.upperCase = .ok summary ∧ query.Fits summary) := fun tx hRow hOwn =>
      (hDisplayed tx hRow hOwn).mpr fun hPasses =>
        ⟨fun hMethod => hAll hMethod tx hRow hOwn hPasses, fun hMethod => hChosen hMethod tx hRow hOwn hPasses⟩
    refine ⟨answered_of_shown (hAccepts.mpr ⟨hStatus, hLeast, hMost⟩) fun tx hTx => ?_, hRows⟩
    obtain ⟨hRow, hMatches⟩ := mem_select.mp hTx
    rw [whereClause_unsearched hSearch] at hMatches
    have hUuid : repository.engine.uuid restaurantId = some tx.restaurantId :=
      QueryEngine.restaurant_of_clauseMatches hMatches
    have hOwn : tx.restaurantId = restaurant := Option.some.inj (hUuid.symm.trans hRestaurant)
    obtain ⟨_, text, hText, _⟩ := fits_iff.mp ((hRows tx hRow hOwn).mp hTx)
    exact ⟨text, hText⟩

end Display

/-- After every sequence of calls, for every restaurant and every query without a search:
the query is answered, and selects the transactions whose summaries satisfy the filters,
exactly when the column has the status and the amounts, and no transaction that passes
the other filters has a stored method that the filter of the method should have found. -/
theorem filters_match_display_iff (repository : TransactionQueryRepository) (config : Config)
    (plans : Table SubscriptionPlan) (requests : List Request) (query : ListTransactionsQuery)
    (hSearch : query.search = none) (restaurantId : String) (restaurant : Uuid)
    (hRestaurant : repository.engine.uuid restaurantId = some restaurant) :
    FiltersMatchDisplay repository (run (serve config) (World.initial plans) requests).db query restaurantId restaurant ↔
      Filterable repository.upperCase (run (serve config) (World.initial plans) requests).db query restaurant :=
  filtersMatchDisplay_iff hRestaurant hSearch (run_lacksPaymentMethods config plans requests)

namespace Sample

def upiBody : String :=
  "\x7b\"event\":\"payment.captured\",\"payload\":\x7b\"payment\":\x7b\"entity\":\x7b\"id\":\"pay_1\",\"order_id\":\"order_1\",\"method\":\"upi\"\x7d\x7d\x7d\x7d"

def upiDigest : String := "253b20c72d3b483176ad489292a89d1c5eab0a5393d1c5c1589d06f4b476c6c7"

/-- The digest of this message is given beside those of the other samples. -/
def upiConfig : Config := { config with
  hmacSha256Hex := fun secret message =>
    if secret = "hook-secret" ∧ message = upiBody then upiDigest else config.hmacSha256Hex secret message }

/-- The delivery of `payment.captured` for a payment by UPI. -/
def upiCaptured (now : Instant) : Request where
  call := .handleWebhook {
    rawBody := upiBody
    signature := upiDigest
    parsedPayload := { paymentPayload .paymentCaptured "order_1" "pay_1" with
      payment := some {
        id := some "pay_1"
        orderId := some "order_1"
        method := some (.str "upi")
        errorDescription := none
        errorReason := none } } }
  env := env now

/-- A food order and its payment by UPI. -/
def upiOrder : List Request := [createOrderPayment 1000 7 50000 price_pos "order_1", upiCaptured 2000]

/-- All payments by UPI. -/
def upiQuery : ListTransactionsQuery := { singlesByAmount with method := .upi }

def upiTransaction : PaymentTransaction :=
  ((run (serve upiConfig) (World.initial Table.empty) upiOrder).db.transactions.get? 0).get (by decide +kernel)

end Sample

theorem filters_match_display_upi :
    FiltersMatchDisplay Sample.queries (run (serve Sample.upiConfig) (World.initial Table.empty) Sample.upiOrder).db
      Sample.upiQuery "21" 21 ↔
        Filterable Sample.upperCase (run (serve Sample.upiConfig) (World.initial Table.empty) Sample.upiOrder).db Sample.upiQuery 21 :=
  filters_match_display_iff Sample.queries Sample.upiConfig Table.empty Sample.upiOrder Sample.upiQuery rfl "21" 21
    (by decide +kernel)

/-- A payment that is displayed as UPI is not found among those by UPI. -/
theorem filters_match_display_fails : ¬ ∀ (repository : TransactionQueryRepository) (config : Config)
    (plans : Table SubscriptionPlan) (requests : List Request) (query : ListTransactionsQuery),
    query.search = none → ∀ (restaurantId : String) (restaurant : Uuid),
      repository.engine.uuid restaurantId = some restaurant →
        FiltersMatchDisplay repository (run (serve config) (World.initial plans) requests).db query restaurantId
          restaurant := by
  intro h
  have hMatch := h Sample.queries Sample.upiConfig Table.empty Sample.upiOrder Sample.upiQuery rfl "21" 21
    (by decide +kernel)
  have hLacks := run_lacksPaymentMethods Sample.upiConfig Table.empty Sample.upiOrder
  have hFilterable := (filtersMatchDisplay_iff (by decide +kernel) rfl hLacks).mp hMatch
  have hPasses : Sample.upiQuery.Passes Sample.upiTransaction.status Sample.upiTransaction.amountPaise
      Sample.upiTransaction.createdAt :=
    ⟨Or.inl rfl, (fun _ h => nomatch h), (fun _ h => nomatch h), (fun _ h => nomatch h), (fun _ h => nomatch h)⟩
  have hHidden := hFilterable.chosen (by decide) Sample.upiTransaction (by decide +kernel) (by decide +kernel) hPasses
  exact hHidden "upi" (by decide +kernel) (by decide +kernel)

end SpotqPayment
