import SpotqPayment.Library.Like
import SpotqPayment.Properties.PagesShowOnce

/-! A search by the raw query and by the conditions that stand in for it. Both look for
a pattern in which the term is not escaped, so that they find its lookalikes: the one in
four texts without regard to case, the other in three of them, and in the case of the
term unless it is the payment id. -/
namespace SpotqPayment

open Selection

/-- The operators do what the manuals of the database and of Prisma say: a filter looks
for the term between percent signs with `LIKE`, or with `ILIKE` if case is ignored. -/
structure QueryEngine.Documented (engine : QueryEngine) (folding : CaseFolding) : Prop where
  ilike : ∀ text searchPattern, engine.ilike text searchPattern = true ↔ folding.MatchesPattern text searchPattern
  contains : ∀ text term, engine.contains text term = true ↔ Like.like text.toList ("%" ++ term ++ "%").toList = true
  containsInsensitive : ∀ text term,
    engine.containsInsensitive text term = true ↔ folding.MatchesPattern text ("%" ++ term ++ "%")

namespace PaymentTransaction

variable (tx : PaymentTransaction)

/-- The texts that a search looks through: the ids of the payment and of the order at the
gateway, the number of the order and the name of the customer. -/
def searchTexts : List String :=
  tx.razorpayPaymentId.toList ++ tx.razorpayOrderId ::
    ((tx.field "orderNumber").text?.toList ++ (tx.field "customerName").text?.toList)

/-- The term is in one of the texts. -/
def Has (folding : CaseFolding) (term : String) : Prop := ∃ text ∈ tx.searchTexts, folding.Contains text term

/-- A lookalike of the term is in one of the texts. -/
def Resembles (folding : CaseFolding) (term : String) : Prop := ∃ text ∈ tx.searchTexts, folding.Resembles text term

/-- A lookalike of the term is in the payment id, or in the same case in a string of the
metadata. -/
def ShowsTerm (folding : CaseFolding) (term : String) : Prop :=
  (∃ text ∈ tx.razorpayPaymentId, folding.Resembles text term) ∨
    ∃ name ∈ ["orderNumber", "customerName"], ∃ text, tx.field name = .str text ∧
      Like.Resembles text.toList term.toList

end PaymentTransaction

namespace TransactionQueryRepository

variable (repository : TransactionQueryRepository) (db : Database) (params : TransactionFilterParams)

/-- The repository while the raw query gets through, or fails. -/
def searching (searchFails : Bool) : TransactionQueryRepository := { repository with searchFails }

/-- The ids of all transactions that a list selects, whatever page is asked for. -/
def selectedIds : Except QueryError (Finset Uuid) :=
  if repository.engine.accepts (repository.whereClause db params) then
    .ok ((repository.matching db params).image PaymentTransaction.id)
  else .error .invalidArgument

/-- Both ways of searching select the same transactions, those that pass the other
filters and have the term in one of the texts. -/
structure SearchesAlike (folding : CaseFolding) (term : String) : Prop where
  same : (repository.searching false).selectedIds db params = (repository.searching true).selectedIds db params
  literal : ∀ searchFails ids, (repository.searching searchFails).selectedIds db params = .ok ids →
    ∀ tx ∈ db.transactions.rows, tx.id ∈ ids ↔
      repository.engine.clauseMatches (baseClause params) tx = true ∧ tx.Has folding term

variable {repository db params} {folding : CaseFolding} {term : String} {tx : PaymentTransaction}

theorem isText_pattern : Sql.isText ("%" ++ term ++ "%") = Sql.isText term := by
  simp [Sql.isText]

theorem accepts_ids (ids : Finset Uuid) :
    repository.engine.accepts (withSearch (baseClause params) term (some ids)) =
      repository.engine.accepts (baseClause params) := rfl

theorem accepts_conditions : repository.engine.accepts (withSearch (baseClause params) term none) =
    (repository.engine.accepts (baseClause params) && Sql.isText term) := by
  simp [QueryEngine.accepts, withSearch, baseClause, SearchCondition.term]

/-- Whichever way is taken, the filters and the term decide. -/
theorem accepts_searching (hTerm : searchTerm? params = some term) (searchFails : Bool) :
    (repository.searching searchFails).engine.accepts ((repository.searching searchFails).whereClause db params) =
      (repository.engine.accepts (baseClause params) && Sql.isText term) := by
  have hClause : (repository.searching searchFails).whereClause db params = withSearch (baseClause params) term
      ((repository.searching searchFails).matchedIds? db params.restaurantId term) := by
    rw [whereClause, hTerm]
  rw [hClause]
  cases hIds : (repository.searching searchFails).matchedIds? db params.restaurantId term with
  | none => exact accepts_conditions
  | some ids =>
      have hText : Sql.isText term = true := by
        unfold matchedIds? QueryEngine.search at hIds
        rw [isText_pattern] at hIds
        by_contra hNoText
        rw [if_neg hNoText] at hIds
        split at hIds <;> cases hIds
      rw [hText, Bool.and_true]
      exact accepts_ids ids

theorem clauseMatches_ids (ids : Finset Uuid) : repository.engine.clauseMatches
    (withSearch (baseClause params) term (some ids)) tx = true ↔
      repository.engine.clauseMatches (baseClause params) tx = true ∧ tx.id ∈ ids := by
  simp [QueryEngine.clauseMatches, withSearch, baseClause]

theorem clauseMatches_conditions : repository.engine.clauseMatches (withSearch (baseClause params) term none) tx = true ↔
    repository.engine.clauseMatches (baseClause params) tx = true ∧
      ([SearchCondition.razorpayPaymentIdContains term, .metadataContains "orderNumber" term,
        .metadataContains "customerName" term].any (repository.engine.conditionMatches tx)) = true := by
  simp [QueryEngine.clauseMatches, withSearch, baseClause]

theorem searchMatches_iff (hEngine : repository.engine.Documented folding) :
    repository.engine.searchMatches tx.restaurantId ("%" ++ term ++ "%") tx = true ↔ tx.Resembles folding term := by
  simp only [QueryEngine.searchMatches, PaymentTransaction.Resembles, PaymentTransaction.searchTexts, decide_true,
    Bool.true_and, Bool.or_eq_true, Option.any_eq_true, hEngine.ilike, CaseFolding.matchesPattern_iff,
    List.mem_append, List.mem_cons,
    Option.mem_toList, or_and_right, exists_or, exists_eq_left, or_assoc]

theorem metadataContains_iff (hEngine : repository.engine.Documented folding) {name : String} :
    repository.engine.conditionMatches tx (.metadataContains name term) = true ↔
      ∃ text, tx.field name = .str text ∧ Like.Resembles text.toList term.toList := by
  have hPattern : ("%" ++ term ++ "%").toList = '%' :: (term.toList ++ ['%']) := by simp
  rw [QueryEngine.conditionMatches]
  cases tx.field name with
  | str text => simp [hEngine.contains, hPattern, Like.like_iff_resembles]
  | null => simp
  | other text => simp

theorem conditions_iff (hEngine : repository.engine.Documented folding) :
    ([SearchCondition.razorpayPaymentIdContains term, .metadataContains "orderNumber" term,
      .metadataContains "customerName" term].any (repository.engine.conditionMatches tx)) = true ↔
        tx.ShowsTerm folding term := by
  have hPayment : repository.engine.conditionMatches tx (.razorpayPaymentIdContains term) = true ↔
      ∃ text ∈ tx.razorpayPaymentId, folding.Resembles text term := by
    simp only [QueryEngine.conditionMatches, Option.any_eq_true, hEngine.containsInsensitive,
      CaseFolding.matchesPattern_iff, Option.mem_def]
  simp only [List.any_cons, List.any_nil, Bool.or_false, Bool.or_eq_true, hPayment, metadataContains_iff hEngine,
    PaymentTransaction.ShowsTerm, List.mem_cons, List.not_mem_nil, or_false, or_and_right, exists_or, exists_eq_left]

/-- While the raw query gets through, its pattern decides. -/
theorem mem_matching_raw (hTerm : searchTerm? params = some term) (hText : Sql.isText term = true)
    (hEngine : repository.engine.Documented folding) (hRow : tx ∈ db.transactions.rows) :
    tx ∈ (repository.searching false).matching db params ↔
      repository.engine.clauseMatches (baseClause params) tx = true ∧ tx.Resembles folding term := by
  have hPattern : Sql.isText ("%" ++ term ++ "%") = true := isText_pattern.trans hText
  have hClause : (repository.searching false).whereClause db params =
      withSearch (baseClause params) term (repository.engine.search db params.restaurantId ("%" ++ term ++ "%")) := by
    rw [whereClause, hTerm]
    rfl
  rw [matching, mem_select, hClause, and_iff_right hRow]
  cases hUuid : repository.engine.uuid params.restaurantId with
  | none =>
      have hBase : ¬ repository.engine.clauseMatches (baseClause params) tx = true := fun hMatches =>
        nomatch hUuid.symm.trans (QueryEngine.restaurant_of_clauseMatches hMatches)
      rw [QueryEngine.search, if_pos hPattern, hUuid]
      exact iff_of_false (fun h => hBase (clauseMatches_conditions.mp h).1) (fun h => hBase h.1)
  | some restaurant =>
      rw [QueryEngine.search, if_pos hPattern, hUuid, Option.map_some]
      refine (clauseMatches_ids _).trans (and_congr_right fun hMatches => ?_)
      obtain rfl := Option.some.inj (hUuid.symm.trans (QueryEngine.restaurant_of_clauseMatches hMatches))
      rw [Finset.mem_image, ← searchMatches_iff hEngine]
      constructor
      · rintro ⟨other, hOther, hId⟩
        obtain ⟨hOtherRow, hSearch⟩ := mem_select.mp hOther
        obtain rfl := Table.eq_of_key hOtherRow hRow hId
        exact hSearch
      · intro hSearch
        exact ⟨tx, mem_select.mpr ⟨hRow, hSearch⟩, rfl⟩

/-- While it fails, the conditions of the clause do. -/
theorem mem_matching_fallback (hTerm : searchTerm? params = some term) (hEngine : repository.engine.Documented folding)
    (hRow : tx ∈ db.transactions.rows) : tx ∈ (repository.searching true).matching db params ↔
      repository.engine.clauseMatches (baseClause params) tx = true ∧ tx.ShowsTerm folding term := by
  have hClause : (repository.searching true).whereClause db params = withSearch (baseClause params) term none := by
    rw [whereClause, hTerm]
    rfl
  rw [matching, mem_select, hClause, and_iff_right hRow]
  exact clauseMatches_conditions.trans (and_congr_right fun _ => conditions_iff hEngine)

theorem mem_image_matching (hRow : tx ∈ db.transactions.rows) :
    tx.id ∈ (repository.matching db params).image PaymentTransaction.id ↔ tx ∈ repository.matching db params := by
  rw [Finset.mem_image]
  constructor
  · rintro ⟨other, hOther, hId⟩
    rwa [Table.eq_of_key hRow (mem_select.mp hOther).1 hId.symm]
  · intro hMem
    exact ⟨tx, hMem, rfl⟩

/-- The term is one that both ways of searching find where it is, in the rows that the
other filters leave: if it has a character that is special in a pattern, none of these
rows has a mere lookalike of it, and each that has the term has it, or a lookalike, in
one of the three texts of the conditions, in the case in which they are asked for it. -/
structure Findable (repository : TransactionQueryRepository) (db : Database) (params : TransactionFilterParams)
    (folding : CaseFolding) (term : String) : Prop where
  lookalikes : ¬ (∀ c ∈ term.toList, Like.isPlain c = true) → ∀ tx ∈ db.transactions.rows,
    repository.engine.clauseMatches (baseClause params) tx = true → tx.Resembles folding term → tx.Has folding term
  shown : ∀ tx ∈ db.transactions.rows, repository.engine.clauseMatches (baseClause params) tx = true →
    tx.Has folding term → tx.ShowsTerm folding term

/-- What the conditions of the clause find, the pattern of the raw query finds. -/
theorem resembles_of_showsTerm (h : tx.ShowsTerm folding term) : tx.Resembles folding term := by
  unfold PaymentTransaction.Resembles PaymentTransaction.searchTexts
  rcases h with ⟨text, hText, hResembles⟩ | ⟨name, hName, text, hField, hResembles⟩
  · exact ⟨text, by simp [Option.mem_def.mp hText], hResembles⟩
  · refine ⟨text, ?_, CaseFolding.resembles_of_like hResembles⟩
    simp only [List.mem_cons, List.not_mem_nil, or_false] at hName
    rcases hName with rfl | rfl
    · simp [hField, JsonValue.text?]
    · simp [hField, JsonValue.text?]

theorem has_of_resembles (hPlain : ∀ c ∈ term.toList, Like.isPlain c = true) (h : tx.Resembles folding term) :
    tx.Has folding term := by
  obtain ⟨text, hText, hResembles⟩ := h
  exact ⟨text, hText, (CaseFolding.resembles_iff_of_plain hPlain).mp hResembles⟩

theorem searchesAlike_iff_rows (hTerm : searchTerm? params = some term)
    (hEngine : repository.engine.Documented folding) : repository.SearchesAlike db params folding term ↔
      (repository.engine.accepts (baseClause params) = true → Sql.isText term = true → ∀ tx ∈ db.transactions.rows,
        repository.engine.clauseMatches (baseClause params) tx = true →
          (tx.Resembles folding term ↔ tx.Has folding term) ∧ (tx.ShowsTerm folding term ↔ tx.Has folding term)) := by
  have hIds (searchFails : Bool) : (repository.searching searchFails).selectedIds db params =
      if (repository.engine.accepts (baseClause params) && Sql.isText term) = true then
        .ok (((repository.searching searchFails).matching db params).image PaymentTransaction.id)
      else .error .invalidArgument := by
    rw [selectedIds, accepts_searching hTerm]
  by_cases hAccepts : (repository.engine.accepts (baseClause params) && Sql.isText term) = true
  · obtain ⟨hBase, hText⟩ := Bool.and_eq_true_iff.mp hAccepts
    simp only [hAccepts, if_true] at hIds
    constructor
    · rintro ⟨_, hLiteral⟩ _ _ tx hRow hMatches
      have hRaw := hLiteral false _ (hIds false) tx hRow
      have hFallback := hLiteral true _ (hIds true) tx hRow
      rw [mem_image_matching hRow, mem_matching_raw hTerm hText hEngine hRow, and_congr_right_iff] at hRaw
      rw [mem_image_matching hRow, mem_matching_fallback hTerm hEngine hRow, and_congr_right_iff] at hFallback
      exact ⟨hRaw hMatches, hFallback hMatches⟩
    · intro hRows
      have hMatching : (repository.searching false).matching db params = (repository.searching true).matching db params := by
        ext tx
        by_cases hRow : tx ∈ db.transactions.rows
        · rw [mem_matching_raw hTerm hText hEngine hRow, mem_matching_fallback hTerm hEngine hRow]
          refine and_congr_right fun hMatches => ?_
          rw [(hRows hBase hText tx hRow hMatches).1, (hRows hBase hText tx hRow hMatches).2]
        · exact iff_of_false (fun h => hRow (mem_select.mp h).1) (fun h => hRow (mem_select.mp h).1)
      refine ⟨by rw [hIds, hIds, hMatching], fun searchFails ids hSelected tx hRow => ?_⟩
      rw [← Except.ok.inj ((hIds searchFails).symm.trans hSelected), mem_image_matching hRow]
      have hRaw : tx ∈ (repository.searching false).matching db params ↔
          repository.engine.clauseMatches (baseClause params) tx = true ∧ tx.Has folding term := by
        rw [mem_matching_raw hTerm hText hEngine hRow]
        exact and_congr_right fun hMatches => (hRows hBase hText tx hRow hMatches).1
      cases searchFails with
      | false => exact hRaw
      | true => rwa [← hMatching]
  · simp only [hAccepts] at hIds
    refine iff_of_true ⟨(hIds false).trans (hIds true).symm, fun searchFails ids h => ?_⟩ fun hBase hText =>
      absurd (Bool.and_eq_true_iff.mpr ⟨hBase, hText⟩) hAccepts
    cases (hIds searchFails).symm.trans h

theorem searchesAlike_iff (hTerm : searchTerm? params = some term) (hEngine : repository.engine.Documented folding) :
    repository.SearchesAlike db params folding term ↔
      (repository.engine.accepts (baseClause params) = true → Sql.isText term = true →
        repository.Findable db params folding term) := by
  rw [searchesAlike_iff_rows hTerm hEngine]
  refine imp_congr_right fun _ => imp_congr_right fun _ => ?_
  constructor
  · intro hRows
    exact ⟨fun _ tx hRow hMatches => (hRows tx hRow hMatches).1.mp,
      fun tx hRow hMatches => (hRows tx hRow hMatches).2.mpr⟩
  · rintro ⟨hLookalikes, hShown⟩ tx hRow hMatches
    have hHas : tx.Resembles folding term → tx.Has folding term := by
      by_cases hPlain : ∀ c ∈ term.toList, Like.isPlain c = true
      · exact has_of_resembles hPlain
      · exact hLookalikes hPlain tx hRow hMatches
    have hShows := hShown tx hRow hMatches
    exact ⟨⟨hHas, fun h => resembles_of_showsTerm (hShows h)⟩, ⟨fun h => hHas (resembles_of_showsTerm h), hShows⟩⟩

end TransactionQueryRepository

/-- For every table, every restaurant and every search whose filters and term the database
takes: the two ways of searching select the same transactions, those with the term in one
of four texts, exactly when the term is one that both of them find where it is. -/
theorem searches_alike_iff (repository : TransactionQueryRepository) (db : Database) (query : ListTransactionsQuery)
    (restaurantId : String) (folding : CaseFolding) (hEngine : repository.engine.Documented folding) (term : String)
    (hTerm : query.search = some term) :
    repository.SearchesAlike db (query.toDTO restaurantId).params folding term ↔
      (repository.engine.accepts (TransactionQueryRepository.baseClause (query.toDTO restaurantId).params) = true →
        Sql.isText term = true → repository.Findable db (query.toDTO restaurantId).params folding term) := by
  obtain ⟨hTrim, hSome⟩ := query.search_trimmed term hTerm
  refine TransactionQueryRepository.searchesAlike_iff ?_ hEngine
  show truthy (query.search.map trim) = some term
  rw [hTerm, Option.map_some, hTrim]
  exact Option.filter_some_pos (by simpa using hSome)

namespace Sample

noncomputable def likeEngine : QueryEngine where
  uuid := queryEngine.uuid
  ilike := fun text searchPattern => CaseFolding.lowerCase.MatchesPattern text searchPattern
  contains := fun text term => Like.like text.toList ("%" ++ term ++ "%").toList
  containsInsensitive := fun text term => CaseFolding.lowerCase.MatchesPattern text ("%" ++ term ++ "%")
  transactions := queryEngine.transactions
  refunds := queryEngine.refunds

noncomputable def likeQueries : TransactionQueryRepository where
  engine := likeEngine
  upperCase := upperCase
  searchFails := false

theorem likeEngine_documented : likeEngine.Documented CaseFolding.lowerCase where
  ilike := fun _ _ => decide_eq_true_iff
  contains := fun _ _ => Iff.rfl
  containsInsensitive := fun _ _ => decide_eq_true_iff

/-- A search for the start of the gateway's order ids. -/
def orderSearch : ListTransactionsQuery := { singlesByAmount with
  search := some "Order"
  search_trimmed := by decide }

theorem openTransaction_isSome : (openFoodOrder.db.transactions.get? 0).isSome = true := by
  decide

/-- The food order before its payment. -/
def openTransactionRow : PaymentTransaction := (openFoodOrder.db.transactions.get? 0).get openTransaction_isSome

end Sample

theorem searches_alike_orderSearch :
    Sample.likeQueries.SearchesAlike Sample.openFoodOrder.db (Sample.orderSearch.toDTO "21").params
      CaseFolding.lowerCase "Order" ↔
        (Sample.likeQueries.engine.accepts
            (TransactionQueryRepository.baseClause (Sample.orderSearch.toDTO "21").params) = true →
          Sql.isText "Order" = true → Sample.likeQueries.Findable Sample.openFoodOrder.db
            (Sample.orderSearch.toDTO "21").params CaseFolding.lowerCase "Order") :=
  searches_alike_iff Sample.likeQueries Sample.openFoodOrder.db Sample.orderSearch "21" CaseFolding.lowerCase
    Sample.likeEngine_documented "Order" rfl

/-- The id of the order at the gateway is not searched while the raw query fails. -/
theorem searches_alike_fails : ¬ ∀ (repository : TransactionQueryRepository) (db : Database)
    (query : ListTransactionsQuery) (restaurantId : String) (folding : CaseFolding),
    repository.engine.Documented folding → ∀ term, query.search = some term →
      repository.SearchesAlike db (query.toDTO restaurantId).params folding term := by
  intro h
  have hAlike := h Sample.likeQueries Sample.openFoodOrder.db Sample.orderSearch "21" CaseFolding.lowerCase
    Sample.likeEngine_documented "Order" rfl
  have hTerm : TransactionQueryRepository.searchTerm? (Sample.orderSearch.toDTO "21").params = some "Order" := by
    decide
  have hFindable := (TransactionQueryRepository.searchesAlike_iff hTerm Sample.likeEngine_documented).mp hAlike
  have hHas : Sample.openTransactionRow.Has CaseFolding.lowerCase "Order" :=
    ⟨"order_1", by decide +kernel, by decide +kernel⟩
  have hShows := (hFindable (by decide +kernel) (by decide +kernel)).shown Sample.openTransactionRow (by decide +kernel) (by decide +kernel) hHas
  rcases hShows with ⟨text, hPayment, _⟩ | ⟨name, hName, text, hField, _⟩
  · have hNone : Sample.openTransactionRow.razorpayPaymentId = none := by decide +kernel
    cases hNone.symm.trans hPayment
  · simp only [List.mem_cons, List.not_mem_nil, or_false] at hName
    have hOrder : Sample.openTransactionRow.field "orderNumber" = .null := by decide +kernel
    have hCustomer : Sample.openTransactionRow.field "customerName" = .null := by decide +kernel
    rcases hName with rfl | rfl
    · cases hOrder.symm.trans hField
    · cases hCustomer.symm.trans hField

end SpotqPayment
