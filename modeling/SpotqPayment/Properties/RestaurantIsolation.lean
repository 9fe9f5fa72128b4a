import SpotqPayment.Presentation.TransactionRoutes
import SpotqPayment.System.Service

/-! What a restaurant reads of its transactions depends on its own transactions and
their refunds only, whatever the query asks for and whether the raw search gets through. -/
namespace SpotqPayment

open Selection TransactionQueryRepository

/-- The databases have the same transactions of a restaurant and the same refunds of those. -/
structure Database.SameRestaurant (restaurant : Uuid) (first second : Database) : Prop where
  transactions : first.transactions.Agree (fun tx => tx.restaurantId = restaurant) second.transactions
  refunds : first.refunds.Agree
    (fun refund => ∃ tx ∈ first.transactions.rows, tx.restaurantId = restaurant ∧ refund.paymentTransactionId = tx.id)
    second.refunds

/-- The databases look the same to the restaurant that a text denotes. -/
def QueryEngine.SameView (engine : QueryEngine) (restaurantId : String) (first second : Database) : Prop :=
  ∀ restaurant, engine.uuid restaurantId = some restaurant → Database.SameRestaurant restaurant first second

variable {engine : QueryEngine} {repository : TransactionQueryRepository} {first second : Database}
  {restaurant : Uuid} {restaurantId term searchPattern : String} {clause : PaymentTransactionWhereInput}
  {params : TransactionFilterParams} {tx : PaymentTransaction}

section Clauses

theorem restaurantId_whereClause (db : Database) :
    (repository.whereClause db params).restaurantId = params.restaurantId := by
  unfold whereClause
  split
  · rfl
  · next term _ => cases repository.matchedIds? db params.restaurantId term <;> rfl

end Clauses

section Search

/-- The raw query finds the same ids. -/
theorem search_eq (hSame : engine.SameView restaurantId first second) :
    engine.search first restaurantId searchPattern = engine.search second restaurantId searchPattern := by
  unfold QueryEngine.search
  congr 1
  cases hUuid : engine.uuid restaurantId with
  | none => rfl
  | some restaurant =>
      have hSelect := select_eq (hSame restaurant hUuid).transactions
        (fun tx hMatches => of_decide_eq_true (Bool.and_eq_true_iff.mp hMatches).1 :
          ∀ tx, engine.searchMatches restaurant searchPattern tx = true → tx.restaurantId = restaurant)
      rw [Option.map_some, Option.map_some, hSelect]

/-- The clause is the same on both paths of the search. -/
theorem whereClause_eq (hSame : repository.engine.SameView params.restaurantId first second) :
    repository.whereClause first params = repository.whereClause second params := by
  have hIds : ∀ term, repository.matchedIds? first params.restaurantId term =
      repository.matchedIds? second params.restaurantId term := by
    intro term
    unfold matchedIds?
    rw [search_eq hSame]
  unfold whereClause
  simp only [hIds]

end Search

/-- What a clause of the restaurant selects is the same. -/
theorem fetch_eq (hSame : repository.engine.SameView clause.restaurantId first second) :
    repository.fetch first clause params = repository.fetch second clause params := by
  cases hUuid : repository.engine.uuid clause.restaurantId with
  | none =>
      have hNothing : ∀ tx, repository.engine.clauseMatches clause tx = true → False := by
        intro tx hMatches
        rw [QueryEngine.restaurant_of_clauseMatches hMatches] at hUuid
        cases hUuid
      have hAgree : first.transactions.Agree (fun _ => False) second.transactions := fun _ hFalse => hFalse.elim
      unfold fetch
      rw [count_eq hAgree hNothing, findMany_eq hAgree hNothing]
  | some restaurant =>
      have hOwn : ∀ tx, repository.engine.clauseMatches clause tx = true → tx.restaurantId = restaurant := by
        intro tx hMatches
        rw [QueryEngine.restaurant_of_clauseMatches hMatches] at hUuid
        exact Option.some.inj hUuid
      have hAgree := (hSame restaurant hUuid).transactions
      unfold fetch
      rw [count_eq hAgree hOwn, findMany_eq hAgree hOwn]

theorem findTransactionsByRestaurant_eq (hSame : repository.engine.SameView params.restaurantId first second) :
    repository.findTransactionsByRestaurant first params = repository.findTransactionsByRestaurant second params := by
  have hClause := whereClause_eq hSame
  have hFetch : repository.fetch first (repository.whereClause second params) params =
      repository.fetch second (repository.whereClause second params) params := by
    refine fetch_eq ?_
    rwa [restaurantId_whereClause]
  unfold findTransactionsByRestaurant
  rw [hClause, hFetch]

theorem latestRefund_eq (hSame : Database.SameRestaurant restaurant first second) (hTx : tx ∈ first.transactions.rows)
    (hRestaurant : tx.restaurantId = restaurant) : repository.latestRefund first tx = repository.latestRefund second tx :=
  findMany_eq hSame.refunds fun _ hMatching => ⟨tx, hTx, hRestaurant, of_decide_eq_true hMatching⟩

theorem findDetail_eq (id : Uuid) (hUuid : repository.engine.uuid restaurantId = some restaurant)
    (hSame : Database.SameRestaurant restaurant first second) :
    repository.findDetail first id restaurantId = repository.findDetail second id restaurantId := by
  have hOwn : ∀ tx, repository.engine.restaurantMatches restaurantId tx = true → tx.restaurantId = restaurant := by
    intro tx hMatches
    have hRestaurant := of_decide_eq_true hMatches
    rw [hUuid] at hRestaurant
    exact (Option.some.inj hRestaurant).symm
  unfold findDetail
  rw [← findByKey_eq hSame.transactions hOwn]
  cases hFound : findByKey first.transactions id (repository.engine.restaurantMatches restaurantId) with
  | none => rfl
  | some record =>
      obtain ⟨hRecord, _, hMatches⟩ := findByKey_eq_some.mp hFound
      show some <$> record.detail repository.upperCase (repository.latestRefund first record) = _
      rw [latestRefund_eq hSame hRecord (hOwn record hMatches)]

theorem findTransactionById_eq (id : String) (hSame : repository.engine.SameView restaurantId first second) :
    repository.findTransactionById first id restaurantId = repository.findTransactionById second id restaurantId := by
  unfold findTransactionById
  cases repository.engine.uuid id with
  | none => rfl
  | some id =>
      cases hUuid : repository.engine.uuid restaurantId with
      | none => rfl
      | some restaurant => exact findDetail_eq id hUuid (hSame restaurant hUuid)

/-- Databases that look the same to a restaurant give it the same list and the same detail. -/
theorem restaurant_isolated (repository : TransactionQueryRepository) (query : ListTransactionsQuery)
    (transactionId : String) {restaurantId : String} {first second : Database}
    (hSame : repository.engine.SameView restaurantId first second) :
    repository.findTransactionsByRestaurant first (query.toDTO restaurantId).params =
        repository.findTransactionsByRestaurant second (query.toDTO restaurantId).params ∧
      repository.findTransactionById first transactionId restaurantId =
        repository.findTransactionById second transactionId restaurantId :=
  ⟨findTransactionsByRestaurant_eq hSame, findTransactionById_eq transactionId hSame⟩

/-- A request that passes the middleware names its restaurant. -/
theorem restaurantId_of_passed {headers : RestaurantHeaders} (h : restaurantAdminAuthMiddleware headers = .ok ()) :
    ∃ restaurantId, headers.restaurantId = some restaurantId ∧ restaurantId ≠ "" := by
  unfold restaurantAdminAuthMiddleware at h
  split at h
  · cases h
  · next hNamed =>
      obtain ⟨restaurantId, hTruthy⟩ := Option.ne_none_iff_exists'.mp (not_or.mp hNamed).1
      obtain ⟨hHeader, hNonempty⟩ := Option.filter_eq_some_iff.mp hTruthy
      exact ⟨restaurantId, hHeader, of_decide_eq_true hNonempty⟩

/-- The routes answer alike over databases that look the same to the restaurant of the request. -/
theorem routes_isolated (repository : TransactionQueryRepository) (query : ListTransactionsQuery)
    (transactionId : String) {headers : RestaurantHeaders} {first second : Database}
    (hSame : ∀ restaurantId ∈ headers.restaurantId, restaurantId ≠ "" →
      repository.engine.SameView restaurantId first second) :
    RestaurantTransactionController.listTransactions repository first headers query =
        RestaurantTransactionController.listTransactions repository second headers query ∧
      RestaurantTransactionController.getTransactionDetail repository first headers transactionId =
        RestaurantTransactionController.getTransactionDetail repository second headers transactionId := by
  unfold RestaurantTransactionController.listTransactions RestaurantTransactionController.getTransactionDetail
  cases hPassed : restaurantAdminAuthMiddleware headers with
  | error refusal => exact ⟨rfl, rfl⟩
  | ok =>
      obtain ⟨restaurantId, hHeader, hNonempty⟩ := restaurantId_of_passed hPassed
      have hView := hSame restaurantId hHeader hNonempty
      rw [hHeader, Option.getD_some]
      rw [query.getRestaurantTransactions_eq, query.getRestaurantTransactions_eq,
        findTransactionsByRestaurant_eq hView, getTransactionDetail, findTransactionById_eq transactionId hView]
      exact ⟨rfl, rfl⟩

namespace Sample

theorem limit_min : (1 : Int) ≤ 20 := by decide

theorem limit_max : (20 : Int) ≤ 100 := by decide

theorem search_trimmed : ∀ text ∈ some "order_", trim text = text ∧ text ≠ "" := by decide

/-- The first orders that have this term in the id of the gateway. -/
def query : ListTransactionsQuery where
  page := 1
  limit := 20
  search := some "order_"
  status := .all
  method := .all
  startDate := none
  endDate := none
  minAmount := none
  maxAmount := none
  sortBy := .createdAt
  sortOrder := .desc
  page_min := le_refl 1
  limit_min := limit_min
  limit_max := limit_max
  search_trimmed := search_trimmed
  dates_ordered := fun _ h => absurd h (Option.not_mem_none _)
  minAmount_min := fun _ h => absurd h (Option.not_mem_none _)
  maxAmount_min := fun _ h => absurd h (Option.not_mem_none _)
  amounts_ordered := fun _ h => absurd h (Option.not_mem_none _)

/-- Another restaurant opens an order beside the one of restaurant 21. -/
def neighbour : World :=
  serve config openFoodOrder {
    call := .createOrderPayment {
      orderId := 8
      customerId := 12
      restaurantId := 22
      amountPaise := 60000
      currency := none
      amountPaise_pos := dearerPrice_pos }
    env := { env 2000 with gatewayOrderId := some "order_2" } }

theorem sameView_neighbour : queryEngine.SameView "21" openFoodOrder.db neighbour.db := by
  intro restaurant hUuid
  have hRestaurant : queryEngine.uuid "21" = some 21 := by
    show (if "21".toList.all Char.isDigit then some (Nat.ofDigitChars 10 "21".toList 0) else none) = some 21
    decide +kernel
  obtain rfl : 21 = restaurant := Option.some.inj (hRestaurant.symm.trans hUuid)
  refine ⟨?_, ?_⟩
  · intro tx hTx
    have hRows : openFoodOrder.db.transactions.rows.filter (fun tx => tx.restaurantId = 21) =
        neighbour.db.transactions.rows.filter (fun tx => tx.restaurantId = 21) := by decide +kernel
    exact Table.agree_of_filter hRows tx (decide_eq_true hTx)
  · have hRows : openFoodOrder.db.refunds.rows = neighbour.db.refunds.rows := by decide +kernel
    intro refund _
    rw [hRows]

end Sample

theorem restaurant_isolated_neighbour :
    Sample.neighbour.db.transactions.rows.length = 2 ∧
      Sample.queries.findTransactionsByRestaurant Sample.openFoodOrder.db (Sample.query.toDTO "21").params =
        Sample.queries.findTransactionsByRestaurant Sample.neighbour.db (Sample.query.toDTO "21").params ∧
      Sample.queries.findTransactionById Sample.openFoodOrder.db "1" "21" =
        Sample.queries.findTransactionById Sample.neighbour.db "1" "21" :=
  ⟨by decide +kernel, restaurant_isolated Sample.queries Sample.query "1" Sample.sameView_neighbour⟩

theorem routes_isolated_owner :
    let headers : RestaurantHeaders := { restaurantId := some "21", userId := some "9", userRole := some "owner" }
    restaurantAdminAuthMiddleware headers = .ok () ∧
      RestaurantTransactionController.listTransactions Sample.queries Sample.openFoodOrder.db headers Sample.query =
        RestaurantTransactionController.listTransactions Sample.queries Sample.neighbour.db headers Sample.query ∧
      RestaurantTransactionController.getTransactionDetail Sample.queries Sample.openFoodOrder.db headers "1" =
        RestaurantTransactionController.getTransactionDetail Sample.queries Sample.neighbour.db headers "1" := by
  intro headers
  refine ⟨by decide +kernel, routes_isolated Sample.queries Sample.query "1" ?_⟩
  rintro restaurantId ⟨⟩ -
  exact Sample.sameView_neighbour

end SpotqPayment
