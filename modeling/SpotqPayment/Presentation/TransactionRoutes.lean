import SpotqPayment.Application.RestaurantTransactions

/-! The transaction routes of a restaurant: the middleware that every request passes,
the query that the schema accepts, and the controller. -/
namespace SpotqPayment

/-- The headers of a request that the routes read. -/
structure RestaurantHeaders where
  restaurantId : Option String
  userId : Option String
  userRole : Option String

def allowedRoles : List String :=
  ["RESTAURANT_OWNER", "RESTAURANT_ADMIN", "RESTAURANT", "OWNER", "ADMIN", "PLATFORM_ADMIN", "SUPER_ADMIN", "STAFF",
    "RESTAURANT_STAFF", "MANAGER"]

inductive Refusal where
  | unauthorized | forbidden
  deriving DecidableEq, Repr

/-- `restaurantAdminAuthMiddleware`, which refuses a request or lets it pass. A header has
no character beyond Latin-1, and upper case makes no role of those beyond ASCII. -/
def restaurantAdminAuthMiddleware (headers : RestaurantHeaders) : Except Refusal Unit :=
  if truthy headers.restaurantId = none ∨ truthy headers.userId = none then .error .unauthorized
  else
    match truthy (headers.userRole.map fun role => trim role.toUpper) with
    | none => .error .forbidden
    | some role => if role ∈ allowedRoles then .ok () else .error .forbidden

/-- A query that `listTransactionsQuerySchema` accepts. -/
structure ListTransactionsQuery where
  page : Int
  limit : Int
  search : Option String
  status : TransactionQueryStatus
  method : TransactionPaymentMethod
  startDate : Option Int
  endDate : Option Int
  minAmount : Option Int
  maxAmount : Option Int
  sortBy : TransactionSortField
  sortOrder : SortDirection
  page_min : 1 ≤ page
  limit_min : 1 ≤ limit
  limit_max : limit ≤ 100
  search_trimmed : ∀ text ∈ search, trim text = text ∧ text ≠ ""
  dates_ordered : ∀ start ∈ startDate, ∀ finish ∈ endDate, start ≤ finish
  minAmount_min : ∀ amount ∈ minAmount, 0 ≤ amount
  maxAmount_min : ∀ amount ∈ maxAmount, 0 ≤ amount
  amounts_ordered : ∀ least ∈ minAmount, ∀ most ∈ maxAmount, least ≤ most

def ListTransactionsQuery.toDTO (query : ListTransactionsQuery) (restaurantId : String) : ListTransactionsQueryDTO where
  restaurantId := restaurantId
  page := query.page
  limit := query.limit
  search := query.search
  status := some query.status
  method := some query.method
  startDate := query.startDate
  endDate := query.endDate
  minAmount := query.minAmount
  maxAmount := query.maxAmount
  sortBy := some query.sortBy
  sortOrder := some query.sortOrder

/-- The schema has compared the dates already. -/
theorem ListTransactionsQuery.getRestaurantTransactions_eq (repository : TransactionQueryRepository) (db : Database)
    (query : ListTransactionsQuery) (restaurantId : String) :
    getRestaurantTransactions repository db (query.toDTO restaurantId) =
      PaginatedTransactionsResult.toDTO <$>
        repository.findTransactionsByRestaurant db (query.toDTO restaurantId).params := by
  have hDates : (query.startDate.any fun start => query.endDate.any fun finish => finish < start) = false := by
    rw [Option.any_eq_false]
    intro start hStart
    rw [Option.any_eq_false]
    intro finish hFinish
    exact decide_eq_false (not_lt.mpr (query.dates_ordered start hStart finish hFinish))
  exact if_neg (ne_true_of_eq_false hDates)

inductive RouteError where
  | refused (refusal : Refusal)
  | failed (error : QueryError)
  deriving DecidableEq, Repr

namespace RestaurantTransactionController

variable (repository : TransactionQueryRepository) (db : Database)

/-- The route of the list. -/
def listTransactions (headers : RestaurantHeaders) (query : ListTransactionsQuery) :
    Except RouteError ListTransactionsOutputDTO := do
  (restaurantAdminAuthMiddleware headers).mapError .refused
  (getRestaurantTransactions repository db (query.toDTO (headers.restaurantId.getD ""))).mapError .failed

/-- The route of the detail. -/
def getTransactionDetail (headers : RestaurantHeaders) (transactionId : String) :
    Except RouteError TransactionDetailDTO := do
  (restaurantAdminAuthMiddleware headers).mapError .refused
  (SpotqPayment.getTransactionDetail repository db transactionId (headers.restaurantId.getD "")).mapError .failed

end RestaurantTransactionController

namespace Sample

def holds (text term : String) : Bool := (text.splitOn term).length > 1

noncomputable def queryEngine : QueryEngine where
  uuid text := if text.toList.all Char.isDigit then some (Nat.ofDigitChars 10 text.toList 0) else none
  ilike text searchPattern := holds text.toLower (searchPattern.replace "%" "").toLower
  contains := holds
  containsInsensitive text term := holds text.toLower term.toLower
  transactions := { list := Finset.toList, nodup := Finset.nodup_toList, mem_list := fun _ _ => Finset.mem_toList }
  refunds := { list := Finset.toList, nodup := Finset.nodup_toList, mem_list := fun _ _ => Finset.mem_toList }

/-- A mapping that leaves what is beyond ASCII as it is. -/
def upperCase : UpperCase where
  apply := String.toUpper
  ascii := fun _ _ => rfl

noncomputable def queries : TransactionQueryRepository where
  engine := queryEngine
  upperCase := upperCase
  searchFails := false

end Sample

end SpotqPayment
