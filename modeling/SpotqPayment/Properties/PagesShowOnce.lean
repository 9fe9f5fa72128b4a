import SpotqPayment.Infrastructure.SubscriberQuery
import SpotqPayment.Presentation.TransactionRoutes
import SpotqPayment.System.Service

/-! Reading a list page by page. Each page is a query of its own, sorted by one column
only, and rows that are equal in it may stand in another order each time. -/
namespace SpotqPayment

open Selection

/-- The same request for another page, counted from zero. -/
def TransactionFilterParams.atPage (params : TransactionFilterParams) (page : Nat) : TransactionFilterParams :=
  { params with page := page + 1 }

section Transactions

namespace TransactionQueryRepository

variable (repository : TransactionQueryRepository) (db : Database) (params : TransactionFilterParams)

/-- The repository over a database that arranges the transactions in some way. -/
def arranged (arrangement : Arrangement PaymentTransaction) : TransactionQueryRepository :=
  { repository with engine := { repository.engine with transactions := arrangement } }

/-- The requests for the pages of a list: how many pages there are, and the ids on the page. -/
def request (arrangements : Nat → Arrangement PaymentTransaction) (page : Nat) : Except QueryError (Nat × List Uuid) :=
  ((repository.arranged (arrangements page)).findTransactionsByRestaurant db (params.atPage page)).map
    fun result => (result.pagination.totalPages, result.transactions.map TransactionSummary.id)

def matching : Finset PaymentTransaction :=
  select db.transactions (repository.engine.clauseMatches (repository.whereClause db params))

def order : RowOrder PaymentTransaction := .byRank (rank params) (descending params)

/-- The id of a transaction, if it can be shown. -/
def display (upperCase : UpperCase) (tx : PaymentTransaction) : Except QueryError Uuid :=
  (tx.summary upperCase).map TransactionSummary.id

variable {repository db params}

theorem display_id {upperCase : UpperCase} {tx : PaymentTransaction} {id : Uuid} (h : display upperCase tx = .ok id) :
    id = tx.id := by
  unfold display PaymentTransaction.summary at h
  cases hMethod : tx.methodText upperCase with
  | error error =>
      rw [hMethod] at h
      cases h
  | ok text =>
      rw [hMethod] at h
      cases h
      rfl

theorem display_isOk {upperCase : UpperCase} {tx : PaymentTransaction} :
    display upperCase tx = .ok tx.id ↔ ∃ text, tx.methodText upperCase = .ok text := by
  unfold display PaymentTransaction.summary
  cases hMethod : tx.methodText upperCase with
  | error error => exact iff_of_false (fun h => by cases h) (fun ⟨_, h⟩ => by cases h)
  | ok text => exact iff_of_true rfl ⟨text, rfl⟩

theorem limit_pos : 0 < (limit params).toNat := by
  have hLimit : 1 ≤ limit params := le_max_left 1 params.limit
  omega

/-- The page after so many others starts after their rows. -/
theorem skip_atPage (page : Nat) : (skip (params.atPage page)).toNat = page * (limit params).toNat := by
  have hPage : TransactionQueryRepository.page (params.atPage page) = page + 1 :=
    max_eq_right (by show (1 : Int) ≤ page + 1; omega)
  have hLimit : limit (params.atPage page) = limit params := rfl
  have hNonnegative : 0 ≤ limit params := (Int.le_max_left 1 params.limit).trans' (by decide)
  rw [skip, hPage, hLimit, Paging.toNat_skip page hNonnegative]

theorem totalPages_eq (totalRecords : Nat) :
    totalPages totalRecords (limit params) = Paging.pageCount totalRecords (limit params).toNat := by
  rw [totalPages]
  split
  · rfl
  · next hNone => rw [Nat.eq_zero_of_not_pos hNone, Paging.pageCount_zero limit_pos]

/-- A request that Prisma accepts is answered with a window of the sorted rows. -/
theorem request_eq (hAccepts : repository.engine.accepts (repository.whereClause db params) = true)
    (arrangements : Nat → Arrangement PaymentTransaction) (page : Nat) :
    repository.request db params arrangements page = Paging.answer (display repository.upperCase) (arrangements page)
      (order params) (repository.matching db params) (limit params).toNat page := by
  have hAccepted : (repository.arranged (arrangements page)).engine.accepts
      ((repository.arranged (arrangements page)).whereClause db (params.atPage page)) = true := hAccepts
  have hFetch : (repository.arranged (arrangements page)).fetch db
      ((repository.arranged (arrangements page)).whereClause db (params.atPage page)) (params.atPage page) =
        ((repository.matching db params).card, Paging.window (page * (limit params).toNat) (limit params).toNat
          (Paging.sorted (arrangements page) (order params) (repository.matching db params))) := by
    rw [← skip_atPage]
    rfl
  have hTotal : totalPages (repository.matching db params).card (limit (params.atPage page)) =
      Paging.pageCount (repository.matching db params).card (limit params).toNat := totalPages_eq _
  have hDisplay : display repository.upperCase =
      fun tx => (tx.summary repository.upperCase).map TransactionSummary.id := rfl
  rw [Paging.answer, request, findTransactionsByRestaurant, hAccepted, hFetch, ← hTotal]
  generalize Paging.window _ _ _ = records
  rw [hDisplay, ← Paging.map_mapM (PaymentTransaction.summary repository.upperCase) TransactionSummary.id]
  simp only [Bool.not_true, Bool.false_eq_true, if_false]
  have hUpper : (repository.arranged (arrangements page)).upperCase = repository.upperCase := rfl
  rw [hUpper]
  cases records.mapM (PaymentTransaction.summary repository.upperCase) with
  | error error => rfl
  | ok shown => rfl

theorem request_error (hAccepts : ¬ repository.engine.accepts (repository.whereClause db params) = true)
    (arrangements : Nat → Arrangement PaymentTransaction) (page : Nat) :
    repository.request db params arrangements page = .error .invalidArgument := by
  have hRefused : (repository.arranged (arrangements page)).engine.accepts
      ((repository.arranged (arrangements page)).whereClause db (params.atPage page)) = false :=
    Bool.eq_false_iff.mpr hAccepts
  rw [request, findTransactionsByRestaurant, hRefused]
  rfl

variable (repository db params) in
/-- Every page of the list is shown, and every transaction that matches is on one of
them once, whatever order each query chooses. -/
def PagesShowOnce : Prop := ∀ arrangements : Nat → Arrangement PaymentTransaction,
  Paging.ShowsOnce (repository.request db params arrangements)
    ((repository.matching db params).image PaymentTransaction.id)

theorem pagesShowOnce_iff : repository.PagesShowOnce db params ↔
    repository.engine.accepts (repository.whereClause db params) = true ∧
      (∀ tx ∈ repository.matching db params, ∃ text, tx.methodText repository.upperCase = .ok text) ∧
      ∀ tx ∈ repository.matching db params,
        Paging.OnOnePage (order params) (repository.matching db params) (limit params).toNat tx := by
  by_cases hAccepts : repository.engine.accepts (repository.whereClause db params) = true
  · have hKey : ∀ first ∈ repository.matching db params, ∀ second ∈ repository.matching db params,
        first.id = second.id → first = second := fun first hFirst second hSecond hId =>
      Table.eq_of_key (mem_select.mp hFirst).1 (mem_select.mp hSecond).1 hId
    have hRequest (arrangements : Nat → Arrangement PaymentTransaction) := funext (request_eq hAccepts arrangements)
    have hShows := @Paging.showsOnce_iff _ _ _ (display repository.upperCase) PaymentTransaction.id _ _ (order params) _ _
      (@limit_pos params) (fun tx id => display_id) hKey
    simp only [PagesShowOnce, hRequest, hShows, hAccepts, true_and, display_isOk]
  · refine iff_of_false (fun hShows => ?_) (fun h => hAccepts h.1)
    obtain ⟨totalPages, shown, hAnswers, _⟩ := hShows fun _ => repository.engine.transactions
    cases (request_error hAccepts _ 0).symm.trans (hAnswers 0 (Nat.zero_le _))

end TransactionQueryRepository

end Transactions

/-- The same request for another page, counted from zero. -/
def SubscriberFilterParams.atPage (params : SubscriberFilterParams) (page : Nat) : SubscriberFilterParams :=
  { params with page := page + 1 }

section Subscribers

namespace SubscriberRepository

variable (repository : SubscriberRepository) (tables : SubscriberTables) (params : SubscriberFilterParams)

/-- The requests for the pages of the subscribers. -/
def request (arrangements : Nat → Arrangement Subscription) (page : Nat) : Except QueryError (Nat × List Uuid) :=
  let result := { repository with arrangement := arrangements page }.findSubscribersPaginated tables
    (params.atPage page)
  .ok (result.pagination.totalPages, result.subscribers.map fun subscriber => subscriber.id)

def matching : Finset Subscription := select tables.subscriptions (repository.clauseMatches tables (whereClause params))

def order : RowOrder Subscription := .byRank (rank params) (descending params)

/-- Every page is shown, and every subscription that matches is on one of them once. -/
def PagesShowOnce : Prop := ∀ arrangements : Nat → Arrangement Subscription,
  Paging.ShowsOnce (repository.request tables params arrangements)
    ((repository.matching tables params).image Subscription.id)

variable {repository tables params}

theorem limit_pos : 0 < (limit params).toNat := by
  have hLimit : 1 ≤ limit params := le_max_left 1 _
  omega

theorem skip_atPage (page : Nat) : (skip (params.atPage page)).toNat = page * (limit params).toNat := by
  have hNumber : numberOr (params.atPage page).page 1 = page + 1 := if_neg (by show (page : Int) + 1 ≠ 0; omega)
  have hPage : SubscriberRepository.page (params.atPage page) = page + 1 := by
    rw [SubscriberRepository.page, hNumber]
    omega
  have hLimit : limit (params.atPage page) = limit params := rfl
  have hNonnegative : 0 ≤ limit params := (Int.le_max_left 1 _).trans' (by decide)
  rw [skip, hPage, hLimit, Paging.toNat_skip page hNonnegative]

theorem totalPages_eq (totalItems : Nat) :
    totalPages totalItems (limit params) = Paging.pageCount totalItems (limit params).toNat := by
  rw [totalPages]
  split
  · next hNone => rw [hNone, Paging.pageCount_zero limit_pos]
  · rfl

/-- No row of the table is lost for want of a plan. -/
theorem id_summaries {rows : List Subscription} (hRows : ∀ row ∈ rows, row ∈ tables.subscriptions.rows) :
    (rows.filterMap (summary tables)).map (fun subscriber => subscriber.id) = rows.map Subscription.id := by
  induction rows with
  | nil => rfl
  | cons row rows ih =>
      obtain ⟨plan, hPlan⟩ := Option.isSome_iff_exists.mp (tables.plan_exists row (hRows row List.mem_cons_self))
      have hSummary : summary tables row = some { row with plan } := by rw [summary, hPlan, Option.map_some]
      rw [List.filterMap_cons_some hSummary, List.map_cons, List.map_cons,
        ih fun other hOther => hRows other (List.mem_cons_of_mem row hOther)]

theorem request_eq (arrangements : Nat → Arrangement Subscription) (page : Nat) :
    repository.request tables params arrangements page = Paging.answer (fun row => .ok row.id) (arrangements page)
      (order params) (repository.matching tables params) (limit params).toNat page := by
  have hRecords : findMany (arrangements page) tables.subscriptions
      (repository.clauseMatches tables (whereClause (params.atPage page))) (rank (params.atPage page))
      (descending (params.atPage page)) (skip (params.atPage page)).toNat (limit (params.atPage page)).toNat =
        Paging.window (page * (limit params).toNat) (limit params).toNat
          (Paging.sorted (arrangements page) (order params) (repository.matching tables params)) := by
    rw [← skip_atPage]
    rfl
  have hIds := @id_summaries tables (Paging.window (page * (limit params).toNat) (limit params).toNat
    (Paging.sorted (arrangements page) (order params) (repository.matching tables params)))
      fun row hRow => (mem_select.mp (Paging.mem_rows_of_page hRow)).1
  have hTotal := @totalPages_eq params (repository.matching tables params).card
  have hShown : ∀ rows : List Subscription, (rows.mapM fun row => (.ok row.id : Except QueryError Uuid)) =
      .ok (rows.map Subscription.id) := fun rows =>
    (Paging.mapM_display fun row id hId => (Except.ok.inj hId).symm).mpr ⟨fun _ _ => rfl, rfl⟩
  rw [Paging.answer, hShown, ← hIds, ← hTotal, ← hRecords]
  rfl

theorem pagesShowOnce_iff : repository.PagesShowOnce tables params ↔ ∀ row ∈ repository.matching tables params,
    Paging.OnOnePage (order params) (repository.matching tables params) (limit params).toNat row := by
  have hKey : ∀ first ∈ repository.matching tables params, ∀ second ∈ repository.matching tables params,
      first.id = second.id → first = second := fun first hFirst second hSecond hId =>
    Table.eq_of_key (mem_select.mp hFirst).1 (mem_select.mp hSecond).1 hId
  have hRequest (arrangements : Nat → Arrangement Subscription) :=
    funext (@request_eq repository tables params arrangements)
  have hShows := @Paging.showsOnce_iff _ _ QueryError (fun row => .ok row.id) Subscription.id _ _ (order params) _ _
    (@limit_pos params) (fun row id hId => (Except.ok.inj hId).symm) hKey
  simp only [PagesShowOnce, hRequest, hShows, implies_true, true_and]

end SubscriberRepository

end Subscribers

namespace Sample

/-- Two orders of the same amount. -/
def twoFoodOrders : World := serve Sample.config openFoodOrder (createOrderPayment 2000 8 50000 price_pos "order_2")

theorem first_min : (1 : Int) ≤ 1 := le_refl 1

theorem single_max : (1 : Int) ≤ 100 := by decide

theorem unsearched : ∀ text ∈ (none : Option String), trim text = text ∧ text ≠ "" :=
  fun _ h => absurd h (Option.not_mem_none _)

theorem unbounded : ∀ amount ∈ (none : Option Int), 0 ≤ amount := fun _ h => absurd h (Option.not_mem_none _)

theorem undated : ∀ start ∈ (none : Option Int), ∀ finish ∈ (none : Option Int), start ≤ finish :=
  fun _ h => absurd h (Option.not_mem_none _)

/-- One transaction on a page, sorted by the amount. -/
def singlesByAmount : ListTransactionsQuery where
  page := 1
  limit := 1
  search := none
  status := .all
  method := .all
  startDate := none
  endDate := none
  minAmount := none
  maxAmount := none
  sortBy := .amountPaise
  sortOrder := .asc
  page_min := first_min
  limit_min := first_min
  limit_max := single_max
  search_trimmed := unsearched
  dates_ordered := undated
  minAmount_min := unbounded
  maxAmount_min := unbounded
  amounts_ordered := undated

def cheapTransaction : PaymentTransaction := (twoFoodOrders.db.transactions.get? 0).get (by decide)

end Sample

end SpotqPayment
