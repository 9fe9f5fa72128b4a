import SpotqPayment.Infrastructure.TransactionQuery
import SpotqPayment.Library.Hexadecimal
import SpotqPayment.Library.Paging

/-! The subscribers, as the admins of the platform list them. -/
namespace SpotqPayment

open Selection Hexadecimal

inductive SubscriberSortField where
  | createdAt | currentPeriodEnd | currentPeriodStart | status
  deriving DecidableEq, Repr

inductive SubscriberStatusFilter where
  | all
  | only (status : SubscriptionStatus)
  deriving DecidableEq, Repr

structure SubscriberFilterParams where
  page : Int
  limit : Int
  status : Option SubscriberStatusFilter
  search : Option String
  sortBy : Option SubscriberSortField
  sortOrder : Option SortDirection

structure SubscriberSummary extends Subscription where
  plan : SubscriptionPlan
  deriving DecidableEq, Repr

structure PaginationResult where
  page : Int
  limit : Int
  totalItems : Nat
  totalPages : Nat
  hasNextPage : Bool
  hasPrevPage : Bool
  deriving DecidableEq, Repr

structure PaginatedSubscribersResult where
  subscribers : List SubscriberSummary
  pagination : PaginationResult
  deriving DecidableEq, Repr

structure SubscriberTransactionSummary where
  id : Uuid
  amountPaise : Int
  currency : String
  status : PaymentStatus
  razorpayOrderId : String
  razorpayPaymentId : Option String
  createdAt : Instant
  deriving DecidableEq, Repr

structure SubscriberInvoiceSummary where
  id : Uuid
  invoiceNumber : String
  amountPaise : Int
  currency : String
  status : InvoiceStatus
  paidAt : Option Instant
  createdAt : Instant
  deriving DecidableEq, Repr

structure SubscriberDetail extends SubscriberSummary where
  transactions : List SubscriberTransactionSummary
  invoices : List SubscriberInvoiceSummary
  deriving DecidableEq, Repr

/-- The tables of subscriptions and plans with the foreign key between them. -/
structure SubscriberTables where
  subscriptions : Table Subscription
  plans : Table SubscriptionPlan
  plan_exists : ∀ row ∈ subscriptions.rows, (plans.get? row.planId).isSome = true

/-- The place of a status in the declaration of its type, by which the column is sorted. -/
def SubscriptionStatus.rank : SubscriptionStatus → Int
  | .pending => 0
  | .active => 1
  | .expired => 2
  | .cancelled => 3
  | .pastDue => 4

/-- A character that a text of the form `UUID_REGEX` has at a place. -/
def uuidCharacter (place : Nat) (c : Char) : Bool :=
  if place ∈ [8, 13, 18, 23] then c = '-'
  else if place = 14 then '1' ≤ c && c ≤ '5'
  else if place = 19 then c ∈ ['8', '9', 'a', 'b', 'A', 'B']
  else (hexDigit? c).isSome

/-- `UUID_REGEX.test`. The regular expression has the versions 1 to 5 only. -/
def isUuid (text : String) : Bool :=
  text.length = 36 && text.toList.zipIdx.all fun (c, place) => uuidCharacter place c

/-- The id that a text denotes when it passes `UUID_REGEX`. -/
def parseUuid (text : String) : Option Uuid :=
  if isUuid text then some (number (text.toList.filterMap hexDigit?)) else none

/-- An alternative of the `OR` group of a search. -/
inductive SubscriptionCondition where
  | id (id : Uuid)
  | restaurantId (restaurantId : Uuid)
  | planNameContains (term : String)
  | planCodeContains (term : String)

structure SubscriptionWhereInput where
  status : Option SubscriptionStatus
  OR : Option (List SubscriptionCondition)

/-- `PrismaSubscriptionRepository`, as far as it lists subscribers, over a database that
decides which texts contain a term and how it arranges rows of equal rank. -/
structure SubscriberRepository where
  containsInsensitive (text term : String) : Bool
  arrangement : Arrangement Subscription

namespace SubscriberRepository

def statusFilter (params : SubscriberFilterParams) : Option SubscriptionStatus :=
  match params.status with
  | some (.only status) => some status
  | _ => none

def searchConditions (searchTerm : String) : List SubscriptionCondition :=
  match parseUuid searchTerm with
  | some id => [.id id, .restaurantId id, .planNameContains searchTerm, .planCodeContains searchTerm]
  | none => [.planNameContains searchTerm, .planCodeContains searchTerm]

def whereClause (params : SubscriberFilterParams) : SubscriptionWhereInput where
  status := statusFilter params
  OR := (truthy params.search).map fun search => searchConditions (trim search)

variable (repository : SubscriberRepository) (tables : SubscriberTables)

def conditionMatches (row : Subscription) : SubscriptionCondition → Bool
  | .id id => row.id = id
  | .restaurantId restaurantId => row.restaurantId = restaurantId
  | .planNameContains term =>
      (tables.plans.get? row.planId).any fun plan => repository.containsInsensitive plan.name term
  | .planCodeContains term =>
      (tables.plans.get? row.planId).any fun plan => repository.containsInsensitive plan.code term

def clauseMatches (clause : SubscriptionWhereInput) (row : Subscription) : Bool :=
  clause.status.all (· = row.status) &&
    clause.OR.all fun conditions => conditions.any (repository.conditionMatches tables row)

def rank (params : SubscriberFilterParams) (row : Subscription) : Int :=
  match params.sortBy.getD .createdAt with
  | .createdAt => row.createdAt
  | .currentPeriodEnd => row.currentPeriodEnd
  | .currentPeriodStart => row.currentPeriodStart
  | .status => row.status.rank

def descending (params : SubscriberFilterParams) : Bool := params.sortOrder.getD .desc = .desc

/-- `value || fallback`. -/
def numberOr (value fallback : Int) : Int := if value = 0 then fallback else value

def page (params : SubscriberFilterParams) : Int := max 1 (numberOr params.page 1)

def limit (params : SubscriberFilterParams) : Int := max 1 (min 100 (numberOr params.limit 10))

def skip (params : SubscriberFilterParams) : Int := (page params - 1) * limit params

def totalPages (totalItems : Nat) (limit : Int) : Nat :=
  if totalItems = 0 then 0 else (totalItems + limit.toNat - 1) / limit.toNat

/-- A row with its plan, which `include` reads. -/
def summary (row : Subscription) : Option SubscriberSummary :=
  (tables.plans.get? row.planId).map fun plan => { row with plan }

def findSubscribersPaginated (params : SubscriberFilterParams) : PaginatedSubscribersResult :=
  let totalItems := count tables.subscriptions (repository.clauseMatches tables (whereClause params))
  let records := findMany repository.arrangement tables.subscriptions
    (repository.clauseMatches tables (whereClause params)) (rank params) (descending params) (skip params).toNat
    (limit params).toNat
  { subscribers := records.filterMap (summary tables)
    pagination := {
      page := page params
      limit := limit params
      totalItems
      totalPages := totalPages totalItems (limit params)
      hasNextPage := page params < totalPages totalItems (limit params)
      hasPrevPage := page params > 1 } }

end SubscriberRepository

/-- The tables that the details of a subscriber are read from. -/
structure SubscriberDetailTables extends SubscriberTables where
  transactions : Table PaymentTransaction
  invoices : Table BillingInvoice

/-- The repository, as far as it shows a single subscriber. -/
structure SubscriberDetailRepository extends SubscriberRepository where
  transactionArrangement : Arrangement PaymentTransaction
  invoiceArrangement : Arrangement BillingInvoice

def PaymentTransaction.subscriberSummary (tx : PaymentTransaction) : SubscriberTransactionSummary where
  id := tx.id
  amountPaise := tx.amountPaise
  currency := tx.currency
  status := tx.status
  razorpayOrderId := tx.razorpayOrderId
  razorpayPaymentId := tx.razorpayPaymentId
  createdAt := tx.createdAt

def BillingInvoice.subscriberSummary (inv : BillingInvoice) : SubscriberInvoiceSummary where
  id := inv.id
  invoiceNumber := inv.invoiceNumber
  amountPaise := inv.amountPaise
  currency := inv.currency
  status := inv.status
  paidAt := inv.paidAt
  createdAt := inv.createdAt

namespace SubscriberDetailRepository

variable (repository : SubscriberDetailRepository) (tables : SubscriberDetailTables)

/-- `findFirst` without `orderBy`: the arrangement decides which row comes first. -/
def findRecord (id : Uuid) : Option Subscription :=
  (findMany repository.arrangement tables.subscriptions (fun row => row.id = id || row.restaurantId = id)
    (fun _ => 0) false 0 1).head?

/-- The ten latest payments that are linked to a subscription. -/
def latestTransactions (subscriptionId : Uuid) : List PaymentTransaction :=
  findMany repository.transactionArrangement tables.transactions (fun tx => tx.subscriptionId = some subscriptionId)
    PaymentTransaction.createdAt true 0 10

def latestInvoices (subscriptionId : Uuid) : List BillingInvoice :=
  findMany repository.invoiceArrangement tables.invoices (fun inv => inv.subscriptionId = some subscriptionId)
    BillingInvoice.createdAt true 0 10

def detail (record : Subscription) : Option SubscriberDetail :=
  (SubscriberRepository.summary tables.toSubscriberTables record).map fun summary => { summary with
    transactions := (repository.latestTransactions tables record.id).map PaymentTransaction.subscriberSummary
    invoices := (repository.latestInvoices tables record.id).map BillingInvoice.subscriberSummary }

def findSubscriberDetailById (subscriberId : String) : Option SubscriberDetail :=
  match parseUuid subscriberId with
  | none => none
  | some id => (repository.findRecord tables id).bind (repository.detail tables)

end SubscriberDetailRepository

end SpotqPayment
