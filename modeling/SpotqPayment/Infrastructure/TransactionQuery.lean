import SpotqPayment.Library.Json
import SpotqPayment.Library.Selection
import SpotqPayment.Library.Sql
import SpotqPayment.Infrastructure.Database

/-! The transactions of a restaurant, as its admins list and read them. The `where`
clause is put together from the filters of the request; a search term is looked up by
a raw query first, and by conditions of the clause when that query fails. -/
namespace SpotqPayment

open Selection

/-- `undefined` stands for the same as `null` here: the metadata is read with `?.`,
`||` and `??` only. -/
def JsonValue.isTrue : JsonValue → Bool
  | .null => false
  | .str value => value ≠ ""
  | .other text => text ≠ "false" && text ≠ "0"

namespace JsonValue

/-- `first || second`. -/
def or (first second : JsonValue) : JsonValue := if first.isTrue then first else second

/-- `first ?? second`. -/
def coalesce (first second : JsonValue) : JsonValue := if first = .null then second else first

def ofJson : Json → JsonValue
  | .null => .null
  | .str value => .str value
  | json => .other json.stringify

/-- `value?.name`. -/
def member (value : JsonValue) (name : String) : JsonValue :=
  match value with
  | .other text =>
      match Json.parse text with
      | some (.obj fields) => ((fields.lookup name).map ofJson).getD .null
      | _ => .null
  | _ => .null

def number (value : Int) : JsonValue := .other (toString value)

/-- `value ->> name`, the text of a field in SQL. -/
def text? : JsonValue → Option String
  | .null => none
  | .str value => some value
  | .other text => some text

end JsonValue

/-- A field of the metadata of a transaction. -/
def PaymentTransaction.field (tx : PaymentTransaction) (name : String) : JsonValue :=
  ((tx.metadata.getD []).lookup name).getD .null

inductive TransactionQueryStatus where
  | all | success | pending | failed | refunded
  deriving DecidableEq, Repr

/-- The value of the column; it has none for PENDING. -/
def TransactionQueryStatus.paymentStatus? : TransactionQueryStatus → Option PaymentStatus
  | .success => some .success
  | .failed => some .failed
  | .refunded => some .refunded
  | .all | .pending => none

inductive TransactionPaymentMethod where
  | all | upi | card | netbanking
  deriving DecidableEq, Repr

def TransactionPaymentMethod.text : TransactionPaymentMethod → String
  | .all => "ALL"
  | .upi => "UPI"
  | .card => "CARD"
  | .netbanking => "NETBANKING"

inductive TransactionSortField where
  | createdAt | amountPaise
  deriving DecidableEq, Repr

inductive SortDirection where
  | asc | desc
  deriving DecidableEq, Repr

/-- The filters of a list, with dates as the numbers of their days. -/
structure TransactionFilterParams where
  restaurantId : String
  page : Int
  limit : Int
  search : Option String
  status : Option TransactionQueryStatus
  method : Option TransactionPaymentMethod
  startDate : Option Int
  endDate : Option Int
  minAmount : Option Int
  maxAmount : Option Int
  sortBy : Option TransactionSortField
  sortOrder : Option SortDirection

structure TransactionSummary where
  id : Uuid
  orderId : Option Uuid
  orderNumber : JsonValue
  customerName : JsonValue
  razorpayPaymentId : Option String
  paymentMethod : String
  amountPaise : Int
  status : PaymentStatus
  settlementStatus : JsonValue
  createdAt : Instant
  deriving DecidableEq, Repr

structure PaginationMetadata where
  currentPage : Int
  totalPages : Nat
  totalRecords : Nat
  limit : Int
  deriving DecidableEq, Repr

structure PaginatedTransactionsResult where
  transactions : List TransactionSummary
  pagination : PaginationMetadata
  deriving DecidableEq, Repr

structure CustomerContext where
  name : JsonValue
  phoneMasked : JsonValue
  tableNumber : JsonValue
  tokenNumber : JsonValue
  deriving DecidableEq, Repr

structure BillingBreakdown where
  subtotalPaise : JsonValue
  gstPaise : JsonValue
  discountPaise : JsonValue
  grandTotalPaise : JsonValue
  deriving DecidableEq, Repr

structure SettlementDetail where
  status : JsonValue
  settlementId : JsonValue
  scheduledPayout : JsonValue
  deriving DecidableEq, Repr

structure RefundDetail where
  id : Uuid
  razorpayRefundId : String
  amountPaise : Int
  currency : String
  status : RefundStatus
  reason : Option String
  processedAt : Option Instant
  createdAt : Instant
  deriving DecidableEq, Repr

structure TransactionDetail where
  id : Uuid
  restaurantId : Uuid
  orderId : Option Uuid
  orderNumber : JsonValue
  customer : CustomerContext
  amountPaise : Int
  currency : String
  status : PaymentStatus
  paymentMethod : String
  upiVpa : JsonValue
  card : JsonValue
  razorpayPaymentId : Option String
  razorpayOrderId : String
  bankReference : JsonValue
  billingBreakdown : BillingBreakdown
  settlement : SettlementDetail
  refund : Option RefundDetail
  createdAt : Instant
  updatedAt : Instant
  deriving DecidableEq, Repr

/-- What a query throws: an argument that Prisma refuses, a method called on a value
that lacks it, or an error of the domain. -/
inductive QueryError where
  | invalidArgument
  | typeError
  | invalidDateRange
  | transactionNotFound
  deriving DecidableEq, Repr

/-- What the query engine decides: which uuid a text denotes, which texts match a
pattern, which pass the `contains` filters of Prisma for a term, and how rows of equal
rank are arranged. -/
structure QueryEngine where
  uuid : String → Option Uuid
  ilike (text pattern : String) : Bool
  contains (text term : String) : Bool
  containsInsensitive (text term : String) : Bool
  transactions : Arrangement PaymentTransaction
  refunds : Arrangement PaymentRefund

structure RangeFilter where
  gte : Option Int
  lte : Option Int

def RangeFilter.matches (filter : RangeFilter) (value : Int) : Bool :=
  filter.gte.all (· ≤ value) && filter.lte.all (value ≤ ·)

/-- An alternative of the `OR` group of a search. -/
inductive SearchCondition where
  | razorpayPaymentIdContains (term : String)
  | metadataContains (path term : String)

def SearchCondition.term : SearchCondition → String
  | .razorpayPaymentIdContains term => term
  | .metadataContains _ term => term

structure PaymentTransactionWhereInput where
  restaurantId : String
  status : Option TransactionQueryStatus
  amountPaise : RangeFilter
  createdAt : RangeFilter
  paymentMethod : Option String
  id : Option (Finset Uuid)
  OR : Option (List SearchCondition)

namespace QueryEngine

variable (engine : QueryEngine)

def restaurantMatches (restaurantId : String) (tx : PaymentTransaction) : Bool :=
  engine.uuid restaurantId = some tx.restaurantId

def searchMatches (restaurant : Uuid) (searchPattern : String) (tx : PaymentTransaction) : Bool :=
  tx.restaurantId = restaurant &&
    (tx.razorpayPaymentId.any (engine.ilike · searchPattern) ||
      engine.ilike tx.razorpayOrderId searchPattern ||
      (tx.field "orderNumber").text?.any (engine.ilike · searchPattern) ||
      (tx.field "customerName").text?.any (engine.ilike · searchPattern))

/-- The raw query of a search, which fails when the restaurant is not a uuid or the
pattern is no text of the database. -/
def search (db : Database) (restaurantId searchPattern : String) : Option (Finset Uuid) :=
  if Sql.isText searchPattern then
    (engine.uuid restaurantId).map fun restaurant =>
      (select db.transactions (engine.searchMatches restaurant searchPattern)).image PaymentTransaction.id
  else none

def conditionMatches (tx : PaymentTransaction) : SearchCondition → Bool
  | .razorpayPaymentIdContains term => tx.razorpayPaymentId.any (engine.containsInsensitive · term)
  | .metadataContains path term =>
      match tx.field path with
      | .str value => engine.contains value term
      | _ => false

/-- Prisma refuses a text that is no uuid, a status that the column does not have, an
amount beyond the range of the column, and a term that is no text of the database. -/
def accepts (clause : PaymentTransactionWhereInput) : Bool :=
  (engine.uuid clause.restaurantId).isSome &&
    clause.status.all (fun status => status.paymentStatus?.isSome) &&
    clause.amountPaise.gte.all (fun amount => Sql.Fits 32 amount) &&
    clause.amountPaise.lte.all (fun amount => Sql.Fits 32 amount) &&
    clause.OR.all (fun conditions => conditions.all fun condition => Sql.isText condition.term)

def clauseMatches (clause : PaymentTransactionWhereInput) (tx : PaymentTransaction) : Bool :=
  engine.restaurantMatches clause.restaurantId tx &&
    clause.status.all (fun status => status.paymentStatus? = some tx.status) &&
    clause.amountPaise.matches tx.amountPaise &&
    clause.createdAt.matches tx.createdAt &&
    clause.paymentMethod.all (fun method => tx.field "paymentMethod" = .str method) &&
    clause.id.all (fun ids => tx.id ∈ ids) &&
    clause.OR.all (fun conditions => conditions.any (engine.conditionMatches tx))

/-- A clause matches rows of its restaurant only. -/
theorem restaurant_of_clauseMatches {engine : QueryEngine} {clause : PaymentTransactionWhereInput}
    {tx : PaymentTransaction} (h : engine.clauseMatches clause tx = true) :
    engine.uuid clause.restaurantId = some tx.restaurantId := by
  simp only [QueryEngine.clauseMatches, QueryEngine.restaurantMatches, Bool.and_eq_true, decide_eq_true_eq] at h
  exact h.1.1.1.1.1.1

end QueryEngine

/-- The settlement status of a transaction that has none. -/
def defaultSettlementStatus : JsonValue := .str "PENDING_EOD"

/-- The mapping of strings to upper case by the tables of Unicode, of which only the
part for ASCII is needed here. -/
structure UpperCase where
  apply : String → String
  ascii : ∀ text : String, (∀ c ∈ text.toList, c.toNat < 128) → apply text = text.toUpper

/-- `value.toUpperCase()`, which only a string has. -/
def UpperCase.toUpperCase (upperCase : UpperCase) : JsonValue → Except QueryError String
  | .str value => .ok (upperCase.apply value)
  | _ => .error .typeError

def PaymentTransaction.methodText (upperCase : UpperCase) (tx : PaymentTransaction) : Except QueryError String :=
  upperCase.toUpperCase ((tx.field "paymentMethod").or ((tx.field "method").or (.str defaultPaymentMethod)))

def PaymentTransaction.summary (upperCase : UpperCase) (tx : PaymentTransaction) :
    Except QueryError TransactionSummary := do
  let paymentMethod ← tx.methodText upperCase
  return {
    id := tx.id
    orderId := tx.orderId
    orderNumber := (tx.field "orderNumber").or .null
    customerName := (tx.field "customerName").or .null
    razorpayPaymentId := tx.razorpayPaymentId
    paymentMethod
    amountPaise := tx.amountPaise
    status := tx.status
    settlementStatus := ((tx.field "settlement").member "status").or defaultSettlementStatus
    createdAt := tx.createdAt }

def PaymentRefund.detail (refund : PaymentRefund) : RefundDetail where
  id := refund.id
  razorpayRefundId := refund.razorpayRefundId
  amountPaise := refund.amountPaise
  currency := refund.currency
  status := refund.status
  reason := refund.reason
  processedAt := refund.processedAt
  createdAt := refund.createdAt

/-- The detail of a transaction with the newest of its refunds. -/
def PaymentTransaction.detail (upperCase : UpperCase) (tx : PaymentTransaction) (refunds : List PaymentRefund) :
    Except QueryError TransactionDetail := do
  let paymentMethod ← tx.methodText upperCase
  return {
    id := tx.id
    restaurantId := tx.restaurantId
    orderId := tx.orderId
    orderNumber := (tx.field "orderNumber").or .null
    customer := {
      name := (tx.field "customerName").or .null
      phoneMasked := (tx.field "customerPhoneMasked").or .null
      tableNumber := (tx.field "tableNumber").or .null
      tokenNumber := (tx.field "tokenNumber").or .null }
    amountPaise := tx.amountPaise
    currency := tx.currency
    status := tx.status
    paymentMethod
    upiVpa := (tx.field "upiVpa").or .null
    card := (tx.field "card").or .null
    razorpayPaymentId := tx.razorpayPaymentId
    razorpayOrderId := tx.razorpayOrderId
    bankReference := (tx.field "bankReference").or .null
    billingBreakdown := {
      subtotalPaise := ((tx.field "billingBreakdown").member "subtotalPaise").coalesce (.number tx.amountPaise)
      gstPaise := ((tx.field "billingBreakdown").member "gstPaise").coalesce (.number 0)
      discountPaise := ((tx.field "billingBreakdown").member "discountPaise").coalesce (.number 0)
      grandTotalPaise := ((tx.field "billingBreakdown").member "grandTotalPaise").coalesce (.number tx.amountPaise) }
    settlement := {
      status := ((tx.field "settlement").member "status").or defaultSettlementStatus
      settlementId := ((tx.field "settlement").member "settlementId").or .null
      scheduledPayout := ((tx.field "settlement").member "scheduledPayout").or .null }
    refund := refunds.head?.map PaymentRefund.detail
    createdAt := tx.createdAt
    updatedAt := tx.updatedAt }

/-- `PrismaTransactionQueryRepository`. -/
structure TransactionQueryRepository where
  engine : QueryEngine
  upperCase : UpperCase
  /-- The raw query of a search does not get through. -/
  searchFails : Bool

namespace TransactionQueryRepository

variable (repository : TransactionQueryRepository) (db : Database)

/-- The last millisecond of a day. -/
def endOfDay : Int := Calendar.msPerDay - 1

/-- The filters that need no query of their own. -/
def baseClause (params : TransactionFilterParams) : PaymentTransactionWhereInput where
  restaurantId := params.restaurantId
  status := params.status.filter (· ≠ .all)
  amountPaise := { gte := params.minAmount, lte := params.maxAmount }
  createdAt := {
    gte := params.startDate.map (Calendar.makeDate · 0)
    lte := params.endDate.map (Calendar.makeDate · endOfDay) }
  paymentMethod := (params.method.filter (· ≠ .all)).map TransactionPaymentMethod.text
  id := none
  OR := none

/-- The term of a search that is not blank. -/
def searchTerm? (params : TransactionFilterParams) : Option String := truthy (params.search.map trim)

/-- The ids that the raw query finds, unless it fails. -/
def matchedIds? (restaurantId term : String) : Option (Finset Uuid) :=
  if repository.searchFails then none else repository.engine.search db restaurantId ("%" ++ term ++ "%")

/-- The clause with a search in it: by the ids found, or by conditions of its own. -/
def withSearch (clause : PaymentTransactionWhereInput) (term : String) :
    Option (Finset Uuid) → PaymentTransactionWhereInput
  | some ids => { clause with id := some ids }
  | none => { clause with
      OR := some [.razorpayPaymentIdContains term, .metadataContains "orderNumber" term,
        .metadataContains "customerName" term] }

def whereClause (params : TransactionFilterParams) : PaymentTransactionWhereInput :=
  match searchTerm? params with
  | none => baseClause params
  | some term => withSearch (baseClause params) term (repository.matchedIds? db params.restaurantId term)

def rank (params : TransactionFilterParams) : PaymentTransaction → Int :=
  if params.sortBy = some .amountPaise then PaymentTransaction.amountPaise else PaymentTransaction.createdAt

def descending (params : TransactionFilterParams) : Bool := params.sortOrder ≠ some .asc

/-- The page of the list that the parameters ask for, at least the first. -/
def page (params : TransactionFilterParams) : Int := max 1 params.page

def limit (params : TransactionFilterParams) : Int := max 1 params.limit

def skip (params : TransactionFilterParams) : Int := (page params - 1) * limit params

def totalPages (totalRecords : Nat) (limit : Int) : Nat :=
  if totalRecords > 0 then (totalRecords + limit.toNat - 1) / limit.toNat else 0

/-- The count and the page that a clause selects. -/
def fetch (clause : PaymentTransactionWhereInput) (params : TransactionFilterParams) : Nat × List PaymentTransaction :=
  (count db.transactions (repository.engine.clauseMatches clause),
    findMany repository.engine.transactions db.transactions (repository.engine.clauseMatches clause) (rank params)
      (descending params) (skip params).toNat (limit params).toNat)

def findTransactionsByRestaurant (params : TransactionFilterParams) :
    Except QueryError PaginatedTransactionsResult :=
  if !repository.engine.accepts (repository.whereClause db params) then .error .invalidArgument
  else do
    let (totalRecords, records) := repository.fetch db (repository.whereClause db params) params
    let transactions ← records.mapM (PaymentTransaction.summary repository.upperCase)
    return {
      transactions
      pagination := {
        currentPage := page params
        totalPages := totalPages totalRecords (limit params)
        totalRecords
        limit := limit params } }

/-- The newest refund of a transaction. -/
def latestRefund (tx : PaymentTransaction) : List PaymentRefund :=
  findMany repository.engine.refunds db.refunds (fun refund => refund.paymentTransactionId = tx.id)
    PaymentRefund.createdAt true 0 1

/-- The record with its refund, once both texts have been read as uuids. -/
def findDetail (id : Uuid) (restaurantId : String) : Except QueryError (Option TransactionDetail) :=
  match findByKey db.transactions id (repository.engine.restaurantMatches restaurantId) with
  | none => .ok none
  | some record => some <$> record.detail repository.upperCase (repository.latestRefund db record)

def findTransactionById (id restaurantId : String) : Except QueryError (Option TransactionDetail) :=
  match repository.engine.uuid id, repository.engine.uuid restaurantId with
  | some id, some _ => repository.findDetail db id restaurantId
  | _, _ => .error .invalidArgument

end TransactionQueryRepository

end SpotqPayment
