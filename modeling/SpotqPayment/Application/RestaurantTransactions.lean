import SpotqPayment.Infrastructure.TransactionQuery

/-! The use cases behind the transaction routes of a restaurant and the mappers that
format what they return. -/
namespace SpotqPayment

structure ListTransactionsQueryDTO where
  restaurantId : String
  page : Int
  limit : Int
  search : Option String
  status : Option TransactionQueryStatus
  method : Option TransactionPaymentMethod
  startDate : Option Int
  endDate : Option Int
  minAmount : Option Int
  maxAmount : Option Int
  sortBy : Option TransactionSortField
  sortOrder : Option SortDirection

def ListTransactionsQueryDTO.params (query : ListTransactionsQueryDTO) : TransactionFilterParams where
  restaurantId := query.restaurantId
  page := query.page
  limit := query.limit
  search := query.search
  status := query.status
  method := query.method
  startDate := query.startDate
  endDate := query.endDate
  minAmount := query.minAmount
  maxAmount := query.maxAmount
  sortBy := query.sortBy
  sortOrder := query.sortOrder

/-- `₹${(amountPaise / 100).toFixed(2)}`. -/
def amountFormatted (amountPaise : Int) : String :=
  "₹" ++ (if amountPaise < 0 then "-" else "") ++ toString (amountPaise.natAbs / 100) ++ "." ++
    Calendar.padded 2 (amountPaise.natAbs % 100)

structure TransactionSummaryDTO where
  id : Uuid
  orderId : Option Uuid
  orderNumber : JsonValue
  customerName : JsonValue
  razorpayPaymentId : Option String
  paymentMethod : String
  amountPaise : Int
  amountFormatted : String
  status : PaymentStatus
  settlementStatus : JsonValue
  createdAt : String

structure ListTransactionsOutputDTO where
  transactions : List TransactionSummaryDTO
  pagination : PaginationMetadata

def TransactionSummary.toDTO (tx : TransactionSummary) : TransactionSummaryDTO where
  id := tx.id
  orderId := tx.orderId
  orderNumber := tx.orderNumber
  customerName := tx.customerName
  razorpayPaymentId := tx.razorpayPaymentId
  paymentMethod := tx.paymentMethod
  amountPaise := tx.amountPaise
  amountFormatted := amountFormatted tx.amountPaise
  status := tx.status
  settlementStatus := tx.settlementStatus
  createdAt := Calendar.toISOString tx.createdAt

/-- `ListTransactionsMapper.toDTO`. -/
def PaginatedTransactionsResult.toDTO (result : PaginatedTransactionsResult) : ListTransactionsOutputDTO where
  transactions := result.transactions.map TransactionSummary.toDTO
  pagination := result.pagination

structure RefundInfoDTO where
  id : Uuid
  razorpayRefundId : String
  amountPaise : Int
  amountFormatted : String
  currency : String
  status : RefundStatus
  reason : Option String
  processedAt : Option String
  createdAt : String

def RefundDetail.toDTO (refund : RefundDetail) : RefundInfoDTO where
  id := refund.id
  razorpayRefundId := refund.razorpayRefundId
  amountPaise := refund.amountPaise
  amountFormatted := amountFormatted refund.amountPaise
  currency := refund.currency
  status := refund.status
  reason := refund.reason
  processedAt := refund.processedAt.map Calendar.toISOString
  createdAt := Calendar.toISOString refund.createdAt

structure TransactionDetailDTO where
  id : Uuid
  restaurantId : Uuid
  orderId : Option Uuid
  orderNumber : JsonValue
  customer : CustomerContext
  amountPaise : Int
  amountFormatted : String
  currency : String
  status : PaymentStatus
  paymentMethod : String
  upiVpa : JsonValue
  card : JsonValue
  razorpayPaymentId : Option String
  razorpayOrderId : String
  bankReference : JsonValue
  billingBreakdown : BillingBreakdown
  settlement : SettlementDetail
  refund : Option RefundInfoDTO
  createdAt : String
  updatedAt : String

/-- `GetTransactionDetailMapper.toDTO`. -/
def TransactionDetail.toDTO (detail : TransactionDetail) : TransactionDetailDTO where
  id := detail.id
  restaurantId := detail.restaurantId
  orderId := detail.orderId
  orderNumber := detail.orderNumber
  customer := detail.customer
  amountPaise := detail.amountPaise
  amountFormatted := amountFormatted detail.amountPaise
  currency := detail.currency
  status := detail.status
  paymentMethod := detail.paymentMethod
  upiVpa := detail.upiVpa
  card := detail.card
  razorpayPaymentId := detail.razorpayPaymentId
  razorpayOrderId := detail.razorpayOrderId
  bankReference := detail.bankReference
  billingBreakdown := detail.billingBreakdown
  settlement := detail.settlement
  refund := detail.refund.map RefundDetail.toDTO
  createdAt := Calendar.toISOString detail.createdAt
  updatedAt := Calendar.toISOString detail.updatedAt

variable (repository : TransactionQueryRepository) (db : Database)

/-- `GetRestaurantTransactionsUseCase.execute`. -/
def getRestaurantTransactions (query : ListTransactionsQueryDTO) : Except QueryError ListTransactionsOutputDTO :=
  if query.startDate.any fun start => query.endDate.any fun finish => finish < start then .error .invalidDateRange
  else PaginatedTransactionsResult.toDTO <$> repository.findTransactionsByRestaurant db query.params

/-- `GetTransactionDetailUseCase.execute`. -/
def getTransactionDetail (transactionId restaurantId : String) : Except QueryError TransactionDetailDTO := do
  match ← repository.findTransactionById db transactionId restaurantId with
  | none => .error .transactionNotFound
  | some detail => return detail.toDTO

end SpotqPayment
