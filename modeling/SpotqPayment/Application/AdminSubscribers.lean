import SpotqPayment.Application.IdText
import SpotqPayment.Infrastructure.RestaurantService

/-! The use cases that show subscribers to the admins of the platform. A subscription
knows its restaurant by the id alone; what else is shown of it comes from the restaurant
service. -/
namespace SpotqPayment

structure ListAdminSubscribersQueryDTO where
  page : Option Int
  limit : Option Int
  status : Option SubscriberStatusFilter
  search : Option String
  sortBy : Option SubscriberSortField
  sortOrder : Option SortDirection
  deriving DecidableEq

structure AdminSubscriberPlanDTO where
  id : String
  planId : String
  code : String
  name : String
  description : Option String
  pricePaise : Int
  currency : String
  billingCycle : PlanBillingCycle
  features : JsonValue
  isActive : Bool
  deriving DecidableEq, Repr

structure AdminSubscriberSummaryDTO where
  id : String
  subscriberId : String
  restaurantId : String
  restaurantName : Option String
  subscriberName : Option String
  subscriberEmail : Option String
  restaurantStatus : Option String
  isRestaurantBlocked : Bool
  planId : String
  status : SubscriptionStatus
  currentPeriodStart : String
  currentPeriodEnd : String
  canceledAt : Option String
  createdAt : String
  updatedAt : String
  plan : AdminSubscriberPlanDTO
  deriving DecidableEq, Repr

structure ListAdminSubscribersOutputDTO where
  subscribers : List AdminSubscriberSummaryDTO
  pagination : PaginationResult
  deriving DecidableEq, Repr

structure AdminSubscriberTransactionDTO where
  id : String
  transactionId : String
  amountPaise : Int
  currency : String
  status : PaymentStatus
  razorpayOrderId : String
  razorpayPaymentId : Option String
  createdAt : String
  deriving DecidableEq, Repr

structure AdminSubscriberInvoiceDTO where
  id : String
  invoiceId : String
  invoiceNumber : String
  amountPaise : Int
  currency : String
  status : InvoiceStatus
  paidAt : Option String
  createdAt : String
  deriving DecidableEq, Repr

structure AdminSubscriberDetailsOutputDTO extends AdminSubscriberSummaryDTO where
  transactions : List AdminSubscriberTransactionDTO
  invoices : List AdminSubscriberInvoiceDTO
  deriving DecidableEq, Repr

namespace AdminSubscriberMapper

def planDto (plan : SubscriptionPlan) : AdminSubscriberPlanDTO where
  id := plan.id.text
  planId := plan.id.text
  code := plan.code
  name := plan.name
  description := plan.description
  pricePaise := plan.pricePaise
  currency := plan.currency
  billingCycle := plan.billingCycle
  features := plan.features
  isActive := plan.isActive

def toSummaryDto (sub : SubscriberSummary) (restaurantInfo : Option RestaurantInfoDTO) : AdminSubscriberSummaryDTO where
  id := sub.id.text
  subscriberId := sub.id.text
  restaurantId := sub.restaurantId.text
  restaurantName := restaurantInfo.map (·.restaurantName)
  subscriberName := restaurantInfo.map (·.ownerName)
  subscriberEmail := restaurantInfo.map (·.ownerEmail)
  restaurantStatus := restaurantInfo.map (·.status)
  isRestaurantBlocked := (restaurantInfo.map (·.isBlocked)).getD false
  planId := sub.planId.text
  status := sub.status
  currentPeriodStart := Calendar.toISOString sub.currentPeriodStart
  currentPeriodEnd := Calendar.toISOString sub.currentPeriodEnd
  canceledAt := sub.canceledAt.map Calendar.toISOString
  createdAt := Calendar.toISOString sub.createdAt
  updatedAt := Calendar.toISOString sub.updatedAt
  plan := planDto sub.plan

def toListDto (result : PaginatedSubscribersResult) (restaurantMap : RestaurantMap) : ListAdminSubscribersOutputDTO where
  subscribers := result.subscribers.map fun sub => toSummaryDto sub (restaurantMap.lookup sub.restaurantId.text)
  pagination := result.pagination

def transactionDto (tx : SubscriberTransactionSummary) : AdminSubscriberTransactionDTO where
  id := tx.id.text
  transactionId := tx.id.text
  amountPaise := tx.amountPaise
  currency := tx.currency
  status := tx.status
  razorpayOrderId := tx.razorpayOrderId
  razorpayPaymentId := tx.razorpayPaymentId
  createdAt := Calendar.toISOString tx.createdAt

def invoiceDto (inv : SubscriberInvoiceSummary) : AdminSubscriberInvoiceDTO where
  id := inv.id.text
  invoiceId := inv.id.text
  invoiceNumber := inv.invoiceNumber
  amountPaise := inv.amountPaise
  currency := inv.currency
  status := inv.status
  paidAt := inv.paidAt.map Calendar.toISOString
  createdAt := Calendar.toISOString inv.createdAt

def toDetailsDto (subscriber : SubscriberDetail) (restaurantInfo : Option RestaurantInfoDTO) :
    AdminSubscriberDetailsOutputDTO :=
  { toSummaryDto subscriber.toSubscriberSummary restaurantInfo with
    transactions := subscriber.transactions.map transactionDto
    invoices := subscriber.invoices.map invoiceDto }

end AdminSubscriberMapper

/-- The defaults of the use case. -/
def ListAdminSubscribersQueryDTO.params (query : ListAdminSubscribersQueryDTO) : SubscriberFilterParams where
  page := query.page.getD 1
  limit := query.limit.getD 10
  status := query.status
  search := query.search
  sortBy := query.sortBy
  sortOrder := query.sortOrder

/-- `GetAdminSubscribersUseCase.execute`, with the batch of restaurants it has asked for. -/
def getAdminSubscribers (repository : SubscriberRepository) (tables : SubscriberTables)
    (client : RestaurantServiceClient) (contact : Contact) (query : ListAdminSubscribersQueryDTO) :
    ListAdminSubscribersOutputDTO × RestaurantServiceClient.Batch :=
  let result := repository.findSubscribersPaginated tables query.params
  let restaurantIds := result.subscribers.map fun sub => sub.restaurantId.text
  let batch := client.getRestaurants contact (some restaurantIds)
  (AdminSubscriberMapper.toListDto result batch.restaurants, batch)

/-- `SubscriberNotFoundError`. -/
structure SubscriberNotFound where
  deriving DecidableEq, Repr

/-- `GetAdminSubscriberDetailsUseCase.execute`. -/
def getAdminSubscriberDetails (repository : SubscriberDetailRepository) (tables : SubscriberDetailTables)
    (client : RestaurantServiceClient) (contact : Contact) (subscriberId : String) :
    Except SubscriberNotFound AdminSubscriberDetailsOutputDTO × RestaurantServiceClient :=
  match repository.findSubscriberDetailById tables subscriberId with
  | none => (.error {}, client)
  | some subscriber =>
      let (restaurantInfo, client) := client.getRestaurantById contact subscriber.restaurantId.text
      (.ok (AdminSubscriberMapper.toDetailsDto subscriber restaurantInfo), client)

end SpotqPayment
