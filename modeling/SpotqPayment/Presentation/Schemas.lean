import SpotqPayment.Application.AdminSubscribers
import SpotqPayment.Application.OrderPayment
import SpotqPayment.Application.SubscriptionPayment
import SpotqPayment.Library.Router
import SpotqPayment.Presentation.Idempotency
import SpotqPayment.Presentation.PlatformLedgerRoutes
import Mathlib.Data.List.DropRight

/-! The schemas of the requests. A schema refuses what it does not accept and passes on the
rest in its own form: without the fields that it does not know, with its defaults, and with
texts read as its types. -/
namespace Json

def field? (name : String) : Json → Option Json
  | .obj fields => fields.lookup name
  | _ => none

def str? : Json → Option String
  | .str text => some text
  | _ => none

def num? : Json → Option Int
  | .num value => some value
  | _ => none

/-- A value that the code reads with `?.` or `??`. -/
def nullish? : Json → Option Json
  | .null => none
  | json => some json

/-- `z.string().min(1)`. -/
def nonEmpty? (json : Json) : Option String := json.str?.filter (· ≠ "")

/-- `z.number().int().positive()`, whose integers are safe ones. -/
def positive? (json : Json) : Option { amount : Int // 0 < amount } :=
  json.num?.bind fun amount =>
    if h : 0 < amount ∧ amount ≤ 9007199254740991 then some ⟨amount, h.1⟩ else none

/-- A field that may be missing but not malformed. -/
def optional? {Value : Type} (name : String) (read : Json → Option Value) (body : Json) : Option (Option Value) :=
  match body.field? name with
  | none => some none
  | some json => (read json).map some

end Json

namespace SpotqPayment

open Router

/-- What the packages behind the routes decide: zod, and the token check of other services.
An id in the spelling of the database stands for a uuid, and `number` is the safe integer
that a text is coerced to. -/
structure Gate where
  uuid : String → Option Uuid
  email : String → Bool
  number : String → Option Int
  authMiddleware : Option String → Except AppError Unit

section Bodies

variable (gate : Gate) (body : Json)

/-- `z.uuid()`. -/
def Gate.id? (name : String) : Option Uuid := ((body.field? name).bind Json.str?).bind gate.uuid

def createOrderPaymentSchema : Option CreateOrderPaymentInput := do
  let orderId ← gate.id? body "orderId"
  let customerId ← gate.id? body "customerId"
  let restaurantId ← gate.id? body "restaurantId"
  let amountPaise ← (body.field? "amountPaise").bind Json.positive?
  let currency ← body.optional? "currency" Json.str?
  return {
    orderId, customerId, restaurantId
    amountPaise := amountPaise.val
    currency := currency.or (some defaultCurrency)
    amountPaise_pos := amountPaise.property }

/-- `verifyOrderPaymentSchema`, for the customer of the request. -/
def verifyOrderPaymentSchema (customerId : Option Uuid) : Option VerifyOrderPaymentInput := do
  let orderId ← gate.id? body "orderId"
  let razorpayOrderId ← (body.field? "razorpayOrderId").bind Json.nonEmpty?
  let razorpayPaymentId ← (body.field? "razorpayPaymentId").bind Json.nonEmpty?
  let razorpaySignature ← (body.field? "razorpaySignature").bind Json.nonEmpty?
  return { orderId, razorpayOrderId, razorpayPaymentId, razorpaySignature, customerId }

def processOrderRefundSchema : Option ProcessOrderRefundInput := do
  let orderId ← gate.id? body "orderId"
  let amountPaise ← body.optional? "amountPaise" Json.positive?
  let reason ← body.optional? "reason" Json.nonEmpty?
  let _notes ← body.optional? "notes" Json.str?
  return { orderId, amountPaise := amountPaise.map Subtype.val, reason }

/-- `createSubscriptionOrderSchema`, with the restaurant that the body may name. -/
def createSubscriptionOrderSchema : Option CreateSubscriptionOrderInput := do
  let planId ← gate.id? body "planId"
  let restaurantId ← body.optional? "restaurantId" fun json => json.str?.bind gate.uuid
  let _restaurantName ← body.optional? "restaurantName" Json.str?
  let _restaurantEmail ← body.optional? "restaurantEmail" fun json => json.str?.filter gate.email
  let _restaurantPhone ← body.optional? "restaurantPhone" Json.str?
  return { restaurantId, planId }

/-- `verifyPaymentSchema`, for the restaurant of the request. -/
def verifyPaymentSchema (restaurantId : Option Uuid) : Option VerifyPaymentInput := do
  let razorpayOrderId ← (body.field? "razorpayOrderId").bind Json.nonEmpty?
  let razorpayPaymentId ← (body.field? "razorpayPaymentId").bind Json.nonEmpty?
  let razorpaySignature ← (body.field? "razorpaySignature").bind Json.nonEmpty?
  return { razorpayOrderId, razorpayPaymentId, razorpaySignature, restaurantId }

end Bodies

/-- The schemas that `validateRequestBody` is given. -/
inductive BodySchema where
  | createOrderPayment | verifyOrderPayment | processOrderRefund
  deriving DecidableEq

namespace BodySchema

def accepts (gate : Gate) (body : Json) : BodySchema → Bool
  | .createOrderPayment => (createOrderPaymentSchema gate body).isSome
  | .verifyOrderPayment => (verifyOrderPaymentSchema gate body none).isSome
  | .processOrderRefund => (processOrderRefundSchema gate body).isSome

/-- The fields that a schema knows. -/
def fields : BodySchema → List String
  | .createOrderPayment => ["orderId", "customerId", "restaurantId", "amountPaise", "currency"]
  | .verifyOrderPayment => ["orderId", "razorpayOrderId", "razorpayPaymentId", "razorpaySignature"]
  | .processOrderRefund => ["orderId", "amountPaise", "reason", "notes"]

/-- The values of fields that are missing. -/
def defaults : BodySchema → List (String × Json)
  | .createOrderPayment => [("currency", .str defaultCurrency)]
  | .verifyOrderPayment | .processOrderRefund => []

/-- A field as the schema passes it on. -/
def value? (schema : BodySchema) (body : Json) (name : String) : Option Json :=
  (body.field? name).or (schema.defaults.lookup name)

/-- `schema.parseAsync` on a body. -/
def parse (gate : Gate) (schema : BodySchema) (body : Json) : Option Json :=
  if schema.accepts gate body then
    some (.obj (schema.fields.filterMap fun name => (schema.value? body name).map (name, ·)))
  else none

theorem lookup_filterMap {value? : String → Option Json} {names : List String} {name : String} :
    (names.filterMap fun name => (value? name).map (name, ·)).lookup name =
      if name ∈ names then value? name else none := by
  induction names with
  | nil => rfl
  | cons first names ih =>
      cases hFirst : value? first with
      | none =>
          rw [List.filterMap_cons_none (by rw [hFirst]; rfl), ih]
          by_cases hSame : name = first
          · subst hSame
            simp [hFirst]
          · simp [hSame]
      | some value =>
          rw [List.filterMap_cons_some (b := (first, value)) (by rw [hFirst]; rfl), List.lookup_cons, ih]
          by_cases hSame : name = first
          · subst hSame
            simp [hFirst]
          · rw [beq_eq_false_iff_ne.mpr hSame]
            simp [hSame]

variable {gate : Gate} {schema : BodySchema} {body output : Json}

theorem field?_parse (h : schema.parse gate body = some output) {name : String} (hName : name ∈ schema.fields) :
    output.field? name = schema.value? body name := by
  rw [parse] at h
  split at h
  · cases h
    exact lookup_filterMap.trans (if_pos hName)
  · cases h

/-- A field without a default is passed on as it is. -/
theorem field?_parse_of_plain (h : schema.parse gate body = some output) {name : String} (hName : name ∈ schema.fields)
    (hPlain : schema.defaults.lookup name = none) : output.field? name = body.field? name := by
  rw [field?_parse h hName, value?, hPlain, Option.or_none]

end BodySchema

section Outputs

variable {gate : Gate} {body output : Json}

/-- A schema reads its own output as it has read the body. -/
theorem createOrderPaymentSchema_parse (h : BodySchema.createOrderPayment.parse gate body = some output) :
    createOrderPaymentSchema gate output = createOrderPaymentSchema gate body := by
  have hCurrency : output.field? "currency" = (body.field? "currency").or (some (.str defaultCurrency)) :=
    BodySchema.field?_parse h (by decide)
  have hField : ∀ name ∈ BodySchema.createOrderPayment.fields,
      BodySchema.createOrderPayment.defaults.lookup name = none → output.field? name = body.field? name :=
    fun _ hName hPlain => BodySchema.field?_parse_of_plain h hName hPlain
  simp only [createOrderPaymentSchema, Gate.id?, Json.optional?, hCurrency, hField "orderId" (by decide) rfl,
    hField "customerId" (by decide) rfl, hField "restaurantId" (by decide) rfl,
    hField "amountPaise" (by decide) rfl]
  cases body.field? "currency" <;> rfl

theorem verifyOrderPaymentSchema_parse (h : BodySchema.verifyOrderPayment.parse gate body = some output)
    (customerId : Option Uuid) :
    verifyOrderPaymentSchema gate output customerId = verifyOrderPaymentSchema gate body customerId := by
  have hField : ∀ name ∈ BodySchema.verifyOrderPayment.fields, output.field? name = body.field? name :=
    fun _ hName => BodySchema.field?_parse_of_plain h hName rfl
  simp only [verifyOrderPaymentSchema, Gate.id?, hField "orderId" (by decide), hField "razorpayOrderId" (by decide),
    hField "razorpayPaymentId" (by decide), hField "razorpaySignature" (by decide)]

theorem processOrderRefundSchema_parse (h : BodySchema.processOrderRefund.parse gate body = some output) :
    processOrderRefundSchema gate output = processOrderRefundSchema gate body := by
  have hField : ∀ name ∈ BodySchema.processOrderRefund.fields, output.field? name = body.field? name :=
    fun _ hName => BodySchema.field?_parse_of_plain h hName rfl
  simp only [processOrderRefundSchema, Gate.id?, Json.optional?, hField "orderId" (by decide),
    hField "amountPaise" (by decide), hField "reason" (by decide), hField "notes" (by decide)]

end Outputs

/-- The schemas that `validateRequestParams` is given. -/
inductive ParamsSchema where
  | getOrderPaymentStatusParams | getAdminSubscriberDetailsParams
  deriving DecidableEq

/-- `schema.parseAsync` on the parameters of a path. The schema of the subscribers is strict. -/
def ParamsSchema.parse (gate : Gate) (params : Params) : ParamsSchema → Option Params
  | .getOrderPaymentStatusParams =>
      ((params.lookup "orderId").filter fun text => (gate.uuid text).isSome).map fun text => [("orderId", text)]
  | .getAdminSubscriberDetailsParams =>
      if params.all (·.1 = "subscriberId") then
        ((params.lookup "subscriberId").filter fun text => (gate.uuid text).isSome).map
          fun text => [("subscriberId", text)]
      else none

section Queries

/-- The query of a URL, as Express parses it. -/
abbrev Query := List (String × String)

/-- `z.preprocess(emptyToUndefined, ..)` of a field. What comes twice is an array, which no
schema here takes. -/
def Query.optional? {Value : Type} (query : Query) (name : String) (read : String → Option Value) :
    Option (Option Value) :=
  match query.filter (·.1 = name) with
  | [] => some none
  | [(_, text)] => if trim text = "" then some none else (read text).map some
  | _ => none

variable (gate : Gate)

/-- `z.coerce.number().int().min(1)`. -/
def Gate.count? (text : String) : Option ℕ+ :=
  (gate.number text).bind fun value => if h : 1 ≤ value then some ⟨value.toNat, by omega⟩ else none

/-- `z.coerce.number().int().min(1).max(100)`. -/
def Gate.limit? (text : String) : Option { limit : ℕ+ // limit.val ≤ 100 } :=
  (gate.count? text).bind fun limit => if h : limit.val ≤ 100 then some ⟨limit, h⟩ else none

/-- The defaults of a page and its length. -/
def defaultPage : ℕ+ := ⟨1, Nat.one_pos⟩

theorem defaultLimit_pos : 0 < 10 := by decide

def defaultLimit : ℕ+ := ⟨10, defaultLimit_pos⟩

theorem defaultLimit_max : defaultLimit.val ≤ 100 := by decide

theorem trim_trim (text : String) : trim (trim text) = trim text := by
  have hTrim : ∀ text, trim text = String.ofList ((text.toList.dropWhile isTrimmed).rdropWhile isTrimmed) :=
    fun _ => rfl
  have hFront : ((text.toList.dropWhile isTrimmed).rdropWhile isTrimmed).dropWhile isTrimmed =
      (text.toList.dropWhile isTrimmed).rdropWhile isTrimmed := by
    refine List.dropWhile_eq_self_iff.mpr fun hSome => ?_
    have hPrefix := List.rdropWhile_prefix isTrimmed (l := text.toList.dropWhile isTrimmed)
    rw [hPrefix.getElem hSome]
    exact List.dropWhile_get_zero_not isTrimmed text.toList _
  rw [hTrim, hTrim, String.toList_ofList, hFront, List.rdropWhile_idempotent]

/-- `z.string().trim().min(1)`. -/
def trimmed? (text : String) : Option { search : String // trim search = search ∧ search ≠ "" } :=
  if h : trim text = "" then none else some ⟨trim text, trim_trim text, h⟩

def date? (text : String) : Option { date : String // dateSchema date = true } :=
  if h : dateSchema text = true then some ⟨text, h⟩ else none

def PlatformTransactionType.ofText? (text : String) : Option PlatformTransactionType :=
  [.customerPaymentIntake, .settlementDisbursed, .refundExpense].find? fun type => type.text = text

theorem forall_mem_val {Value : Type} {p : Value → Prop} (found : Option (Subtype p)) :
    ∀ value ∈ found.map Subtype.val, p value := by
  intro value hValue
  obtain ⟨read, -, rfl⟩ := Option.map_eq_some_iff.mp hValue
  exact read.property

/-- `exportPlatformMasterLedgerQuerySchema`. -/
def exportPlatformMasterLedgerQuerySchema (query : Query) : Option ExportPlatformMasterLedgerQuery := do
  let search ← query.optional? "search" trimmed?
  let type ← query.optional? "type" PlatformTransactionType.ofText?
  let restaurantId ← query.optional? "restaurantId" gate.uuid
  let startDate ← query.optional? "startDate" date?
  let endDate ← query.optional? "endDate" date?
  if h : ∀ start ∈ startDate, ∀ finish ∈ endDate, start.val ≤ finish.val then
    return {
      search := search.map Subtype.val
      type, restaurantId
      startDate := startDate.map Subtype.val
      endDate := endDate.map Subtype.val
      search_trimmed := forall_mem_val search
      startDate_valid := forall_mem_val startDate
      endDate_valid := forall_mem_val endDate
      dates_ordered := by
        intro start hStart finish hFinish
        obtain ⟨first, hFirst, rfl⟩ := Option.map_eq_some_iff.mp hStart
        obtain ⟨last, hLast, rfl⟩ := Option.map_eq_some_iff.mp hFinish
        exact h first hFirst last hLast }
  else none

/-- `getPlatformMasterLedgerQuerySchema`, with its defaults. -/
def getPlatformMasterLedgerQuerySchema (query : Query) : Option GetPlatformMasterLedgerQuery := do
  let filters ← exportPlatformMasterLedgerQuerySchema gate query
  let page ← query.optional? "page" gate.count?
  let limit ← query.optional? "limit" gate.limit?
  let bounded := limit.getD ⟨defaultLimit, defaultLimit_max⟩
  return { filters with page := page.getD defaultPage, limit := bounded.val, limit_max := bounded.property }

def SubscriberStatusFilter.ofText? : String → Option SubscriberStatusFilter
  | "ACTIVE" => some (.only .active)
  | "PENDING" => some (.only .pending)
  | "EXPIRED" => some (.only .expired)
  | "CANCELLED" => some (.only .cancelled)
  | "PAST_DUE" => some (.only .pastDue)
  | "ALL" => some .all
  | _ => none

def SubscriberSortField.ofText? : String → Option SubscriberSortField
  | "createdAt" => some .createdAt
  | "currentPeriodEnd" => some .currentPeriodEnd
  | "currentPeriodStart" => some .currentPeriodStart
  | "status" => some .status
  | _ => none

def SortDirection.ofText? : String → Option SortDirection
  | "asc" => some .asc
  | "desc" => some .desc
  | _ => none

/-- `listAdminSubscribersQuerySchema`, which is strict. -/
def listAdminSubscribersQuerySchema (query : Query) : Option ListAdminSubscribersQueryDTO := do
  guard (query.all fun field => field.1 ∈ ["page", "limit", "status", "search", "sortBy", "sortOrder"])
  let page ← query.optional? "page" gate.count?
  let limit ← query.optional? "limit" gate.limit?
  let status ← query.optional? "status" SubscriberStatusFilter.ofText?
  let search ← query.optional? "search" trimmed?
  let sortBy ← query.optional? "sortBy" SubscriberSortField.ofText?
  let sortOrder ← query.optional? "sortOrder" SortDirection.ofText?
  return {
    page := some (page.getD defaultPage)
    limit := some ((limit.map Subtype.val).getD defaultLimit)
    status
    search := search.map Subtype.val
    sortBy := some (sortBy.getD .createdAt)
    sortOrder := some (sortOrder.getD .desc) }

end Queries

/-- The schemas that `validateRequestQuery` is given. -/
inductive QuerySchema where
  | listAdminSubscribers | getPlatformMasterLedger | exportPlatformMasterLedger
  deriving DecidableEq

/-- A query as its schema passes it on. -/
inductive ParsedQuery where
  | listAdminSubscribers (query : ListAdminSubscribersQueryDTO)
  | getPlatformMasterLedger (query : GetPlatformMasterLedgerQuery)
  | exportPlatformMasterLedger (query : ExportPlatformMasterLedgerQuery)
  deriving DecidableEq

/-- `schema.parseAsync` on a query. -/
def QuerySchema.parse (gate : Gate) (query : Query) : QuerySchema → Option ParsedQuery
  | .listAdminSubscribers => (listAdminSubscribersQuerySchema gate query).map .listAdminSubscribers
  | .getPlatformMasterLedger => (getPlatformMasterLedgerQuerySchema gate query).map .getPlatformMasterLedger
  | .exportPlatformMasterLedger => (exportPlatformMasterLedgerQuerySchema gate query).map .exportPlatformMasterLedger

end SpotqPayment
