import SpotqPayment.Application.PlatformLedger

/-! The queries that the routes of the platform ledger accept. -/
namespace SpotqPayment

/-- `YYYY_MM_DD_REGEX`. -/
def hasDateFormat (text : String) : Bool :=
  match text.toList with
  | [y₁, y₂, y₃, y₄, '-', m₁, m₂, '-', d₁, d₂] => [y₁, y₂, y₃, y₄, m₁, m₂, d₁, d₂].all Char.isDigit
  | _ => false

/-- `dateSchema`: the date is written as the calendar writes it. -/
def dateSchema (text : String) : Bool :=
  hasDateFormat text &&
    (Calendar.parseMidnight text).any fun date => String.ofList ((Calendar.toISOString date).toList.take 10) = text

/-- A query that `exportPlatformMasterLedgerQuerySchema` accepts. -/
structure ExportPlatformMasterLedgerQuery where
  search : Option String
  type : Option PlatformTransactionType
  restaurantId : Option Uuid
  startDate : Option String
  endDate : Option String
  search_trimmed : ∀ text ∈ search, trim text = text ∧ text ≠ ""
  startDate_valid : ∀ text ∈ startDate, dateSchema text = true
  endDate_valid : ∀ text ∈ endDate, dateSchema text = true
  dates_ordered : ∀ start ∈ startDate, ∀ finish ∈ endDate, start ≤ finish
  deriving DecidableEq

/-- A query that `getPlatformMasterLedgerQuerySchema` accepts. -/
structure GetPlatformMasterLedgerQuery extends ExportPlatformMasterLedgerQuery where
  page : ℕ+
  limit : ℕ+
  limit_max : limit.val ≤ 100
  deriving DecidableEq

namespace ExportPlatformMasterLedgerQuery

variable (query : ExportPlatformMasterLedgerQuery)

def input : ExportPlatformLedgerInputDTO where
  search := query.search
  type := query.type
  restaurantId := query.restaurantId
  startDate := query.startDate
  endDate := query.endDate

/-- The same filters with a page, as `getPlatformMasterLedgerQuerySchema` accepts them. -/
def pageInput (page limit : ℕ+) : PlatformLedgerQuery where
  page := page
  limit := limit
  search := query.search
  type := query.type
  restaurantId := query.restaurantId
  startDate := query.startDate
  endDate := query.endDate

end ExportPlatformMasterLedgerQuery

end SpotqPayment
