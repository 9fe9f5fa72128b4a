import SpotqPayment.Presentation.PlatformLedgerRoutes
import Mathlib.Data.PNat.Basic

/-! The pages of the platform ledger, one after another, are its export. The entries
are sorted by time and id, and no two of them share an id, so that every query arranges
them alike and the pages cut one list into windows. -/
namespace SpotqPayment

open PlatformLedgerTransactionRepository

theorem parseMidnight_of_dateSchema {text : String} (h : dateSchema text = true) :
    ∃ midnight, Calendar.parseMidnight text = some midnight := by
  obtain ⟨midnight, hMidnight, _⟩ := (Option.any_eq_true _ _).mp (Bool.and_eq_true_iff.mp h).2
  exact ⟨midnight, hMidnight⟩

theorem dateBound_ok {date : Option String} (h : ∀ text ∈ date, dateSchema text = true) (shift : Int) :
    ∃ bound, dateBound date shift = .ok bound := by
  unfold dateBound
  cases hDate : truthy date with
  | none => exact ⟨none, rfl⟩
  | some text =>
      obtain ⟨midnight, hMidnight⟩ := parseMidnight_of_dateSchema (h text (truthy_eq_some hDate).1)
      simp only [hMidnight]
      exact ⟨_, rfl⟩

namespace ExportPlatformMasterLedgerQuery

variable (query : ExportPlatformMasterLedgerQuery)

/-- The dates of an accepted query are dates, and the page changes no condition. -/
theorem filters_ok : ∃ conditions, filters (ExportPlatformLedgerUseCase.query query.input) = .ok conditions ∧
    ∀ page limit, filters (query.pageInput page limit) = .ok conditions := by
  obtain ⟨gte, hStart⟩ := dateBound_ok query.startDate_valid (-indiaTimezoneOffsetMs)
  obtain ⟨lt, hEnd⟩ := dateBound_ok query.endDate_valid (millisecondsPerDay - indiaTimezoneOffsetMs)
  simp only [filters, dateCondition, ExportPlatformLedgerUseCase.query, input, pageInput, hStart, hEnd]
  split
  · exact ⟨_, rfl, fun _ _ => rfl⟩
  · exact ⟨_, rfl, fun _ _ => rfl⟩

end ExportPlatformMasterLedgerQuery

/-- The newest first, then the higher id: entries of a table are never of equal rank. -/
theorem ledgerOrder_strictOn (repository : PlatformLedgerTransactionRepository)
    (ledger : Table PlatformLedgerTransactionProps) (conditions : List LedgerCondition) :
    ledgerOrder.StrictOn (repository.selected ledger conditions) := by
  intro first hFirst second hSecond hLess hBack
  have hFirstRow := (Selection.mem_select.mp hFirst).1
  have hSecondRow := (Selection.mem_select.mp hSecond).1
  have hIds := (RowOrder.thenBy_le hLess hBack).2
  refine Table.eq_of_key hFirstRow hSecondRow ?_
  exact Int.ofNat.inj (RowOrder.rank_eq hIds.1 hIds.2)

section Pages

variable (startsWith : String → String → Bool) (ledger : Table PlatformLedgerTransactionProps)
  (query : ExportPlatformMasterLedgerQuery) (arrangement : Arrangement PlatformLedgerTransactionProps)

/-- A page is a window of the sorted entries. -/
theorem getPlatformMasterLedger_eq {conditions : List LedgerCondition} (page limit : ℕ+)
    (hFilters : filters (query.pageInput page limit) = .ok conditions) :
    getPlatformMasterLedger (.over { startsWith, arrangement } ledger) (query.pageInput page limit) = .ok
      { entries := (Paging.window ((page - 1) * limit) limit (Paging.sorted arrangement ledgerOrder
          (selected { startsWith, arrangement } ledger conditions))).map PlatformLedgerTransactionProps.toDto
        pagination := some
          { page
            totalPages := Paging.pageCount (selected { startsWith, arrangement } ledger conditions).card limit
            limit } } := by
  simp only [getPlatformMasterLedger, IPlatformLedgerTransactionRepository.over, findManyPaginated, hFilters]
  rfl

/-- The export has all of them. -/
theorem rows_eq {conditions : List LedgerCondition}
    (hFilters : filters (ExportPlatformLedgerUseCase.query query.input) = .ok conditions) :
    ExportPlatformLedgerUseCase.rows (.over { startsWith, arrangement } ledger) query.input =
      .ok ((Paging.sorted arrangement ledgerOrder (selected { startsWith, arrangement } ledger conditions)).map
        PlatformLedgerTransactionProps.toDto) := by
  simp only [ExportPlatformLedgerUseCase.rows, IPlatformLedgerTransactionRepository.over, findManyPaginated, hFilters]
  rfl

end Pages

end SpotqPayment
