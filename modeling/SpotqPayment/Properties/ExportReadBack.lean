import Mathlib
import SpotqPayment.Application.PlatformLedger
import SpotqPayment.Library.Csv

/-! A reader for comma-separated values gets back from an export of the ledger what the
entries hold, whatever characters occur in them. That integers are read back is
`Int.toInt?_repr`, which only the whole of Mathlib brings with it. -/
namespace SpotqPayment

open ExportPlatformLedgerUseCase

/-- The texts of an entry in the order of the columns, with an empty text for `null`. -/
def PlatformLedgerEntryDTO.record (row : PlatformLedgerEntryDTO) : List String :=
  [row.id, row.type, row.amountPaise, row.runningBalancePaise, row.restaurantId.getD "", row.referenceId.getD "",
    row.createdAt]

/-- The names of the columns hold no character that needs quotes. -/
theorem reads_name (column : Column) : Csv.Reads column.name.toList column.name.toList := by
  have hPlain : column.name.toList.all Csv.isPlain = true := by cases column <;> decide
  exact Csv.reads_plain (List.all_eq_true.mp hPlain)

theorem reads_csvCell (value : Option String) : Csv.Reads (csvCell value).toList (value.getD "").toList := by
  rw [csvCell, String.toList_ofList]
  exact Csv.reads_quoted _

/-- The cells of a row are read as its record. -/
theorem reads_row (row : PlatformLedgerEntryDTO) :
    List.Forall₂ (fun cell field => Csv.Reads cell.toList field.toList)
      (columns.map fun key => csvCell (key.get row)) row.record := by
  have hRecord : row.record = columns.map fun key => (key.get row).getD "" := rfl
  rw [hRecord, List.forall₂_map_left_iff, List.forall₂_map_right_iff, List.forall₂_same]
  exact fun key _ => reads_csvCell (key.get row)

theorem parse_csv (rows : List PlatformLedgerEntryDTO) :
    Csv.parse (csv rows) = some (columns.map Column.name :: rows.map PlatformLedgerEntryDTO.record) := by
  let cells (row : PlatformLedgerEntryDTO) := columns.map fun key => csvCell (key.get row)
  have hLines : csv rows =
      "\r\n".intercalate ((columns.map Column.name :: rows.map cells).map ",".intercalate) := by
    rw [csv, List.map_cons, List.map_map]
    rfl
  rw [hLines]
  refine Csv.parse_lines (.cons ?_ ?_) (List.cons_ne_nil _ _) ?_
  · rw [List.forall₂_same]
    intro name hName
    obtain ⟨column, _, rfl⟩ := List.mem_map.mp hName
    exact reads_name column
  · rw [List.forall₂_map_left_iff, List.forall₂_map_right_iff, List.forall₂_same]
    exact fun row _ => reads_row row
  · intro line hLine
    rcases List.mem_cons.mp hLine with rfl | hRow
    · exact Csv.intercalate_ne_empty _ _ _
    · obtain ⟨row, _, rfl⟩ := List.mem_map.mp hRow
      exact Csv.intercalate_ne_empty _ _ _

/-- For every list of entries that the repository returns: the export is read back as
the header and, for each entry in order, a record of its seven fields, and the amounts
are the numbers that they were. -/
theorem export_reads_back (repository : IPlatformLedgerTransactionRepository) (input : ExportPlatformLedgerInputDTO)
    (result : PlatformLedgerPage)
    (hResult : repository.findManyPaginated (ExportPlatformLedgerUseCase.query input) = .ok result) :
    ∃ text, execute repository input = .ok text ∧
      Csv.parse text = some
        (["id", "type", "amountPaise", "runningBalancePaise", "restaurantId", "referenceId", "createdAt"] ::
          result.entries.map fun entry => entry.toDto.record) ∧
      ∀ entry ∈ result.entries, entry.toDto.record.length = 7 ∧
        (entry.toDto.record.getD 2 "").toInt? = some entry.amountPaise ∧
        (entry.toDto.record.getD 3 "").toInt? = some entry.runningBalancePaise := by
  refine ⟨csv (result.entries.map PlatformLedgerTransactionProps.toDto), ?_, ?_, ?_⟩
  · rw [execute, rows, hResult]
    rfl
  · rw [parse_csv, List.map_map]
    rfl
  · intro entry _
    exact ⟨rfl, Int.toInt?_repr entry.amountPaise, Int.toInt?_repr entry.runningBalancePaise⟩

namespace Sample

/-- An entry whose reference is hard to read. -/
def quotedEntry : PlatformLedgerTransactionProps where
  id := 3
  platformWalletId := 9
  type := .refundExpense
  amountPaise := -18446744073709551616
  referenceId := some "\"a\",\r\n"
  createdAt := 0
  runningBalancePaise := 0
  restaurantId := none

/-- A repository that returns it. -/
def quotedLedger : IPlatformLedgerTransactionRepository where
  findManyPaginated _ := .ok { entries := [quotedEntry], pagination := none }

def wholeLedger : ExportPlatformLedgerInputDTO where
  search := none
  type := none
  restaurantId := none
  startDate := none
  endDate := none

end Sample

theorem export_reads_back_quoted : ∃ text, execute Sample.quotedLedger Sample.wholeLedger = .ok text ∧
    Csv.parse text = some
      (["id", "type", "amountPaise", "runningBalancePaise", "restaurantId", "referenceId", "createdAt"] ::
        [Sample.quotedEntry].map fun entry => entry.toDto.record) ∧
    ∀ entry ∈ [Sample.quotedEntry], entry.toDto.record.length = 7 ∧
      (entry.toDto.record.getD 2 "").toInt? = some entry.amountPaise ∧
      (entry.toDto.record.getD 3 "").toInt? = some entry.runningBalancePaise :=
  export_reads_back Sample.quotedLedger Sample.wholeLedger { entries := [Sample.quotedEntry], pagination := none } rfl

end SpotqPayment
