import SpotqPayment.Properties.LedgerPages

/-! The dates of a ledger query are days of the Indian calendar: an entry is selected
exactly when its date there lies between them. -/
namespace SpotqPayment

open PlatformLedgerTransactionRepository FinanceQuery

/-- A date that the validators let through. -/
structure DateText where
  text : String
  valid : dateSchema text = true

/-- The number of the day. -/
def DateText.number (date : DateText) : Int := (Calendar.parseMidnight date.text).elim 0 Calendar.day

/-- A query for entries between two dates and nothing else. -/
def dateQuery (startDate endDate : Option DateText) : PlatformLedgerQuery where
  page := none
  limit := none
  search := none
  type := none
  restaurantId := none
  startDate := startDate.map DateText.text
  endDate := endDate.map DateText.text

theorem DateText.parseMidnight (date : DateText) :
    Calendar.parseMidnight date.text = some (Calendar.makeDate date.number 0) := by
  obtain ⟨midnight, hMidnight⟩ := parseMidnight_of_dateSchema date.valid
  rw [DateText.number, hMidnight, Option.elim_some, Calendar.makeDate_of_parseMidnight hMidnight]

theorem DateText.truthy_text (date : Option DateText) : truthy (date.map DateText.text) = date.map DateText.text := by
  cases date with
  | none => rfl
  | some date =>
      have hText : date.text ≠ "" := by
        intro hEmpty
        have hValid := date.valid
        rw [hEmpty] at hValid
        exact absurd hValid (by decide)
      exact Option.filter_some_pos (by simpa using hText)

theorem dateBound_eq (date : Option DateText) (shift : Int) :
    dateBound (date.map DateText.text) shift = .ok (date.map fun date => Calendar.makeDate date.number 0 + shift) := by
  rw [dateBound, DateText.truthy_text]
  cases date with
  | none => rfl
  | some date => simp only [Option.map_some, date.parseMidnight]

/-- Midnight in India is the first instant of the day there. -/
theorem start_le_iff {date createdAt : Int} :
    Calendar.makeDate date 0 + -indiaTimezoneOffsetMs ≤ createdAt ↔ date ≤ localDate createdAt := by
  have hDay := @Calendar.makeDate_le_iff date (createdAt + kolkataOffset)
  unfold localDate
  rw [← hDay]
  unfold indiaTimezoneOffsetMs kolkataOffset
  omega

theorem lt_end_iff {date createdAt : Int} :
    createdAt < Calendar.makeDate date 0 + (millisecondsPerDay - indiaTimezoneOffsetMs) ↔ localDate createdAt ≤ date := by
  have hDay := @Calendar.lt_makeDate_iff (date + 1) (createdAt + kolkataOffset)
  rw [← Int.lt_add_one_iff, localDate, ← hDay]
  unfold indiaTimezoneOffsetMs kolkataOffset millisecondsPerDay Calendar.makeDate Calendar.msPerDay
  omega

/-- The condition of a query for dates. -/
def dateConditions (startDate endDate : Option DateText) : List LedgerCondition :=
  if startDate = none ∧ endDate = none then []
  else [.createdAt (startDate.map fun date => Calendar.makeDate date.number 0 + -indiaTimezoneOffsetMs)
    (endDate.map fun date => Calendar.makeDate date.number 0 + (millisecondsPerDay - indiaTimezoneOffsetMs))]

theorem filters_dateQuery (startDate endDate : Option DateText) :
    filters (dateQuery startDate endDate) = .ok (dateConditions startDate endDate) := by
  have hStart := DateText.truthy_text startDate
  have hEnd := DateText.truthy_text endDate
  simp only [filters, dateQuery, dateCondition, hStart, hEnd, dateBound_eq, Option.map_eq_none_iff, dateConditions]
  split <;> rfl

theorem dateConditions_iff {startDate endDate : Option DateText} {row : PlatformLedgerTransactionProps}
    (repository : PlatformLedgerTransactionRepository) :
    (dateConditions startDate endDate).all (repository.conditionMatches row) = true ↔
      (∀ date ∈ startDate, date.number ≤ localDate row.createdAt) ∧
        ∀ date ∈ endDate, localDate row.createdAt ≤ date.number := by
  cases startDate <;> cases endDate <;>
    simp [dateConditions, conditionMatches, ← start_le_iff, ← lt_end_iff]

variable (repository : PlatformLedgerTransactionRepository) (ledger : Table PlatformLedgerTransactionProps)

/-- The entries of a query for dates lie on the days from the first to the last. -/
theorem mem_dateQuery (startDate endDate : Option DateText) : ∃ page,
    repository.findManyPaginated ledger (dateQuery startDate endDate) = .ok page ∧
    ∀ entry, entry ∈ page.entries ↔ entry ∈ ledger.rows ∧
      (∀ date ∈ startDate, date.number ≤ localDate entry.createdAt) ∧
        ∀ date ∈ endDate, localDate entry.createdAt ≤ date.number := by
  let rows := repository.selected ledger (dateConditions startDate endDate)
  refine ⟨toPaginatedDomain (Paging.sorted repository.arrangement ledgerOrder rows) rows.card none none, ?_, ?_⟩
  · simp only [findManyPaginated, filters_dateQuery]
    rfl
  · intro entry
    rw [← dateConditions_iff repository]
    exact (Paging.mem_sorted repository.arrangement ledgerOrder).trans Selection.mem_select

/-- For every ledger and every repository: a query for entries from one date to another,
either of which may be missing, selects those whose date in India is not before the
first and not after the last. Hence two ranges of dates that follow each other share no
entry and have together the entries of the whole range. -/
theorem date_filters_are_days :
    (∀ startDate endDate : Option DateText, ∃ page,
      repository.findManyPaginated ledger (dateQuery startDate endDate) = .ok page ∧
      ∀ entry, entry ∈ page.entries ↔ entry ∈ ledger.rows ∧
        (∀ date ∈ startDate, date.number ≤ localDate entry.createdAt) ∧
          ∀ date ∈ endDate, localDate entry.createdAt ≤ date.number) ∧
    ∀ first last next final : DateText, first.number ≤ last.number → last.number < final.number →
      next.number = last.number + 1 → ∃ early late whole,
        repository.findManyPaginated ledger (dateQuery first last) = .ok early ∧
        repository.findManyPaginated ledger (dateQuery next final) = .ok late ∧
        repository.findManyPaginated ledger (dateQuery first final) = .ok whole ∧
        (∀ entry, entry ∈ early.entries → entry ∉ late.entries) ∧
        ∀ entry, entry ∈ whole.entries ↔ entry ∈ early.entries ∨ entry ∈ late.entries := by
  refine ⟨mem_dateQuery repository ledger, ?_⟩
  intro first last next final hFirst hLast hNext
  obtain ⟨early, hEarly, hEarlyMem⟩ := mem_dateQuery repository ledger first last
  obtain ⟨late, hLate, hLateMem⟩ := mem_dateQuery repository ledger next final
  obtain ⟨whole, hWhole, hWholeMem⟩ := mem_dateQuery repository ledger first final
  simp only [Option.mem_def, Option.some.injEq, forall_eq'] at hEarlyMem hLateMem hWholeMem
  refine ⟨early, late, whole, hEarly, hLate, hWhole, ?_, ?_⟩
  · intro entry hIn hOut
    have hBefore := (hEarlyMem entry).mp hIn
    have hAfter := (hLateMem entry).mp hOut
    omega
  · intro entry
    rw [hEarlyMem, hLateMem, hWholeMem, ← and_or_left]
    refine and_congr_right fun _ => ?_
    omega

namespace Sample

def leapDay : DateText where
  text := "2024-02-29"
  valid := by decide

def firstOfMarch : DateText where
  text := "2024-03-01"
  valid := by decide

noncomputable def ledgerRepository : PlatformLedgerTransactionRepository where
  startsWith text term := term.toList.isPrefixOf text.toList
  arrangement := { list := Finset.toList, nodup := Finset.nodup_toList, mem_list := fun _ _ => Finset.mem_toList }

/-- The last millisecond of the leap day in India. -/
def lastOfFebruary : PlatformLedgerTransactionProps where
  id := 1
  platformWalletId := 9
  type := .customerPaymentIntake
  amountPaise := 50000
  referenceId := some "pay_1"
  createdAt := 1709231399999
  runningBalancePaise := 50000
  restaurantId := some 21

/-- The first millisecond after it. -/
def earliestOfMarch : PlatformLedgerTransactionProps :=
  { lastOfFebruary with id := 2, referenceId := none, createdAt := 1709231400000, runningBalancePaise := 100000 }

def ledgerTable : Table PlatformLedgerTransactionProps :=
  (Table.empty.putAll [lastOfFebruary, earliestOfMarch]).getD Table.empty

end Sample

theorem date_filters_around_leapDay : ∃ early late whole,
    Sample.ledgerRepository.findManyPaginated Sample.ledgerTable (dateQuery Sample.leapDay Sample.leapDay) = .ok early ∧
    Sample.ledgerRepository.findManyPaginated Sample.ledgerTable (dateQuery Sample.firstOfMarch Sample.firstOfMarch) =
      .ok late ∧
    Sample.ledgerRepository.findManyPaginated Sample.ledgerTable (dateQuery Sample.leapDay Sample.firstOfMarch) =
      .ok whole ∧
    (∀ entry, entry ∈ early.entries → entry ∉ late.entries) ∧
    ∀ entry, entry ∈ whole.entries ↔ entry ∈ early.entries ∨ entry ∈ late.entries :=
  (date_filters_are_days Sample.ledgerRepository Sample.ledgerTable).2 Sample.leapDay Sample.leapDay Sample.firstOfMarch
    Sample.firstOfMarch (le_refl _) (by decide) (by decide)

/-- Midnight in India separates the two days. -/
example : FinanceQuery.localDate Sample.lastOfFebruary.createdAt = Sample.leapDay.number ∧
    FinanceQuery.localDate Sample.earliestOfMarch.createdAt = Sample.firstOfMarch.number := by decide

end SpotqPayment
