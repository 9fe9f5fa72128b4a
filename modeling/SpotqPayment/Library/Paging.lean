import SpotqPayment.Library.Selection
import Mathlib.Data.List.Nodup
import Mathlib.Data.List.Pairwise
import Mathlib.Data.Finset.Dedup
import Mathlib.Data.Finset.Card

/-! Pages of a sorted list. When all pages come from one list they are a partition
of it. A database that answers each page by a query of its own may arrange rows of
equal rank anew, and then the pages still show every row once exactly when no
boundary between two pages separates such rows. -/

/-- An `ORDER BY`: which row may stand before which. -/
structure RowOrder (Row : Type) where
  le : Row → Row → Bool
  trans : ∀ first second third, le first second = true → le second third = true → le first third = true
  total : ∀ first second, (le first second || le second first) = true

namespace RowOrder

variable {Row : Type}

/-- By one column, from the lowest or from the highest. -/
def byRank (rank : Row → Int) (descending : Bool) : RowOrder Row where
  le := fun first second => if descending then rank second ≤ rank first else rank first ≤ rank second
  trans := by
    intro first second third hFirst hSecond
    cases descending <;> simp only [Bool.false_eq_true, if_false, if_true, decide_eq_true_eq] at * <;> omega
  total := by
    intro first second
    cases descending <;> simp only [Bool.false_eq_true, if_false, if_true, Bool.or_eq_true, decide_eq_true_eq] <;> omega

/-- By a first column, and rows that are equal in it by a second one. -/
def thenBy (major minor : RowOrder Row) : RowOrder Row where
  le := fun first second => major.le first second && (!major.le second first || minor.le first second)
  trans := by
    intro first second third hFirst hSecond
    simp only [Bool.and_eq_true, Bool.or_eq_true, Bool.not_eq_true'] at *
    refine ⟨major.trans first second third hFirst.1 hSecond.1, ?_⟩
    by_cases hBack : major.le third first = true
    · have hMiddle := major.trans second third first hSecond.1 hBack
      have hLast := major.trans third first second hBack hFirst.1
      refine Or.inr (minor.trans first second third ?_ ?_)
      · exact hFirst.2.resolve_left (by simp [hMiddle])
      · exact hSecond.2.resolve_left (by simp [hLast])
    · exact Or.inl (by simpa using hBack)
  total := by
    intro first second
    have hMajor := major.total first second
    have hMinor := minor.total first second
    simp only [Bool.or_eq_true, Bool.and_eq_true, Bool.not_eq_true'] at *
    cases hFirst : major.le first second <;> cases hSecond : major.le second first <;> simp_all

theorem le_self (order : RowOrder Row) (row : Row) : order.le row row = true := by
  have hTotal := order.total row row
  rwa [Bool.or_self] at hTotal

theorem le_of_not_le (order : RowOrder Row) {first second : Row} (h : ¬ order.le first second = true) :
    order.le second first = true :=
  (Bool.or_eq_true_iff.mp (order.total first second)).resolve_left h

/-- Rows that may stand either way around are equal in the column. -/
theorem rank_eq {rank : Row → Int} {descending : Bool} {first second : Row}
    (hFirst : (byRank rank descending).le first second = true) (hSecond : (byRank rank descending).le second first = true) :
    rank first = rank second := by
  cases descending <;> simp only [byRank, Bool.false_eq_true, if_false, if_true, decide_eq_true_eq] at * <;> omega

/-- Rows that may stand either way around by two columns may do so by each of them. -/
theorem thenBy_le {major minor : RowOrder Row} {first second : Row} (hFirst : (thenBy major minor).le first second = true)
    (hSecond : (thenBy major minor).le second first = true) :
    (major.le first second = true ∧ major.le second first = true) ∧
      minor.le first second = true ∧ minor.le second first = true := by
  simp only [thenBy, Bool.and_eq_true, Bool.or_eq_true, Bool.not_eq_true'] at hFirst hSecond
  refine ⟨⟨hFirst.1, hSecond.1⟩, ?_, ?_⟩
  · exact hFirst.2.resolve_left (by simp [hSecond.1])
  · exact hSecond.2.resolve_left (by simp [hFirst.1])

/-- No two of the rows are of equal rank. -/
def StrictOn (order : RowOrder Row) (rows : Finset Row) : Prop :=
  ∀ first ∈ rows, ∀ second ∈ rows, order.le first second = true → order.le second first = true → first = second

end RowOrder

namespace Paging

variable {Row : Type}

/-- What `skip` and `take` leave of a list. -/
def window (skip take : Nat) (rows : List Row) : List Row := (rows.drop skip).take take

/-- The pages that so many rows fill. -/
def pageCount (total limit : Nat) : Nat := (total + limit - 1) / limit

/-- The rows in an order, where the arrangement decides between rows of equal rank. -/
def sorted (arrangement : Arrangement Row) (order : RowOrder Row) (rows : Finset Row) : List Row :=
  (arrangement.list rows).mergeSort order.le

section Windows

variable {limit : Nat}

theorem le_pageCount_mul (hLimit : 0 < limit) (total : Nat) : total ≤ pageCount total limit * limit := by
  have hSplit := Nat.div_add_mod (total + limit - 1) limit
  have hRest := Nat.mod_lt (total + limit - 1) hLimit
  rw [pageCount, Nat.mul_comm]
  omega

/-- The last page is not empty. -/
theorem lt_of_lt_pageCount (hLimit : 0 < limit) {total page : Nat} (h : page < pageCount total limit) :
    page * limit < total := by
  have hLess := (Nat.le_div_iff_mul_le hLimit).mp (Nat.succ_le_of_lt h)
  rw [Nat.succ_mul] at hLess
  omega

theorem div_lt_pageCount (hLimit : 0 < limit) {total index : Nat} (h : index < total) :
    index / limit < pageCount total limit :=
  (Nat.div_lt_iff_lt_mul hLimit).mpr (lt_of_lt_of_le h (le_pageCount_mul hLimit total))

/-- There are no pages of nothing. -/
theorem pageCount_zero (hLimit : 0 < limit) : pageCount 0 limit = 0 := by
  rw [pageCount]
  apply Nat.div_eq_of_lt
  omega

/-- Where a page starts, with pages counted from one as requests do. -/
theorem toNat_skip (page : Nat) {limit : Int} (hLimit : 0 ≤ limit) :
    (((page + 1 : Int) - 1) * limit).toNat = page * limit.toNat := by
  rw [Int.add_sub_cancel, Int.toNat_mul (Int.natCast_nonneg page) hLimit, Int.toNat_natCast]

theorem length_window (skip take : Nat) (rows : List Row) :
    (window skip take rows).length = min take (rows.length - skip) := by
  rw [window, List.length_take, List.length_drop]

/-- The first pages of a list are its beginning. -/
theorem flatMap_window (rows : List Row) (limit : Nat) : ∀ pages,
    (List.range pages).flatMap (fun page => window (page * limit) limit rows) = rows.take (pages * limit) := by
  intro pages
  induction pages with
  | zero => simp
  | succ pages ih =>
      rw [List.range_succ, List.flatMap_append, ih, Nat.succ_mul, List.take_add, List.flatMap_singleton]
      rfl

/-- All pages of a list are the list. -/
theorem flatMap_pages (hLimit : 0 < limit) (rows : List Row) :
    (List.range (pageCount rows.length limit)).flatMap (fun page => window (page * limit) limit rows) = rows := by
  rw [flatMap_window, List.take_of_length_le (le_pageCount_mul hLimit rows.length)]

/-- Every page but the last is full. -/
theorem length_window_of_succ_lt (hLimit : 0 < limit) {rows : List Row} {page : Nat}
    (h : page + 1 < pageCount rows.length limit) : (window (page * limit) limit rows).length = limit := by
  have hNext := lt_of_lt_pageCount hLimit h
  rw [Nat.succ_mul] at hNext
  rw [length_window]
  omega

/-- A page has at least one row and no more than the limit. -/
theorem length_window_bounds (hLimit : 0 < limit) {rows : List Row} {page : Nat}
    (h : page < pageCount rows.length limit) :
    1 ≤ (window (page * limit) limit rows).length ∧ (window (page * limit) limit rows).length ≤ limit := by
  have hStart := lt_of_lt_pageCount hLimit h
  rw [length_window]
  omega

/-- There is nothing after the last page. -/
theorem window_eq_nil (hLimit : 0 < limit) {rows : List Row} {page : Nat} (h : pageCount rows.length limit ≤ page) :
    window (page * limit) limit rows = [] := by
  have hEnd := (le_pageCount_mul hLimit rows.length).trans (Nat.mul_le_mul_right limit h)
  rw [window, List.drop_of_length_le hEnd, List.take_nil]

end Windows

section Sorted

variable (arrangement : Arrangement Row) (order : RowOrder Row) (rows : Finset Row)

theorem nodup_sorted : (sorted arrangement order rows).Nodup :=
  (List.mergeSort_perm _ _).nodup_iff.mpr (arrangement.nodup rows)

variable {rows} in
theorem mem_sorted {row : Row} : row ∈ sorted arrangement order rows ↔ row ∈ rows := by
  rw [sorted, List.mem_mergeSort, arrangement.mem_list]

theorem pairwise_sorted :
    (sorted arrangement order rows).Pairwise fun first second => order.le first second = true :=
  List.pairwise_mergeSort order.trans order.total _

theorem perm_arrangements (first second : Arrangement Row) :
    (first.list rows).Perm (second.list rows) :=
  (List.perm_ext_iff_of_nodup (first.nodup rows) (second.nodup rows)).mpr fun row =>
    (first.mem_list rows row).trans (second.mem_list rows row).symm

theorem length_sorted [DecidableEq Row] : (sorted arrangement order rows).length = rows.card := by
  have hRows : (sorted arrangement order rows).toFinset = rows := by
    ext row
    rw [List.mem_toFinset, mem_sorted]
  rw [← List.toFinset_card_of_nodup (nodup_sorted arrangement order rows), hRows]

variable {order rows} in
/-- Rows of different ranks leave the database nothing to arrange. -/
theorem sorted_eq_of_strict (hStrict : order.StrictOn rows) (first second : Arrangement Row) :
    sorted first order rows = sorted second order rows := by
  refine List.Perm.eq_of_pairwise (fun left right hLeft hRight => ?_) (pairwise_sorted first order rows)
    (pairwise_sorted second order rows) ?_
  · exact hStrict left ((mem_sorted first order).mp hLeft) right ((mem_sorted second order).mp hRight)
  · exact (List.mergeSort_perm _ _).trans
      ((perm_arrangements rows first second).trans (List.mergeSort_perm _ _).symm)

end Sorted

section Ties

variable [DecidableEq Row] (order : RowOrder Row) (rows : Finset Row)

/-- How many rows stand before a row in every arrangement. -/
def before (row : Row) : Nat := (rows.filter fun other => !order.le row other).card

/-- How many rows stand before it, or have its rank, the row itself included. -/
def upTo (row : Row) : Nat := (rows.filter fun other => order.le other row).card

variable {rows} {row : Row} (arrangement : Arrangement Row)

omit [DecidableEq Row] in
/-- A row of a list without repetitions comes from one part of it. -/
theorem part_unique {Index : Type} (row : Row) {part : Index → List Row} {indices : List Index}
    (hNodup : (indices.flatMap part).Nodup) {first second : Index} (hFirst : first ∈ indices) (hSecond : second ∈ indices)
    (hFirstPart : row ∈ part first) (hSecondPart : row ∈ part second) : first = second := by
  by_contra hApart
  have hSymm : Std.Symm (Function.onFun List.Disjoint part) := ⟨fun _ _ hDisjoint => List.Disjoint.symm hDisjoint⟩
  exact (List.nodup_flatMap.mp hNodup).2.forall hFirst hSecond hApart hFirstPart hSecondPart

theorem mem_window_iff {list : List Row} (hNodup : list.Nodup) (hMem : row ∈ list) (skip take : Nat) :
    row ∈ window skip take list ↔ skip ≤ list.idxOf row ∧ list.idxOf row < skip + take := by
  have hBegin : row ∈ list.take skip ↔ list.idxOf row < skip := List.mem_take_iff_idxOf_lt hMem
  have hEnd : row ∈ list.take (skip + take) ↔ list.idxOf row < skip + take := List.mem_take_iff_idxOf_lt hMem
  have hApart := (List.disjoint_take_drop hNodup (le_refl skip))
  rw [List.take_add, List.mem_append, hBegin] at hEnd
  constructor
  · intro hWindow
    refine ⟨not_lt.mp fun hLess => ?_, hEnd.mp (Or.inr hWindow)⟩
    exact hApart (hBegin.mpr hLess) (List.mem_of_mem_take hWindow)
  · rintro ⟨hSkip, hTake⟩
    exact (hEnd.mpr hTake).resolve_left (not_lt.mpr hSkip)

/-- A row at some place of a list stands after what is before and before what is after. -/
theorem split_at {list : List Row} (hMem : row ∈ list) :
    list = list.take (list.idxOf row) ++ row :: list.drop (list.idxOf row + 1) := by
  have hIndex := List.idxOf_lt_length_of_mem hMem
  have hDrop := List.drop_eq_getElem_cons hIndex
  rw [List.getElem_idxOf hIndex] at hDrop
  rw [← hDrop, List.take_append_drop]

theorem before_le_idxOf (hMem : row ∈ rows) : before order rows row ≤ (sorted arrangement order rows).idxOf row := by
  have hList := (mem_sorted arrangement order).mpr hMem
  have hSplit := split_at hList
  have hSubset : (rows.filter fun other => !order.le row other) ⊆
      ((sorted arrangement order rows).take ((sorted arrangement order rows).idxOf row)).toFinset := by
    intro other hOther
    obtain ⟨hRow, hLess⟩ := Finset.mem_filter.mp hOther
    have hNot : ¬ order.le row other = true := by simpa using hLess
    have hPlace := (mem_sorted arrangement order).mpr hRow
    have hPairwise := pairwise_sorted arrangement order rows
    rw [hSplit] at hPlace hPairwise
    rw [List.mem_toFinset]
    rcases List.mem_append.mp hPlace with hBefore | hAfter
    · exact hBefore
    rcases List.mem_cons.mp hAfter with rfl | hLater
    · exact absurd (order.le_self other) hNot
    · have hSorted := (List.pairwise_append.mp hPairwise).2.1
      exact absurd ((List.pairwise_cons.mp hSorted).1 other hLater) hNot
  calc before order rows row
      ≤ _ := Finset.card_le_card hSubset
    _ ≤ _ := List.toFinset_card_le _
    _ ≤ _ := List.length_take_le _ _

theorem idxOf_lt_upTo (hMem : row ∈ rows) : (sorted arrangement order rows).idxOf row < upTo order rows row := by
  have hList := (mem_sorted arrangement order).mpr hMem
  have hIndex := List.idxOf_lt_length_of_mem hList
  have hSplit := split_at hList
  have hNodup := nodup_sorted arrangement order rows
  have hSubset : ((sorted arrangement order rows).take ((sorted arrangement order rows).idxOf row + 1)).toFinset ⊆
      rows.filter fun other => order.le other row := by
    intro other hOther
    have hTake := List.mem_toFinset.mp hOther
    have hRow := (mem_sorted arrangement order).mp (List.mem_of_mem_take hTake)
    rw [Finset.mem_filter]
    refine ⟨hRow, ?_⟩
    have hPairwise := pairwise_sorted arrangement order rows
    rw [List.take_succ_eq_append_getElem hIndex, List.getElem_idxOf hIndex, List.mem_append, List.mem_singleton] at hTake
    rw [hSplit] at hPairwise
    rcases hTake with hBefore | rfl
    · exact (List.pairwise_append.mp hPairwise).2.2 other hBefore row List.mem_cons_self
    · exact order.le_self other
  have hCard := Finset.card_le_card hSubset
  rw [List.toFinset_card_of_nodup (hNodup.sublist (List.take_sublist _ _)), List.length_take] at hCard
  unfold upTo
  omega

/-- The rows of one selection are listed as given. -/
noncomputable def listing (rows : Finset Row) (list : List Row) (hNodup : list.Nodup)
    (hMem : ∀ row, row ∈ list ↔ row ∈ rows) : Arrangement Row where
  list := fun selected => if selected = rows then list else selected.toList
  nodup := by
    intro selected
    split
    · exact hNodup
    · exact selected.nodup_toList
  mem_list := by
    intro selected row
    split
    · next hSame => rw [hSame, hMem]
    · exact Finset.mem_toList

/-- The rows that a test accepts are put before the row and all others after it,
as far as the order lets them. -/
theorem exists_arrangement (hMem : row ∈ rows) (accepts : Row → Bool)
    (hBefore : ∀ other, accepts other = true → order.le other row = true)
    (hAfter : ∀ other, accepts other = false → order.le row other = true) :
    ∃ arrangement : Arrangement Row, (sorted arrangement order rows).idxOf row =
      ((rows.filter fun other => accepts other).erase row).card := by
  let first := ((rows.filter fun other => accepts other).erase row).toList.mergeSort order.le
  let second := ((rows.filter fun other => !accepts other).erase row).toList.mergeSort order.le
  have hFirst : ∀ other, other ∈ first ↔ other ≠ row ∧ other ∈ rows ∧ accepts other = true := by
    intro other
    simp only [first, List.mem_mergeSort, Finset.mem_toList, Finset.mem_erase, Finset.mem_filter]
  have hSecond : ∀ other, other ∈ second ↔ other ≠ row ∧ other ∈ rows ∧ accepts other = false := by
    intro other
    simp only [second, List.mem_mergeSort, Finset.mem_toList, Finset.mem_erase, Finset.mem_filter, Bool.not_eq_true']
  have hList : ∀ other, other ∈ first ++ row :: second ↔ other ∈ rows := by
    intro other
    rw [List.mem_append, List.mem_cons, hFirst, hSecond]
    by_cases hSame : other = row
    · simp [hSame, hMem]
    · cases hAccepts : accepts other <;> simp [hSame]
  have hNodup : (first ++ row :: second).Nodup := by
    refine List.nodup_append'.mpr ⟨?_, List.nodup_cons.mpr ⟨fun hRow => ((hSecond row).mp hRow).1 rfl, ?_⟩, ?_⟩
    · exact (List.mergeSort_perm _ _).nodup_iff.mpr (Finset.nodup_toList _)
    · exact (List.mergeSort_perm _ _).nodup_iff.mpr (Finset.nodup_toList _)
    · intro other hLeft hRight
      obtain ⟨hApart, _, hAccepted⟩ := (hFirst other).mp hLeft
      rcases List.mem_cons.mp hRight with hSame | hLater
      · exact hApart hSame
      · cases hAccepted.symm.trans ((hSecond other).mp hLater).2.2
  have hPairwise : (first ++ row :: second).Pairwise fun left right => order.le left right = true := by
    refine List.pairwise_append.mpr ⟨List.pairwise_mergeSort order.trans order.total _,
      List.pairwise_cons.mpr ⟨fun other hOther => hAfter other ((hSecond other).mp hOther).2.2,
        List.pairwise_mergeSort order.trans order.total _⟩, fun left hLeft right hRight => ?_⟩
    have hLess := hBefore left ((hFirst left).mp hLeft).2.2
    rcases List.mem_cons.mp hRight with rfl | hLater
    · exact hLess
    · exact order.trans left row right hLess (hAfter right ((hSecond right).mp hLater).2.2)
  refine ⟨listing rows (first ++ row :: second) hNodup hList, ?_⟩
  have hSorted : sorted (listing rows (first ++ row :: second) hNodup hList) order rows = first ++ row :: second := by
    simp only [sorted, listing, if_true]
    exact List.mergeSort_of_pairwise hPairwise
  rw [hSorted, List.idxOf_append_of_notMem fun hRow => ((hFirst row).mp hRow).1 rfl, List.idxOf_cons_self, Nat.add_zero]
  simp only [first, List.length_mergeSort, Finset.length_toList]

/-- Some arrangement puts a row before all others of its rank. -/
theorem exists_first (order : RowOrder Row) (hMem : row ∈ rows) :
    ∃ arrangement : Arrangement Row, (sorted arrangement order rows).idxOf row = before order rows row := by
  obtain ⟨arrangement, hIndex⟩ := @exists_arrangement Row _ order rows row hMem (fun other => !order.le row other)
    (fun other hLess => order.le_of_not_le (by simpa using hLess)) (fun other hNotLess => by simpa using hNotLess)
  refine ⟨arrangement, ?_⟩
  have hSelf : row ∉ rows.filter fun other => !order.le row other := by simp [order.le_self]
  rw [hIndex, Finset.erase_eq_of_notMem hSelf, before]

/-- Some arrangement puts it after them. -/
theorem exists_last (order : RowOrder Row) (hMem : row ∈ rows) :
    ∃ arrangement : Arrangement Row, (sorted arrangement order rows).idxOf row + 1 = upTo order rows row := by
  obtain ⟨arrangement, hIndex⟩ := @exists_arrangement Row _ order rows row hMem (fun other => order.le other row)
    (fun _ hLess => hLess) (fun other hNotLess => order.le_of_not_le (by simpa using hNotLess))
  refine ⟨arrangement, ?_⟩
  have hSelf : row ∈ rows.filter fun other => order.le other row :=
    Finset.mem_filter.mpr ⟨hMem, order.le_self row⟩
  rw [hIndex, upTo, Finset.card_erase_add_one hSelf]

end Ties

/-- The pages of a selection, each sorted by a query of its own. -/
def pages (arrangements : Nat → Arrangement Row) (order : RowOrder Row) (rows : Finset Row) (limit : Nat) : List Row :=
  (List.range (pageCount rows.card limit)).flatMap fun page =>
    window (page * limit) limit (sorted (arrangements page) order rows)

/-- Every row of the selection is in the list once, and no other row is. -/
def ListsOnce (list : List Row) (rows : Finset Row) : Prop := list.Nodup ∧ ∀ row, row ∈ list ↔ row ∈ rows

/-- The places that a row can have are all on one page. -/
def OnOnePage [DecidableEq Row] (order : RowOrder Row) (rows : Finset Row) (limit : Nat) (row : Row) : Prop :=
  before order rows row / limit = (upTo order rows row - 1) / limit

section Pages

variable [DecidableEq Row] {order : RowOrder Row} {rows : Finset Row} {row : Row} {limit : Nat}

instance : Decidable (OnOnePage order rows limit row) := inferInstanceAs (Decidable (_ = _))

theorem mem_page_iff (arrangement : Arrangement Row) (order : RowOrder Row) (hLimit : 0 < limit) (hMem : row ∈ rows) (page : Nat) :
    row ∈ window (page * limit) limit (sorted arrangement order rows) ↔
      (sorted arrangement order rows).idxOf row / limit = page := by
  rw [mem_window_iff (nodup_sorted arrangement order rows) ((mem_sorted arrangement order).mpr hMem), Nat.div_eq_iff hLimit]
  constructor
  · rintro ⟨hStart, hEnd⟩
    omega
  · rintro ⟨hStart, hEnd⟩
    omega

omit [DecidableEq Row] in
theorem mem_rows_of_page {arrangement : Arrangement Row} {skip take : Nat}
    (h : row ∈ window skip take (sorted arrangement order rows)) : row ∈ rows :=
  (mem_sorted arrangement order).mp (List.mem_of_mem_drop (List.mem_of_mem_take h))

/-- A row whose places are all on one page is on that page only. -/
theorem OnOnePage.mem_page (hPage : OnOnePage order rows limit row) (hLimit : 0 < limit)
    (arrangement : Arrangement Row) (hMem : row ∈ rows) (page : Nat) :
    row ∈ window (page * limit) limit (sorted arrangement order rows) ↔ before order rows row / limit = page := by
  have hBefore := Nat.div_le_div_right (c := limit) (before_le_idxOf order arrangement hMem)
  have hUpTo := Nat.div_le_div_right (c := limit)
    (Nat.le_sub_one_of_lt (idxOf_lt_upTo order arrangement hMem))
  unfold OnOnePage at hPage
  rw [mem_page_iff arrangement order hLimit hMem]
  omega

theorem listsOnce_of_onOnePage (hLimit : 0 < limit) (hPages : ∀ row ∈ rows, OnOnePage order rows limit row)
    (arrangements : Nat → Arrangement Row) : ListsOnce (pages arrangements order rows limit) rows := by
  constructor
  · refine List.nodup_flatMap.mpr ⟨fun page _ => ?_, List.nodup_range.imp fun {first second} hApart row hFirst hSecond => ?_⟩
    · exact (nodup_sorted (arrangements page) order rows).sublist ((List.take_sublist _ _).trans (List.drop_sublist _ _))
    · have hRow := mem_rows_of_page hFirst
      have hFirstPage := ((hPages row hRow).mem_page hLimit (arrangements first) hRow first).mp hFirst
      have hSecondPage := ((hPages row hRow).mem_page hLimit (arrangements second) hRow second).mp hSecond
      exact hApart (hFirstPage.symm.trans hSecondPage)
  · intro row
    rw [pages, List.mem_flatMap]
    constructor
    · rintro ⟨page, _, hPage⟩
      exact mem_rows_of_page hPage
    · intro hRow
      have hLess := lt_of_le_of_lt (before_le_idxOf order (arrangements 0) hRow)
        (List.idxOf_lt_length_of_mem ((mem_sorted (arrangements 0) order).mpr hRow))
      rw [length_sorted] at hLess
      refine ⟨before order rows row / limit, List.mem_range.mpr (div_lt_pageCount hLimit hLess), ?_⟩
      exact ((hPages row hRow).mem_page hLimit _ hRow _).mpr rfl

/-- A row that can be on two pages is shown on both when the queries choose so. -/
theorem exists_repeated (hLimit : 0 < limit) (hMem : row ∈ rows) (hPages : ¬ OnOnePage order rows limit row) :
    ∃ arrangements, ¬ (pages arrangements order rows limit).Nodup := by
  obtain ⟨first, hFirst⟩ := exists_first order hMem
  obtain ⟨last, hLast⟩ := exists_last order hMem
  have hFirstPage := (mem_page_iff first order hLimit hMem _).mpr rfl
  have hLastPage := (mem_page_iff last order hLimit hMem _).mpr rfl
  have hFirstIndex := List.idxOf_lt_length_of_mem ((mem_sorted first order).mpr hMem)
  have hLastIndex := List.idxOf_lt_length_of_mem ((mem_sorted last order).mpr hMem)
  rw [length_sorted] at hFirstIndex hLastIndex
  have hApart : (sorted first order rows).idxOf row / limit ≠ (sorted last order rows).idxOf row / limit := by
    intro hSame
    refine hPages ?_
    rw [OnOnePage, ← hFirst, ← hLast, hSame, Nat.add_sub_cancel]
  refine ⟨fun page => if page = (sorted first order rows).idxOf row / limit then first else last, fun hNodup => ?_⟩
  refine hApart (part_unique row hNodup (List.mem_range.mpr (div_lt_pageCount hLimit hFirstIndex))
    (List.mem_range.mpr (div_lt_pageCount hLimit hLastIndex)) ?_ ?_)
  · simpa only [if_true] using hFirstPage
  · simpa only [if_neg hApart.symm] using hLastPage

/-- Pages that are queried one by one list every row once, whatever the queries
choose, exactly when no page boundary separates rows of equal rank. -/
theorem listsOnce_iff (hLimit : 0 < limit) :
    (∀ arrangements, ListsOnce (pages arrangements order rows limit) rows) ↔
      ∀ row ∈ rows, OnOnePage order rows limit row := by
  constructor
  · intro hLists row hMem
    by_contra hPages
    obtain ⟨arrangements, hRepeated⟩ := exists_repeated hLimit hMem hPages
    exact hRepeated (hLists arrangements).1
  · exact listsOnce_of_onOnePage hLimit

end Pages

section Answers

variable {Key Error : Type}

/-- The answer to a request of a page: the number of pages, and what is shown of the rows. -/
def answer (display : Row → Except Error Key) (arrangement : Arrangement Row) (order : RowOrder Row)
    (rows : Finset Row) (limit page : Nat) : Except Error (Nat × List Key) := do
  let shown ← (window (page * limit) limit (sorted arrangement order rows)).mapM display
  return (pageCount rows.card limit, shown)

/-- Requests from the first page to the last that the answers name are all answered, and
show every key once. -/
def ShowsOnce (request : Nat → Except Error (Nat × List Key)) (keys : Finset Key) : Prop :=
  ∃ totalPages shown, (∀ page ≤ totalPages - 1, request page = .ok (totalPages, shown page)) ∧
    ListsOnce ((List.range totalPages).flatMap shown) keys

variable {display : Row → Except Error Key} {key : Row → Key}

/-- What is shown can be cut down before or after. -/
theorem map_mapM {Shown Value : Type} (f : Row → Except Error Shown) (g : Shown → Value) (list : List Row) :
    (list.mapM f).map (List.map g) = list.mapM fun row => (f row).map g := by
  induction list with
  | nil => rfl
  | cons row list ih =>
      rw [List.mapM_cons, List.mapM_cons, ← ih]
      cases f row with
      | error error => rfl
      | ok shown => cases list.mapM f <;> rfl

/-- What shows a row shows its key. -/
theorem mapM_display (hDisplay : ∀ row shown, display row = .ok shown → shown = key row) {list : List Row}
    {shown : List Key} : list.mapM display = .ok shown ↔ (∀ row ∈ list, display row = .ok (key row)) ∧ shown = list.map key := by
  induction list generalizing shown with
  | nil => simp [pure, Except.pure, eq_comm]
  | cons row list ih =>
      rw [List.mapM_cons]
      cases hRow : display row with
      | error error => simp [bind, Except.bind, hRow]
      | ok first =>
          have hFirst := hDisplay row first hRow
          subst hFirst
          cases hList : list.mapM display with
          | error error =>
              have hNone : ¬ ∀ row ∈ list, display row = .ok (key row) := fun hAll =>
                absurd (hList.symm.trans (ih.mpr ⟨hAll, rfl⟩)) (by simp)
              simp [bind, Except.bind, hNone]
          | ok rest =>
              obtain ⟨hAll, rfl⟩ := ih.mp hList
              simp only [bind, Except.bind, pure, Except.pure, Except.ok.injEq, List.forall_mem_cons, hRow, true_and,
                List.map_cons]
              rw [and_iff_right hAll, eq_comm]

variable [DecidableEq Row] [DecidableEq Key] {order : RowOrder Row} {rows : Finset Row} {limit : Nat}

omit [DecidableEq Row] [DecidableEq Key] in
theorem answer_eq_ok (hDisplay : ∀ row shown, display row = .ok shown → shown = key row)
    {arrangement : Arrangement Row} {page totalPages : Nat} {shown : List Key} :
    answer display arrangement order rows limit page = .ok (totalPages, shown) ↔
      (∀ row ∈ window (page * limit) limit (sorted arrangement order rows), display row = .ok (key row)) ∧
        totalPages = pageCount rows.card limit ∧
          shown = (window (page * limit) limit (sorted arrangement order rows)).map key := by
  rw [answer]
  cases hShown : (window (page * limit) limit (sorted arrangement order rows)).mapM display with
  | error error =>
      have hNone : ¬ ∀ row ∈ window (page * limit) limit (sorted arrangement order rows),
          display row = .ok (key row) := fun hAll =>
        absurd (hShown.symm.trans ((mapM_display hDisplay).mpr ⟨hAll, rfl⟩)) (by simp)
      simp [bind, Except.bind, hNone]
  | ok items =>
      obtain ⟨hAll, rfl⟩ := (mapM_display hDisplay).mp hShown
      simp only [bind, Except.bind, pure, Except.pure, Except.ok.injEq, Prod.mk.injEq]
      rw [and_iff_right hAll, eq_comm, @eq_comm _ _ shown]

omit [DecidableEq Row] [DecidableEq Key] in
theorem flatMap_map_window (arrangements : Nat → Arrangement Row) :
    ((List.range (pageCount rows.card limit)).flatMap fun page =>
      (window (page * limit) limit (sorted (arrangements page) order rows)).map key) =
        (pages arrangements order rows limit).map key := by
  rw [pages, List.map_flatMap]

omit [DecidableEq Row] in
/-- The pages of all requests together, once they are answered. -/
theorem ShowsOnce.map_pages (hDisplay : ∀ row shown, display row = .ok shown → shown = key row)
    {arrangements : Nat → Arrangement Row}
    (h : ShowsOnce (fun page => answer display (arrangements page) order rows limit page) (rows.image key)) :
    (∀ page < pageCount rows.card limit, ∀ row ∈ window (page * limit) limit (sorted (arrangements page) order rows),
      display row = .ok (key row)) ∧ ListsOnce ((pages arrangements order rows limit).map key) (rows.image key) := by
  obtain ⟨totalPages, shown, hAnswers, hOnce⟩ := h
  have hTotal := ((answer_eq_ok hDisplay).mp (hAnswers 0 (Nat.zero_le _))).2.1
  subst hTotal
  refine ⟨fun page hPage => ((answer_eq_ok hDisplay).mp (hAnswers page (by omega))).1, ?_⟩
  rw [← flatMap_map_window]
  have hShown : ∀ page ∈ List.range (pageCount rows.card limit),
      shown page = (window (page * limit) limit (sorted (arrangements page) order rows)).map key := fun page hPage =>
    ((answer_eq_ok hDisplay).mp (hAnswers page (by have hLess := List.mem_range.mp hPage; omega))).2.2
  rwa [List.flatMap_congr hShown] at hOnce

omit [DecidableEq Row] in
theorem mem_rows_of_pages {arrangements : Nat → Arrangement Row} {row : Row}
    (h : row ∈ pages arrangements order rows limit) : row ∈ rows := by
  obtain ⟨page, _, hPage⟩ := List.mem_flatMap.mp h
  exact mem_rows_of_page hPage

omit [DecidableEq Row] in
/-- Keys that tell the rows apart are listed as the rows are. -/
theorem listsOnce_map (hKey : ∀ first ∈ rows, ∀ second ∈ rows, key first = key second → first = second)
    {list : List Row} (hRows : ∀ row ∈ list, row ∈ rows) :
    ListsOnce (list.map key) (rows.image key) ↔ ListsOnce list rows := by
  constructor
  · rintro ⟨hNodup, hMem⟩
    refine ⟨hNodup.of_map key, fun row => ⟨hRows row, fun hRow => ?_⟩⟩
    obtain ⟨other, hOther, hSame⟩ := List.mem_map.mp ((hMem (key row)).mpr (Finset.mem_image_of_mem key hRow))
    rwa [← hKey other (hRows other hOther) row hRow hSame]
  · rintro ⟨hNodup, hMem⟩
    refine ⟨List.Nodup.map_on (fun first hFirst second hSecond => ?_) hNodup, fun shown => ?_⟩
    · exact hKey first (hRows first hFirst) second (hRows second hSecond)
    · rw [List.mem_map, Finset.mem_image]
      exact exists_congr fun row => and_congr_left fun _ => hMem row

/-- The requests are answered and show every row once, whatever order each of them
chooses for rows of equal rank, exactly when every row can be shown and no boundary
between two pages separates rows of equal rank. -/
theorem showsOnce_iff (hLimit : 0 < limit) (hDisplay : ∀ row shown, display row = .ok shown → shown = key row)
    (hKey : ∀ first ∈ rows, ∀ second ∈ rows, key first = key second → first = second) :
    (∀ arrangements : Nat → Arrangement Row,
      ShowsOnce (fun page => answer display (arrangements page) order rows limit page) (rows.image key)) ↔
        (∀ row ∈ rows, display row = .ok (key row)) ∧ ∀ row ∈ rows, OnOnePage order rows limit row := by
  have hMap (arrangements : Nat → Arrangement Row) :=
    listsOnce_map hKey fun row (hRow : row ∈ pages arrangements order rows limit) => mem_rows_of_pages hRow
  rw [← listsOnce_iff hLimit]
  constructor
  · intro hShows
    refine ⟨fun row hMem => ?_, fun arrangements => ?_⟩
    · obtain ⟨arrangement, _⟩ := exists_first order hMem
      have hIndex := List.idxOf_lt_length_of_mem ((mem_sorted arrangement order).mpr hMem)
      rw [length_sorted] at hIndex
      refine ((hShows fun _ => arrangement).map_pages hDisplay).1 _ (div_lt_pageCount hLimit hIndex) row ?_
      exact (mem_page_iff arrangement order hLimit hMem _).mpr rfl
    · exact (hMap arrangements).mp ((hShows arrangements).map_pages hDisplay).2
  · rintro ⟨hShown, hLists⟩ arrangements
    refine ⟨pageCount rows.card limit,
      fun page => (window (page * limit) limit (sorted (arrangements page) order rows)).map key, ?_, ?_⟩
    · intro page _
      exact (answer_eq_ok hDisplay).mpr ⟨fun row hRow => hShown row (mem_rows_of_page hRow), rfl, rfl⟩
    · rw [flatMap_map_window]
      exact (hMap arrangements).mpr (hLists arrangements)

end Answers

end Paging
