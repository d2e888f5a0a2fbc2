import Acceptance.DataTable
import Acceptance.Plan.Table

/-!
# Widths of tables

A table of a feature is checked when it is planned, and again when a test makes it.  Both checks
stop at the first row that is not as wide as the header, so they accept the same tables, and refuse
the others with the same numbers.

    DataTable.make headers rows = .ok t ↔ t = ⟨headers, rows⟩ and all rows are as wide (make_eq_ok_iff)
    DataTable.make headers rows = .error e ↔ e tells the first row that is not      (make_eq_error_iff)
    Table.read name (header :: rows) = .error e ↔ e tells the first row that is not (read_eq_error_iff)
    both checks of one table agree                                               (tables_checked_alike)
-/

namespace Acceptance

/-! ## The first row of another width -/

/-- Row `n`, counted from one, is the first that is not `width` wide, and has `cells` cells. -/
def FirstRagged {α : Type} (width : Nat) (rows : List (List α)) (n cells : Nat) : Prop :=
  ∃ before row behind, rows = before ++ row :: behind ∧
    (∀ other ∈ before, other.length = width) ∧ row.length ≠ width ∧
    n = before.length + 1 ∧ cells = row.length

section
variable {α β : Type} {width n cells : Nat} {row : List α} {rows : List (List α)}

theorem not_firstRagged_nil : ¬ FirstRagged width ([] : List (List α)) n cells := by
  rintro ⟨before, row, behind, h, -⟩
  simp at h

/-- The first row is the one, or it is as wide as it should be and the one stands behind it. -/
theorem firstRagged_cons_iff : FirstRagged width (row :: rows) n cells ↔
    (row.length ≠ width ∧ n = 1 ∧ cells = row.length) ∨
      (row.length = width ∧ ∃ m, n = m + 1 ∧ FirstRagged width rows m cells) := by
  constructor
  · rintro ⟨before, ragged, behind, h, hbefore, hragged, rfl, rfl⟩
    cases before with
    | nil =>
      obtain ⟨rfl, -⟩ := List.cons.inj h
      exact .inl ⟨hragged, rfl, rfl⟩
    | cons first before =>
      obtain ⟨rfl, rfl⟩ := List.cons.inj h
      obtain ⟨hfirst, hbefore⟩ := List.forall_mem_cons.1 hbefore
      exact .inr ⟨hfirst, _, rfl, before, ragged, behind, rfl, hbefore, hragged, rfl, rfl⟩
  · rintro (⟨hragged, rfl, rfl⟩ | ⟨hrow, m, rfl, before, ragged, behind, rfl, hbefore, hragged,
      rfl, rfl⟩)
    · exact ⟨[], row, rows, rfl, nofun, hragged, rfl, rfl⟩
    · exact ⟨row :: before, ragged, behind, rfl, List.forall_mem_cons.2 ⟨hrow, hbefore⟩, hragged,
        rfl, rfl⟩

theorem FirstRagged.unique {n' cells' : Nat} (h : FirstRagged width rows n cells)
    (h' : FirstRagged width rows n' cells') : n = n' ∧ cells = cells' := by
  induction rows generalizing n n' with
  | nil => exact absurd h not_firstRagged_nil
  | cons row rows ih =>
    rcases firstRagged_cons_iff.1 h with ⟨hne, rfl, rfl⟩ | ⟨hrow, m, rfl, hm⟩
    · rcases firstRagged_cons_iff.1 h' with ⟨-, rfl, rfl⟩ | ⟨hrow, -⟩
      · exact ⟨rfl, rfl⟩
      · exact absurd hrow hne
    · rcases firstRagged_cons_iff.1 h' with ⟨hne, -⟩ | ⟨-, m', rfl, hm'⟩
      · exact absurd hrow hne
      · obtain ⟨rfl, rfl⟩ := ih hm hm'
        exact ⟨rfl, rfl⟩

/-- A table has no such row where all rows are as wide as they should be. -/
theorem not_firstRagged_iff :
    (∀ n cells, ¬ FirstRagged width rows n cells) ↔ ∀ row ∈ rows, row.length = width := by
  induction rows with
  | nil => simp [not_firstRagged_nil]
  | cons row rows ih =>
    rw [List.forall_mem_cons, ← ih]
    simp only [firstRagged_cons_iff, not_or]
    constructor
    · intro h
      have hrow : row.length = width :=
        Decidable.byContradiction fun hne => (h 1 row.length).1 ⟨hne, rfl, rfl⟩
      exact ⟨hrow, fun n cells hn => (h (n + 1) cells).2 ⟨hrow, n, rfl, hn⟩⟩
    · rintro ⟨hrow, hrows⟩ n cells
      refine ⟨fun ⟨hne, _⟩ => hne hrow, ?_⟩
      rintro ⟨-, m, -, hm⟩
      exact hrows m cells hm

/-- A search that counts the rows and tells the first of another width by `tell`. -/
structure TellsFirst (width : Nat) (tell : Nat → Nat → β)
    (search : Nat → List (List α) → Option β) : Prop where
  nil : ∀ n, search n [] = none
  cons : ∀ n row rows, search n (row :: rows) =
    if row.length = width then search (n + 1) rows else some (tell n row.length)

variable {tell : Nat → Nat → β} {search : Nat → List (List α) → Option β}

theorem TellsFirst.from_eq_some_iff (h : TellsFirst width tell search) (k : Nat) {found : β} :
    search (k + 1) rows = some found ↔
      ∃ n cells, FirstRagged width rows n cells ∧ found = tell (k + n) cells := by
  induction rows generalizing k with
  | nil => simp [h.nil, not_firstRagged_nil]
  | cons row rows ih =>
    rw [h.cons]
    by_cases hrow : row.length = width
    · rw [if_pos hrow, ih]
      constructor
      · rintro ⟨n, cells, hn, rfl⟩
        exact ⟨n + 1, cells, firstRagged_cons_iff.2 (.inr ⟨hrow, n, rfl, hn⟩),
          by rw [Nat.add_right_comm, Nat.add_assoc]⟩
      · rintro ⟨n, cells, hn, rfl⟩
        obtain ⟨hne, -⟩ | ⟨-, m, rfl, hm⟩ := firstRagged_cons_iff.1 hn
        · exact absurd hrow hne
        · exact ⟨m, cells, hm, by rw [Nat.add_right_comm, Nat.add_assoc]⟩
    · rw [if_neg hrow, Option.some.injEq]
      constructor
      · rintro rfl
        exact ⟨1, _, firstRagged_cons_iff.2 (.inl ⟨hrow, rfl, rfl⟩), rfl⟩
      · rintro ⟨n, cells, hn, rfl⟩
        obtain ⟨-, rfl, rfl⟩ | ⟨hwide, -⟩ := firstRagged_cons_iff.1 hn
        · rfl
        · exact absurd hwide hrow

/-- **Such a search that counts from one tells the first row of another width.** -/
theorem TellsFirst.eq_some_iff (h : TellsFirst width tell search) {found : β} :
    search 1 rows = some found ↔ ∃ n cells, FirstRagged width rows n cells ∧ found = tell n cells := by
  rw [h.from_eq_some_iff 0]
  simp only [Nat.zero_add]

theorem TellsFirst.eq_none_iff (h : TellsFirst width tell search) :
    search 1 rows = none ↔ ∀ row ∈ rows, row.length = width := by
  rw [← not_firstRagged_iff, Option.eq_none_iff_forall_ne_some]
  constructor
  · intro hnone n cells hn
    exact hnone _ (h.eq_some_iff.2 ⟨n, cells, hn, rfl⟩)
  · intro hno found hfound
    obtain ⟨n, cells, hn, -⟩ := h.eq_some_iff.1 hfound
    exact hno n cells hn

end

/-! ## Making a table -/

namespace DataTable

variable {headers : List String} {rows : List (List String)}

theorem widthError?_tells (width : Nat) :
    TellsFirst width (fun n cells => .width n cells width) (widthError? width) :=
  ⟨fun _ => rfl, fun _ _ _ => rfl⟩

theorem make_eq_ok_iff {t : DataTable} : make headers rows = .ok t ↔
    t = ⟨headers, rows⟩ ∧ ∀ row ∈ rows, row.length = headers.length := by
  rw [← (widthError?_tells headers.length).eq_none_iff, make]
  cases widthError? headers.length 1 rows with
  | none => simp [eq_comm]
  | some e => simp

theorem make_eq_error_iff {e : TableError} : make headers rows = .error e ↔
    ∃ n cells, FirstRagged headers.length rows n cells ∧ e = .width n cells headers.length := by
  rw [← (widthError?_tells headers.length).eq_some_iff, make]
  cases widthError? headers.length 1 rows with
  | none => simp
  | some e' => simp

end DataTable

/-! ## Planning a table -/

namespace Plan

open Acceptance.Text

theorem raggedFrom?_tells (width : Nat) :
    TellsFirst width (fun n cells => .raggedRow n cells width) (raggedFrom? width) :=
  ⟨fun _ => rfl, fun _ _ _ => rfl⟩

variable {variableName : String} {header : Gherkin.Row} {rows : List Gherkin.Row}

theorem read_eq_ok_iff {table : Table} : Table.read variableName (header :: rows) = .ok table ↔
    table = .of variableName (header :: rows) ∧ ∀ row ∈ rows, row.length = header.length := by
  rw [← (raggedFrom?_tells header.length).eq_none_iff, Table.read, raggedFault?]
  cases raggedFrom? header.length 1 rows with
  | none => simp [eq_comm]
  | some fault => simp

theorem read_eq_error_iff {fault : Fault} :
    Table.read variableName (header :: rows) = .error fault ↔ ∃ n cells,
      FirstRagged header.length rows n cells ∧ fault = .raggedRow n cells header.length := by
  rw [← (raggedFrom?_tells header.length).eq_some_iff, Table.read, raggedFault?]
  cases raggedFrom? header.length 1 rows with
  | none => simp
  | some fault' => simp

/-! ## Top theorem -/

/-- A row of a feature that holds some texts. -/
def textRow (texts : List String) : Gherkin.Row := texts.map fun text => ⟨some text⟩

@[simp] theorem length_textRow (texts : List String) : (textRow texts).length = texts.length :=
  List.length_map _

@[simp] theorem cellsOf_textRow (texts : List String) : cellsOf (textRow texts) = texts.map some := by
  rw [cellsOf, textRow, List.map_map]
  rfl

/-- Rows of texts are of another width where the texts are. -/
theorem firstRagged_textRow_iff {width n cells : Nat} {rows : List (List String)} :
    FirstRagged width (rows.map textRow) n cells ↔ FirstRagged width rows n cells := by
  induction rows generalizing n with
  | nil => simp [not_firstRagged_nil]
  | cons row rows ih => simp only [List.map_cons, firstRagged_cons_iff, length_textRow, ih]

/-- **A table is checked alike when it is planned and when it is made.**  Of the rows of a feature,
a header first, a table is planned where the header and the other rows make one, and both have these
headers and rows.  Otherwise both refuse the first row that is not as wide as the header, by its
number counted from one, its width and that of the header. -/
theorem tables_checked_alike (variableName : String) (header : List String)
    (rows : List (List String)) :
    ((∃ table, Table.read variableName ((header :: rows).map textRow) = .ok table) ↔
      ∃ t, DataTable.make header rows = .ok t) ∧
    (∀ table t, Table.read variableName ((header :: rows).map textRow) = .ok table →
      DataTable.make header rows = .ok t →
        t.headers = header ∧ t.rows = rows ∧ table.headers = t.headers.map some ∧
          table.rows = t.rows.map (·.map some)) ∧
    ∀ fault e, Table.read variableName ((header :: rows).map textRow) = .error fault →
      DataTable.make header rows = .error e →
        ∃ n cells, FirstRagged header.length rows n cells ∧
          fault = .raggedRow n cells header.length ∧ e = .width n cells header.length ∧
          fault.message = "Data table row " ++ Decimal.text n ++ " has " ++ Decimal.text cells ++
            " cell(s) but the header has " ++ Decimal.text header.length ∧
          e.message = "Row " ++ Decimal.text n ++ " has " ++ Decimal.text cells ++
            " cells, expected " ++ Decimal.text header.length := by
  simp only [List.map_cons, read_eq_ok_iff, read_eq_error_iff, DataTable.make_eq_ok_iff,
    DataTable.make_eq_error_iff, length_textRow, firstRagged_textRow_iff, List.forall_mem_map]
  refine ⟨?_, ?_, ?_⟩
  · simp only [exists_and_right, exists_eq, true_and]
  · rintro table t ⟨rfl, -⟩ ⟨rfl, -⟩
    simp [Table.of, Function.comp_def]
  · rintro fault e ⟨n, cells, hn, rfl⟩ ⟨n', cells', hn', rfl⟩
    obtain ⟨rfl, rfl⟩ := hn.unique hn'
    exact ⟨n, cells, hn, rfl, rfl, rfl, rfl⟩

end Plan

end Acceptance
