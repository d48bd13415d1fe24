import Mathlib.Data.List.DropRight
import Mathlib.Tactic.MkIffOfInductiveProp
import QueryFuzz.Engine.Exchange

/-!
# Rows that were printed are read back

In list mode an engine prints a row on a line of its own, with a separator between the columns. A
row that holds neither the separator nor a line break in any column is read back column by column,
with the columns that are empty. A row of one empty column is printed as an empty line, and this is
the only row that is lost.
-/

namespace QueryFuzz

/-! ## Cutting at one character -/

namespace Text

theorem splitOn_eq (sep : Char) (cs : List Char) : splitOn sep cs = cs.splitOn sep := by
  induction cs with
  | nil => rfl
  | cons c cs ih =>
    rw [splitOn, ih, List.splitOn_cons_eq_if_modifyHead]
    simp only [beq_iff_eq]
    split_ifs with hsep
    · rfl
    · cases hpieces : cs.splitOn sep with
      | nil => exact absurd hpieces (List.splitOn_ne_nil sep cs)
      | cons piece pieces => rfl

/-- A separator of one character cuts like the character. -/
theorem splitOnText_singleton (sep : Char) (cs : List Char) :
    splitOnText [sep] cs = cs.splitOn sep := by
  rw [← splitOn_eq]
  induction cs with
  | nil =>
    rw [splitOnText]
    rfl
  | cons c cs ih =>
    have hcut : ([sep] ≠ [] ∧ [sep].isPrefixOf (c :: cs)) ↔ c = sep := by
      rw [List.isPrefixOf_cons_cons, List.isPrefixOf_nil_left, Bool.and_true, beq_iff_eq, eq_comm]
      exact and_iff_right (List.cons_ne_nil sep [])
    rw [splitOnText, splitOn, List.length_singleton, Nat.sub_self, List.drop_zero, ih]
    simp only [hcut]

theorem trimEndChars_eq_self {p : Char → Bool} {cs : List Char} (h : ∀ c ∈ cs, ¬p c) :
    trimEndChars p cs = cs :=
  List.rdropWhile_eq_self_iff.2 fun hne => h _ (List.getLast_mem hne)

theorem splitOn_ended {lines : List (List Char)} (h : ∀ line ∈ lines, '\n' ∉ line) :
    splitOn '\n' (lines.flatMap (· ++ ['\n'])) = lines ++ [[]] := by
  rw [splitOn_eq]
  induction lines with
  | nil => rfl
  | cons line lines ih =>
    obtain ⟨hline, hlines⟩ := List.forall_mem_cons.1 h
    rw [List.flatMap_cons, List.append_assoc, List.singleton_append,
      List.splitOn_append_cons_self_of_not_mem hline, ih hlines]
    rfl

/-- Lines that were ended one by one are the lines of the text. -/
theorem linesOf_ended {lines : List (List Char)}
    (h : ∀ line ∈ lines, '\r' ∉ line ∧ '\n' ∉ line) :
    linesOf (lines.flatMap (· ++ ['\n'])) = lines := by
  have hwhole : lines.map (fun line => if line.getLast? = some '\r' then line.dropLast else line) =
      lines := by
    refine (List.map_congr_left fun line hline => ?_).trans lines.map_id
    exact if_neg fun hlast => (h line hline).1 (List.mem_of_getLast? hlast)
  rw [linesOf, splitOn_ended fun line hline => (h line hline).2]
  simp only [List.dropLast_concat, List.getLast?_concat, hwhole]

end Text

namespace Engine

/-! ## Printed rows -/

/-- A row as it is printed, the separator between its columns and a line break at its end. -/
def printRow (separator : Char) (row : Row) : String :=
  (String.singleton separator).intercalate row ++ "\n"

def printRows (separator : Char) (rows : List Row) : String :=
  String.join (rows.map (printRow separator))

/-- A row whose print shows where its columns end and where it ends itself. -/
@[mk_iff]
structure IsPrintable (separator : Char) (row : Row) : Prop where
  ne_nil : row ≠ []
  separator_notMem : ∀ cell ∈ row, separator ∉ cell.toList
  return_notMem : ∀ cell ∈ row, '\r' ∉ cell.toList
  break_notMem : ∀ cell ∈ row, '\n' ∉ cell.toList

instance (separator : Char) (row : Row) : Decidable (IsPrintable separator row) :=
  decidable_of_iff' _ (isPrintable_iff separator row)

/-- The line that a row is printed on. -/
def rowLine (separator : Char) (row : Row) : List Char :=
  [separator].intercalate (row.map String.toList)

variable {separator : Char} {row : Row} {rows : List Row}

theorem toList_printRows (separator : Char) (rows : List Row) :
    (printRows separator rows).toList =
      (rows.map (rowLine separator)).flatMap (· ++ ['\n']) := by
  simp [printRows, printRow, rowLine, String.toList_join, String.toList_intercalate,
    List.flatMap_map]

/-- Every character of a line belongs to a column or stands between two. -/
theorem mem_rowLine {c : Char} (h : c ∈ rowLine separator row) :
    c = separator ∨ ∃ cell ∈ row, c ∈ cell.toList := by
  unfold rowLine at h
  induction row with
  | nil => simp at h
  | cons cell row ih =>
    cases row with
    | nil => exact .inr ⟨cell, by simp, by simpa using h⟩
    | cons next row =>
      rw [List.map_cons, List.map_cons, List.intercalate_cons_cons, List.append_assoc] at h
      rcases List.mem_append.1 h with h | h
      · exact .inr ⟨cell, List.mem_cons_self, h⟩
      rcases List.mem_cons.1 h with h | h
      · exact .inl h
      rcases ih h with h | ⟨other, hother, h⟩
      · exact .inl h
      · exact .inr ⟨other, List.mem_cons_of_mem _ hother, h⟩

theorem notMem_rowLine {c : Char} (hne : separator ≠ c) (h : ∀ cell ∈ row, c ∉ cell.toList) :
    c ∉ rowLine separator row := by
  intro hmem
  rcases mem_rowLine hmem with heq | ⟨cell, hcell, hmem⟩
  · exact hne heq.symm
  · exact h cell hcell hmem

/-- The columns of a line are those of the row that was printed on it. -/
theorem IsPrintable.splitOn_rowLine (h : IsPrintable separator row) :
    (rowLine separator row).splitOn separator = row.map String.toList := by
  apply List.splitOn_intercalate
  · simpa using h.separator_notMem
  · simpa using h.ne_nil

theorem IsPrintable.columnsOf_rowLine (h : IsPrintable separator row) :
    (columnsOf [separator] (rowLine separator row)).map String.ofList = row := by
  have hcolumns : columnsOf [separator] (rowLine separator row) = row.map String.toList := by
    rw [columnsOf, List.isEmpty_cons, Text.splitOnText_singleton, h.splitOn_rowLine]
    rfl
  rw [hcolumns, List.map_map]
  exact (List.map_congr_left fun cell _ => String.ofList_toList).trans row.map_id

/-- The one row that is printed as an empty line. -/
theorem IsPrintable.rowLine_eq_nil_iff (h : IsPrintable separator row) :
    rowLine separator row = [] ↔ row = [""] := by
  constructor
  · intro hline
    have hcolumns := h.splitOn_rowLine
    rw [hline, List.splitOn_nil] at hcolumns
    obtain ⟨cell, rfl, hcell⟩ := List.map_eq_singleton_iff.1 hcolumns.symm
    rw [String.toList_eq_nil_iff.1 hcell]
  · rintro rfl
    rfl

/-- The lines of printed rows are one for each row; no carriage return is cut off from them. -/
theorem linesOf_printRows (hreturn : separator ≠ '\r') (hbreak : separator ≠ '\n')
    (hrows : ∀ row ∈ rows, IsPrintable separator row) :
    (Text.linesOf (printRows separator rows).toList).map (Text.trimEndChars (· == '\r')) =
      rows.map (rowLine separator) := by
  have hnotMem : ∀ line ∈ rows.map (rowLine separator), '\r' ∉ line ∧ '\n' ∉ line := by
    intro line hline
    obtain ⟨row, hrow, rfl⟩ := List.mem_map.1 hline
    have hprintable := hrows row hrow
    exact ⟨notMem_rowLine hreturn hprintable.return_notMem,
      notMem_rowLine hbreak hprintable.break_notMem⟩
  rw [toList_printRows, Text.linesOf_ended hnotMem]
  refine (List.map_congr_left fun line hline => ?_).trans (List.map_id _)
  refine Text.trimEndChars_eq_self fun c hc hreturn => (hnotMem line hline).1 ?_
  rwa [← eq_of_beq hreturn]

/-- Printed rows are read back in order and column by column; only the rows of one empty column are
missing. -/
theorem parseRows_printRows (hreturn : separator ≠ '\r') (hbreak : separator ≠ '\n')
    (hrows : ∀ row ∈ rows, IsPrintable separator row) :
    parseRows (printRows separator rows) (String.singleton separator) =
      rows.filter (· ≠ [""]) := by
  have hfilter : rows.filter ((fun line => !line.isEmpty) ∘ rowLine separator) =
      rows.filter (· ≠ [""]) := by
    apply List.filter_congr
    intro row hrow
    rw [Bool.eq_iff_iff]
    simpa using not_congr (hrows row hrow).rowLine_eq_nil_iff
  unfold parseRows
  rw [linesOf_printRows hreturn hbreak hrows]
  dsimp only
  rw [List.filter_map, hfilter, List.map_map, String.toList_singleton]
  refine (List.map_congr_left fun row hrow => ?_).trans (List.map_id _)
  exact (hrows row (List.mem_of_mem_filter hrow)).columnsOf_rowLine

/-- Empty columns are read back wherever they stand, and two rows of one empty column are lost. -/
theorem parseRows_printRows_empty_columns :
    let rows := [["1", "", ""], [""], ["", ""], ["a b", "'"], [""]]
    (∀ row ∈ rows, IsPrintable '|' row) ∧ printRows '|' rows = "1||\n\n|\na b|'\n\n" ∧
      parseRows (printRows '|' rows) "|" = [["1", "", ""], ["", ""], ["a b", "'"]] := by
  intro rows
  have hrows : ∀ row ∈ rows, IsPrintable '|' row := by decide
  exact ⟨hrows, by decide, parseRows_printRows (by decide) (by decide) hrows⟩

end Engine
end QueryFuzz
