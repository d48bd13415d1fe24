import QueryFuzz.Proofs.Grammar.Clauses

/-!
# The texts of queries

A query whose parts are sound is a sentence of the kind of statement that it is meant to be, over
the tables that its parts are over. The names of new tables, indexes, views and columns are words of
their own, as the number behind them has no sign.
-/

namespace QueryFuzz
namespace Grammar

open Sql

/-! ## Names of new things -/

def fronts : List String :=
  ["sqldrift_table_", "sqldrift_copy_", "sqldrift_idx_", "sqldrift_view_", "sqldrift_col_"]

/-- No keyword holds an underscore. -/
theorem isKeyword_of_underscore {word : String} (h : '_' ∈ word.toList) :
    isKeyword word = false := by
  have hnone : ∀ keyword ∈ keywords, '_' ∉ keyword.toList := by decide +kernel
  have hupper : '_' ∈ word.toUpper.toList := by
    have htoUpper : word.toUpper.toList = word.toList.map Char.toUpper := String.toList_map
    rw [htoUpper]
    exact List.mem_map.2 ⟨'_', h, by decide⟩
  rw [isKeyword, List.contains_eq_mem, decide_eq_false_iff_not]
  intro hmem
  exact hnone _ hmem hupper

theorem isPlainName_append_digits {cs ds : List Char} (hcs : isPlainName cs)
    (hds : ∀ d ∈ ds, d.isDigit) : isPlainName (cs ++ ds) := by
  cases cs with
  | nil => simp [isPlainName] at hcs
  | cons c cs =>
    rw [isPlainName, Bool.and_eq_true] at hcs
    rw [List.cons_append, isPlainName, ← List.cons_append, List.all_append, Bool.and_eq_true,
      Bool.and_eq_true]
    refine ⟨hcs.1, hcs.2, ?_⟩
    rw [List.all_eq_true]
    intro d hd
    simp [Char.isAlphanum, hds d hd]

/-- The name of a new thing is a word, and it tells that it is made up. -/
theorem holds_front {tables : List Table} {limit : ℕ} {front : String} (hfront : front ∈ fronts)
    {n : ℤ} (hn : 0 ≤ n) : Holds tables limit .name (front ++ toString n) := by
  have hfronts : ∀ front ∈ fronts, isPlainName front.toList ∧ '_' ∈ front.toList ∧
      "sqldrift_".toList <+: front.toList := by
    decide +kernel
  obtain ⟨hplain, hunderscore, hmade⟩ := hfronts front hfront
  have htext : (front ++ toString n).toList = front.toList ++ Nat.toDigits 10 n.natAbs := by
    rw [toString_eq_signed, if_neg (by omega), String.empty_append, String.toList_append,
      toList_toString]
  have hword : isPlainName (front ++ toString n).toList := by
    rw [htext]
    exact isPlainName_append_digits hplain (Decimal.isDigit_toDigits n.natAbs)
  have hkind : wordKind (front ++ toString n).toList = .identifier := by
    rw [wordKind, String.ofList_toList, isKeyword_of_underscore]
    · rfl
    · rw [htext]
      exact List.mem_append_left _ hunderscore
  have hlexeme := lexeme_of_isPlainName hword
  rw [hkind] at hlexeme
  have ht : Token.IsLexeme ⟨.identifier, front ++ toString n⟩ := hlexeme
  have hknown : IsKnown tables (unquote (front ++ toString n)) := by
    rw [unquote_of_isPlainName hword]
    refine .inr (.inr ?_)
    rw [htext]
    exact hmade.trans (List.prefix_append _ _)
  refine ⟨⟨?_, ?_⟩, _, ht.spells, rfl⟩ <;> rw [textTokens_eq ht.spells]
  · exact .name rfl hknown .nil
  · simp [Shallow, depthsFrom]

theorem append_append_of_eq {a b whole : String} (h : a ++ b = whole) (rest : String) :
    a ++ (b ++ rest) = whole ++ rest := by
  rw [← String.append_assoc, h]

section Texts

variable {tables : List Table} {limit : ℕ}

/-! ## Selections -/

/-- A selection is read as one statement, whose clauses are the parts of the selection. -/
theorem Selection.Sound.exists_statement {s : Selection} {width : ℕ}
    (h : s.Sound tables limit width) :
    ∃ statement : Statement, ∃ ts, Spells s.text statement.tokens ∧
      IsSentence .select statement.tokens ∧ statement.kind = .select ∧ IsItems ts ∧
      statement.sections = (.head, selectWords s.distinct ++ ts) :: tokenParts s.parts ∧
      (s.items = .star ∧ ts = [star] ∨ ts ≠ [star] ∧ statement.selectItems.length = width) := by
  obtain ⟨ts, hhead, -, hwidth⟩ := h.exists_head
  obtain ⟨statement, -, hspells, hsentence, hkind, hsections, hlength⟩ :=
    exists_select hhead.spells hhead.sentence hhead.items h.arePartTexts
  rw [← s.text_eq] at hspells
  exact ⟨statement, ts, hspells, hsentence, hkind, hhead.items, hsections, by rwa [hlength]⟩

theorem isQueryText_select {s : Selection} {width : ℕ} (h : s.Sound tables limit width) :
    IsQueryText tables limit .select (Query.select s).text := by
  obtain ⟨statement, ts, hspells, hsentence, -⟩ := h.exists_statement
  exact ⟨h.keepsTo, statement.tokens, hspells, hsentence⟩

/-! ## Changes of tables -/

section Changes

variable {table : String} (htable : IsKnown tables table)

/-- What is inserted has as many rows and columns as an insertion needs, which is one. -/
inductive InsertionRows.Sound (tables : List Table) (limit : ℕ) : InsertionRows → Prop
  | values {rows : List (List String)} : rows ≠ [] → (∀ row ∈ rows, row ≠ []) →
      (∀ row ∈ rows, ∀ value ∈ row, IsPhrase tables 0 value) → Sound tables limit (.values rows)
  | copy {condition : Predicate} : IsPhrase tables limit condition.text →
      Sound tables limit (.copy condition)

theorem isPhrase_row {row : List String} (hne : row ≠ [])
    (h : ∀ value ∈ row, IsPhrase tables limit value) :
    IsPhrase tables (limit + 1) ("(" ++ commaList row ++ ")") := by
  have hshape : Shape.row ∈ Shape.nestingTerms := by simp [Shape.nestingTerms]
  have hfill := isPhrase_nesting hshape (.cons (holds_commaList hne h) .nil)
  simpa [Shape.row, String.append_assoc] using hfill

/-- Behind one parenthesis, what is flat is one deep. -/
theorem Holds.shallow_one {gap : Gap} {text : String} (h : Holds tables 0 gap text)
    (hlimit : 1 ≤ limit) : Shallow limit 1 (textTokens text) :=
  (h.shallow.add h.fits.fits 1).mono hlimit

include htable

theorem isQueryText_insert {columns : List String} {rows : InsertionRows} (hlimit : 1 ≤ limit)
    (hne : columns ≠ []) (hcolumns : ∀ name ∈ columns, IsKnown tables name)
    (hrows : rows.Sound tables limit) :
    IsQueryText tables limit .insert (Query.insert table columns rows).text := by
  have hname : Holds tables limit .name (quoteIdentifier table) := holds_name htable
  have hflat : Holds tables 0 .list (commaList (columns.map quoteIdentifier)) :=
    holds_commaList_map hne fun name hname => isPhrase_name (holds_name (hcolumns name hname))
  have hlist := hflat.mono (Nat.zero_le limit)
  cases hrows with
  | @values rows hrows hrow hvalue =>
    have hrowText : ∀ row ∈ rows, IsPhrase tables limit ("(" ++ commaList row ++ ")") :=
      fun row hmem => (isPhrase_row (hrow row hmem) (hvalue row hmem)).mono hlimit
    have hrowList := holds_commaList_map hrows hrowText
    have hshape : (StatementKind.insert, Shape.insertValues) ∈ Shape.nestingSentences := by
      simp [Shape.nestingSentences]
    have hdepths : gapDepths 0 Shape.insertValues.first Shape.insertValues.gaps = [0, 1, 0] := by
      decide +kernel
    have hfill := isQueryText_nesting hshape hlimit
      (.cons hname (.cons hlist (.cons hrowList .nil)))
      (hdepths ▸ .cons hname.shallow (.cons (hflat.shallow_one hlimit)
        (.cons hrowList.shallow .nil)))
    show IsQueryText tables limit .insert ("INSERT INTO " ++ quoteIdentifier table ++ " (" ++
      commaList (columns.map quoteIdentifier) ++ ") " ++
        ("VALUES " ++ commaList (rows.map fun row => "(" ++ commaList row ++ ")")))
    have hvalues := append_append_of_eq (show ") " ++ "VALUES " = ") VALUES " by decide)
    simpa [Shape.insertValues, String.append_assoc, hvalues] using hfill
  | @copy condition hcondition =>
    have hshape : (StatementKind.insert, Shape.insertCopy) ∈ Shape.nestingSentences := by
      simp [Shape.nestingSentences]
    have hdepths : gapDepths 0 Shape.insertCopy.first Shape.insertCopy.gaps = [0, 1, 0, 0, 0] := by
      decide +kernel
    have hfill := isQueryText_nesting hshape hlimit
      (.cons hname (.cons hlist (.cons hlist (.cons hname (.cons hcondition .nil)))))
      (hdepths ▸ .cons hname.shallow (.cons (hflat.shallow_one hlimit)
        (.cons hlist.shallow (.cons hname.shallow (.cons hcondition.shallow .nil)))))
    show IsQueryText tables limit .insert ("INSERT INTO " ++ quoteIdentifier table ++ " (" ++
      commaList (columns.map quoteIdentifier) ++ ") " ++
        ("SELECT " ++ commaList (columns.map quoteIdentifier) ++ " FROM " ++
          quoteIdentifier table ++ " WHERE " ++ condition.text))
    have hselect := append_append_of_eq (show ") " ++ "SELECT " = ") SELECT " by decide)
    simpa [Shape.insertCopy, String.append_assoc, hselect] using hfill

theorem isQueryText_update {column value : String} {condition : Option Predicate}
    (hcolumn : IsKnown tables column) (hvalue : IsPhrase tables limit value)
    (h : ∀ p ∈ condition, IsPhrase tables limit p.text) :
    IsQueryText tables limit .update (Query.update table column value condition).text := by
  have hshape : (StatementKind.update, Shape.update) ∈ Shape.flatSentences := by
    simp [Shape.flatSentences]
  have hfill := isQueryText_flat hshape
    (.cons (holds_name htable) (.cons (holds_name hcolumn) (.cons hvalue .nil)))
  have hsentence := isQueryText_where hfill h
  show IsQueryText tables limit .update ("UPDATE " ++ quoteIdentifier table ++ " SET " ++
    quoteIdentifier column ++ " = " ++ value ++ whereText condition)
  simpa [Shape.update, String.append_assoc] using hsentence

theorem isQueryText_delete {condition : Option Predicate}
    (h : ∀ p ∈ condition, IsPhrase tables limit p.text) :
    IsQueryText tables limit .delete (Query.delete table condition).text := by
  have hshape : (StatementKind.delete, Shape.delete) ∈ Shape.flatSentences := by
    simp [Shape.flatSentences]
  have hname : Holds tables limit .name (quoteIdentifier table) := holds_name htable
  have hfill := isQueryText_flat hshape (.cons hname .nil)
  have hsentence := isQueryText_where hfill h
  show IsQueryText tables limit .delete ("DELETE FROM " ++ quoteIdentifier table ++
    whereText condition)
  simpa [Shape.delete, String.append_assoc] using hsentence

end Changes

/-! ## Definitions -/

section Definitions

theorem isPhrase_columnDefinition {c : Column} (h : IsKnown tables c.name) :
    IsPhrase tables limit (quoteIdentifier c.name ++ " " ++ c.type.sqlName) := by
  have hshape : Shape.columnDefinition c.type ∈ Shape.flatTerms := by
    cases c.type <;> simp [Shape.flatTerms, ColumnType.all]
  have hname : Holds tables limit .name (quoteIdentifier c.name) := holds_name h
  have hfill := isPhrase_flat hshape (.cons hname .nil)
  simpa [Shape.columnDefinition, String.append_assoc] using hfill

variable {suffix : ℤ} (hsuffix : 0 ≤ suffix)

include hsuffix

theorem isQueryText_createTable {columns : List Column} (hlimit : 1 ≤ limit) (hne : columns ≠ [])
    (hcolumns : ∀ c ∈ columns, IsKnown tables c.name) :
    IsQueryText tables limit .create (Query.createTable suffix columns).text := by
  have hname : Holds tables limit .name ("sqldrift_table_" ++ toString suffix) :=
    holds_front (by simp [fronts]) hsuffix
  have hflat : Holds tables 0 .list
      (commaList (columns.map fun c => quoteIdentifier c.name ++ " " ++ c.type.sqlName)) :=
    holds_commaList_map hne fun c hc => isPhrase_columnDefinition (hcolumns c hc)
  have hshape : (StatementKind.create, Shape.createTable) ∈ Shape.nestingSentences := by
    simp [Shape.nestingSentences]
  have hdepths : gapDepths 0 Shape.createTable.first Shape.createTable.gaps = [0, 1] := by
    decide +kernel
  have hfill := isQueryText_nesting hshape hlimit
    (.cons hname (.cons (hflat.mono (Nat.zero_le limit)) .nil))
    (hdepths ▸ .cons hname.shallow (.cons (hflat.shallow_one hlimit) .nil))
  show IsQueryText tables limit .create ("CREATE TABLE sqldrift_table_" ++ toString suffix ++
    " (" ++ commaList (columns.map fun c => quoteIdentifier c.name ++ " " ++ c.type.sqlName) ++ ")")
  have hfront := append_append_of_eq
    (show "CREATE TABLE " ++ "sqldrift_table_" = "CREATE TABLE sqldrift_table_" by decide)
  simpa [Shape.createTable, String.append_assoc, hfront] using hfill

variable {table : String} (htable : IsKnown tables table)

include htable

theorem isQueryText_createTableAs {p : Predicate} (hp : IsPhrase tables limit p.text) :
    IsQueryText tables limit .create (Query.createTableAs suffix table p).text := by
  have hname : Holds tables limit .name ("sqldrift_copy_" ++ toString suffix) :=
    holds_front (by simp [fronts]) hsuffix
  have hshape : (StatementKind.create, Shape.createCopy) ∈ Shape.flatSentences := by
    simp [Shape.flatSentences]
  have hfill := isQueryText_flat hshape
    (.cons hname (.cons (holds_name htable) (.cons hp .nil)))
  show IsQueryText tables limit .create ("CREATE TABLE sqldrift_copy_" ++ toString suffix ++
    " AS SELECT * FROM " ++ quoteIdentifier table ++ " WHERE " ++ p.text)
  have hfront := append_append_of_eq
    (show "CREATE TABLE " ++ "sqldrift_copy_" = "CREATE TABLE sqldrift_copy_" by decide)
  simpa [Shape.createCopy, String.append_assoc, hfront] using hfill

theorem isQueryText_createIndex (unique : Bool) {c : ColumnRef} (hlimit : 1 ≤ limit)
    (hc : c.IsIn tables) :
    IsQueryText tables limit .create (Query.createIndex suffix unique table c).text := by
  have hname : Holds tables limit .name ("sqldrift_idx_" ++ toString suffix) :=
    holds_front (by simp [fronts]) hsuffix
  have htable' : Holds tables limit .name (quoteIdentifier table) := holds_name htable
  have hflat : IsPhrase tables 0 c.text := isPhrase_column hc
  have hshape : (StatementKind.create, Shape.createIndex unique) ∈ Shape.nestingSentences := by
    cases unique <;> simp [Shape.nestingSentences]
  have hdepths : gapDepths 0 (Shape.createIndex unique).first (Shape.createIndex unique).gaps =
      [0, 0, 1] := by
    cases unique <;> decide +kernel
  have hfill := isQueryText_nesting hshape hlimit
    (.cons hname (.cons htable' (.cons (hflat.mono (Nat.zero_le limit)) .nil)))
    (hdepths ▸ .cons hname.shallow (.cons htable'.shallow (.cons (hflat.shallow_one hlimit) .nil)))
  show IsQueryText tables limit .create ("CREATE " ++ (if unique then "UNIQUE " else "") ++
    "INDEX IF NOT EXISTS sqldrift_idx_" ++ toString suffix ++ " ON " ++ quoteIdentifier table ++
    " (" ++ c.text ++ ")")
  have hfront := append_append_of_eq (show "INDEX IF NOT EXISTS " ++ "sqldrift_idx_" =
    "INDEX IF NOT EXISTS sqldrift_idx_" by decide)
  simpa [Shape.createIndex, String.append_assoc, hfront] using hfill

theorem isQueryText_createView {p : Predicate} {c : ColumnRef} (hc : c.IsIn tables)
    (hp : IsPhrase tables limit p.text) :
    IsQueryText tables limit .create (Query.createView suffix table c p).text := by
  have hname : Holds tables limit .name ("sqldrift_view_" ++ toString suffix) :=
    holds_front (by simp [fronts]) hsuffix
  have hshape : (StatementKind.create, Shape.createView) ∈ Shape.flatSentences := by
    simp [Shape.flatSentences]
  have hfill := isQueryText_flat hshape
    (.cons hname (.cons (isPhrase_column hc) (.cons (holds_name htable) (.cons hp .nil))))
  show IsQueryText tables limit .create ("CREATE VIEW sqldrift_view_" ++ toString suffix ++
    " AS SELECT " ++ c.text ++ " FROM " ++ quoteIdentifier table ++ " WHERE " ++ p.text)
  have hfront := append_append_of_eq
    (show "CREATE VIEW " ++ "sqldrift_view_" = "CREATE VIEW sqldrift_view_" by decide)
  simpa [Shape.createView, String.append_assoc, hfront] using hfill

theorem isQueryText_addColumn (type : ColumnType) (default : ℤ) :
    IsQueryText tables limit .alter (Query.addColumn suffix table type default).text := by
  have hname : Holds tables limit .name ("sqldrift_col_" ++ toString suffix) :=
    holds_front (by simp [fronts]) hsuffix
  have hshape : (StatementKind.alter, Shape.addColumn type) ∈ Shape.flatSentences := by
    cases type <;> simp [Shape.flatSentences, ColumnType.all]
  have hfill := isQueryText_flat hshape
    (.cons (holds_name htable) (.cons hname (.cons (isPhrase_integer default) .nil)))
  show IsQueryText tables limit .alter ("ALTER TABLE " ++ quoteIdentifier table ++
    " ADD COLUMN sqldrift_col_" ++ toString suffix ++ " " ++ type.sqlName ++ " DEFAULT " ++
    toString default)
  have hfront := append_append_of_eq
    (show " ADD COLUMN " ++ "sqldrift_col_" = " ADD COLUMN sqldrift_col_" by decide)
  simpa [Shape.addColumn, String.append_assoc, hfront] using hfill

end Definitions

end Texts

end Grammar
end QueryFuzz
