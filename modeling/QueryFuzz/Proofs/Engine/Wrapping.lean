import QueryFuzz.Engine.Exchange
import QueryFuzz.Proofs.Sql.Composition
import QueryFuzz.Proofs.Sql.Script
import QueryFuzz.Proofs.Sql.Tokenization

/-!
# The transaction around a query

No token of a text reaches over a line break behind the text, so the tokens of a wrapped query are
those of the query between the fixed ones. Its statements stand between the two that begin and
roll back the transaction, and as these select no rows, they do not change what is known about
the rows of the query.
-/

namespace QueryFuzz
namespace Sql

/-! ## A line break behind a text -/

/-- In front of a line break a text with tokens keeps them. -/
theorem reads_append_line_break {offset : ℕ} {cs after : List Char} {ts rest : List Token}
    (h : tokenizeFrom offset cs = .ok ts) (hafter : Reads after rest) :
    Reads (cs ++ '\n' :: after) (ts.filter (!·.isTrivia) ++ rest) := by
  have hbreak : Reads ('\n' :: after) rest := hafter.blank (by decide)
  induction offset, cs using tokens_induction generalizing ts with
  | nil offset =>
    rw [tokenizeFrom_nil] at h
    obtain rfl := Except.ok.inj h
    exact hbreak
  | fault offset c cs e hscan =>
    rw [tokenizeFrom_of_fault hscan] at h
    cases h
  | token offset c kind run cs hscan ih =>
    rw [tokenizeFrom_of_token hscan] at h
    obtain ⟨more, hmore, rfl⟩ := map_eq_ok.1 h
    have hrest := ih hmore
    rw [List.cons_append, List.append_assoc]
    by_cases hblank : Text.isBlank c
    · -- The blanks at the end of the text go on behind it, so they are taken one by one.
      rw [scan_blank hblank] at hscan
      obtain ⟨rfl, hrun⟩ := Prod.mk.inj (Except.ok.inj hscan)
      have hblanks : ∀ d ∈ c :: run, Text.isBlank d :=
        List.forall_mem_cons.2 ⟨hblank, (runLength_append_iff.1 hrun).1⟩
      rw [List.filter_cons_of_neg (by simp [Token.isTrivia])]
      exact hrest.blanks hblanks
    · intro offset'
      have hnext : ∀ d ∈ (cs ++ '\n' :: after).head?,
          d ∈ cs.head? ∨ d = '\n' ∧ Text.isBlank c = false := by
        intro d hd
        cases cs with
        | nil => exact .inr ⟨by simpa using hd.symm, by simpa using hblank⟩
        | cons e cs => exact .inl hd
      rw [readFrom_of_scan (scan_congr offset' hscan hnext), List.take_left, List.drop_left, hrest,
        Except.map, ← List.append_assoc, ← List.filter_append]
      rfl

/-! ## Scripts joined by semicolons -/

theorem splitAtSemicolons_append_semicolon {t : Token} (ht : t.kind = .semicolon)
    (ts rest : List Token) :
    splitAtSemicolons (ts ++ t :: rest) = splitAtSemicolons ts ++ splitAtSemicolons rest := by
  induction ts with
  | nil => simp [splitAtSemicolons, ht]
  | cons u ts ih =>
    rw [List.cons_append, splitAtSemicolons, splitAtSemicolons, ih]
    obtain ⟨chunk, chunks, hsplit, -⟩ := splitAtSemicolons_spec ts
    split_ifs
    · rfl
    · rw [hsplit]
      rfl

end Sql

namespace Engine

open Sql

/-! ## The statements around a query -/

/-- The statement that begins the transaction. -/
def beginTransaction : Statement where
  kind := .transaction
  tokens := [⟨.keyword, "BEGIN"⟩, ⟨.keyword, "TRANSACTION"⟩]
  kind_eq := by decide +kernel
  sound := by decide +kernel

/-- The statement that undoes the transaction. -/
def rollback : Statement where
  kind := .transaction
  tokens := [⟨.keyword, "ROLLBACK"⟩]
  kind_eq := by decide +kernel
  sound := by decide +kernel

theorem toList_wrapInTransaction (sql : String) :
    (wrapInTransaction sql).toList = "BEGIN TRANSACTION;".toList ++ '\n' ::
      (sql.toList ++ '\n' :: (";".toList ++ '\n' :: ("ROLLBACK;".toList ++ ['\n']))) := by
  have hfront : "BEGIN TRANSACTION;\n".toList = "BEGIN TRANSACTION;".toList ++ ['\n'] := by decide
  have hback : "\n;\nROLLBACK;\n".toList =
      '\n' :: (";".toList ++ '\n' :: ("ROLLBACK;".toList ++ ['\n'])) := by decide
  have hjoined (front back : String) : (front ++ sql ++ back).toList =
      front.toList ++ (sql.toList ++ back.toList) := by
    rw [String.toList_append, String.toList_append, List.append_assoc]
  refine (hjoined "BEGIN TRANSACTION;\n" "\n;\nROLLBACK;\n").trans ?_
  rw [hfront, hback, List.append_assoc, List.singleton_append]

theorem reads_begin {after : List Char} {rest : List Token} (h : Reads after rest) :
    Reads ("BEGIN TRANSACTION;".toList ++ '\n' :: after)
      (beginTransaction.tokens ++ semicolon :: rest) := by
  have hopens : Opens "BEGIN TRANSACTION;" (beginTransaction.tokens ++ [semicolon]) :=
    opens_of_fixedTokens? (by decide +kernel)
  simpa using hopens.reads _ _ (h.blank (by decide))

theorem reads_rollback : Reads (";".toList ++ '\n' :: ("ROLLBACK;".toList ++ ['\n']))
    (semicolon :: (rollback.tokens ++ [semicolon])) := by
  have hsemicolon : Opens ";" [semicolon] := opens_of_fixedTokens? (by decide +kernel)
  have hrollback : Opens "ROLLBACK;" (rollback.tokens ++ [semicolon]) :=
    opens_of_fixedTokens? (by decide +kernel)
  have hend := hrollback.reads _ _ (reads_nil.blank (b := '\n') (by decide))
  simpa using hsemicolon.reads _ _ (hend.blank (by decide))

theorem significantTokens_wrapInTransaction {sql : String} {ts : List Token}
    (h : significantTokens sql = .ok ts) :
    significantTokens (wrapInTransaction sql) =
      .ok (beginTransaction.tokens ++ semicolon ::
        (ts ++ semicolon :: (rollback.tokens ++ [semicolon]))) := by
  obtain ⟨all, hall, rfl⟩ := map_eq_ok.1 h
  rw [significantTokens_eq, toList_wrapInTransaction]
  exact reads_begin (reads_append_line_break hall reads_rollback) 0

theorem parseScript_wrapInTransaction {sql : String} {statements : List Statement}
    (h : parseScript sql = .ok statements) :
    parseScript (wrapInTransaction sql) =
      .ok (beginTransaction :: (statements ++ [rollback])) := by
  obtain ⟨-, ts, hts, hmap⟩ := parseScript_eq_ok_iff.1 h
  refine parseScript_eq_ok_iff.2
    ⟨by simp, _, significantTokens_wrapInTransaction hts, ?_⟩
  rw [splitAtSemicolons_append_semicolon rfl, splitAtSemicolons_append_semicolon rfl,
    splitAtSemicolons_append_semicolon rfl, List.filter_append, List.filter_append,
    List.filter_append, ← hmap]
  rw [List.map_cons, List.map_append]
  rfl

theorem resultShape_wrapInTransaction {sql : String} {statements : List Statement}
    (h : parseScript sql = .ok statements) :
    resultShape (wrapInTransaction sql) = resultShape sql := by
  have hfind : (beginTransaction :: (statements ++ [rollback])).reverse.find? (·.kind == .select) =
      statements.reverse.find? (·.kind == .select) := by
    simp [beginTransaction, rollback]
  unfold resultShape
  rw [parseScript_wrapInTransaction h, h]
  dsimp only
  rw [hfind]

/-- A query cannot leave its transaction. Whatever text has tokens, they stand between those that
begin and roll back the transaction when the text is wrapped, so its statements do, too, and what
is known about its rows stays the same. -/
theorem wrapInTransaction_encloses {sql : String} {all : List Token}
    (h : tokenize sql = .ok all) :
    significantTokens (wrapInTransaction sql) =
      .ok ([⟨.keyword, "BEGIN"⟩, ⟨.keyword, "TRANSACTION"⟩, ⟨.semicolon, ";"⟩] ++
        all.filter (!·.isTrivia) ++
        [⟨.semicolon, ";"⟩, ⟨.keyword, "ROLLBACK"⟩, ⟨.semicolon, ";"⟩]) ∧
    ∀ statements, parseScript sql = .ok statements →
      parseScript (wrapInTransaction sql) = .ok (beginTransaction :: (statements ++ [rollback])) ∧
        resultShape (wrapInTransaction sql) = resultShape sql := by
  refine ⟨?_, fun statements hparse =>
    ⟨parseScript_wrapInTransaction hparse, resultShape_wrapInTransaction hparse⟩⟩
  have hsignificant : significantTokens sql = .ok (all.filter (!·.isTrivia)) := by
    rw [significantTokens, h]
    rfl
  rw [significantTokens_wrapInTransaction hsignificant]
  simp [beginTransaction, rollback, semicolon]

/-- The comment at the end of the text reaches no further than the text. -/
theorem wrapInTransaction_encloses_commented :
    ∃ s : Statement, parseScript "SELECT a ORDER BY 1 -- ';" = .ok [s] ∧
      significantTokens (wrapInTransaction "SELECT a ORDER BY 1 -- ';") =
        .ok ([⟨.keyword, "BEGIN"⟩, ⟨.keyword, "TRANSACTION"⟩, ⟨.semicolon, ";"⟩] ++ s.tokens ++
          [⟨.semicolon, ";"⟩, ⟨.keyword, "ROLLBACK"⟩, ⟨.semicolon, ";"⟩]) ∧
      parseScript (wrapInTransaction "SELECT a ORDER BY 1 -- ';") =
        .ok [beginTransaction, s, rollback] ∧
      resultShape (wrapInTransaction "SELECT a ORDER BY 1 -- ';") = ⟨true, false⟩ := by
  have hall : tokenize "SELECT a ORDER BY 1 -- ';" = .ok
      [⟨.keyword, "SELECT"⟩, ⟨.whitespace, " "⟩, ⟨.identifier, "a"⟩, ⟨.whitespace, " "⟩,
        ⟨.keyword, "ORDER"⟩, ⟨.whitespace, " "⟩, ⟨.keyword, "BY"⟩, ⟨.whitespace, " "⟩,
        ⟨.integer, "1"⟩, ⟨.whitespace, " "⟩, ⟨.comment, "-- ';"⟩] := by
    decide +kernel
  have hstatement : ∃ s : Statement, s.tokens = [⟨.keyword, "SELECT"⟩, ⟨.identifier, "a"⟩,
      ⟨.keyword, "ORDER"⟩, ⟨.keyword, "BY"⟩, ⟨.integer, "1"⟩] :=
    ⟨⟨.select, _, by decide +kernel, by decide +kernel⟩, rfl⟩
  obtain ⟨s, hs⟩ := hstatement
  have hparse : parseScript "SELECT a ORDER BY 1 -- ';" = .ok [s] := by
    refine parseScript_eq_singleton ?_ ?_
    · rw [hs]
      decide +kernel
    · rw [hs]
      decide
  obtain ⟨htokens, hstatements⟩ := wrapInTransaction_encloses hall
  obtain ⟨hscript, hshape⟩ := hstatements [s] hparse
  refine ⟨s, hparse, ?_, hscript, hshape.trans ?_⟩
  · rw [htokens, hs]
    decide
  · decide +kernel

end Engine
end QueryFuzz
