import QueryFuzz.Proofs.Grammar.Grounding

/-!
# The texts of phrases

The text of every phrase is a template filled with the texts of its parts. Where the parts are
terms, expressions and predicates are terms, and a statement is a sentence of its kind. Each
template is checked once, by the lexer and the check of the structure themselves. So are the names
that it adds to those of its parts and the depth at which they stand in it.
-/

namespace QueryFuzz
namespace Grammar

open Sql

/-! ## Templates -/

def comparisons : List String :=
  ["=", "<>", "!=", "<", "<=", ">", ">=", "IS", "IS NOT", "LIKE", "GLOB"]

def arithmetic : List String :=
  ["+", "-", "*", "/", "%", "||"]

namespace Shape

def name : Template := ⟨"", [(.name, "")]⟩

def comparison (op : String) : Template := ⟨"", [(.term, " " ++ op ++ " "), (.term, "")]⟩

def nullCheck (negated : Bool) : Template :=
  ⟨"", [(.term, " IS" ++ (if negated then " NOT" else "") ++ " NULL")]⟩

def between (negated : Bool) : Template :=
  ⟨"", [(.term, " " ++ (if negated then "NOT " else "") ++ "BETWEEN "), (.term, " AND "),
    (.term, "")]⟩

def membership (negated : Bool) : Template :=
  ⟨"", [(.term, " " ++ (if negated then "NOT " else "") ++ "IN ("), (.list, ")")]⟩

def both : Template := ⟨"(", [(.term, " AND "), (.term, ")")]⟩

def either : Template := ⟨"(", [(.term, " OR "), (.term, ")")]⟩

def negation : Template := ⟨"NOT (", [(.term, ")")]⟩

def existence : Template := ⟨"EXISTS (SELECT 1 FROM ", [(.name, " WHERE "), (.term, ")")]⟩

def subquery : Template := ⟨"", [(.term, " IN (SELECT "), (.term, " FROM "), (.name, ")")]⟩

def binary (op : String) : Template := ⟨"(", [(.term, " " ++ op ++ " "), (.term, ")")]⟩

def application (function : String) : Template := ⟨function ++ "(", [(.list, ")")]⟩

def wholeRows : Template := ⟨"COUNT(*)", []⟩

def conditional : Template :=
  ⟨"CASE WHEN ", [(.term, " THEN "), (.term, " ELSE "), (.term, " END")]⟩

def cast (target : ColumnType) : Template := ⟨"CAST(", [(.term, " AS " ++ target.sqlName ++ ")")]⟩

def row : Template := ⟨"(", [(.list, ")")]⟩

def columnDefinition (type : ColumnType) : Template := ⟨"", [(.name, " " ++ type.sqlName)]⟩

def insertValues : Template :=
  ⟨"INSERT INTO ", [(.name, " ("), (.list, ") VALUES "), (.list, "")]⟩

def insertCopy : Template :=
  ⟨"INSERT INTO ", [(.name, " ("), (.list, ") SELECT "), (.list, " FROM "), (.name, " WHERE "),
    (.term, "")]⟩

def update : Template := ⟨"UPDATE ", [(.name, " SET "), (.name, " = "), (.term, "")]⟩

def delete : Template := ⟨"DELETE FROM ", [(.name, "")]⟩

def createTable : Template := ⟨"CREATE TABLE ", [(.name, " ("), (.list, ")")]⟩

def createCopy : Template :=
  ⟨"CREATE TABLE ", [(.name, " AS SELECT * FROM "), (.name, " WHERE "), (.term, "")]⟩

def createIndex (unique : Bool) : Template :=
  ⟨"CREATE " ++ (if unique then "UNIQUE " else "") ++ "INDEX IF NOT EXISTS ",
    [(.name, " ON "), (.name, " ("), (.term, ")")]⟩

def createView : Template :=
  ⟨"CREATE VIEW ", [(.name, " AS SELECT "), (.term, " FROM "), (.name, " WHERE "), (.term, "")]⟩

def addColumn (type : ColumnType) : Template :=
  ⟨"ALTER TABLE ", [(.name, " ADD COLUMN "), (.name, " " ++ type.sqlName ++ " DEFAULT "),
    (.term, "")]⟩

/-! The templates that depend on a word are checked for each of the words. -/

/-- The terms whose parts stand no deeper than they do. The others have parts in parentheses. -/
def flatTerms : List Template :=
  [name, conditional, nullCheck false, nullCheck true, between false, between true] ++
  ColumnType.all.map columnDefinition ++ comparisons.map comparison

def nestingTerms : List Template :=
  [both, either, negation, existence, subquery, wholeRows, row, membership false,
    membership true] ++
  ColumnType.all.map cast ++ arithmetic.map binary ++ functions.map application

def flatSentences : List (StatementKind × Template) :=
  [(.update, update), (.delete, delete), (.create, createCopy), (.create, createView)] ++
  ColumnType.all.map fun type => (.alter, addColumn type)

def nestingSentences : List (StatementKind × Template) :=
  [(.insert, insertValues), (.insert, insertCopy), (.create, createTable),
    (.create, createIndex false), (.create, createIndex true)]

theorem makesTerm_of_mem_flatTerms : ∀ t ∈ flatTerms, t.MakesTerm ∧ Adds 0 t := by
  decide +kernel

theorem makesTerm_of_mem_nestingTerms : ∀ t ∈ nestingTerms, t.MakesTerm ∧ Adds 1 t := by
  decide +kernel

theorem makesSentence_of_mem_flatSentences :
    ∀ s ∈ flatSentences, s.2.MakesSentence s.1 ∧ Adds 0 s.2 := by
  decide +kernel

theorem makesSentence_of_mem_nestingSentences :
    ∀ s ∈ nestingSentences, s.2.MakesSentence s.1 ∧ Adds 1 s.2 := by
  decide +kernel

end Shape

section Terms

variable {tables : List Table} {limit : ℕ} {t : Template} {texts : List String}

theorem isPhrase_flat (ht : t ∈ Shape.flatTerms)
    (h : FillOver tables limit t.gaps texts) :
    IsPhrase tables limit (fill t.first t.gaps texts) := by
  obtain ⟨hterm, hadds⟩ := Shape.makesTerm_of_mem_flatTerms t ht
  exact isPhrase_fill hterm hadds h

theorem isPhrase_nesting (ht : t ∈ Shape.nestingTerms)
    (h : FillOver tables limit t.gaps texts) :
    IsPhrase tables (limit + 1) (fill t.first t.gaps texts) := by
  obtain ⟨hterm, hadds⟩ := Shape.makesTerm_of_mem_nestingTerms t ht
  exact isPhrase_fill hterm hadds h

end Terms

/-! ## Names and literals -/

theorem fits_quoteIdentifier (name : String) : Gap.name.Fits (quoteIdentifier name) :=
  ⟨nameToken name, spells_quoteIdentifier name, isNameToken_nameToken name⟩

section Names

variable {tables : List Table} {limit : ℕ}

theorem shallow_nameToken (name : String) : Shallow limit 0 [nameToken name] := by
  simp [Shallow, depthsFrom]

theorem holds_name {name : String} (h : IsKnown tables name) :
    Holds tables limit .name (quoteIdentifier name) := by
  have htokens := textTokens_eq (spells_quoteIdentifier name)
  refine ⟨⟨?_, ?_⟩, fits_quoteIdentifier name⟩ <;> rw [htokens]
  · exact grounded_nameToken h
  · exact shallow_nameToken name

theorem isPhrase_name {text : String} (h : Holds tables limit .name text) :
    IsPhrase tables limit text := by
  have hfill := isPhrase_flat (t := Shape.name) (by simp [Shape.flatTerms]) (.cons h .nil)
  simpa [Shape.name] using hfill

/-- The column of one of the tables, by its name alone or with the name of its table. -/
def ColumnRef.IsIn (tables : List Table) (c : ColumnRef) : Prop :=
  ∃ t ∈ tables, ∃ column ∈ t.columns, c.column = column.name ∧ ∀ name ∈ c.table, name = t.name

theorem isPhrase_column {c : ColumnRef} (h : c.IsIn tables) : IsPhrase tables limit c.text := by
  obtain ⟨table, name⟩ := c
  obtain ⟨t, ht, column, hcolumn, rfl, htable⟩ := h
  cases table with
  | none => exact isPhrase_name (holds_name (isKnown_column ht hcolumn))
  | some table =>
    obtain rfl : table = t.name := htable table rfl
    have hspells := spells_qualified t.name column.name
    have hterm : IsTerm [nameGap, dot, nameGap] := by decide
    have hfilled : Filled [nameGap, dot, nameGap]
        [nameToken t.name, dot, nameToken column.name] :=
      .name (isNameToken_nameToken _) (.token dot (.name (isNameToken_nameToken _) .nil))
    have htokens : textTokens (ColumnRef.text ⟨some t.name, column.name⟩) =
        [nameToken t.name, dot, nameToken column.name] := textTokens_eq hspells
    refine ⟨⟨?_, ?_⟩, _, hspells, hterm.filled hfilled⟩ <;> rw [htokens]
    · exact .column ht hcolumn .nil
    · rcases nameToken_kind t.name with hk | hk <;> simp [Shallow, depthsFrom, depthPast, dot, hk]

theorem ColumnRef.IsIn.isKnown_qualifier {c : ColumnRef} (h : c.IsIn tables) {name : String}
    (hname : c.table = some name) : IsKnown tables name := by
  obtain ⟨t, ht, -, -, -, htable⟩ := h
  rw [htable name hname]
  exact isKnown_table ht

/-- A table that has the column. -/
def ColumnRef.home (c : ColumnRef) : Table :=
  ⟨c.table.getD "", [⟨c.column, .integer⟩]⟩

theorem ColumnRef.isIn_of_home_mem {c : ColumnRef} (h : c.home ∈ tables) : c.IsIn tables := by
  refine ⟨c.home, h, ⟨c.column, .integer⟩, List.mem_singleton_self _, rfl, ?_⟩
  intro name hname
  rw [ColumnRef.home, hname]
  rfl

end Names

theorem isTerm_of_isLiteral {t : Token} (h : t.isLiteral) : IsTerm [t] := by
  unfold Token.isLiteral at h
  by_cases hk : t.kind = .keyword
  · have hword : t.text.toUpper = "NULL" ∨ t.text.toUpper = "TRUE" ∨ t.text.toUpper = "FALSE" := by
      simpa [hk, Token.isAnyOf] using h
    have hoperand : ∀ word ∈ ["NULL", "TRUE", "FALSE"],
        word ∉ operandKeywords ∧ word ∉ clauseWords false := by
      decide
    refine ⟨⟨?_, ?_, ?_, ⟨.free, by simp [follow, Place.past, hk], by decide⟩, by simp [hk], ?_⟩,
      by simp [outside, isSingle, hk]⟩
    · rcases hword with hw | hw | hw <;>
        simp [fitsFrom, misfit?, fitsKeyword, depthPast?, Token.isAnyOf, Token.isWord, hk, hw,
          hoperand]
    · rcases hword with hw | hw | hw <;> simp [Token.startsOperand, Token.isAnyOf, hk, hw]
    · rcases hword with hw | hw | hw <;> simp [Token.endsOperand, Token.isAnyOf, hk, hw]
    · rcases hword with hw | hw | hw <;> simp [outside, isCalm, Token.isAnyOf, hk, hw, hoperand]
  · have hkind : t.kind = .string ∨ t.kind = .blob ∨ t.kind = .integer ∨ t.kind = .float := by
      cases hk' : t.kind <;> simp_all [Token.isAnyOf]
    refine ⟨⟨?_, ?_, ?_, ⟨.shut, ?_, by decide⟩, ?_, ?_⟩, ?_⟩
    · rcases hkind with hk | hk | hk | hk <;> simp [fitsFrom, misfit?, depthPast?, hk]
    · rcases hkind with hk | hk | hk | hk <;> simp [Token.startsOperand, hk]
    · rcases hkind with hk | hk | hk | hk <;> simp [Token.endsOperand, hk]
    · rcases hkind with hk | hk | hk | hk <;> simp [follow, Place.past, hk]
    · rcases hkind with hk | hk | hk | hk <;> simp [hk]
    · rcases hkind with hk | hk | hk | hk <;> simp [outside, isCalm, Token.isAnyOf, hk]
    · rcases hkind with hk | hk | hk | hk <;> simp [outside, isSingle, hk]

/-- A literal can stand wherever a literal can, also with a sign. -/
theorem isTermText_of_literal {text : String} (h : IsLiteralText text) : IsTermText text := by
  obtain ⟨ts, hspells, hliteral⟩ := h
  match ts with
  | [t] => exact ⟨[t], hspells, isTerm_of_isLiteral hliteral⟩
  | [sign, t] =>
    obtain ⟨rfl, hnumber⟩ : sign = minus ∧ (t.kind = .integer ∨ t.kind = .float) := by
      simpa [isLiteralTokens] using hliteral
    have ht : IsTerm [t] := isTerm_of_isLiteral (by
      rcases hnumber with hk | hk <;> simp [Token.isLiteral, hk])
    have hsigned : IsTerm [minus, literalGap] := by decide
    exact ⟨[minus, t], hspells, hsigned.filled (.token minus (.terms ht.replaces .nil))⟩

theorem isTermText_integer (n : ℤ) : IsTermText (toString n) :=
  isTermText_of_literal (isLiteralText_integer n)

section Phrases

variable {tables : List Table} {limit : ℕ}

theorem isPhrase_of_literal {text : String} (h : IsLiteralText text) :
    IsPhrase tables limit text :=
  ⟨(keepsTo_of_literal h).mono (Nat.zero_le limit), isTermText_of_literal h⟩

theorem isPhrase_integer (n : ℤ) : IsPhrase tables limit (toString n) :=
  isPhrase_of_literal (isLiteralText_integer n)

/-! ## Lists -/

theorem spells_comma {a b : String} {ts us : List Token} (hts : Spells a ts) (hus : Spells b us) :
    Spells (a ++ ", " ++ b) (ts ++ ⟨.comma, ","⟩ :: us) := by
  have hcomma : Opens ", " [⟨.comma, ","⟩] := opens_of_fixedTokens? (by decide +kernel)
  rw [String.append_assoc]
  exact hts.append (hcomma.append_spells hus) (beginsWithBreak_append (by decide) b)

theorem isListText_cons {a b : String} {n : ℕ} (ha : IsTermText a) (hb : IsListText n b) :
    IsListText (n + 1) (a ++ ", " ++ b) := by
  obtain ⟨ts, hts, hterm⟩ := ha
  obtain ⟨us, hus, hlist, hcount⟩ := hb
  have hpair : IsList [literalGap, ⟨.comma, ","⟩, listGap] := by decide
  refine ⟨ts ++ ⟨.comma, ","⟩ :: us, spells_comma hts hus, ?_, ?_⟩
  · simpa using hpair.filled (.terms hterm.replaces (.token _ (.terms hlist.replaces .nil)))
  · rw [itemCount_append_comma hterm.closed rfl, hterm.itemCount, hcount, Nat.add_comm]

theorem keepsTo_cons {a b : String} {n : ℕ} (ha : IsPhrase tables limit a) (hb : IsListText n b)
    (hkeeps : KeepsTo tables limit b) : KeepsTo tables limit (a ++ ", " ++ b) := by
  obtain ⟨ts, hts, hterm⟩ := ha.fits
  obtain ⟨us, hus, -, -⟩ := hb
  have hgrounded := ha.grounded
  have hshallow := ha.shallow
  rw [textTokens_eq hts] at hgrounded hshallow
  have hgrounded' := hkeeps.grounded
  have hshallow' := hkeeps.shallow
  rw [textTokens_eq hus] at hgrounded' hshallow'
  constructor <;> rw [textTokens_eq (spells_comma hts hus)]
  · exact hgrounded.append (.plain rfl (by simp) hgrounded')
  · rw [shallow_append, hterm.closed]
    exact ⟨hshallow, List.forall_mem_cons.2 ⟨Nat.zero_le limit, hshallow'⟩⟩

theorem isListText_commaList {parts : List String} (hne : parts ≠ [])
    (h : ∀ part ∈ parts, IsPhrase tables limit part) :
    IsListText parts.length (commaList parts) ∧ KeepsTo tables limit (commaList parts) := by
  induction parts with
  | nil => exact absurd rfl hne
  | cons part parts ih =>
    have hpart := h part (by simp)
    cases parts with
    | nil => simpa [commaList] using ⟨hpart.fits.isListText, hpart.toKeepsTo⟩
    | cons part' parts =>
      obtain ⟨hlist, hkeeps⟩ := ih (by simp) fun p hp => h p (List.mem_cons_of_mem _ hp)
      rw [commaList, String.intercalate_cons_cons]
      exact ⟨isListText_cons hpart.fits hlist, keepsTo_cons hpart hlist hkeeps⟩

theorem holds_commaList {parts : List String} (hne : parts ≠ [])
    (h : ∀ part ∈ parts, IsPhrase tables limit part) :
    Holds tables limit .list (commaList parts) := by
  obtain ⟨hlist, hkeeps⟩ := isListText_commaList hne h
  exact ⟨hkeeps, _, hlist⟩

/-- Items are listed, and the list keeps to what each of them keeps to. -/
theorem isListText_commaList_map {α : Type} {f : α → String} {items : List α} (hne : items ≠ [])
    (h : ∀ a ∈ items, IsPhrase tables limit (f a)) :
    IsListText items.length (commaList (items.map f)) ∧
      KeepsTo tables limit (commaList (items.map f)) := by
  rw [← List.length_map f]
  apply isListText_commaList
  · simpa using hne
  · intro part hpart
    obtain ⟨a, ha, rfl⟩ := List.mem_map.1 hpart
    exact h a ha

theorem holds_commaList_map {α : Type} {f : α → String} {items : List α} (hne : items ≠ [])
    (h : ∀ a ∈ items, IsPhrase tables limit (f a)) :
    Holds tables limit .list (commaList (items.map f)) := by
  obtain ⟨hlist, hkeeps⟩ := isListText_commaList_map hne h
  exact ⟨hkeeps, _, hlist⟩

/-! ## Predicates -/

theorem isPhrase_comparison {left right op : String} (hop : op ∈ comparisons)
    (hleft : IsPhrase tables limit left) (hright : IsPhrase tables limit right) :
    IsPhrase tables limit (left ++ " " ++ op ++ " " ++ right) := by
  have hshape : Shape.comparison op ∈ Shape.flatTerms :=
    List.mem_append_right _ (List.mem_map_of_mem hop)
  have hfill := isPhrase_flat hshape (.cons hleft (.cons hright .nil))
  simpa [Shape.comparison, String.append_assoc] using hfill

section Columns

variable {c : ColumnRef} (hc : c.IsIn tables)

include hc

theorem isPhrase_compare {op text : String} (hop : op ∈ comparisons)
    (h : IsPhrase tables limit text) : IsPhrase tables limit (Predicate.compare c op text).text :=
  isPhrase_comparison hop (isPhrase_column hc) h

theorem isPhrase_matching {op pattern : String} (hop : op ∈ comparisons)
    (h : IsPhrase tables limit pattern) :
    IsPhrase tables limit (Predicate.matching c op pattern).text :=
  isPhrase_comparison hop (isPhrase_column hc) h

theorem isPhrase_nullCheck (negated : Bool) :
    IsPhrase tables limit (Predicate.nullCheck c negated).text := by
  have hshape : Shape.nullCheck negated ∈ Shape.flatTerms := by
    cases negated <;> simp [Shape.flatTerms]
  have hcolumn : IsPhrase tables limit c.text := isPhrase_column hc
  have hfill := isPhrase_flat hshape (.cons hcolumn .nil)
  show IsPhrase tables limit (c.text ++ " IS" ++ (if negated then " NOT" else "") ++ " NULL")
  simpa [Shape.nullCheck, String.append_assoc] using hfill

theorem isPhrase_between {low high : String} (negated : Bool) (hlow : IsPhrase tables limit low)
    (hhigh : IsPhrase tables limit high) :
    IsPhrase tables limit (Predicate.between c negated low high).text := by
  have hshape : Shape.between negated ∈ Shape.flatTerms := by
    cases negated <;> simp [Shape.flatTerms]
  have hfill := isPhrase_flat hshape
    (.cons (isPhrase_column hc) (.cons hlow (.cons hhigh .nil)))
  show IsPhrase tables limit (c.text ++ " " ++ (if negated then "NOT " else "") ++ "BETWEEN " ++
    low ++ " AND " ++ high)
  simpa [Shape.between, String.append_assoc] using hfill

theorem isPhrase_inList {items : List String} (negated : Bool) (hne : items ≠ [])
    (hitems : ∀ item ∈ items, IsPhrase tables limit item) :
    IsPhrase tables (limit + 1) (Predicate.inList c negated items).text := by
  have hshape : Shape.membership negated ∈ Shape.nestingTerms := by
    cases negated <;> simp [Shape.nestingTerms]
  have hfill := isPhrase_nesting hshape
    (.cons (isPhrase_column hc) (.cons (holds_commaList hne hitems) .nil))
  show IsPhrase tables (limit + 1) (c.text ++ " " ++ (if negated then "NOT " else "") ++ "IN (" ++
    commaList items ++ ")")
  simpa [Shape.membership, String.append_assoc] using hfill

theorem isPhrase_inSubquery {inner : ColumnRef} (hinner : inner.IsIn tables) {t : Table}
    (ht : t ∈ tables) :
    IsPhrase tables (limit + 1) (Predicate.inSubquery c inner t.name).text := by
  have hshape : Shape.subquery ∈ Shape.nestingTerms := by simp [Shape.nestingTerms]
  have hcolumn : IsPhrase tables limit c.text := isPhrase_column hc
  have hfill := isPhrase_nesting hshape
    (.cons hcolumn (.cons (isPhrase_column hinner) (.cons (holds_name (isKnown_table ht)) .nil)))
  show IsPhrase tables (limit + 1) (c.text ++ " IN (SELECT " ++ inner.text ++ " FROM " ++
    quoteIdentifier t.name ++ ")")
  simpa [Shape.subquery, String.append_assoc] using hfill

end Columns

section Nesting

variable {left right : Predicate}

theorem isPhrase_both (hleft : IsPhrase tables limit left.text)
    (hright : IsPhrase tables limit right.text) :
    IsPhrase tables (limit + 1) (Predicate.both left right).text := by
  have hshape : Shape.both ∈ Shape.nestingTerms := by simp [Shape.nestingTerms]
  have hfill := isPhrase_nesting hshape (.cons hleft (.cons hright .nil))
  show IsPhrase tables (limit + 1) ("(" ++ left.text ++ " AND " ++ right.text ++ ")")
  simpa [Shape.both, String.append_assoc] using hfill

theorem isPhrase_either (hleft : IsPhrase tables limit left.text)
    (hright : IsPhrase tables limit right.text) :
    IsPhrase tables (limit + 1) (Predicate.either left right).text := by
  have hshape : Shape.either ∈ Shape.nestingTerms := by simp [Shape.nestingTerms]
  have hfill := isPhrase_nesting hshape (.cons hleft (.cons hright .nil))
  show IsPhrase tables (limit + 1) ("(" ++ left.text ++ " OR " ++ right.text ++ ")")
  simpa [Shape.either, String.append_assoc] using hfill

theorem isPhrase_negation (h : IsPhrase tables limit left.text) :
    IsPhrase tables (limit + 1) (Predicate.negation left).text := by
  have hshape : Shape.negation ∈ Shape.nestingTerms := by simp [Shape.nestingTerms]
  have hfill := isPhrase_nesting hshape (.cons h .nil)
  show IsPhrase tables (limit + 1) ("NOT (" ++ left.text ++ ")")
  simpa [Shape.negation, String.append_assoc] using hfill

theorem isPhrase_existsIn {t : Table} (ht : t ∈ tables) (h : IsPhrase tables limit left.text) :
    IsPhrase tables (limit + 1) (Predicate.existsIn t.name left).text := by
  have hshape : Shape.existence ∈ Shape.nestingTerms := by simp [Shape.nestingTerms]
  have hfill := isPhrase_nesting hshape (.cons (holds_name (isKnown_table ht)) (.cons h .nil))
  show IsPhrase tables (limit + 1) ("EXISTS (SELECT 1 FROM " ++ quoteIdentifier t.name ++
    " WHERE " ++ left.text ++ ")")
  simpa [Shape.existence, String.append_assoc] using hfill

end Nesting

/-! ## Expressions -/

/-- A function applied to a list of arguments. -/
theorem isPhrase_application {function arguments : String} (hfunction : function ∈ functions)
    (h : Holds tables limit .list arguments) :
    IsPhrase tables (limit + 1) (function ++ "(" ++ arguments ++ ")") := by
  have hshape : Shape.application function ∈ Shape.nestingTerms :=
    List.mem_append_right _ (List.mem_map_of_mem hfunction)
  have hfill := isPhrase_nesting hshape (.cons h .nil)
  simpa [Shape.application, String.append_assoc] using hfill

section Expressions

variable {e : Expression}

theorem isPhrase_binary {op text : String} (hop : op ∈ arithmetic)
    (he : IsPhrase tables limit e.text) (h : IsPhrase tables limit text) :
    IsPhrase tables (limit + 1) (Expression.binary e op text).text := by
  have hshape : Shape.binary op ∈ Shape.nestingTerms :=
    List.mem_append_left _ (List.mem_append_right _ (List.mem_map_of_mem hop))
  have hfill := isPhrase_nesting hshape (.cons he (.cons h .nil))
  show IsPhrase tables (limit + 1) ("(" ++ e.text ++ " " ++ op ++ " " ++ text ++ ")")
  simpa [Shape.binary, String.append_assoc] using hfill

theorem isPhrase_call {function : String} {others : List String}
    (hfunction : function ∈ functions) (he : IsPhrase tables limit e.text)
    (hothers : ∀ other ∈ others, IsPhrase tables limit other) :
    IsPhrase tables (limit + 1) (Expression.call function e others).text := by
  apply isPhrase_application hfunction
  apply holds_commaList (List.cons_ne_nil _ _)
  intro part hpart
  rcases List.mem_cons.1 hpart with rfl | hpart
  · exact he
  · exact hothers part hpart

theorem isPhrase_conditional {condition : Predicate} {otherwise : String}
    (hcondition : IsPhrase tables limit condition.text) (he : IsPhrase tables limit e.text)
    (hotherwise : IsPhrase tables limit otherwise) :
    IsPhrase tables limit (Expression.conditional condition e otherwise).text := by
  have hshape : Shape.conditional ∈ Shape.flatTerms := by simp [Shape.flatTerms]
  have hfill := isPhrase_flat hshape (.cons hcondition (.cons he (.cons hotherwise .nil)))
  show IsPhrase tables limit ("CASE WHEN " ++ condition.text ++ " THEN " ++ e.text ++ " ELSE " ++
    otherwise ++ " END")
  simpa [Shape.conditional, String.append_assoc] using hfill

theorem isPhrase_cast (target : ColumnType) (he : IsPhrase tables limit e.text) :
    IsPhrase tables (limit + 1) (Expression.cast e target).text := by
  have hshape : Shape.cast target ∈ Shape.nestingTerms := by
    cases target <;> simp [Shape.nestingTerms, ColumnType.all]
  have hfill := isPhrase_nesting hshape (.cons he .nil)
  show IsPhrase tables (limit + 1) ("CAST(" ++ e.text ++ " AS " ++ target.sqlName ++ ")")
  simpa [Shape.cast, String.append_assoc] using hfill

end Expressions

/-- Whole rows are counted only. -/
structure Aggregate.Sound (tables : List Table) (a : Aggregate) : Prop where
  function : a.function ∈ functions
  rows : a.column = none → a.function = "COUNT"
  column : ∀ c ∈ a.column, c.IsIn tables

theorem isPhrase_aggregate {a : Aggregate} (h : a.Sound tables) :
    IsPhrase tables (limit + 1) a.text := by
  obtain ⟨function, column⟩ := a
  cases column with
  | some c =>
    have hc : IsPhrase tables limit c.text := isPhrase_column (h.column c rfl)
    exact isPhrase_application h.function hc.list
  | none =>
    obtain rfl : function = "COUNT" := h.rows rfl
    exact isPhrase_nesting (t := Shape.wholeRows) (by simp [Shape.nestingTerms]) .nil

end Phrases

end Grammar
end QueryFuzz
