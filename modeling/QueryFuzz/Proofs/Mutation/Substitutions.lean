import QueryFuzz.Proofs.Mutation.Exchanges
import QueryFuzz.Proofs.Sql.Names

/-!
# Exchanging columns

A name of a statement is taken for a column if a referenced table has a column of this name,
whatever clause it stands in. It is exchanged for another column of the table that it belongs to, of
the same type if there is one. The name of a table is exchanged as well, directly behind `FROM`
even, where one of the referenced tables has a column of that name.
-/

namespace QueryFuzz
namespace Mutation

open Sql Draw

/-! ## Other columns of a table -/

/-- The declared type of the column that is found under a name. -/
def columnType? (table : Table) (name : String) : Option ColumnType :=
  (table.column? name).map (·.type)

/-- A column of the table by another name than the current one. -/
structure IsOther (table : Table) (current name : String) : Prop where
  mem : name ∈ table.columns.map (·.name)
  differs : sameWord name current = false

/-- What is offered instead of a column is another one, of the same type if there is such a one. -/
theorem isOther_of_mem_exchangeable {table : Table} {current name : String}
    (h : name ∈ exchangeable table current) :
    IsOther table current name ∧
      ((∃ other, IsOther table current other ∧
        columnType? table other = columnType? table current) →
          columnType? table name = columnType? table current) := by
  have hothers : ∀ other, other ∈ (table.columns.map (·.name)).filter
      (fun name => !sameWord name current) ↔ IsOther table current other := by
    intro other
    rw [List.mem_filter, Bool.not_eq_true']
    exact ⟨fun hmem => ⟨hmem.1, hmem.2⟩, fun hother => ⟨hother.mem, hother.differs⟩⟩
  unfold exchangeable at h
  dsimp only at h
  split_ifs at h with hnone
  · refine ⟨(hothers name).1 h, ?_⟩
    rintro ⟨other, hother, htype⟩
    have hmem := (hothers other).2 hother
    have hall := List.filter_eq_nil_iff.1 (List.isEmpty_iff.1 hnone) other hmem
    exact absurd (beq_iff_eq.2 htype) hall
  · obtain ⟨hmem, htype⟩ := List.mem_filter.1 h
    exact ⟨(hothers name).1 hmem, fun _ => beq_iff_eq.1 htype⟩

/-! ## The exchange -/

/-- The name at a position belongs to a column of the table, and another column of that table has
come in its place. -/
structure ExchangesColumn (schema : Schema) (ts us : List Token) (i : ℕ) (t : Token)
    (table : Table) (name : String) : Prop where
  mention : ∃ qualified, ⟨i, table, qualified⟩ ∈ columnMentions schema ts
  before : ts[i]? = some t
  after : us = ts.set i (nameToken name)
  changed : nameToken name ≠ t
  owner : ownerOf? (referencedTables schema ts) (qualifierAt? ts i) (unquote t.text) = some table
  column : hasColumn (unquote t.text) table
  other : IsOther table (unquote t.text) name
  type : (∃ other, IsOther table (unquote t.text) other ∧
    columnType? table other = columnType? table (unquote t.text)) →
      columnType? table name = columnType? table (unquote t.text)

theorem gives_exchanged (m : Material) (s : Statement) :
    Gives (fun ts => ∃ i t table name, ExchangesColumn m.schema s.tokens ts i t table name)
      (substituteIdentifier m s) := by
  apply (gives_chooseSite _ _).bind
  intro mention hmention
  obtain ⟨t, ht, -, -, howner, hcolumn, -, hqualified⟩ := mem_columnMentions_iff.1 hmention
  have hcurrent : s.tokens.getD mention.position ⟨.whitespace, ""⟩ = t := by
    rw [List.getD_eq_getElem?_getD, ht, Option.getD_some]
  dsimp only
  rw [hcurrent]
  apply (gives_chooseSite _ _).bind
  intro name hname
  obtain ⟨hother, htype⟩ := isOther_of_mem_exchangeable hname
  apply (gives_lexed_spelled (spells_quoteIdentifier name)).bind
  rintro _ rfl
  apply gives_pure
  refine ⟨mention.position, t, mention.table, name, ⟨_, hmention⟩, ht, ?_, ?_, howner, hcolumn,
    hother, htype⟩
  · exact spanAt_replace (List.getElem?_eq_some_iff.1 ht).1 _
  · rintro rfl
    have hsame := hother.differs
    rw [show unquote (nameToken name).text = name from unquote_quoteIdentifier name] at hsame
    rw [sameWord, beq_self_eq_true] at hsame
    cases hsame

/-! ## Behind the words that tables follow -/

/-- The words that the name of a table follows. -/
def tableWords : List String :=
  ["FROM", "JOIN", "INTO", "UPDATE"]

/-- Does the token at a position stand directly behind such a word? -/
def isBehindTableWord (ts : List Token) (i : ℕ) : Bool :=
  decide (0 < i) && ts[i - 1]?.any (·.isAnyOf tableWords)

/-- There is no point in front of what follows such a word. -/
theorem qualifierAt?_of_isBehindTableWord {ts : List Token} {i : ℕ}
    (h : isBehindTableWord ts i) : qualifierAt? ts i = none := by
  obtain ⟨-, hword⟩ := Bool.and_eq_true_iff.1 h
  obtain ⟨w, hw, hword⟩ := (Option.any_eq_true _ _).1 hword
  have hkind : w.kind = .keyword := kind_of_isAnyOf hword
  rw [qualifierAt?, if_neg]
  rw [hw, Option.any_some, hkind]
  simp

/-- Whatever is drawn, exactly one token is exchanged. It is a name, belongs to a column of the
table that it resolves to, and comes to be another column of that table, of the same type if there
is one. The names directly behind the words that tables follow stay what they are just where none of
them is a column, too, of a referenced table with several columns. -/
theorem exchanges_one_column (m : Material) (s : Statement) :
    let tables := referencedTables m.schema s.tokens
    (∀ keys ts, ((Operator.identifierSubstitution.transform m s).run keys).value = some ts →
      ∃ i t table name, ExchangesColumn m.schema s.tokens ts i t table name) ∧
    ((∀ mention ∈ columnMentions m.schema s.tokens,
        isBehindTableWord s.tokens mention.position = false) ↔
      ∀ i t, s.tokens[i]? = some t → isBehindTableWord s.tokens i → isName t →
        isOperatorName s.tokens i = false →
          ∀ table ∈ tables.find? (hasColumn (unquote t.text)), table.columns.length ≤ 1) := by
  intro tables
  constructor
  · intro keys ts hts
    have hflip : Operator.identifierSubstitution ≠ .quoteFlip := by decide
    have hyields := yields_transform_of_gives hflip (gives_exchanged m s)
    exact (hyields.run keys ts hts).1
  · constructor
    · intro hnone i t ht hbehind hname hplain table htable
      by_contra hseveral
      have hmention : (⟨i, table, false⟩ : Mention) ∈ columnMentions m.schema s.tokens := by
        have hqualifier := qualifierAt?_of_isBehindTableWord hbehind
        refine mem_columnMentions_iff.2 ⟨t, ht, hname, hplain, ?_, ?_, ?_, ?_⟩
        · rw [hqualifier]
          exact htable
        · exact List.find?_some htable
        · exact Nat.lt_of_not_le hseveral
        · rw [hqualifier]
          rfl
      have hfree := hnone _ hmention
      rw [hbehind] at hfree
      cases hfree
    · intro hnone mention hmention
      obtain ⟨t, ht, hname, hplain, howner, -, hseveral, -⟩ := mem_columnMentions_iff.1 hmention
      apply Bool.eq_false_of_not_eq_true
      intro hbehind
      rw [qualifierAt?_of_isBehindTableWord hbehind] at howner
      have hfew := hnone _ t ht hbehind hname hplain _ howner
      omega

/-- The table has a column of its own name, and the table behind `FROM` is exchanged for another
column. -/
theorem exchanges_table :
    let m : Material := ⟨⟨[⟨"t", [⟨"a", .integer⟩, ⟨"t", .integer⟩]⟩]⟩, [], 0.3⟩
    let s : Statement := ⟨.select, [⟨.keyword, "SELECT"⟩, ⟨.integer, "1"⟩, ⟨.keyword, "FROM"⟩,
      ⟨.identifier, "t"⟩], by decide +kernel, by decide +kernel⟩
    Statement.parse "SELECT 1 FROM t" = .ok s ∧ isBehindTableWord s.tokens 3 ∧
      ((Operator.identifierSubstitution.transform m s).run (.ofSeed 0 0)).value =
        some (s.tokens.set 3 ⟨.identifier, "a"⟩) := by
  intro m s
  exact ⟨by decide +kernel, by decide +kernel, by decide +kernel⟩

end Mutation
end QueryFuzz
