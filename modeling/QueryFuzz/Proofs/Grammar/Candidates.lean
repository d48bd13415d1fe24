import QueryFuzz.Proofs.Grammar.Generation

/-!
# Generated candidates

Generating fails only where there is nothing to query. Otherwise the candidate is one statement,
and the rules that it exercises tell of which kind. It names nothing but what the tables have, and
it nests no deeper than it may.
-/

namespace QueryFuzz
namespace Grammar

open Sql Draw

theorem usable_usableTables {config : Config} {schema : Schema} {frontier : NameSet}
    (h : schema.usableTables ≠ []) :
    Scope.Usable ⟨config, schema.usableTables, frontier⟩ schema.usableTables := by
  refine ⟨h, fun t ht => ?_, fun t ht => ht⟩
  simpa [Schema.usableTables] using (List.mem_filter.1 ht).2

theorem usableTables_eq_nil_iff {schema : Schema} :
    schema.usableTables = [] ↔ ∀ t ∈ schema.tables, t.columns = [] := by
  simp [Schema.usableTables, List.filter_eq_nil_iff]

/-- The candidate takes over the query and the rules that the expansion ends with. -/
theorem generate_eq {config : Config} (database : ℕ) {schema : Schema} {frontier : NameSet}
    {source : Source} {q : Query} {rules : NameSet} (h : schema.usableTables ≠ [])
    (hrun : (((query ⟨config, schema.usableTables, frontier⟩).run .empty).run.run
      source.words).value = some (q, rules)) :
    ∃ c rest, generate config database schema frontier source = (.ok c, rest) ∧ c.sql = q.text ∧
      c.rules = rules := by
  have hempty : schema.usableTables.isEmpty = false := by simpa using h
  unfold generate
  rw [hempty, if_neg Bool.false_ne_true]
  dsimp only
  unfold Source.sample
  dsimp only
  rw [hrun]
  exact ⟨_, _, rfl, rfl, rfl⟩

/-- Where a table has a column, generating succeeds. The query and the rules of the candidate are
what the expansion of the grammar makes of them. -/
theorem exists_candidate (config : Config) (database : ℕ) {schema : Schema} (frontier : NameSet)
    (source : Source) (h : schema.usableTables ≠ []) :
    ∃ c rest q, ∃ rule ∈ Nonterminal.statement.rules, ∃ parts,
      generate config database schema frontier source = (.ok c, rest) ∧ c.sql = q.text ∧
        (∀ r, r ∈ c.rules ↔ r ∈ rule :: parts) ∧
        Query.Follows ⟨config, schema.usableTables, frontier⟩ rule q parts := by
  have hg : Scope.Usable ⟨config, schema.usableTables, frontier⟩ schema.usableTables :=
    usable_usableTables h
  obtain ⟨nts, q, added, keys, hrun, rule, hrule, parts, rfl, hfollows⟩ :=
    traces_query hg .empty source.words
  obtain ⟨c, rest, hgenerate, hsql, hrules⟩ := generate_eq database h hrun.run_eq.1
  refine ⟨c, rest, q, rule, hrule, parts, hgenerate, hsql, fun r => ?_, hfollows⟩
  rw [hrules]
  simp

/-- A statement has one rule that was chosen for it. -/
theorem mem_statement_rules {levels : ℕ} {rule : String} {parts : List String}
    (hparts : parts ⊆ partRules levels) :
    ∀ r ∈ Nonterminal.statement.rules, r ∈ rule :: parts ↔ r = rule := by
  have hall : ∀ r ∈ Nonterminal.statement.rules, r ∉ partRules 1 := by decide +kernel
  intro r hr
  have hnone : r ∉ parts := fun hmem => hall r hr (partRules_subset_one levels (hparts hmem))
  simp [hnone]

/-- Generating is total: either no table has a column, and that is the failure, or the candidate
is one statement. Its kind is one of those that the rule chosen for the statement generates, and
no other such rule was used. In particular nothing is looked up outside of a list. -/
theorem generate_total (config : Config) (database : ℕ) (schema : Schema) (frontier : NameSet)
    (source : Source) :
    (∀ t ∈ schema.tables, t.columns = []) ∧
        (generate config database schema frontier source).1 = .error (.noUsableTable database) ∨
      (∃ t ∈ schema.tables, t.columns ≠ []) ∧
        ∃ c rule s, (generate config database schema frontier source).1 = .ok c ∧
          rule ∈ Nonterminal.statement.rules ∧
          (∀ r ∈ Nonterminal.statement.rules, r ∈ c.rules ↔ r = rule) ∧
          parseScript c.sql = .ok [s] ∧ s.kind ∈ ruleKinds rule := by
  by_cases hnone : ∀ t ∈ schema.tables, t.columns = []
  · refine .inl ⟨hnone, ?_⟩
    unfold generate
    rw [usableTables_eq_nil_iff.2 hnone]
    rfl
  · refine .inr ⟨by simpa using hnone, ?_⟩
    obtain ⟨c, rest, q, rule, hrule, parts, hgenerate, hsql, hrules, hfollows⟩ :=
      exists_candidate config database frontier source (mt usableTables_eq_nil_iff.1 hnone)
    obtain ⟨kind, hkind, hsentence⟩ := hfollows.sentence
    obtain ⟨s, hparse, rfl⟩ := hsentence.exists_statement
    refine ⟨c, rule, s, by rw [hgenerate], hrule, ?_, by rw [hsql, hparse], hkind⟩
    intro r hr
    rw [hrules]
    exact mem_statement_rules hfollows.subset r hr

/-! ## Names -/

/-- The names in a candidate are those of the usable tables and of their columns, those of the
functions and the types, and those that are made up for new things. In front of a point stands such
a table, and behind it one of its columns. -/
theorem generate_keeps_names (config : Config) (database : ℕ) {schema : Schema}
    (frontier : NameSet) (source : Source) (h : schema.usableTables ≠ []) :
    ∃ c rest ts, generate config database schema frontier source = (.ok c, rest) ∧
      significantTokens c.sql = .ok ts ∧
      (∀ t ∈ ts, isNameToken t → IsKnown schema.usableTables (unquote t.text)) ∧
      ∀ t point name, [t, point, name] <:+: ts → point.kind = .dot →
        ∃ table ∈ schema.usableTables, ∃ column ∈ table.columns,
          unquote t.text = table.name ∧ unquote name.text = column.name := by
  obtain ⟨c, rest, q, rule, -, parts, hgenerate, hsql, -, hfollows⟩ :=
    exists_candidate config database frontier source h
  obtain ⟨kind, -, ts, hspells, -⟩ := hfollows.sentence
  have hgrounded : Grounded schema.usableTables ts := by
    rw [← textTokens_eq hspells]
    exact hfollows.keeps.grounded
  refine ⟨c, rest, ts, hgenerate, ?_, hgrounded.isKnown, ?_⟩
  · rw [hsql, hspells.significantTokens]
  · intro t point name hstands hpoint
    obtain ⟨table, htable, column, hcolumn, rfl, rfl⟩ := hgrounded.exists_column hpoint hstands
    exact ⟨table, htable, column, hcolumn, unquote_quoteIdentifier _, unquote_quoteIdentifier _⟩

theorem generate_keeps_names_storefront :
    Schema.storefront.usableTables ≠ [] ∧
    ∃ c rest ts, generate .standard 0 .storefront .empty (.ofSeed 7 0) = (.ok c, rest) ∧
      significantTokens c.sql = .ok ts ∧
      (∀ t ∈ ts, isNameToken t → IsKnown Schema.storefront.usableTables (unquote t.text)) ∧
      ∀ t point name, [t, point, name] <:+: ts → point.kind = .dot →
        ∃ table ∈ Schema.storefront.usableTables, ∃ column ∈ table.columns,
          unquote t.text = table.name ∧ unquote name.text = column.name := by
  have husable : Schema.storefront.usableTables ≠ [] := by decide
  exact ⟨husable, generate_keeps_names .standard 0 .empty (.ofSeed 7 0) husable⟩

/-! ## Nesting -/

/-- Generating ends with a statement, and no token of it stands behind more open parentheses than
there are levels of nesting, or one. With no level left, nothing is used of expressions and of
predicates but the alternatives that do not nest, which come first. -/
theorem generate_bounds_depth (config : Config) (database : ℕ) {schema : Schema}
    (frontier : NameSet) (source : Source) (h : schema.usableTables ≠ []) :
    ∃ c rest s, generate config database schema frontier source = (.ok c, rest) ∧
      parseScript c.sql = .ok [s] ∧
      (∀ d ∈ s.depths, (d : ℤ) ≤ max 1 ((config.maxDepth : ℤ) - 1)) ∧
      (config.maxDepth ≤ 1 → ∀ r ∈ c.rules,
        r ∉ Nonterminal.expression.rules.tail ∧ r ∉ Nonterminal.predicate.rules.tail) := by
  obtain ⟨c, rest, q, rule, hrule, parts, hgenerate, hsql, hrules, hfollows⟩ :=
    exists_candidate config database frontier source h
  obtain ⟨kind, -, ts, hspells, hsentence⟩ := hfollows.sentence
  obtain ⟨s, rfl, -⟩ := hsentence.exists_statement
  refine ⟨c, rest, s, hgenerate, ?_, ?_, ?_⟩
  · rw [hsql, hsentence.script_eq hspells]
  · intro d hd
    have hshallow := hfollows.keeps.shallow
    rw [textTokens_eq hspells] at hshallow
    have hle : d ≤ max 1 (config.maxDepth - 1) := hshallow d hd
    omega
  · intro hdepth r hr
    have hlevels : config.maxDepth - 1 = 0 := by omega
    have hnone : ∀ r ∈ Nonterminal.statement.rules ++ partRules 0,
        r ∉ Nonterminal.expression.rules.tail ∧ r ∉ Nonterminal.predicate.rules.tail := by
      decide +kernel
    have hparts : parts ⊆ partRules 0 := hlevels ▸ hfollows.subset
    apply hnone
    rcases List.mem_cons.1 ((hrules r).1 hr) with rfl | hmem
    · exact List.mem_append_left _ hrule
    · exact List.mem_append_right _ (hparts hmem)

theorem generate_bounds_depth_storefront :
    let config : Config := ⟨1, 0.3, true⟩
    Schema.storefront.usableTables ≠ [] ∧ config.maxDepth ≤ 1 ∧
    ∃ c rest s, generate config 0 .storefront .empty (.ofSeed 7 0) = (.ok c, rest) ∧
      parseScript c.sql = .ok [s] ∧ (∀ d ∈ s.depths, (d : ℤ) ≤ 1) ∧
      ∀ r ∈ c.rules,
        r ∉ Nonterminal.expression.rules.tail ∧ r ∉ Nonterminal.predicate.rules.tail := by
  intro config
  have husable : Schema.storefront.usableTables ≠ [] := by decide
  obtain ⟨c, rest, s, hgenerate, hparse, hdepths, hrules⟩ :=
    generate_bounds_depth config 0 .empty (.ofSeed 7 0) husable
  exact ⟨husable, le_rfl, c, rest, s, hgenerate, hparse, hdepths, hrules le_rfl⟩

/-! ## Selections -/

/-- Where the bias leaves only selections fresh, the query is one. -/
theorem exists_run_of_fresh {g : Setting} (hg : Scope.Usable g g.tables)
    (hfresh : freshAlternatives g .empty .statement = [0]) (keys : KeyStream) :
    ∃ nts q rules rest, Runs g (query g) (.empty, keys) nts q (rules, rest) ∧
      "stmt.select" ∈ rules := by
  obtain ⟨rule, hvalue, -, hchosen⟩ := exists_choice g .statement .empty keys
  obtain ⟨i, hi, hrule⟩ := hchosen (by simp [hfresh])
  obtain rfl : i = 0 := by simpa [hfresh] using hi
  obtain rfl : rule = "stmt.select" := by
    simpa [Nonterminal.rules, Nonterminal.alternatives] using hrule.symm
  have hselection : Traces g (fun _ _ => True) (do return Query.select (← selection g)) :=
    (traces_selection hg).bind fun s added _ => traces_pure trivial
  obtain ⟨nts, q, added, rest, hrun, -⟩ := hselection (NameSet.empty.insert "stmt.select")
    (((expand g .statement).run .empty).run.run keys).rest
  exact ⟨_, q, _, rest, .seq (.choose hvalue) hrun, by simp⟩

/-- Where the bias leaves only selections fresh, the candidate is one. -/
theorem exists_selection_of_fresh {config : Config} (database : ℕ) {schema : Schema}
    {frontier : NameSet} (source : Source) (h : schema.usableTables ≠ [])
    (hfresh : freshAlternatives ⟨config, schema.usableTables, frontier⟩ .empty .statement = [0]) :
    ∃ c rest, generate config database schema frontier source = (.ok c, rest) ∧
      "stmt.select" ∈ c.rules := by
  obtain ⟨nts, q, rules, keys, hrun, hmem⟩ :=
    exists_run_of_fresh (usable_usableTables h) hfresh source.words
  obtain ⟨c, rest, hgenerate, -, rfl⟩ := generate_eq database h hrun.run_eq.1
  exact ⟨c, rest, hgenerate, hmem⟩

end Grammar
end QueryFuzz
