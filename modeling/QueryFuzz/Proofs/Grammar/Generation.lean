import QueryFuzz.Proofs.Grammar.Choices

/-!
# Generating statements

Where a table has a column, every expansion of the grammar ends with a query that is a sentence over
the tables. The rule that was chosen for the statement is the only one of its kind, and tells the
kind of the sentence.
-/

namespace QueryFuzz
namespace Grammar

open Sql Draw

/-- The nonterminals of the parts of a statement, but for its phrases. -/
def partNonterminals : List Nonterminal :=
  Nonterminal.all.filter fun nt => nt ≠ .statement ∧ nt ≠ .expression ∧ nt ≠ .predicate

/-- The rules that are not chosen for a whole statement, with so many levels of nesting. -/
def partRules (levels : ℕ) : List String :=
  partNonterminals.flatMap (·.rules) ++ phraseRules levels

/-- The kinds of statements that are generated by a rule. -/
def ruleKinds : String → List StatementKind
  | "stmt.select" => [.select]
  | "stmt.insert" => [.insert]
  | "stmt.update" => [.update]
  | "stmt.delete" => [.delete]
  | "stmt.ddl" => [.create, .alter]
  | _ => []

theorem rules_subset {levels : ℕ} {nt : Nonterminal} (h : nt ∈ partNonterminals) :
    nt.rules ⊆ partRules levels := by
  intro r hr
  exact List.mem_append_left _ (List.mem_flatMap.2 ⟨nt, h, hr⟩)

theorem innerRules_subset {levels : ℕ} : innerRules levels ⊆ partRules levels :=
  List.append_subset.2 ⟨List.append_subset.2
    ⟨rules_subset (by decide), rules_subset (by decide)⟩, List.subset_append_right _ _⟩

/-- A second level adds no rule. -/
theorem partRules_subset_one (levels : ℕ) : partRules levels ⊆ partRules 1 :=
  List.append_subset.2 ⟨List.subset_append_left _ _, List.Subset.trans phraseRules_subset
    (List.Subset.trans (innerRules_subset_one levels) innerRules_subset)⟩

theorem Decides.subset_partRules {levels : ℕ} {choice : Nonterminal → String}
    {added : List String} (h : Decides levels choice added) : added ⊆ partRules levels := by
  have hparts : ∀ nt ∈ clauseNonterminals, nt ∈ partNonterminals := by decide
  refine List.Subset.trans h.subset (List.append_subset.2 ⟨innerRules_subset, ?_⟩)
  intro r hr
  obtain ⟨nt, hnt, rfl⟩ := List.mem_map.1 hr
  exact rules_subset (hparts nt hnt) (h.mem_rules nt hnt)

variable {g : Setting}

/-- A query of one of the kinds is built over the tables, with rules for parts of it. -/
abbrev Builds (g : Setting) (kinds : List StatementKind) (x : Expansion Query) : Prop :=
  Expands g (partRules g.levels)
    (fun q => ∃ kind ∈ kinds, IsQueryText g.tables g.nesting kind q.text) x

theorem Finds.part {α : Type} {P : α → Prop} {x : Expansion α} (h : Finds g g.levels P x) :
    Expands g (partRules g.levels) P x :=
  Expands.widen h.inner innerRules_subset

theorem Setting.one_le_nesting (g : Setting) : 1 ≤ g.nesting :=
  le_max_left 1 g.levels

/-! ## Insertions -/

theorem signedLength_bounds {n : ℕ} (h : 1 ≤ n) :
    Width.fitsSigned 64 (Width.signedLength n) ∧ 1 ≤ Width.signedLength n ∧
      Width.signedLength n ≤ n := by
  have hvalues : Width.values 63 = 9223372036854775808 := by norm_num [Width.values]
  rw [fitsSigned_iff, Width.signedLength, hvalues]
  omega

theorem finds_row {columns : List Column} (hne : columns ≠ []) :
    Finds g g.levels (fun row => row ≠ [] ∧ ∀ value ∈ row, IsPhrase g.tables 0 value)
      (inTurn (columns.map fun c => literal g c.type)) := by
  have hliterals : ∀ program ∈ columns.map fun c => literal g c.type,
      Finds g g.levels (IsPhrase g.tables 0) program := by
    intro program hprogram
    obtain ⟨c, -, rfl⟩ := List.mem_map.1 hprogram
    exact finds_literal 0 c.type
  refine (expands_inTurn hliterals).mono fun row hrow => ⟨?_, hrow.2⟩
  rw [← List.length_pos_iff, hrow.1, List.length_map]
  exact List.length_pos_iff.2 hne

section Insertions

variable {table : Table} {columns : List Column} (htable : table ∈ g.tables) (hne : columns ≠ [])
  (hcolumns : ∀ c ∈ columns, c ∈ table.columns)

include htable hne hcolumns

theorem isQueryText_insertion {rows : InsertionRows} (hrows : rows.Sound g.tables g.nesting) :
    IsQueryText g.tables g.nesting .insert
      (Query.insert table.name (columns.map (·.name)) rows).text := by
  apply isQueryText_insert (isKnown_table htable) g.one_le_nesting _ _ hrows
  · simpa using hne
  · intro name hname
    obtain ⟨c, hc, rfl⟩ := List.mem_map.1 hname
    exact isKnown_column htable (hcolumns c hc)

theorem builds_values {n : ℕ} (hn : 1 ≤ n) :
    Builds g [.insert] (do
      return .insert table.name (columns.map (·.name))
        (.values (← repeated (inTurn (columns.map fun c => literal g c.type)) n))) := by
  refine (expands_repeated (finds_row hne).part n).bind fun rows hrows => expands_pure ?_
  refine ⟨.insert, by decide, isQueryText_insertion htable hne hcolumns ?_⟩
  refine .values ?_ (fun row hmem => (hrows.2 row hmem).1) fun row hmem => (hrows.2 row hmem).2
  rw [← List.length_pos_iff, hrows.1]
  exact hn

end Insertions

variable (hg : Scope.Usable g g.tables)

include hg

/-- The columns of an insertion are a slice of those of the table, of at least one. -/
theorem builds_insertion : Builds g [.insert] (insertion g) := by
  refine (expands_pick _ hg.ne_nil).bind fun table htable => ?_
  have hwidth := List.length_pos_iff.2 (hg.columns table htable)
  obtain ⟨hfits, hpos, hlength⟩ := signedLength_bounds hwidth
  refine (expands_count hfits hpos).bind fun count hcount => ?_
  refine (expands_lift (Sampling.yields_index _ _)).bind fun offset hoffset => ?_
  refine (expands_slice (by omega)).bind fun columns hslice => ?_
  have hne : columns ≠ [] := by
    rw [hslice, ← List.length_pos_iff, List.length_take, List.length_drop]
    omega
  have hcolumns : ∀ c ∈ columns, c ∈ table.columns := by
    rw [hslice]
    exact fun c hc => List.mem_of_mem_drop (List.mem_of_mem_take hc)
  refine (expands_expand (rules_subset (by decide))).bind fun rule _ => ?_
  split
  · refine (finds_condition hg (hg.single htable)).part.bind fun p hp => expands_pure ?_
    exact ⟨.insert, by decide, isQueryText_insertion htable hne hcolumns (.copy hp)⟩
  · refine (expands_lift (Sampling.yields_between _ (by decide) (by decide) (by decide))).bind ?_
    intro n hn
    exact builds_values htable hne hcolumns (by omega)
  · exact builds_values htable hne hcolumns le_rfl

/-! ## Other changes -/

theorem expands_condition? {nt : Nonterminal} (hnt : nt ∈ partNonterminals) (rule : String)
    {scope : Scope} (h : Scope.Usable g scope) :
    Expands g (partRules g.levels)
      (fun condition => ∀ p ∈ condition, IsPhrase g.tables g.nesting p.text)
      (condition? g nt rule scope) := by
  refine (traces_condition? hg nt rule h).mono ?_
  rintro condition added ⟨chosen, hchosen, rest, rfl, hrest, -, hcondition⟩
  refine ⟨List.cons_subset.2 ⟨rules_subset hnt hchosen, ?_⟩, hcondition⟩
  exact List.Subset.trans hrest (List.Subset.trans phraseRules_subset innerRules_subset)

theorem builds_update : Builds g [.update] (update g) := by
  refine (expands_pick _ hg.ne_nil).bind fun table htable => ?_
  refine (expands_pick _ (hg.columns table htable)).bind fun column hcolumn => ?_
  refine (expands_draw _).bind fun computed _ => ?_
  have htable' := hg.single htable
  have hrest : ∀ value, IsPhrase g.tables g.nesting value → Builds g [.update] (do
      return .update table.name column.name value
        (← condition? g .update "update.where" [table])) := by
    intro value hvalue
    refine (expands_condition? hg (by decide) _ htable').bind fun condition hcondition => ?_
    exact expands_pure ⟨.update, by decide, isQueryText_update (isKnown_table htable)
      (isKnown_column htable hcolumn) hvalue hcondition⟩
  split
  · refine Expands.bind (P := IsPhrase g.tables g.nesting) (Expands.map ?_) hrest
    exact (finds_value hg htable').part
  · exact (finds_literal g.nesting column.type).part.bind hrest

theorem builds_deletion : Builds g [.delete] (deletion g) := by
  refine (expands_pick _ hg.ne_nil).bind fun table htable => ?_
  have htable' := hg.single htable
  refine (expands_condition? hg (by decide) _ htable').bind fun condition hcondition => ?_
  exact expands_pure
    ⟨.delete, by decide, isQueryText_delete (isKnown_table htable) hcondition⟩

theorem builds_definition : Builds g [.create, .alter] (definition g) := by
  refine (expands_lift (Sampling.yields_between _ (by decide) (by decide) (by decide))).bind ?_
  rintro suffix ⟨hsuffix, -⟩
  refine (expands_pick _ hg.ne_nil).bind fun table htable => ?_
  have htable' := hg.single htable
  have hknown := isKnown_table htable
  have hcondition := (finds_condition hg htable').part
  refine (expands_expand (rules_subset (by decide))).bind fun rule _ => ?_
  split
  · refine hcondition.bind fun p hp => expands_pure ?_
    exact ⟨.create, by decide, isQueryText_createTableAs hsuffix hknown hp⟩
  · refine (expands_anyColumn htable').bind fun c hc => (expands_draw _).bind fun unique _ => ?_
    exact expands_pure
      ⟨.create, by decide, isQueryText_createIndex hsuffix hknown unique g.one_le_nesting hc⟩
  · refine (expands_anyColumn htable').bind fun c hc => hcondition.bind fun p hp =>
      expands_pure ?_
    exact ⟨.create, by decide, isQueryText_createView hsuffix hknown hc hp⟩
  · refine expands_anyType.bind fun type _ => (expands_draw _).bind fun default _ => ?_
    exact expands_pure
      ⟨.alter, by decide, isQueryText_addColumn hsuffix hknown type default⟩
  · exact expands_pure ⟨.create, by decide, isQueryText_createTable hsuffix g.one_le_nesting
      (hg.columns table htable) fun c hc => isKnown_column htable hc⟩

/-! ## Queries -/

/-- What a query is like, given the rule of its statement and the other rules. -/
structure Query.Follows (g : Setting) (rule : String) (q : Query) (rest : List String) : Prop where
  subset : rest ⊆ partRules g.levels
  sentence : ∃ kind ∈ ruleKinds rule, IsSentenceText kind q.text
  keeps : KeepsTo g.tables g.nesting q.text
  selection : rule = "stmt.select" → ∃ s choice scope width, q = .select s ∧
    Decides g.levels choice rest ∧ s.Follows g choice scope width

/-- Every query that can be generated is a sentence. -/
theorem traces_query : Traces g (Chosen .statement (Query.Follows g)) (query g) := by
  have hother : ∀ {rule kinds x}, rule ≠ "stmt.select" → ruleKinds rule = kinds →
      Builds g kinds x → Traces g (Query.Follows g rule) x := by
    rintro rule kinds x hrule rfl hx
    apply Traces.mono hx
    rintro q rest ⟨hrest, kind, hkind, htext⟩
    exact ⟨hrest, ⟨kind, hkind, htext.sentence⟩, htext.toKeepsTo, fun h => absurd h hrule⟩
  apply traces_chosen
  intro rule hrule
  have hrules : rule = "stmt.select" ∨ rule = "stmt.insert" ∨ rule = "stmt.update" ∨
      rule = "stmt.delete" ∨ rule = "stmt.ddl" := by
    simpa [Nonterminal.rules, Nonterminal.alternatives] using hrule
  rcases hrules with rfl | rfl | rfl | rfl | rfl
  · refine (traces_selection hg).bind fun s added hs => traces_pure ?_
    obtain ⟨choice, scope, width, hdecides, hfollows⟩ := hs
    rw [List.append_nil]
    have htext := isQueryText_select hfollows.sound
    exact ⟨hdecides.subset_partRules, ⟨.select, by decide, htext.sentence⟩, htext.toKeepsTo,
      fun _ => ⟨s, choice, scope, width, rfl, hdecides, hfollows⟩⟩
  · exact hother (by decide) rfl (builds_insertion hg)
  · exact hother (by decide) rfl (builds_update hg)
  · exact hother (by decide) rfl (builds_deletion hg)
  · exact hother (by decide) rfl (builds_definition hg)

end Grammar
end QueryFuzz
