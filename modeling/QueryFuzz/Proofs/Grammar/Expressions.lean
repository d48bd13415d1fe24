import QueryFuzz.Proofs.Grammar.Phrases
import QueryFuzz.Proofs.Grammar.Traces

/-!
# Generating phrases

Over tables that have columns, literals, predicates, expressions and aggregates are always found.
Their texts are terms over the tables and nest no deeper than there are levels, and the rules that
they add are those of expressions, predicates and literals. With no level left only those add that
do not nest.
-/

namespace QueryFuzz
namespace Grammar

open Sql Draw

/-- The rules that phrases inside of a statement can add, with so many levels of nesting left. -/
def phraseRules (levels : ℕ) : List String :=
  (if levels = 0 then ["expr.column", "pred.compare"]
    else Nonterminal.expression.rules ++ Nonterminal.predicate.rules) ++ literalRules

theorem phraseRules_mono {levels levels' : ℕ} (hle : levels ≤ levels') :
    phraseRules levels ⊆ phraseRules levels' := by
  have hfew : phraseRules 0 ⊆ phraseRules 1 := by decide +kernel
  cases levels' with
  | zero =>
    obtain rfl := Nat.le_zero.1 hle
    exact List.Subset.refl _
  | succ n =>
    cases levels with
    | zero => exact hfew
    | succ m => exact List.Subset.refl _

/-- The phrase is found, whatever is drawn, with no rules but those of phrases. -/
abbrev Finds (g : Setting) (levels : ℕ) {α : Type} (P : α → Prop) (x : Expansion α) : Prop :=
  Expands g (phraseRules levels) P x

theorem Finds.rise {g : Setting} {levels levels' : ℕ} {α : Type} {P : α → Prop} {x : Expansion α}
    (h : Finds g levels P x) (hle : levels ≤ levels') : Finds g levels' P x :=
  Expands.widen h (phraseRules_mono hle)

variable {g : Setting} {levels limit : ℕ}

/-! ## Columns -/

/-- There is a table, and every table is one of the setting and has a column. -/
structure Scope.Usable (g : Setting) (scope : Scope) : Prop where
  ne_nil : scope ≠ []
  columns : ∀ t ∈ scope, t.columns ≠ []
  subset : ∀ t ∈ scope, t ∈ g.tables

section Columns

variable {allowed : List String} {scope : Scope}

theorem Scope.Usable.single (h : Scope.Usable g scope) {t : Table} (ht : t ∈ scope) :
    Scope.Usable g [t] :=
  ⟨by simp, by simpa using h.columns t ht, by simpa using h.subset t ht⟩

theorem ColumnRef.IsIn.mono {tables tables' : List Table} {c : ColumnRef} (h : c.IsIn tables)
    (hsub : ∀ t ∈ tables, t ∈ tables') : c.IsIn tables' := by
  obtain ⟨t, ht, hcolumn⟩ := h
  exact ⟨t, hsub t ht, hcolumn⟩

theorem isIn_columnRef {t : Table} (ht : t ∈ scope) {c : Column} (hc : c ∈ t.columns) :
    (columnRef scope t c).IsIn scope := by
  refine ⟨t, ht, c, hc, rfl, ?_⟩
  intro name hname
  by_cases hseveral : 1 < scope.length
  · simpa [columnRef, hseveral] using hname.symm
  · simp [columnRef, hseveral] at hname

theorem expands_columnIn (h : Scope.Usable g scope) :
    Expands g allowed (fun c => c.1.IsIn scope) (anyColumn scope) := by
  refine (expands_pick _ h.ne_nil).bind fun table htable => ?_
  refine (expands_pick _ (h.columns table htable)).bind fun column hcolumn => ?_
  exact expands_pure (isIn_columnRef htable hcolumn)

theorem expands_anyColumn (h : Scope.Usable g scope) :
    Expands g allowed (fun c => c.1.IsIn g.tables) (anyColumn scope) :=
  (expands_columnIn h).mono fun _ hc => hc.mono h.subset

theorem isIn_of_mem_columnsWhere {p : ColumnType → Bool} {c : ColumnRef × ColumnType}
    (h : c ∈ columnsWhere scope p) : c.1.IsIn scope := by
  obtain ⟨t, ht, hmem⟩ := List.mem_flatMap.1 h
  obtain ⟨column, hcolumn, rfl⟩ := List.mem_map.1 hmem
  exact isIn_columnRef ht (List.mem_filter.1 hcolumn).1

theorem expands_columnWhere? (scope : Scope) (p : ColumnType → Bool) :
    Expands g allowed (fun found => ∀ c ∈ found, c.1.IsIn scope) (columnWhere? scope p) := by
  apply expands_lift
  apply (Sampling.yields_choose _ _).mono
  rintro found (⟨c, hc, rfl⟩ | ⟨-, rfl⟩)
  · simpa using isIn_of_mem_columnsWhere hc
  · simp

theorem expands_anyType : Expands g allowed (fun _ => True) anyType :=
  (expands_pick _ (by decide)).mono fun _ _ => trivial

end Columns

/-! ## Literals -/

theorem mem_phraseRules {rule : String} (h : rule ∈ phraseRules 0) : rule ∈ phraseRules levels :=
  phraseRules_mono (Nat.zero_le levels) h

theorem mem_forcedRules {rule : String} (h : rule ∈ phraseRules 0) : rule ∈ g.forcedRules := by
  have hrule : rule = "expr.column" ∨ rule = "pred.compare" ∨ rule ∈ literalRules := by
    simpa [phraseRules] using h
  rcases hrule with rfl | rfl | hliteral
  · simp [Setting.forcedRules]
  · simp [Setting.forcedRules]
  · simp [Setting.forcedRules, hliteral]

/-- A rule of a phrase that does not nest is used without a choice. -/
theorem finds_useRule {rule : String} (h : rule ∈ phraseRules 0) :
    Finds g levels (fun _ => True) (useRule rule) :=
  expands_useRule (mem_forcedRules h) (mem_phraseRules h)

theorem finds_literal (limit : ℕ) (type : ColumnType) :
    Finds g levels (IsPhrase g.tables limit) (literal g type) := by
  have hboundary : Finds g levels (IsPhrase g.tables limit) (liftM (boundaryLiteral type)) :=
    expands_lift ((yields_boundaryLiteral type).mono fun _ => isPhrase_of_literal)
  have hordinary : Finds g levels (IsPhrase g.tables limit) (liftM (ordinaryLiteral type)) :=
    expands_lift ((yields_ordinaryLiteral type).mono fun _ => isPhrase_of_literal)
  refine (expands_draw _).bind fun boundary _ => ?_
  split_ifs
  · exact (finds_useRule (by decide)).bind fun _ _ => hboundary
  · exact (finds_useRule (by decide)).bind fun _ _ => hordinary

/-! ## Predicates -/

section Predicates

variable {scope : Scope} (h : Scope.Usable g scope)

include h

theorem finds_comparisonPredicate :
    Finds g levels (fun p => IsPhrase g.tables limit p.text) (comparisonPredicate g scope) := by
  refine (expands_anyColumn h).bind fun ⟨c, type⟩ hc => ?_
  have hword : ∀ w ∈ "=" :: ["=", "<>", "!=", "<", "<=", ">", ">=", "IS", "IS NOT"],
      w ∈ comparisons := by
    decide
  refine (expands_word hword).bind fun op hop => (expands_draw _).bind fun columns _ => ?_
  split_ifs
  · refine (expands_columnWhere? scope _).bind ?_
    rintro (_ | ⟨other, _⟩) hfound
    · exact (finds_literal limit type).bind fun text htext =>
        expands_pure (isPhrase_compare hc hop htext)
    · have hother : other.IsIn g.tables := (hfound _ rfl).mono h.subset
      exact expands_pure (isPhrase_compare hc hop (isPhrase_column hother))
  · exact (finds_literal limit type).bind fun text htext =>
      expands_pure (isPhrase_compare hc hop htext)

theorem finds_inListPredicate :
    Finds g levels (fun p => IsPhrase g.tables (limit + 1) p.text) (inListPredicate g scope) := by
  refine (expands_anyColumn h).bind fun ⟨c, type⟩ hc => ?_
  refine (expands_count (by decide) (by decide)).bind fun count hcount => ?_
  refine (expands_repeated (finds_literal limit type) count.toNat).bind fun items hitems => ?_
  refine (expands_draw _).bind fun negated _ =>
    expands_pure (isPhrase_inList hc negated ?_ hitems.2)
  rintro rfl
  have := hitems.1
  rw [List.length_nil] at this
  omega

theorem finds_betweenPredicate :
    Finds g levels (fun p => IsPhrase g.tables limit p.text) (betweenPredicate g scope) := by
  refine (expands_anyColumn h).bind fun ⟨c, type⟩ hc => ?_
  refine (finds_literal limit type).bind fun low hlow => ?_
  refine (finds_literal limit type).bind fun high hhigh => ?_
  exact (expands_draw _).bind fun negated _ =>
    expands_pure (isPhrase_between hc negated hlow hhigh)

theorem finds_nullPredicate :
    Finds g levels (fun p => IsPhrase g.tables limit p.text) (nullPredicate scope) := by
  refine (expands_anyColumn h).bind fun ⟨c, type⟩ hc => ?_
  exact (expands_draw _).bind fun negated _ => expands_pure (isPhrase_nullCheck hc negated)

theorem finds_matchingPredicate :
    Finds g levels (fun p => IsPhrase g.tables limit p.text) (matchingPredicate scope) := by
  have hword : ∀ w ∈ "'%'" :: ["'%a%'", "'a%'", "'%'", "'_'", "'%e'", "''"],
      w ∈ ["'%a%'", "'a%'", "'%'", "'_'", "'%e'", "''"] := by
    decide
  have hpatterns : ∀ w ∈ ["'%a%'", "'a%'", "'%'", "'_'", "'%e'", "''"],
      IsPhrase g.tables limit w := by
    have hall : ["'%a%'", "'a%'", "'%'", "'_'", "'%e'", "''"].all fun text =>
        (fixedTokens? (fun _ => true) text).any isLiteralTokens := by
      decide +kernel
    exact fun w hw => isPhrase_of_literal (isLiteralText_of_fixed (List.all_eq_true.1 hall w hw))
  have hrest : ∀ c : ColumnRef, c.IsIn g.tables →
      Finds g levels (fun p : Predicate => IsPhrase g.tables limit p.text) (do
        let pattern ← word "pred.pattern" ["'%a%'", "'a%'", "'%'", "'_'", "'%e'", "''"] "'%'"
        let glob ← Sampling.chance "pred.glob" 0.2
        return Predicate.matching c (if glob then "GLOB" else "LIKE") pattern) := by
    intro c hc
    refine (expands_word hword).bind fun pattern hpattern => (expands_draw _).bind fun glob _ => ?_
    apply expands_pure
    apply isPhrase_matching hc _ (hpatterns pattern hpattern)
    split_ifs <;> decide
  refine (expands_columnWhere? scope _).bind ?_
  rintro (_ | found) hfound
  · exact (expands_anyColumn h).bind fun ⟨c, type⟩ hc => hrest c hc
  · exact hrest found.1 ((hfound _ rfl).mono h.subset)

variable (hg : Scope.Usable g g.tables)

include hg

theorem finds_subqueryPredicate :
    Finds g levels (fun p => IsPhrase g.tables (limit + 1) p.text) (subqueryPredicate g scope) := by
  refine (expands_anyColumn h).bind fun ⟨c, type⟩ hc => ?_
  refine (expands_pick _ hg.ne_nil).bind fun table htable => ?_
  refine (expands_anyColumn (hg.single htable)).bind fun ⟨selected, _⟩ hselected => ?_
  exact expands_pure (isPhrase_inSubquery hc hselected htable)

/-- Predicates are terms, and they nest as deep as there are levels. -/
theorem finds_predicate (levels : ℕ) :
    Finds g levels (fun p => IsPhrase g.tables levels p.text) (predicate g scope levels) := by
  induction levels generalizing scope with
  | zero =>
    exact (finds_useRule (by decide)).bind fun _ _ => finds_comparisonPredicate h
  | succ levels ih =>
    have hinner : ∀ {scope : Scope}, Scope.Usable g scope →
        Finds g (levels + 1) (fun p => IsPhrase g.tables levels p.text)
          (predicate g scope levels) :=
      fun h => (ih h).rise (Nat.le_succ levels)
    rw [predicate]
    refine (expands_expand (by simp [phraseRules])).bind fun rule _ => ?_
    split
    · exact finds_nullPredicate h
    · exact finds_betweenPredicate h
    · exact finds_inListPredicate h
    · exact finds_matchingPredicate h
    · exact (hinner h).bind fun left hleft => (hinner h).bind fun right hright =>
        expands_pure (isPhrase_both hleft hright)
    · exact (hinner h).bind fun left hleft => (hinner h).bind fun right hright =>
        expands_pure (isPhrase_either hleft hright)
    · exact (hinner h).bind fun inner hinner => expands_pure (isPhrase_negation hinner)
    · refine (expands_pick _ hg.ne_nil).bind fun table htable => ?_
      exact (hinner (hg.single htable)).bind fun condition hcondition =>
        expands_pure (isPhrase_existsIn htable hcondition)
    · exact finds_subqueryPredicate h hg
    · exact finds_comparisonPredicate h

end Predicates

/-! ## Expressions -/

theorem finds_applyFunction {argument : Expression} (h : IsPhrase g.tables limit argument.text)
    (type : ColumnType) :
    Finds g levels (fun e => IsPhrase g.tables (limit + 1) e.1.text)
      (applyFunction g argument type) := by
  have hnone : ∀ other ∈ ([] : List String), IsPhrase g.tables limit other := by simp
  refine (expands_draw _).bind fun i _ => ?_
  split
  · exact expands_pure (isPhrase_call (by decide) h hnone)
  · refine (finds_literal limit type).bind fun text htext => expands_pure ?_
    exact isPhrase_call (by decide) h (by simpa using htext)
  · exact expands_pure (isPhrase_call (by decide) h hnone)
  · exact expands_pure (isPhrase_call (by decide) h hnone)
  · exact expands_pure (isPhrase_call (by decide) h hnone)
  · refine (expands_draw _).bind fun start _ => expands_pure (isPhrase_call (by decide) h ?_)
    intro other hother
    have hthree : IsPhrase g.tables limit "3" := isPhrase_integer 3
    rcases List.mem_cons.1 hother with rfl | hother
    · exact isPhrase_integer start
    · obtain rfl := List.mem_singleton.1 hother
      exact hthree
  · exact expands_pure (isPhrase_call (by decide) h hnone)
  · refine (expands_draw _).bind fun digits _ => expands_pure (isPhrase_call (by decide) h ?_)
    intro other hother
    obtain rfl := List.mem_singleton.1 hother
    exact isPhrase_integer digits

theorem finds_applyOperator {left : Expression} (h : IsPhrase g.tables limit left.text)
    (type : ColumnType) :
    Finds g levels (fun e => IsPhrase g.tables (limit + 1) e.1.text)
      (applyOperator g left type) := by
  have hword : ∀ w ∈ "+" :: ["+", "-", "*", "/", "%", "||"], w ∈ arithmetic := by decide
  refine (expands_word hword).bind fun op hop => ?_
  split
  · exact (finds_literal limit .text).bind fun text htext =>
      expands_pure (isPhrase_binary (by decide) h htext)
  · exact (finds_literal limit _).bind fun text htext =>
      expands_pure (isPhrase_binary hop h htext)

section Expressions

variable {scope : Scope} (h : Scope.Usable g scope)

include h

theorem finds_column :
    Finds g levels (fun e : Expression × ColumnType => IsPhrase g.tables limit e.1.text) (do
      let (c, type) ← anyColumn scope
      return (.column c, type)) :=
  (expands_anyColumn h).bind fun _ hc => expands_pure (isPhrase_column hc)

/-- Expressions are terms, and they nest as deep as there are levels. -/
theorem finds_expression (hg : Scope.Usable g g.tables) (levels : ℕ) :
    Finds g levels (fun e => IsPhrase g.tables levels e.1.text) (expression g scope levels) := by
  induction levels with
  | zero => exact (finds_useRule (by decide)).bind fun _ _ => finds_column h
  | succ levels ih =>
    have hinner : Finds g (levels + 1) (fun e => IsPhrase g.tables levels e.1.text)
        (expression g scope levels) :=
      ih.rise (Nat.le_succ levels)
    rw [expression]
    refine (expands_expand (by simp [phraseRules])).bind fun rule _ => ?_
    split
    · refine expands_anyType.bind fun type _ => ?_
      exact (finds_literal _ type).bind fun text htext => expands_pure htext
    · exact hinner.bind fun ⟨left, type⟩ hleft => finds_applyOperator hleft type
    · exact hinner.bind fun ⟨argument, type⟩ hargument => finds_applyFunction hargument type
    · have hpredicate := (finds_predicate h hg levels).rise (Nat.le_succ levels)
      refine hpredicate.bind fun condition hcondition => ?_
      refine hinner.bind fun ⟨result, type⟩ hresult => ?_
      refine (finds_literal levels type).bind fun otherwise hotherwise => expands_pure ?_
      exact (isPhrase_conditional hcondition hresult hotherwise).mono (Nat.le_succ levels)
    · refine hinner.bind fun ⟨e, type⟩ he => expands_anyType.bind fun target _ => ?_
      exact expands_pure (isPhrase_cast target he)
    · exact finds_column h

theorem finds_aggregate : Finds g levels (Aggregate.Sound g.tables) (aggregate scope) := by
  have hsome : ∀ function ∈ functions, ∀ c : ColumnRef, c.IsIn g.tables →
      Aggregate.Sound g.tables ⟨function, some c⟩ :=
    fun function hfunction c hc => ⟨hfunction, by simp, by simpa using hc⟩
  have hcolumn : ∀ function ∈ functions, Finds g levels (Aggregate.Sound g.tables) (do
      return ⟨function, some (← anyColumn scope).1⟩) :=
    fun function hfunction => (expands_anyColumn h).bind fun c hc =>
      expands_pure (hsome function hfunction c.1 hc)
  refine (expands_columnWhere? scope _).bind fun numeric hnumeric => ?_
  have hfound : ∀ c ∈ numeric, c.1.IsIn g.tables := fun c hc => (hnumeric c hc).mono h.subset
  refine (expands_draw _).bind fun i _ => ?_
  split
  · exact expands_pure (hsome _ (by decide) _ (hfound _ rfl))
  · exact expands_pure (hsome _ (by decide) _ (hfound _ rfl))
  · exact expands_pure (hsome _ (by decide) _ (hfound _ rfl))
  · exact hcolumn _ (by decide)
  · exact hcolumn _ (by decide)
  · refine (expands_draw _).bind fun star _ => ?_
    split_ifs
    · exact expands_pure ⟨by decide, fun _ => rfl, by simp⟩
    · exact hcolumn _ (by decide)

end Expressions

end Grammar
end QueryFuzz
