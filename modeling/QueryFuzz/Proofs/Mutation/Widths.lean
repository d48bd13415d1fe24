import QueryFuzz.Proofs.Grammar.Choices
import QueryFuzz.Proofs.Mutation.Orders
import QueryFuzz.Proofs.Sql.AddedOrders

/-!
# The width of a star

An order that is added names as many output columns as the statement is taken to have. A star is
taken to stand for the columns of the one table that the statement references. Tables are
referenced once however often they are named, so a table that is joined with itself counts once,
and the order leaves out the columns of its other occurrences.
-/

namespace QueryFuzz
namespace Mutation

open Sql Draw

/-! ## Tables that are referenced -/

section Tables

variable {schema : Schema} {t u : Table} {name : String}

theorem table?_of_sameWord {name' : String} (h : sameWord name name') :
    schema.table? name = schema.table? name' := by
  have hcapitals : name.toUpper = name'.toUpper := beq_iff_eq.1 h
  simp only [Schema.table?, sameWord, hcapitals]

/-- A table that is found is found by its own name. -/
theorem table?_name (h : schema.table? name = some t) : schema.table? t.name = some t := by
  have hfound : schema.tables.find? (fun t => sameWord t.name name) = some t := h
  have hword := List.find?_some hfound
  rw [table?_of_sameWord hword, h]

theorem table_eq_of_name_eq {name' : String} (ht : schema.table? name = some t)
    (hu : schema.table? name' = some u) (h : u.name = t.name) : u = t := by
  have hu' := table?_name hu
  rw [h, table?_name ht] at hu'
  exact (Option.some.inj hu').symm

/-- Adds a table unless one of this name is there. -/
def withTable (tables : List Table) (t : Table) : List Table :=
  if tables.any (·.name == t.name) then tables else tables ++ [t]

theorem mem_of_mem_foldl_withTable {named tables : List Table}
    (h : u ∈ named.foldl withTable tables) : u ∈ tables ∨ u ∈ named := by
  induction named generalizing tables with
  | nil => exact .inl h
  | cons t named ih =>
    rcases ih h with hmem | hmem
    · rw [withTable] at hmem
      split_ifs at hmem
      · exact .inl hmem
      · rcases List.mem_append.1 hmem with hmem | hmem
        · exact .inl hmem
        · obtain rfl := List.mem_singleton.1 hmem
          exact .inr List.mem_cons_self
    · exact .inr (List.mem_cons_of_mem t hmem)

theorem exists_mem_foldl_withTable {named tables : List Table}
    (h : (∃ u ∈ tables, u.name = name) ∨ ∃ u ∈ named, u.name = name) :
    ∃ u ∈ named.foldl withTable tables, u.name = name := by
  induction named generalizing tables with
  | nil => simpa using h
  | cons t named ih =>
    refine ih ?_
    rcases h with ⟨u, hu, rfl⟩ | ⟨u, hu, rfl⟩
    · refine .inl ⟨u, ?_, rfl⟩
      rw [withTable]
      split_ifs
      · exact hu
      · exact List.mem_append_left _ hu
    · rcases List.mem_cons.1 hu with rfl | hu
      · left
        rw [withTable]
        split_ifs with hthere
        · simpa using hthere
        · exact ⟨u, by simp, rfl⟩
      · exact .inr ⟨u, hu, rfl⟩

theorem exists_of_mem_referencedTables {tokens : List Token}
    (h : t ∈ referencedTables schema tokens) : ∃ name, schema.table? name = some t := by
  rcases mem_of_mem_foldl_withTable h with hmem | hmem
  · cases hmem
  · obtain ⟨token, -, htable⟩ := List.mem_filterMap.1 hmem
    exact ⟨_, htable⟩

/-- Every table that is named is referenced. -/
theorem mem_referencedTables {tokens : List Token} {token : Token} (hmem : token ∈ tokens)
    (hname : isName token) (ht : schema.table? (unquote token.text) = some t) :
    t ∈ referencedTables schema tokens := by
  have hnamed : t ∈ (tokens.filter isName).filterMap fun t => schema.table? (unquote t.text) :=
    List.mem_filterMap.2 ⟨token, List.mem_filter.2 ⟨hmem, hname⟩, ht⟩
  obtain ⟨u, hu, hsame⟩ : ∃ u ∈ referencedTables schema tokens, u.name = t.name :=
    exists_mem_foldl_withTable (.inr ⟨t, hnamed, rfl⟩)
  obtain ⟨name, hfound⟩ := exists_of_mem_referencedTables hu
  rwa [← table_eq_of_name_eq ht hfound hsame]

end Tables

/-! ## Tables of `FROM` and `JOIN` -/

variable {m : Material} {s : Statement} {t : Table} {tables : List Table}

/-- The positions at which tables are named: behind the `FROM`, the `JOIN`s and the commas outside
all parentheses of their clauses. -/
def sourcePositions (s : Statement) : List ℕ :=
  (s.clauses.filter fun c => c.kind == .source || c.kind == .join).flatMap fun c =>
    ((List.range' c.span.start c.span.length).filter fun i =>
      s.depths[i]? == some 0 &&
        s.tokens[i]?.any fun t => t.isAnyOf ["FROM", "JOIN"] || t.kind == .comma).map (· + 1)

/-- The schema table that is named at a position. -/
def tableAt? (schema : Schema) (s : Statement) (i : ℕ) : Option Table :=
  match s.tokens[i]? with
  | some t =>
    if isName t && !isOperatorName s.tokens i then schema.table? (unquote t.text) else none
  | none => none

/-- The schema tables that `FROM` and `JOIN` name, each as often as they do, if they name no
others and hold no query. -/
def sources? (schema : Schema) (s : Statement) : Option (List Table) :=
  (sourcePositions s).mapM (tableAt? schema s)

/-- The number of columns of some tables together. -/
def totalWidth (tables : List Table) : ℕ :=
  (tables.map (·.columns.length)).sum

theorem totalWidth_of_forall_eq (h : ∀ u ∈ tables, u = t) :
    totalWidth tables = tables.length * t.columns.length := by
  rw [totalWidth, List.eq_replicate_of_mem h]
  simp

theorem mem_referencedTables_of_tableAt? {schema : Schema} {i : ℕ}
    (h : tableAt? schema s i = some t) : t ∈ referencedTables schema s.tokens := by
  unfold tableAt? at h
  split at h
  · rename_i token htoken
    split_ifs at h with hname
    exact mem_referencedTables (List.mem_of_getElem? htoken) (Bool.and_eq_true_iff.1 hname).1 h
  · cases h

theorem exists_of_mapM_eq_some {α β : Type} {f : α → Option β} {xs : List α} {ys : List β} {y : β}
    (h : xs.mapM f = some ys) (hy : y ∈ ys) : ∃ x ∈ xs, f x = some y := by
  induction xs generalizing ys with
  | nil =>
    obtain rfl := Option.some.inj h
    cases hy
  | cons x xs ih =>
    rw [List.mapM_cons] at h
    obtain ⟨first, hfirst, hrest⟩ := Option.bind_eq_some_iff.1 h
    obtain ⟨more, hmore, hys⟩ := Option.bind_eq_some_iff.1 hrest
    obtain rfl := Option.some.inj hys
    rcases List.mem_cons.1 hy with rfl | hy
    · exact ⟨x, List.mem_cons_self, hfirst⟩
    · obtain ⟨x', hx', hfound⟩ := ih hmore hy
      exact ⟨x', List.mem_cons_of_mem x hx', hfound⟩

theorem mem_referencedTables_of_sources? {schema : Schema} (h : sources? schema s = some tables)
    (ht : t ∈ tables) : t ∈ referencedTables schema s.tokens := by
  obtain ⟨i, -, htable⟩ := exists_of_mapM_eq_some h ht
  exact mem_referencedTables_of_tableAt? htable

/-! ## The width of a star -/

/-- Is a star the only select item? -/
def selectsStar (s : Statement) : Bool :=
  match s.selectItems.map (·.slice s.tokens) with
  | [[star]] => star.isOperator "*"
  | _ => false

theorem outputWidth?_ne_zero {width : ℕ} (h : outputWidth? s tables = some width) : width ≠ 0 := by
  unfold outputWidth? at h
  split at h
  · dsimp only at h
    split_ifs at h with hzero
    obtain rfl := Option.some.inj h
    exact hzero
  · cases h

/-- A star is as wide as the only table that is referenced. -/
theorem exists_of_outputWidth? {width : ℕ} (hstar : selectsStar s)
    (h : outputWidth? s tables = some width) : ∃ t, tables = [t] ∧ width = t.columns.length := by
  unfold selectsStar at hstar
  split at hstar
  · rename_i star hitems
    have hmap : s.selectItems.mapM (fun r => itemWidth? tables (r.slice s.tokens)) =
        [[star]].mapM (itemWidth? tables) := by
      rw [← hitems, List.mapM_map]
      rfl
    unfold outputWidth? at h
    rw [hmap] at h
    cases tables with
    | nil => simp [itemWidth?, hstar] at h
    | cons t more =>
      cases more with
      | cons u more => simp [itemWidth?, hstar] at h
      | nil =>
        have hwidth : t.columns.length = width := by
          simp [itemWidth?, hstar] at h
          exact h.2
        exact ⟨t, rfl, hwidth.symm⟩
  · cases hstar

/-! ## The order that is added -/

/-- An order is added by as many output columns as the statement is taken to have. -/
theorem gives_orderText :
    Gives (fun text => ∃ directions, text = Grammar.orderByText directions ∧ directions ≠ [] ∧
      outputWidth? s tables = some directions.length) (additionText m s tables .order) := by
  refine Gives.bind (P := fun width => outputWidth? s tables = some width)
    (gives_of_option (by simp)) fun width hwidth => ?_
  have hne := outputWidth?_ne_zero hwidth
  refine gives_lift ((Grammar.yields_directions (max width 1)).bind fun directions hlength => ?_)
  have hlength : directions.length = width := by omega
  refine Sampling.yields_pure ⟨directions, rfl, ?_, by rw [hlength, hwidth]⟩
  rintro rfl
  exact hne hlength.symm

/-- There is no order, or one by the output columns that the other statement is taken to have. -/
def IsOrderedLike (m : Material) (s r : Statement) : Prop :=
  r.orders = [] ∨ ∃ width, outputWidth? s (referencedTables m.schema s.tokens) = some width ∧
    r.IsOrderedBy (columnPositions width)

/-- The order by the output columns that is put where a clause may begin. -/
theorem gives_added_order {t₀ : Token} {A C : List Token} {position : ℕ} (hnone : s.orders = [])
    (htokens : s.tokens = t₀ :: (A ++ C)) (hposition : position = 1 + A.length)
    (hC : IsBoundary s.kind (depthPast 0 t₀) A C) :
    Gives (fun ts => ∀ r : Statement, r.tokens = ts → r.kind = s.kind →
      ∃ width, outputWidth? s tables = some width ∧ r.IsOrderedBy (columnPositions width)) (do
        let text ← additionText m s tables .order
        return (⟨position, position⟩ : Span).replace s.tokens (← lexed text)) := by
  refine gives_orderText.bind ?_
  rintro _ ⟨directions, rfl, hne, hwidth⟩
  refine (gives_lexed_spelled (spells_orderByText hne)).bind ?_
  rintro _ rfl
  refine gives_pure ?_
  intro r hr hkind
  obtain ⟨order, horder, hpositions⟩ := exists_orderTokens hne
  have hr' : r.tokens = t₀ :: (A ++ Token.ofKeyword "ORDER" :: (order ++ C)) := by
    rw [hr, tokens_insert htokens hposition, horder, List.cons_append]
  refine ⟨directions.length, hwidth, ?_⟩
  exact Statement.isOrderedBy_of_added htokens hr' hkind hnone hC (by decide +kernel) hpositions

/-- A statement without an order gets none, or one by its output columns. -/
theorem gives_insertClause_orders (hkind : s.kind = .select)
    (hnone : s.hasClause .orderBy = false) :
    Gives (fun ts => ∀ r : Statement, r.tokens = ts → r.kind = s.kind → IsOrderedLike m s r)
      (insertClause m s) := by
  have horders : s.orders = [] := by
    by_contra hne
    rw [Statement.hasClause_orderBy_iff.2 hne] at hnone
    cases hnone
  refine (gives_chooseSite _ _).bind fun ⟨addition, position⟩ hsite => ?_
  obtain ⟨t₀, rest, htokens⟩ := List.exists_cons_of_ne_nil s.tokens_ne_nil
  obtain ⟨A, C, rfl, hposition, hC⟩ := exists_boundary_of_mem_additions hkind htokens hsite
  by_cases hnew : addition = .order
  · subst hnew
    refine (gives_added_order horders htokens hposition hC).mono ?_
    intro ts hordered r hr hkind'
    exact .inr (hordered r hr hkind')
  · have hplain : PlainOrders s := by
      intro order horder
      rw [horders] at horder
      cases horder
    refine (preserves_addition hkind hplain hnew htokens hposition hC).mono ?_
    intro ts hpreserves r hr hkind'
    left
    apply List.eq_nil_iff_forall_not_mem.2
    intro order horder
    have hmem := (hpreserves r hr hkind').orders order horder
    rw [horders] at hmem
    cases hmem

theorem yields_transform_of_clauseInsertion (hkind : s.kind = .select)
    (hnone : s.hasClause .orderBy = false) :
    (Operator.clauseInsertion.transform m s).Yields fun o => ∀ ts ∈ o,
      ∃ r : Statement, r.tokens = ts ∧ r.kind = .select ∧ IsOrderedLike m s r := by
  have hnew : Operator.clauseInsertion ≠ .quoteFlip := by decide
  refine (yields_transform_of_gives hnew (gives_insertClause_orders hkind hnone)).mono ?_
  intro o ho ts hts
  obtain ⟨hadded, r, hr, hkind'⟩ := ho ts hts
  exact ⟨r, hr, hkind'.trans hkind, hadded r hr hkind'⟩

/-- Where a star is the only select item and `FROM` and `JOIN` name tables of the schema only, an
order is added for a single table, by its columns. These are all output columns just if the table
is named once. -/
theorem added_order_covers_one_table {keys : KeyStream} {ts : List Token}
    (hkind : s.kind = .select) (hstar : selectsStar s)
    (htables : sources? m.schema s = some tables) (hnone : s.hasClause .orderBy = false)
    (hts : ((Operator.clauseInsertion.transform m s).run keys).value = some ts) :
    ∃ r : Statement, r.tokens = ts ∧ r.kind = .select ∧
      (r.hasClause .orderBy → ∃ t ∈ m.schema.tables, (∀ u ∈ tables, u = t) ∧
        r.IsOrderedBy (columnPositions t.columns.length) ∧
        (r.IsOrderedBy (columnPositions (totalWidth tables)) ↔ tables.length = 1)) := by
  have hyields := yields_transform_of_clauseInsertion (m := m) hkind hnone
  obtain ⟨r, hr, hkind', hadded⟩ := hyields.run keys ts hts
  refine ⟨r, hr, hkind', ?_⟩
  intro horder
  obtain ⟨width, hwidth, hordered⟩ :=
    hadded.resolve_left (Statement.hasClause_orderBy_iff.1 horder)
  obtain ⟨t, hreferenced, rfl⟩ := exists_of_outputWidth? hstar hwidth
  have hall : ∀ u ∈ tables, u = t := by
    intro u hu
    have hmem := mem_referencedTables_of_sources? htables hu
    rw [hreferenced] at hmem
    exact List.mem_singleton.1 hmem
  have ht : t ∈ m.schema.tables := by
    obtain ⟨name, hfound⟩ := @exists_of_mem_referencedTables m.schema t s.tokens
      (by simp [hreferenced])
    exact List.mem_of_find?_eq_some hfound
  refine ⟨t, ht, hall, hordered, ?_⟩
  have hne := outputWidth?_ne_zero hwidth
  rw [totalWidth_of_forall_eq hall]
  constructor
  · intro hcovers
    have hequal := columnPositions_inj.1 (hcovers.unique hordered)
    exact Nat.eq_of_mul_eq_mul_right (Nat.pos_of_ne_zero hne) (by omega)
  · intro hone
    rwa [hone, Nat.one_mul]

/-! ## A table of two columns -/

def pairTable : Table := ⟨"t", [⟨"a", .integer⟩, ⟨"b", .text⟩]⟩

/-- Are these the tokens of a statement with an order? -/
def isOrdered (ts : List Token) : Bool :=
  match Statement.ofTokens ts with
  | .ok r => r.hasClause .orderBy
  | .error _ => false

theorem hasClause_of_isOrdered {r : Statement} (h : isOrdered r.tokens) :
    r.hasClause .orderBy := by
  rwa [isOrdered, r.ofTokens_tokens] at h

theorem added_order_covers_one_table_once :
    let m : Material := ⟨⟨[pairTable]⟩, [], 0.3⟩
    ∃ s r : Statement, Statement.parse "SELECT * FROM t AS x" = .ok s ∧
      sources? m.schema s = some [pairTable] ∧
      ((Operator.clauseInsertion.transform m s).run (.ofSeed 0 0)).value = some r.tokens ∧
      r.hasClause .orderBy ∧ r.IsOrderedBy (columnPositions 2) := by
  intro m
  obtain ⟨s, hs, hkind, hstar, htables, hnone, hevery⟩ : ∃ s,
      Statement.parse "SELECT * FROM t AS x" = .ok s ∧ s.kind = .select ∧ selectsStar s ∧
        sources? m.schema s = some [pairTable] ∧ s.hasClause .orderBy = false ∧
        Sampling.everyOutcome (·.any isOrdered) (.ofSeed 0 0)
          (Operator.clauseInsertion.transform m s) :=
    Statement.exists_of_parse (by decide +kernel)
  obtain ⟨ts, hts, hordered⟩ := (Option.any_eq_true _ _).1 (Sampling.pass_of_everyOutcome hevery)
  obtain ⟨r, rfl, -, hcovers⟩ := added_order_covers_one_table hkind hstar htables hnone hts
  have horder := hasClause_of_isOrdered hordered
  obtain ⟨t, -, -, -, hiff⟩ := hcovers horder
  exact ⟨s, r, hs, htables, hts, horder, hiff.2 rfl⟩

/-- The table is joined with itself, and the order leaves out half of the columns. -/
theorem added_order_leaves_columns_out :
    let m : Material := ⟨⟨[pairTable]⟩, [], 0.3⟩
    ∃ s r : Statement, Statement.parse "SELECT * FROM t AS x, t AS y" = .ok s ∧
      s.kind = .select ∧ selectsStar s ∧ sources? m.schema s = some [pairTable, pairTable] ∧
      s.hasClause .orderBy = false ∧
      ((Operator.clauseInsertion.transform m s).run (.ofSeed 0 0)).value = some r.tokens ∧
      r.IsOrderedBy (columnPositions 2) ∧
      ¬r.IsOrderedBy (columnPositions (totalWidth [pairTable, pairTable])) := by
  intro m
  obtain ⟨s, hs, hkind, hstar, htables, hnone, hwidth, hevery⟩ : ∃ s,
      Statement.parse "SELECT * FROM t AS x, t AS y" = .ok s ∧ s.kind = .select ∧
        selectsStar s ∧ sources? m.schema s = some [pairTable, pairTable] ∧
        s.hasClause .orderBy = false ∧
        outputWidth? s (referencedTables m.schema s.tokens) = some 2 ∧
        Sampling.everyOutcome (·.any isOrdered) (.ofSeed 0 0)
          (Operator.clauseInsertion.transform m s) :=
    Statement.exists_of_parse (by decide +kernel)
  obtain ⟨ts, hts, hordered⟩ := (Option.any_eq_true _ _).1 (Sampling.pass_of_everyOutcome hevery)
  have hyields := yields_transform_of_clauseInsertion (m := m) hkind hnone
  obtain ⟨r, rfl, -, hadded⟩ := hyields.run (.ofSeed 0 0) ts hts
  have horder := hasClause_of_isOrdered hordered
  obtain ⟨width, hwidth', hpositions⟩ :=
    hadded.resolve_left (Statement.hasClause_orderBy_iff.1 horder)
  obtain rfl : 2 = width := Option.some.inj (hwidth.symm.trans hwidth')
  refine ⟨s, r, hs, hkind, hstar, htables, hnone, hts, hpositions, ?_⟩
  intro hall
  exact absurd (columnPositions_inj.1 (hall.unique hpositions)) (by decide)

end Mutation
end QueryFuzz
