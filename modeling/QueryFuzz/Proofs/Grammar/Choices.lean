import QueryFuzz.Proofs.Grammar.Expressions
import QueryFuzz.Proofs.Grammar.Sentences

/-!
# Generating selections

A selection adds one rule of each of the nonterminals that decide on its clauses, and rules that
decide nothing of the kind. So the rules tell which clauses it has. Its width is kept on the way:
the items, the order and the second query of a compound selection agree on it.
-/

namespace QueryFuzz
namespace Grammar

open Sql Draw

/-! ## Rules -/

theorem Nonterminal.mem_all (nt : Nonterminal) : nt ∈ Nonterminal.all := by
  cases nt <;> decide

/-- A rule belongs to one nonterminal. -/
theorem eq_of_mem_rules {nt nt' : Nonterminal} {r : String} (h : r ∈ nt.rules)
    (h' : r ∈ nt'.rules) : nt = nt' := by
  have hall : ∀ nt ∈ Nonterminal.all, ∀ nt' ∈ Nonterminal.all, ∀ r ∈ nt.rules, r ∈ nt'.rules →
      nt = nt' := by
    decide +kernel
  exact hall nt nt.mem_all nt' nt'.mem_all r h h'

/-- The nonterminals that decide on the clauses of a selection. -/
def clauseNonterminals : List Nonterminal :=
  [.source, .distinct, .group, .filter, .compound, .order, .limit]

/-- The rules inside of clauses, with so many levels of nesting. -/
def innerRules (levels : ℕ) : List String :=
  Nonterminal.join.rules ++ Nonterminal.items.rules ++ phraseRules levels

theorem phraseRules_subset {levels : ℕ} : phraseRules levels ⊆ innerRules levels :=
  List.subset_append_right _ _

theorem Finds.inner {g : Setting} {α : Type} {P : α → Prop} {x : Expansion α}
    (h : Finds g g.levels P x) : Expands g (innerRules g.levels) P x :=
  Expands.widen h phraseRules_subset

theorem innerRules_mono {levels levels' : ℕ} (hle : levels ≤ levels') :
    innerRules levels ⊆ innerRules levels' :=
  List.append_subset.2 ⟨List.subset_append_left _ _,
    List.Subset.trans (phraseRules_mono hle) phraseRules_subset⟩

/-- A second level adds no rule. -/
theorem innerRules_subset_one (levels : ℕ) : innerRules levels ⊆ innerRules 1 := by
  cases levels with
  | zero => exact innerRules_mono (Nat.zero_le 1)
  | succ n => exact List.Subset.refl _

/-- The rules with which a selection has a clause of this kind besides its head and its source. -/
def callingRules : ClauseKind → List String
  | .join => ["from.join"]
  | .filter => ["where.predicate"]
  | .groupBy => ["group.by", "group.having"]
  | .having => ["group.having"]
  | .compound => ["compound.union", "compound.union-all", "compound.intersect", "compound.except"]
  | .orderBy => ["order.by"]
  | .limit => ["limit.count", "limit.offset"]
  | _ => []

/-- One rule of each nonterminal that decides on clauses is added, and nothing else that does. -/
structure Decides (levels : ℕ) (choice : Nonterminal → String) (added : List String) : Prop where
  mem_rules : ∀ nt ∈ clauseNonterminals, choice nt ∈ nt.rules
  mem_added : ∀ nt ∈ clauseNonterminals, choice nt ∈ added
  subset : added ⊆ innerRules levels ++ clauseNonterminals.map choice

theorem Decides.mem_iff {levels : ℕ} {choice : Nonterminal → String} {added : List String}
    (h : Decides levels choice added) {nt : Nonterminal} (hnt : nt ∈ clauseNonterminals)
    {r : String} (hr : r ∈ nt.rules) : r ∈ added ↔ r = choice nt := by
  have hnone : ∀ nt ∈ clauseNonterminals, ∀ r ∈ nt.rules, r ∉ innerRules 1 := by decide +kernel
  constructor
  · intro hmem
    rcases List.mem_append.1 (h.subset hmem) with hinner | hchoice
    · exact absurd (innerRules_subset_one levels hinner) (hnone nt hnt r hr)
    · obtain ⟨nt', hnt', rfl⟩ := List.mem_map.1 hchoice
      rw [eq_of_mem_rules hr (h.mem_rules nt' hnt')]
  · rintro rfl
    exact h.mem_added nt hnt

/-! ## Tables -/

/-- The tables in view are those behind `FROM`, and a second one stands where the rule says so,
provided that tables can be told apart. -/
structure TableSource.Shows (g : Setting) (rule : String) (source : TableSource) (scope : Scope) :
    Prop where
  keeps : source.IsIn g.tables
  tables : ∀ t ∈ scope, t ∈ g.tables
  names : scope.map (·.name) = source.first :: source.join.tables
  join : (g.tables.map (·.name)).Nodup →
    (source.join.tables ≠ [] ↔ rule ∈ callingRules .join)

variable {g : Setting} (hg : Scope.Usable g g.tables)

theorem TableSource.Shows.usable {rule : String} {source : TableSource} {scope : Scope}
    (hg : Scope.Usable g g.tables) (h : source.Shows g rule scope) : Scope.Usable g scope := by
  refine ⟨?_, fun t ht => hg.columns t (h.tables t ht), h.tables⟩
  rintro rfl
  exact absurd h.names (by simp)

/-- Among several tables that can be told apart, there is another one. -/
theorem exists_other {tables : List Table} (hnodup : (tables.map (·.name)).Nodup)
    (hlength : 1 < tables.length) (name : String) :
    tables.filter (·.name != name) ≠ [] := by
  intro hnone
  have hall : ∀ other ∈ tables.map (·.name), other = name := by
    intro other hother
    obtain ⟨t, ht, rfl⟩ := List.mem_map.1 hother
    simpa using List.filter_eq_nil_iff.1 hnone t ht
  rw [List.eq_replicate_of_mem hall, List.nodup_replicate, List.length_map] at hnodup
  omega

theorem traces_secondTable? (first : Table) :
    Traces g (Chosen .source fun rule second rest => rest = [] ∧ (∀ t ∈ second, t ∈ g.tables) ∧
      ((g.tables.map (·.name)).Nodup → (second.isSome ↔ rule ∈ callingRules .join)))
      (secondTable? g first) := by
  unfold secondTable?
  split_ifs with hlength
  · apply traces_chosen
    intro rule hrule
    obtain rfl | rfl : rule = "from.single" ∨ rule = "from.join" := by
      simpa [Nonterminal.rules, Nonterminal.alternatives] using hrule
    · exact traces_pure ⟨rfl, by simp, by simp [callingRules]⟩
    · refine traces_lift ((Sampling.yields_choose _ _).mono fun second hsecond => ?_)
      rcases hsecond with ⟨t, ht, rfl⟩ | ⟨hnone, rfl⟩
      · refine ⟨rfl, ?_, by simp [callingRules]⟩
        simpa using (List.mem_filter.1 ht).1
      · refine ⟨rfl, by simp, fun hnodup => ?_⟩
        exact absurd hnone (exists_other hnodup hlength first.name)
  · have hforced : "from.single" ∈ g.forcedRules := by simp [Setting.forcedRules, hlength]
    refine Traces.bind (traces_useRule (P := fun _ added => added = ["from.single"]) hforced rfl) ?_
    rintro ⟨⟩ added rfl
    exact traces_pure ⟨"from.single", by decide, [], rfl, rfl, by simp, by simp [callingRules]⟩

/-- A column of a table can be called by the name of the table. -/
theorem isIn_qualified {t : Table} (ht : t ∈ g.tables) {c : ColumnRef} (hc : c.IsIn [t]) :
    ColumnRef.IsIn g.tables ⟨some t.name, c.column⟩ := by
  obtain ⟨t', ht', column, hcolumn, hname, -⟩ := hc
  obtain rfl := List.mem_singleton.1 ht'
  refine ⟨t', ht, column, hcolumn, hname, ?_⟩
  intro name hname
  exact (Option.some.inj hname).symm

include hg

theorem expands_joinOn {allowed : List String} {first second : Table} (kind : JoinKind)
    (hfirst : first ∈ g.tables) (hsecond : second ∈ g.tables) :
    Expands g allowed
      (fun join => join.tables = [second.name] ∧ join.IsIn g.tables first.name)
      (joinOn kind first second) := by
  refine (expands_columnIn (hg.single hfirst)).bind fun ⟨left, type⟩ hleft => ?_
  have hfound : ∀ right : ColumnRef × ColumnType, right.1.IsIn [second] →
      Expands g allowed (fun join => join.tables = [second.name] ∧ join.IsIn g.tables first.name)
        (pure (Join.on kind second.name left.column right.1.column)) :=
    fun right hright =>
      expands_pure ⟨rfl, isIn_qualified hfirst hleft, isIn_qualified hsecond hright⟩
  refine (expands_columnWhere? [second] _).bind ?_
  rintro (_ | found) hcolumn
  · exact (expands_columnIn (hg.single hsecond)).bind hfound
  · exact hfound found (hcolumn found rfl)

theorem traces_tableSource :
    Traces g (Chosen .source fun rule source rest => rest ⊆ innerRules g.levels ∧
      source.1.Shows g rule source.2) (tableSource g) := by
  refine (traces_pick _ hg.ne_nil).bind ?_
  rintro first added ⟨hfirst, rfl⟩
  refine (traces_secondTable? first).bind ?_
  rintro second added ⟨rule, hrule, rest, rfl, rfl, hsecond, hjoin⟩
  cases second with
  | none =>
    refine traces_pure ⟨rule, hrule, [], rfl, List.nil_subset _, ⟨isKnown_table hfirst, trivial⟩,
      ?_, rfl, ?_⟩
    · simpa using hfirst
    · simpa [Join.tables] using hjoin
  | some second =>
    have hmem : second ∈ g.tables := hsecond second rfl
    have hshows : ∀ join : Join, join.tables = [second.name] ∧ join.IsIn g.tables first.name →
        (⟨first.name, join⟩ : TableSource).Shows g rule [first, second] := by
      rintro join ⟨hjoin', hkeeps⟩
      refine ⟨⟨isKnown_table hfirst, hkeeps⟩, by simpa using ⟨hfirst, hmem⟩, by simp [hjoin'],
        fun hnodup => ?_⟩
      simpa [hjoin'] using hjoin hnodup
    have hjoins : ∀ kind, Expands g (innerRules g.levels)
        (fun source : TableSource × Scope => source.1.Shows g rule source.2) (do
          return (⟨first.name, ← joinOn kind first second⟩, [first, second])) := by
      intro kind
      refine (expands_joinOn hg kind hfirst hmem).bind fun join hjoin' => ?_
      exact expands_pure (hshows join hjoin')
    refine Traces.mono (P := fun source added => added ⊆ innerRules g.levels ∧
      source.1.Shows g rule source.2) ?_ fun source rest hsource =>
        ⟨rule, hrule, rest, rfl, hsource⟩
    refine (expands_expand (by simp [innerRules])).bind fun rule _ => ?_
    split
    · exact expands_pure (hshows _ ⟨rfl, isKnown_table hmem⟩)
    · exact hjoins .left
    · exact hjoins .inner

/-! ## Phrases -/

/-- How deep a statement may nest. An aggregate nests, even where no level is left. -/
def Setting.nesting (g : Setting) : ℕ := max 1 g.levels

theorem finds_condition {scope : Scope} (h : Scope.Usable g scope) :
    Finds g g.levels (fun p => IsPhrase g.tables g.nesting p.text) (predicate g scope g.levels) :=
  (finds_predicate h hg g.levels).mono fun _ hp => hp.mono (le_max_right 1 g.levels)

theorem finds_value {scope : Scope} (h : Scope.Usable g scope) :
    Finds g g.levels (fun e => IsPhrase g.tables g.nesting e.1.text)
      (expression g scope g.levels) :=
  (finds_expression h hg g.levels).mono fun _ he => he.mono (le_max_right 1 g.levels)

omit hg in
theorem isPhrase_sound {a : Aggregate} (h : a.Sound g.tables) :
    IsPhrase g.tables g.nesting a.text :=
  (isPhrase_aggregate h).mono (le_max_left 1 g.levels)

/-! ## Items -/

omit hg in
theorem width_pos {scope : Scope} (h : Scope.Usable g scope) :
    1 ≤ (scope.map (·.columns.length)).sum := by
  obtain ⟨t, rest, rfl⟩ := List.exists_cons_of_ne_nil h.ne_nil
  have ht := List.length_pos_iff.2 (h.columns t (by simp))
  rw [List.map_cons, List.sum_cons]
  omega

omit hg

/-- The items make as many columns as `width`. A star stands for all columns in view. -/
structure Items.Fill (g : Setting) (items : Items) (scope : Scope) (width : ℕ) : Prop where
  text : items = .star ∨ IsListText width items.text
  keeps : KeepsTo g.tables g.nesting items.text
  star : items = .star → width = (scope.map (·.columns.length)).sum
  pos : 1 ≤ width

/-- Items that are listed one by one. -/
theorem items_fill {items : Items} {scope : Scope} {α : Type} {f : α → String} (as : List α)
    {n : ℕ} (hstar : items ≠ .star) (htext : items.text = commaList (as.map f))
    (hlength : as.length = n) (hn : 1 ≤ n)
    (has : ∀ a ∈ as, IsPhrase g.tables g.nesting (f a)) : items.Fill g scope n := by
  have hne : as ≠ [] := by
    rw [← List.length_pos_iff]
    omega
  obtain ⟨hlist, hkeeps⟩ := isListText_commaList_map hne has
  rw [← htext, hlength] at hlist
  rw [← htext] at hkeeps
  exact ⟨.inr hlist, hkeeps, fun h => absurd h hstar, hn⟩

theorem grouped_fill {keys : List ColumnRef} {a : Aggregate} {scope : Scope} {n : ℕ}
    (hlength : keys.length = n) (hkeys : ∀ c ∈ keys, c.IsIn g.tables) (ha : a.Sound g.tables) :
    (Items.grouped keys a).Fill g scope (n + 1) := by
  have hmap : commaList (keys.map (·.text) ++ [a.text]) =
      commaList ((keys.map (·.text) ++ [a.text]).map id) := by
    rw [List.map_id]
  refine items_fill _ (by simp) hmap (by simp [hlength]) (by omega) ?_
  intro part hpart
  rcases List.mem_append.1 hpart with hpart | hpart
  · obtain ⟨c, hc, rfl⟩ := List.mem_map.1 hpart
    exact isPhrase_column (hkeys c hc)
  · obtain rfl := List.mem_singleton.1 hpart
    exact isPhrase_sound ha

theorem keepsTo_star {tables : List Table} {limit : ℕ} : KeepsTo tables limit "*" := by
  have hspells : Spells "*" [star] := spells_of_fixedTokens? (by decide +kernel)
  exact keepsTo_of_isFixed hspells (by decide) (by simp [Shallow, depthsFrom])

include hg

theorem expands_selectItems {scope : Scope} (h : Scope.Usable g scope) :
    Expands g (innerRules g.levels) (fun items => items.1.Fill g scope items.2)
      (selectItems g scope) := by
  have hcount : ∀ {high : ℤ}, Width.fitsSigned 64 high → 1 ≤ high →
      Expands g (innerRules g.levels) (fun n : ℤ => 1 ≤ n ∧ n ≤ high)
        (liftM (Sampling.between "items.count" 1 high)) := expands_count
  refine (expands_expand (by simp [innerRules])).bind fun rule _ => ?_
  split
  · have hsum : scope.foldl (fun n t => n + t.columns.length) 0 =
        (scope.map (·.columns.length)).sum := by
      rw [List.sum_eq_foldl, List.foldl_map]
    refine expands_pure ⟨.inl rfl, keepsTo_star, fun _ => hsum, ?_⟩
    rw [hsum]
    exact width_pos h
  · refine (hcount (by decide) (by decide)).bind fun count hcount => ?_
    refine (expands_repeated (finds_value hg h).inner _).bind fun es hes => expands_pure ?_
    refine items_fill _ (by simp) (by simp [Items.text]; rfl) hes.1 (by omega) hes.2
  · refine (hcount (by decide) (by decide)).bind fun count hcount => ?_
    refine (expands_repeated (finds_aggregate h).inner _).bind fun as has => expands_pure ?_
    exact items_fill _ (by simp) rfl has.1 (by omega) fun a ha => isPhrase_sound (has.2 a ha)
  · refine (hcount (by decide) (by decide)).bind fun count hcount => ?_
    refine (expands_repeated (expands_anyColumn h) _).bind fun cs hcs => expands_pure ?_
    refine items_fill (cs.map (·.1)) (by simp) rfl (by simp [hcs.1]) (by omega) ?_
    intro c hc
    obtain ⟨pair, hpair, rfl⟩ := List.mem_map.1 hc
    exact isPhrase_column (hcs.2 pair hpair)

theorem traces_groupedItems {scope : Scope} (h : Scope.Usable g scope) :
    Traces g (Chosen .group fun rule r rest => rest ⊆ innerRules g.levels ∧
      r.1.Fill g scope r.2.1 ∧ (∀ grouping ∈ r.2.2, grouping.Sound g.tables g.nesting) ∧
      (r.2.2.isSome ↔ rule ∈ callingRules .groupBy) ∧
      ((∃ grouping ∈ r.2.2, grouping.having.isSome) ↔ rule ∈ callingRules .having))
      (groupedItems g scope) := by
  apply traces_chosen
  intro rule hrule
  have hrules : rule = "group.none" ∨ rule = "group.by" ∨ rule = "group.having" := by
    simpa [Nonterminal.rules, Nonterminal.alternatives] using hrule
  split
  · rename_i hnone
    obtain rfl : rule = "group.none" := by simpa using hnone
    refine (expands_selectItems hg h).bind fun items hitems => expands_pure ?_
    exact ⟨hitems, by simp, by simp [callingRules], by simp [callingRules]⟩
  · rename_i hgroup
    replace hrules : rule = "group.by" ∨ rule = "group.having" := by simp_all
    refine Expands.bind (expands_count (by decide) (by decide)) fun count hcount => ?_
    refine (expands_repeated (expands_anyColumn h) _).bind fun cs hcs => ?_
    refine (finds_aggregate h).inner.bind fun a ha => ?_
    have hin : ∀ c ∈ cs.map (·.1), c.IsIn g.tables := by
      intro c hc
      obtain ⟨pair, hpair, rfl⟩ := List.mem_map.1 hc
      exact hcs.2 pair hpair
    have hitems : (Items.grouped (cs.map (·.1)) a).Fill g scope (count.toNat + 1) :=
      grouped_fill (by simp [hcs.1]) hin ha
    have hkeys : cs.map (·.1) ≠ [] := by
      rw [← List.length_pos_iff, List.length_map, hcs.1]
      omega
    rcases hrules with rfl | rfl
    · refine expands_pure ⟨hitems, ?_, by simp [callingRules], by simp [callingRules]⟩
      intro grouping hgrouping
      obtain rfl := Option.some.inj hgrouping
      exact ⟨hkeys, hin, by simp⟩
    · refine (finds_aggregate h).inner.bind fun a' ha' => ?_
      refine (finds_literal g.nesting .integer).inner.bind fun bound hbound => ?_
      refine expands_pure ⟨hitems, ?_, by simp [callingRules], by simp [callingRules]⟩
      intro grouping hgrouping
      obtain rfl := Option.some.inj hgrouping
      exact ⟨hkeys, hin, by simpa using ⟨isPhrase_sound ha', hbound⟩⟩

/-! ## Optional clauses -/

theorem traces_condition? (nt : Nonterminal) (rule : String) {scope : Scope}
    (h : Scope.Usable g scope) :
    Traces g (Chosen nt fun chosen condition rest => rest ⊆ phraseRules g.levels ∧
      (condition.isSome ↔ chosen = rule) ∧ ∀ p ∈ condition, IsPhrase g.tables g.nesting p.text)
      (condition? g nt rule scope) := by
  apply traces_chosen
  intro chosen _
  split
  · rename_i hchosen
    refine (finds_condition hg h).bind fun p hp => expands_pure ⟨?_, by simpa using hp⟩
    simpa using hchosen
  · rename_i hchosen
    refine expands_pure ⟨?_, by simp⟩
    simpa using hchosen

/-- The second query has as many output columns as the first one. -/
theorem finds_compoundArm {width : ℕ} :
    Finds g g.levels (fun arm => arm.items.length = width ∧
      (∀ e ∈ arm.items, IsPhrase g.tables g.nesting e.text) ∧ IsKnown g.tables arm.table ∧
      ∀ p ∈ arm.condition, IsPhrase g.tables g.nesting p.text) (compoundArm g width) := by
  refine (expands_pick _ hg.ne_nil).bind fun table htable => ?_
  refine Expands.bind
    (expands_inTurn (P := fun e => IsPhrase g.tables g.nesting e.text) ?_) fun items hitems => ?_
  · intro program hprogram
    obtain ⟨i, -, rfl⟩ := List.mem_map.1 hprogram
    split
    · rename_i c hc
      have hin : ColumnRef.IsIn g.tables ⟨none, c.name⟩ :=
        ⟨table, htable, c, List.mem_of_getElem? hc, rfl, by simp⟩
      exact expands_pure (isPhrase_column hin)
    · exact Expands.map (finds_literal g.nesting .integer)
  obtain ⟨hlength, hterms⟩ := hitems
  rw [List.length_map, List.length_range] at hlength
  refine (expands_draw _).bind fun filtered _ => ?_
  split
  · refine (finds_condition hg (hg.single htable)).bind fun p hp => expands_pure ?_
    exact ⟨hlength, hterms, isKnown_table htable, by simpa using hp⟩
  · exact expands_pure ⟨hlength, hterms, isKnown_table htable, by simp⟩

theorem traces_compound? {width : ℕ} (hwidth : 1 ≤ width) :
    Traces g (Chosen .compound fun rule compound rest => rest ⊆ phraseRules g.levels ∧
      (compound.isSome ↔ rule ∈ callingRules .compound) ∧
      ∀ c ∈ compound, c.Sound g.tables g.nesting ∧ c.arm.items.length = width)
      (compound? g width) := by
  have hpart : ∀ rule ∈ callingRules .compound, ∀ op ∈ compoundWords.map (·.1),
      Finds g g.levels (fun compound : Option CompoundPart =>
        (compound.isSome ↔ rule ∈ callingRules .compound) ∧
        ∀ c ∈ compound, c.Sound g.tables g.nesting ∧ c.arm.items.length = width)
        (compoundArm g width >>= fun arm => pure (some ⟨op, arm⟩)) := by
    intro rule hrule op hop
    refine (finds_compoundArm hg).bind fun arm harm => expands_pure ⟨by simpa using hrule, ?_⟩
    obtain ⟨hlength, hterms, htable, hcondition⟩ := harm
    intro c hc
    obtain rfl := Option.some.inj hc
    refine ⟨⟨hop, ?_, hterms, htable, hcondition⟩, hlength⟩
    rw [← List.length_pos_iff, hlength]
    exact hwidth
  apply traces_chosen
  intro rule hrule
  have hrules : rule = "compound.none" ∨ rule ∈ callingRules .compound := by
    simpa [Nonterminal.rules, Nonterminal.alternatives, callingRules] using hrule
  rcases hrules with rfl | hcalling
  · exact expands_pure ⟨by decide, by simp⟩
  · split
    · exact absurd hcalling (by decide)
    · exact hpart _ hcalling _ (by decide)
    · exact hpart _ hcalling _ (by decide)
    · exact hpart _ hcalling _ (by decide)
    · exact hpart _ hcalling _ (by decide)

omit hg in
theorem yields_directions (n : ℕ) : (directions n).Yields fun ds => ds.length = n := by
  induction n with
  | zero => exact Sampling.yields_pure rfl
  | succ n ih =>
    refine (Sampling.yields_true _).bind fun first _ => ih.bind fun rest hrest => ?_
    exact Sampling.yields_pure (by rw [List.length_cons, hrest])

omit hg in
theorem traces_order? {width : ℕ} (hwidth : 1 ≤ width) :
    Traces g (Chosen .order fun rule order rest => rest ⊆ phraseRules g.levels ∧
      (order.isSome ↔ rule ∈ callingRules .orderBy) ∧ ∀ ds ∈ order, ds.length = width)
      (order? g width) := by
  apply traces_chosen
  intro rule hrule
  split
  · rename_i hby
    obtain rfl : rule = "order.by" := by simpa using hby
    refine Expands.bind (expands_lift (yields_directions (max width 1))) fun ds hds => ?_
    rw [max_eq_left hwidth] at hds
    exact expands_pure ⟨by simp [callingRules], by simpa using hds⟩
  · rename_i hby
    exact expands_pure ⟨by simpa [callingRules] using hby, by simp⟩

omit hg in
theorem traces_limit? :
    Traces g (Chosen .limit fun rule limit rest => rest ⊆ phraseRules g.levels ∧
      (limit.isSome ↔ rule ∈ callingRules .limit)) (limit? g) := by
  have hcount : Finds g g.levels (fun _ => True) (limitCount g) := by
    refine (expands_draw _).bind fun boundary _ => ?_
    split
    · exact (expands_draw _).bind fun edge _ => expands_pure trivial
    · exact expands_draw _
  apply traces_chosen
  intro rule hrule
  split
  · exact hcount.bind fun count _ => expands_pure (by simp [callingRules])
  · exact hcount.bind fun count _ => (expands_draw _).bind fun offset _ =>
      expands_pure (by simp [callingRules])
  · rename_i hcount hoffset
    refine expands_pure ?_
    simpa [callingRules] using ⟨hcount, hoffset⟩

/-! ## Whole selections -/

/-- What a selection is like, given the rules that decided on its clauses. -/
structure Selection.Follows (g : Setting) (choice : Nonterminal → String) (s : Selection)
    (scope : Scope) (width : ℕ) : Prop where
  sound : s.Sound g.tables g.nesting width
  shows : s.source.Shows g (choice .source) scope
  star : s.items = .star → width = (scope.map (·.columns.length)).sum
  condition : s.condition.isSome ↔ choice .filter ∈ callingRules .filter
  grouping : s.grouping.isSome ↔ choice .group ∈ callingRules .groupBy
  having : (∃ grouping ∈ s.grouping, grouping.having.isSome) ↔
    choice .group ∈ callingRules .having
  compound : s.compound.isSome ↔ choice .compound ∈ callingRules .compound
  arm : ∀ c ∈ s.compound, c.arm.items.length = width
  order : s.order.isSome ↔ choice .order ∈ callingRules .orderBy
  directions : ∀ ds ∈ s.order, ds.length = width
  limit : s.limit.isSome ↔ choice .limit ∈ callingRules .limit

/-- The rules that were chosen, each for its nonterminal. -/
def clauseChoice (source distinct group filter compound order limit : String) :
    Nonterminal → String
  | .source => source
  | .distinct => distinct
  | .group => group
  | .filter => filter
  | .compound => compound
  | .order => order
  | .limit => limit
  | _ => ""

theorem traces_selection :
    Traces g (fun s added => ∃ choice scope width, Decides g.levels choice added ∧
      s.Follows g choice scope width) (selection g) := by
  -- Clause by clause: the rule that was chosen, what was added behind it, and the clause itself.
  refine (traces_tableSource hg).bind ?_
  rintro ⟨source, scope⟩ - ⟨fromRule, hfrom, rest1, rfl, hrest1, hshows⟩
  have hscope := hshows.usable hg
  refine (traces_expand .distinct).bind ?_
  rintro distinct - ⟨hdistinct, rfl⟩
  refine (traces_groupedItems hg hscope).bind ?_
  rintro ⟨items, width, grouping⟩ - ⟨group, hgroup, rest2, rfl, hrest2, hfill, hgrouping⟩
  refine (traces_condition? hg .filter "where.predicate" hscope).bind ?_
  rintro condition - ⟨filter, hfilter, rest3, rfl, hrest3, hwhere, hcondition⟩
  refine (traces_compound? hg hfill.pos).bind ?_
  rintro compound - ⟨compoundRule, hcompound, rest4, rfl, hrest4, hcalled, harm⟩
  refine (traces_order? hfill.pos).bind ?_
  rintro order - ⟨orderRule, horder, rest5, rfl, hrest5, hby, hdirections⟩
  refine traces_limit?.bind ?_
  rintro limit - ⟨limitRule, hlimit, rest6, rfl, hrest6, hlimited⟩
  let choice := clauseChoice fromRule distinct group filter compoundRule orderRule limitRule
  refine traces_pure ⟨choice, scope, width, ⟨?_, ?_, ?_⟩, ?_⟩
  · simpa [clauseNonterminals, choice, clauseChoice] using
      ⟨hfrom, hdistinct, hgroup, hfilter, hcompound, horder, hlimit⟩
  · simp [clauseNonterminals, choice, clauseChoice]
  · have hrule : ∀ nt ∈ clauseNonterminals,
        choice nt ∈ innerRules g.levels ++ clauseNonterminals.map choice :=
      fun nt hnt => List.mem_append_right _ (List.mem_map_of_mem hnt)
    have hinner : ∀ rest ⊆ innerRules g.levels,
        rest ⊆ innerRules g.levels ++ clauseNonterminals.map choice :=
      fun rest h => List.Subset.trans h (List.subset_append_left _ _)
    have hphrase : ∀ rest ⊆ phraseRules g.levels,
        rest ⊆ innerRules g.levels ++ clauseNonterminals.map choice :=
      fun rest h => hinner rest (List.Subset.trans h phraseRules_subset)
    simp only [List.append_subset, List.cons_subset, List.nil_subset, and_true]
    exact ⟨⟨hrule .source (by decide), hinner _ hrest1⟩, hrule .distinct (by decide),
      ⟨hrule .group (by decide), hinner _ hrest2⟩, ⟨hrule .filter (by decide), hphrase _ hrest3⟩,
      ⟨hrule .compound (by decide), hphrase _ hrest4⟩,
      ⟨hrule .order (by decide), hphrase _ hrest5⟩, hrule .limit (by decide), hphrase _ hrest6⟩
  · obtain ⟨hgrouping, hgroupBy, hhaving⟩ := hgrouping
    have hsound : Selection.Sound g.tables g.nesting ⟨distinct == "select.distinct", items, source,
        condition, grouping, compound, order, limit⟩ width := by
      refine ⟨hfill.text, hfill.keeps, hshows.keeps, hcondition, hgrouping,
        fun c hc => (harm c hc).1, ?_⟩
      rintro ds hds rfl
      have hlength : 0 = width := hdirections [] hds
      have hpos : 1 ≤ width := hfill.pos
      omega
    refine ⟨hsound, hshows, hfill.star, ?_, hgroupBy, hhaving, hcalled,
      fun c hc => (harm c hc).2, hby, hdirections, hlimited⟩
    simpa [callingRules, choice, clauseChoice] using hwhere

end Grammar
end QueryFuzz
