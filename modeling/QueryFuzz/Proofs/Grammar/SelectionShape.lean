import QueryFuzz.Proofs.Grammar.Candidates

/-!
# The shape of generated selections

The generator knows a selection by the rules that it used, the rest of the program by the clauses
of its text. Both views agree: the rules tell the clauses, in their order, and with them whether the
rows are ordered and limited. The order lists all output columns, and the second query of a
compound selection has as many of them.
-/

namespace QueryFuzz
namespace Grammar

open Sql Draw

/-! ## The clauses of a selection -/

/-- The clauses that a selection need not have, in their order. -/
def optionalKinds : List ClauseKind :=
  [.join, .filter, .groupBy, .having, .compound, .orderBy, .limit]

/-- The clauses of a selection that uses these rules, in their order. -/
def clauseKinds (rules : NameSet) : List ClauseKind :=
  .head :: .source :: optionalKinds.filter fun kind => (callingRules kind).any rules.contains

/-- Does the selection have a part of this kind? -/
def Selection.has (s : Selection) : ClauseKind → Bool
  | .join => !s.source.join.tables.isEmpty
  | .filter => s.condition.isSome
  | .groupBy => s.grouping.isSome
  | .having => (s.grouping.bind (·.having)).isSome
  | .compound => s.compound.isSome
  | .orderBy => s.order.isSome
  | .limit => s.limit.isSome
  | _ => false

theorem Selection.kinds_parts (s : Selection) :
    s.parts.map (·.1) = .source :: optionalKinds.filter s.has := by
  have hjoin : (s.source.join.parts s.source.first).map (·.1) =
      if s.has .join then [ClauseKind.join] else [] := by
    unfold Selection.has
    cases s.source.join <;> rfl
  have hkinds : optionalKinds = [ClauseKind.join] ++ [ClauseKind.filter] ++ [ClauseKind.groupBy] ++
      [ClauseKind.having] ++ [ClauseKind.compound] ++ [ClauseKind.orderBy] ++
      [ClauseKind.limit] := rfl
  rw [hkinds]
  simp only [List.filter_append, List.filter_singleton, Bool.cond_eq_ite]
  simp only [Selection.parts, TableSource.parts, filterParts, groupingParts, compoundParts,
    orderParts, limitParts, List.map_append, List.map_cons, kinds_optionalPart, hjoin,
    List.cons_append, List.append_assoc]
  rfl

/-- One of the rules that call for a clause was used if and only if it was chosen where the clause
is decided on. -/
theorem Decides.called_iff {levels : ℕ} {choice : Nonterminal → String} {added : List String}
    {rules : NameSet} (h : Decides levels choice added)
    (hrules : ∀ r, r ∈ rules ↔ r ∈ "stmt.select" :: added)
    {kind : ClauseKind} {nt : Nonterminal} (hnt : nt ∈ clauseNonterminals)
    (hcalling : ∀ r ∈ callingRules kind, r ∈ nt.rules) :
    (callingRules kind).any rules.contains ↔ choice nt ∈ callingRules kind := by
  have hselect : "stmt.select" ∉ nt.rules := by
    intro hmem
    obtain rfl := eq_of_mem_rules hmem (show "stmt.select" ∈ Nonterminal.statement.rules by decide)
    exact absurd hnt (by decide)
  rw [List.any_eq_true]
  constructor
  · rintro ⟨r, hr, hused⟩
    rw [NameSet.contains_iff, hrules] at hused
    rcases List.mem_cons.1 hused with rfl | hused
    · exact absurd (hcalling _ hr) hselect
    · rwa [(h.mem_iff hnt (hcalling r hr)).1 hused] at hr
  · intro hmem
    refine ⟨choice nt, hmem, ?_⟩
    rw [NameSet.contains_iff, hrules]
    exact List.mem_cons_of_mem _ (h.mem_added nt hnt)

/-- The rules tell which parts a selection has. -/
theorem Selection.Follows.has_eq {g : Setting} {choice : Nonterminal → String} {s : Selection}
    {scope : Scope} {width : ℕ} (h : s.Follows g choice scope width)
    (hnames : (g.tables.map (·.name)).Nodup) {added : List String} {rules : NameSet}
    (hdecides : Decides g.levels choice added)
    (hrules : ∀ r, r ∈ rules ↔ r ∈ "stmt.select" :: added) :
    ∀ kind ∈ optionalKinds, s.has kind = (callingRules kind).any rules.contains := by
  have hcalled := fun {kind : ClauseKind} (nt : Nonterminal) (hnt : nt ∈ clauseNonterminals)
    (hcalling : ∀ r ∈ callingRules kind, r ∈ nt.rules) =>
      hdecides.called_iff hrules hnt hcalling
  intro kind hkind
  rw [Bool.eq_iff_iff]
  cases kind with
  | join =>
    rw [hcalled .source (by decide) (by decide), ← h.shows.join hnames]
    simp [Selection.has]
  | filter => rw [hcalled .filter (by decide) (by decide), ← h.condition, Selection.has]
  | groupBy => rw [hcalled .group (by decide) (by decide), ← h.grouping, Selection.has]
  | having =>
    rw [hcalled .group (by decide) (by decide), ← h.having, Selection.has, Option.isSome_bind]
    exact Option.any_eq_true _ _
  | compound => rw [hcalled .compound (by decide) (by decide), ← h.compound, Selection.has]
  | orderBy => rw [hcalled .order (by decide) (by decide), ← h.order, Selection.has]
  | limit => rw [hcalled .limit (by decide) (by decide), ← h.limit, Selection.has]
  | _ => exact absurd hkind (by decide)

/-! ## The tables of a statement -/

/-- The token behind a word. -/
def behind? (word : String) (ts : List Token) : Option Token :=
  (ts.dropWhile (!·.isWord word))[1]?

/-- The token that names a table, if the clause has one. -/
def tableToken? : ClauseKind × List Token → Option Token
  | (.source, ts) => behind? "FROM" ts
  | (.join, ts) => behind? "JOIN" ts
  | _ => none

/-- The tokens behind `FROM` and `JOIN`. -/
def tableTokens (s : Statement) : List Token :=
  s.sections.filterMap tableToken?

theorem behind?_from (t : Token) : behind? "FROM" [.ofKeyword "FROM", t] = some t := by
  have hword : (Token.ofKeyword "FROM").isWord "FROM" := by decide +kernel
  simp [behind?, hword]

theorem behind?_join {words : List Token} (hwords : words ∈ joinWords) (t : Token)
    (after : List Token) : behind? "JOIN" (words ++ t :: after) = some t := by
  have hjoin : (Token.ofKeyword "JOIN").isWord "JOIN" := by decide +kernel
  have hleft : (Token.ofKeyword "LEFT").isWord "JOIN" = false := by decide +kernel
  have hcross : (Token.ofKeyword "CROSS").isWord "JOIN" = false := by decide +kernel
  obtain rfl | rfl | rfl : words = [.ofKeyword "JOIN"] ∨
      words = [.ofKeyword "LEFT", .ofKeyword "JOIN"] ∨
      words = [.ofKeyword "CROSS", .ofKeyword "JOIN"] := by
    simpa [joinWords] using hwords
  all_goals simp [behind?, hjoin, hleft, hcross]

theorem tableToken?_joins (first : String) (join : Join) :
    (tokenParts (join.parts first)).filterMap tableToken? = join.tables.map nameToken := by
  have hparts := spellsPart_join first join
  cases join with
  | none => rfl
  | _ =>
    obtain ⟨table, words, after, htables, hwords, hpart⟩ := hparts _ (List.mem_singleton_self _)
    have hbehind := behind?_join hwords (nameToken table) after
    rw [← textTokens_eq hpart.spells] at hbehind
    rw [htables]
    exact List.filterMap_cons_some hbehind

/-- The clauses behind the joins name no table. -/
theorem tableToken?_optionalPart {α : Type} {kind : ClauseKind} {text : α → String}
    (hkind : kind ∉ [.source, .join]) (o : Option α) :
    (tokenParts (optionalPart kind text o)).filterMap tableToken? = [] := by
  cases o with
  | none => rfl
  | some a => cases kind <;> first | rfl | simp at hkind

theorem tableTokens_eq {s : Selection} {statement : Statement} {head : List Token}
    (hsections : statement.sections = (.head, head) :: tokenParts s.parts) :
    tableTokens statement = (s.source.first :: s.source.join.tables).map nameToken := by
  have hfrom : tableToken? (.source, textTokens (" FROM " ++ quoteIdentifier s.source.first)) =
      some (nameToken s.source.first) := by
    rw [textTokens_eq (spellsPart_source s.source.first).spells]
    exact behind?_from _
  have hjoins := tableToken?_joins s.source.first s.source.join
  rw [tableTokens, hsections, List.filterMap_cons_none rfl]
  simp (disch := decide) only [Selection.parts, TableSource.parts, filterParts, groupingParts,
    compoundParts, orderParts, limitParts, tokenParts_append, List.filterMap_append,
    tableToken?_optionalPart, List.append_nil]
  rw [tokenParts, List.map_cons, List.filterMap_cons_some hfrom, ← tokenParts, hjoins]
  rfl

/-! ## Widths -/

/-- The parts of a selection are of other kinds, or its second query, or its order. -/
theorem Selection.mem_parts {s : Selection} {part : ClauseKind × String} (h : part ∈ s.parts) :
    part.1 ∈ [ClauseKind.source, .join, .filter, .groupBy, .having, .limit] ∨
      (∃ c ∈ s.compound, part = (.compound, compoundText (some c))) ∨
      ∃ directions ∈ s.order, part = (.orderBy, " " ++ orderByText directions) := by
  simp only [Selection.parts, TableSource.parts, groupingParts, List.mem_append,
    List.mem_cons] at h
  obtain ((((((rfl | hjoin) | hfilter) | hgroup | hhaving) | hcompound) | horder) | hlimit) := h
  · simp
  · simp [kind_of_mem_joinParts hjoin]
  · simp [kind_of_mem_optionalPart hfilter]
  · simp [kind_of_mem_optionalPart hgroup]
  · simp [kind_of_mem_optionalPart hhaving]
  · exact .inr (.inl (mem_optionalPart.1 hcompound))
  · exact .inr (.inr (mem_optionalPart.1 horder))
  · simp [kind_of_mem_optionalPart hlimit]

/-- The number of output columns of a statement, and what has to agree with it. Where all columns
are selected, it is the number of columns of all tables that are named. -/
structure HasWidth (schema : Schema) (s : Statement) (width : ℕ) : Prop where
  items : ¬ SelectsAll s → s.selectItems.length = width
  star : SelectsAll s → ∃ tables : List Table, (∀ t ∈ tables, t ∈ schema.tables) ∧
    tableTokens s = tables.map (nameToken ·.name) ∧
    width = (tables.map (·.columns.length)).sum
  order : ∀ ts, (ClauseKind.orderBy, ts) ∈ s.sections →
    ∃ directions, directions.length = width ∧ ts = orderTokens directions
  compound : ∀ ts, (ClauseKind.compound, ts) ∈ s.sections →
    ∃ operator words, ∃ arm : Statement, (operator, words) ∈ compoundWords ∧
      ts = words ++ arm.tokens ∧ arm.kind = .select ∧ ¬ SelectsAll arm ∧
      arm.selectItems.length = width

theorem hasWidth_of_follows {g : Setting} {schema : Schema}
    (hg : ∀ t ∈ g.tables, t ∈ schema.tables) {choice : Nonterminal → String} {s : Selection}
    {scope : Scope} {width : ℕ} (h : s.Follows g choice scope width) {statement : Statement}
    {ts : List Token} (hitems : IsItems ts)
    (hsections : statement.sections = (.head, selectWords s.distinct ++ ts) :: tokenParts s.parts)
    (hwidth : s.items = .star ∧ ts = [star] ∨
      ts ≠ [star] ∧ statement.selectItems.length = width) :
    HasWidth schema statement width := by
  have hpart : ∀ {kind : ClauseKind} {us : List Token}, kind ≠ .head →
      (kind, us) ∈ statement.sections → ∃ text, (kind, text) ∈ s.parts ∧ us = textTokens text := by
    intro kind us hkind hmem
    rw [hsections] at hmem
    rcases List.mem_cons.1 hmem with heq | hmem
    · exact absurd (Prod.mk.inj heq).1 hkind
    · obtain ⟨⟨kind', text⟩, hpart, heq⟩ := List.mem_map.1 hmem
      obtain ⟨rfl, rfl⟩ := Prod.mk.inj heq
      exact ⟨text, hpart, rfl⟩
  have hall : SelectsAll statement ↔ ts = [star] := by
    apply selectsAll_iff hsections hitems
    intro part hmem
    obtain ⟨⟨kind, text⟩, hpart, rfl⟩ := List.mem_map.1 hmem
    rcases Selection.mem_parts hpart with hkind | ⟨c, -, heq⟩ | ⟨directions, -, heq⟩
    · rintro rfl
      simp at hkind
    · simp [(Prod.mk.inj heq).1]
    · simp [(Prod.mk.inj heq).1]
  constructor
  · intro hnot
    rcases hwidth with ⟨-, hstar⟩ | ⟨-, hlength⟩
    · exact absurd (hall.2 hstar) hnot
    · exact hlength
  · intro hselects
    have hstar : s.items = .star := by
      rcases hwidth with ⟨hstar, -⟩ | ⟨hne, -⟩
      · exact hstar
      · exact absurd (hall.1 hselects) hne
    refine ⟨scope, fun t ht => hg t (h.shows.tables t ht), ?_, h.star hstar⟩
    rw [tableTokens_eq hsections, ← h.shows.names, List.map_map]
    rfl
  · intro us hmem
    obtain ⟨text, htext, rfl⟩ := hpart (by simp) hmem
    obtain ⟨directions, hdirections, rfl⟩ :
        ∃ directions ∈ s.order, text = " " ++ orderByText directions := by
      simpa using Selection.mem_parts htext
    have hspells := (spellsPart_order false (h.sound.order _ hdirections)).spells
    exact ⟨directions, h.directions _ hdirections, textTokens_eq hspells⟩
  · intro us hmem
    obtain ⟨text, htext, rfl⟩ := hpart (by simp) hmem
    obtain ⟨c, hc, rfl⟩ : ∃ c ∈ s.compound, text = compoundText (some c) := by
      simpa using Selection.mem_parts htext
    obtain ⟨words, arm, hwords, hkind, hlisted, hlength, hspells⟩ :=
      exists_arm (h.sound.compound c hc)
    exact ⟨c.operator, words, arm, hwords, textTokens_eq hspells.spells, hkind, hlisted,
      hlength.trans (h.arm c hc)⟩

/-! ## Generated selections -/

theorem hasClause_of_kinds {s : Statement} {rules : NameSet}
    (h : s.clauses.map (·.kind) = clauseKinds rules) {kind : ClauseKind}
    (hkind : kind ∈ optionalKinds) : s.hasClause kind = (callingRules kind).any rules.contains := by
  have hmem : s.hasClause kind ↔ kind ∈ s.clauses.map (·.kind) := by
    simp [Statement.hasClause]
  have hfront : kind ≠ .head ∧ kind ≠ .source := by
    constructor <;> rintro rfl <;> exact absurd hkind (by decide)
  rw [Bool.eq_iff_iff, hmem, h, clauseKinds, List.mem_cons, List.mem_cons, List.mem_filter]
  simp only [hfront, hkind, false_or, true_and]

/-- A generated selection has exactly the clauses that its rules call for, in their order, so they
also tell whether its rows are ordered and limited. It has a width: the order lists all positions
from one on up to it, and the second query of a compound selection has as many items. -/
theorem generate_select {config : Config} {database : ℕ} {schema : Schema} {frontier : NameSet}
    {source rest : Source} {c : Candidate} (hnames : (schema.tables.map (·.name)).Nodup)
    (hgenerate : generate config database schema frontier source = (.ok c, rest))
    (hselect : "stmt.select" ∈ c.rules) :
    ∃ s width, Statement.parse c.sql = .ok s ∧ s.kind = .select ∧
      s.clauses.map (·.kind) = clauseKinds c.rules ∧
      resultShape c.sql = ⟨c.rules.contains "order.by",
        c.rules.contains "limit.count" || c.rules.contains "limit.offset"⟩ ∧
      HasWidth schema s width := by
  -- A candidate was generated, so there is a table to generate it from.
  have husable : schema.usableTables ≠ [] := by
    intro hnone
    unfold generate at hgenerate
    rw [hnone] at hgenerate
    simp at hgenerate
  obtain ⟨c', rest', q, rule, hrule, added, hgenerate', hsql, hrules, hfollows⟩ :=
    exists_candidate config database frontier source husable
  obtain ⟨rfl, rfl⟩ : c = c' ∧ rest = rest' := by
    simpa [hgenerate] using hgenerate'
  obtain rfl : rule = "stmt.select" := by
    have hmem := (hrules "stmt.select").1 hselect
    exact ((mem_statement_rules hfollows.subset _ (by decide)).1 hmem).symm
  obtain ⟨selection, choice, scope, width, rfl, hdecides, hselection⟩ := hfollows.selection rfl
  obtain ⟨s, ts, hspells, hsentence, hkind, hitems, hsections, hwidth⟩ :=
    hselection.sound.exists_statement
  have hparse : parseScript c.sql = .ok [s] := by
    rw [hsql]
    exact hsentence.script_eq hspells
  have hdistinct : (schema.usableTables.map (·.name)).Nodup :=
    hnames.sublist (List.filter_sublist.map _)
  have hhas := hselection.has_eq hdistinct hdecides hrules
  have hkinds : s.clauses.map (·.kind) = clauseKinds c.rules := by
    have hsection : s.clauses.map (·.kind) = s.sections.map (·.1) := by
      simp [Statement.sections]
    have htokens : (tokenParts selection.parts).map (·.1) = selection.parts.map (·.1) := by
      simp [tokenParts]
    rw [hsection, hsections, List.map_cons, htokens, selection.kinds_parts, clauseKinds,
      List.filter_congr hhas]
  refine ⟨s, width, by rw [Statement.parse, hparse], hkind, hkinds, ?_, ?_⟩
  · unfold resultShape
    rw [hparse]
    simp [hkind, hasClause_of_kinds hkinds (show ClauseKind.orderBy ∈ optionalKinds by decide),
      hasClause_of_kinds hkinds (show ClauseKind.limit ∈ optionalKinds by decide), callingRules]
  · exact hasWidth_of_follows (fun t ht => (List.mem_filter.1 ht).1) hselection hitems hsections
      hwidth

/-- A selection from the storefront: the frontier holds the rules of all other statements. -/
theorem generate_select_storefront :
    let config : Config := ⟨3, 0.3, true⟩
    let frontier := NameSet.ofList ["stmt.insert", "stmt.update", "stmt.delete", "stmt.ddl"]
    ∃ c rest, (Schema.storefront.tables.map (·.name)).Nodup ∧
      generate config 0 .storefront frontier (.ofSeed 7 0) = (.ok c, rest) ∧
      "stmt.select" ∈ c.rules ∧
      ∃ s width, Statement.parse c.sql = .ok s ∧ s.kind = .select ∧
        s.clauses.map (·.kind) = clauseKinds c.rules ∧
        resultShape c.sql = ⟨c.rules.contains "order.by",
          c.rules.contains "limit.count" || c.rules.contains "limit.offset"⟩ ∧
        HasWidth .storefront s width := by
  intro config frontier
  have hnames : (Schema.storefront.tables.map (·.name)).Nodup := by decide
  have hfresh : freshAlternatives ⟨config, Schema.storefront.usableTables, frontier⟩ .empty
      .statement = [0] := by
    decide +kernel
  obtain ⟨c, rest, hgenerate, hselect⟩ :=
    exists_selection_of_fresh 0 (.ofSeed 7 0) (by decide) hfresh
  exact ⟨c, rest, hnames, hgenerate, hselect, generate_select hnames hgenerate hselect⟩

end Grammar
end QueryFuzz
