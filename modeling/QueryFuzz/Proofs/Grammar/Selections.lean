import QueryFuzz.Proofs.Grammar.Phrases
import QueryFuzz.Proofs.Sql.Parts

/-!
# The texts of selections

A selection is written as a head and one clause for each of its parts, so its clauses and its items
are known from the parts. The orders and the second queries of compound selections are read token
by token, because the number of their items has to agree with that of the head.
-/

namespace QueryFuzz
namespace Grammar

open Sql

/-! ## Conditions -/

def filterParts : Option Predicate → List (ClauseKind × String) :=
  optionalPart .filter fun p => " WHERE " ++ p.text

theorem joinParts_filterParts (condition : Option Predicate) :
    joinParts (filterParts condition) = whereText condition := by
  rw [filterParts, joinParts_optionalPart]
  cases condition <;> rfl

theorem arePartTexts_filterParts {condition : Option Predicate}
    (h : ∀ p ∈ condition, IsTermText p.text) : ArePartTexts false (filterParts condition) := by
  exact arePartTexts_optionalPart fun p hp =>
    isPartText_list where_mem_partFronts (h p hp).isListText

theorem isSentenceText_where {kind : StatementKind} {text : String} {condition : Option Predicate}
    (htext : IsSentenceText kind text) (h : ∀ p ∈ condition, IsTermText p.text) :
    IsSentenceText kind (text ++ whereText condition) := by
  obtain ⟨ts, hspells, hsentence⟩ := htext
  rw [← joinParts_filterParts]
  exact ⟨_, (arePartTexts_filterParts h).spells hspells hsentence⟩

/-! ## Heads -/

def headText (distinct : Bool) (items : String) : String :=
  "SELECT " ++ (if distinct then "DISTINCT " else "") ++ items

def star : Token := ⟨.operator, "*"⟩

/-- The head is `SELECT` with these items. -/
structure SpellsHead (distinct : Bool) (items : String) (ts : List Token) : Prop where
  spells : Spells (headText distinct items) (selectWords distinct ++ ts)
  sentence : IsSentence .select (selectWords distinct ++ ts)
  items : IsItems ts

theorem spellsHead_star (distinct : Bool) : SpellsHead distinct "*" [star] := by
  constructor
  · cases distinct <;> exact spells_of_fixedTokens? (by decide +kernel)
  · cases distinct <;> decide +kernel
  · decide

theorem spellsHead_list (distinct : Bool) {items : String} {ts : List Token}
    (hspells : Spells items ts) (hlist : IsList ts) : SpellsHead distinct items ts := by
  have hopens : Opens ("SELECT " ++ if distinct then "DISTINCT " else "")
      (selectWords distinct) := by
    cases distinct <;> exact opens_of_fixedTokens? (by decide +kernel)
  have hskeleton : IsSentence .select (selectWords distinct ++ [listGap]) := by
    cases distinct <;> decide +kernel
  have hfilled : Filled (selectWords distinct ++ [listGap]) (selectWords distinct ++ ts) := by
    simpa using (Filled.terms hlist.replaces .nil).append (selectWords distinct)
  exact ⟨hopens.append_spells hspells, hskeleton.filled hfilled, hlist.isItems⟩

/-- A list of terms is not the mark for all columns. -/
theorem ne_star_of_isList {ts : List Token} (h : IsList ts) : ts ≠ [star] := by
  rintro rfl
  exact absurd h.starts (by decide)

/-- The statement selects all columns of its tables. -/
def SelectsAll (s : Statement) : Prop :=
  ∃ distinct, (ClauseKind.head, selectWords distinct ++ [star]) ∈ s.sections

theorem eq_star_of_selectWords {distinct distinct' : Bool} {ts : List Token} (hitems : IsItems ts)
    (h : selectWords distinct ++ [star] = selectWords distinct' ++ ts) : ts = [star] := by
  have hstarts := hitems.starts
  have hword : (⟨.keyword, "DISTINCT"⟩ : Token).isAnyOf ["DISTINCT", "ALL"] := by decide +kernel
  cases distinct <;> cases distinct'
  · simpa [selectWords] using h.symm
  · simp [selectWords, star] at h
  · obtain rfl : ts = [⟨.keyword, "DISTINCT"⟩, star] := by simpa [selectWords] using h.symm
    simp [hword] at hstarts
  · simpa [selectWords] using h.symm

/-- The head is the only clause that tells whether all columns are selected. -/
theorem selectsAll_iff {s : Statement} {distinct : Bool} {ts : List Token}
    {parts : List (ClauseKind × List Token)}
    (hsections : s.sections = (.head, selectWords distinct ++ ts) :: parts) (hitems : IsItems ts)
    (hparts : ∀ part ∈ parts, part.1 ≠ .head) : SelectsAll s ↔ ts = [star] := by
  constructor
  · rintro ⟨distinct', hmem⟩
    rw [hsections] at hmem
    rcases List.mem_cons.1 hmem with heq | hmem
    · exact eq_star_of_selectWords hitems (Prod.mk.inj heq).2
    · exact absurd rfl (hparts _ hmem)
  · rintro rfl
    exact ⟨distinct, by simp [hsections]⟩

/-! ## Tables -/

def Join.parts (first : String) : Join → List (ClauseKind × String)
  | .none => []
  | .cross table => [(.join, " CROSS JOIN " ++ quoteIdentifier table)]
  | .on kind table leftColumn rightColumn =>
    [(.join, " " ++ kind.text ++ " " ++ quoteIdentifier table ++
      (" ON " ++ ((⟨some first, leftColumn⟩ : ColumnRef).text ++ " " ++ "=" ++ " " ++
        (⟨some table, rightColumn⟩ : ColumnRef).text)))]

def TableSource.parts (s : TableSource) : List (ClauseKind × String) :=
  (.source, " FROM " ++ quoteIdentifier s.first) :: s.join.parts s.first

theorem joinParts_source (s : TableSource) : joinParts s.parts = " FROM " ++ s.text := by
  obtain ⟨first, join⟩ := s
  cases join <;>
    simp [TableSource.parts, Join.parts, TableSource.text, joinParts, ColumnRef.text,
      String.append_assoc]

theorem isTerm_nameToken (name : String) : IsTerm [nameToken name] := by
  have h : IsTerm [nameGap] := by decide
  exact h.filled (.name (isNameToken_nameToken name) .nil)

theorem spellsPart_source (name : String) :
    SpellsPart false .source (" FROM " ++ quoteIdentifier name)
      [.ofKeyword "FROM", nameToken name] :=
  spellsPart_list from_mem_partFronts (spells_quoteIdentifier name)
    (isTerm_nameToken name).toIsList

/-- The tables that a join adds. -/
def Join.tables : Join → List String
  | .none => []
  | .cross table => [table]
  | .on _ table _ _ => [table]

/-- The words that can begin a join. -/
def joinWords : List (List Token) :=
  [[.ofKeyword "JOIN"], [.ofKeyword "LEFT", .ofKeyword "JOIN"],
    [.ofKeyword "CROSS", .ofKeyword "JOIN"]]

theorem JoinKind.exists_mem_partFronts (kind : JoinKind) :
    ∃ words ∈ joinWords, (false, .join, words, " " ++ kind.text ++ " ") ∈ partFronts := by
  cases kind with
  | inner => exact ⟨[.ofKeyword "JOIN"], by simp [joinWords], by decide⟩
  | left => exact ⟨[.ofKeyword "LEFT", .ofKeyword "JOIN"], by simp [joinWords], by decide⟩

/-- A join is its words, the name of its table and perhaps a condition. -/
theorem spellsPart_join (first : String) (join : Join) :
    ∀ part ∈ join.parts first, ∃ table words after, join.tables = [table] ∧ words ∈ joinWords ∧
      SpellsPart false part.1 part.2 (words ++ nameToken table :: after) := by
  have hname := fun table => (isTerm_nameToken table).toIsList
  intro part hpart
  cases join with
  | none => simp [Join.parts] at hpart
  | cross table =>
    obtain rfl := List.mem_singleton.1 hpart
    refine ⟨table, [.ofKeyword "CROSS", .ofKeyword "JOIN"], [], rfl, by simp [joinWords], ?_⟩
    exact spellsPart_list crossJoin_mem_partFronts (spells_quoteIdentifier table) (hname table)
  | on kind table left right =>
    obtain rfl := List.mem_singleton.1 hpart
    let l : ColumnRef := ⟨some first, left⟩
    let r : ColumnRef := ⟨some table, right⟩
    have hleft : l.IsIn [l.home, r.home] := ColumnRef.isIn_of_home_mem (by simp)
    have hright : r.IsIn [l.home, r.home] := ColumnRef.isIn_of_home_mem (by simp)
    have hop : "=" ∈ comparisons := by decide
    have hcondition : IsPhrase [l.home, r.home] 0 (l.text ++ " " ++ "=" ++ " " ++ r.text) :=
      isPhrase_comparison hop (isPhrase_column hleft) (isPhrase_column hright)
    obtain ⟨ts, hts, hterm⟩ := hcondition.fits
    have hon := spellsRest_list on_mem_restFronts hts hterm.toIsList
    obtain ⟨words, hmem, hfront⟩ := kind.exists_mem_partFronts
    have hpart := spellsPart_list hfront (spells_quoteIdentifier table) (hname table)
    refine ⟨table, words, .ofKeyword "ON" :: ts, rfl, hmem, ?_⟩
    simpa using hpart.append hon

theorem kind_of_mem_joinParts {first : String} {join : Join} {part : ClauseKind × String}
    (h : part ∈ join.parts first) : part.1 = .join := by
  cases join with
  | none => simp [Join.parts] at h
  | _ =>
    obtain rfl := List.mem_singleton.1 h
    rfl

theorem arePartTexts_source (s : TableSource) : ArePartTexts false s.parts := by
  refine ⟨⟨_, spellsPart_source s.first⟩, ?_⟩
  show ArePartTexts false (s.join.parts s.first)
  have hjoin := spellsPart_join s.first s.join
  cases hs : s.join with
  | none => trivial
  | _ =>
    rw [hs] at hjoin
    obtain ⟨table, words, after, -, -, hpart⟩ := hjoin _ (List.mem_singleton_self _)
    exact ⟨⟨_, hpart⟩, trivial⟩

/-- The tables and the columns of a join are among the tables. -/
def Join.IsIn (tables : List Table) (first : String) : Join → Prop
  | .none => True
  | .cross table => IsKnown tables table
  | .on _ table left right =>
    ColumnRef.IsIn tables ⟨some first, left⟩ ∧ ColumnRef.IsIn tables ⟨some table, right⟩

structure TableSource.IsIn (tables : List Table) (s : TableSource) : Prop where
  first : IsKnown tables s.first
  join : s.join.IsIn tables s.first

/-! ## Groups -/

def groupingParts (grouping : Option Grouping) : List (ClauseKind × String) :=
  optionalPart .groupBy (fun g => " GROUP BY " ++ commaList (g.keys.map (·.text))) grouping ++
    optionalPart .having (fun h => " HAVING " ++ (h.1.text ++ " " ++ ">" ++ " " ++ h.2))
      (grouping.bind (·.having))

theorem joinParts_groupingParts (grouping : Option Grouping) :
    joinParts (groupingParts grouping) = groupingText grouping := by
  rw [groupingParts, joinParts_append, joinParts_optionalPart, joinParts_optionalPart]
  rcases grouping with - | ⟨keys, - | ⟨a, bound⟩⟩ <;> simp [groupingText, String.append_assoc]

/-- There are keys, and an aggregate and its bound are terms. -/
structure Grouping.Sound (tables : List Table) (limit : ℕ) (g : Grouping) : Prop where
  ne_nil : g.keys ≠ []
  keys : ∀ c ∈ g.keys, c.IsIn tables
  having : ∀ h ∈ g.having, IsPhrase tables limit h.1.text ∧ IsPhrase tables limit h.2

theorem arePartTexts_groupingParts {tables : List Table} {limit : ℕ} {grouping : Option Grouping}
    (h : ∀ g ∈ grouping, g.Sound tables limit) :
    ArePartTexts false (groupingParts grouping) := by
  have hop : ">" ∈ comparisons := by decide
  refine (arePartTexts_optionalPart fun g hg => ?_).append_of_ne (fun part hpart => ?_)
    (arePartTexts_optionalPart fun pair hpair => ?_)
  · have hkeys : ∀ c ∈ g.keys, IsPhrase tables limit c.text :=
      fun c hc => isPhrase_column ((h g hg).keys c hc)
    exact isPartText_list groupBy_mem_partFronts (isListText_commaList_map (h g hg).ne_nil hkeys).1
  · simp [kind_of_mem_optionalPart hpart]
  · obtain ⟨g, hg, hpair⟩ := Option.bind_eq_some_iff.1 hpair
    obtain ⟨haggregate, hbound⟩ := (h g hg).having pair hpair
    exact isPartText_list having_mem_partFronts (isPhrase_comparison hop haggregate hbound).fits.isListText

/-! ## Compound selections -/

/-- The operators of compound selections, with their tokens. -/
def compoundWords : List (String × List Token) :=
  [("UNION", [.ofKeyword "UNION"]), ("UNION ALL", [.ofKeyword "UNION", .ofKeyword "ALL"]),
    ("INTERSECT", [.ofKeyword "INTERSECT"]), ("EXCEPT", [.ofKeyword "EXCEPT"])]

theorem compound_mem_partFronts : ∀ w ∈ compoundWords,
    (false, .compound, w.2 ++ [.ofKeyword "SELECT"], " " ++ w.1 ++ " SELECT ") ∈ partFronts := by
  decide

/-- The second query has output columns, all of them terms. -/
structure CompoundPart.Sound (tables : List Table) (limit : ℕ) (c : CompoundPart) : Prop where
  operator : c.operator ∈ compoundWords.map (·.1)
  ne_nil : c.arm.items ≠ []
  items : ∀ e ∈ c.arm.items, IsPhrase tables limit e.text
  table : IsKnown tables c.arm.table
  condition : ∀ p ∈ c.arm.condition, IsPhrase tables limit p.text

/-- A condition inside a compound arm begins no clause. -/
theorem spellsMore_where {condition : Option Predicate} (h : ∀ p ∈ condition, IsTermText p.text) :
    SpellsMore true (whereText condition) (partsTokens (tokenParts (filterParts condition))) := by
  cases condition with
  | none => exact .inl ⟨rfl, rfl⟩
  | some p =>
    obtain ⟨ts, hspells, hterm⟩ := h p rfl
    have hfront : (true, [.ofKeyword "WHERE"], " WHERE ") ∈ restFronts := by simp [restFronts]
    have hrest := spellsRest_list hfront hspells hterm.toIsList
    have htokens : partsTokens (tokenParts (filterParts (some p))) =
        [.ofKeyword "WHERE"] ++ ts := by
      simp [partsTokens, tokenParts, filterParts, optionalPart, textTokens_eq hrest.spells]
    rw [htokens]
    exact .inr hrest

/-- The clause of a compound selection is an operator and a statement with as many items as the
second query has output columns. -/
theorem exists_arm {tables : List Table} {limit : ℕ} {c : CompoundPart}
    (h : c.Sound tables limit) :
    ∃ words, ∃ arm : Statement, (c.operator, words) ∈ compoundWords ∧ arm.kind = .select ∧
      ¬ SelectsAll arm ∧ arm.selectItems.length = c.arm.items.length ∧
      SpellsPart false .compound (compoundText (some c)) (words ++ arm.tokens) := by
  obtain ⟨ts, hspells, hlist, hcount⟩ := (isListText_commaList_map h.ne_nil h.items).1
  have hcondition : ∀ p ∈ c.arm.condition, IsTermText p.text := fun p hp => (h.condition p hp).fits
  -- The arm is read twice: as a statement of its own, and as the rest of the compound clause.
  have hhead := spellsHead_list false hspells hlist
  have hsource := spellsPart_source c.arm.table
  have hparts : ArePartTexts false
      ((.source, " FROM " ++ quoteIdentifier c.arm.table) :: filterParts c.arm.condition) :=
    ⟨⟨_, hsource⟩, arePartTexts_filterParts hcondition⟩
  obtain ⟨arm, htokens, -, -, hkind, hsections, hitems⟩ :=
    exists_select hhead.spells hhead.sentence hhead.items hparts
  have hlisted : ¬ SelectsAll arm := by
    rw [selectsAll_iff hsections hhead.items]
    · exact ne_star_of_isList hlist
    · cases c.arm.condition <;> simp [tokenParts, filterParts, optionalPart]
  obtain ⟨⟨operator, words⟩, hwords, hoperator⟩ := List.mem_map.1 h.operator
  have hpart := spellsPart_list (compound_mem_partFronts _ hwords) hspells hlist
  have hfrom := spellsRest_list from_mem_restFronts (spells_quoteIdentifier c.arm.table)
    (isTerm_nameToken c.arm.table).toIsList
  have hwhole := (hpart.append hfrom).more (spellsMore_where hcondition)
  refine ⟨words, arm, hoperator ▸ hwords, hkind, hlisted, hitems.trans hcount, ?_⟩
  have htext : compoundText (some c) = " " ++ operator ++ " SELECT " ++
      commaList (c.arm.items.map (·.text)) ++ (" FROM " ++ quoteIdentifier c.arm.table) ++
        whereText c.arm.condition := by
    simp [compoundText, ← hoperator, String.append_assoc]
  have harm : words ++ arm.tokens = words ++ [.ofKeyword "SELECT"] ++ ts ++
      ([.ofKeyword "FROM"] ++ [nameToken c.arm.table]) ++
        partsTokens (tokenParts (filterParts c.arm.condition)) := by
    simp [htokens, selectWords, Token.ofKeyword, partsTokens, tokenParts,
      textTokens_eq hsource.spells]
  rw [htext, harm]
  exact hwhole

/-! ## Orders -/

/-- The tokens of a direction. -/
def directionTokens (descending : Bool) : List Token :=
  if descending then [.ofKeyword "DESC"] else []

/-- The tokens of the positions of an order from one on, all behind a comma. -/
def positionTokens (position : ℕ) : List Bool → List Token
  | [] => []
  | descending :: rest =>
    ⟨.comma, ","⟩ :: wholeNumber position ::
      (directionTokens descending ++ positionTokens (position + 1) rest)

/-- The tokens of an order by all positions, one direction for each. -/
def orderTokens : List Bool → List Token
  | [] => []
  | descending :: rest =>
    .ofKeyword "ORDER" :: .ofKeyword "BY" :: wholeNumber 1 ::
      (directionTokens descending ++ positionTokens 2 rest)

def directionText (descending : Bool) : String :=
  if descending then " DESC" else ""

def positionsText (position : ℕ) : List Bool → String
  | [] => ""
  | descending :: rest =>
    ", " ++ toString position ++ (directionText descending ++ positionsText (position + 1) rest)

theorem orderTerms_cons (position : ℕ) (descending : Bool) (rest : List Bool) :
    orderTerms position (descending :: rest) =
      (toString position ++ directionText descending) :: orderTerms (position + 1) rest := by
  cases descending with
  | true => rfl
  | false => simp [orderTerms, directionText]

theorem intercalate_orderTerms (position : ℕ) (descending : Bool) (rest : List Bool) :
    ", ".intercalate (orderTerms position (descending :: rest)) =
      toString position ++ (directionText descending ++ positionsText (position + 1) rest) := by
  induction rest generalizing position descending with
  | nil =>
    rw [orderTerms_cons]
    simp [orderTerms, positionsText]
  | cons next rest ih =>
    have hrest := ih (position + 1) next
    rw [orderTerms_cons] at hrest
    rw [orderTerms_cons, orderTerms_cons, String.intercalate_cons_cons, hrest, positionsText]
    simp [String.append_assoc]

theorem isList_wholeNumber (n : ℕ) : IsList [wholeNumber n] :=
  (isTerm_of_isLiteral rfl).toIsList

theorem spells_wholeNumber (n : ℕ) : Spells (toString n) [wholeNumber n] :=
  (isLexeme_wholeNumber n).spells

theorem spellsMore_direction (descending : Bool) :
    SpellsMore false (directionText descending) (directionTokens descending) := by
  cases descending with
  | false => exact .inl ⟨rfl, rfl⟩
  | true =>
    refine .inr ⟨⟨by decide, ?_, by decide +kernel⟩, by decide +kernel⟩
    exact spells_of_fixedTokens? (by decide +kernel)

theorem spellsMore_positions (position : ℕ) (directions : List Bool) :
    SpellsMore false (positionsText position directions) (positionTokens position directions) := by
  induction directions generalizing position with
  | nil => exact .inl ⟨rfl, rfl⟩
  | cons descending rest ih =>
    have hfront : (false, [⟨.comma, ","⟩], ", ") ∈ restFronts := by simp [restFronts]
    have hnumber := spellsRest_list hfront (spells_wholeNumber position)
      (isList_wholeNumber position)
    exact SpellsMore.append (.inr hnumber) ((spellsMore_direction descending).append (ih _))

/-- An order is a clause of the positions from one on, wherever it stands. -/
theorem spellsPart_order (inCompound : Bool) {directions : List Bool} (hne : directions ≠ []) :
    SpellsPart inCompound .orderBy (" " ++ orderByText directions) (orderTokens directions) := by
  obtain ⟨descending, rest, rfl⟩ := List.exists_cons_of_ne_nil hne
  have hfront : (inCompound, .orderBy, [.ofKeyword "ORDER", .ofKeyword "BY"], " ORDER BY ") ∈
      partFronts := by
    cases inCompound <;> simp [partFronts]
  have hnumber := spellsPart_list hfront (spells_wholeNumber 1) (isList_wholeNumber 1)
  have hmore := (spellsMore_direction descending).append (spellsMore_positions 2 rest)
  have hpart := hnumber.more hmore
  have htext : " " ++ orderByText (descending :: rest) = " ORDER BY " ++ toString 1 ++
      (directionText descending ++ positionsText 2 rest) := by
    have hfront : " " ++ "ORDER BY " = " ORDER BY " := by decide
    rw [orderByText, intercalate_orderTerms, ← String.append_assoc, hfront, String.append_assoc]
  rw [htext]
  exact hpart

/-! ## Limits -/

def limitParts : Option LimitPart → List (ClauseKind × String) :=
  optionalPart .limit fun l => limitText (some l)

theorem isPartText_limit (inCompound : Bool) (l : LimitPart) :
    IsPartText inCompound .limit (limitText (some l)) := by
  obtain ⟨count, offset⟩ := l
  obtain ⟨ts, hspells, hterm⟩ := isTermText_integer count
  have hcount := spellsPart_list (limit_mem_partFronts inCompound) hspells hterm.toIsList
  cases offset with
  | none => exact ⟨_, by simpa [limitText] using hcount⟩
  | some n =>
    obtain ⟨us, hspells', hterm'⟩ := isTermText_integer n
    have hoffset := spellsRest_list offset_mem_restFronts hspells' hterm'.toIsList
    exact ⟨_, hcount.append hoffset⟩

/-! ## Whole selections -/

def compoundParts : Option CompoundPart → List (ClauseKind × String) :=
  optionalPart .compound fun c => compoundText (some c)

def orderParts : Option (List Bool) → List (ClauseKind × String) :=
  optionalPart .orderBy fun directions => " " ++ orderByText directions

/-- The clauses of a selection behind its head. -/
def Selection.parts (s : Selection) : List (ClauseKind × String) :=
  s.source.parts ++ filterParts s.condition ++ groupingParts s.grouping ++
    compoundParts s.compound ++ orderParts s.order ++ limitParts s.limit

theorem Selection.text_eq (s : Selection) :
    s.text = headText s.distinct s.items.text ++ joinParts s.parts := by
  obtain ⟨distinct, items, source, condition, grouping, compound, order, limit⟩ := s
  have hsource := joinParts_source source
  have hfilter := joinParts_filterParts condition
  have hgrouping := joinParts_groupingParts grouping
  have hcompound : joinParts (compoundParts compound) = compoundText compound := by
    rw [compoundParts, joinParts_optionalPart]
    cases compound <;> rfl
  have hlimit : joinParts (limitParts limit) = limitText limit := by
    rw [limitParts, joinParts_optionalPart]
    cases limit <;> rfl
  unfold Selection.text Selection.parts headText orderParts
  simp only [joinParts_append, hsource, hfilter, hgrouping, hcompound, hlimit,
    joinParts_optionalPart, String.append_assoc]
  cases order <;> rfl

/-- What a selection needs to be a statement over the tables with output columns of this number. -/
structure Selection.Sound (tables : List Table) (limit : ℕ) (s : Selection) (width : ℕ) :
    Prop where
  items : s.items = .star ∨ IsListText width s.items.text
  keeps : KeepsTo tables limit s.items.text
  source : s.source.IsIn tables
  condition : ∀ p ∈ s.condition, IsPhrase tables limit p.text
  grouping : ∀ g ∈ s.grouping, g.Sound tables limit
  compound : ∀ c ∈ s.compound, c.Sound tables limit
  order : ∀ directions ∈ s.order, directions ≠ []

theorem Selection.Sound.exists_head {tables : List Table} {limit : ℕ} {s : Selection} {width : ℕ}
    (h : s.Sound tables limit width) : ∃ ts, SpellsHead s.distinct s.items.text ts ∧
      textTokens s.items.text = ts ∧
      (s.items = .star ∧ ts = [star] ∨ ts ≠ [star] ∧ itemCount ts = width) := by
  rcases h.items with hstar | ⟨ts, hspells, hlist, hcount⟩
  · rw [hstar]
    have hspells : Spells "*" [star] := spells_of_fixedTokens? (by decide +kernel)
    exact ⟨[star], spellsHead_star s.distinct, textTokens_eq hspells, .inl ⟨rfl, rfl⟩⟩
  · exact ⟨ts, spellsHead_list s.distinct hspells hlist, textTokens_eq hspells,
      .inr ⟨ne_star_of_isList hlist, hcount⟩⟩

theorem Selection.Sound.arePartTexts {tables : List Table} {limit : ℕ} {s : Selection} {width : ℕ}
    (h : s.Sound tables limit width) : ArePartTexts false s.parts := by
  have hcondition : ∀ p ∈ s.condition, IsTermText p.text := fun p hp => (h.condition p hp).fits
  have hcompound : ArePartTexts false (compoundParts s.compound) := by
    apply arePartTexts_optionalPart
    intro c hc
    obtain ⟨words, arm, -, -, -, -, hpart⟩ := exists_arm (h.compound c hc)
    exact ⟨_, hpart⟩
  have horder : ∀ inCompound, ArePartTexts inCompound (orderParts s.order) := fun inCompound =>
    arePartTexts_optionalPart fun ds hds => ⟨_, spellsPart_order inCompound (h.order ds hds)⟩
  have hlimit : ∀ inCompound, ArePartTexts inCompound (limitParts s.limit) := fun inCompound =>
    arePartTexts_optionalPart fun l _ => isPartText_limit inCompound l
  -- Only behind the second query does it matter whether a compound arm is open.
  simp only [Selection.parts, List.append_assoc]
  refine (arePartTexts_source s.source).append_of_ne ?_ <|
    (arePartTexts_filterParts hcondition).append_of_ne ?_ <|
    (arePartTexts_groupingParts h.grouping).append_of_ne ?_ <|
    hcompound.append ((horder _).append (hlimit _))
  · intro part hpart
    rcases List.mem_cons.1 hpart with rfl | hjoin
    · simp
    · simp [kind_of_mem_joinParts hjoin]
  · intro part hpart
    simp [kind_of_mem_optionalPart hpart]
  · intro part hpart
    rcases List.mem_append.1 hpart with hgroup | hhaving
    · simp [kind_of_mem_optionalPart hgroup]
    · simp [kind_of_mem_optionalPart hhaving]

end Grammar
end QueryFuzz
