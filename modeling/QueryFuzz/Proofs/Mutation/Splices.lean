import QueryFuzz.Proofs.Grammar.Selections
import QueryFuzz.Proofs.Mutation.Widths
import QueryFuzz.Proofs.Sql.Names
import QueryFuzz.Proofs.Sql.SelectLists

/-!
# What spliced pieces refer to

A piece of a donor is spliced in only if its names are found: the columns among the columns of all
tables that the statement references, the qualifiers among the names of these tables. A column and
its qualifier are looked up apart from each other, so a piece can name a column of one table with
the name of another in front of it. No donor has such a piece to offer just where all referenced
tables have the same columns.
-/

namespace QueryFuzz
namespace Mutation

open Sql Grammar

/-! ## The columns that a piece names -/

/-- A column as a piece names it. -/
structure ColumnName where
  qualifier : Option String
  name : String
  deriving DecidableEq, Repr

/-- The name in front of the point in front of a token, if there is one. -/
def qualifyingName? (piece : List Token) (i : ℕ) : Option String :=
  if piece[i - 2]?.any isName then qualifierAt? piece i else none

def columnNameAt? (piece : List Token) (i : ℕ) (t : Token) : Option ColumnName :=
  if isName t && !isOperatorName piece i then some ⟨qualifyingName? piece i, unquote t.text⟩
  else none

/-- The names of a piece that are neither functions nor qualifiers. -/
def columnNames (piece : List Token) : List ColumnName :=
  piece.zipIdx.filterMap fun (t, i) => columnNameAt? piece i t

/-- Is it a column of the table that its qualifier names, or of any if it has none? -/
def ColumnName.isIn (tables : List Table) (c : ColumnName) : Bool :=
  (ownerOf? tables c.qualifier c.name).any (hasColumn c.name)

variable {tables : List Table} {piece : List Token} {i : ℕ} {t : Token} {c : ColumnName}
  {q name : String}

theorem mem_columnNames_iff : c ∈ columnNames piece ↔ ∃ i t, piece[i]? = some t ∧ isName t ∧
    isOperatorName piece i = false ∧ c = ⟨qualifyingName? piece i, unquote t.text⟩ := by
  simp only [columnNames, List.mem_filterMap, Prod.exists, List.mem_zipIdx_iff_getElem?]
  constructor
  · rintro ⟨t, i, ht, hc⟩
    unfold columnNameAt? at hc
    split_ifs at hc with hcolumn
    obtain ⟨hname, hplain⟩ := Bool.and_eq_true_iff.1 hcolumn
    exact ⟨i, t, ht, hname, by simpa using hplain, (Option.some.inj hc).symm⟩
  · rintro ⟨i, t, ht, hname, hplain, rfl⟩
    exact ⟨t, i, ht, by rw [columnNameAt?, hname, hplain]; rfl⟩

/-- A qualifier is a name with a point behind it. -/
theorem exists_of_qualifyingName? (h : qualifyingName? piece i = some q) :
    ∃ j t, piece[j]? = some t ∧ isName t ∧ piece[j + 1]?.any (·.kind == .dot) ∧
      q = unquote t.text := by
  unfold qualifyingName? qualifierAt? at h
  split_ifs at h with hname hdot
  obtain ⟨t, ht, htext⟩ := Option.map_eq_some_iff.1 h
  have hnext : i - 2 + 1 = i - 1 := by omega
  rw [ht] at hname
  exact ⟨i - 2, t, ht, hname, by rw [hnext]; exact hdot.2, htext.symm⟩

/-- Without a qualifier, any table may have the column. -/
theorem ColumnName.isIn_unqualified : (⟨none, name⟩ : ColumnName).isIn tables =
    tables.any (hasColumn name) := by
  rw [ColumnName.isIn, ownerOf?]
  cases hfound : tables.find? (hasColumn name) with
  | none => simpa using List.find?_eq_none.1 hfound
  | some t => simpa [List.find?_some hfound] using
      ⟨t, List.mem_of_find?_eq_some hfound, List.find?_some hfound⟩

/-! ## Names that resolve -/

/-- A column is looked up in all tables, whatever stands in front of it. -/
theorem column_of_resolves (h : resolves tables piece) (ht : piece[i]? = some t)
    (hname : isName t) (hplain : isOperatorName piece i = false) :
    tables.any (hasColumn (unquote t.text)) := by
  have hall := List.all_eq_true.1 h (t, i) (List.mem_zipIdx_iff_getElem?.2 ht)
  unfold isOperatorName at hplain
  cases hnext : piece[i + 1]? with
  | none => simpa [hname, hnext] using hall
  | some n =>
    obtain ⟨hparen, hdot⟩ : n.kind ≠ .leftParen ∧ n.kind ≠ .dot := by simpa [hnext] using hplain
    simpa [hname, hnext, hparen, hdot] using hall

/-- A qualifier is looked up whatever stands behind its point. -/
theorem qualifier_of_resolves (h : resolves tables piece) (ht : piece[i]? = some t)
    (hname : isName t) (hdot : piece[i + 1]?.any (·.kind == .dot)) :
    (tableNamed? tables (unquote t.text)).isSome := by
  have hall := List.all_eq_true.1 h (t, i) (List.mem_zipIdx_iff_getElem?.2 ht)
  obtain ⟨n, hnext, hdot⟩ := (Option.any_eq_true _ _).1 hdot
  have hkind : n.kind = .dot := beq_iff_eq.1 hdot
  simpa [hname, hnext, hkind] using hall

/-- What resolves names columns of the tables, and qualifies them with tables. -/
theorem found_of_resolves (h : resolves tables piece) (hc : c ∈ columnNames piece) :
    tables.any (hasColumn c.name) ∧ ∀ q ∈ c.qualifier, (tableNamed? tables q).isSome := by
  obtain ⟨i, t, ht, hname, hplain, rfl⟩ := mem_columnNames_iff.1 hc
  refine ⟨column_of_resolves h ht hname hplain, fun q hq => ?_⟩
  obtain ⟨j, u, hu, hname', hdot, rfl⟩ := exists_of_qualifyingName? hq
  exact qualifier_of_resolves h hu hname' hdot

/-- Where all tables have the same columns, it makes no difference which one is named. -/
theorem isIn_of_found (hsame : ∀ t ∈ tables, ∀ u ∈ tables, ∀ name, hasColumn name t →
    hasColumn name u) (hcolumn : tables.any (hasColumn c.name))
    (htable : ∀ q ∈ c.qualifier, (tableNamed? tables q).isSome) : c.isIn tables := by
  obtain ⟨qualifier, name⟩ := c
  cases qualifier with
  | none => rwa [ColumnName.isIn_unqualified]
  | some q =>
    obtain ⟨t, ht, hname⟩ := List.any_eq_true.1 hcolumn
    obtain ⟨u, hu⟩ := Option.isSome_iff_exists.1 (htable q rfl)
    have hfound := hsame t ht u (List.mem_of_find?_eq_some hu) name hname
    rw [ColumnName.isIn, ownerOf?, hu]
    exact hfound

/-- A referenced table is found under its own name. -/
theorem tableNamed?_name {schema : Schema} {tokens : List Token} {u : Table}
    (h : u ∈ referencedTables schema tokens) :
    tableNamed? (referencedTables schema tokens) u.name = some u := by
  obtain ⟨name, hname⟩ := exists_of_mem_referencedTables h
  cases hfound : tableNamed? (referencedTables schema tokens) u.name with
  | none =>
    have hself := List.find?_eq_none.1 hfound u h
    exact absurd (beq_self_eq_true u.name.toUpper) hself
  | some t =>
    obtain ⟨name', hname'⟩ := exists_of_mem_referencedTables (List.mem_of_find?_eq_some hfound)
    have hword := List.find?_some hfound
    have hsame : schema.table? t.name = schema.table? u.name := table?_of_sameWord hword
    rw [← hsame.trans (table?_name hname), table?_name hname']

/-! ## Queries of an item and a predicate -/

/-- No comma outside parentheses cuts a term. -/
theorem uncut_of_isTerm {ts : List Token} (h : IsTerm ts) :
    ∀ entry ∈ withDepths 0 ts, ¬CanBe cutItems true entry := by
  have hnone : (withDepths 0 ts).countP isCut = 0 := by
    have hcount := h.itemCount
    rw [itemCount] at hcount
    rw [withDepths, countP_zip_depthsFrom]
    omega
  rintro entry hentry ⟨state, hcut⟩
  exact List.countP_eq_zero.1 hnone entry hentry hcut

theorem uncut_of_forall_not_and {ts : List Token} (h : ∀ t ∈ ts, t.isWord "AND" = false) :
    ∀ entry ∈ withDepths 0 ts, ¬CanBe cutConjuncts true entry := by
  rintro ⟨depth, t⟩ hentry ⟨pending, hcut⟩
  have hword := h t (List.of_mem_zip hentry).2
  simp only [cutConjuncts, hword, Bool.false_eq_true, if_false] at hcut
  split_ifs at hcut

section Queries

variable {s : Statement} {E R : List Token} (hkind : s.kind = .select)
  (htokens : s.tokens = selectWords false ++ E ++ .ofKeyword "WHERE" :: R) (hE : IsTerm E)
  (hR : IsTerm R)

include hkind htokens hE hR

theorem clauses_of_query :
    s.clauses = [⟨.head, ⟨0, E.length + 1⟩⟩,
      ⟨.filter, ⟨E.length + 1, E.length + 1 + (R.length + 1)⟩⟩] := by
  have hpart : IsPart false .filter (.ofKeyword "WHERE" :: R) :=
    (isPart_of_mem _ where_mem_partFronts).append_calm hR.calmPart
  have hparts : AreParts false [(.filter, .ofKeyword "WHERE" :: R)] := ⟨hpart, trivial⟩
  have htokens' : s.tokens =
      selectWords false ++ E ++ partsTokens [(.filter, .ofKeyword "WHERE" :: R)] := by
    simpa [partsTokens] using htokens
  rw [Statement.clauses_eq hkind htokens' hE.isItems hparts]
  simp [partClauses, selectWords]

/-- A term is a single item. -/
theorem selectItems_of_query : ∃ r, s.selectItems = [r] ∧ r.slice s.tokens = E := by
  obtain ⟨H, Y, hsplit, hY, -, hhead⟩ := s.exists_head_clause
  obtain rfl : H = selectWords false ++ E := by
    have hlength : E.length + 1 = H.length := by
      rw [Statement.clause?, clauses_of_query hkind htokens hE hR] at hhead
      simpa using hhead
    rw [htokens] at hsplit
    exact (List.append_inj hsplit.symm (by simp [selectWords, ← hlength])).1
  have hselect : (selectWords false ++ E).findIdx? (·.isWord "SELECT") = some 0 := by
    have hword : (⟨.keyword, "SELECT"⟩ : Token).isWord "SELECT" := by decide +kernel
    rw [selectWords, List.cons_append, List.findIdx?_cons, if_pos hword]
  have hfirst : s.tokens[0 + 1]?.any (·.isAnyOf ["DISTINCT", "ALL"]) = false := by
    obtain ⟨t, rest, rfl⟩ := List.exists_cons_of_ne_nil hE.ne_nil
    simpa [htokens, selectWords] using hE.isItems.starts
  refine ⟨⟨1, 1 + E.length⟩, ?_, ?_⟩
  · rw [Statement.selectItems_of_head hsplit hhead hkind hselect, hfirst]
    refine (Statement.trimmed_eq hsplit hY hE.ne_nil).trans ?_
    rw [(calm_selectWords false).closed, piecesFrom_eq_singleton (uncut_of_isTerm hE),
      length_withDepths]
    rfl
  · rw [hsplit, List.append_assoc]
    exact Span.slice_append rfl rfl

theorem predicateAt_of_query : ∃ p, s.wherePredicate? = some p ∧
    s.PredicateAt p (selectWords false ++ E ++ [.ofKeyword "WHERE"]) R [] := by
  have hpositive : 0 < R.length := List.length_pos_iff.2 hR.ne_nil
  have hclause : s.clause? .filter =
      some ⟨.filter, ⟨E.length + 1, E.length + 1 + (R.length + 1)⟩⟩ := by
    rw [Statement.clause?, clauses_of_query hkind htokens hE hR]
    rfl
  have hfront : depthBehind 0 (selectWords false ++ E ++ [.ofKeyword "WHERE"]) = 0 := by
    rw [depthBehind_append, ((calm_selectWords false).append hE.calmPart).closed]
    rfl
  have hwhere : (Token.ofKeyword "WHERE").isWord "WHERE" := by decide +kernel
  refine ⟨⟨E.length + 1 + 1, E.length + 1 + (R.length + 1)⟩, ?_, ?_⟩
  · rw [Statement.wherePredicate?, hclause]
    refine if_neg ?_
    simp only [Span.isEmpty, decide_eq_true_eq]
    omega
  · exact ⟨by simp [htokens], by simp [selectWords], by dsimp only; omega, hfront,
      ⟨_, _, rfl, hwhere⟩, hR.closed⟩

/-- Without an `AND` a predicate is a single conjunct. -/
theorem whereConjuncts_of_query (hand : ∀ t ∈ R, t.isWord "AND" = false) :
    ∃ r, whereConjuncts s = [r] ∧ r.slice s.tokens = R := by
  obtain ⟨p, hp, hat⟩ := predicateAt_of_query hkind htokens hE hR
  refine ⟨p, ?_, hat.slice⟩
  rw [whereConjuncts, hp]
  dsimp only
  rw [hat.conjuncts_eq, piecesFrom_eq_singleton (uncut_of_forall_not_and hand),
    length_withDepths, ← hat.start, ← hat.stop]

end Queries

/-- A predicate can be the only select item and the only conjunct of a query. -/
theorem exists_donor {p : Predicate} {E : List Token} (hspells : Spells p.text E)
    (hterm : IsTerm E) (hand : ∀ t ∈ E, t.isWord "AND" = false) :
    ∃ donor, parseScript (headText false p.text ++ whereText (some p)) = .ok [donor] ∧
      (∃ r ∈ whereConjuncts donor, E = r.slice donor.tokens) ∧
      ∃ r ∈ donor.selectItems, E = r.slice donor.tokens := by
  have hhead := spellsHead_list false hspells hterm.toIsList
  have hpart := spellsPart_list where_mem_partFronts hspells hterm.toIsList
  have hwhole := hhead.sentence.append hpart.clause
  obtain ⟨donor, htokens, hkind⟩ := hwhole.exists_statement
  have hread : Spells (headText false p.text ++ whereText (some p)) donor.tokens := by
    rw [htokens]
    exact hhead.spells.append hpart.spells hpart.breaks
  obtain ⟨item, hitems, hitem⟩ := selectItems_of_query hkind htokens hterm hterm
  obtain ⟨conjunct, hconjuncts, hconjunct⟩ :=
    whereConjuncts_of_query hkind htokens hterm hterm hand
  refine ⟨donor, ?_, ⟨conjunct, by simp [hconjuncts], hconjunct.symm⟩,
    ⟨item, by simp [hitems], hitem.symm⟩⟩
  rw [← htokens] at hwhole
  exact hwhole.script_eq hread

/-! ## Asking whether a column is missing -/

/-- Two predicates on a column, which is named together with a table. -/
def question (q name : String) (negated : Bool) : Predicate :=
  .nullCheck ⟨some q, name⟩ negated

def nullWords (negated : Bool) : List Token :=
  .ofKeyword "IS" ::
    if negated then [.ofKeyword "NOT", .ofKeyword "NULL"] else [.ofKeyword "NULL"]

def questionTokens (q name : String) (negated : Bool) : List Token :=
  [nameToken q, dot, nameToken name] ++ nullWords negated

theorem spells_question (q name : String) (negated : Bool) :
    Spells (question q name negated).text (questionTokens q name negated) := by
  have hnull : Spells (" IS" ++ (if negated then " NOT" else "") ++ " NULL")
      (nullWords negated) := by
    cases negated <;> exact spells_of_fixedTokens? (by decide +kernel)
  have hbreak : beginsWithBreak (" IS" ++ (if negated then " NOT" else "") ++ " NULL") := by
    cases negated <;> decide
  have hwhole := (spells_qualified q name).append hnull hbreak
  show Spells (quoteIdentifier q ++ "." ++ quoteIdentifier name ++ " IS" ++
    (if negated then " NOT" else "") ++ " NULL") _
  simpa only [questionTokens, String.append_assoc] using hwhole

theorem isTerm_question (q name : String) (negated : Bool) :
    IsTerm (questionTokens q name negated) := by
  let c : ColumnRef := ⟨some q, name⟩
  have hphrase : Grammar.IsPhrase [c.home] 0 (Predicate.nullCheck c negated).text :=
    isPhrase_nullCheck (ColumnRef.isIn_of_home_mem (List.mem_singleton_self _)) negated
  obtain ⟨ts, hts, hterm⟩ := hphrase.fits
  rwa [← textTokens_eq (spells_question q name negated), question, textTokens_eq hts]

theorem forall_mem_questionTokens (p : Token → Bool) (hname : ∀ name, p (nameToken name))
    (hdot : p dot) (hwords : ∀ negated, (nullWords negated).all p) (q name : String)
    (negated : Bool) : ∀ t ∈ questionTokens q name negated, p t := by
  intro t ht
  rcases List.mem_append.1 ht with ht | ht
  · simp only [List.mem_cons, List.not_mem_nil, or_false] at ht
    rcases ht with rfl | rfl | rfl
    · exact hname q
    · exact hdot
    · exact hname name
  · exact List.all_eq_true.1 (hwords negated) t ht

theorem isName_nameToken (name : String) : isName (nameToken name) :=
  isNameToken_nameToken name

theorem resolves_question (negated : Bool) (htable : (tableNamed? tables q).isSome)
    (hcolumn : tables.any (hasColumn name)) :
    resolves tables (questionTokens q name negated) := by
  have hq : unquote (nameToken q).text = q := unquote_quoteIdentifier q
  have hname : unquote (nameToken name).text = name := unquote_quoteIdentifier name
  have hdot : isName dot = false ∧ dot.kind = .dot := ⟨rfl, rfl⟩
  have hword : ∀ word, isName (.ofKeyword word) = false ∧ (Token.ofKeyword word).kind = .keyword :=
    fun _ => ⟨rfl, rfl⟩
  cases negated <;>
    simp [resolves, questionTokens, nullWords, List.zipIdx, isName_nameToken, hq, hname, htable,
      hdot, hword, List.any_eq_true.1 hcolumn]

theorem mem_columnNames_question (negated : Bool) :
    ⟨some q, name⟩ ∈ columnNames (questionTokens q name negated) := by
  refine mem_columnNames_iff.2 ⟨2, nameToken name, rfl, isName_nameToken name, rfl, ?_⟩
  have hq : unquote (nameToken q).text = q := unquote_quoteIdentifier q
  have hname : unquote (nameToken name).text = name := unquote_quoteIdentifier name
  simp [questionTokens, qualifyingName?, qualifierAt?, isName_nameToken, hq, hname, dot]

theorem isWord_nameToken (word name : String) : (nameToken name).isWord word = false := by
  rcases nameToken_kind name with hk | hk <;> simp [Token.isWord, Token.isAnyOf, hk]

theorem isOperator_nameToken (op name : String) : (nameToken name).isOperator op = false := by
  rcases nameToken_kind name with hk | hk <;> simp [Token.isOperator, hk]

theorem isStarOrAliased_question (q name : String) (negated : Bool) :
    isStarOrAliased (questionTokens q name negated) = false := by
  have hall := forall_mem_questionTokens (fun t => !(t.isWord "AS" || t.isOperator "*"))
    (fun _ => by rw [isWord_nameToken, isOperator_nameToken]; rfl) (by decide) (by decide +kernel)
    q name negated
  simpa [isStarOrAliased] using hall

theorem isWord_and_question (q name : String) (negated : Bool) :
    ∀ t ∈ questionTokens q name negated, t.isWord "AND" = false := by
  have hall := forall_mem_questionTokens (fun t => !t.isWord "AND")
    (fun _ => by rw [isWord_nameToken]; rfl) (by decide) (by decide +kernel) q name negated
  simpa using hall

/-! ## Columns of spliced pieces -/

/-- Where anything can be exchanged, a donor can name any column of the tables as one of any
table. -/
theorem exists_spliceSite {schema : Schema} {s : Statement} {t u : Table}
    (htargets : ¬(whereConjuncts s = [] ∧ s.selectItems = []))
    (ht : t ∈ referencedTables schema s.tokens) (hu : u ∈ referencedTables schema s.tokens)
    (hcolumn : hasColumn name t) :
    ∃ donors, ∃ site ∈ spliceSites schema donors s, ⟨some u.name, name⟩ ∈ columnNames site.2 := by
  obtain ⟨run, hrun⟩ : ∃ run, run ∈ whereConjuncts s ∨ run ∈ s.selectItems := by
    rcases not_and_or.1 htargets with hne | hne
    · obtain ⟨run, hrun⟩ := List.exists_mem_of_ne_nil _ hne
      exact ⟨run, .inl hrun⟩
    · obtain ⟨run, hrun⟩ := List.exists_mem_of_ne_nil _ hne
      exact ⟨run, .inr hrun⟩
  -- Of the two predicates at least one is not there yet.
  obtain ⟨negated, hother⟩ : ∃ negated,
      run.slice s.tokens ≠ questionTokens u.name name negated := by
    by_cases hthere : run.slice s.tokens = questionTokens u.name name false
    · exact ⟨true, by rw [hthere]; simp [questionTokens, nullWords]⟩
    · exact ⟨false, hthere⟩
  have hterm := isTerm_question u.name name negated
  obtain ⟨donor, hparse, hconjunct, hitem⟩ := exists_donor
    (spells_question u.name name negated) hterm (isWord_and_question u.name name negated)
  have hdonor : donor ∈ donorStatements
      [headText false (question u.name name negated).text ++
        whereText (some (question u.name name negated))] := by
    simp [donorStatements, hparse]
  have hresolves : resolves (referencedTables schema s.tokens)
      (questionTokens u.name name negated) :=
    resolves_question negated (by rw [tableNamed?_name hu]; rfl)
      (List.any_eq_true.2 ⟨t, ht, hcolumn⟩)
  refine ⟨_, (run, questionTokens u.name name negated), mem_spliceSites_iff.2
    ⟨List.ne_nil_of_mem hu, donor, hdonor, mem_offersFrom_iff.2 ⟨hresolves, hother, ?_⟩⟩,
    mem_columnNames_question negated⟩
  rcases hrun with hrun | hrun
  · exact .inl ⟨hterm.ne_nil, hrun, hconjunct⟩
  · exact .inr ⟨isStarOrAliased_question u.name name negated, hrun, hitem⟩

/-- A spliced piece names columns of referenced tables and qualifies them with referenced tables.
Whatever the donors are, its columns belong to the tables they are qualified with, just where
nothing can be exchanged or all referenced tables have the same columns. -/
theorem spliced_columns_exist_iff (schema : Schema) (s : Statement) :
    let tables := referencedTables schema s.tokens
    (∀ donors, ∀ site ∈ spliceSites schema donors s, ∀ c ∈ columnNames site.2,
      tables.any (hasColumn c.name) ∧ ∀ q ∈ c.qualifier, (tableNamed? tables q).isSome) ∧
    ((∀ donors, ∀ site ∈ spliceSites schema donors s, ∀ c ∈ columnNames site.2, c.isIn tables) ↔
      (whereConjuncts s = [] ∧ s.selectItems = []) ∨
        ∀ t ∈ tables, ∀ u ∈ tables, ∀ name, hasColumn name t → hasColumn name u) := by
  intro tables
  have hfound : ∀ donors, ∀ site ∈ spliceSites schema donors s, ∀ c ∈ columnNames site.2,
      tables.any (hasColumn c.name) ∧ ∀ q ∈ c.qualifier, (tableNamed? tables q).isSome := by
    rintro donors ⟨run, piece⟩ hsite c hc
    obtain ⟨-, donor, -, hoffer⟩ := mem_spliceSites_iff.1 hsite
    exact found_of_resolves (mem_offersFrom_iff.1 hoffer).1 hc
  refine ⟨hfound, fun hall => ?_, ?_⟩
  · by_contra hnot
    obtain ⟨htargets, hdiffer⟩ := not_or.1 hnot
    simp only [not_forall] at hdiffer
    obtain ⟨t, ht, u, hu, name, hcolumn, hnone⟩ := hdiffer
    obtain ⟨donors, site, hsite, hc⟩ := exists_spliceSite htargets ht hu hcolumn
    have hin := hall donors site hsite _ hc
    rw [ColumnName.isIn, ownerOf?, tableNamed?_name hu] at hin
    exact hnone hin
  · rintro (⟨hconjuncts, hitems⟩ | hsame) donors ⟨run, piece⟩ hsite c hc
    · obtain ⟨-, donor, -, hoffer⟩ := mem_spliceSites_iff.1 hsite
      obtain ⟨-, -, ⟨-, hrun, -⟩ | ⟨-, hrun, -⟩⟩ := mem_offersFrom_iff.1 hoffer
      · simp [hconjuncts] at hrun
      · simp [hitems] at hrun
    · obtain ⟨hcolumn, htable⟩ := hfound donors _ hsite c hc
      exact isIn_of_found hsame hcolumn htable

/-- The column of one table is spliced in with the name of the other one in front of it. -/
theorem splices_foreign_column :
    let schema : Schema := ⟨[⟨"t", [⟨"a", .integer⟩]⟩, ⟨"u", [⟨"b", .integer⟩]⟩]⟩
    let piece : List Token := [⟨.identifier, "t"⟩, dot, ⟨.identifier, "b"⟩]
    let c : ColumnName := ⟨some "t", "b"⟩
    ∃ s, Statement.parse "SELECT a, b FROM t, u" = .ok s ∧
      (⟨1, 2⟩, piece) ∈ spliceSites schema ["SELECT t.b FROM t"] s ∧ c ∈ columnNames piece ∧
      c.isIn (referencedTables schema s.tokens) = false := by
  intro schema piece c
  obtain ⟨s, hs, htables, hitem, hother⟩ : ∃ s,
      Statement.parse "SELECT a, b FROM t, u" = .ok s ∧
        referencedTables schema s.tokens = schema.tables ∧ ⟨1, 2⟩ ∈ s.selectItems ∧
        (⟨1, 2⟩ : Span).slice s.tokens ≠ piece :=
    Statement.exists_of_parse (by decide +kernel)
  obtain ⟨donor, hdonor, hdonorItem, hpiece⟩ : ∃ donor ∈ donorStatements ["SELECT t.b FROM t"],
      ⟨1, 4⟩ ∈ donor.selectItems ∧ piece = (⟨1, 4⟩ : Span).slice donor.tokens := by
    decide +kernel
  refine ⟨s, hs, mem_spliceSites_iff.2 ⟨by simp [htables, schema], donor, hdonor, ?_⟩,
    by decide +kernel, by rw [htables]; decide +kernel⟩
  rw [htables]
  exact mem_offersFrom_iff.2 ⟨by decide +kernel, hother,
    .inr ⟨by decide +kernel, hitem, ⟨1, 4⟩, hdonorItem, hpiece⟩⟩

end Mutation
end QueryFuzz
