import QueryFuzz.Mutation.Operator
import QueryFuzz.Proofs.Grammar.Literals
import QueryFuzz.Proofs.Sql.Extents

/-!
# The tokens that operators make

Whatever an operator puts into a statement, the result is made of tokens that a statement of a text
can hold: what it lexes are literals, names and clauses of fixed shape, what it takes from the
statement or from donors was lexed before, and quotes are exchanged for quotes.
-/

namespace QueryFuzz
namespace Mutation

open Sql Draw

/-! ## Attempts -/

/-- Whatever the answers are, the value has the property if there is one. -/
def Gives {α : Type} (P : α → Prop) (x : Attempt α) : Prop :=
  x.run.Yields fun o => ∀ a ∈ o, P a

section Rules

variable {α β : Type} {P : α → Prop} {Q : β → Prop}

theorem gives_pure {a : α} (h : P a) : Gives P (pure a) := by
  apply Sampling.yields_pure
  intro b hb
  obtain rfl := Option.some.inj hb
  exact h

theorem Gives.bind {x : Attempt α} {f : α → Attempt β} (h : Gives P x)
    (hf : ∀ a, P a → Gives Q (f a)) : Gives Q (x >>= f) := by
  refine Sampling.Yields.bind h fun o ho => ?_
  cases o with
  | none => exact Sampling.yields_pure (by simp)
  | some a => exact hf a (ho a rfl)

theorem Gives.mono {P' : α → Prop} {x : Attempt α} (h : Gives P x) (himp : ∀ a, P a → P' a) :
    Gives P' x :=
  Sampling.Yields.mono h fun _ ho a ha => himp a (ho a ha)

theorem gives_lift {p : Sampling α} (h : p.Yields P) : Gives P (liftM p : Attempt α) := by
  refine Sampling.Yields.bind h fun a ha => Sampling.yields_pure fun b hb => ?_
  obtain rfl := Option.some.inj hb
  exact ha

theorem gives_of_option {o : Option α} (h : ∀ a ∈ o, P a) : Gives P (OptionT.mk (pure o)) :=
  Sampling.yields_pure h

theorem gives_chooseSite (label : String) (sites : List α) :
    Gives (· ∈ sites) (chooseSite label sites) := by
  apply (Sampling.yields_choose label sites).mono
  intro o ho a ha
  rcases ho with ⟨x, hx, rfl⟩ | ⟨-, rfl⟩
  · obtain rfl := Option.some.inj ha
    exact hx
  · simp at ha

end Rules

/-! ## Texts made of some tokens -/

/-- The text is made of such tokens, wherever it stands. -/
def IsPhrase (p : Token → Bool) (text : String) : Prop :=
  ∃ ts, Spells text ts ∧ ∀ t ∈ ts, p t

/-- The same for a text that leaves the reader between tokens. -/
def IsOpening (p : Token → Bool) (text : String) : Prop :=
  ∃ ts, Opens text ts ∧ ∀ t ∈ ts, p t

/-- A token that does not end a statement. -/
def isWithin (t : Token) : Bool :=
  t.kind != .semicolon

theorem isWithin_of_isInert {t : Token} (h : isInert t) : isWithin t := by
  simpa [isWithin] using (kind_of_isInert h).2.2.2

section Phrases

variable {p : Token → Bool} {a b text : String}

theorem IsPhrase.mono {q : Token → Bool} (h : IsPhrase p text) (himp : ∀ t, p t → q t) :
    IsPhrase q text := by
  obtain ⟨ts, hts, hall⟩ := h
  exact ⟨ts, hts, fun t ht => himp t (hall t ht)⟩

theorem isPhrase_of_fixed (h : (fixedTokens? (fun _ => true) text).any (·.all p)) :
    IsPhrase p text := by
  obtain ⟨ts, hts, hall⟩ := (Option.any_eq_true _ _).1 h
  exact ⟨ts, spells_of_fixedTokens? hts, List.all_eq_true.1 hall⟩

theorem isOpening_of_fixed (h : (fixedTokens? isPunctuation text).any (·.all p)) :
    IsOpening p text := by
  obtain ⟨ts, hts, hall⟩ := (Option.any_eq_true _ _).1 h
  exact ⟨ts, opens_of_fixedTokens? hts, List.all_eq_true.1 hall⟩

theorem IsOpening.append_phrase (ha : IsOpening p a) (hb : IsPhrase p b) :
    IsPhrase p (a ++ b) := by
  obtain ⟨ts, hts, hall⟩ := ha
  obtain ⟨us, hus, hall'⟩ := hb
  refine ⟨ts ++ us, hts.append_spells hus, fun t ht => ?_⟩
  rcases List.mem_append.1 ht with ht | ht
  · exact hall t ht
  · exact hall' t ht

theorem IsPhrase.append_opening (ha : IsPhrase p a) (hb : IsOpening p b)
    (hbreak : beginsWithBreak b) : IsOpening p (a ++ b) := by
  obtain ⟨ts, hts, hall⟩ := ha
  obtain ⟨us, hus, hall'⟩ := hb
  refine ⟨ts ++ us, hts.append_opens hus hbreak, fun t ht => ?_⟩
  rcases List.mem_append.1 ht with ht | ht
  · exact hall t ht
  · exact hall' t ht

theorem IsPhrase.append (ha : IsPhrase p a) (hb : IsPhrase p b) (hbreak : beginsWithBreak b) :
    IsPhrase p (a ++ b) := by
  obtain ⟨ts, hts, hall⟩ := ha
  obtain ⟨us, hus, hall'⟩ := hb
  refine ⟨ts ++ us, hts.append hus hbreak, fun t ht => ?_⟩
  rcases List.mem_append.1 ht with ht | ht
  · exact hall t ht
  · exact hall' t ht

end Phrases

/-! ## Fixed texts -/

/-- The fixed texts that something follows, each with what its tokens are. -/
def openings : List ((Token → Bool) × String) :=
  [(isInert, " "), (isInert, " ON "), (isInert, " = "), (isWithin, ", "), (isWithin, "WHERE "),
    (isWithin, "LEFT JOIN "), (isWithin, "ORDER BY "), (isWithin, "LIMIT ")]

/-- The fixed texts that nothing need follow. -/
def endings : List ((Token → Bool) × String) :=
  (isWithin, " DESC") :: comparisonOperators.map (isInert, ·)

/-- The tokens that operators put into a statement as they are. -/
def ownTokens : List Token :=
  (comparisonOperators ++ arithmeticOperators).map (⟨.operator, ·⟩) ++
    ["AND", "OR", "LIKE", "GLOB"].map (⟨.keyword, ·⟩) ++
    wrappingFunctions.map (⟨.identifier, ·⟩)

theorem isOpening_of_mem : ∀ opening ∈ openings, IsOpening opening.1 opening.2 := by
  have hfixed : ∀ opening ∈ openings,
      (fixedTokens? isPunctuation opening.2).any (·.all opening.1) := by
    decide +kernel
  exact fun opening h => isOpening_of_fixed (hfixed opening h)

theorem isPhrase_of_mem : ∀ ending ∈ endings, IsPhrase ending.1 ending.2 := by
  have hfixed : ∀ ending ∈ endings,
      (fixedTokens? (fun _ => true) ending.2).any (·.all ending.1) := by
    decide +kernel
  exact fun ending h => isPhrase_of_fixed (hfixed ending h)

theorem inStatement_of_mem_ownTokens : ∀ t ∈ ownTokens, t.InStatement := by
  have hread : ∀ t ∈ ownTokens,
      significantTokens t.text = .ok [t] ∧ t.kind ≠ .semicolon := by
    decide +kernel
  exact fun t h => inStatement_of_read (hread t h).1 (hread t h).2

theorem isPhrase_intercalate {texts : List String} (h : ∀ text ∈ texts, IsPhrase isWithin text) :
    IsPhrase isWithin (", ".intercalate texts) := by
  induction texts with
  | nil => exact ⟨[], opens_empty.spells, by simp⟩
  | cons text texts ih =>
    have hrest := ih fun text' htext' => h text' (by simp [htext'])
    have htext := h text (by simp)
    cases texts with
    | nil => simpa using htext
    | cons text' texts =>
      have hcomma : IsOpening isWithin ", " := isOpening_of_mem (isWithin, ", ") (by simp [openings])
      rw [String.intercalate_cons_cons]
      exact (htext.append_opening hcomma (by decide)).append_phrase hrest

theorem isInert_of_isLiteral {t : Token} (h : t.isLiteral) : isInert t := by
  by_cases hword : t.isAnyOf ["NULL", "TRUE", "FALSE"]
  · exact isInert_of_isAnyOf hword (by decide)
  · have hkind : t.kind = .string ∨ t.kind = .blob ∨ t.kind = .integer ∨ t.kind = .float := by
      unfold Token.isLiteral at h
      split at h <;> simp_all
    rcases hkind with hk | hk | hk | hk <;> exact isInert_of_kind (by simp [hk]) (by simp [hk])

theorem isInert_of_isLiteralTokens {ts : List Token} (h : Grammar.isLiteralTokens ts) :
    ∀ t ∈ ts, isInert t := by
  match ts with
  | [t] =>
    intro u hu
    obtain rfl := List.mem_singleton.1 hu
    exact isInert_of_isLiteral h
  | [sign, t] =>
    obtain ⟨rfl, hnumber⟩ : sign = Grammar.minus ∧ (t.kind = .integer ∨ t.kind = .float) := by
      simpa [Grammar.isLiteralTokens] using h
    intro u hu
    rcases List.mem_cons.1 hu with rfl | hu
    · decide
    · obtain rfl := List.mem_singleton.1 hu
      rcases hnumber with hk | hk <;> exact isInert_of_kind (by simp [hk]) (by simp [hk])

theorem isPhrase_of_isLiteralText {text : String} (h : Grammar.IsLiteralText text) :
    IsPhrase isInert text := by
  obtain ⟨ts, hts, hliteral⟩ := h
  exact ⟨ts, hts, isInert_of_isLiteralTokens hliteral⟩

theorem isInert_nameToken (name : String) : isInert (nameToken name) := by
  rcases nameToken_kind name with hk | hk <;> exact isInert_of_kind (by simp [hk]) (by simp [hk])

theorem isPhrase_quoteIdentifier (name : String) : IsPhrase isInert (quoteIdentifier name) :=
  ⟨_, spells_quoteIdentifier name, by simpa using isInert_nameToken name⟩

theorem isPhrase_qualified (table column : String) :
    IsPhrase isInert (quoteIdentifier table ++ "." ++ quoteIdentifier column) := by
  refine ⟨_, spells_qualified table column, fun t ht => ?_⟩
  simp only [List.mem_cons, List.not_mem_nil, or_false] at ht
  rcases ht with rfl | rfl | rfl
  · exact isInert_nameToken table
  · exact isInert_of_kind (by decide) (by decide)
  · exact isInert_nameToken column

theorem isPhrase_columnText (tables : List Table) (table : Table) (column : String) :
    IsPhrase isInert (columnText tables table column) := by
  unfold columnText
  split_ifs
  · exact isPhrase_qualified table.name column
  · exact isPhrase_quoteIdentifier column

/-- The tokens that a text spells. -/
theorem gives_lexed_spelled {text : String} {ts : List Token} (h : Spells text ts) :
    Gives (· = ts) (lexed text) := by
  apply gives_of_option
  intro us hus
  rw [h.significantTokens] at hus
  exact (Option.some.inj hus).symm

/-- The tokens of a phrase can stand in a statement. -/
theorem gives_lexed {text : String} (h : IsPhrase isWithin text) :
    Gives (fun ts => ∀ t ∈ ts, t.InStatement) (lexed text) := by
  obtain ⟨ts, hts, hnone⟩ := h
  refine (gives_lexed_spelled hts).mono ?_
  rintro _ rfl t ht
  have hwithin : t.kind ≠ .semicolon := by simpa [isWithin] using hnone t ht
  exact ⟨isLexeme_of_significantTokens hts.significantTokens t ht, hwithin⟩

/-! ## The operators, one by one -/

variable {m : Material} {s : Statement}

theorem gives_literalReplacement (m : Material) (t : Token) :
    Gives Grammar.IsLiteralText (literalReplacement m t) := by
  have hboundary : ∀ type, Gives Grammar.IsLiteralText (liftM (Grammar.boundaryLiteral type)) :=
    fun type => gives_lift (Grammar.yields_boundaryLiteral type)
  unfold literalReplacement
  have htype : Gives (fun _ => True) (literalType t) :=
    Sampling.Yields.mono (Sampling.yields_true _) (by simp)
  refine htype.bind fun type _ => ?_
  split
  · refine (gives_lift (Sampling.yields_true _)).bind fun edge _ => ?_
    split_ifs
    · exact hboundary _
    · refine (gives_chooseSite _ _).bind fun n _ => gives_pure ?_
      exact Grammar.isLiteralText_integer n
  · exact hboundary _

theorem gives_mutateLiteral (h : ∀ t ∈ s.tokens, t.InStatement) :
    Gives (fun ts => ∀ t ∈ ts, t.InStatement) (mutateLiteral m s) := by
  refine (gives_chooseSite _ _).bind fun i _ => ?_
  refine (gives_literalReplacement m _).bind fun text htext => ?_
  have hphrase := (isPhrase_of_isLiteralText htext).mono fun _ => isWithin_of_isInert
  exact (gives_lexed hphrase).bind fun ts hts => gives_pure (inStatement_replace h hts)

theorem getElem?_of_mem_positionsWhere {p : Token → Bool} {ts : List Token} {i : ℕ}
    (h : i ∈ positionsWhere p ts) : ∃ t, ts[i]? = some t ∧ p t := by
  obtain ⟨⟨t, j⟩, hmem, rfl⟩ := List.mem_map.1 h
  obtain ⟨hzip, hp⟩ := List.mem_filter.1 hmem
  exact ⟨t, List.mem_zipIdx_iff_getElem?.1 hzip, hp⟩

/-- Operators are exchanged for operators, and words for words. -/
theorem operatorClass?_cases {owned : List ℕ} {i : ℕ} {t : Token} {alike : List String}
    (h : operatorClass? s owned i t = some alike) :
    (t.kind = .operator ∧ ∀ op ∈ alike, op ∈ comparisonOperators ++ arithmeticOperators) ∨
      (t.isAnyOf ["AND", "OR", "LIKE", "GLOB"] ∧
        ∀ op ∈ alike, op ∈ ["AND", "OR", "LIKE", "GLOB"]) := by
  unfold operatorClass? at h
  dsimp only at h
  by_cases hoperator : t.kind = .operator
  · rw [if_pos (by simpa using hoperator)] at h
    refine .inl ⟨hoperator, fun op hop => ?_⟩
    split_ifs at h <;> obtain rfl := Option.some.inj h
    · exact List.mem_append_left _ hop
    · exact List.mem_append_right _ hop
  · rw [if_neg (by simpa using hoperator)] at h
    have hword : ∀ {word}, t.isWord word → word ∈ ["AND", "OR", "LIKE", "GLOB"] →
        t.isAnyOf ["AND", "OR", "LIKE", "GLOB"] := fun hword hmem =>
      isAnyOf_mono hword (by simpa using hmem)
    split_ifs at h with hlogic hlike hescape hglob <;> obtain rfl := Option.some.inj h
    · have hlogic : t.isWord "AND" ∨ t.isWord "OR" := by
        rcases Bool.or_eq_true_iff.1 hlogic with hand | hor
        · exact .inl (Bool.and_eq_true_iff.1 hand).1
        · exact .inr hor
      refine .inr ⟨?_, by decide⟩
      rcases hlogic with hand | hor
      · exact hword hand (by decide)
      · exact hword hor (by decide)
    · exact .inr ⟨hword hlike (by decide), by decide⟩
    · exact .inr ⟨hword hglob (by decide), by decide⟩

/-- The operators of a class can all stand where one of them stands. -/
theorem inStatement_of_operatorClass? {owned : List ℕ} {i : ℕ} {t : Token} {alike : List String}
    (h : operatorClass? s owned i t = some alike) :
    ∀ op ∈ alike,
      Token.InStatement ⟨if t.kind = .keyword then .keyword else .operator, op⟩ := by
  intro op hop
  apply inStatement_of_mem_ownTokens
  rcases operatorClass?_cases h with ⟨hkind, halike⟩ | ⟨hword, halike⟩
  · rw [hkind, if_neg (by decide)]
    exact List.mem_append_left _ (List.mem_append_left _ (List.mem_map_of_mem (halike op hop)))
  · rw [kind_of_isAnyOf hword, if_pos rfl]
    exact List.mem_append_left _ (List.mem_append_right _ (List.mem_map_of_mem (halike op hop)))

/-- A site of an operator is a token with its class. -/
theorem of_mem_operatorSites {i : ℕ} {alike : List String} (h : (i, alike) ∈ operatorSites s) :
    ∃ t, s.tokens[i]? = some t ∧ s.tokens.getD i ⟨.whitespace, ""⟩ = t ∧
      operatorClass? s (betweenAnds s) i t = some alike := by
  obtain ⟨⟨t, j⟩, hzip, hclass⟩ := List.mem_filterMap.1 h
  obtain ⟨ops, hops, hpair⟩ := Option.map_eq_some_iff.1 hclass
  obtain ⟨rfl, rfl⟩ : j = i ∧ ops = alike := by simpa using hpair
  have ht := List.mem_zipIdx_iff_getElem?.1 hzip
  refine ⟨t, ht, ?_, hops⟩
  rw [List.getD_eq_getElem?_getD, ht]
  rfl

theorem gives_substituteOperator (h : ∀ t ∈ s.tokens, t.InStatement) :
    Gives (fun ts => ∀ t ∈ ts, t.InStatement) (substituteOperator s) := by
  refine (gives_chooseSite _ _).bind fun ⟨i, alike⟩ hsite => ?_
  obtain ⟨t, -, hcurrent, hclass⟩ := of_mem_operatorSites hsite
  refine (gives_chooseSite _ _).bind fun op hop => gives_pure ?_
  rw [hcurrent] at hop ⊢
  apply inStatement_replace h
  intro u hu
  obtain rfl := List.mem_singleton.1 hu
  exact inStatement_of_operatorClass? hclass op (List.mem_of_mem_filter hop)

/-! ## Texts of new clauses -/

/-- The words in front of a new clause. -/
def Addition.front : Addition → String
  | .filter => "WHERE "
  | .join => "LEFT JOIN "
  | .order => "ORDER BY "
  | .limit => "LIMIT "

/-- What is behind them: expressions, but for an order. -/
def Addition.holds : Addition → Token → Bool
  | .order => isWithin
  | _ => isInert

theorem gives_filterText (m : Material) (tables : List Table) :
    Gives (fun text => ∃ body, text = "WHERE " ++ body ∧ IsPhrase isInert body)
      (filterText m tables) := by
  have hspace : IsOpening isInert " " := isOpening_of_mem (isInert, " ") (by simp [openings])
  refine (gives_chooseSite _ _).bind fun table _ => ?_
  refine (gives_chooseSite _ _).bind fun column _ => ?_
  refine (gives_chooseSite _ _).bind fun op hop => ?_
  have hop' : IsPhrase isInert op :=
    isPhrase_of_mem (isInert, op) (List.mem_cons_of_mem _ (List.mem_map_of_mem hop))
  have hcolumn := isPhrase_columnText tables table column.name
  have hopening := ((hcolumn.append_opening hspace (by decide)).append_phrase hop').append_opening
    hspace (by decide)
  have htext : ∀ literal, Grammar.IsLiteralText literal → ∃ body,
      "WHERE " ++ columnText tables table column.name ++ " " ++ op ++ " " ++ literal =
        "WHERE " ++ body ∧ IsPhrase isInert body := by
    intro literal hliteral
    refine ⟨_, ?_, hopening.append_phrase (isPhrase_of_isLiteralText hliteral)⟩
    simp only [String.append_assoc]
  refine (gives_lift (Sampling.yields_true _)).bind fun edge _ => ?_
  dsimp only
  split_ifs
  · exact (gives_lift (Grammar.yields_boundaryLiteral column.type)).bind fun text h =>
      gives_pure (htext text h)
  · exact (gives_lift (Grammar.yields_ordinaryLiteral column.type)).bind fun text h =>
      gives_pure (htext text h)

theorem gives_joinText (m : Material) (tables : List Table) :
    Gives (fun text => ∃ body, text = "LEFT JOIN " ++ body ∧ IsPhrase isInert body)
      (joinText m tables) := by
  have hon : IsOpening isInert " ON " := isOpening_of_mem (isInert, " ON ") (by simp [openings])
  have hequals : IsOpening isInert " = " := isOpening_of_mem (isInert, " = ") (by simp [openings])
  have htrue : ∀ {α : Type} (o : Option α), Gives (fun _ => True) (OptionT.mk (pure o)) :=
    fun o => gives_of_option (by simp)
  refine (htrue _).bind fun first _ => (gives_chooseSite _ _).bind fun other _ => ?_
  refine (gives_chooseSite _ _).bind fun left _ => (htrue _).bind fun right _ => gives_pure ?_
  have hname := isPhrase_quoteIdentifier other.name
  have hleft := isPhrase_qualified first.name left.name
  have hright := isPhrase_qualified other.name right.name
  have hhead := (hname.append_opening hon (by decide)).append_phrase hleft
  refine ⟨_, ?_, (hhead.append_opening hequals (by decide)).append_phrase hright⟩
  simp only [String.append_assoc]

theorem isPhrase_orderTerms (position : ℕ) (directions : List Bool) :
    ∀ text ∈ Grammar.orderTerms position directions, IsPhrase isWithin text := by
  have hdesc : IsPhrase isWithin " DESC" := isPhrase_of_mem (isWithin, " DESC") List.mem_cons_self
  induction directions generalizing position with
  | nil => simp [Grammar.orderTerms]
  | cons descending rest ih =>
    have hnumber : IsPhrase isWithin (toString position) :=
      (isPhrase_of_isLiteralText (Grammar.isLiteralText_integer position)).mono
        fun _ => isWithin_of_isInert
    intro text htext
    rw [Grammar.orderTerms] at htext
    rcases List.mem_cons.1 htext with rfl | htext
    · split_ifs
      · exact hnumber.append hdesc (by decide)
      · exact hnumber
    · exact ih (position + 1) text htext

theorem gives_additionText (m : Material) (s : Statement) (tables : List Table)
    (addition : Addition) :
    Gives (fun text => ∃ body, text = addition.front ++ body ∧ IsPhrase addition.holds body)
      (additionText m s tables addition) := by
  cases addition with
  | filter => exact gives_filterText m tables
  | join => exact gives_joinText m tables
  | order =>
    refine Gives.bind (P := fun _ => True) (gives_of_option (by simp)) fun width _ => ?_
    refine gives_lift ((Sampling.yields_true _).bind fun directions _ => ?_)
    exact Sampling.yields_pure
      ⟨_, rfl, isPhrase_intercalate (isPhrase_orderTerms 1 directions)⟩
  | limit =>
    refine (gives_chooseSite _ _).bind fun n _ => gives_pure ?_
    exact ⟨_, rfl, isPhrase_of_isLiteralText (Grammar.isLiteralText_integer n)⟩

/-! ## The other operators -/

theorem gives_insertClause (h : ∀ t ∈ s.tokens, t.InStatement) :
    Gives (fun ts => ∀ t ∈ ts, t.InStatement) (insertClause m s) := by
  refine (gives_chooseSite _ _).bind fun ⟨addition, position⟩ _ => ?_
  refine (gives_additionText m s _ addition).bind ?_
  rintro _ ⟨body, rfl, hbody⟩
  have hfront : IsOpening isWithin addition.front := by
    apply isOpening_of_mem (isWithin, addition.front)
    cases addition <;> simp [openings, Addition.front]
  have hbody' : IsPhrase isWithin body := by
    apply hbody.mono
    intro t ht
    cases addition with
    | order => exact ht
    | _ => exact isWithin_of_isInert ht
  exact (gives_lexed (hfront.append_phrase hbody')).bind fun ts hts =>
    gives_pure (inStatement_replace h hts)

theorem gives_deleteClause (h : ∀ t ∈ s.tokens, t.InStatement) :
    Gives (fun ts => ∀ t ∈ ts, t.InStatement) (deleteClause s) := by
  refine (gives_chooseSite _ _).bind fun run _ => gives_pure ?_
  exact inStatement_replace h (by simp)

theorem gives_substituteIdentifier (h : ∀ t ∈ s.tokens, t.InStatement) :
    Gives (fun ts => ∀ t ∈ ts, t.InStatement) (substituteIdentifier m s) := by
  refine (gives_chooseSite _ _).bind fun mention _ => ?_
  refine (gives_chooseSite _ _).bind fun name _ => ?_
  have hphrase := (isPhrase_quoteIdentifier name).mono fun _ => isWithin_of_isInert
  refine (gives_lexed hphrase).bind fun ts hts => ?_
  exact gives_pure (inStatement_replace h hts)

theorem gives_wrapInFunction (h : ∀ t ∈ s.tokens, t.InStatement) :
    Gives (fun ts => ∀ t ∈ ts, t.InStatement) (wrapInFunction m s) := by
  refine (gives_chooseSite _ _).bind fun run _ => ?_
  refine (gives_chooseSite _ _).bind fun name hname => gives_pure ?_
  have hfunction : Token.InStatement ⟨.identifier, name⟩ :=
    inStatement_of_mem_ownTokens _ (List.mem_append_right _ (List.mem_map_of_mem hname))
  apply inStatement_replace h
  intro t ht
  rcases List.mem_append.1 ht with ht | ht
  · rcases List.mem_cons.1 ht with rfl | ht
    · exact hfunction
    · rcases List.mem_cons.1 ht with rfl | ht
      · exact ⟨.leftParen, by simp⟩
      · exact h t (mem_slice ht)
  · obtain rfl := List.mem_singleton.1 ht
    exact ⟨.rightParen, by simp⟩

theorem inStatement_of_mem_donorStatements {donors : List String} {donor : Statement}
    (h : donor ∈ donorStatements donors) : ∀ t ∈ donor.tokens, t.InStatement := by
  obtain ⟨sql, -, hdonor⟩ := List.mem_flatMap.1 h
  cases hparse : parseScript sql with
  | error e => simp [hparse] at hdonor
  | ok statements =>
    rw [hparse] at hdonor
    exact inStatement_of_parseScript hparse donor hdonor

/-- A piece is paired with each of the targets that it differs from. -/
theorem mem_pairings_iff {targets : List Span} {run : Span} {piece piece' : List Token} :
    (run, piece) ∈ pairings s targets piece' ↔
      piece = piece' ∧ run ∈ targets ∧ run.slice s.tokens ≠ piece := by
  simp only [pairings, List.mem_map, List.mem_filter, bne_iff_ne, Prod.mk.injEq]
  constructor
  · rintro ⟨r, ⟨hr, hne⟩, rfl, rfl⟩
    exact ⟨rfl, hr, hne⟩
  · rintro ⟨rfl, hr, hne⟩
    exact ⟨run, ⟨hr, hne⟩, rfl, rfl⟩

/-- A donor offers what resolves: its conjuncts for other conjuncts, and those of its select items
that are no stars and have no names of their own for other select items. -/
theorem mem_offersFrom_iff {tables : List Table} {donor : Statement} {run : Span}
    {piece : List Token} :
    (run, piece) ∈ offersFrom tables s donor ↔
      resolves tables piece ∧ run.slice s.tokens ≠ piece ∧
        ((piece ≠ [] ∧ run ∈ whereConjuncts s ∧
            ∃ r ∈ whereConjuncts donor, piece = r.slice donor.tokens) ∨
          (isStarOrAliased piece = false ∧ run ∈ s.selectItems ∧
            ∃ r ∈ donor.selectItems, piece = r.slice donor.tokens)) := by
  simp only [offersFrom, List.mem_append, List.mem_flatMap, List.mem_ite_nil_left,
    mem_pairings_iff, Bool.or_eq_true, Bool.not_eq_true', not_or, List.isEmpty_iff,
    Bool.not_eq_true, Bool.not_eq_false]
  constructor
  · rintro (⟨r, hr, ⟨hne, hresolves⟩, rfl, hrun, hother⟩ |
      ⟨r, hr, ⟨hplain, hresolves⟩, rfl, hrun, hother⟩)
    · exact ⟨hresolves, hother, .inl ⟨hne, hrun, r, hr, rfl⟩⟩
    · exact ⟨hresolves, hother, .inr ⟨hplain, hrun, r, hr, rfl⟩⟩
  · rintro ⟨hresolves, hother, ⟨hne, hrun, r, hr, rfl⟩ | ⟨hplain, hrun, r, hr, rfl⟩⟩
    · exact .inl ⟨r, hr, ⟨hne, hresolves⟩, rfl, hrun, hother⟩
    · exact .inr ⟨r, hr, ⟨hplain, hresolves⟩, rfl, hrun, hother⟩

/-- Where no table is referenced nothing is offered. -/
theorem mem_spliceSites_iff {schema : Schema} {donors : List String} {site : Span × List Token} :
    site ∈ spliceSites schema donors s ↔ referencedTables schema s.tokens ≠ [] ∧
      ∃ donor ∈ donorStatements donors,
        site ∈ offersFrom (referencedTables schema s.tokens) s donor := by
  simp only [spliceSites, List.mem_ite_nil_left, List.isEmpty_iff, List.mem_flatMap, ne_eq]

/-- A donor offers its conjuncts for conjuncts and its select items for select items. -/
theorem of_mem_offersFrom {tables : List Table} {donor : Statement} {run : Span}
    {piece : List Token} (h : (run, piece) ∈ offersFrom tables s donor) :
    (∃ r ∈ whereConjuncts donor, piece = r.slice donor.tokens ∧ run ∈ whereConjuncts s) ∨
      ∃ r ∈ donor.selectItems, piece = r.slice donor.tokens ∧ run ∈ s.selectItems := by
  obtain ⟨-, -, ⟨-, hrun, r, hr, rfl⟩ | ⟨-, hrun, r, hr, rfl⟩⟩ := mem_offersFrom_iff.1 h
  · exact .inl ⟨r, hr, rfl, hrun⟩
  · exact .inr ⟨r, hr, rfl, hrun⟩

/-- What a donor offers is cut out of it. -/
theorem mem_of_mem_offersFrom {tables : List Table} {donor : Statement} {run : Span}
    {piece : List Token} (h : (run, piece) ∈ offersFrom tables s donor) :
    ∀ t ∈ piece, t ∈ donor.tokens := by
  intro t ht
  rcases of_mem_offersFrom h with ⟨r, -, rfl, -⟩ | ⟨r, -, rfl, -⟩ <;> exact mem_slice ht

theorem gives_splicePiece (h : ∀ t ∈ s.tokens, t.InStatement) :
    Gives (fun ts => ∀ t ∈ ts, t.InStatement) (splicePiece m s) := by
  refine (gives_chooseSite _ _).bind fun ⟨run, piece⟩ hsite => gives_pure ?_
  obtain ⟨-, donor, hdonor, hoffer⟩ := mem_spliceSites_iff.1 hsite
  apply inStatement_replace h
  intro t ht
  exact inStatement_of_mem_donorStatements hdonor t (mem_of_mem_offersFrom hoffer t ht)

/-- Exchanging the quotes of a quoted token leaves a quoted token of the other kind. -/
theorem inStatement_flipped (t : Token) : (flipped t).InStatement := by
  unfold flipped
  dsimp only
  split_ifs
  · refine ⟨?_, by simp⟩
    rw [Token.IsLexeme, String.toList_ofList]
    exact .quoted (.inl rfl) (enclosable_doubled (by decide) _)
  · refine ⟨?_, by simp⟩
    rw [Token.IsLexeme, String.toList_ofList]
    exact .string (enclosable_doubled (by decide) _)

theorem gives_flipQuotes (h : ∀ t ∈ s.tokens, t.InStatement) :
    Gives (fun ts => ∀ t ∈ ts, t.InStatement) (flipQuotes s) := by
  refine (gives_chooseSite _ _).bind fun i _ => gives_pure (inStatement_replace h fun t ht => ?_)
  obtain rfl := List.mem_singleton.1 ht
  exact inStatement_flipped _

/-- Every operator makes tokens that a statement of a text can hold. -/
theorem gives_unchecked (op : Operator) (m : Material) (h : ∀ t ∈ s.tokens, t.InStatement) :
    Gives (fun ts => ∀ t ∈ ts, t.InStatement) (op.unchecked m s) := by
  cases op with
  | literalValue => exact gives_mutateLiteral h
  | operatorSubstitution => exact gives_substituteOperator h
  | clauseInsertion => exact gives_insertClause h
  | clauseDeletion => exact gives_deleteClause h
  | identifierSubstitution => exact gives_substituteIdentifier h
  | functionWrap => exact gives_wrapInFunction h
  | structuralSplice => exact gives_splicePiece h
  | quoteFlip => exact gives_flipQuotes h

end Mutation
end QueryFuzz
