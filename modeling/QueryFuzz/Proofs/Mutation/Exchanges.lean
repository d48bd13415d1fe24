import QueryFuzz.Proofs.Mutation.Orders

/-!
# Exchanges outside of an order

An expression is applied to, exchanged for that of a donor or changed in one token. The orders stay
what they are, since what comes in its place holds no order and no comma of its own. Only a literal
can be exchanged inside of an order, as it may be a position of it.
-/

namespace QueryFuzz
namespace Mutation

open Sql Draw

variable {m : Material} {s : Statement} {t₀ : Token}

/-! ## Applying functions -/

/-- Tokens as the argument of a function. -/
def applied (function : String) (M : List Token) : List Token :=
  ⟨.identifier, function⟩ :: ⟨.leftParen, "("⟩ :: M ++ [⟨.rightParen, ")"⟩]

section Applied

variable {function : String} {d : ℕ} {before : Option Token} {M C : List Token}

theorem depthBehind_applied (h : fitsFrom d before (M ++ C)) :
    depthBehind d (applied function M) = depthBehind d M := by
  have hM := @depthBehind_add d 1 before M C h
  rw [applied, depthBehind_append, depthBehind_cons, depthBehind_cons]
  show depthBehind (depthBehind (d + 1) M) [⟨.rightParen, ")"⟩] = _
  rw [hM]
  rfl

/-- Of an application only the name and the parenthesis behind it are outside. -/
theorem kind_of_mem_outside_applied (h : fitsFrom d before (M ++ C)) :
    ∀ t ∈ outside d (applied function M), t.kind = .identifier ∨ t.kind = .leftParen := by
  have hM : outside (d + 1) M = [] := outside_add h Nat.one_pos
  have hdepth := @depthBehind_add d 1 before M C h
  have hlast : outside (depthBehind d M + 1) [⟨.rightParen, ")"⟩] = [] := by
    rw [outside, if_neg (Nat.succ_ne_zero _)]
    rfl
  have hinside : outside (d + 1) (M ++ [⟨.rightParen, ")"⟩]) = [] := by
    rw [outside_append, hM, hdepth, hlast]
    rfl
  intro t ht
  rcases List.mem_append.1 ht with ht | ht
  · split_ifs at ht
    · obtain rfl := List.mem_singleton.1 ht
      exact .inl rfl
    · cases ht
  rcases List.mem_append.1 ht with ht | ht
  · split_ifs at ht
    · obtain rfl := List.mem_singleton.1 ht
      exact .inr rfl
    · cases ht
  · have ht : t ∈ outside (d + 1) (M ++ [⟨.rightParen, ")"⟩]) := ht
    rw [hinside] at ht
    cases ht

theorem not_hasOrder_applied (h : fitsFrom d before (M ++ C)) (k : StatementKind)
    (order : List Token) : ¬HasOrder k d (applied function M) order := by
  intro horder
  obtain ⟨o, hmem, hword⟩ := horder.exists_mem_outside
  rcases kind_of_mem_outside_applied h o hmem with hk | hk <;>
    simp [kind_of_isWord hword] at hk

theorem commaCount_applied (h : fitsFrom d before (M ++ C)) :
    commaCount d (applied function M) = 0 := by
  rw [commaCount, List.countP_eq_zero]
  intro t ht
  rcases kind_of_mem_outside_applied h t ht with hk | hk <;> simp [isComma, hk]

end Applied

/-- A predicate does not begin with a dot. -/
theorem kind_ne_dot_behind_where {front Z : List Token} {w : Token}
    (htokens : s.tokens = front ++ w :: Z) (hword : w.isWord "WHERE") :
    ∀ u ∈ Z.head?, u.kind ≠ .dot := by
  intro u hu hkind
  obtain ⟨before, hfits⟩ := Statement.fits_behind htokens
  have hmisfit := (fitsFrom_cons.1 hfits).1
  have hneeds : w.isAnyOf operandKeywords := isAnyOf_mono hword (by decide)
  have hu : Z.head? = some u := hu
  simp [misfit?, kind_of_isWord hword, fitsKeyword, hneeds, hu, Token.startsOperand, hkind]
    at hmisfit

/-- A mention of a column with its qualifier lies in the predicate if the column does. -/
theorem le_start_of_mention {p : Span} (hp : s.wherePredicate? = some p) {i : ℕ}
    (hi : p.start ≤ i) (hqualified : (qualifierAt? s.tokens i).isSome) : p.start ≤ i - 2 := by
  obtain ⟨t₀, rest, htokens⟩ := List.exists_cons_of_ne_nil s.tokens_ne_nil
  obtain ⟨A₀, w, R, Y, htokens', -, hword, -, -, -, rfl⟩ := Statement.exists_predicate htokens hp
  have hsplit : s.tokens = (t₀ :: A₀) ++ w :: (R ++ Y) := htokens'
  unfold qualifierAt? at hqualified
  split_ifs at hqualified with hdot
  · obtain ⟨u, hu, hkind⟩ := (Option.any_eq_true _ _).1 hdot.2
    have hkind : u.kind = .dot := by simpa using hkind
    dsimp only at hi ⊢
    by_contra hlt
    -- The dot would be the `WHERE` itself or the first token of the predicate.
    rcases Nat.lt_or_ge i (3 + A₀.length) with hfirst | hsecond
    · have hindex : i - 1 = (t₀ :: A₀).length := by
        rw [List.length_cons]
        omega
      rw [hsplit, hindex, List.getElem?_append_right (le_refl _), Nat.sub_self] at hu
      obtain rfl : w = u := by simpa using hu
      rw [kind_of_isWord hword] at hkind
      cases hkind
    · have hindex : i - 1 = (t₀ :: A₀).length + 1 := by
        rw [List.length_cons]
        omega
      have hafter : (R ++ Y).head? = some u := by
        rw [hsplit, hindex, List.getElem?_append_right (Nat.le_succ _), Nat.succ_sub (le_refl _),
          Nat.sub_self] at hu
        rw [List.head?_eq_getElem?]
        exact hu
      exact kind_ne_dot_behind_where hsplit hword u hafter hkind
  · cases hqualified

/-- A column is mentioned where a name stands that is no qualifier and no function, if the table it
belongs to has it and has other columns. -/
theorem mem_columnMentions_iff {schema : Schema} {tokens : List Token} {mention : Mention} :
    mention ∈ columnMentions schema tokens ↔ ∃ t, tokens[mention.position]? = some t ∧ isName t ∧
      isOperatorName tokens mention.position = false ∧
      ownerOf? (referencedTables schema tokens) (qualifierAt? tokens mention.position)
        (unquote t.text) = some mention.table ∧
      hasColumn (unquote t.text) mention.table ∧ 1 < mention.table.columns.length ∧
      mention.qualified = (qualifierAt? tokens mention.position).isSome := by
  simp only [columnMentions, List.mem_filterMap, Prod.exists, List.mem_zipIdx_iff_getElem?]
  constructor
  · rintro ⟨t, i, ht, hmention⟩
    unfold mentionAt? at hmention
    dsimp only at hmention
    split_ifs at hmention with hname
    obtain ⟨hname, hplain⟩ : isName t = true ∧ isOperatorName tokens i = false := by
      simpa using hname
    split at hmention
    · rename_i table howner
      split_ifs at hmention with hcolumn
      obtain ⟨hcolumn, hseveral⟩ := Bool.and_eq_true_iff.1 hcolumn
      obtain rfl := Option.some.inj hmention
      exact ⟨t, ht, hname, hplain, howner, hcolumn, of_decide_eq_true hseveral, rfl⟩
    · cases hmention
  · rintro ⟨t, ht, hname, hplain, howner, hcolumn, hseveral, hqualified⟩
    refine ⟨t, mention.position, ht, ?_⟩
    simp [mentionAt?, hname, hplain, howner, hcolumn, hseveral, ← hqualified]

/-- A mention of a column is a name where it says. -/
theorem of_mem_columnMentions {schema : Schema} {tokens : List Token} {mention : Mention}
    (h : mention ∈ columnMentions schema tokens) : ∃ t, tokens[mention.position]? = some t ∧
      isName t ∧ (mention.qualified → (qualifierAt? tokens mention.position).isSome) := by
  obtain ⟨t, ht, hname, -, -, -, -, hqualified⟩ := mem_columnMentions_iff.1 h
  exact ⟨t, ht, hname, fun h => hqualified ▸ h⟩

theorem preserves_applied_item {run : Span} {function : String} (hrun : run ∈ s.selectItems)
    (hkind : s.kind = .select) :
    Preserves s (run.replace s.tokens (applied function (run.slice s.tokens))) := by
  intro r hr hkind'
  obtain ⟨t₀, rest, htokens⟩ := List.exists_cons_of_ne_nil s.tokens_ne_nil
  obtain ⟨-, A, M, C, hitem, rfl⟩ := Statement.exists_itemAt htokens hrun
  rw [hitem.slice, hitem.replace] at hr
  obtain ⟨before, hM⟩ := hitem.fits
  refine keepsOrders_of_item hitem (List.ne_nil_of_mem hrun) hr hkind hkind' ?_
    (not_hasOrder_applied hM s.kind) (commaCount_applied hM)
  rw [depthBehind_append, depthBehind_append]
  exact depthBehind_applied hM

theorem preserves_applied_part {p : Span} {i j : ℕ} {function : String}
    (hp : s.wherePredicate? = some p) (hi : p.start ≤ i) (hij : i ≤ j) (hj : j ≤ p.stop)
    (hkind : s.kind = .select) (hplain : PlainOrders s) :
    Preserves s ((⟨i, j⟩ : Span).replace s.tokens
      (applied function ((⟨i, j⟩ : Span).slice s.tokens))) := by
  intro r hr hkind'
  obtain ⟨t₀, rest, htokens⟩ := List.exists_cons_of_ne_nil s.tokens_ne_nil
  obtain ⟨A₀, w, A, M, C, hpart, rfl, rfl⟩ := Statement.exists_partAt htokens hp hi hij hj
  rw [hpart.slice, hpart.replace] at hr
  obtain ⟨before, hM⟩ := hpart.fits
  refine keepsOrders_of_part hpart hr hkind hkind' hplain ?_ (not_hasOrder_applied hM s.kind) ?_ ?_
  · rw [depthBehind_append, depthBehind_append]
    exact depthBehind_applied hM
  · intro hby
    cases hby
  · intro _
    rw [applied, List.getLast?_append_cons]
    rfl

theorem preserves_wrapInFunction (hkind : s.kind = .select) (hplain : PlainOrders s) :
    Gives (Preserves s) (wrapInFunction m s) := by
  refine (gives_chooseSite _ _).bind fun run hrun => ?_
  refine (gives_chooseSite _ _).bind fun function _ => gives_pure ?_
  rcases List.mem_append.1 hrun with hitem | hmention
  · exact preserves_applied_item (List.mem_of_mem_filter hitem) hkind
  · cases hp : s.wherePredicate? with
    | none => simp [hp] at hmention
    | some p =>
      rw [hp] at hmention
      obtain ⟨mention, hmem, rfl⟩ := List.mem_map.1 hmention
      obtain ⟨hmem, hinside⟩ := List.mem_filter.1 hmem
      obtain ⟨hle, hlt⟩ : p.start ≤ mention.position ∧ mention.position < p.stop := by
        simpa using hinside
      obtain ⟨t, -, -, hqualified⟩ := of_mem_columnMentions hmem
      refine preserves_applied_part hp ?_ ?_ hlt hkind hplain
      · split_ifs with hq
        · exact le_start_of_mention hp hle (hqualified hq)
        · exact hle
      · split_ifs
        · exact (Nat.sub_le _ 2).trans (Nat.le_succ _)
        · exact Nat.le_succ _

/-! ## Exchanging pieces -/

theorem exists_of_mem_whereConjuncts {run : Span} (h : run ∈ whereConjuncts s) :
    ∃ p, s.wherePredicate? = some p ∧ run ∈ s.conjuncts p := by
  unfold whereConjuncts at h
  split at h
  · rename_i p hp
    exact ⟨p, hp, h⟩
  · cases h

/-- A piece that closes as many parentheses in two places has as many in front of it in both. -/
theorem depth_unique {d d' : ℕ} {before before' before'' : Option Token} {P C C' : List Token}
    (h : fitsFrom d before (P ++ C)) (h' : fitsFrom d' before' (P ++ C'))
    (hP : depthBehind d' P = 0) (hC : fitsFrom 0 before'' C) : d = d' := by
  rcases Nat.le_total d d' with hle | hle
  · obtain ⟨more, rfl⟩ := Nat.exists_eq_add_of_le hle
    rw [depthBehind_add h] at hP
    omega
  · obtain ⟨more, rfl⟩ := Nat.exists_eq_add_of_le hle
    have hrest := fitsFrom_behind h
    rw [depthBehind_add h', hP] at hrest
    have hclosed := depthBehind_of_fitsFrom hrest 0
    have hmore := depthBehind_of_fitsFrom hC more
    rw [Nat.add_zero, hmore] at hclosed
    omega

theorem preserves_splice_item {donor : Statement} {run run' : Span}
    (hrun : run ∈ s.selectItems) (hrun' : run' ∈ donor.selectItems) (hkind : s.kind = .select) :
    Preserves s (run.replace s.tokens (run'.slice donor.tokens)) := by
  intro r hr hkind'
  obtain ⟨t₀, rest, htokens⟩ := List.exists_cons_of_ne_nil s.tokens_ne_nil
  obtain ⟨u₀, rest', htokens'⟩ := List.exists_cons_of_ne_nil donor.tokens_ne_nil
  obtain ⟨-, A, M, C, hitem, rfl⟩ := Statement.exists_itemAt htokens hrun
  obtain ⟨-, A', P, C', hitem', rfl⟩ := Statement.exists_itemAt htokens' hrun'
  rw [hitem'.slice, hitem.replace] at hr
  have hsplit : s.tokens = (t₀ :: (A ++ M)) ++ C := by
    rw [hitem.tokens]
    simp
  have hsplit' : r.tokens = (t₀ :: A) ++ (P ++ C) := hr
  obtain ⟨_, hrest⟩ := Statement.fits_behind hsplit
  obtain ⟨_, hhere⟩ := Statement.fits_behind hsplit'
  obtain ⟨_, hthere⟩ := hitem'.fits
  have hclosed : depthBehind 0 (t₀ :: (A ++ M)) = 0 := hitem.closed
  rw [hclosed] at hrest
  have hclosed' := hitem'.closed
  rw [depthBehind_append] at hclosed'
  -- The piece brings its own parentheses, so it stands as deep as it did.
  have hdepth := depth_unique hhere hthere hclosed' hrest
  have hdepth : depthBehind (depthPast 0 t₀) A = depthBehind (depthPast 0 u₀) A' := hdepth
  refine keepsOrders_of_item hitem (List.ne_nil_of_mem hrun) hr hkind hkind' ?_ ?_ ?_
  · rw [hitem.closed, depthBehind_append, hdepth, hclosed']
  · rw [hdepth]
    exact hitem'.not_hasOrder s.kind
  · rw [hdepth]
    exact hitem'.commas

theorem preserves_splice_conjunct {donor : Statement} {run run' : Span}
    (hrun : run ∈ whereConjuncts s) (hrun' : run' ∈ whereConjuncts donor) (hkind : s.kind = .select)
    (hplain : PlainOrders s) : Preserves s (run.replace s.tokens (run'.slice donor.tokens)) := by
  intro r hr hkind'
  obtain ⟨t₀, rest, htokens⟩ := List.exists_cons_of_ne_nil s.tokens_ne_nil
  obtain ⟨u₀, rest', htokens'⟩ := List.exists_cons_of_ne_nil donor.tokens_ne_nil
  obtain ⟨p, hp, hrun⟩ := exists_of_mem_whereConjuncts hrun
  obtain ⟨p', hp', hrun'⟩ := exists_of_mem_whereConjuncts hrun'
  obtain ⟨A₀, w, A, M, C, hpart, rfl⟩ := Statement.exists_conjunctAt htokens hp hrun
  obtain ⟨A₀', w', A', P, C', hpart', rfl⟩ := Statement.exists_conjunctAt htokens' hp' hrun'
  rw [hpart'.slice, hpart.replace] at hr
  have hclosed := hpart'.stop
  rw [depthBehind_append, hpart'.start] at hclosed
  refine keepsOrders_of_part hpart.toPartAt hr hkind hkind' hplain ?_ ?_ ?_ ?_
  · rw [hpart.stop, depthBehind_append, hpart.start, hclosed]
  · rw [hpart.start, ← hpart'.start]
    exact hpart'.not_hasOrder s.kind
  · intro _
    rcases List.eq_nil_or_concat' A with rfl | ⟨A, t, rfl⟩
    · rfl
    · have hand : t.isWord "AND" := by simpa using hpart.front
      have hword : t.isWord "ORDER" = false := isAnyOf_eq_false hand (by decide)
      simp [hword]
  · intro hby
    rw [hpart.notBy] at hby
    cases hby

theorem preserves_splicePiece (hkind : s.kind = .select) (hplain : PlainOrders s) :
    Gives (Preserves s) (splicePiece m s) := by
  refine (gives_chooseSite _ _).bind fun ⟨run, piece⟩ hsite => gives_pure ?_
  obtain ⟨-, donor, -, hoffer⟩ := mem_spliceSites_iff.1 hsite
  rcases of_mem_offersFrom hoffer with ⟨run', hrun', rfl, hrun⟩ | ⟨run', hrun', rfl, hrun⟩
  · exact preserves_splice_conjunct hrun hrun' hkind hplain
  · exact preserves_splice_item hrun hrun' hkind

/-! ## Exchanging tokens -/

/-- The words that begin a `SELECT`. -/
def selectHeads : List String :=
  ["SELECT", "VALUES", "WITH"]

theorem isKeyword_eq_false_of_lexeme {cs : List Char} (h : Lexeme .identifier cs) :
    isKeyword (String.ofList cs) = false := by
  generalize hkind : TokenKind.identifier = kind at h
  cases h with
  | word =>
    unfold wordKind at hkind
    split_ifs at hkind with hword
    exact Bool.eq_false_of_not_eq_true hword
  | numeral hnumeral => cases hnumeral <;> cases hkind
  | _ => cases hkind

/-- A lexeme that begins a `SELECT` is one of these words. -/
theorem isAnyOf_selectHeads {t : Token} {ts : List Token} (ht : t.IsLexeme)
    (h : StatementKind.ofTokens (t :: ts) = .ok .select) : t.isAnyOf selectHeads := by
  have hhead : StatementKind.ofHead? t.text.toUpper = some .select := by
    cases hkind : StatementKind.ofHead? t.text.toUpper with
    | none => simp [StatementKind.ofTokens, hkind] at h
    | some kind => simpa [StatementKind.ofTokens, hkind] using h
  have hmem : selectHeads.contains t.text.toUpper := by
    unfold StatementKind.ofHead? at hhead
    split_ifs at hhead with hselect <;> first | exact hselect | cases hhead
  rcases ht.kind_of_head h with hk | hk
  · simpa [Token.isAnyOf, hk] using hmem
  · rw [Token.IsLexeme, hk] at ht
    have hnone := isKeyword_eq_false_of_lexeme ht
    have hall : selectHeads.all keywords.contains := by decide
    have hkeyword : isKeyword t.text := List.all_eq_true.1 hall _ (List.contains_iff_mem.1 hmem)
    rw [String.ofList_toList, hkeyword] at hnone
    cases hnone

/-- What can stand in an expression, and no `SELECT` begins with it. -/
structure Neutral (P : List Token) : Prop where
  inert : ∀ t ∈ P, isInert t
  exists_cons : ∃ u rest, P = u :: rest ∧ u.IsLexeme ∧ u.isAnyOf selectHeads = false

theorem exists_append_of_getElem? {ts : List Token} {i : ℕ} {t : Token} (h : ts[i]? = some t) :
    ∃ A C, ts = A ++ ([t] ++ C) ∧ A.length = i := by
  obtain ⟨hlt, rfl⟩ := List.getElem?_eq_some_iff.1 h
  refine ⟨ts.take i, ts.drop (i + 1), ?_, List.length_take_of_le hlt.le⟩
  rw [List.singleton_append, List.cons_getElem_drop_succ, List.take_append_drop]

/-- A token without a shape may be exchanged for such tokens where no order is. -/
theorem preserves_exchange {i : ℕ} {t : Token} {P : List Token} (hi : s.tokens[i]? = some t)
    (ht : isInert t) (hP : Neutral P) (hkind : s.kind = .select) (hin : ¬s.IsInOrder i) :
    Preserves s ((spanAt i).replace s.tokens P) := by
  intro r hr hkind'
  obtain ⟨B, C, hsplit, rfl⟩ := exists_append_of_getElem? hi
  obtain ⟨u, P, rfl, hu, hhead⟩ := hP.exists_cons
  have hreplace : (spanAt B.length).replace (B ++ ([t] ++ C)) (u :: P) = B ++ (u :: P ++ C) :=
    Span.replace_append rfl rfl
  rw [hsplit, hreplace] at hr
  cases B with
  | nil =>
    have hstart := r.kind_eq
    rw [hr, hkind', hkind] at hstart
    have hselect := isAnyOf_selectHeads hu hstart
    rw [hhead] at hselect
    cases hselect
  | cons t₀ A =>
    have hne : u :: P ≠ [] := List.cons_ne_nil u P
    apply (keepsOrders_of_isInert hsplit hr hkind hkind' ht hP.inert hne).resolve_right
    intro h
    rw [Nat.add_comm] at h
    exact hin h

theorem neutral_nameToken (name : String) : Neutral [nameToken name] := by
  constructor
  · simpa using isInert_nameToken name
  · refine ⟨_, [], rfl, isLexeme_nameToken name, ?_⟩
    rcases nameToken_kind name with hk | hk <;> simp [Token.isAnyOf, hk]

theorem neutral_of_isLiteralTokens {text : String} {P : List Token} (hP : Spells text P)
    (h : Grammar.isLiteralTokens P) : Neutral P := by
  have hlexeme := isLexeme_of_significantTokens hP.significantTokens
  refine ⟨isInert_of_isLiteralTokens h, ?_⟩
  match P with
  | [t] =>
    refine ⟨t, [], rfl, hlexeme t (by simp), ?_⟩
    by_cases hword : t.isAnyOf ["NULL", "TRUE", "FALSE"]
    · exact isAnyOf_eq_false hword (by decide)
    · have hkind : t.kind ≠ .keyword := by
        intro hk
        have hliteral : t.isLiteral := h
        simp [Token.isLiteral, hk, hword] at hliteral
      simp [Token.isAnyOf, hkind]
  | [sign, t] =>
    obtain ⟨rfl, -⟩ : sign = Grammar.minus ∧ (t.kind = .integer ∨ t.kind = .float) := by
      simpa [Grammar.isLiteralTokens] using h
    exact ⟨_, [t], rfl, hlexeme _ (by simp), rfl⟩

/-- An operator in place of one, or a word in place of one. -/
theorem neutral_of_operatorClass? {owned : List ℕ} {i : ℕ} {t : Token} {alike : List String}
    (h : operatorClass? s owned i t = some alike) {op : String} (hop : op ∈ alike) :
    Neutral [⟨if t.kind = .keyword then .keyword else .operator, op⟩] := by
  have hlexeme := (inStatement_of_operatorClass? h op hop).1
  rcases operatorClass?_cases h with ⟨hkind, -⟩ | ⟨hword, halike⟩
  · rw [hkind, if_neg (by decide)] at hlexeme ⊢
    have hinert : isInert ⟨.operator, op⟩ := isInert_of_kind (by simp) (by simp)
    exact ⟨by simpa using hinert, _, [], rfl, hlexeme, rfl⟩
  · rw [kind_of_isAnyOf hword, if_pos rfl] at hlexeme ⊢
    have hall : ["AND", "OR", "LIKE", "GLOB"].all fun op =>
        isInert ⟨.keyword, op⟩ && !Token.isAnyOf selectHeads ⟨.keyword, op⟩ := by
      decide +kernel
    obtain ⟨hinert, hhead⟩ := Bool.and_eq_true_iff.1 (List.all_eq_true.1 hall op (halike op hop))
    exact ⟨by simpa using hinert, _, [], rfl, hlexeme, by simpa using hhead⟩

theorem preserves_substituteIdentifier (hkind : s.kind = .select) (hs : s.isTotallyOrdered) :
    Gives (Preserves s) (substituteIdentifier m s) := by
  refine (gives_chooseSite _ _).bind fun mention hmention => ?_
  refine (gives_chooseSite _ _).bind fun name _ => ?_
  refine (gives_lexed_spelled (spells_quoteIdentifier name)).bind ?_
  rintro _ rfl
  obtain ⟨t, ht, hname, -⟩ := of_mem_columnMentions hmention
  have hname : t.kind = .identifier ∨ t.kind = .quotedIdentifier := by simpa [isName] using hname
  have hinert : isInert t := by
    rcases hname with hk | hk <;> exact isInert_of_kind (by simp [hk]) (by simp [hk])
  refine gives_pure (preserves_exchange ht hinert (neutral_nameToken name) hkind fun hin => ?_)
  have hpositional := isPositional_of_isInOrder hs hin ht
  rcases hname with hk | hk <;> simp [isPositional, hk, Token.isAnyOf] at hpositional

theorem preserves_substituteOperator (hkind : s.kind = .select) (hs : s.isTotallyOrdered) :
    Gives (Preserves s) (substituteOperator s) := by
  refine (gives_chooseSite _ _).bind fun ⟨i, alike⟩ hsite => ?_
  obtain ⟨t, ht, hcurrent, hclass⟩ := of_mem_operatorSites hsite
  refine (gives_chooseSite _ _).bind fun op hop => gives_pure ?_
  rw [hcurrent] at hop ⊢
  have hneutral := neutral_of_operatorClass? hclass (List.mem_of_mem_filter hop)
  have hstands : isInert t ∧ isPositional t = false := by
    rcases operatorClass?_cases hclass with ⟨hk, -⟩ | ⟨hword, -⟩
    · refine ⟨isInert_of_kind (by simp [hk]) (by simp [hk]), ?_⟩
      simp [isPositional, hk, Token.isAnyOf]
    · have hnone : t.isAnyOf ["BY", "ASC", "DESC"] = false := isAnyOf_eq_false hword (by decide)
      refine ⟨isInert_of_isAnyOf hword (by decide), ?_⟩
      simp [isPositional, kind_of_isAnyOf hword, hnone]
  apply preserves_exchange ht hstands.1 hneutral hkind
  intro hin
  have hpositional := isPositional_of_isInOrder hs hin ht
  rw [hstands.2] at hpositional
  cases hpositional

/-- A position of an order is exchanged for a literal. -/
def ExchangesPosition (s : Statement) (ts : List Token) : Prop :=
  ∃ i t P, s.IsInOrder i ∧ s.tokens[i]? = some t ∧ t.kind = .integer ∧
    Grammar.isLiteralTokens P ∧ ts = (spanAt i).replace s.tokens P

/-- The literals of a list of positions are the positions. -/
theorem kind_of_isPositional {t : Token} (h : isPositional t) (hliteral : t.isLiteral) :
    t.kind = .integer := by
  have hcases : (t.kind = .integer ∨ t.kind = .comma) ∨ t.isAnyOf ["BY", "ASC", "DESC"] := by
    simpa [isPositional] using h
  rcases hcases with (hk | hk) | hword
  · exact hk
  · simp [Token.isLiteral, Token.isAnyOf, hk] at hliteral
  · have hnone : t.isAnyOf ["NULL", "TRUE", "FALSE"] = false := isAnyOf_eq_false hword (by decide)
    simp [Token.isLiteral, kind_of_isAnyOf hword, hnone] at hliteral

/-- Exchanging a literal keeps the orders, but for a position of one. -/
theorem preserves_mutateLiteral (hkind : s.kind = .select) (hs : s.isTotallyOrdered) :
    Gives (fun ts => Preserves s ts ∨ ExchangesPosition s ts) (mutateLiteral m s) := by
  refine (gives_chooseSite _ _).bind fun i hi => ?_
  obtain ⟨t, ht, hliteral⟩ := getElem?_of_mem_positionsWhere hi
  refine (gives_literalReplacement m _).bind ?_
  rintro text ⟨P, hP, hliterals⟩
  refine (gives_lexed_spelled hP).bind ?_
  rintro _ rfl
  apply gives_pure
  by_cases hin : s.IsInOrder i
  · have hposition := kind_of_isPositional (isPositional_of_isInOrder hs hin ht) hliteral
    exact .inr ⟨i, t, _, hin, ht, hposition, hliterals, rfl⟩
  · have hneutral := neutral_of_isLiteralTokens hP hliterals
    exact .inl (preserves_exchange ht (isInert_of_isLiteral hliteral) hneutral hkind hin)

end Mutation
end QueryFuzz
