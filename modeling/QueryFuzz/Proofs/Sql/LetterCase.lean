import Mathlib.Data.List.Forall2
import Mathlib.Data.String.Basic
import QueryFuzz.Proofs.Sql.Capitals
import QueryFuzz.Proofs.Sql.Script

/-!
# Letter case does not matter

Everything that is read off a token compares its text in capitals, or with a text without letters.
So what is found in the tokens of a text in capitals is what is found in the tokens of the text, and
two texts that differ in letter case only have the same statements and the same shape.
-/

namespace QueryFuzz
namespace Sql

/-! ## Tokens -/

/-- A text without letters is written the same way in capitals. -/
theorem toUpper_eq_marks_iff {s marks : String} (h : marks.toList.any Char.isAlpha = false) :
    s.toUpper = marks ↔ s = marks := by
  rw [← String.toList_inj, ← String.toList_inj, toList_toUpper]
  generalize s.toList = cs
  generalize marks.toList = ms at h
  induction ms generalizing cs with
  | nil => simp
  | cons m ms ih =>
    obtain ⟨hm, hms⟩ := Bool.or_eq_false_iff.1 h
    cases cs with
    | nil => simp
    | cons c cs => rw [List.map_cons, List.cons.injEq, List.cons.injEq, toUpper_eq_iff hm, ih cs hms]

namespace Token

@[simp] theorem kind_inCapitals (t : Token) : t.inCapitals.kind = t.kind :=
  rfl

@[simp] theorem isAnyOf_inCapitals (words : List String) (t : Token) :
    t.inCapitals.isAnyOf words = t.isAnyOf words := by
  rw [isAnyOf, isAnyOf, inCapitals, text_toUpper_toUpper]

@[simp] theorem isWord_inCapitals (word : String) (t : Token) :
    t.inCapitals.isWord word = t.isWord word :=
  isAnyOf_inCapitals [word] t

theorem text_inCapitals_beq {marks : String} (h : marks.toList.any Char.isAlpha = false)
    (t : Token) : (t.inCapitals.text == marks) = (t.text == marks) := by
  rw [Bool.eq_iff_iff, beq_iff_eq, beq_iff_eq]
  exact toUpper_eq_marks_iff h

@[simp] theorem text_inCapitals_star (t : Token) :
    (t.inCapitals.text == "*") = (t.text == "*") :=
  text_inCapitals_beq (by decide) t

@[simp] theorem isOperator_inCapitals (t : Token) :
    t.inCapitals.isOperator "*" = t.isOperator "*" := by
  rw [isOperator, isOperator, kind_inCapitals, text_inCapitals_star]

@[simp] theorem isSign_inCapitals (t : Token) : t.inCapitals.isSign = t.isSign := by
  simp only [isSign, kind_inCapitals, List.contains_cons, List.contains_nil]
  rw [text_inCapitals_beq (by decide), text_inCapitals_beq (by decide),
    text_inCapitals_beq (by decide)]

@[simp] theorem startsOperand_inCapitals (t : Token) :
    t.inCapitals.startsOperand = t.startsOperand := by
  simp only [startsOperand, kind_inCapitals, isSign_inCapitals, isAnyOf_inCapitals]

@[simp] theorem endsOperand_inCapitals (t : Token) :
    t.inCapitals.endsOperand = t.endsOperand := by
  simp only [endsOperand, kind_inCapitals, text_inCapitals_star, isAnyOf_inCapitals]

end Token

open Token

/-! ## The check of a statement -/

@[simp] theorem followsNot_inCapitals (t : Token) : followsNot t.inCapitals = followsNot t := by
  simp only [followsNot, startsOperand_inCapitals, isAnyOf_inCapitals]

theorem misfit?_inCapitals (before : Option Token) (t : Token) (after : Option Token) :
    misfit? (before.map inCapitals) t.inCapitals (after.map inCapitals) =
      misfit? before t after := by
  simp only [misfit?, fitsLeftParen, fitsComma, fitsOperator, fitsKeyword, kind_inCapitals,
    isAnyOf_inCapitals, isWord_inCapitals, isSign_inCapitals, isOperator_inCapitals,
    text_inCapitals_star, startsOperand_inCapitals, endsOperand_inCapitals, followsNot_inCapitals,
    Option.any_map]
  rfl

theorem checkFrom_capitals (index depth : ℕ) (before : Option Token) (ts : List Token) :
    checkFrom index depth (before.map inCapitals) (ts.map inCapitals) =
      answerInCapitals id (checkFrom index depth before ts) := by
  induction ts generalizing index depth before with
  | nil =>
    rw [List.map_nil, checkFrom, checkFrom]
    split_ifs <;> rfl
  | cons t ts ih =>
    have hdepth : depthPast? depth t.inCapitals = depthPast? depth t := rfl
    rw [List.map_cons, checkFrom, checkFrom, List.head?_map, misfit?_inCapitals, hdepth]
    cases misfit? before t ts.head? with
    | some misfit => cases misfit <;> rfl
    | none =>
      cases depthPast? depth t with
      | none => rfl
      | some depth' => exact ih (index + 1) depth' (some t)

theorem StatementKind.ofTokens_capitals (ts : List Token) :
    StatementKind.ofTokens (ts.map inCapitals) =
      answerInCapitals id (StatementKind.ofTokens ts) := by
  cases ts with
  | nil => rfl
  | cons t ts =>
    rw [List.map_cons, StatementKind.ofTokens, StatementKind.ofTokens, inCapitals,
      text_toUpper_toUpper]
    cases ofHead? t.text.toUpper <;> rfl

namespace Statement

/-- The statement as it is written in capitals. -/
def inCapitals (s : Statement) : Statement where
  kind := s.kind
  tokens := s.tokens.map Token.inCapitals
  kind_eq := by rw [StatementKind.ofTokens_capitals, s.kind_eq]; rfl
  sound := by
    have hcheck := checkFrom_capitals 0 0 none s.tokens
    have hsound := s.sound
    rw [checkStructure] at hsound ⊢
    rw [hsound] at hcheck
    exact hcheck

@[simp] theorem kind_inCapitals (s : Statement) : s.inCapitals.kind = s.kind :=
  rfl

@[simp] theorem tokens_inCapitals (s : Statement) :
    s.inCapitals.tokens = s.tokens.map Token.inCapitals :=
  rfl

theorem ofTokens_eq_error_iff {ts : List Token} {e : Error} :
    ofTokens ts = .error e ↔ StatementKind.ofTokens ts = .error e ∨
      (∃ kind, StatementKind.ofTokens ts = .ok kind) ∧ checkStructure ts = .error e := by
  unfold ofTokens
  split
  · simp_all
  · split <;> simp_all

theorem ofTokens_capitals (ts : List Token) :
    ofTokens (ts.map Token.inCapitals) = answerInCapitals inCapitals (ofTokens ts) := by
  cases h : ofTokens ts with
  | ok s =>
    obtain rfl := tokens_of_ofTokens h
    exact ofTokens_eq_ok_iff.2 rfl
  | error e =>
    apply ofTokens_eq_error_iff.2
    rw [StatementKind.ofTokens_capitals]
    rcases ofTokens_eq_error_iff.1 h with hkind | ⟨⟨kind, hkind⟩, hcheck⟩
    · left
      rw [hkind]
      rfl
    · right
      refine ⟨⟨kind, by rw [hkind]; rfl⟩, ?_⟩
      have hcapitals := checkFrom_capitals 0 0 none ts
      rw [checkStructure] at hcheck
      rw [hcheck] at hcapitals
      exact hcapitals

end Statement

/-! ## Scripts -/

theorem splitAtSemicolons_capitals (ts : List Token) :
    splitAtSemicolons (ts.map inCapitals) = (splitAtSemicolons ts).map (List.map inCapitals) := by
  induction ts with
  | nil => rfl
  | cons t ts ih =>
    rw [List.map_cons, splitAtSemicolons, splitAtSemicolons, ih, kind_inCapitals]
    split_ifs
    · rfl
    · cases splitAtSemicolons ts <;> rfl

theorem statementsOf_capitals (chunks : List (List Token)) :
    statementsOf (chunks.map (List.map inCapitals)) =
      answerInCapitals (List.map Statement.inCapitals) (statementsOf chunks) := by
  induction chunks with
  | nil => rfl
  | cons chunk chunks ih =>
    rw [List.map_cons, statementsOf, statementsOf, ih, Statement.ofTokens_capitals]
    have hempty : (chunk.map inCapitals).isEmpty = chunk.isEmpty := by
      cases chunk <;> rfl
    rw [hempty]
    split_ifs
    · rfl
    · cases Statement.ofTokens chunk with
      | error e => rfl
      | ok s => cases statementsOf chunks <;> rfl

theorem tokenize_capitals (sql : String) :
    tokenize sql.toUpper = answerInCapitals (List.map inCapitals) (tokenize sql) := by
  rw [tokenize, tokenize, toList_toUpper, tokenizeFrom_capitals]

theorem significantTokens_capitals (sql : String) :
    significantTokens sql.toUpper =
      answerInCapitals (List.map inCapitals) (significantTokens sql) := by
  rw [significantTokens, significantTokens, tokenize_capitals]
  cases tokenize sql with
  | error e => rfl
  | ok ts =>
    simp only [answerInCapitals, Except.map, List.filter_map]
    rfl

theorem parseScript_capitals (sql : String) :
    parseScript sql.toUpper =
      answerInCapitals (List.map Statement.inCapitals) (parseScript sql) := by
  rw [parseScript, parseScript, significantTokens_capitals]
  cases significantTokens sql with
  | error e => rfl
  | ok ts =>
    simp only [answerInCapitals]
    rw [splitAtSemicolons_capitals, statementsOf_capitals]
    cases statementsOf (splitAtSemicolons ts) with
    | error e => rfl
    | ok statements => cases statements <;> rfl

/-! ## What is found in a statement -/

theorem clauseAt?_capitals (k : StatementKind) (inCompound : Bool) (t : Token)
    (after : Option Token) :
    clauseAt? k inCompound t.inCapitals (after.map inCapitals) = clauseAt? k inCompound t after := by
  simp only [clauseAt?, isAnyOf_inCapitals, isWord_inCapitals, Option.any_map]

theorem clauseStarts_capitals (k : StatementKind) (index depth modifiers : ℕ) (inCompound : Bool)
    (ts : List Token) :
    clauseStarts k index depth modifiers inCompound (ts.map inCapitals) =
      clauseStarts k index depth modifiers inCompound ts := by
  induction ts generalizing index depth modifiers inCompound with
  | nil => rfl
  | cons t ts ih =>
    have hmodifier : isJoinModifier t.inCapitals = isJoinModifier t := isAnyOf_inCapitals _ t
    have hdepth : depthPast depth t.inCapitals = depthPast depth t := rfl
    rw [List.map_cons, clauseStarts, clauseStarts, List.head?_map, clauseAt?_capitals, hmodifier,
      hdepth]
    simp only [ih]

theorem depthsFrom_capitals (depth : ℕ) (ts : List Token) :
    depthsFrom depth (ts.map inCapitals) = depthsFrom depth ts := by
  induction ts generalizing depth with
  | nil => rfl
  | cons t ts ih =>
    rw [List.map_cons, depthsFrom, depthsFrom, ih]
    rfl

/-- Where tokens are cut, if the cut ignores letter case. -/
theorem piecesFrom_capitals {σ : Type} {cut : σ → ℕ → Token → Bool × σ}
    (hcut : ∀ state depth t, cut state depth t.inCapitals = cut state depth t) (start index : ℕ)
    (state : σ) (entries : List (ℕ × Token)) :
    piecesFrom cut start index state (entries.map (Prod.map id inCapitals)) =
      piecesFrom cut start index state entries := by
  induction entries generalizing start index state with
  | nil => rfl
  | cons entry entries ih =>
    obtain ⟨depth, t⟩ := entry
    rw [List.map_cons, Prod.map_apply, id, piecesFrom, piecesFrom, hcut]
    simp only [ih]

theorem slice_map {α β : Type} (f : α → β) (run : Span) (xs : List α) :
    run.slice (xs.map f) = (run.slice xs).map f := by
  rw [Span.slice, Span.slice, ← List.map_take, ← List.map_drop]

/-- Two statements with the same kind, depths and parts. -/
structure SameShape (s s' : Statement) : Prop where
  kind : s.kind = s'.kind
  depths : s.depths = s'.depths
  clauses : s.clauses = s'.clauses
  wherePredicate? : s.wherePredicate? = s'.wherePredicate?
  conjuncts : ∀ predicate, s.conjuncts predicate = s'.conjuncts predicate
  selectItems : s.selectItems = s'.selectItems

namespace Statement

theorem depths_inCapitals (s : Statement) : s.inCapitals.depths = s.depths :=
  depthsFrom_capitals 0 s.tokens

theorem tokensAtDepth_inCapitals (s : Statement) :
    s.inCapitals.tokensAtDepth = s.tokensAtDepth.map (Prod.map id Token.inCapitals) := by
  rw [tokensAtDepth, tokensAtDepth, depths_inCapitals, tokens_inCapitals, ← List.zip_map,
    List.map_id]

theorem clauses_inCapitals (s : Statement) : s.inCapitals.clauses = s.clauses := by
  obtain ⟨t, ts, htokens⟩ := List.exists_cons_of_ne_nil s.tokens_ne_nil
  have hdepth : depthPast 0 t.inCapitals = depthPast 0 t := rfl
  rw [clauses, clauses, tokens_inCapitals, htokens, List.map_cons]
  dsimp only
  rw [kind_inCapitals, hdepth, clauseStarts_capitals, List.length_cons, List.length_cons,
    List.length_map]

theorem clause?_inCapitals (s : Statement) (kind : ClauseKind) :
    s.inCapitals.clause? kind = s.clause? kind := by
  rw [clause?, clause?, clauses_inCapitals]

theorem conjuncts_inCapitals (s : Statement) (predicate : Span) :
    s.inCapitals.conjuncts predicate = s.conjuncts predicate := by
  have hcut : ∀ pending depth t,
      cutConjuncts pending depth t.inCapitals = cutConjuncts pending depth t := by
    intro pending depth t
    simp only [cutConjuncts, isWord_inCapitals]
  rw [conjuncts, conjuncts, tokensAtDepth_inCapitals, slice_map, piecesFrom_capitals hcut]

theorem selectItems_inCapitals (s : Statement) : s.inCapitals.selectItems = s.selectItems := by
  have hcut : ∀ state depth t, cutItems state depth t.inCapitals = cutItems state depth t :=
    fun _ _ _ => rfl
  simp only [selectItems, kind_inCapitals, tokens_inCapitals, clause?_inCapitals, tokensAtDepth_inCapitals, slice_map,
    piecesFrom_capitals hcut, List.findIdx?_map, List.getElem?_map, Option.any_map,
    isAnyOf_inCapitals, Function.comp_def, isWord_inCapitals]

theorem sameShape_inCapitals (s : Statement) : SameShape s.inCapitals s where
  kind := rfl
  depths := s.depths_inCapitals
  clauses := s.clauses_inCapitals
  wherePredicate? := by rw [wherePredicate?, wherePredicate?, clause?_inCapitals]
  conjuncts := s.conjuncts_inCapitals
  selectItems := s.selectItems_inCapitals

end Statement

/-! ## Facts about whole texts -/

theorem length_wordsFrom_capitals (cs : List Char) :
    (Text.wordsFrom (cs.map Char.toUpper)).length = (Text.wordsFrom cs).length := by
  have hcomp : (fun c => !Text.isBlank c) ∘ Char.toUpper = fun c => !Text.isBlank c :=
    funext fun c => by rw [Function.comp_apply, isBlank_toUpper]
  induction cs using Text.wordsFrom.induct with
  | case1 => rfl
  | case2 c rest hblank ih =>
    rw [List.map_cons, Text.wordsFrom, Text.wordsFrom, isBlank_toUpper, if_pos hblank,
      if_pos hblank, ih]
  | case3 c rest hblank ih =>
    rw [List.map_cons, Text.wordsFrom, Text.wordsFrom, isBlank_toUpper, if_neg hblank,
      if_neg hblank, List.length_cons, List.length_cons, List.dropWhile_map, hcomp, ih]

theorem tokenCount_capitals (sql : String) : tokenCount sql.toUpper = tokenCount sql := by
  rw [tokenCount, tokenCount, significantTokens_capitals]
  cases significantTokens sql with
  | error e =>
    show (Text.words sql.toUpper).length = (Text.words sql).length
    rw [Text.words, Text.words, List.length_map, List.length_map, toList_toUpper,
      length_wordsFrom_capitals]
  | ok ts =>
    simp only [answerInCapitals, List.filter_map, List.length_map]
    rfl

theorem text_toLower_toUpper (sql : String) : sql.toUpper.toLower = sql.toLower := by
  have htoLower (s : String) : s.toLower.toList = s.toList.map Char.toLower := String.toList_map
  rw [← String.toList_inj, htoLower, htoLower, toList_toUpper, List.map_map]
  exact congrArg (List.map · sql.toList) (funext toLower_toUpper)

theorem resultShape_capitals (sql : String) : resultShape sql.toUpper = resultShape sql := by
  rw [resultShape, resultShape, parseScript_capitals]
  cases parseScript sql with
  | error e =>
    simp only [answerInCapitals]
    rw [text_toLower_toUpper]
  | ok statements =>
    simp only [answerInCapitals]
    rw [← List.map_reverse, List.find?_map]
    have hselects : (fun s : Statement => s.kind == .select) ∘ Statement.inCapitals =
        fun s => s.kind == .select := rfl
    rw [hselects]
    cases statements.reverse.find? fun s => s.kind == .select with
    | none => rfl
    | some s =>
      simp only [Option.map_some, Statement.hasClause, Statement.clauses_inCapitals]

/-! ## Two texts -/

/-- Two tokens of the same kind that take the same room and differ in letter case only. -/
structure SameSpelling (t u : Token) : Prop where
  kind : t.kind = u.kind
  length : t.text.length = u.text.length
  bytes : t.text.utf8ByteSize = u.text.utf8ByteSize
  word : sameWord t.text u.text

/-- Either two answers that are related, or the same fault at the same place. -/
inductive Agree {α β : Type} (related : α → β → Prop) : Except Error α → Except Error β → Prop
  | answers {a : α} {b : β} : related a b → Agree related (.ok a) (.ok b)
  | faults {e e' : Error} : e.inCapitals = e'.inCapitals → Agree related (.error e) (.error e')

theorem Agree.of_capitals {α β : Type} {f : α → β} {related : α → α → Prop}
    {x y : Except Error α} (h : answerInCapitals f x = answerInCapitals f y)
    (hrelated : ∀ a b, f a = f b → related a b) : Agree related x y := by
  cases x with
  | error e =>
    cases y with
    | error e' => exact .faults (Except.error.inj h)
    | ok b => cases h
  | ok a =>
    cases y with
    | error e' => cases h
    | ok b => exact .answers (hrelated a b (Except.ok.inj h))

theorem utf8ByteSize_toUpper (s : String) : s.toUpper.utf8ByteSize = s.utf8ByteSize := by
  rw [← String.utf8Len_toList, ← String.utf8Len_toList, toList_toUpper]
  induction s.toList with
  | nil => rfl
  | cons c cs ih =>
    rw [List.map_cons, String.utf8Len_cons, String.utf8Len_cons, ih, utf8Size_toUpper]

theorem sameSpelling_of_inCapitals {t u : Token} (h : t.inCapitals = u.inCapitals) :
    SameSpelling t u := by
  obtain ⟨hkind, htext⟩ := Token.mk.inj h
  constructor
  · exact hkind
  · have hlength := congrArg String.length htext
    rwa [String.toUpper, String.toUpper, String.length_map, String.length_map] at hlength
  · have hbytes := congrArg String.utf8ByteSize htext
    rwa [utf8ByteSize_toUpper, utf8ByteSize_toUpper] at hbytes
  · exact beq_iff_eq.2 htext

theorem forall₂_of_map_eq {α β : Type} {f : α → β} {related : α → α → Prop} {xs ys : List α}
    (h : xs.map f = ys.map f) (hrelated : ∀ a b, f a = f b → related a b) :
    List.Forall₂ related xs ys := by
  have heq : List.Forall₂ (· = ·) (xs.map f) (ys.map f) := by
    rw [List.forall₂_eq_eq_eq]
    exact h
  rw [List.forall₂_map_left_iff, List.forall₂_map_right_iff] at heq
  exact heq.imp hrelated

theorem sameShape_of_inCapitals {s s' : Statement} (h : s.inCapitals = s'.inCapitals) :
    SameShape s s' := by
  have hs := s.sameShape_inCapitals
  have hs' := s'.sameShape_inCapitals
  rw [h] at hs
  exact ⟨hs.kind.symm.trans hs'.kind, hs.depths.symm.trans hs'.depths,
    hs.clauses.symm.trans hs'.clauses, hs.wherePredicate?.symm.trans hs'.wherePredicate?,
    fun p => (hs.conjuncts p).symm.trans (hs'.conjuncts p),
    hs.selectItems.symm.trans hs'.selectItems⟩

theorem sameWord_iff {a b : String} :
    sameWord a b ↔ a.toList.map Char.toUpper = b.toList.map Char.toUpper := by
  rw [sameWord, beq_iff_eq, ← String.toList_inj, toList_toUpper, toList_toUpper]

/-- Texts that differ in letter case only, wherever they do, are cut into the same kinds of tokens
of the same lengths, or are at fault at the same place. Their statements have the same shape, and
so have their rows. -/
theorem reading_ignores_letter_case {a b : String} (h : sameWord a b) :
    Agree (List.Forall₂ SameSpelling) (tokenize a) (tokenize b) ∧
    Agree (List.Forall₂ SameShape) (parseScript a) (parseScript b) ∧
    tokenCount a = tokenCount b ∧ resultShape a = resultShape b := by
  have hcapitals : a.toUpper = b.toUpper := beq_iff_eq.1 h
  refine ⟨?_, ?_, ?_, ?_⟩
  · have htokens := congrArg tokenize hcapitals
    rw [tokenize_capitals, tokenize_capitals] at htokens
    apply Agree.of_capitals htokens
    intro ts us hmap
    exact forall₂_of_map_eq hmap fun t u => sameSpelling_of_inCapitals
  · have hstatements := congrArg parseScript hcapitals
    rw [parseScript_capitals, parseScript_capitals] at hstatements
    apply Agree.of_capitals hstatements
    intro ss ss' hmap
    exact forall₂_of_map_eq hmap fun s s' => sameShape_of_inCapitals
  · rw [← tokenCount_capitals a, hcapitals, tokenCount_capitals]
  · rw [← resultShape_capitals a, hcapitals, resultShape_capitals]

/-- Letter case differs in keywords, names, marks of literals, between quotes and in a comment. -/
theorem reading_ignores_letter_case_everywhere :
    let a := "SELECT 'Ab', x'0f', 1e3 FROM t WHERE a = [B] AND c /* Why */ ORDER BY 1 LIMIT 2"
    let b := "select 'aB', X'0F', 1E3 from T where A = [b] and C /* wHY */ order by 1 limit 2"
    sameWord a b ∧ Agree (List.Forall₂ SameSpelling) (tokenize a) (tokenize b) ∧
      Agree (List.Forall₂ SameShape) (parseScript a) (parseScript b) ∧
      tokenCount a = tokenCount b ∧ resultShape a = resultShape b ∧
      resultShape b = ⟨true, true⟩ := by
  intro a b
  have hword : sameWord a b := sameWord_iff.2 (by decide +kernel)
  obtain ⟨htokens, hstatements, hcount, hshape⟩ := reading_ignores_letter_case hword
  exact ⟨hword, htokens, hstatements, hcount, hshape, by decide +kernel⟩

end Sql
end QueryFuzz
