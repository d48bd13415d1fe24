import Mathlib.Data.List.Chain
import Mathlib.Data.List.Infix
import QueryFuzz.Proofs.Sql.Rendering

/-!
# Scripts and their statements

A statement is determined by its tokens, and a script by the tokens of its statements. Its first
token is a word and no statement holds a semicolon, so a script of statements without fusing
tokens is read back from its text.
-/

namespace QueryFuzz
namespace Sql

/-! ## A statement and its tokens -/

namespace Statement

theorem eq_of_tokens_eq {s s' : Statement} (h : s.tokens = s'.tokens) : s = s' := by
  obtain ⟨kind, tokens, hkind, hsound⟩ := s
  obtain ⟨kind', tokens', hkind', hsound'⟩ := s'
  obtain rfl : tokens = tokens' := h
  obtain rfl : kind = kind' := Except.ok.inj (hkind.symm.trans hkind')
  rfl

theorem ofTokens_tokens (s : Statement) : ofTokens s.tokens = .ok s := by
  unfold ofTokens
  split
  · rename_i e he
    simp [s.kind_eq] at he
  · rename_i kind hkind
    split
    · rename_i e he
      simp [s.sound] at he
    · exact congrArg Except.ok (eq_of_tokens_eq rfl)

theorem tokens_of_ofTokens {ts : List Token} {s : Statement} (h : ofTokens ts = .ok s) :
    s.tokens = ts := by
  unfold ofTokens at h
  split at h
  · simp at h
  · split at h
    · simp at h
    · rw [← Except.ok.inj h]

theorem ofTokens_eq_ok_iff {ts : List Token} {s : Statement} :
    ofTokens ts = .ok s ↔ s.tokens = ts := by
  constructor
  · exact tokens_of_ofTokens
  · rintro rfl
    exact ofTokens_tokens s

theorem tokens_ne_nil (s : Statement) : s.tokens ≠ [] := by
  intro h
  have hkind := s.kind_eq
  rw [h] at hkind
  simp [StatementKind.ofTokens] at hkind

/-- A fixed text is parsed and its statement checked in one evaluation. -/
theorem exists_of_parse {sql : String} {P : Statement → Prop} [DecidablePred P]
    (h : ((parse sql).map fun s => decide (P s)) = .ok true) : ∃ s, parse sql = .ok s ∧ P s := by
  cases hparse : parse sql with
  | error e =>
    rw [hparse] at h
    cases h
  | ok s =>
    rw [hparse] at h
    exact ⟨s, rfl, of_decide_eq_true (Except.ok.inj h)⟩

end Statement

/-! ## The word that begins a statement -/

/-- The first letters of the words that begin a statement. -/
def headLetters : List Char :=
  ['S', 'V', 'W', 'I', 'R', 'U', 'D', 'C', 'A', 'B', 'E', 'P']

theorem ofHead?_eq_none {word : String} (h : ∀ c ∈ word.toList.head?, c ∉ headLetters) :
    StatementKind.ofHead? word = none := by
  have hne : ∀ w : String, w.toList.head?.any headLetters.contains → word ≠ w := by
    rintro w hw rfl
    obtain ⟨c, hc, hletter⟩ := (Option.any_eq_true _ _).1 hw
    exact h c hc (by simpa using hletter)
  unfold StatementKind.ofHead?
  simp [hne "SELECT" (by decide), hne "VALUES" (by decide), hne "WITH" (by decide),
    hne "INSERT" (by decide), hne "REPLACE" (by decide), hne "UPDATE" (by decide),
    hne "DELETE" (by decide), hne "CREATE" (by decide), hne "DROP" (by decide),
    hne "ALTER" (by decide), hne "BEGIN" (by decide), hne "COMMIT" (by decide),
    hne "ROLLBACK" (by decide), hne "END" (by decide), hne "PRAGMA" (by decide),
    hne "ANALYZE" (by decide), hne "VACUUM" (by decide), hne "REINDEX" (by decide),
    hne "EXPLAIN" (by decide)]

theorem Lexeme.head_notMem {kind : TokenKind} {c : Char} {cs : List Char}
    (h : Lexeme kind (c :: cs)) (hkind : kind ≠ .keyword ∧ kind ≠ .identifier) :
    c.toUpper ∉ headLetters := by
  have hoperators : operators.all fun w => w.head?.all (!headLetters.contains ·.toUpper) := by
    decide
  have hnumerals : ['.', '0', '1', '2', '3', '4', '5', '6', '7', '8', '9'].all
      (!headLetters.contains ·.toUpper) := by
    decide
  generalize hw : c :: cs = w at h
  cases h with
  | word =>
    rename_i c cs _ _
    rcases wordKind_cases (c :: cs) with hk | hk <;> simp [hk] at hkind
  | quoted hmark =>
    obtain rfl := (List.cons.inj hw).1
    rcases hmark with rfl | rfl <;> decide
  | blob hx =>
    obtain rfl := (List.cons.inj hw).1
    rcases hx with rfl | rfl <;> decide
  | named hmark =>
    obtain rfl := (List.cons.inj hw).1
    rcases hmark with rfl | rfl | rfl <;> decide
  | numeral hnumeral =>
    subst hw
    simpa using List.all_eq_true.1 hnumerals c (mem_of_startsNumber hnumeral.startsNumber)
  | operator hop =>
    subst hw
    simpa using List.all_eq_true.1 hoperators _ hop
  | _ =>
    obtain rfl := (List.cons.inj hw).1
    decide

/-- A lexeme that begins a statement is a word. -/
theorem Token.IsLexeme.kind_of_head {t : Token} {ts : List Token} {kind : StatementKind}
    (ht : t.IsLexeme) (h : StatementKind.ofTokens (t :: ts) = .ok kind) :
    t.kind = .keyword ∨ t.kind = .identifier := by
  by_contra hnone
  rw [not_or] at hnone
  obtain ⟨c, cs, hcs⟩ := List.exists_cons_of_ne_nil (Lexeme.ne_nil ht)
  rw [Token.IsLexeme, hcs] at ht
  have hhead : StatementKind.ofHead? t.text.toUpper = none := by
    refine ofHead?_eq_none fun d hd => ?_
    obtain rfl : c.toUpper = d := by simpa [String.toUpper, hcs] using hd
    exact ht.head_notMem hnone
  simp [StatementKind.ofTokens, hhead] at h

/-! ## Cutting at semicolons -/

theorem splitAtSemicolons_eq_singleton {ts : List Token} (h : ∀ t ∈ ts, t.kind ≠ .semicolon) :
    splitAtSemicolons ts = [ts] := by
  induction ts with
  | nil => rfl
  | cons t rest ih =>
    have hrest := ih fun u hu => h u (by simp [hu])
    simp [splitAtSemicolons, h t (by simp), hrest]

theorem splitAtSemicolons_append {t : Token} {chunk : List Token} (ht : t.kind = .semicolon)
    (h : ∀ u ∈ chunk, u.kind ≠ .semicolon) (rest : List Token) :
    splitAtSemicolons (chunk ++ t :: rest) = chunk :: splitAtSemicolons rest := by
  induction chunk with
  | nil => simp [splitAtSemicolons, ht]
  | cons u chunk ih =>
    have hrest := ih fun v hv => h v (by simp [hv])
    simp [splitAtSemicolons, h u (by simp), hrest]

/-- The first run is where the tokens begin, every other one is somewhere among them, and none
holds a semicolon. -/
theorem splitAtSemicolons_spec (ts : List Token) :
    ∃ chunk chunks, splitAtSemicolons ts = chunk :: chunks ∧ chunk <+: ts ∧
      (∀ c ∈ chunks, c <:+: ts) ∧ ∀ c ∈ chunk :: chunks, ∀ t ∈ c, t.kind ≠ .semicolon := by
  induction ts with
  | nil => exact ⟨[], [], rfl, List.prefix_rfl, by simp, by simp⟩
  | cons t rest ih =>
    obtain ⟨chunk, chunks, hsplit, hfirst, hothers, hnone⟩ := ih
    by_cases ht : t.kind = .semicolon
    · refine ⟨[], chunk :: chunks, by simp [splitAtSemicolons, ht, hsplit], List.nil_prefix,
        fun c hc => ?_, fun c hc => ?_⟩
      · rcases List.mem_cons.1 hc with rfl | hc
        · exact List.infix_cons hfirst.isInfix
        · exact List.infix_cons (hothers c hc)
      · rcases List.mem_cons.1 hc with rfl | hc
        · simp
        · exact hnone c hc
    · refine ⟨t :: chunk, chunks, by simp [splitAtSemicolons, ht, hsplit],
        List.cons_prefix_cons.2 ⟨rfl, hfirst⟩, fun c hc => List.infix_cons (hothers c hc),
        fun c hc => ?_⟩
      rcases List.mem_cons.1 hc with rfl | hc
      · intro u hu
        rcases List.mem_cons.1 hu with rfl | hu
        · exact ht
        · exact hnone chunk (by simp) u hu
      · exact hnone c (by simp [hc])

theorem isInfix_of_mem_splitAtSemicolons {ts chunk : List Token}
    (h : chunk ∈ splitAtSemicolons ts) :
    chunk <:+: ts ∧ ∀ t ∈ chunk, t.kind ≠ .semicolon := by
  obtain ⟨first, others, hsplit, hfirst, hothers, hnone⟩ := splitAtSemicolons_spec ts
  rw [hsplit] at h
  refine ⟨?_, hnone chunk h⟩
  rcases List.mem_cons.1 h with rfl | h
  · exact hfirst.isInfix
  · exact hothers chunk h

/-! ## The statements of a script -/

theorem statementsOf_eq_ok_iff {chunks : List (List Token)} {statements : List Statement} :
    statementsOf chunks = .ok statements ↔
      statements.map (·.tokens) = chunks.filter (!·.isEmpty) := by
  induction chunks generalizing statements with
  | nil => cases statements <;> simp [statementsOf]
  | cons chunk chunks ih =>
    unfold statementsOf
    by_cases hempty : chunk.isEmpty
    · rw [if_pos hempty, List.filter_cons_of_neg (by simpa using hempty)]
      exact ih
    · rw [if_neg hempty, List.filter_cons_of_pos (by simpa using hempty)]
      cases hchunk : Statement.ofTokens chunk with
      | error e =>
        simp only [reduceCtorEq, false_iff]
        intro h
        obtain ⟨s, rest, rfl, hs, -⟩ := List.map_eq_cons_iff.1 h
        rw [← hs, Statement.ofTokens_tokens] at hchunk
        simp at hchunk
      | ok s =>
        rw [← Statement.tokens_of_ofTokens hchunk]
        dsimp only
        rw [map_eq_ok]
        constructor
        · rintro ⟨rest, hrest, rfl⟩
          rw [List.map_cons, ih.1 hrest]
        · intro h
          obtain ⟨s', rest, rfl, hs, hrest⟩ := List.map_eq_cons_iff.1 h
          exact ⟨rest, ih.2 hrest, by rw [Statement.eq_of_tokens_eq hs]⟩

/-- A text is a script of these statements exactly if their tokens are the runs between its
semicolons, empty runs aside. -/
theorem parseScript_eq_ok_iff {sql : String} {statements : List Statement} :
    parseScript sql = .ok statements ↔ statements ≠ [] ∧ ∃ ts, significantTokens sql = .ok ts ∧
      statements.map (·.tokens) = (splitAtSemicolons ts).filter (!·.isEmpty) := by
  unfold parseScript
  cases significantTokens sql with
  | error e => simp
  | ok ts =>
    dsimp only
    have hiff := @statementsOf_eq_ok_iff (splitAtSemicolons ts)
    cases h : statementsOf (splitAtSemicolons ts) with
    | error e =>
      simp only [reduceCtorEq, false_iff, not_and]
      rintro - ⟨ts', hts, hmap⟩
      obtain rfl := Except.ok.inj hts
      simp [hiff.2 hmap] at h
    | ok found =>
      have heq : statements.map (·.tokens) = (splitAtSemicolons ts).filter (!·.isEmpty) ↔
          found = statements := by
        rw [← hiff, h, Except.ok.injEq]
      cases found with
      | nil =>
        simp only [reduceCtorEq, false_iff, not_and]
        rintro hne ⟨ts', hts, hmap⟩
        obtain rfl := Except.ok.inj hts
        exact hne (heq.1 hmap).symm
      | cons s found =>
        simp only [Except.ok.injEq, exists_eq_left', heq]
        constructor
        · rintro rfl
          simp
        · exact And.right

/-- A text whose tokens are those of a statement is a script of that statement alone. -/
theorem parseScript_eq_singleton {sql : String} {s : Statement}
    (h : significantTokens sql = .ok s.tokens) (hnone : ∀ t ∈ s.tokens, t.kind ≠ .semicolon) :
    parseScript sql = .ok [s] := by
  refine parseScript_eq_ok_iff.2 ⟨by simp, s.tokens, h, ?_⟩
  simp [splitAtSemicolons_eq_singleton hnone, s.tokens_ne_nil]

/-- A token that a statement of a text can hold: a lexeme other than the semicolon. -/
def Token.InStatement (t : Token) : Prop := t.IsLexeme ∧ t.kind ≠ .semicolon

theorem inStatement_of_read {t : Token} (h : significantTokens t.text = .ok [t])
    (hkind : t.kind ≠ .semicolon) : t.InStatement :=
  ⟨isLexeme_of_significantTokens h t (by simp), hkind⟩

theorem inStatement_of_parseScript {sql : String} {statements : List Statement}
    (h : parseScript sql = .ok statements) :
    ∀ s ∈ statements, ∀ t ∈ s.tokens, t.InStatement := by
  obtain ⟨-, ts, hts, hmap⟩ := parseScript_eq_ok_iff.1 h
  intro s hs t ht
  have hmem : s.tokens ∈ (splitAtSemicolons ts).filter (!·.isEmpty) := by
    rw [← hmap]
    exact List.mem_map_of_mem hs
  obtain ⟨hpart, hnone⟩ := isInfix_of_mem_splitAtSemicolons (List.mem_filter.1 hmem).1
  exact ⟨isLexeme_of_significantTokens hts t (hpart.subset ht), hnone t ht⟩

/-! ## Replacing runs of tokens -/

theorem mem_replace {run : Span} {ts replacement : List Token} {t : Token}
    (h : t ∈ run.replace ts replacement) : t ∈ ts ∨ t ∈ replacement := by
  unfold Span.replace at h
  rcases List.mem_append.1 h with h | h
  · rcases List.mem_append.1 h with h | h
    · exact .inl (List.mem_of_mem_take h)
    · exact .inr h
  · exact .inl (List.mem_of_mem_drop h)

theorem mem_slice {run : Span} {ts : List Token} {t : Token} (h : t ∈ run.slice ts) : t ∈ ts :=
  List.mem_of_mem_take (List.mem_of_mem_drop h)

theorem inStatement_replace {run : Span} {ts replacement : List Token}
    (h : ∀ t ∈ ts, t.InStatement) (hreplacement : ∀ t ∈ replacement, t.InStatement) :
    ∀ t ∈ run.replace ts replacement, t.InStatement := by
  intro t ht
  rcases mem_replace ht with ht | ht
  · exact h t ht
  · exact hreplacement t ht

/-! ## Scripts are read back -/

def semicolon : Token := ⟨.semicolon, ";"⟩

/-- The tokens of a script, its statements separated by semicolons. -/
def scriptTokens (statements : List Statement) : List Token :=
  [semicolon].intercalate (statements.map (·.tokens))

theorem scriptTokens_cons_cons (s s' : Statement) (statements : List Statement) :
    scriptTokens (s :: s' :: statements) =
      s.tokens ++ semicolon :: scriptTokens (s' :: statements) := by
  simp [scriptTokens, List.intercalate_cons_cons]

theorem renderAfter_append_semicolon {u : Token} (hu : u.kind = .keyword ∨ u.kind = .identifier)
    (t : Token) (ts rest : List Token) :
    renderAfter t (ts ++ semicolon :: u :: rest) =
      renderAfter t ts ++ "; " ++ render (u :: rest) := by
  have hspace : adjoins semicolon u = false := by
    rcases hu with hk | hk <;> simp [adjoins, semicolon, hk]
  induction ts generalizing t with
  | nil =>
    have hglued : adjoins t semicolon := by simp [adjoins, semicolon]
    have hjoin : semicolon.text ++ " " = "; " := rfl
    simp [renderAfter, render, hspace, hglued, ← hjoin, String.append_assoc]
  | cons v ts ih => simp [renderAfter, ih v, String.append_assoc]

theorem render_append_semicolon {u : Token} (hu : u.kind = .keyword ∨ u.kind = .identifier)
    (t : Token) (ts rest : List Token) :
    render (t :: ts ++ semicolon :: u :: rest) =
      render (t :: ts) ++ "; " ++ render (u :: rest) := by
  rw [List.cons_append, render, renderAfter_append_semicolon hu, render.eq_2 t ts]
  simp only [String.append_assoc]

/-- The first token of a statement made of lexemes. -/
theorem Statement.exists_head {s : Statement} (h : ∀ t ∈ s.tokens, t.IsLexeme) :
    ∃ t rest, s.tokens = t :: rest ∧ (t.kind = .keyword ∨ t.kind = .identifier) := by
  obtain ⟨t, rest, htokens⟩ := List.exists_cons_of_ne_nil s.tokens_ne_nil
  have hkind := s.kind_eq
  rw [htokens] at hkind h
  exact ⟨t, rest, htokens, (h t (by simp)).kind_of_head hkind⟩

theorem scriptTokens_head {s : Statement} (h : ∀ t ∈ s.tokens, t.IsLexeme)
    (statements : List Statement) :
    ∃ t rest, scriptTokens (s :: statements) = t :: rest ∧
      (t.kind = .keyword ∨ t.kind = .identifier) := by
  obtain ⟨t, rest, htokens, hkind⟩ := s.exists_head h
  cases statements with
  | nil => exact ⟨t, rest, by simp [scriptTokens, htokens], hkind⟩
  | cons s' statements =>
    rw [scriptTokens_cons_cons, htokens]
    exact ⟨t, _, rfl, hkind⟩

theorem renderScript_eq {statements : List Statement}
    (h : ∀ s ∈ statements, ∀ t ∈ s.tokens, t.IsLexeme) :
    renderScript statements = render (scriptTokens statements) := by
  induction statements with
  | nil => rfl
  | cons s statements ih =>
    cases statements with
    | nil => simp [renderScript, scriptTokens, Statement.render]
    | cons s' statements =>
      have hrest := ih fun s'' hs => h s'' (by simp [hs])
      obtain ⟨t, ts, htokens, -⟩ := s.exists_head (h s (by simp))
      obtain ⟨u, rest, hscript, hu⟩ := scriptTokens_head (h s' (by simp)) statements
      rw [scriptTokens_cons_cons, hscript, htokens, render_append_semicolon hu, ← hscript, ← hrest,
        ← htokens]
      simp [renderScript, Statement.render, String.intercalate_cons_cons, String.append_assoc]

theorem separable_scriptTokens {statements : List Statement}
    (h : ∀ s ∈ statements, ∀ t ∈ s.tokens, t.IsLexeme)
    (hsep : ∀ s ∈ statements, Separable s.tokens) : Separable (scriptTokens statements) := by
  induction statements with
  | nil => exact List.isChain_nil
  | cons s statements ih =>
    cases statements with
    | nil => simpa [scriptTokens] using hsep s (by simp)
    | cons s' statements =>
      have hrest := ih (fun s'' hs => h s'' (by simp [hs])) fun s'' hs => hsep s'' (by simp [hs])
      obtain ⟨u, rest, hscript, hu⟩ := scriptTokens_head (h s' (by simp)) statements
      rw [scriptTokens_cons_cons, hscript]
      rw [hscript] at hrest
      refine List.isChain_append.2 ⟨hsep s (by simp), List.isChain_cons_cons.2 ⟨?_, hrest⟩, ?_⟩
      · simp [fuses, semicolon]
      · intro t ht v hv
        obtain rfl : semicolon = v := by simpa using hv
        have hdigit : semicolon.text.toList.head?.any Char.isDigit = false := by decide
        have hkind : semicolon.kind = .semicolon := rfl
        simp [fuses, hdigit, hkind]

theorem splitAtSemicolons_scriptTokens {statements : List Statement} (hne : statements ≠ [])
    (h : ∀ s ∈ statements, ∀ t ∈ s.tokens, t.kind ≠ .semicolon) :
    splitAtSemicolons (scriptTokens statements) = statements.map (·.tokens) := by
  induction statements with
  | nil => contradiction
  | cons s statements ih =>
    cases statements with
    | nil => simpa [scriptTokens] using splitAtSemicolons_eq_singleton (h s (by simp))
    | cons s' statements =>
      have hrest := ih (by simp) fun s'' hs => h s'' (by simp [hs])
      rw [scriptTokens_cons_cons, splitAtSemicolons_append rfl (h s (by simp)), hrest]
      rfl

theorem isLexeme_scriptTokens {statements : List Statement}
    (h : ∀ s ∈ statements, ∀ t ∈ s.tokens, t.IsLexeme) :
    ∀ t ∈ scriptTokens statements, t.IsLexeme := by
  induction statements with
  | nil => simp [scriptTokens]
  | cons s statements ih =>
    cases statements with
    | nil => simpa [scriptTokens] using h s (by simp)
    | cons s' statements =>
      intro t ht
      rw [scriptTokens_cons_cons] at ht
      rcases List.mem_append.1 ht with ht | ht
      · exact h s (by simp) t ht
      · rcases List.mem_cons.1 ht with rfl | ht
        · exact .semicolon
        · exact ih (fun s'' hs => h s'' (by simp [hs])) t ht

/-- Statements of lexemes that do not fuse are read back from the text of their script. -/
theorem parseScript_renderScript {statements : List Statement} (hne : statements ≠ [])
    (h : ∀ s ∈ statements, ∀ t ∈ s.tokens, t.InStatement)
    (hsep : ∀ s ∈ statements, Separable s.tokens) :
    parseScript (renderScript statements) = .ok statements := by
  have hlexeme : ∀ s ∈ statements, ∀ t ∈ s.tokens, t.IsLexeme := fun s hs t ht => (h s hs t ht).1
  have hnone : ∀ s ∈ statements, ∀ t ∈ s.tokens, t.kind ≠ .semicolon :=
    fun s hs t ht => (h s hs t ht).2
  have hread : significantTokens (renderScript statements) = .ok (scriptTokens statements) := by
    rw [renderScript_eq hlexeme]
    exact (significantTokens_render_iff (isLexeme_scriptTokens hlexeme)).2
      (separable_scriptTokens hlexeme hsep)
  refine parseScript_eq_ok_iff.2 ⟨hne, scriptTokens statements, hread, ?_⟩
  rw [splitAtSemicolons_scriptTokens hne hnone, List.filter_eq_self.2]
  intro ts hts
  obtain ⟨s, hs, rfl⟩ := List.mem_map.1 hts
  simpa using s.tokens_ne_nil

/-- The tokens of a text are read back from what is written of them exactly if no two of them
fuse, and then so are the statements of a script. -/
theorem read_back_iff_separable {sql : String} {ts : List Token}
    (h : significantTokens sql = .ok ts) :
    (significantTokens (render ts) = .ok ts ↔ Separable ts) ∧
      ∀ statements, parseScript sql = .ok statements → Separable ts →
        parseScript (renderScript statements) = .ok statements := by
  refine ⟨significantTokens_render_iff (isLexeme_of_significantTokens h), ?_⟩
  intro statements hparse hsep
  obtain ⟨hne, ts', hts, hmap⟩ := parseScript_eq_ok_iff.1 hparse
  obtain rfl : ts = ts' := Except.ok.inj (h.symm.trans hts)
  apply parseScript_renderScript hne (inStatement_of_parseScript hparse)
  intro s hs
  have hmem : s.tokens ∈ (splitAtSemicolons ts).filter (!·.isEmpty) := by
    rw [← hmap]
    exact List.mem_map_of_mem hs
  exact hsep.infix (isInfix_of_mem_splitAtSemicolons (List.mem_filter.1 hmem).1).1

theorem read_back_of_comments :
    significantTokens "SELECT 0x1 . a--x\n, .5 FROM t ; DELETE FROM[t]/**/ " =
        .ok [⟨.keyword, "SELECT"⟩, ⟨.integer, "0x1"⟩, ⟨.dot, "."⟩, ⟨.identifier, "a"⟩,
          ⟨.comma, ","⟩, ⟨.float, ".5"⟩, ⟨.keyword, "FROM"⟩, ⟨.identifier, "t"⟩,
          ⟨.semicolon, ";"⟩, ⟨.keyword, "DELETE"⟩, ⟨.keyword, "FROM"⟩,
          ⟨.quotedIdentifier, "[t]"⟩] ∧
      significantTokens "SELECT 0x1.a, .5 FROM t; DELETE FROM [t]" =
        significantTokens "SELECT 0x1 . a--x\n, .5 FROM t ; DELETE FROM[t]/**/ " := by
  have hread : significantTokens "SELECT 0x1 . a--x\n, .5 FROM t ; DELETE FROM[t]/**/ " =
      .ok [⟨.keyword, "SELECT"⟩, ⟨.integer, "0x1"⟩, ⟨.dot, "."⟩, ⟨.identifier, "a"⟩,
        ⟨.comma, ","⟩, ⟨.float, ".5"⟩, ⟨.keyword, "FROM"⟩, ⟨.identifier, "t"⟩,
        ⟨.semicolon, ";"⟩, ⟨.keyword, "DELETE"⟩, ⟨.keyword, "FROM"⟩,
        ⟨.quotedIdentifier, "[t]"⟩] := by
    decide +kernel
  refine ⟨hread, ?_⟩
  rw [hread, ← (read_back_iff_separable hread).1.2 (by decide)]
  rfl

end Sql
end QueryFuzz
