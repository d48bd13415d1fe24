import QueryFuzz.Proofs.Sql.Reading

/-!
# Reading back what was written

Tokens are written with or without a space between them. Two neighbours become another token only
at a point: a whole number in decimal digits takes a point behind it, and a point takes a digit.
Tokens without such neighbours, and no others, are read back as they were.
-/

namespace QueryFuzz
namespace Sql

/-- Do two neighbouring tokens turn into another one when they are written? -/
def fuses (left right : Token) : Bool :=
  (left.kind == .integer && !hexMarked left.text.toList && right.kind == .dot) ||
  (left.kind == .dot && right.text.toList.head?.any Char.isDigit)

/-- No two neighbours turn into another token. -/
def Separable (ts : List Token) : Prop := ts.IsChain fun left right => fuses left right = false

instance (ts : List Token) : Decidable (Separable ts) :=
  inferInstanceAs (Decidable (List.IsChain _ _))

/-! ## What follows a token ends it -/

theorem Lexeme.punctuation {kind : TokenKind} {cs : List Char} (h : Lexeme kind cs) :
    (kind = .leftParen → cs = ['(']) ∧ (kind = .rightParen → cs = [')']) ∧
      (kind = .comma → cs = [',']) ∧ (kind = .semicolon → cs = [';']) ∧
      (kind = .dot → cs = ['.']) := by
  cases h with
  | @word c cs => rcases wordKind_cases (c :: cs) with hk | hk <;> simp [hk]
  | numeral hnumeral => rcases hnumeral.kind_cases with rfl | rfl <;> simp
  | _ => simp

theorem endedBy_space (t : Token) : t.endedBy ' ' := by
  cases hk : t.kind <;> simp [Token.endedBy, endedBy, hk, isStop]

theorem endedBy_of_isStop {t : Token} {c : Char} (h : isStop c) (hc : c ≠ '.') : t.endedBy c := by
  have hdigit := isDigit_of_isStop h
  cases hk : t.kind <;> simp [Token.endedBy, endedBy, hk, h, hc, hdigit]

theorem endedBy_point {t u : Token} (hu : u.kind = .dot) (h : fuses t u = false) :
    t.endedBy '.' := by
  cases hk : t.kind <;> simp_all [Token.endedBy, endedBy, fuses, isStop]

theorem adjoins_cases {t u : Token} (h : adjoins t u) :
    u.kind = .comma ∨ u.kind = .rightParen ∨ u.kind = .dot ∨ u.kind = .semicolon ∨
      (u.kind = .leftParen ∧ (t.kind = .identifier ∨ t.kind = .quotedIdentifier)) ∨
      t.kind = .leftParen ∨ t.kind = .dot := by
  simpa [adjoins, or_assoc] using h

/-- The text of a glued neighbour begins with a character that ends the token. -/
theorem endedBy_of_adjoins {t u : Token} {c : Char} (hu : u.IsLexeme)
    (hadjoins : adjoins t u) (h : fuses t u = false) (hc : u.text.toList.head? = some c) :
    t.endedBy c := by
  obtain ⟨hleft, hright, hcomma, hsemicolon, hdot⟩ := Lexeme.punctuation hu
  rcases adjoins_cases hadjoins with hk | hk | hk | hk | ⟨hk, -⟩ | hk | hk
  · obtain rfl : c = ',' := by simpa [hcomma hk, eq_comm] using hc
    exact endedBy_of_isStop (by decide) (by decide)
  · obtain rfl : c = ')' := by simpa [hright hk, eq_comm] using hc
    exact endedBy_of_isStop (by decide) (by decide)
  · obtain rfl : c = '.' := by simpa [hdot hk, eq_comm] using hc
    exact endedBy_point hk h
  · obtain rfl : c = ';' := by simpa [hsemicolon hk, eq_comm] using hc
    exact endedBy_of_isStop (by decide) (by decide)
  · obtain rfl : c = '(' := by simpa [hleft hk, eq_comm] using hc
    exact endedBy_of_isStop (by decide) (by decide)
  · simp [Token.endedBy, endedBy, hk]
  · have hdigit : c.isDigit = false := by simpa [fuses, hk, hc] using h
    simp [Token.endedBy, endedBy, hk, hdigit]

/-- What is written between two tokens. -/
def gap (left right : Token) : List Char :=
  if adjoins left right then [] else [' ']

theorem renderAfter_cons (t u : Token) (rest : List Token) :
    (renderAfter t (u :: rest)).toList =
      gap t u ++ (u.text.toList ++ (renderAfter u rest).toList) := by
  rw [renderAfter, gap]
  split <;> simp

theorem head?_gap_append {t u : Token} (after : List Char) (hu : u.IsLexeme) :
    (gap t u ++ (u.text.toList ++ after)).head? =
      if adjoins t u then u.text.toList.head? else some ' ' := by
  obtain ⟨c, cs, hcs⟩ := List.exists_cons_of_ne_nil (Lexeme.ne_nil hu)
  rw [gap]
  split <;> simp [hcs]

/-- Behind a token its neighbour begins, after a space or not. -/
theorem readFrom_gap (t u : Token) (offset : ℕ) (after : List Char) :
    readFrom offset (gap t u ++ after) = readFrom (offset + (gap t u).length) after := by
  rw [gap]
  split
  · rfl
  · exact readFrom_space offset after

/-- A token is read off the front of a written text unless it fuses with its neighbour. -/
theorem readFrom_token_renderAfter {t u : Token} (offset : ℕ) (rest : List Token)
    (ht : t.IsLexeme) (hu : u.IsLexeme) (h : fuses t u = false) :
    ∃ offset', readFrom offset (t.text.toList ++ (renderAfter t (u :: rest)).toList) =
      (readFrom offset' (u.text.toList ++ (renderAfter u rest).toList)).map (t :: ·) := by
  have hafter : ∀ c ∈ (renderAfter t (u :: rest)).toList.head?, t.endedBy c := by
    intro c hc
    rw [renderAfter_cons, head?_gap_append _ hu] at hc
    split at hc
    · rename_i hadjoins
      exact endedBy_of_adjoins hu hadjoins h hc
    · obtain rfl := Option.some.inj hc
      exact endedBy_space t
  rw [readFrom_token offset ht hafter, renderAfter_cons, readFrom_gap]
  exact ⟨_, rfl⟩

/-! ## Tokens that fuse are lost -/

theorem hexMarked_point {ds : List Char} (h : ∀ d ∈ ds, d.isDigit) (after : List Char) :
    hexMarked (ds ++ '.' :: after) = false := by
  cases ds with
  | nil => rfl
  | cons d ds =>
    refine hexMarked_append (by simp) (fun c hc => ne_mark_of_isDigit (h c hc)) fun c hc => ?_
    obtain rfl : '.' = c := by simpa using hc
    decide

theorem runLength_point {ds : List Char} (h : ∀ d ∈ ds, d.isDigit) (after : List Char) :
    runLength Char.isDigit (ds ++ '.' :: after) = ds.length := by
  apply runLength_append h
  intro c hc
  obtain rfl : '.' = c := by simpa using hc
  decide

theorem numberShape_point {ds : List Char} (h : ∀ d ∈ ds, d.isDigit) (after : List Char) :
    (numberShape (ds ++ '.' :: after)).1 = .float := by
  simp [numberShape, hexLength_eq_none (hexMarked_point h after), runLength_point h, fractionLength]

/-- A number with a point in it is read as a fraction, whatever follows. -/
theorem readFrom_point {offset : ℕ} {ds after : List Char} {t : Token} {ts : List Token}
    (hds : ∀ d ∈ ds, d.isDigit) (hstart : startsNumber (ds ++ '.' :: after))
    (h : readFrom offset (ds ++ '.' :: after) = .ok (t :: ts)) : t.kind = .float := by
  have hfloat := numberShape_point hds after
  generalize hw : ds ++ '.' :: after = w at h hstart hfloat
  cases w with
  | nil => simp at hw
  | cons c rest =>
    cases hscan : scan offset c rest with
    | error e =>
      rw [readFrom_of_scan_error hscan] at h
      simp at h
    | ok answer =>
      obtain ⟨kind, n⟩ := answer
      obtain rfl : kind = .float := by
        rw [scan_of_startsNumber hstart] at hscan
        rw [(scanNumber_eq hscan).1, hfloat]
      rw [readFrom_of_scan hscan] at h
      obtain ⟨more, -, hmore⟩ := map_eq_ok.1 h
      have hhead : (⟨.float, String.ofList (c :: rest.take n)⟩ : Token) = t := by
        simpa [Token.isTrivia] using congrArg List.head? hmore
      rw [← hhead]

theorem readFrom_fused {offset : ℕ} {t u : Token} {rest ts : List Token} (ht : t.IsLexeme)
    (hu : u.IsLexeme) (h : fuses t u) :
    readFrom offset (t.text.toList ++ (renderAfter t (u :: rest)).toList) ≠ .ok (t :: ts) := by
  intro hread
  have hcases : (t.kind = .integer ∧ hexMarked t.text.toList = false ∧ u.kind = .dot) ∨
      (t.kind = .dot ∧ u.text.toList.head?.any Char.isDigit) := by
    simpa [fuses, and_assoc] using h
  rcases hcases with ⟨hkind, hmark, hdot⟩ | ⟨hkind, hdigit⟩
  · have hpoint : (renderAfter t (u :: rest)).toList = '.' :: (renderAfter u rest).toList := by
      have hgap : gap t u = [] := if_pos (by simp [adjoins, hdot])
      rw [renderAfter_cons, hgap, (Lexeme.punctuation hu).2.2.2.2 hdot]
      rfl
    have hds : t.text.toList ≠ [] ∧ ∀ d ∈ t.text.toList, d.isDigit := by
      rw [Token.IsLexeme, hkind] at ht
      generalize t.text.toList = cs at ht hmark
      generalize hk : TokenKind.integer = kind at ht
      cases ht with
      | @word c cs => rcases wordKind_cases (c :: cs) with h | h <;> simp [h] at hk
      | numeral hnumeral =>
        cases hnumeral with
        | hex hx => rcases hx with rfl | rfl <;> simp [hexMarked] at hmark
        | decimal hne hds => exact ⟨hne, hds⟩
        | float => simp at hk
      | _ => simp at hk
    rw [hpoint] at hread
    have hstart : startsNumber (t.text.toList ++ '.' :: (renderAfter u rest).toList) := by
      obtain ⟨d, ds, hcs⟩ := List.exists_cons_of_ne_nil hds.1
      simp [hcs, startsNumber, hds.2 d (by simp [hcs])]
    have hfloat := readFrom_point hds.2 hstart hread
    simp [hkind] at hfloat
  · obtain ⟨d, ds, hcs⟩ := List.exists_cons_of_ne_nil (Lexeme.ne_nil hu)
    have hd : d.isDigit := by simpa [hcs] using hdigit
    have hpoint : t.text.toList ++ (renderAfter t (u :: rest)).toList =
        '.' :: (d :: ds ++ (renderAfter u rest).toList) := by
      have hgap : gap t u = [] := if_pos (by simp [adjoins, hkind])
      rw [renderAfter_cons, hgap, (Lexeme.punctuation ht).2.2.2.2 hkind, hcs]
      rfl
    rw [hpoint] at hread
    have hfloat := @readFrom_point offset [] _ t ts (by simp) (by simp [startsNumber, hd]) hread
    simp [hkind] at hfloat

/-! ## Whole lists of tokens -/

theorem readFrom_renderAfter_iff {t : Token} {ts : List Token} (offset : ℕ)
    (h : ∀ u ∈ t :: ts, u.IsLexeme) :
    readFrom offset (t.text.toList ++ (renderAfter t ts).toList) = .ok (t :: ts) ↔
      Separable (t :: ts) := by
  induction ts generalizing t offset with
  | nil =>
    have hread := @readFrom_token t [] offset (h t (by simp)) (by simp)
    rw [readFrom_nil] at hread
    simpa [renderAfter, Separable, Except.map] using hread
  | cons u rest ih =>
    have ht : t.IsLexeme := h t (by simp)
    have hu : u.IsLexeme := h u (by simp)
    rw [Separable, List.isChain_cons_cons]
    by_cases hfuses : fuses t u
    · simp only [hfuses, Bool.true_eq_false, false_and, iff_false]
      exact readFrom_fused ht hu hfuses
    · rw [Bool.not_eq_true] at hfuses
      obtain ⟨offset', hread⟩ := readFrom_token_renderAfter offset rest ht hu hfuses
      rw [hread, map_eq_ok]
      simp only [List.cons.injEq, true_and, exists_eq_right, hfuses]
      exact ih offset' fun v hv => h v (List.mem_cons_of_mem t hv)

/-- Lexemes are read back from their text exactly if no two neighbours fuse. -/
theorem significantTokens_render_iff {ts : List Token} (h : ∀ t ∈ ts, t.IsLexeme) :
    significantTokens (render ts) = .ok ts ↔ Separable ts := by
  cases ts with
  | nil => simp [render, significantTokens_eq, Separable]
  | cons t rest =>
    rw [significantTokens_eq, render, String.toList_append]
    exact readFrom_renderAfter_iff 0 h

end Sql
end QueryFuzz
