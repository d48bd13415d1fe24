import QueryFuzz.Proofs.Sql.Forms

/-!
# A grammar of lexemes

The spellings of each kind of token that is neither blank nor comment. What the scanner cuts off
is always a lexeme of the kind it reports. Conversely it cuts off exactly a given lexeme wherever
the lexeme is followed by a character that ends it, so a lexeme is read back in every such place.
-/

namespace QueryFuzz
namespace Sql

/-- Bare words are keywords or names. -/
def wordKind (cs : List Char) : TokenKind :=
  if isKeyword (String.ofList cs) then .keyword else .identifier

inductive Lexeme : TokenKind → List Char → Prop
  | word {c cs} : startsWord c → (∀ d ∈ cs, isWordChar d) → Lexeme (wordKind (c :: cs)) (c :: cs)
  | string {cs} : Enclosable '\'' cs → Lexeme .string ('\'' :: (cs ++ ['\'']))
  | quoted {mark cs} : mark = '"' ∨ mark = '\x60' → Enclosable mark cs →
      Lexeme .quotedIdentifier (mark :: (cs ++ [mark]))
  | bracketed {cs} : Enclosable ']' cs → Lexeme .quotedIdentifier ('[' :: (cs ++ [']']))
  | blob {x cs} : x = 'x' ∨ x = 'X' → (∀ d ∈ cs, Text.isHexDigit d) → cs.length % 2 = 0 →
      Lexeme .blob (x :: '\'' :: (cs ++ ['\'']))
  | numeral {kind cs} : Numeral kind cs → Lexeme kind cs
  | numbered {ds} : (∀ d ∈ ds, d.isDigit) → Lexeme .parameter ('?' :: ds)
  | named {mark cs} : mark = ':' ∨ mark = '@' ∨ mark = '$' → cs ≠ [] →
      (∀ d ∈ cs, isWordChar d) → Lexeme .parameter (mark :: cs)
  | operator {cs} : cs ∈ operators → Lexeme .operator cs
  | leftParen : Lexeme .leftParen ['(']
  | rightParen : Lexeme .rightParen [')']
  | comma : Lexeme .comma [',']
  | semicolon : Lexeme .semicolon [';']
  | dot : Lexeme .dot ['.']

theorem wordKind_cases (cs : List Char) : wordKind cs = .keyword ∨ wordKind cs = .identifier := by
  unfold wordKind
  split_ifs <;> simp

/-! ## The scanner cuts off lexemes -/

theorem enclosed_of_scanQuoted {offset : ℕ} {close : Char} {what : Enclosed}
    {kind kind' : TokenKind} {rest : List Char} {n : ℕ}
    (h : scanQuoted offset close what kind rest = .ok (kind', n)) :
    kind' = kind ∧ ∃ cs, rest.take n = cs ++ [close] ∧ Enclosable close cs := by
  unfold scanQuoted at h
  split at h
  · simp at h
  · rename_i m hm
    obtain ⟨rfl, rfl⟩ : kind = kind' ∧ m = n := by simpa using h
    obtain ⟨cs, htake, -, hcs⟩ := quotedLength_take hm
    exact ⟨rfl, cs, htake, hcs⟩

theorem lexeme_of_scanBlob {offset : ℕ} {x : Char} {rest : List Char} {kind : TokenKind} {n : ℕ}
    (hx : x = 'x' ∨ x = 'X') (hrest : rest.head? = some '\'')
    (h : scanBlob offset rest = .ok (kind, n)) : Lexeme kind (x :: rest.take n) := by
  unfold scanBlob at h
  split at h
  · simp at h
  · rename_i m hm
    dsimp only at h
    split_ifs at h with hbody
    obtain ⟨rfl, rfl⟩ : TokenKind.blob = kind ∧ m + 1 = n := by simpa using h
    obtain ⟨rest, rfl⟩ : ∃ rest', rest = '\'' :: rest' := by
      cases rest with
      | nil => simp at hrest
      | cons c rest =>
        obtain rfl : c = '\'' := by simpa using hrest
        exact ⟨rest, rfl⟩
    obtain ⟨cs, htake, rfl, -⟩ := quotedLength_take hm
    rw [List.drop_one, List.tail_cons] at htake hbody
    have hcs : rest.take cs.length = cs := by
      have := congrArg (List.take cs.length) htake
      simpa [List.take_take] using this
    rw [Nat.add_sub_cancel, hcs] at hbody
    rw [List.take_succ_cons, htake]
    exact .blob hx (by simpa using hbody.2) (by simpa using hbody.1)

theorem scanNumber_eq {offset : ℕ} {c : Char} {rest : List Char} {kind : TokenKind} {n : ℕ}
    (h : scanNumber offset c rest = .ok (kind, n)) :
    kind = (numberShape (c :: rest)).1 ∧ n = (numberShape (c :: rest)).2 - 1 ∧
      ∀ d ∈ ((c :: rest).drop (numberShape (c :: rest)).2).head?,
        Text.isAlphanumeric d = false ∧ d ≠ '_' := by
  unfold scanNumber at h
  dsimp only at h
  split at h
  · rename_i d after hdrop
    split_ifs at h with hd
    obtain ⟨rfl, rfl⟩ : _ = kind ∧ _ = n := by simpa using h
    simpa [hdrop] using hd
  · rename_i hdrop
    obtain ⟨rfl, rfl⟩ : _ = kind ∧ _ = n := by simpa using h
    simp [hdrop]

theorem lexeme_of_scanNumber {offset : ℕ} {c : Char} {rest : List Char} {kind : TokenKind} {n : ℕ}
    (hstart : startsNumber (c :: rest)) (h : scanNumber offset c rest = .ok (kind, n)) :
    Lexeme kind (c :: rest.take n) := by
  obtain ⟨hpos, hnumeral⟩ := numeral_take hstart
  obtain ⟨rfl, rfl, -⟩ := scanNumber_eq h
  obtain ⟨m, hm⟩ := Nat.exists_eq_succ_of_ne_zero hpos
  rw [hm, Nat.succ_eq_add_one, List.take_succ_cons] at hnumeral
  rw [hm, Nat.succ_sub_one]
  exact .numeral hnumeral

theorem lexeme_of_scanMark {offset : ℕ} {c : Char} {rest : List Char} {kind : TokenKind} {n : ℕ}
    (h : scanMark offset c rest = .ok (kind, n)) : Lexeme kind (c :: rest.take n) := by
  unfold scanMark at h
  split at h
  · obtain ⟨rfl, rfl⟩ := Prod.mk.inj (Except.ok.inj h)
    exact .leftParen
  · obtain ⟨rfl, rfl⟩ := Prod.mk.inj (Except.ok.inj h)
    exact .rightParen
  · obtain ⟨rfl, rfl⟩ := Prod.mk.inj (Except.ok.inj h)
    exact .comma
  · obtain ⟨rfl, rfl⟩ := Prod.mk.inj (Except.ok.inj h)
    exact .semicolon
  · obtain ⟨rfl, rfl⟩ := Prod.mk.inj (Except.ok.inj h)
    exact .dot
  · unfold scanOperator at h
    split at h
    · rename_i m hm
      obtain ⟨rfl, rfl⟩ := Prod.mk.inj (Except.ok.inj h)
      exact .operator (mem_operators_of_operatorTail hm)
    · cases h

theorem begins_number_iff {c : Char} {rest : List Char} :
    Form.number.Begins c rest.head? ↔ startsNumber (c :: rest) := by
  simp [Form.Begins, startsNumber]

/-- What the scanner cuts off is a lexeme of the kind it reports. -/
theorem lexeme_of_scan {offset : ℕ} {c : Char} {rest : List Char} {kind : TokenKind} {n : ℕ}
    (h : scan offset c rest = .ok (kind, n)) (hblank : kind ≠ .whitespace)
    (hcomment : kind ≠ .comment) : Lexeme kind (c :: rest.take n) := by
  have hbegins := begins_formOf c rest.head?
  rw [scan_eq_scanAs] at h
  generalize formOf c rest.head? = f at h hbegins
  cases f with
  | blanks => exact absurd (congrArg Prod.fst (Except.ok.inj h)).symm hblank
  | lineComment => exact absurd (congrArg Prod.fst (Except.ok.inj h)).symm hcomment
  | blockComment =>
    unfold scanAs at h
    dsimp only at h
    split at h
    · cases h
    · exact absurd (congrArg Prod.fst (Except.ok.inj h)).symm hcomment
  | string =>
    obtain rfl : c = '\'' := hbegins
    obtain ⟨rfl, cs, htake, hcs⟩ := enclosed_of_scanQuoted h
    rw [htake]
    exact .string hcs
  | blob => exact lexeme_of_scanBlob hbegins.1 hbegins.2 h
  | quoted =>
    obtain ⟨rfl, cs, htake, hcs⟩ := enclosed_of_scanQuoted h
    rw [htake]
    exact .quoted hbegins hcs
  | bracketed =>
    obtain rfl : c = '[' := hbegins
    obtain ⟨rfl, cs, htake, hcs⟩ := enclosed_of_scanQuoted h
    rw [htake]
    exact .bracketed hcs
  | number => exact lexeme_of_scanNumber (begins_number_iff.1 hbegins) h
  | numbered =>
    obtain rfl : c = '?' := hbegins
    obtain ⟨rfl, rfl⟩ := Prod.mk.inj (Except.ok.inj h)
    exact .numbered fun d hd => mem_take_runLength hd
  | named =>
    obtain ⟨rfl, rfl⟩ := Prod.mk.inj (Except.ok.inj h)
    exact .named hbegins.1 (take_runLength_ne_nil (runLength_ne_zero hbegins.2))
      fun d hd => mem_take_runLength hd
  | word =>
    obtain ⟨rfl, rfl⟩ := Prod.mk.inj (Except.ok.inj h)
    exact .word hbegins.1 fun d hd => mem_take_runLength hd
  | mark => exact lexeme_of_scanMark h

/-! ## Lexemes are read back -/

/-- Does the character end a lexeme that it follows? A point continues a whole number in decimal
digits, and a digit continues a point but no operator. -/
def endedBy (kind : TokenKind) (cs : List Char) (c : Char) : Bool :=
  match kind with
  | .leftParen | .rightParen | .comma | .semicolon => true
  | .dot => !c.isDigit
  | .integer => isStop c && (c != '.' || hexMarked cs)
  | .operator => isStop c || c.isDigit
  | _ => isStop c

theorem scanWord_append {c : Char} {cs after : List Char} (hcs : ∀ d ∈ cs, isWordChar d)
    (hafter : ∀ d ∈ after.head?, isWordChar d = false) :
    scanWord c (cs ++ after) = (wordKind (c :: cs), cs.length) := by
  have hrun : runLength isWordChar (cs ++ after) = cs.length := runLength_append hcs hafter
  simp [scanWord, wordKind, hrun]

theorem scan_word {offset : ℕ} {c : Char} {cs after : List Char} (hc : startsWord c)
    (hcs : ∀ d ∈ cs, isWordChar d)
    (hafter : ∀ d ∈ after.head?, isWordChar d = false ∧ d ≠ '\'') :
    scan offset c (cs ++ after) = .ok (wordKind (c :: cs), cs.length) := by
  have hquote : (cs ++ after).head? ≠ some '\'' := by
    cases cs with
    | nil => exact fun h => (hafter _ h).2 rfl
    | cons d cs =>
      intro h
      obtain rfl : d = '\'' := by simpa using h
      exact absurd (hcs '\'' List.mem_cons_self) (by decide)
  have hbegins : Form.word.Begins c (cs ++ after).head? := ⟨hc, fun h => hquote h.2⟩
  rw [scan_of_begins offset hbegins, scanAs, scanWord_append hcs fun d hd => (hafter d hd).1]

theorem Numeral.startsNumber {kind : TokenKind} {cs : List Char} (h : Numeral kind cs) :
    startsNumber cs := by
  cases h with
  | hex => rfl
  | decimal hne hds =>
    obtain ⟨d, ds, rfl⟩ := List.exists_cons_of_ne_nil hne
    simp [Sql.startsNumber, hds d (by simp)]
  | float _ _ _ _ hstart => exact hstart

theorem Numeral.kind_cases {kind : TokenKind} {cs : List Char} (h : Numeral kind cs) :
    kind = .integer ∨ kind = .float := by
  cases h <;> simp

theorem mem_of_startsNumber {c : Char} {cs : List Char} (h : startsNumber (c :: cs)) :
    c ∈ ['.', '0', '1', '2', '3', '4', '5', '6', '7', '8', '9'] :=
  mem_of_begins_number (begins_number_iff.2 h)

theorem scan_of_startsNumber {offset : ℕ} {c : Char} {rest : List Char}
    (h : startsNumber (c :: rest)) : scan offset c rest = scanNumber offset c rest :=
  scan_of_begins offset (begins_number_iff.2 h)

theorem scanNumber_of_shape (offset : ℕ) {c : Char} {run after : List Char} {kind : TokenKind}
    (hshape : numberShape (c :: run ++ after) = (kind, (c :: run).length))
    (hafter : ∀ d ∈ after.head?, Text.isAlphanumeric d = false ∧ d ≠ '_') :
    scanNumber offset c (run ++ after) = .ok (kind, run.length) := by
  unfold scanNumber
  rw [← List.cons_append, hshape]
  dsimp only
  rw [List.drop_left]
  cases after with
  | nil => rfl
  | cons d after =>
    have hd := hafter d rfl
    simp [hd]

theorem scan_numeral {offset : ℕ} {kind : TokenKind} {c : Char} {cs after : List Char}
    (h : Numeral kind (c :: cs)) (hafter : ∀ d ∈ after.head?, endedBy kind (c :: cs) d) :
    scan offset c (cs ++ after) = .ok (kind, cs.length) := by
  have hstop : ∀ d ∈ after.head?, isStop d := by
    intro d hd
    have := hafter d hd
    rcases h.kind_cases with rfl | rfl <;> simp_all [endedBy]
  have hpoint : kind = .integer → hexMarked (c :: cs) = false → after.head? ≠ some '.' := by
    rintro rfl hmark hdot
    simpa [endedBy, hmark] using hafter '.' hdot
  have hshape :=
    numberShape_append h (fun d hd => isAlphanumeric_of_isStop (hstop d hd)) hpoint
  have hstart : startsNumber (c :: (cs ++ after)) := startsNumber_append h.startsNumber after
  rw [scan_of_startsNumber hstart]
  exact scanNumber_of_shape offset hshape fun d hd =>
    ⟨isAlphanumeric_of_isStop (hstop d hd), ne_of_isStop (hstop d hd) (by decide)⟩

theorem scan_quoted {offset : ℕ} {close : Char} {what : Enclosed} {kind : TokenKind}
    {cs after : List Char} (hcs : Enclosable close cs) (hclose : isStop close = false)
    (hafter : ∀ d ∈ after.head?, isStop d) :
    scanQuoted offset close what kind (cs ++ [close] ++ after) = .ok (kind, cs.length + 1) := by
  have hlength := quotedLength_append hcs fun d hd => ne_of_isStop (hafter d hd) hclose
  rw [List.append_assoc, List.singleton_append]
  simp only [scanQuoted, hlength]

theorem enclosable_of_isHexDigit {cs : List Char} (hcs : ∀ d ∈ cs, Text.isHexDigit d) :
    Enclosable '\'' cs := by
  induction cs with
  | nil => exact .nil
  | cons d cs ih =>
    obtain ⟨hd, hcs⟩ := List.forall_mem_cons.1 hcs
    refine .char ?_ (ih hcs)
    rintro rfl
    exact absurd hd (by decide)

theorem scan_blob {cs after : List Char} (offset : ℕ) (hcs : ∀ d ∈ cs, Text.isHexDigit d)
    (heven : cs.length % 2 = 0) (hafter : ∀ d ∈ after.head?, isStop d) :
    scanBlob offset ('\'' :: (cs ++ ['\''] ++ after)) = .ok (.blob, cs.length + 2) := by
  have hlength := quotedLength_append (enclosable_of_isHexDigit hcs)
    fun d hd => ne_of_isStop (hafter d hd) (by decide)
  simp [scanBlob, hlength, heven]
  exact hcs

theorem scan_mark {offset : ℕ} {c : Char} {rest : List Char}
    (hc : Text.isBlank c = false ∧ Text.isAlphabetic c = false ∧ c.isDigit = false)
    (hne : c ∉ ['\'', 'x', 'X', '"', '\x60', '[', '?', ':', '@', '$', '_'])
    (hline : c = '-' → rest.head? ≠ some '-') (hblock : c = '/' → rest.head? ≠ some '*')
    (hpoint : c = '.' → rest.head?.any Char.isDigit = false) :
    scan offset c rest = scanMark offset c rest := by
  simp only [List.mem_cons, List.not_mem_nil, or_false, not_or] at hne
  have hbegins : Form.mark.Begins c rest.head? := by
    refine ⟨hc.1, hc.2.1, hc.2.2, ?_, fun h => hline h.1 h.2, fun h => hblock h.1 h.2, ?_, ?_⟩
    · simp [hne]
    · rintro ⟨hdot, hdigit⟩
      simp [hpoint hdot] at hdigit
    · simp [hne]
  exact scan_of_begins offset hbegins

theorem operator_marks {c : Char} {cs : List Char} (h : c :: cs ∈ operators) :
    (Text.isBlank c = false ∧ Text.isAlphabetic c = false ∧ c.isDigit = false) ∧
      c ∉ ['\'', 'x', 'X', '"', '\x60', '[', '?', ':', '@', '$', '_'] ∧
      c ∉ ['(', ')', ',', ';', '.'] ∧ (c = '-' → cs.head? ≠ some '-') ∧
      (c = '/' → cs.head? ≠ some '*') := by
  simp only [operators, List.map_cons, List.map_nil, List.mem_cons, List.not_mem_nil,
    or_false] at h
  casesm* _ ∨ _ <;> (obtain ⟨rfl, rfl⟩ := List.cons.inj h; decide)

theorem scan_operator {offset : ℕ} {c : Char} {cs after : List Char} (h : c :: cs ∈ operators)
    (hafter : ∀ d ∈ after.head?, isStop d ∨ d.isDigit) :
    scan offset c (cs ++ after) = .ok (.operator, cs.length) := by
  obtain ⟨hc, hne, hnone, hline, hblock⟩ := operator_marks h
  simp only [List.mem_cons, List.not_mem_nil, or_false, not_or] at hnone
  have hhead : ∀ d, isStop d = false → d.isDigit = false → cs.head? ≠ some d →
      (cs ++ after).head? ≠ some d := by
    intro d hstop hdigit hcs heq
    cases cs with
    | nil => exact ne_of_isStop_or_isDigit (hafter d heq) hstop hdigit rfl
    | cons e cs => exact hcs heq
  rw [scan_mark hc hne (fun h0 => hhead _ (by decide) (by decide) (hline h0))
    (fun h0 => hhead _ (by decide) (by decide) (hblock h0)) (fun h0 => absurd h0 hnone.2.2.2.2)]
  have hop : scanOperator offset c (cs ++ after) = .ok (.operator, cs.length) := by
    simp only [scanOperator,
      operatorTail_append h fun d hd => notMem_operatorTails (hafter d hd)]
  unfold scanMark
  split
  · simp at hnone
  · simp at hnone
  · simp at hnone
  · simp at hnone
  · simp at hnone
  · exact hop

theorem scan_numbered {offset : ℕ} {ds after : List Char} (hds : ∀ d ∈ ds, d.isDigit)
    (hafter : ∀ d ∈ after.head?, isStop d) :
    scan offset '?' (ds ++ after) = .ok (.parameter, ds.length) := by
  have hrun : runLength Char.isDigit (ds ++ after) = ds.length :=
    runLength_append hds fun d hd => isDigit_of_isStop (hafter d hd)
  have hbegins : Form.numbered.Begins '?' (ds ++ after).head? := rfl
  rw [scan_of_begins offset hbegins, scanAs, hrun]

theorem scan_named {offset : ℕ} {mark : Char} {cs after : List Char}
    (hmark : mark = ':' ∨ mark = '@' ∨ mark = '$') (hne : cs ≠ []) (hcs : ∀ d ∈ cs, isWordChar d)
    (hafter : ∀ d ∈ after.head?, isStop d) :
    scan offset mark (cs ++ after) = .ok (.parameter, cs.length) := by
  have hrun : runLength isWordChar (cs ++ after) = cs.length :=
    runLength_append hcs fun d hd => isWordChar_of_isStop (hafter d hd)
  have hbegins : Form.named.Begins mark (cs ++ after).head? := by
    refine ⟨hmark, ?_⟩
    obtain ⟨d, cs, rfl⟩ := List.exists_cons_of_ne_nil hne
    simpa using hcs d List.mem_cons_self
  rw [scan_of_begins offset hbegins, scanAs, hrun]

/-- A lexeme is cut off whole wherever a character that ends it follows. -/
theorem scan_lexeme {kind : TokenKind} {c : Char} {cs after : List Char} (offset : ℕ)
    (h : Lexeme kind (c :: cs)) (hafter : ∀ d ∈ after.head?, endedBy kind (c :: cs) d) :
    scan offset c (cs ++ after) = .ok (kind, cs.length) := by
  generalize hw : c :: cs = w at h hafter
  cases h with
  | word hstart hcs =>
    obtain ⟨rfl, rfl⟩ := List.cons.inj hw
    apply scan_word hstart hcs
    intro d hd
    have hstop : isStop d := by
      have := hafter d hd
      rcases wordKind_cases (c :: cs) with hk | hk <;> simpa [hk, endedBy] using this
    exact ⟨isWordChar_of_isStop hstop, ne_of_isStop hstop (by decide)⟩
  | @string cs hcs =>
    obtain ⟨rfl, rfl⟩ := List.cons.inj hw
    have hbegins : Form.string.Begins '\'' (cs ++ ['\''] ++ after).head? := rfl
    rw [scan_of_begins offset hbegins, scanAs, scan_quoted hcs (by decide) hafter,
      List.length_append, List.length_singleton]
  | @quoted mark cs hmark hcs =>
    obtain ⟨rfl, rfl⟩ := List.cons.inj hw
    have hbegins : Form.quoted.Begins c (cs ++ [c] ++ after).head? := hmark
    have hclose : isStop c = false := by
      rcases hmark with rfl | rfl <;> decide
    rw [scan_of_begins offset hbegins, scanAs, scan_quoted hcs hclose hafter,
      List.length_append, List.length_singleton]
  | @bracketed cs hcs =>
    obtain ⟨rfl, rfl⟩ := List.cons.inj hw
    have hbegins : Form.bracketed.Begins '[' (cs ++ [']'] ++ after).head? := rfl
    rw [scan_of_begins offset hbegins, scanAs, scan_quoted hcs (by decide) hafter,
      List.length_append, List.length_singleton]
  | @blob x cs hx hcs heven =>
    obtain ⟨rfl, rfl⟩ := List.cons.inj hw
    have hbegins : Form.blob.Begins c ('\'' :: (cs ++ ['\'']) ++ after).head? := ⟨hx, rfl⟩
    rw [scan_of_begins offset hbegins, scanAs, List.cons_append,
      scan_blob offset hcs heven hafter]
    simp
  | numeral hnumeral =>
    subst hw
    exact scan_numeral hnumeral hafter
  | numbered hds =>
    obtain ⟨rfl, rfl⟩ := List.cons.inj hw
    exact scan_numbered hds hafter
  | named hmark hne hcs =>
    obtain ⟨rfl, rfl⟩ := List.cons.inj hw
    exact scan_named hmark hne hcs hafter
  | operator hop =>
    subst hw
    exact scan_operator hop fun d hd => by simpa [endedBy] using hafter d hd
  | leftParen =>
    obtain ⟨rfl, rfl⟩ := List.cons.inj hw
    exact scan_mark (by decide) (by decide) (by simp) (by simp) (by simp)
  | rightParen =>
    obtain ⟨rfl, rfl⟩ := List.cons.inj hw
    exact scan_mark (by decide) (by decide) (by simp) (by simp) (by simp)
  | comma =>
    obtain ⟨rfl, rfl⟩ := List.cons.inj hw
    exact scan_mark (by decide) (by decide) (by simp) (by simp) (by simp)
  | semicolon =>
    obtain ⟨rfl, rfl⟩ := List.cons.inj hw
    exact scan_mark (by decide) (by decide) (by simp) (by simp) (by simp)
  | dot =>
    obtain ⟨rfl, rfl⟩ := List.cons.inj hw
    apply scan_mark (by decide) (by decide) (by simp) (by simp)
    intro _
    cases after with
    | nil => rfl
    | cons d after => simpa [endedBy] using hafter d rfl

end Sql
end QueryFuzz
