import QueryFuzz.Proofs.Sql.Rendering

/-!
# How far the scanner looks ahead

The scanner never takes more characters than there are, and what it takes for a token depends on
no more than the one character behind it. So a token stays the same if the text behind it is cut
off, and if a line break is put in its place, unless the token is a blank and grows by it.
-/

namespace QueryFuzz
namespace Sql

/-! ## The character behind the first one -/

theorem formOf_none_notMem (c : Char) :
    formOf c none ∉ [.lineComment, .blockComment, .blob, .named] := by
  have hbegins := begins_formOf c none
  generalize formOf c none = f at hbegins ⊢
  cases f with
  | lineComment | blockComment | blob | named => exact absurd hbegins.2 (by simp)
  | _ => simp

/-- The forms that the character behind the first one decides on. -/
def TakesNext (c : Char) (next : Option Char) : Form → Prop
  | .lineComment => next = some '-'
  | .blockComment => next = some '*'
  | .blob => next = some '\''
  | .number => c = '.' ∧ next.any Char.isDigit
  | .named => next.any isWordChar
  | _ => False

/-- A character that decides on the form is the reason for it. -/
theorem formOf_eq_or_takesNext (c : Char) (next : Option Char) :
    formOf c next = formOf c none ∨ TakesNext c next (formOf c next) := by
  by_cases hline : c = '-' ∧ next = some '-'
  · rw [formOf_of_begins (f := .lineComment) hline]
    exact .inr hline.2
  by_cases hblock : c = '/' ∧ next = some '*'
  · rw [formOf_of_begins (f := .blockComment) hblock]
    exact .inr hblock.2
  by_cases hblob : (c = 'x' ∨ c = 'X') ∧ next = some '\''
  · rw [formOf_of_begins (f := .blob) hblob]
    exact .inr hblob.2
  by_cases hnumber : c = '.' ∧ next.any Char.isDigit
  · rw [formOf_of_begins (f := .number) (.inr hnumber)]
    exact .inr hnumber
  by_cases hnamed : (c = ':' ∨ c = '@' ∨ c = '$') ∧ next.any isWordChar
  · rw [formOf_of_begins (f := .named) hnamed]
    exact .inr hnamed.2
  left
  unfold formOf
  rw [if_neg hline, if_neg hblock, if_neg hblob, if_neg hnamed]
  simp [hnumber]

theorem formOf_line_break (c : Char) : formOf c (some '\n') = formOf c none := by
  have hword : isWordChar '\n' = false := by decide
  simp [formOf, hword]

/-! ## The scanner stays within the text -/

theorem runLength_le (p : Char → Bool) (cs : List Char) : runLength p cs ≤ cs.length :=
  (List.takeWhile_sublist p).length_le

theorem quotedLength_le {close : Char} {cs : List Char} {n : ℕ}
    (h : quotedLength close cs = some n) : 0 < n ∧ n ≤ cs.length := by
  obtain ⟨body, after, rfl, rfl, -⟩ := exists_enclosable_of_quotedLength h
  simp

theorem blockCommentLength_le {cs : List Char} {n : ℕ} (h : blockCommentLength cs = some n) :
    n ≤ cs.length := by
  fun_induction blockCommentLength cs generalizing n with
  | case1 => simp at h
  | case2 rest =>
    obtain rfl := Option.some.inj h
    simp
  | case3 c rest _ ih =>
    obtain ⟨m, hm, rfl⟩ := Option.map_eq_some_iff.1 h
    simpa using ih hm

theorem fractionLength_le (cs : List Char) : fractionLength cs ≤ cs.length := by
  unfold fractionLength
  split
  · rename_i rest
    have := runLength_le Char.isDigit rest
    simp only [List.length_cons]
    omega
  · simp

theorem exponentLength_le (cs : List Char) : exponentLength cs ≤ cs.length := by
  cases cs with
  | nil => simp [exponentLength]
  | cons e rest =>
    obtain ⟨sign, hsign, hlength⟩ := exponentLength_cons e rest
    rw [hlength]
    split_ifs with h
    · have hrun := runLength_le Char.isDigit (rest.drop sign)
      have hpos := h.2
      simp only [List.length_drop, List.length_cons] at hrun ⊢
      omega
    · simp

theorem hexLength_le {cs : List Char} {n : ℕ} (h : hexLength cs = some n) : n ≤ cs.length := by
  unfold hexLength at h
  split at h
  · rename_i x rest
    split_ifs at h
    obtain rfl := Option.some.inj h
    have := runLength_le Text.isHexDigit rest
    simp only [List.length_cons]
    omega
  · simp at h

theorem numberShape_le (cs : List Char) : (numberShape cs).2 ≤ cs.length := by
  unfold numberShape
  split
  · rename_i n hn
    exact hexLength_le hn
  · dsimp only
    have hwhole := runLength_le Char.isDigit cs
    generalize runLength Char.isDigit cs = w at *
    have hfraction := fractionLength_le (cs.drop w)
    generalize fractionLength (cs.drop w) = f at *
    have hexponent := exponentLength_le (cs.drop (w + f))
    simp only [List.length_drop] at hfraction hexponent
    omega

theorem operatorTail_le {c : Char} {rest : List Char} {n : ℕ} (h : operatorTail c rest = some n) :
    n ≤ rest.length := by
  unfold operatorTail at h
  split at h
  all_goals first
    | (obtain rfl := Option.some.inj h; simp)
    | skip
  split_ifs at h
  obtain rfl := Option.some.inj h
  simp

theorem scanQuoted_le {offset : ℕ} {close : Char} {what : Enclosed} {kind kind' : TokenKind}
    {rest : List Char} {n : ℕ} (h : scanQuoted offset close what kind rest = .ok (kind', n)) :
    n ≤ rest.length := by
  unfold scanQuoted at h
  split at h
  · simp at h
  · rename_i m hm
    obtain ⟨-, rfl⟩ : kind = kind' ∧ m = n := by simpa using h
    exact (quotedLength_le hm).2

theorem scanBlob_le {offset : ℕ} {rest : List Char} {kind : TokenKind} {n : ℕ}
    (hrest : rest ≠ []) (h : scanBlob offset rest = .ok (kind, n)) : n ≤ rest.length := by
  unfold scanBlob at h
  split at h
  · simp at h
  · rename_i m hm
    dsimp only at h
    split_ifs at h
    obtain ⟨-, rfl⟩ : TokenKind.blob = kind ∧ m + 1 = n := by simpa using h
    have hlength := (quotedLength_le hm).2
    have hpos := List.length_pos_iff.2 hrest
    rw [List.length_drop] at hlength
    omega

theorem scanBlockComment_le {offset : ℕ} {c : Char} {rest : List Char} {kind : TokenKind} {n : ℕ}
    (hrest : rest ≠ []) (h : scanAs offset c rest .blockComment = .ok (kind, n)) :
    n ≤ rest.length := by
  unfold scanAs at h
  dsimp only at h
  split at h
  · simp at h
  · rename_i m hm
    obtain ⟨-, rfl⟩ : TokenKind.comment = kind ∧ m + 1 = n := by simpa using h
    have hlength := blockCommentLength_le hm
    have hpos := List.length_pos_iff.2 hrest
    rw [List.length_drop] at hlength
    omega

theorem scanMark_cases {offset : ℕ} {c : Char} {rest : List Char} {kind : TokenKind} {n : ℕ}
    (h : scanMark offset c rest = .ok (kind, n)) : n = 0 ∨ operatorTail c rest = some n := by
  unfold scanMark at h
  split at h
  case h_6 =>
    unfold scanOperator at h
    split at h
    · simp_all
    · simp at h
  all_goals exact .inl (congrArg Prod.snd (Except.ok.inj h)).symm

theorem scan_le {offset : ℕ} {c : Char} {rest : List Char} {kind : TokenKind} {n : ℕ}
    (h : scan offset c rest = .ok (kind, n)) : n ≤ rest.length := by
  rw [scan_eq_scanAs] at h
  have hhead : rest = [] →
      formOf c rest.head? ∉ [.lineComment, .blockComment, .blob, .named] := by
    rintro rfl
    exact formOf_none_notMem c
  cases hform : formOf c rest.head? with
  | blanks | lineComment | numbered | named | word =>
    rw [hform] at h
    obtain rfl := congrArg Prod.snd (Except.ok.inj h)
    exact runLength_le _ _
  | blockComment =>
    rw [hform] at h
    have hpos : rest ≠ [] := fun hnil => hhead hnil (by simp [hform])
    exact scanBlockComment_le hpos h
  | string | quoted | bracketed =>
    rw [hform] at h
    exact scanQuoted_le h
  | blob =>
    rw [hform] at h
    exact scanBlob_le (fun hnil => hhead hnil (by simp [hform])) h
  | number =>
    rw [hform] at h
    obtain ⟨-, rfl, -⟩ := scanNumber_eq h
    have := numberShape_le (c :: rest)
    simp only [List.length_cons] at this
    omega
  | mark =>
    rw [hform] at h
    rcases scanMark_cases h with rfl | h
    · exact Nat.zero_le _
    · exact operatorTail_le h

/-! ## One character behind a token -/

section Congr

variable {run after after' : List Char}

theorem runLength_append_iff {p : Char → Bool} :
    runLength p (run ++ after) = run.length ↔
      (∀ c ∈ run, p c) ∧ ∀ c ∈ after.head?, p c = false := by
  constructor
  · intro h
    have hrun : ∀ c ∈ run, p c := by
      intro c hc
      have hmem : c ∈ (run ++ after).take (runLength p (run ++ after)) := by
        rwa [h, List.take_left]
      exact mem_take_runLength hmem
    refine ⟨hrun, fun c hc => ?_⟩
    rw [runLength, List.takeWhile_append_of_pos hrun, List.length_append] at h
    cases after with
    | nil => simp at hc
    | cons d rest =>
      obtain rfl : d = c := by simpa using hc
      by_contra hd
      simp [hd] at h
  · rintro ⟨hrun, hafter⟩
    exact runLength_append hrun hafter

theorem runLength_congr {p : Char → Bool} (h : runLength p (run ++ after) = run.length)
    (hafter : ∀ d ∈ after'.head?, d ∈ after.head? ∨ p d = false) :
    runLength p (run ++ after') = run.length := by
  obtain ⟨hrun, hend⟩ := runLength_append_iff.1 h
  exact runLength_append_iff.2 ⟨hrun, fun d hd => (hafter d hd).elim (hend d) id⟩

theorem quotedLength_mark (close : Char) (rest : List Char) :
    quotedLength close (close :: rest) =
      if rest.head? = some close ∧ close ≠ ']' then (quotedLength close rest.tail).map (· + 2)
      else some 1 := by
  rw [quotedLength.eq_def]
  cases rest <;> simp

theorem quotedLength_ne_zero {close : Char} {cs : List Char} : quotedLength close cs ≠ some 0 :=
  fun h => absurd (quotedLength_le h).1 (Nat.lt_irrefl 0)

theorem quotedLength_congr {close : Char} (h : quotedLength close (run ++ after) = some run.length)
    (hafter : ∀ d ∈ after'.head?, d ∈ after.head? ∨ d ≠ close) :
    quotedLength close (run ++ after') = some run.length := by
  induction hn : run.length using Nat.strong_induction_on generalizing run with
  | _ n ih =>
    subst hn
    cases run with
    | nil => exact absurd h quotedLength_ne_zero
    | cons c run =>
      by_cases hc : c = close
      · subst hc
        rw [List.cons_append, quotedLength_mark] at h ⊢
        cases run with
        | nil =>
          rw [if_neg]
          · rfl
          · rintro ⟨hhead, hbracket⟩
            rcases hafter c hhead with hmem | hne
            · rw [List.nil_append, if_pos ⟨hmem, hbracket⟩] at h
              obtain ⟨m, -, hm⟩ := Option.map_eq_some_iff.1 h
              simp at hm
            · exact hne rfl
        | cons d run =>
          rw [List.cons_append, List.head?_cons] at h ⊢
          split_ifs at h ⊢ with hd
          · obtain ⟨m, hm, hlength⟩ := Option.map_eq_some_iff.1 h
            obtain rfl : m = run.length := by simpa using hlength
            rw [List.tail_cons] at hm ⊢
            rw [ih run.length (by simp only [List.length_cons]; omega) hm rfl]
            rfl
          · simp at h
      · rw [List.cons_append, quotedLength_of_ne hc] at h ⊢
        obtain ⟨m, hm, hlength⟩ := Option.map_eq_some_iff.1 h
        obtain rfl : m = run.length := by simpa using hlength
        rw [ih run.length (by simp) hm rfl]
        rfl

theorem blockCommentLength_cons (c d : Char) (rest : List Char) :
    blockCommentLength (c :: d :: rest) =
      if c = '*' ∧ d = '/' then some 2 else (blockCommentLength (d :: rest)).map (· + 1) := by
  split_ifs with hend
  · obtain ⟨rfl, rfl⟩ := hend
    rfl
  · rw [blockCommentLength]
    rintro tail rfl hd
    exact hend ⟨rfl, (List.cons.inj hd).1⟩

theorem two_le_blockCommentLength {cs : List Char} {n : ℕ} (h : blockCommentLength cs = some n) :
    2 ≤ n := by
  fun_induction blockCommentLength cs generalizing n with
  | case1 => simp at h
  | case2 => exact (Option.some.inj h).le
  | case3 c rest _ ih =>
    obtain ⟨m, hm, rfl⟩ := Option.map_eq_some_iff.1 h
    have := ih hm
    omega

theorem blockCommentLength_congr (h : blockCommentLength (run ++ after) = some run.length)
    (after' : List Char) : blockCommentLength (run ++ after') = some run.length := by
  induction run with
  | nil => exact absurd (two_le_blockCommentLength h) (by simp)
  | cons c run ih =>
    cases run with
    | nil => exact absurd (two_le_blockCommentLength h) (by simp)
    | cons d run =>
      rw [List.cons_append, List.cons_append, blockCommentLength_cons] at h ⊢
      split_ifs at h ⊢
      · exact h
      · obtain ⟨m, hm, hlength⟩ := Option.map_eq_some_iff.1 h
        obtain rfl : m = (d :: run).length := by simpa using hlength
        rw [← List.cons_append, ih hm]
        rfl

theorem head?_append_congr (hne : run ≠ []) :
    (run ++ after').head? = (run ++ after).head? := by
  obtain ⟨c, run, rfl⟩ := List.exists_cons_of_ne_nil hne
  rfl

theorem scanQuoted_congr {offset : ℕ} (offset' : ℕ) {close : Char} {what : Enclosed}
    {kind kind' : TokenKind}
    (h : scanQuoted offset close what kind (run ++ after) = .ok (kind', run.length))
    (hafter : ∀ d ∈ after'.head?, d ∈ after.head? ∨ d ≠ close) :
    scanQuoted offset' close what kind (run ++ after') = .ok (kind', run.length) := by
  unfold scanQuoted at h ⊢
  split at h
  · simp at h
  · rename_i m hm
    obtain ⟨rfl, rfl⟩ : kind = kind' ∧ m = run.length := by simpa using h
    rw [quotedLength_congr hm hafter]

theorem scanBlob_congr {offset : ℕ} (offset' : ℕ) {kind : TokenKind} (hne : run ≠ [])
    (h : scanBlob offset (run ++ after) = .ok (kind, run.length))
    (hafter : ∀ d ∈ after'.head?, d ∈ after.head? ∨ d ≠ '\'') :
    scanBlob offset' (run ++ after') = .ok (kind, run.length) := by
  obtain ⟨c, run, rfl⟩ := List.exists_cons_of_ne_nil hne
  simp only [scanBlob, List.cons_append, List.drop_succ_cons, List.drop_zero] at h ⊢
  split at h
  · simp at h
  · rename_i m hm
    split_ifs at h with hbody
    obtain ⟨rfl, rfl⟩ : TokenKind.blob = kind ∧ m = run.length := by simpa using h
    have hpos := (quotedLength_le hm).1
    rw [List.take_append_of_le_length (Nat.sub_le _ _)] at hbody
    rw [quotedLength_congr hm hafter]
    dsimp only
    rw [List.take_append_of_le_length (Nat.sub_le _ _), if_pos hbody]
    rfl

theorem isDigit_of_integer {cs : List Char} (h : Numeral .integer cs)
    (hmark : hexMarked cs = false) : ∀ d ∈ cs, d.isDigit := by
  generalize hk : TokenKind.integer = kind at h
  cases h with
  | hex hx => rcases hx with rfl | rfl <;> simp [hexMarked] at hmark
  | decimal _ hds => exact hds
  | float => simp at hk

theorem scanNumber_congr {offset : ℕ} (offset' : ℕ) {c : Char} {kind : TokenKind}
    (hstart : startsNumber (c :: (run ++ after)))
    (h : scanNumber offset c (run ++ after) = .ok (kind, run.length))
    (hafter : ∀ d ∈ after'.head?, d ∈ after.head? ∨ d = '\n') :
    scanNumber offset' c (run ++ after') = .ok (kind, run.length) := by
  obtain ⟨rfl, hlength, hend⟩ := scanNumber_eq h
  obtain ⟨hpos, hnumeral⟩ := numeral_take hstart
  have hwhole : (numberShape (c :: (run ++ after))).2 = (c :: run).length := by
    simp only [List.length_cons]
    omega
  rw [hwhole, ← List.cons_append, List.take_left] at hnumeral
  rw [hwhole, ← List.cons_append, List.drop_left] at hend
  have hend' : ∀ d ∈ after'.head?, Text.isAlphanumeric d = false ∧ d ≠ '_' := by
    intro d hd
    rcases hafter d hd with hmem | rfl
    · exact hend d hmem
    · decide
  refine scanNumber_of_shape offset' (numberShape_append hnumeral (fun d hd => (hend' d hd).1) ?_)
    hend'
  -- A point behind a whole number would have been read as a part of it.
  intro hinteger hmark hpoint
  rcases hafter '.' hpoint with hmem | heq
  · cases after with
    | nil => simp at hmem
    | cons d after =>
      obtain rfl : d = '.' := by simpa using hmem
      have hdigits : Numeral .integer (c :: run) := hinteger ▸ hnumeral
      have hfloat := numberShape_point (isDigit_of_integer hdigits hmark) after
      exact absurd (hinteger.symm.trans hfloat) (by decide)
  · simp at heq

theorem operatorTail_arrow (rest : List Char) : operatorTail '-' ('>' :: rest) ≠ some 0 := by
  unfold operatorTail
  split <;> simp_all

theorem operatorTail_congr {c : Char} (h : operatorTail c (run ++ after) = some run.length)
    (hafter : ∀ d ∈ after'.head?, d ∈ after.head? ∨ d = '\n') :
    operatorTail c (run ++ after') = some run.length := by
  have hop := mem_operators_of_operatorTail h
  rw [List.take_left] at hop
  by_cases hgoes : ∃ d ∈ after'.head?, d ∈ operatorTails
  · obtain ⟨d, hd', hgoes⟩ := hgoes
    have hd : d ∈ after.head? := by
      refine (hafter d hd').resolve_right ?_
      rintro rfl
      simp [operatorTails] at hgoes
    obtain ⟨rest, rfl⟩ := List.head?_eq_some_iff.1 hd
    obtain ⟨rest', rfl⟩ := List.head?_eq_some_iff.1 hd'
    simp [operators] at hop
    simp [operatorTails] at hgoes
    rcases hgoes with rfl | rfl | rfl | rfl <;> casesm* _ ∨ _ <;> obtain ⟨rfl, rfl⟩ := hop
    all_goals first
      | rfl
      | exact absurd h (operatorTail_arrow rest)
      | simp [operatorTail] at h
  · exact operatorTail_append hop fun d hd hmem => hgoes ⟨d, hd, hmem⟩

theorem scanMark_congr {offset : ℕ} (offset' : ℕ) {c : Char} {kind : TokenKind}
    (h : scanMark offset c (run ++ after) = .ok (kind, run.length))
    (hafter : ∀ d ∈ after'.head?, d ∈ after.head? ∨ d = '\n') :
    scanMark offset' c (run ++ after') = .ok (kind, run.length) := by
  unfold scanMark at h ⊢
  split at h
  case h_6 =>
    unfold scanOperator at h ⊢
    split at h
    · rename_i m hm
      obtain ⟨rfl, rfl⟩ : TokenKind.operator = kind ∧ m = run.length := by simpa using h
      rw [operatorTail_congr hm hafter]
    · simp at h
  all_goals exact h

theorem scanBlockComment_congr {offset : ℕ} (offset' : ℕ) {c : Char} {kind : TokenKind}
    (hne : run ≠ []) (h : scanAs offset c (run ++ after) .blockComment = .ok (kind, run.length)) :
    scanAs offset' c (run ++ after') .blockComment = .ok (kind, run.length) := by
  obtain ⟨d, run, rfl⟩ := List.exists_cons_of_ne_nil hne
  simp only [scanAs, List.cons_append, List.drop_succ_cons, List.drop_zero] at h ⊢
  split at h
  · simp at h
  · rename_i m hm
    obtain ⟨rfl, rfl⟩ : TokenKind.comment = kind ∧ m = run.length := by simpa using h
    rw [blockCommentLength_congr hm after']
    rfl

theorem two_le_numberShape {rest : List Char} (h : rest.head?.any Char.isDigit) :
    2 ≤ (numberShape ('.' :: rest)).2 := by
  have hrun := runLength_ne_zero h
  have hnone : hexLength ('.' :: rest) = none := rfl
  have hwhole : runLength Char.isDigit ('.' :: rest) = 0 := rfl
  simp only [numberShape, hnone, hwhole, List.drop_zero, fractionLength]
  omega

/-- A character that decides on the form of a token belongs to the token. -/
theorem not_takesNext {offset : ℕ} {c : Char} {rest : List Char} {kind : TokenKind} {f : Form}
    (h : scanAs offset c rest f = .ok (kind, 0)) : ¬TakesNext c rest.head? f := by
  intro htakes
  cases f with
  | lineComment =>
    have hnext : rest.head? = some '-' := htakes
    have hrun : runLength (· != '\n') rest = 0 := congrArg Prod.snd (Except.ok.inj h)
    exact runLength_ne_zero (by simp [hnext]) hrun
  | blockComment =>
    unfold scanAs at h
    dsimp only at h
    split at h <;> simp at h
  | blob =>
    simp only [scanAs, scanBlob] at h
    split at h
    · simp at h
    · split_ifs at h
      simp at h
  | number =>
    obtain ⟨rfl, hnext⟩ := htakes
    have hlong := two_le_numberShape hnext
    have hnumber : scanNumber offset '.' rest = .ok (kind, 0) := h
    obtain ⟨-, hzero, -⟩ := scanNumber_eq hnumber
    omega
  | named =>
    have hrun : runLength isWordChar rest = 0 := congrArg Prod.snd (Except.ok.inj h)
    exact runLength_ne_zero htakes hrun
  | _ => exact htakes

theorem formOf_congr {offset : ℕ} {c : Char} {kind : TokenKind}
    (h : scan offset c (run ++ after) = .ok (kind, run.length))
    (hafter : ∀ d ∈ after'.head?, d ∈ after.head? ∨ d = '\n') :
    formOf c (run ++ after').head? = formOf c (run ++ after).head? := by
  by_cases hrun : run = []
  · subst hrun
    rw [List.nil_append, scan_eq_scanAs] at h
    have hnone : formOf c after.head? = formOf c none :=
      (formOf_eq_or_takesNext c after.head?).resolve_right (not_takesNext h)
    rw [List.nil_append, List.nil_append]
    cases hhead : after'.head? with
    | none => exact hnone.symm
    | some d =>
      rcases hafter d hhead with hmem | rfl
      · rw [Option.mem_def.1 hmem]
      · rw [formOf_line_break, hnone]
  · rw [head?_append_congr hrun]

theorem ne_nil_of_takesNext {offset : ℕ} {c : Char} {kind : TokenKind}
    (h : scan offset c (run ++ after) = .ok (kind, run.length))
    (htakes : formOf c (run ++ after).head? ∈ [.lineComment, .blockComment, .blob, .named]) :
    run ≠ [] := by
  rintro rfl
  rw [scan_eq_scanAs] at h
  rcases formOf_eq_or_takesNext c ([] ++ after).head? with hnone | hnext
  · exact formOf_none_notMem c (hnone ▸ htakes)
  · exact not_takesNext h hnext

theorem scanWord_congr {c : Char} {kind : TokenKind}
    (h : scanWord c (run ++ after) = (kind, run.length))
    (hafter : ∀ d ∈ after'.head?, d ∈ after.head? ∨ isWordChar d = false) :
    scanWord c (run ++ after') = (kind, run.length) := by
  have hrun : runLength isWordChar (run ++ after) = run.length := congrArg Prod.snd h
  have hrun' := runLength_congr hrun hafter
  simp only [scanWord, hrun, hrun', List.take_left] at h ⊢
  exact h

/-- A token stays the same if the text behind it is exchanged for one that begins with the same
character, for none, or for one that begins with a line break, which only goes on with blanks. -/
theorem scan_congr {offset : ℕ} (offset' : ℕ) {c : Char} {kind : TokenKind}
    (h : scan offset c (run ++ after) = .ok (kind, run.length))
    (hafter : ∀ d ∈ after'.head?, d ∈ after.head? ∨ d = '\n' ∧ Text.isBlank c = false) :
    scan offset' c (run ++ after') = .ok (kind, run.length) := by
  have hnext : ∀ d ∈ after'.head?, d ∈ after.head? ∨ d = '\n' :=
    fun d hd => (hafter d hd).imp_right And.left
  have hbreak : ∀ p : Char → Bool, p '\n' = false →
      ∀ d ∈ after'.head?, d ∈ after.head? ∨ p d = false :=
    fun p hp d hd => (hnext d hd).imp_right (by rintro rfl; exact hp)
  have hmark : ∀ mark : Char, '\n' ≠ mark → ∀ d ∈ after'.head?, d ∈ after.head? ∨ d ≠ mark :=
    fun mark hne d hd => (hnext d hd).imp_right (by rintro rfl; exact hne)
  have hform := formOf_congr h hnext
  have htakes := ne_nil_of_takesNext h
  rw [scan_eq_scanAs] at h ⊢
  rw [hform]
  generalize hf : formOf c (run ++ after).head? = f at h htakes
  cases f with
  | blanks =>
    have hblank : Text.isBlank c := formOf_eq_iff.1 hf
    obtain ⟨rfl, hrun⟩ := Prod.mk.inj (Except.ok.inj h)
    have hsame : ∀ d ∈ after'.head?, d ∈ after.head? ∨ Text.isBlank d = false :=
      fun d hd => .inl ((hafter d hd).resolve_right fun hd => by simp [hblank] at hd)
    rw [scanAs, runLength_congr hrun hsame]
  | lineComment =>
    obtain ⟨rfl, hrun⟩ := Prod.mk.inj (Except.ok.inj h)
    rw [scanAs, runLength_congr hrun (hbreak _ (by decide))]
  | blockComment => exact scanBlockComment_congr offset' (htakes (by simp)) h
  | string => exact scanQuoted_congr offset' h (hmark _ (by decide))
  | blob => exact scanBlob_congr offset' (htakes (by simp)) h (hmark _ (by decide))
  | quoted =>
    refine scanQuoted_congr offset' h fun d hd => (hafter d hd).imp_right ?_
    rintro ⟨rfl, hblank⟩ rfl
    revert hblank
    decide
  | bracketed => exact scanQuoted_congr offset' h (hmark _ (by decide))
  | number =>
    have hstart := begins_number_iff.1 (formOf_eq_iff.1 hf)
    exact scanNumber_congr offset' hstart h hnext
  | numbered =>
    obtain ⟨rfl, hrun⟩ := Prod.mk.inj (Except.ok.inj h)
    rw [scanAs, runLength_congr hrun (hbreak _ (by decide))]
  | named =>
    obtain ⟨rfl, hrun⟩ := Prod.mk.inj (Except.ok.inj h)
    rw [scanAs, runLength_congr hrun (hbreak _ (by decide))]
  | word => exact congrArg Except.ok (scanWord_congr (Except.ok.inj h) (hbreak _ (by decide)))
  | mark => exact scanMark_congr offset' h hnext

end Congr

end Sql
end QueryFuzz
