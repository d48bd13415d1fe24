import QueryFuzz.Proofs.Sql.Reading

/-!
# The lexer and capitals

A text is written in capitals by changing its small plain letters and nothing else. Every class of
characters that the lexer tells apart has the capital of each small letter in it, and no mark is a
letter, so the lexer cuts both texts at the same places.
-/

namespace QueryFuzz
namespace Sql

/-! ## Characters -/

/-- The codes of the 26 characters that change. -/
def smallCodes : List ℕ :=
  List.range' 97 26

theorem toUpper_eq_self_or (c : Char) :
    c.toUpper = c ∨ ∃ code ∈ smallCodes, c = Char.ofNat code := by
  unfold Char.toUpper
  split_ifs with hsmall
  · right
    have hval : 97 ≤ c.toNat ∧ c.toNat ≤ 122 := by
      simpa [UInt32.le_iff_toNat_le] using hsmall
    refine ⟨c.toNat, ?_, (Char.ofNat_toNat c).symm⟩
    rw [smallCodes, List.mem_range'_1]
    omega
  · exact .inl rfl

/-- What cannot tell the small letters from their capitals ignores letter case. -/
theorem apply_toUpper {α : Type} {f : Char → α}
    (h : ∀ code ∈ smallCodes, f (Char.ofNat code).toUpper = f (Char.ofNat code)) (c : Char) :
    f c.toUpper = f c := by
  rcases toUpper_eq_self_or c with hself | ⟨code, hcode, rfl⟩
  · rw [hself]
  · exact h code hcode

@[simp] theorem toUpper_toUpper (c : Char) : c.toUpper.toUpper = c.toUpper :=
  apply_toUpper (by decide) c

@[simp] theorem toLower_toUpper (c : Char) : c.toUpper.toLower = c.toLower :=
  apply_toUpper (by decide) c

@[simp] theorem utf8Size_toUpper (c : Char) : c.toUpper.utf8Size = c.utf8Size :=
  apply_toUpper (by decide) c

@[simp] theorem isBlank_toUpper (c : Char) : Text.isBlank c.toUpper = Text.isBlank c :=
  apply_toUpper (by decide) c

@[simp] theorem isDigit_toUpper (c : Char) : c.toUpper.isDigit = c.isDigit :=
  apply_toUpper (by decide) c

@[simp] theorem isHexDigit_toUpper (c : Char) : Text.isHexDigit c.toUpper = Text.isHexDigit c :=
  apply_toUpper (by decide) c

@[simp] theorem isAlphabetic_toUpper (c : Char) :
    Text.isAlphabetic c.toUpper = Text.isAlphabetic c :=
  apply_toUpper (by decide) c

@[simp] theorem isAlphanumeric_toUpper (c : Char) :
    Text.isAlphanumeric c.toUpper = Text.isAlphanumeric c :=
  apply_toUpper (by decide) c

@[simp] theorem isWordChar_toUpper (c : Char) : isWordChar c.toUpper = isWordChar c :=
  apply_toUpper (by decide) c

/-- No mark is a small letter or its capital. -/
theorem toUpper_eq_iff {c mark : Char} (hmark : mark.isAlpha = false) :
    c.toUpper = mark ↔ c = mark := by
  rcases toUpper_eq_self_or c with hself | ⟨code, hcode, hc⟩
  · rw [hself]
  · have hletters : ∀ code ∈ smallCodes,
        (Char.ofNat code).toUpper.isAlpha ∧ (Char.ofNat code).isAlpha := by
      decide
    have hletter := hletters code hcode
    rw [← hc] at hletter
    constructor
    · rintro rfl
      simp [hletter.1] at hmark
    · rintro rfl
      simp [hletter.2] at hmark

theorem toUpper_eq_or_iff {c small capital : Char}
    (h : ∀ code ∈ smallCodes, decide ((Char.ofNat code).toUpper = small ∨
      (Char.ofNat code).toUpper = capital) =
        decide (Char.ofNat code = small ∨ Char.ofNat code = capital)) :
    (c.toUpper = small ∨ c.toUpper = capital) ↔ (c = small ∨ c = capital) :=
  decide_eq_decide.1 (apply_toUpper (f := fun c => decide (c = small ∨ c = capital)) h c)

theorem head?_capitals {cs : List Char} {mark : Char} (hmark : mark.isAlpha = false) :
    (cs.map Char.toUpper).head? = some mark ↔ cs.head? = some mark := by
  cases cs with
  | nil => simp
  | cons c cs => simp [toUpper_eq_iff hmark]

/-! ## Measuring -/

theorem runLength_capitals {p : Char → Bool} (hp : ∀ c, p c.toUpper = p c) (cs : List Char) :
    runLength p (cs.map Char.toUpper) = runLength p cs := by
  have hcomp : p ∘ Char.toUpper = p := funext hp
  rw [runLength, List.takeWhile_map, hcomp, List.length_map]
  rfl

theorem utf8Length_capitals (cs : List Char) :
    utf8Length (cs.map Char.toUpper) = utf8Length cs := by
  induction cs with
  | nil => rfl
  | cons c cs ih => rw [List.map_cons, utf8Length_cons, utf8Length_cons, ih, utf8Size_toUpper]

theorem quotedLength_capitals {close : Char} (hclose : close.isAlpha = false) (cs : List Char) :
    quotedLength close (cs.map Char.toUpper) = quotedLength close cs := by
  have hself : close.toUpper = close := (toUpper_eq_iff hclose).2 rfl
  induction cs using quotedLength.induct close with
  | case1 => rfl
  | case2 d rest hpair ih =>
    obtain ⟨rfl, hbracket⟩ := hpair
    simp [quotedLength, hself, hbracket, ih]
  | case3 d rest hpair => simp [quotedLength, hself, toUpper_eq_iff hclose, hpair]
  | case4 => simp [quotedLength, hself]
  | case5 c rest hne ih =>
    have hne' : c.toUpper ≠ close := by
      rwa [Ne, toUpper_eq_iff hclose]
    rw [List.map_cons, quotedLength_of_ne hne, quotedLength_of_ne hne', ih]

theorem blockCommentLength_capitals (cs : List Char) :
    blockCommentLength (cs.map Char.toUpper) = blockCommentLength cs := by
  induction cs using blockCommentLength.induct with
  | case1 => rfl
  | case2 rest => rfl
  | case3 c rest hne ih =>
    rw [List.map_cons, blockCommentLength, blockCommentLength, ih]
    · exact hne
    · intro tail hstar hslash
      obtain ⟨d, ds, rfl, hd, -⟩ := List.map_eq_cons_iff.1 hslash
      rw [toUpper_eq_iff (by decide)] at hstar hd
      exact hne ds hstar (by rw [hd])

theorem fractionLength_capitals (cs : List Char) :
    fractionLength (cs.map Char.toUpper) = fractionLength cs := by
  cases cs with
  | nil => rfl
  | cons c cs =>
    by_cases hpoint : c = '.'
    · subst hpoint
      show 1 + runLength Char.isDigit (cs.map Char.toUpper) = 1 + runLength Char.isDigit cs
      rw [runLength_capitals isDigit_toUpper]
    · have hpoint' : c.toUpper ≠ '.' := by
        rwa [Ne, toUpper_eq_iff (by decide)]
      rw [List.map_cons]
      simp [fractionLength, hpoint, hpoint']

/-- The length of a sign at the start is that of the sign at the start of the capitals. -/
theorem exponentLength_capitals (cs : List Char) :
    exponentLength (cs.map Char.toUpper) = exponentLength cs := by
  have hmark (e : Char) : (e.toUpper = 'e' ∨ e.toUpper = 'E') ↔ (e = 'e' ∨ e = 'E') :=
    toUpper_eq_or_iff (by decide)
  rcases cs with _ | ⟨e, _ | ⟨s, cs⟩⟩
  · rfl
  · simp [exponentLength, runLength]
  · have hsign : (s.toUpper = '+' ∨ s.toUpper = '-') ↔ (s = '+' ∨ s = '-') :=
      or_congr (toUpper_eq_iff (by decide)) (toUpper_eq_iff (by decide))
    simp only [List.map_cons, exponentLength, hmark, hsign]
    rw [← List.map_cons, ← List.map_drop, runLength_capitals isDigit_toUpper]

theorem hexLength_capitals (cs : List Char) :
    hexLength (cs.map Char.toUpper) = hexLength cs := by
  rcases cs with _ | ⟨c, _ | ⟨x, cs⟩⟩
  · rfl
  · simp [hexLength]
  · by_cases hzero : c = '0'
    · subst hzero
      have hmark : (x.toUpper = 'x' ∨ x.toUpper = 'X') ↔ (x = 'x' ∨ x = 'X') :=
        toUpper_eq_or_iff (by decide)
      have hself : '0'.toUpper = '0' := rfl
      rw [List.map_cons, List.map_cons, hself, hexLength, hexLength,
        runLength_capitals isHexDigit_toUpper]
      simp only [hmark]
    · have hzero' : c.toUpper ≠ '0' := by
        rwa [Ne, toUpper_eq_iff (by decide)]
      simp [hexLength, hzero, hzero']

theorem numberShape_capitals (cs : List Char) :
    numberShape (cs.map Char.toUpper) = numberShape cs := by
  simp only [numberShape, hexLength_capitals, runLength_capitals isDigit_toUpper, ← List.map_drop,
    fractionLength_capitals, exponentLength_capitals]

/-- The operators of two characters. -/
def pairedOperators : List (List Char) :=
  [['-', '>'], ['|', '|'], ['<', '='], ['<', '>'], ['<', '<'], ['>', '='], ['>', '>'],
    ['!', '='], ['=', '=']]

/-- The longest operator at the start counts. -/
theorem operatorTail_eq (c : Char) (rest : List Char) :
    operatorTail c rest =
      if ['-', '>', '>'].isPrefixOf (c :: rest) then some 2
      else if pairedOperators.any (·.isPrefixOf (c :: rest)) then some 1
      else if "+-*/%<>=&|~".toList.contains c then some 0
      else none := by
  unfold operatorTail
  split
  case h_2 tail hne =>
    have hlong : ['-', '>', '>'].isPrefixOf ('-' :: '>' :: tail) = false := by
      cases tail with
      | nil => rfl
      | cons d tail =>
        have hd : d ≠ '>' := fun hd => hne tail (by rw [hd])
        simpa [List.isPrefixOf] using Ne.symm hd
    rw [hlong]
    rfl
  case h_11 =>
    have hlong : ['-', '>', '>'].isPrefixOf (c :: rest) = false := by
      rw [Bool.eq_false_iff, Ne, List.isPrefixOf_iff_prefix]
      rintro ⟨tail, htail⟩
      obtain ⟨rfl, rfl⟩ := List.cons.inj htail
      simp_all
    have hpaired : pairedOperators.any (·.isPrefixOf (c :: rest)) = false := by
      rw [Bool.eq_false_iff, Ne, List.any_eq_true]
      rintro ⟨op, hop, hprefix⟩
      obtain ⟨tail, htail⟩ := List.isPrefixOf_iff_prefix.1 hprefix
      simp only [pairedOperators, List.mem_cons, List.not_mem_nil, or_false] at hop
      casesm* _ ∨ _ <;> (subst op; obtain ⟨rfl, rfl⟩ := List.cons.inj htail; simp_all)
    rw [hlong, hpaired]
    rfl
  all_goals rfl

theorem isPrefixOf_capitals {marks : List Char} (hmarks : marks.any Char.isAlpha = false)
    (cs : List Char) : marks.isPrefixOf (cs.map Char.toUpper) = marks.isPrefixOf cs := by
  induction marks generalizing cs with
  | nil => simp
  | cons mark marks ih =>
    obtain ⟨hmark, hmarks⟩ := Bool.or_eq_false_iff.1 hmarks
    cases cs with
    | nil => rfl
    | cons c cs =>
      have hc : (mark == c.toUpper) = (mark == c) := by
        rw [Bool.eq_iff_iff, beq_iff_eq, beq_iff_eq, eq_comm, toUpper_eq_iff hmark, eq_comm]
      rw [List.map_cons, List.isPrefixOf_cons_cons, List.isPrefixOf_cons_cons, hc, ih hmarks]

theorem operatorTail_capitals (c : Char) (rest : List Char) :
    operatorTail c.toUpper (rest.map Char.toUpper) = operatorTail c rest := by
  have hmarks : ∀ op ∈ pairedOperators, op.any Char.isAlpha = false := by decide
  have hlong : ['-', '>', '>'].isPrefixOf ((c :: rest).map Char.toUpper) =
      ['-', '>', '>'].isPrefixOf (c :: rest) :=
    isPrefixOf_capitals (by decide) (c :: rest)
  have hpaired : pairedOperators.any (·.isPrefixOf ((c :: rest).map Char.toUpper)) =
      pairedOperators.any (·.isPrefixOf (c :: rest)) := by
    rw [Bool.eq_iff_iff, List.any_eq_true, List.any_eq_true]
    exact exists_congr fun op => and_congr_right fun hop => by
      rw [isPrefixOf_capitals (hmarks op hop)]
  have hsingle : "+-*/%<>=&|~".toList.contains c.toUpper = "+-*/%<>=&|~".toList.contains c :=
    apply_toUpper (by decide) c
  rw [operatorTail_eq, operatorTail_eq, ← List.map_cons, hlong, hpaired, hsingle]

/-! ## Texts and tokens -/

theorem toList_toUpper (s : String) : s.toUpper.toList = s.toList.map Char.toUpper :=
  String.toList_map

theorem ofList_capitals (cs : List Char) :
    String.ofList (cs.map Char.toUpper) = (String.ofList cs).toUpper := by
  rw [← String.toList_inj, toList_toUpper, String.toList_ofList, String.toList_ofList]

@[simp] theorem text_toUpper_toUpper (s : String) : s.toUpper.toUpper = s.toUpper := by
  rw [← String.toList_inj, toList_toUpper, toList_toUpper, List.map_map]
  exact congrArg (List.map · s.toList) (funext Sql.toUpper_toUpper)

/-- The token as it is written in capitals. -/
def Token.inCapitals (t : Token) : Token :=
  ⟨t.kind, t.text.toUpper⟩

/-- The fault at the same place of the text in capitals. -/
def Error.inCapitals : Error → Error
  | unexpectedCharacter c offset => unexpectedCharacter c.toUpper offset
  | unknownStatement head => unknownStatement head.toUpper
  | missingOperand token index => missingOperand token.toUpper index
  | e => e

/-- An answer carried over to the text in capitals. -/
def answerInCapitals {α β : Type} (f : α → β) : Except Error α → Except Error β
  | .ok a => .ok (f a)
  | .error e => .error e.inCapitals

/-! ## Scanning -/

theorem scanQuoted_capitals (offset : ℕ) {close : Char} (hclose : close.isAlpha = false)
    (what : Enclosed) (kind : TokenKind) (rest : List Char) :
    scanQuoted offset close what kind (rest.map Char.toUpper) =
      answerInCapitals id (scanQuoted offset close what kind rest) := by
  rw [scanQuoted, scanQuoted, quotedLength_capitals hclose]
  cases quotedLength close rest <;> rfl

theorem scanBlob_capitals (offset : ℕ) (rest : List Char) :
    scanBlob offset (rest.map Char.toUpper) = answerInCapitals id (scanBlob offset rest) := by
  rw [scanBlob, scanBlob, ← List.map_drop, quotedLength_capitals (by decide)]
  cases quotedLength '\'' (rest.drop 1) with
  | none => rfl
  | some n =>
    have hcomp : Text.isHexDigit ∘ Char.toUpper = Text.isHexDigit := funext isHexDigit_toUpper
    dsimp only
    rw [← List.map_take, List.length_map, List.all_map, hcomp]
    split_ifs <;> rfl

theorem scanNumber_capitals (offset : ℕ) (c : Char) (rest : List Char) :
    scanNumber offset c.toUpper (rest.map Char.toUpper) =
      answerInCapitals id (scanNumber offset c rest) := by
  rw [scanNumber, scanNumber, ← List.map_cons, numberShape_capitals]
  cases numberShape (c :: rest) with
  | mk kind length =>
    dsimp only
    rw [← List.map_drop]
    cases (c :: rest).drop length with
    | nil => rfl
    | cons d after =>
      have hscore : (d.toUpper == '_') = (d == '_') :=
        apply_toUpper (f := (· == '_')) (by decide) d
      rw [List.map_cons]
      dsimp only
      rw [isAlphanumeric_toUpper, hscore]
      split_ifs <;> rfl

theorem scanWord_capitals (c : Char) (rest : List Char) :
    scanWord c.toUpper (rest.map Char.toUpper) = scanWord c rest := by
  rw [scanWord, scanWord, runLength_capitals isWordChar_toUpper, ← List.map_take,
    ← List.map_cons, ofList_capitals, isKeyword, text_toUpper_toUpper]
  rfl

theorem scanOperator_capitals (offset : ℕ) (c : Char) (rest : List Char) :
    scanOperator offset c.toUpper (rest.map Char.toUpper) =
      answerInCapitals id (scanOperator offset c rest) := by
  rw [scanOperator, scanOperator, operatorTail_capitals]
  cases operatorTail c rest <;> rfl

theorem scanMark_capitals (offset : ℕ) (c : Char) (rest : List Char) :
    scanMark offset c.toUpper (rest.map Char.toUpper) =
      answerInCapitals id (scanMark offset c rest) := by
  fun_cases scanMark offset c rest
  case case6 h1 h2 h3 h4 h5 =>
    rw [scanMark, scanOperator_capitals]
    all_goals
      rw [toUpper_eq_iff (by decide)]
      assumption
  all_goals rfl

/-- No condition on the first two characters tells a small letter from its capital. -/
theorem formOf_capitals (c : Char) (cs : List Char) :
    formOf c.toUpper (cs.map Char.toUpper).head? = formOf c cs.head? := by
  have hany {p : Char → Bool} (hp : ∀ c, p c.toUpper = p c) :
      (cs.map Char.toUpper).head?.any p ↔ cs.head?.any p := by
    cases cs <;> simp [hp]
  unfold formOf
  exact if_congr (by rw [isBlank_toUpper]) rfl <|
    if_congr (and_congr (toUpper_eq_iff rfl) (head?_capitals rfl)) rfl <|
    if_congr (and_congr (toUpper_eq_iff rfl) (head?_capitals rfl)) rfl <|
    if_congr (toUpper_eq_iff rfl) rfl <|
    if_congr (and_congr (toUpper_eq_or_iff (by decide)) (head?_capitals rfl)) rfl <|
    if_congr (or_congr (toUpper_eq_iff rfl) (toUpper_eq_iff rfl)) rfl <|
    if_congr (toUpper_eq_iff rfl) rfl <|
    if_congr (or_congr (by rw [isDigit_toUpper])
      (and_congr (toUpper_eq_iff rfl) (hany isDigit_toUpper))) rfl <|
    if_congr (toUpper_eq_iff rfl) rfl <|
    if_congr (and_congr (or_congr (toUpper_eq_iff rfl)
      (or_congr (toUpper_eq_iff rfl) (toUpper_eq_iff rfl))) (hany isWordChar_toUpper)) rfl <|
    if_congr (or_congr (by rw [isAlphabetic_toUpper]) (toUpper_eq_iff rfl)) rfl rfl

theorem scan_capitals (offset : ℕ) (c : Char) (rest : List Char) :
    scan offset c.toUpper (rest.map Char.toUpper) = answerInCapitals id (scan offset c rest) := by
  have hline (d : Char) : (d.toUpper != '\n') = (d != '\n') :=
    apply_toUpper (f := (· != '\n')) (by decide) d
  have hbegins := begins_formOf c rest.head?
  rw [scan_eq_scanAs, scan_eq_scanAs, formOf_capitals]
  generalize formOf c rest.head? = f at hbegins
  cases f with
  | blanks =>
    rw [scanAs, runLength_capitals isBlank_toUpper]
    rfl
  | lineComment =>
    rw [scanAs, runLength_capitals hline]
    rfl
  | blockComment =>
    rw [scanAs, scanAs, ← List.map_drop, blockCommentLength_capitals]
    cases blockCommentLength (rest.drop 1) <;> rfl
  | string => exact scanQuoted_capitals offset rfl .string .string rest
  | blob => exact scanBlob_capitals offset rest
  | quoted =>
    have hclose : c.isAlpha = false := by
      rcases hbegins with rfl | rfl <;> rfl
    rw [(toUpper_eq_iff hclose).2 rfl]
    exact scanQuoted_capitals offset hclose .identifier .quotedIdentifier rest
  | bracketed => exact scanQuoted_capitals offset rfl .identifier .quotedIdentifier rest
  | number => exact scanNumber_capitals offset c rest
  | numbered =>
    rw [scanAs, runLength_capitals isDigit_toUpper]
    rfl
  | named =>
    rw [scanAs, runLength_capitals isWordChar_toUpper]
    rfl
  | word =>
    rw [scanAs, scanWord_capitals]
    rfl
  | mark => exact scanMark_capitals offset c rest

/-- A text in capitals is cut at the same places into the same kinds of tokens, or it is at fault
at the same place. -/
theorem tokenizeFrom_capitals (offset : ℕ) (cs : List Char) :
    tokenizeFrom offset (cs.map Char.toUpper) =
      answerInCapitals (List.map Token.inCapitals) (tokenizeFrom offset cs) := by
  have hlexeme (n : ℕ) (c : Char) (rest : List Char) :
      c.toUpper :: (rest.map Char.toUpper).take n = (c :: rest.take n).map Char.toUpper := by
    rw [← List.map_take, List.map_cons]
  induction offset, cs using tokenizeFrom.induct with
  | case1 offset =>
    rw [List.map_nil, tokenizeFrom]
    rfl
  | case2 offset c rest e hscan =>
    rw [List.map_cons, tokenizeFrom, tokenizeFrom, scan_capitals, hscan]
    rfl
  | case3 offset c rest kind n hscan lexeme e hmore ih =>
    rw [List.map_cons, tokenizeFrom, tokenizeFrom, scan_capitals, hscan]
    simp only [answerInCapitals, id, hlexeme, utf8Length_capitals, ← List.map_drop]
    rw [ih, hmore]
    rfl
  | case4 offset c rest kind n hscan lexeme tokens hmore ih =>
    rw [List.map_cons, tokenizeFrom, tokenizeFrom, scan_capitals, hscan]
    simp only [answerInCapitals, id, hlexeme, utf8Length_capitals, ← List.map_drop]
    rw [ih, hmore, ofList_capitals]
    rfl

end Sql
end QueryFuzz
