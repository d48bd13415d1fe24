import QueryFuzz.Proofs.Sql.Spelling

/-!
# The forms of tokens

The scanner tells from the first character of a token and the one behind it how to go on. Its
decision is kept apart from what it does then, so a fact about the scanner takes one case for each
form. Tokens of a form begin with certain characters, and these decide on the form.
-/

namespace QueryFuzz
namespace Sql

/-! ## Decisions -/

/-- What the first character of a token and the one behind it tell. -/
inductive Form where
  | blanks
  | lineComment
  | blockComment
  | string
  | blob
  | quoted
  | bracketed
  | number
  | numbered
  | named
  | word
  | mark
  deriving DecidableEq

def formOf (c : Char) (next : Option Char) : Form :=
  if Text.isBlank c then .blanks
  else if c = '-' ∧ next = some '-' then .lineComment
  else if c = '/' ∧ next = some '*' then .blockComment
  else if c = '\'' then .string
  else if (c = 'x' ∨ c = 'X') ∧ next = some '\'' then .blob
  else if c = '"' ∨ c = '\x60' then .quoted
  else if c = '[' then .bracketed
  else if c.isDigit ∨ c = '.' ∧ next.any Char.isDigit then .number
  else if c = '?' then .numbered
  else if (c = ':' ∨ c = '@' ∨ c = '$') ∧ next.any isWordChar then .named
  else if Text.isAlphabetic c ∨ c = '_' then .word
  else .mark

/-- What the scanner does with a character that begins no blank, comment, text between marks,
number, parameter or word. -/
def scanMark (offset : ℕ) (c : Char) (rest : List Char) : Except Error (TokenKind × ℕ) :=
  match c with
  | '(' => .ok (.leftParen, 0)
  | ')' => .ok (.rightParen, 0)
  | ',' => .ok (.comma, 0)
  | ';' => .ok (.semicolon, 0)
  | '.' => .ok (.dot, 0)
  | c => scanOperator offset c rest

/-- What the scanner does with a token of a form. -/
def scanAs (offset : ℕ) (c : Char) (rest : List Char) : Form → Except Error (TokenKind × ℕ)
  | .blanks => .ok (.whitespace, runLength Text.isBlank rest)
  | .lineComment => .ok (.comment, runLength (· != '\n') rest)
  | .blockComment =>
    match blockCommentLength (rest.drop 1) with
    | none => .error (.unterminated .comment offset)
    | some n => .ok (.comment, n + 1)
  | .string => scanQuoted offset '\'' .string .string rest
  | .blob => scanBlob offset rest
  | .quoted => scanQuoted offset c .identifier .quotedIdentifier rest
  | .bracketed => scanQuoted offset ']' .identifier .quotedIdentifier rest
  | .number => scanNumber offset c rest
  | .numbered => .ok (.parameter, runLength Char.isDigit rest)
  | .named => .ok (.parameter, runLength isWordChar rest)
  | .word => .ok (scanWord c rest)
  | .mark => scanMark offset c rest

theorem scan_eq_scanAs (offset : ℕ) (c : Char) (rest : List Char) :
    scan offset c rest = scanAs offset c rest (formOf c rest.head?) := by
  rw [formOf]
  simp only [apply_ite (scanAs offset c rest)]
  rfl

/-! ## Beginnings -/

/-- Can a bare word begin with the character? -/
def startsWord (c : Char) : Bool :=
  !Text.isBlank c && (Text.isAlphabetic c || c == '_')

/-- Tokens of the form begin with these two characters. -/
def Form.Begins (c : Char) (next : Option Char) : Form → Prop
  | .blanks => Text.isBlank c
  | .lineComment => c = '-' ∧ next = some '-'
  | .blockComment => c = '/' ∧ next = some '*'
  | .string => c = '\''
  | .blob => (c = 'x' ∨ c = 'X') ∧ next = some '\''
  | .quoted => c = '"' ∨ c = '\x60'
  | .bracketed => c = '['
  | .number => c.isDigit ∨ c = '.' ∧ next.any Char.isDigit
  | .numbered => c = '?'
  | .named => (c = ':' ∨ c = '@' ∨ c = '$') ∧ next.any isWordChar
  | .word => startsWord c ∧ ¬((c = 'x' ∨ c = 'X') ∧ next = some '\'')
  | .mark => Text.isBlank c = false ∧ Text.isAlphabetic c = false ∧ c.isDigit = false ∧
      c ∉ ['\'', '"', '\x60', '[', '?', '_'] ∧ ¬(c = '-' ∧ next = some '-') ∧
      ¬(c = '/' ∧ next = some '*') ∧ ¬(c = '.' ∧ next.any Char.isDigit) ∧
      ¬((c = ':' ∨ c = '@' ∨ c = '$') ∧ next.any isWordChar)

theorem begins_ite {c : Char} {next : Option Char} {p : Prop} [Decidable p] {f g : Form}
    (hf : p → f.Begins c next) (hg : ¬p → g.Begins c next) :
    (if p then f else g).Begins c next := by
  by_cases h : p
  · rw [if_pos h]
    exact hf h
  · rw [if_neg h]
    exact hg h

theorem begins_formOf (c : Char) (next : Option Char) : (formOf c next).Begins c next := by
  unfold formOf
  -- Every condition is that of its form, but those of the last two forms say more.
  refine begins_ite id fun hblank => begins_ite id fun hline => begins_ite id fun hblock =>
    begins_ite id fun hstring => begins_ite id fun hblob => begins_ite id fun hquoted =>
    begins_ite id fun hbracket => begins_ite id fun hnumber => begins_ite id fun hnumbered =>
    begins_ite id fun hnamed => begins_ite (fun hword => ?_) fun hword => ?_
  · exact ⟨by simpa [startsWord, hblank] using hword, hblob⟩
  · simp only [not_or] at hquoted hnumber hword
    refine ⟨by simpa using hblank, by simpa using hword.1, by simpa using hnumber.1, ?_, hline,
      hblock, hnumber.2, hnamed⟩
    simp [hstring, hquoted, hbracket, hnumbered, hword.2]

theorem isDigit_of_startsWord {c : Char} (h : startsWord c) : c.isDigit = false := by
  by_contra hdigit
  have hnone : ['0', '1', '2', '3', '4', '5', '6', '7', '8', '9'].all (!startsWord ·) := by
    decide
  have hc := List.all_eq_true.1 hnone c (digit_cases (by simpa using hdigit))
  simp [h] at hc

theorem notMem_of_startsWord {c : Char} (h : startsWord c) :
    c ∉ ['-', '/', '\'', '"', '\x60', '[', '.', '?', ':', '@', '$'] := by
  intro hmem
  have hnone : ['-', '/', '\'', '"', '\x60', '[', '.', '?', ':', '@', '$'].all
      (!startsWord ·) := by
    decide
  have hc := List.all_eq_true.1 hnone c hmem
  simp [h] at hc

theorem mem_of_begins_number {c : Char} {next : Option Char} (h : Form.number.Begins c next) :
    c ∈ ['.', '0', '1', '2', '3', '4', '5', '6', '7', '8', '9'] := by
  obtain hdigit | ⟨rfl, -⟩ : c.isDigit ∨ c = '.' ∧ next.any Char.isDigit := h
  · exact List.mem_cons_of_mem _ (digit_cases hdigit)
  · exact List.mem_cons_self

/-- The two characters decide on the form, so none of them begins tokens of two forms. -/
theorem formOf_of_begins {f : Form} {c : Char} {next : Option Char} (h : f.Begins c next) :
    formOf c next = f := by
  cases f with
  | blanks => exact if_pos h
  | lineComment =>
    obtain ⟨rfl, rfl⟩ := h
    rfl
  | blockComment =>
    obtain ⟨rfl, rfl⟩ := h
    rfl
  | string =>
    obtain rfl : c = '\'' := h
    rfl
  | blob =>
    obtain ⟨rfl | rfl, rfl⟩ := h
    · rfl
    · rfl
  | quoted =>
    obtain rfl | rfl : c = '"' ∨ c = '\x60' := h
    · rfl
    · rfl
  | bracketed =>
    obtain rfl : c = '[' := h
    rfl
  | number =>
    have hnumber : c.isDigit ∨ c = '.' ∧ next.any Char.isDigit := h
    have hclear : ['.', '0', '1', '2', '3', '4', '5', '6', '7', '8', '9'].all fun d =>
        Text.isBlank d = false ∧ d ∉ ['-', '/', '\'', 'x', 'X', '"', '\x60', '['] := by
      decide
    obtain ⟨hblank, hnone⟩ :=
      of_decide_eq_true (List.all_eq_true.1 hclear c (mem_of_begins_number h))
    simp only [List.mem_cons, List.not_mem_nil, or_false, not_or] at hnone
    simp [formOf, hblank, hnone, hnumber]
  | numbered =>
    obtain rfl : c = '?' := h
    rfl
  | named =>
    have hnamed : (c = ':' ∨ c = '@' ∨ c = '$') ∧ next.any isWordChar := h
    have hclear : [':', '@', '$'].all fun d => Text.isBlank d = false ∧ d.isDigit = false ∧
        d ∉ ['-', '/', '\'', 'x', 'X', '"', '\x60', '[', '.', '?'] := by
      decide
    obtain ⟨hblank, hdigit, hnone⟩ :=
      of_decide_eq_true (List.all_eq_true.1 hclear c (by simpa using hnamed.1))
    simp only [List.mem_cons, List.not_mem_nil, or_false, not_or] at hnone
    simp [formOf, hblank, hdigit, hnone, hnamed]
  | word =>
    obtain ⟨hstart, hblob⟩ := h
    have hdigit := isDigit_of_startsWord hstart
    have hnone := notMem_of_startsWord hstart
    obtain ⟨hblank, hword⟩ : Text.isBlank c = false ∧ (Text.isAlphabetic c ∨ c = '_') := by
      simpa [startsWord] using hstart
    simp only [List.mem_cons, List.not_mem_nil, or_false, not_or] at hnone
    simp [formOf, hblank, hdigit, hnone, hword, hblob]
  | mark =>
    obtain ⟨hblank, halpha, hdigit, hnone, hline, hblock, hpoint, hnamed⟩ := h
    have hx : c ≠ 'x' ∧ c ≠ 'X' := by
      constructor <;> (rintro rfl; revert halpha; decide)
    simp only [List.mem_cons, List.not_mem_nil, or_false, not_or] at hnone
    simp [formOf, hblank, halpha, hdigit, hnone, hline, hblock, hpoint, hnamed, hx]

theorem formOf_eq_iff {f : Form} {c : Char} {next : Option Char} :
    formOf c next = f ↔ f.Begins c next := by
  constructor
  · rintro rfl
    exact begins_formOf c next
  · exact formOf_of_begins

theorem scan_of_begins {f : Form} {c : Char} {rest : List Char} (offset : ℕ)
    (h : f.Begins c rest.head?) : scan offset c rest = scanAs offset c rest f := by
  rw [scan_eq_scanAs, formOf_of_begins h]

end Sql
end QueryFuzz
