import QueryFuzz.Grammar.Literal
import QueryFuzz.Proofs.Decimal.Printing
import QueryFuzz.Proofs.Draw.Yields
import QueryFuzz.Proofs.Sql.Composition

/-!
# The tokens of literals

Every literal that is drawn is one token or a number with a minus sign in front, and an order is a
list of positions. The tokens are found wherever the text stands.
-/

namespace QueryFuzz
namespace Grammar

open Sql Draw
open Decimal (isDigit_toDigits)

def minus : Token := ⟨.operator, "-"⟩

/-- One literal, or a number with a minus sign in front. -/
def isLiteralTokens : List Token → Bool
  | [t] => t.isLiteral
  | [sign, t] => sign == minus && (t.kind == .integer || t.kind == .float)
  | _ => false

/-- The text is a literal wherever it stands. -/
def IsLiteralText (text : String) : Prop :=
  ∃ ts, Spells text ts ∧ isLiteralTokens ts

theorem isLiteralText_of_fixed {text : String}
    (h : (fixedTokens? (fun _ => true) text).any isLiteralTokens) : IsLiteralText text := by
  obtain ⟨ts, hts, hliteral⟩ := (Option.any_eq_true _ _).1 h
  exact ⟨ts, spells_of_fixedTokens? hts, hliteral⟩

theorem isLiteralText_of_lexeme {t : Token} (h : t.IsLexeme) (hliteral : t.isLiteral) :
    IsLiteralText t.text :=
  ⟨[t], h.spells, hliteral⟩

/-! ## Boundary literals -/

theorem isLiteralText_boundaryLiterals (type : ColumnType) :
    ∀ text ∈ boundaryLiterals type, IsLiteralText text := by
  have hall : (boundaryLiterals type).all fun text =>
      (fixedTokens? (fun _ => true) text).any isLiteralTokens := by
    cases type <;> decide +kernel
  exact fun text htext => isLiteralText_of_fixed (List.all_eq_true.1 hall text htext)

theorem isLiteralText_null : IsLiteralText "NULL" :=
  isLiteralText_of_fixed (by decide +kernel)

theorem yields_boundaryLiteral (type : ColumnType) :
    (boundaryLiteral type).Yields IsLiteralText := by
  refine (Sampling.yields_choose _ _).bind fun a ha => ?_
  rcases ha with ⟨text, htext, rfl⟩ | ⟨-, rfl⟩
  · exact Sampling.yields_pure (isLiteralText_boundaryLiterals type text htext)
  · exact Sampling.yields_pure isLiteralText_null

/-! ## Numbers -/

theorem toList_toString (n : ℕ) : (toString n).toList = Nat.toDigits 10 n :=
  Nat.toList_repr

def wholeNumber (n : ℕ) : Token := ⟨.integer, toString n⟩

theorem isLexeme_wholeNumber (n : ℕ) : (wholeNumber n).IsLexeme := by
  rw [Token.IsLexeme, wholeNumber, toList_toString]
  exact .numeral (.decimal Nat.toDigits_ne_nil (isDigit_toDigits n))

/-- A minus sign stands directly in front of a number. -/
theorem spells_minus {t : Token} (h : t.IsLexeme) (hdigit : t.text.toList.head?.any Char.isDigit) :
    Spells ("-" ++ t.text) [minus, t] := by
  constructor
  intro after rest hafter hrest
  have hnumber := h.spells.reads after rest hafter hrest
  have hminus : Lexeme minus.kind minus.text.toList := .operator (by decide)
  rw [String.toList_append, List.append_assoc]
  apply hnumber.token hminus
  intro c hc
  obtain ⟨d, ds, hds⟩ := List.exists_cons_of_ne_nil (Lexeme.ne_nil h)
  obtain rfl : d = c := by simpa [hds] using hc
  have hd : d.isDigit := by simpa [hds] using hdigit
  simp [Token.endedBy, endedBy, minus, hd]

/-- A number, with a minus sign in front if it is negative. -/
def signedTokens (negative : Bool) (t : Token) : List Token :=
  if negative then [minus, t] else [t]

theorem spells_signed {t : Token} (negative : Bool) (h : t.IsLexeme)
    (hdigit : t.text.toList.head?.any Char.isDigit) :
    Spells ((if negative then "-" else "") ++ t.text) (signedTokens negative t) := by
  cases negative with
  | false => simpa [signedTokens] using h.spells
  | true => exact spells_minus h hdigit

theorem isLiteralTokens_signed {t : Token} (negative : Bool)
    (h : t.kind = .integer ∨ t.kind = .float) : isLiteralTokens (signedTokens negative t) := by
  cases negative <;> rcases h with h | h <;>
    simp [signedTokens, isLiteralTokens, Token.isLiteral, h]

theorem head?_toDigits (n : ℕ) : (Nat.toDigits 10 n).head?.any Char.isDigit := by
  obtain ⟨d, ds, hds⟩ := List.exists_cons_of_ne_nil (@Nat.toDigits_ne_nil n 10)
  have hd := isDigit_toDigits n d (by simp [hds])
  simp [hds, hd]

def integerTokens (n : ℤ) : List Token :=
  signedTokens (n < 0) (wholeNumber n.natAbs)

theorem toString_eq_signed (n : ℤ) :
    toString n = (if n < 0 then "-" else "") ++ toString n.natAbs := by
  rw [Int.toString_eq_repr, Int.repr_eq_if]
  by_cases h : 0 ≤ n
  · have hnat : n.toNat = n.natAbs := by omega
    rw [if_pos h, if_neg (by omega), hnat, String.empty_append]
    rfl
  · have hnat : (-n).toNat = n.natAbs := by omega
    rw [if_neg h, if_pos (by omega), hnat]
    rfl

theorem spells_integer (n : ℤ) : Spells (toString n) (integerTokens n) := by
  have hdigit : (wholeNumber n.natAbs).text.toList.head?.any Char.isDigit := by
    rw [wholeNumber, toList_toString]
    exact head?_toDigits n.natAbs
  have h := spells_signed (decide (n < 0)) (isLexeme_wholeNumber n.natAbs) hdigit
  rw [toString_eq_signed]
  simpa [integerTokens, wholeNumber] using h

theorem isLiteralText_integer (n : ℤ) : IsLiteralText (toString n) :=
  ⟨integerTokens n, spells_integer n, isLiteralTokens_signed _ (.inl rfl)⟩

/-- A number with two places behind the point. -/
def decimalNumber (n : ℕ) : Token :=
  ⟨.float, toString (n / 100) ++ "." ++
    (if n % 100 < 10 then "0" ++ toString (n % 100) else toString (n % 100))⟩

theorem isLexeme_decimalNumber (n : ℕ) : (decimalNumber n).IsLexeme := by
  have htext : (decimalNumber n).text.toList = Nat.toDigits 10 (n / 100) ++
      ('.' :: (if n % 100 < 10 then ['0'] else []) ++ Nat.toDigits 10 (n % 100)) ++ [] := by
    unfold decimalNumber
    dsimp only
    split_ifs <;> simp
  rw [Token.IsLexeme, htext]
  refine .numeral (.float (isDigit_toDigits _) (.point fun d hd => ?_) .none (.inl (by simp)) ?_)
  · rcases List.mem_append.1 hd with hd | hd
    · split_ifs at hd with hsmall
      · obtain rfl := List.mem_singleton.1 hd
        decide
      · simp at hd
    · exact isDigit_toDigits _ d hd
  · rw [List.append_nil]
    refine startsNumber_append ?_ _
    obtain ⟨d, ds, hds⟩ := List.exists_cons_of_ne_nil (@Nat.toDigits_ne_nil (n / 100) 10)
    have hd := isDigit_toDigits (n / 100) d (by simp [hds])
    simp [hds, startsNumber, hd]

theorem isLiteralText_hundredths (n : ℤ) : IsLiteralText (hundredths n) := by
  have hdigit : (decimalNumber n.natAbs).text.toList.head?.any Char.isDigit := by
    obtain ⟨d, ds, hds⟩ := List.exists_cons_of_ne_nil (@Nat.toDigits_ne_nil (n.natAbs / 100) 10)
    have hd := isDigit_toDigits (n.natAbs / 100) d (by simp [hds])
    simp [decimalNumber, hds, hd]
  have h := spells_signed (decide (n < 0)) (isLexeme_decimalNumber n.natAbs) hdigit
  have hkind : (decimalNumber n.natAbs).kind = .integer ∨ (decimalNumber n.natAbs).kind = .float :=
    .inr rfl
  refine ⟨_, ?_, isLiteralTokens_signed (decide (n < 0)) hkind⟩
  simpa [hundredths, decimalNumber, String.append_assoc] using h

/-! ## Texts and blobs -/

theorem isLiteralText_word : ∀ word ∈ "a" :: sampleWords, IsLiteralText ("'" ++ word ++ "'") := by
  have hall : ("a" :: sampleWords).all fun word =>
      (fixedTokens? (fun _ => true) ("'" ++ word ++ "'")).any isLiteralTokens := by
    decide +kernel
  exact fun word hword => isLiteralText_of_fixed (List.all_eq_true.1 hall word hword)

/-- Pairs of hexadecimal digits. -/
def IsHexText (text : String) : Prop :=
  text.toList.length % 2 = 0 ∧ ∀ c ∈ text.toList, Text.isHexDigit c

theorem isHexDigit_digitChar {d : ℕ} (h : d < 16) : Text.isHexDigit d.digitChar.toUpper := by
  have hall : (List.range 16).all fun d => Text.isHexDigit d.digitChar.toUpper := by decide
  exact List.all_eq_true.1 hall d (List.mem_range.2 h)

/-- Two digits, the first of them zero for a small number. -/
theorem toList_byteText {n : ℕ} (h : n < 256) :
    (byteText n).toList = [(n / 16).digitChar.toUpper, (n % 16).digitChar.toUpper] := by
  unfold byteText
  dsimp only
  by_cases hsmall : n < 16
  · have hzero : n / 16 = 0 := by omega
    have hsame : n % 16 = n := by omega
    rw [if_pos hsmall, Nat.toDigits_of_lt_base hsmall, String.toList_ofList, hzero, hsame]
    rfl
  · have hhigh : n / 16 < 16 := by omega
    rw [if_neg hsmall, Nat.toDigits_of_base_le (by decide) (by omega),
      Nat.toDigits_of_lt_base hhigh, String.toList_ofList]
    rfl

theorem isHexText_byteText {n : ℕ} (h : n < 256) : IsHexText (byteText n) := by
  have hhigh : n / 16 < 16 := by omega
  have hlow : n % 16 < 16 := by omega
  rw [IsHexText, toList_byteText h]
  simp [isHexDigit_digitChar hhigh, isHexDigit_digitChar hlow]

theorem yields_repeatedText {program : Sampling String} (h : program.Yields IsHexText) (n : ℕ) :
    (repeatedText program n).Yields IsHexText := by
  induction n with
  | zero => exact Sampling.yields_pure ⟨rfl, by simp⟩
  | succ n ih =>
    refine h.bind fun first hfirst => ih.bind fun others hothers => Sampling.yields_pure ?_
    refine ⟨?_, fun c hc => ?_⟩
    · rw [String.toList_append, List.length_append]
      have := hfirst.1
      have := hothers.1
      omega
    · rw [String.toList_append] at hc
      rcases List.mem_append.1 hc with hc | hc
      · exact hfirst.2 c hc
      · exact hothers.2 c hc

theorem isLiteralText_blob {digits : String} (h : IsHexText digits) :
    IsLiteralText ("x'" ++ digits ++ "'") := by
  have hlexeme : Token.IsLexeme ⟨.blob, "x'" ++ digits ++ "'"⟩ := by
    have htext : ("x'" ++ digits ++ "'").toList = 'x' :: '\'' :: (digits.toList ++ ['\'']) := by
      simp
    rw [Token.IsLexeme, htext]
    exact .blob (.inl rfl) h.2 h.1
  exact isLiteralText_of_lexeme hlexeme rfl

theorem yields_ordinaryLiteral (type : ColumnType) :
    (ordinaryLiteral type).Yields IsLiteralText := by
  cases type with
  | integer =>
    rw [ordinaryLiteral]
    exact (Sampling.yields_true _).bind fun n _ => Sampling.yields_pure (isLiteralText_integer n)
  | real =>
    rw [ordinaryLiteral]
    exact (Sampling.yields_true _).bind fun n _ => Sampling.yields_pure (isLiteralText_hundredths n)
  | text =>
    rw [ordinaryLiteral]
    refine (Sampling.yields_choose _ _).bind fun a ha => Sampling.yields_pure ?_
    rcases ha with ⟨word, hword, rfl⟩ | ⟨-, rfl⟩
    · exact isLiteralText_word word (List.mem_cons_of_mem _ hword)
    · exact isLiteralText_word "a" List.mem_cons_self
  | blob =>
    rw [ordinaryLiteral]
    have hbyte : (byteText <$> Sampling.index "literal.blob-byte" 256).Yields IsHexText := by
      refine Sampling.Yields.map ?_
      refine (Sampling.yields_index _ _).mono fun n hn => isHexText_byteText ?_
      omega
    refine (Sampling.yields_true _).bind fun length _ => ?_
    exact (yields_repeatedText hbyte _).bind fun digits hdigits =>
      Sampling.yields_pure (isLiteralText_blob hdigits)

end Grammar
end QueryFuzz
