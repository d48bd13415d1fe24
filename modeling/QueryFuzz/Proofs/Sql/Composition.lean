import QueryFuzz.Proofs.Sql.Reading
import QueryFuzz.Sql.Name

/-!
# Texts put together from parts

A part of a text either leaves the reader between tokens, so that anything can follow it, or it
ends in a token that is ended by a space, a comma, a semicolon or a parenthesis. Parts of both
sorts can be joined, and the tokens of the whole are the tokens of the parts. Fixed parts are
checked by running the lexer on them.
-/

namespace QueryFuzz
namespace Sql

/-- Wherever it starts, the text consists of these tokens. -/
def Reads (cs : List Char) (ts : List Token) : Prop :=
  ∀ offset, readFrom offset cs = .ok ts

theorem reads_nil : Reads [] [] :=
  readFrom_nil

theorem Reads.token {t : Token} {after : List Char} {ts : List Token} (ht : t.IsLexeme)
    (hafter : ∀ c ∈ after.head?, t.endedBy c) (h : Reads after ts) :
    Reads (t.text.toList ++ after) (t :: ts) := by
  intro offset
  rw [readFrom_token offset ht hafter, h]
  rfl

theorem Reads.blank {b : Char} (hb : Text.isBlank b) {after : List Char} {ts : List Token}
    (h : Reads after ts) : Reads (b :: after) ts := by
  intro offset
  rw [readFrom_cons_blank offset hb, h]

theorem Reads.blanks {blanks after : List Char} {ts : List Token} (h : Reads after ts)
    (hblanks : ∀ c ∈ blanks, Text.isBlank c) : Reads (blanks ++ after) ts := by
  induction blanks with
  | nil => exact h
  | cons c blanks ih =>
    exact (ih fun d hd => hblanks d (by simp [hd])).blank (hblanks c (by simp))

/-! ## Parts of a text -/

/-- The characters that end every lexeme; a point would continue a number. -/
def isBreak (c : Char) : Bool :=
  [' ', ',', ')', ';', '('].contains c

theorem endedBy_of_isBreak {c : Char} (h : isBreak c) (t : Token) : t.endedBy c := by
  have hcases : c = ' ' ∨ c = ',' ∨ c = ')' ∨ c = ';' ∨ c = '(' := by simpa [isBreak] using h
  have hstop : isStop c := by
    rcases hcases with rfl | rfl | rfl | rfl | rfl <;> decide
  have hpoint : c ≠ '.' := by
    rcases hcases with rfl | rfl | rfl | rfl | rfl <;> decide
  have hdigit := isDigit_of_isStop hstop
  cases hk : t.kind <;> simp [Token.endedBy, endedBy, hk, hstop, hpoint, hdigit]

/-- The part consists of these tokens and leaves the reader between tokens. -/
structure Opens (text : String) (ts : List Token) : Prop where
  reads : ∀ after rest, Reads after rest → Reads (text.toList ++ after) (ts ++ rest)

/-- The part consists of these tokens, and what breaks ends it. -/
structure Spells (text : String) (ts : List Token) : Prop where
  reads : ∀ after rest, (∀ c ∈ after.head?, isBreak c) → Reads after rest →
    Reads (text.toList ++ after) (ts ++ rest)

theorem Spells.significantTokens {text : String} {ts : List Token} (h : Spells text ts) :
    significantTokens text = .ok ts := by
  have hread := h.reads [] [] (by simp) reads_nil 0
  simpa [significantTokens_eq] using hread

theorem Opens.spells {text : String} {ts : List Token} (h : Opens text ts) : Spells text ts :=
  ⟨fun after rest _ => h.reads after rest⟩

theorem Token.IsLexeme.spells {t : Token} (h : t.IsLexeme) : Spells t.text [t] :=
  ⟨fun _ _ hafter hrest => hrest.token h fun c hc => endedBy_of_isBreak (hafter c hc) t⟩

theorem opens_empty : Opens "" [] :=
  ⟨fun _ _ h => h⟩

theorem Opens.append_spells {a b : String} {ts us : List Token} (ha : Opens a ts)
    (hb : Spells b us) : Spells (a ++ b) (ts ++ us) := by
  constructor
  intro after rest hafter hrest
  rw [String.toList_append, List.append_assoc, List.append_assoc]
  exact ha.reads _ _ (hb.reads _ _ hafter hrest)

/-- Does the text begin with a character that ends every lexeme? -/
def beginsWithBreak (text : String) : Bool :=
  text.toList.head?.any isBreak

theorem head?_of_beginsWithBreak {text : String} (h : beginsWithBreak text) (after : List Char) :
    ∀ c ∈ (text.toList ++ after).head?, isBreak c := by
  intro c hc
  unfold beginsWithBreak at h
  cases htext : text.toList with
  | nil => simp [htext] at h
  | cons d cs =>
    obtain rfl : d = c := by simpa [htext] using hc
    simpa [htext] using h

theorem Spells.append_opens {a b : String} {ts us : List Token} (ha : Spells a ts)
    (hb : Opens b us) (hbreak : beginsWithBreak b) : Opens (a ++ b) (ts ++ us) := by
  constructor
  intro after rest hrest
  rw [String.toList_append, List.append_assoc, List.append_assoc]
  exact ha.reads _ _ (head?_of_beginsWithBreak hbreak after) (hb.reads _ _ hrest)

theorem Spells.append {a b : String} {ts us : List Token} (ha : Spells a ts) (hb : Spells b us)
    (hbreak : beginsWithBreak b) : Spells (a ++ b) (ts ++ us) := by
  constructor
  intro after rest hafter hrest
  rw [String.toList_append, List.append_assoc, List.append_assoc]
  exact ha.reads _ _ (head?_of_beginsWithBreak hbreak after) (hb.reads _ _ hafter hrest)

/-! ## Fixed parts -/

/-- Is the token ended by the next one, or at the end by what `final` stands for? -/
def endedByNext (final : Token → Bool) (t : Token) : List Token → Bool
  | [] => final t
  | u :: _ => u.text.toList.head?.any t.endedBy

/-- Are all of the tokens ended? Blanks need no end, and comments do not occur. -/
def wellEnded (final : Token → Bool) : List Token → Bool
  | [] => true
  | t :: rest =>
    (t.kind == .whitespace && t.text.toList.all (· == ' ') ||
      !t.isTrivia && endedByNext final t rest) && wellEnded final rest

/-- The significant tokens of a fixed text whose tokens are well ended. -/
def fixedTokens? (final : Token → Bool) (text : String) : Option (List Token) :=
  match tokenize text with
  | .ok all => if wellEnded final all then some (all.filter (!·.isTrivia)) else none
  | .error _ => none

theorem tokenizeFrom_cons {offset : ℕ} {c : Char} {rest : List Char} {all : List Token}
    (h : tokenizeFrom offset (c :: rest) = .ok all) :
    ∃ kind n more, scan offset c rest = .ok (kind, n) ∧
      tokenizeFrom (offset + utf8Length (c :: rest.take n)) (rest.drop n) = .ok more ∧
      all = ⟨kind, String.ofList (c :: rest.take n)⟩ :: more := by
  rw [tokenizeFrom] at h
  split at h
  · simp at h
  · rename_i kind n hscan
    dsimp only at h
    split at h
    · simp at h
    · rename_i more hmore
      exact ⟨kind, n, more, hscan, hmore, (Except.ok.inj h).symm⟩

/-- The text of the first token stands at the front. -/
theorem head?_of_tokenizeFrom {offset : ℕ} {cs : List Char} {t : Token} {all : List Token}
    (h : tokenizeFrom offset cs = .ok (t :: all)) : cs.head? = t.text.toList.head? := by
  cases cs with
  | nil => simp [tokenizeFrom] at h
  | cons c rest =>
    obtain ⟨kind, n, more, -, -, hall⟩ := tokenizeFrom_cons h
    rw [(List.cons.inj hall).1]
    simp

theorem eq_nil_of_tokenizeFrom {offset : ℕ} {cs : List Char}
    (h : tokenizeFrom offset cs = .ok []) : cs = [] := by
  cases cs with
  | nil => rfl
  | cons c rest =>
    obtain ⟨kind, n, more, -, -, hall⟩ := tokenizeFrom_cons h
    simp at hall

theorem endedBy_of_endedByNext {final : Token → Bool} {t : Token} {offset : ℕ}
    {cs after : List Char} {all : List Token} (hended : endedByNext final t all)
    (h : tokenizeFrom offset cs = .ok all)
    (hfinal : ∀ t, final t → ∀ c ∈ after.head?, t.endedBy c) :
    ∀ c ∈ (cs ++ after).head?, t.endedBy c := by
  intro c hc
  cases all with
  | nil =>
    rw [eq_nil_of_tokenizeFrom h, List.nil_append] at hc
    exact hfinal t hended c hc
  | cons u all =>
    have hhead := head?_of_tokenizeFrom h
    rw [endedByNext, ← hhead] at hended
    cases cs with
    | nil => simp at hended
    | cons d cs =>
      obtain rfl : d = c := by simpa using hc
      simpa using hended

/-- A text with well ended tokens keeps them in front of whatever `final` allows. -/
theorem reads_of_wellEnded {final : Token → Bool} {offset : ℕ} {cs after : List Char}
    {all rest : List Token} (h : tokenizeFrom offset cs = .ok all) (hended : wellEnded final all)
    (hfinal : ∀ t, final t → ∀ c ∈ after.head?, t.endedBy c) (hafter : Reads after rest) :
    Reads (cs ++ after) (all.filter (!·.isTrivia) ++ rest) := by
  induction all generalizing offset cs with
  | nil =>
    rw [eq_nil_of_tokenizeFrom h]
    exact hafter
  | cons t all ih =>
    cases cs with
    | nil => simp [tokenizeFrom] at h
    | cons c cs =>
      obtain ⟨kind, n, more, hscan, hmore, hall⟩ := tokenizeFrom_cons h
      obtain ⟨rfl, rfl⟩ := List.cons.inj hall
      set t : Token := ⟨kind, String.ofList (c :: cs.take n)⟩ with ht
      have hsplit : c :: cs ++ after = t.text.toList ++ (cs.drop n ++ after) := by
        rw [ht, String.toList_ofList, List.cons_append, List.cons_append,
          ← List.append_assoc (cs.take n), List.take_append_drop]
      rw [wellEnded, Bool.and_eq_true, Bool.or_eq_true] at hended
      obtain ⟨hhere, hthere⟩ := hended
      have hrest := ih hmore hthere
      rw [hsplit]
      rcases hhere with hblank | hended
      · obtain ⟨hkind, hspaces⟩ := Bool.and_eq_true_iff.1 hblank
        have htrivia : t.isTrivia := by simp [Token.isTrivia, hkind]
        rw [List.filter_cons_of_neg (by simp [htrivia])]
        apply hrest.blanks
        intro d hd
        obtain rfl : d = ' ' := by simpa using List.all_eq_true.1 hspaces d hd
        decide
      · obtain ⟨htrivia, hnext⟩ := Bool.and_eq_true_iff.1 hended
        have hsignificant : t.kind ≠ .whitespace ∧ t.kind ≠ .comment := by
          simpa [Token.isTrivia] using htrivia
        have hlexeme : t.IsLexeme := by
          rw [Token.IsLexeme, ht, String.toList_ofList]
          exact lexeme_of_scan hscan hsignificant.1 hsignificant.2
        rw [List.filter_cons_of_pos (by simpa using htrivia), List.cons_append]
        exact hrest.token hlexeme (endedBy_of_endedByNext hnext hmore hfinal)

/-- Marks that end themselves. -/
def isPunctuation (t : Token) : Bool :=
  [.leftParen, .rightParen, .comma, .semicolon].contains t.kind

theorem opens_of_fixedTokens? {text : String} {ts : List Token}
    (h : fixedTokens? isPunctuation text = some ts) : Opens text ts := by
  unfold fixedTokens? at h
  split at h
  · rename_i all hall
    split_ifs at h with hended
    obtain rfl := Option.some.inj h
    constructor
    intro after rest hrest
    refine reads_of_wellEnded hall hended (fun t ht c _ => ?_) hrest
    have hkind : t.kind = .leftParen ∨ t.kind = .rightParen ∨ t.kind = .comma ∨
        t.kind = .semicolon := by
      simpa [isPunctuation] using ht
    rcases hkind with hk | hk | hk | hk <;> simp [Token.endedBy, endedBy, hk]
  · simp at h

theorem spells_of_fixedTokens? {text : String} {ts : List Token}
    (h : fixedTokens? (fun _ => true) text = some ts) : Spells text ts := by
  unfold fixedTokens? at h
  split at h
  · rename_i all hall
    split_ifs at h with hended
    obtain rfl := Option.some.inj h
    constructor
    intro after rest hafter hrest
    exact reads_of_wellEnded hall hended
      (fun t _ c hc => endedBy_of_isBreak (hafter c hc) t) hrest
  · simp at h

/-! ## Names -/

/-- The token that a name is written as. -/
def nameToken (name : String) : Token :=
  ⟨if isPlainName name.toList && !isKeyword name then .identifier else .quotedIdentifier,
    quoteIdentifier name⟩

theorem enclosable_doubled {mark : Char} (h : mark ≠ ']') (cs : List Char) :
    Enclosable mark (doubled mark cs) := by
  induction cs with
  | nil => exact .nil
  | cons c cs ih =>
    rw [doubled]
    split_ifs with hc
    · subst hc
      exact .pair h ih
    · exact .char hc ih

theorem bounds_of_isAlpha {c : Char} (h : c.isAlpha) : 65 ≤ c.toNat ∧ c.toNat ≤ 122 := by
  have hcases : (decide (c.val ≥ 'A'.val ∧ c.val ≤ 'Z'.val) ||
      (decide (c.val ≥ 'a'.val) && decide (c.val ≤ 'z'.val))) = true := h
  simp [UInt32.le_iff_toNat_le] at hcases
  have : c.toNat = c.val.toNat := rfl
  omega

theorem bounds_of_isDigit {c : Char} (h : c.isDigit) : 48 ≤ c.toNat ∧ c.toNat ≤ 57 := by
  have hcases : (decide (c.val ≥ '0'.val) && decide (c.val ≤ '9'.val)) = true := h
  simp [UInt32.le_iff_toNat_le] at hcases
  have : c.toNat = c.val.toNat := rfl
  omega

theorem isWordChar_of_isAlphanum {c : Char} (h : c.isAlphanum) : isWordChar c := by
  have hcases : c.isAlpha ∨ c.isDigit := by simpa [Char.isAlphanum] using h
  have hlt : c.toNat < 128 := by
    rcases hcases with hc | hc
    · have := bounds_of_isAlpha hc
      omega
    · have := bounds_of_isDigit hc
      omega
  rcases hcases with hc | hc <;>
    simp [isWordChar, Text.isAlphanumeric, Text.isAlphabetic, Text.isNumeric, hlt, hc]

theorem startsWord_of_isAlpha {c : Char} (h : c.isAlpha) : startsWord c := by
  obtain ⟨hlow, hhigh⟩ := bounds_of_isAlpha h
  have hlt : c.toNat < 128 := by omega
  have hspace : c ≠ ' ' := by
    rintro rfl
    revert h
    decide
  have hblank : Text.isBlank c = false := by
    simp [Text.isBlank, hlt, hspace]
    omega
  simp [startsWord, hblank, Text.isAlphabetic, hlt, h]

theorem lexeme_of_isPlainName {cs : List Char} (h : isPlainName cs) : Lexeme (wordKind cs) cs := by
  cases cs with
  | nil => simp [isPlainName] at h
  | cons c cs =>
    obtain ⟨hstart, hall⟩ : (c.isAlpha ∨ c = '_') ∧
        ∀ d ∈ c :: cs, d.isAlphanum ∨ d = '_' := by
      simpa [isPlainName] using h
    refine .word ?_ fun d hd => ?_
    · rcases hstart with hc | rfl
      · exact startsWord_of_isAlpha hc
      · decide
    · rcases hall d (List.mem_cons_of_mem c hd) with hd | rfl
      · exact isWordChar_of_isAlphanum hd
      · decide

theorem isLexeme_nameToken (name : String) : (nameToken name).IsLexeme := by
  unfold nameToken quoteIdentifier
  split_ifs with hplain
  · have h : isPlainName name.toList ∧ isKeyword name = false := by simpa using hplain
    have hlexeme := lexeme_of_isPlainName h.1
    rw [wordKind, String.ofList_toList, h.2] at hlexeme
    exact hlexeme
  · rw [Token.IsLexeme, String.toList_ofList]
    exact .quoted (.inl rfl) (enclosable_doubled (by decide) _)

theorem spells_quoteIdentifier (name : String) : Spells (quoteIdentifier name) [nameToken name] :=
  (isLexeme_nameToken name).spells

theorem nameToken_kind (name : String) :
    (nameToken name).kind = .identifier ∨ (nameToken name).kind = .quotedIdentifier := by
  unfold nameToken
  dsimp only
  split_ifs <;> simp

theorem head?_quoteIdentifier (name : String) :
    ∀ c ∈ (quoteIdentifier name).toList.head?, c.isDigit = false := by
  intro c hc
  unfold quoteIdentifier at hc
  split_ifs at hc with hplain
  · have h : isPlainName name.toList ∧ isKeyword name = false := by simpa using hplain
    cases hname : name.toList with
    | nil => simp [hname] at hc
    | cons d cs =>
      obtain rfl : d = c := by simpa [hname] using hc
      have hstart : d.isAlpha ∨ d = '_' := by
        have := h.1
        simp [hname, isPlainName] at this
        exact this.1
      rcases hstart with hd | rfl
      · exact isDigit_of_startsWord (startsWord_of_isAlpha hd)
      · decide
  · obtain rfl : '"' = c := by simpa using hc
    decide

def dot : Token := ⟨.dot, "."⟩

/-- A name with a qualifier in front of it. -/
theorem spells_qualified (table column : String) :
    Spells (quoteIdentifier table ++ "." ++ quoteIdentifier column)
      [nameToken table, dot, nameToken column] := by
  constructor
  intro after rest hafter hrest
  have hcolumn := (spells_quoteIdentifier column).reads after rest hafter hrest
  have hdot : Reads (dot.text.toList ++ ((quoteIdentifier column).toList ++ after))
      (dot :: nameToken column :: rest) := by
    refine hcolumn.token .dot ?_
    intro c hc
    have hdigit : c.isDigit = false := by
      cases hcs : (quoteIdentifier column).toList with
      | nil => exact absurd hcs (Lexeme.ne_nil (isLexeme_nameToken column))
      | cons d cs =>
        rw [hcs] at hc
        exact head?_quoteIdentifier column c (by rw [hcs]; exact hc)
    simp [Token.endedBy, endedBy, dot, hdigit]
  have htable : Reads ((nameToken table).text.toList ++
      (dot.text.toList ++ ((quoteIdentifier column).toList ++ after)))
      (nameToken table :: dot :: nameToken column :: rest) := by
    apply hdot.token (isLexeme_nameToken table)
    intro c hc
    obtain rfl : '.' = c := by simpa [dot] using hc
    rcases nameToken_kind table with hk | hk <;> simp [Token.endedBy, endedBy, hk, isStop]
  simpa [nameToken, dot, List.append_assoc] using htable

end Sql
end QueryFuzz
