import QueryFuzz.Proofs.Sql.Lexeme
import QueryFuzz.Sql.Script

/-!
# Reading a text token by token

Reading is lexing without the blanks and comments. It takes a lexeme from the front of a text where
the lexeme is ended and passes over a space, so the tokens of a text that is put together from
lexemes and spaces are found piece by piece. Every token that is read is a lexeme.
-/

namespace QueryFuzz
namespace Sql

theorem Lexeme.significant {kind : TokenKind} {cs : List Char} (h : Lexeme kind cs) :
    kind ≠ .whitespace ∧ kind ≠ .comment := by
  cases h with
  | @word c cs => rcases wordKind_cases (c :: cs) with hk | hk <;> simp [hk]
  | numeral hnumeral => rcases hnumeral.kind_cases with rfl | rfl <;> simp
  | _ => simp

theorem Lexeme.ne_nil {kind : TokenKind} {cs : List Char} (h : Lexeme kind cs) : cs ≠ [] := by
  cases h with
  | numeral hnumeral =>
    rintro rfl
    simpa [startsNumber] using hnumeral.startsNumber
  | operator hop =>
    rintro rfl
    revert hop
    decide
  | _ => simp

namespace Token

def IsLexeme (t : Token) : Prop := Lexeme t.kind t.text.toList

/-- Does the character end the token that it follows? -/
def endedBy (t : Token) (c : Char) : Bool := Sql.endedBy t.kind t.text.toList c

theorem IsLexeme.not_isTrivia {t : Token} (h : t.IsLexeme) : t.isTrivia = false := by
  obtain ⟨hblank, hcomment⟩ := Lexeme.significant h
  simp [isTrivia, hblank, hcomment]

end Token

/-- The significant tokens of a text that starts at the given byte offset. -/
def readFrom (offset : ℕ) (cs : List Char) : Except Error (List Token) :=
  (tokenizeFrom offset cs).map (·.filter (!·.isTrivia))

theorem significantTokens_eq (sql : String) : significantTokens sql = readFrom 0 sql.toList :=
  rfl

@[simp] theorem readFrom_nil (offset : ℕ) : readFrom offset [] = .ok [] := by
  rw [readFrom, tokenizeFrom]
  rfl

theorem map_eq_ok {ε α β : Type} {f : α → β} {x : Except ε α} {b : β} :
    x.map f = .ok b ↔ ∃ a, x = .ok a ∧ f a = b := by
  cases x <;> simp [Except.map]

theorem foldl_utf8Size (n : ℕ) (cs : List Char) :
    cs.foldl (fun n c => n + c.utf8Size) n = n + utf8Length cs := by
  induction cs generalizing n with
  | nil => rfl
  | cons c cs ih =>
    simp only [utf8Length, List.foldl_cons] at ih ⊢
    rw [ih, ih (0 + c.utf8Size)]
    omega

theorem utf8Length_cons (c : Char) (cs : List Char) :
    utf8Length (c :: cs) = c.utf8Size + utf8Length cs := by
  rw [utf8Length, List.foldl_cons, foldl_utf8Size, Nat.zero_add]

theorem utf8Length_append (cs ds : List Char) :
    utf8Length (cs ++ ds) = utf8Length cs + utf8Length ds := by
  rw [utf8Length, List.foldl_append, foldl_utf8Size]
  rfl

theorem readFrom_of_scan_error {offset : ℕ} {c : Char} {rest : List Char} {e : Error}
    (h : scan offset c rest = .error e) : readFrom offset (c :: rest) = .error e := by
  rw [readFrom, tokenizeFrom, h]
  rfl

theorem readFrom_of_scan {offset n : ℕ} {c : Char} {rest : List Char} {kind : TokenKind}
    (h : scan offset c rest = .ok (kind, n)) :
    readFrom offset (c :: rest) =
      (readFrom (offset + utf8Length (c :: rest.take n)) (rest.drop n)).map
        ([⟨kind, String.ofList (c :: rest.take n)⟩].filter (!·.isTrivia) ++ ·) := by
  rw [readFrom, tokenizeFrom, h, readFrom]
  dsimp only
  cases tokenizeFrom (offset + utf8Length (c :: rest.take n)) (rest.drop n) with
  | error e => rfl
  | ok ts =>
    simp only [Except.map]
    rw [← List.filter_append, List.singleton_append]

/-- A token is read off the front of a text where it is ended. -/
theorem readFrom_token {t : Token} {after : List Char} (offset : ℕ) (ht : t.IsLexeme)
    (hafter : ∀ c ∈ after.head?, t.endedBy c) :
    readFrom offset (t.text.toList ++ after) =
      (readFrom (offset + utf8Length t.text.toList) after).map (t :: ·) := by
  obtain ⟨c, cs, hcs⟩ := List.exists_cons_of_ne_nil (Lexeme.ne_nil ht)
  have hscan : scan offset c (cs ++ after) = .ok (t.kind, cs.length) := by
    rw [Token.IsLexeme, hcs] at ht
    apply scan_lexeme offset ht
    intro d hd
    rw [← hcs]
    exact hafter d hd
  have htoken : (⟨t.kind, String.ofList (c :: cs)⟩ : Token) = t := by
    rw [← hcs, String.ofList_toList]
  have htrivia := ht.not_isTrivia
  rw [hcs, List.cons_append, readFrom_of_scan hscan, List.take_left, List.drop_left, htoken]
  simp [htrivia]

theorem blank_run (cs : List Char) :
    cs.take (runLength Text.isBlank cs) = [] ∨ ∃ c rest, cs = c :: rest ∧ Text.isBlank c ∧
      runLength Text.isBlank cs = runLength Text.isBlank rest + 1 := by
  cases cs with
  | nil => exact .inl rfl
  | cons c rest =>
    by_cases hc : Text.isBlank c
    · exact .inr ⟨c, rest, rfl, hc, by simp [runLength, hc]⟩
    · exact .inl (by simp [runLength, hc])

theorem scan_blank {offset : ℕ} {c : Char} {rest : List Char} (h : Text.isBlank c) :
    scan offset c rest = .ok (.whitespace, runLength Text.isBlank rest) :=
  scan_of_begins (f := .blanks) offset h

theorem readFrom_blank {offset : ℕ} {c : Char} {rest : List Char} (h : Text.isBlank c) :
    readFrom offset (c :: rest) =
      readFrom (offset + utf8Length (c :: rest.take (runLength Text.isBlank rest)))
        (rest.drop (runLength Text.isBlank rest)) := by
  rw [readFrom_of_scan (scan_blank h)]
  cases readFrom (offset + utf8Length (c :: rest.take (runLength Text.isBlank rest)))
    (rest.drop (runLength Text.isBlank rest)) with
  | error e => rfl
  | ok ts => simp [Except.map, Token.isTrivia]

/-- A blank in front of a text is passed over. -/
theorem readFrom_cons_blank (offset : ℕ) {b : Char} (hb : Text.isBlank b) (cs : List Char) :
    readFrom offset (b :: cs) = readFrom (offset + b.utf8Size) cs := by
  rw [readFrom_blank hb]
  rcases blank_run cs with hrun | ⟨c, rest, rfl, hc, hrun⟩
  · have hdrop : cs.drop (runLength Text.isBlank cs) = cs := by
      simpa [hrun] using List.take_append_drop (runLength Text.isBlank cs) cs
    rw [hrun, hdrop, utf8Length_cons]
    rfl
  · rw [readFrom_blank hc, hrun, List.take_succ_cons, List.drop_succ_cons, utf8Length_cons,
      Nat.add_assoc]

theorem readFrom_space (offset : ℕ) (cs : List Char) :
    readFrom offset (' ' :: cs) = readFrom (offset + 1) cs :=
  readFrom_cons_blank offset (by decide) cs

/-- Every token that is read is a lexeme. -/
theorem isLexeme_of_readFrom {offset : ℕ} {cs : List Char} {ts : List Token}
    (h : readFrom offset cs = .ok ts) : ∀ t ∈ ts, t.IsLexeme := by
  induction hn : cs.length using Nat.strong_induction_on generalizing offset cs ts with
  | _ n ih =>
    cases cs with
    | nil =>
      obtain rfl : [] = ts := by simpa using h
      simp
    | cons c rest =>
      cases hscan : scan offset c rest with
      | error e =>
        rw [readFrom_of_scan_error hscan] at h
        simp at h
      | ok answer =>
        obtain ⟨kind, m⟩ := answer
        rw [readFrom_of_scan hscan] at h
        obtain ⟨more, hmore, rfl⟩ := map_eq_ok.1 h
        intro t ht
        rcases List.mem_append.1 ht with ht | ht
        · obtain ⟨ht, hsignificant⟩ := List.mem_filter.1 ht
          obtain rfl := List.mem_singleton.1 ht
          have hkind : kind ≠ .whitespace ∧ kind ≠ .comment := by
            simpa [Token.isTrivia] using hsignificant
          rw [Token.IsLexeme, String.toList_ofList]
          exact lexeme_of_scan hscan hkind.1 hkind.2
        · refine ih (rest.drop m).length ?_ hmore rfl t ht
          simp only [List.length_drop, List.length_cons] at hn ⊢
          omega

theorem isLexeme_of_significantTokens {sql : String} {ts : List Token}
    (h : significantTokens sql = .ok ts) : ∀ t ∈ ts, t.IsLexeme :=
  isLexeme_of_readFrom h

end Sql
end QueryFuzz
