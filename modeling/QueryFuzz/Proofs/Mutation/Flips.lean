import QueryFuzz.Proofs.Mutation.Kind
import QueryFuzz.Proofs.Sql.Names
import QueryFuzz.Proofs.Sql.Tokenization

/-!
# Flipping quotes back

A text literal and a name between double quotes that stand for the same characters are made from
each other by flipping the quotes, whatever quotes are among the characters. A flip chooses one of
the quoted tokens of a statement and leaves the others as they are, and the statement it makes has
its quoted tokens at the same positions. Flipping the same token again therefore brings the
statement back.
-/

namespace QueryFuzz
namespace Mutation

open Sql Draw

/-! ## One token -/

/-- A literal and a name between double quotes that stand for the same characters. -/
structure SameQuoted (literal name : Token) : Prop where
  literal_kind : literal.kind = .string
  name_kind : name.kind = .quotedIdentifier
  exists_text : ∃ body body' text, literal.Quotes '\'' '\'' body text ∧
    name.Quotes '"' '"' body' text

/-- Two quoted tokens that are the same but for their quotes. -/
def DifferInQuotes (t u : Token) : Prop :=
  SameQuoted t u ∨ SameQuoted u t

section Tokens

variable {t u literal name : Token}

theorem SameQuoted.flipped_literal (h : SameQuoted literal name) : flipped literal = name := by
  obtain ⟨hliteral, hname, body, body', text, hbody, hbody'⟩ := h
  have hflipped : flipped literal = doubleQuoted text := by
    unfold flipped
    rw [if_pos hliteral, hbody.inner_eq, hbody.standsFor.undoubled_eq]
    rfl
  rw [hflipped]
  exact (quotes_doubleQuoted text).eq hbody' hname.symm

/-- A literal between its quotes. -/
def singleQuoted (text : List Char) : Token :=
  ⟨.string, String.ofList ('\'' :: doubled '\'' text ++ ['\''])⟩

theorem quotes_singleQuoted (text : List Char) :
    (singleQuoted text).Quotes '\'' '\'' (doubled '\'' text) text :=
  ⟨by simp [singleQuoted, delimiters], String.toList_ofList, standsFor_doubled (by decide) text⟩

theorem SameQuoted.flipped_name (h : SameQuoted literal name) : flipped name = literal := by
  obtain ⟨hliteral, hname, body, body', text, hbody, hbody'⟩ := h
  have hflipped : flipped name = singleQuoted text := by
    unfold flipped
    rw [if_neg (by simp [hname]), hbody'.inner_eq, hbody'.standsFor.undoubled_eq]
    rfl
  rw [hflipped]
  exact (quotes_singleQuoted text).eq hbody hliteral.symm

theorem DifferInQuotes.symm (h : DifferInQuotes t u) : DifferInQuotes u t :=
  Or.symm h

theorem DifferInQuotes.flipped_eq (h : DifferInQuotes t u) : flipped t = u := by
  rcases h with h | h
  · exact h.flipped_literal
  · exact h.flipped_name

theorem SameQuoted.isQuoted (h : SameQuoted literal name) :
    isQuoted literal ∧ isQuoted name := by
  obtain ⟨hliteral, hname, body, body', text, -, hbody'⟩ := h
  simp [Mutation.isQuoted, hliteral, hname, hbody'.text_eq]

theorem DifferInQuotes.isQuoted (h : DifferInQuotes t u) : isQuoted t ∧ isQuoted u := by
  rcases h with h | h
  · exact h.isQuoted
  · exact h.isQuoted.symm

/-- Every quoted token of a text has a counterpart with the other quotes. -/
theorem exists_differInQuotes (h : t.IsLexeme) (hquoted : isQuoted t) :
    ∃ u, DifferInQuotes t u := by
  obtain ⟨opening, close, body, text, hquotes⟩ :=
    h.exists_quotes (kind_of_isEnclosed (isEnclosed_of_isQuoted hquoted))
  have hmarks := hquotes.mem_delimiters
  have hcases : t.kind = .string ∨ t.kind = .quotedIdentifier ∧ opening = '"' := by
    simpa [isQuoted, hquotes.text_eq] using hquoted
  rcases hcases with hkind | ⟨hkind, rfl⟩
  · obtain ⟨rfl, rfl⟩ : opening = '\'' ∧ close = '\'' := by simpa [delimiters, hkind] using hmarks
    exact ⟨doubleQuoted text, .inl ⟨hkind, rfl, _, _, text, hquotes, quotes_doubleQuoted text⟩⟩
  · obtain rfl : close = '"' := by simpa [delimiters, hkind] using hmarks
    exact ⟨singleQuoted text, .inr ⟨rfl, hkind, _, _, text, quotes_singleQuoted text, hquotes⟩⟩

end Tokens

/-! ## The positions of quoted tokens -/

theorem positionsWhere_eq_of_map_eq {p : Token → Bool} {ts us : List Token}
    (h : ts.map p = us.map p) : positionsWhere p ts = positionsWhere p us := by
  have hpositions : ∀ ts : List Token,
      positionsWhere p ts = ((ts.map p).zipIdx.filter (·.1)).map (·.2) := by
    intro ts
    rw [positionsWhere, List.zipIdx_map, List.filter_map, List.map_map]
    rfl
  rw [hpositions, hpositions, h]

theorem positionsWhere_set {p : Token → Bool} {ts : List Token} {i : ℕ} {t u : Token}
    (ht : ts[i]? = some t) (h : p u = p t) :
    positionsWhere p (ts.set i u) = positionsWhere p ts := by
  apply positionsWhere_eq_of_map_eq
  have hpt : (ts.map p)[i]? = some (p t) := by rw [List.getElem?_map, ht]; rfl
  rw [List.map_set, h]
  obtain ⟨hlt, heq⟩ := List.getElem?_eq_some_iff.1 hpt
  rw [← heq, List.set_getElem_self]

/-! ## One flip -/

/-- The tokens with the quotes of the one at a position flipped. -/
def flippedAt (ts : List Token) (i : ℕ) : List Token :=
  (spanAt i).replace ts [flipped (ts.getD i ⟨.whitespace, ""⟩)]

/-- A flip chooses a position and exchanges the token there. -/
theorem flipQuotes_eq (s : Statement) : (flipQuotes s).run =
    Sampling.choose "mutation.site" (quoteSites s) >>= fun site =>
      pure (site.map (flippedAt s.tokens)) := by
  unfold flipQuotes chooseSite
  rw [OptionT.run_bind, OptionT.run_mk]
  unfold Option.elimM
  congr 1
  funext site
  cases site <;> rfl

/-- The result of a flip is not checked. -/
theorem transform_quoteFlip (m : Material) (s : Statement) :
    Operator.quoteFlip.transform m s = (flipQuotes s).run >>= pure := by
  unfold Operator.transform
  congr 1
  funext result
  cases result <;> rfl

theorem run_quoteFlip (m : Material) (s : Statement) (keys : KeyStream) :
    ((Operator.quoteFlip.transform m s).run keys).value =
      ((Sampling.choose "mutation.site" (quoteSites s)).run keys).value.map
        (flippedAt s.tokens) := by
  rw [transform_quoteFlip, (Sampling.run_bind _ _ keys).1, flipQuotes_eq,
    (Sampling.run_bind _ _ keys).1]
  rfl

theorem mem_of_choice {α : Type} {label : String} {items : List α} {keys : KeyStream} {a : α}
    (h : ((Sampling.choose label items).run keys).value = some a) : a ∈ items := by
  rcases (Sampling.yields_choose label items).run keys with ⟨x, hx, hchoice⟩ | ⟨-, hchoice⟩
  · rw [h] at hchoice
    obtain rfl := Option.some.inj hchoice
    exact hx
  · rw [h] at hchoice
    cases hchoice

theorem flippedAt_eq_set {ts : List Token} {i : ℕ} {t : Token} (ht : ts[i]? = some t) :
    flippedAt ts i = ts.set i (flipped t) := by
  rw [flippedAt, List.getD_eq_getElem?_getD, ht, Option.getD_some]
  exact spanAt_replace (List.getElem?_eq_some_iff.1 ht).1 (flipped t)

/-- The second statement is the first one with the quotes of one token exchanged. -/
structure FlipsAt (s s' : Statement) (i : ℕ) (t u : Token) : Prop where
  before : s.tokens[i]? = some t
  after : s'.tokens = s.tokens.set i u
  kind_eq : s'.kind = s.kind
  differ : DifferInQuotes t u

namespace FlipsAt

variable {s s' : Statement} {i : ℕ} {t u : Token}

theorem symm (h : FlipsAt s s' i t u) : FlipsAt s' s i u t := by
  obtain ⟨hlt, heq⟩ := List.getElem?_eq_some_iff.1 h.before
  refine ⟨?_, ?_, h.kind_eq.symm, h.differ.symm⟩
  · rw [h.after, List.getElem?_set_self hlt]
  · rw [h.after, List.set_set, ← heq, List.set_getElem_self]

theorem quoteSites_eq (h : FlipsAt s s' i t u) : quoteSites s' = quoteSites s := by
  rw [quoteSites, h.after]
  exact positionsWhere_set h.before (h.differ.isQuoted.2.trans h.differ.isQuoted.1.symm)

theorem flippedAt_eq (h : FlipsAt s s' i t u) : flippedAt s.tokens i = s'.tokens := by
  rw [flippedAt_eq_set h.before, h.differ.flipped_eq, h.after]

end FlipsAt

/-- What a flip chooses to do can be done to the statement. -/
theorem exists_flipsAt {s : Statement} (h : ∀ t ∈ s.tokens, t.InStatement) {i : ℕ}
    (hi : i ∈ quoteSites s) : ∃ s' t u, FlipsAt s s' i t u ∧ u.IsLexeme := by
  obtain ⟨t, ht, hquoted⟩ := getElem?_of_mem_positionsWhere hi
  obtain ⟨u, hdiffer⟩ := exists_differInQuotes (h t (List.mem_of_getElem? ht)).1 hquoted
  have henclosed := isEnclosed_of_isQuoted hdiffer.isQuoted.2
  obtain ⟨s', htokens, hkind⟩ :=
    exists_statement_flipped h ht (isEnclosed_of_isQuoted hquoted) henclosed
  refine ⟨s', t, u, ⟨ht, htokens, hkind, hdiffer⟩, ?_⟩
  rw [← hdiffer.flipped_eq]
  exact (inStatement_flipped t).1

/-- A flip exchanges the quotes of exactly one token, which stays a single token and leaves a
statement of the same kind. Flipping the same token again brings the statement back, and so does
the flip that makes the same choice. -/
theorem flipping_back_restores (m : Material) {sql : String} {statements : List Statement}
    (hparse : parseScript sql = .ok statements) {s : Statement} (hs : s ∈ statements)
    {keys : KeyStream} {ts : List Token}
    (hts : ((Operator.quoteFlip.transform m s).run keys).value = some ts) :
    ∃ s' i t u, Statement.ofTokens ts = .ok s' ∧ FlipsAt s s' i t u ∧ tokenize u.text = .ok [u] ∧
      ((Operator.quoteFlip.transform m s').run keys).value = some s.tokens ∧
      ∀ keys' ts', ((Operator.quoteFlip.transform m s').run keys').value = some ts' →
        ts'[i]? ≠ some u → ts' = s.tokens := by
  rw [run_quoteFlip] at hts
  obtain ⟨i, hchoice, rfl⟩ := Option.map_eq_some_iff.1 hts
  obtain ⟨s', t, u, hflips, hlexeme⟩ :=
    exists_flipsAt (inStatement_of_parseScript hparse s hs) (mem_of_choice hchoice)
  have hback := hflips.symm.flippedAt_eq
  refine ⟨s', i, t, u, ?_, hflips, tokenize_of_isLexeme hlexeme, ?_, ?_⟩
  · rw [hflips.flippedAt_eq]
    exact s'.ofTokens_tokens
  · rw [run_quoteFlip, hflips.quoteSites_eq, hchoice, Option.map_some, hback]
  · intro keys' ts' hts' hchanged
    rw [run_quoteFlip] at hts'
    obtain ⟨j, hchoice', rfl⟩ := Option.map_eq_some_iff.1 hts'
    by_cases hj : j = i
    · rw [hj, hback]
    · obtain ⟨v, hv, -⟩ := getElem?_of_mem_positionsWhere (mem_of_choice hchoice')
      rw [flippedAt_eq_set hv, List.getElem?_set_ne hj] at hchanged
      exact absurd hflips.symm.before hchanged

theorem flipping_back_restores_nested :
    let m : Material := ⟨.storefront, [], 0.3⟩
    let s : Statement := ⟨.select, [⟨.keyword, "SELECT"⟩, ⟨.string, "'say \"it''s\"'"⟩,
      ⟨.keyword, "FROM"⟩, ⟨.quotedIdentifier, "\"t\""⟩], by decide +kernel, by decide +kernel⟩
    let s' : Statement := ⟨.select, [⟨.keyword, "SELECT"⟩,
      ⟨.quotedIdentifier, "\"say \"\"it's\"\"\""⟩, ⟨.keyword, "FROM"⟩,
      ⟨.quotedIdentifier, "\"t\""⟩], by decide +kernel, by decide +kernel⟩
    parseScript "SELECT 'say \"it''s\"' FROM \"t\"" = .ok [s] ∧
      ((Operator.quoteFlip.transform m s).run (.ofSeed 2 0)).value = some s'.tokens ∧
      ((Operator.quoteFlip.transform m s').run (.ofSeed 2 0)).value = some s.tokens := by
  intro m s s'
  have hparse : parseScript "SELECT 'say \"it''s\"' FROM \"t\"" = .ok [s] := by decide +kernel
  have hts : ((Operator.quoteFlip.transform m s).run (.ofSeed 2 0)).value = some s'.tokens := by
    decide +kernel
  obtain ⟨s'', i, t, u, hs'', -, -, hback, -⟩ :=
    flipping_back_restores m hparse List.mem_cons_self hts
  obtain rfl : s' = s'' := Statement.eq_of_tokens_eq (Statement.tokens_of_ofTokens hs'').symm
  exact ⟨hparse, hts, hback⟩

end Mutation
end QueryFuzz
