import Mathlib.Data.List.Forall2
import QueryFuzz.Proofs.Mutation.Tokens

/-!
# Mutations keep a statement a statement

Every operator but the one that flips quotes has its result checked. The check of the structure
cannot tell the two sorts of quoted tokens apart, and a statement does not begin with either, so
flipping quotes leaves a statement of the same kind as well, checked or not.
-/

namespace QueryFuzz
namespace Mutation

open Sql Draw

/-! ## Quoted tokens are alike -/

/-- Text literals and quoted names. -/
def isEnclosed (t : Token) : Bool :=
  t.kind == .string || t.kind == .quotedIdentifier

/-- Equal tokens, or two tokens between quotes. -/
def Alike (t u : Token) : Prop :=
  t = u ∨ (isEnclosed t ∧ isEnclosed u)

theorem alike_refl (t : Token) : Alike t t :=
  .inl rfl

theorem kind_of_isEnclosed {t : Token} (h : isEnclosed t) :
    t.kind = .string ∨ t.kind = .quotedIdentifier := by
  simpa [isEnclosed] using h

/-- What the check of the structure asks of a neighbour. -/
theorem Alike.answers {t u : Token} (h : Alike t u) :
    t.startsOperand = u.startsOperand ∧ t.endsOperand = u.endsOperand ∧
      followsNot t = followsNot u ∧ t.isOperator "*" = u.isOperator "*" ∧
      (t.kind == .rightParen) = (u.kind == .rightParen) ∧
      (t.kind == .identifier) = (u.kind == .identifier) ∧
      (t.kind != .leftParen && t.kind != .comma) =
        (u.kind != .leftParen && u.kind != .comma) := by
  rcases h with rfl | ⟨ht, hu⟩
  · simp
  · unfold followsNot Token.isOperator Token.startsOperand Token.endsOperand
    rcases kind_of_isEnclosed ht with ht | ht <;> rcases kind_of_isEnclosed hu with hu | hu <;>
      rw [ht, hu] <;> exact ⟨rfl, rfl, rfl, rfl, rfl, rfl, rfl⟩

/-- Neighbours that are alike, or both missing. -/
def AlikeNeighbours (a b : Option Token) : Prop :=
  Option.Rel Alike a b

theorem AlikeNeighbours.any_eq {a b : Option Token} {p : Token → Bool} (h : AlikeNeighbours a b)
    (hp : ∀ t u, Alike t u → p t = p u) : a.any p = b.any p := by
  cases h with
  | some h => exact hp _ _ h
  | none => rfl

theorem misfit?_eq {before before' after after' : Option Token} {t u : Token}
    (hbefore : AlikeNeighbours before before') (ht : Alike t u)
    (hafter : AlikeNeighbours after after') :
    misfit? before t after = misfit? before' u after' := by
  rcases ht with rfl | ⟨ht, hu⟩
  · have hstarts := hafter.any_eq fun t u h => h.answers.1
    have hends := hbefore.any_eq fun t u h => h.answers.2.1
    have hnot := hafter.any_eq fun t u h => h.answers.2.2.1
    have hclose := hafter.any_eq fun t u h => h.answers.2.2.2.2.1
    have hname := hbefore.any_eq fun t u h => h.answers.2.2.2.2.2.1
    have hitem := hbefore.any_eq fun t u h => h.answers.2.2.2.2.2.2
    have hnext := hafter.any_eq (p := fun n => n.startsOperand || n.isOperator "*")
      fun t u h => by rw [h.answers.1, h.answers.2.2.2.1]
    unfold misfit? fitsLeftParen fitsComma fitsOperator fitsKeyword
    rw [hstarts, hends, hnot, hclose, hname, hitem, hnext]
  · rcases kind_of_isEnclosed ht with ht | ht <;> rcases kind_of_isEnclosed hu with hu | hu <;>
      simp [misfit?, ht, hu]

theorem depthPast?_eq {t u : Token} (h : Alike t u) (depth : ℕ) :
    depthPast? depth t = depthPast? depth u := by
  rcases h with rfl | ⟨ht, hu⟩
  · rfl
  · rcases kind_of_isEnclosed ht with ht | ht <;> rcases kind_of_isEnclosed hu with hu | hu <;>
      simp [depthPast?, ht, hu]

theorem head?_alike {ts us : List Token} (h : List.Forall₂ Alike ts us) :
    AlikeNeighbours ts.head? us.head? := by
  cases h with
  | nil => exact .none
  | cons h _ => exact .some h

/-- Lists of tokens that are alike have the same structure. -/
theorem checkFrom_of_alike {ts us : List Token} (h : List.Forall₂ Alike ts us) {index depth : ℕ}
    {before before' : Option Token} (hbefore : AlikeNeighbours before before')
    (hcheck : checkFrom index depth before ts = .ok ()) :
    checkFrom index depth before' us = .ok () := by
  induction h generalizing index depth before before' with
  | nil => exact hcheck
  | @cons t u ts us ht hrest ih =>
    rw [checkFrom] at hcheck ⊢
    rw [← misfit?_eq hbefore ht (head?_alike hrest), ← depthPast?_eq ht depth]
    cases hmisfit : misfit? before t ts.head? with
    | some misfit => cases misfit <;> simp [hmisfit] at hcheck
    | none =>
      rw [hmisfit] at hcheck
      cases hdepth : depthPast? depth t with
      | none => simp [hdepth] at hcheck
      | some depth' =>
        rw [hdepth] at hcheck
        exact ih (.some ht) hcheck

/-! ## Flipping quotes -/

theorem forall₂_alike_set {ts : List Token} {i : ℕ} {t u : Token} (ht : ts[i]? = some t)
    (h : Alike t u) : List.Forall₂ Alike ts (ts.set i u) := by
  induction ts generalizing i with
  | nil => simp at ht
  | cons v ts ih =>
    cases i with
    | zero =>
      obtain rfl : v = t := by simpa using ht
      exact .cons h (List.forall₂_same.2 fun w _ => alike_refl w)
    | succ i => exact .cons (alike_refl v) (ih (by simpa using ht))

theorem spanAt_replace {ts : List Token} {i : ℕ} (h : i < ts.length) (u : Token) :
    (spanAt i).replace ts [u] = ts.set i u := by
  rw [List.set_eq_take_append_cons_drop, if_pos h]
  simp [Span.replace, spanAt]

theorem isEnclosed_of_isQuoted {t : Token} (h : isQuoted t) : isEnclosed t := by
  have hcases : t.kind = .string ∨ (t.kind = .quotedIdentifier ∧
      t.text.toList.head? = some '"') := by
    simpa [isQuoted] using h
  rcases hcases with hk | ⟨hk, -⟩ <;> simp [isEnclosed, hk]

theorem isEnclosed_flipped (t : Token) : isEnclosed (flipped t) := by
  unfold flipped
  dsimp only
  split_ifs <;> rfl

/-- A statement with the quotes of one token flipped. -/
theorem gives_flipped (s : Statement) :
    Gives (fun ts => ∃ i t, s.tokens[i]? = some t ∧ isEnclosed t ∧
      ts = s.tokens.set i (flipped t)) (flipQuotes s) := by
  refine (gives_chooseSite _ _).bind fun i hi => gives_pure ?_
  obtain ⟨t, ht, hquoted⟩ := getElem?_of_mem_positionsWhere hi
  obtain ⟨hlength, -⟩ := List.getElem?_eq_some_iff.1 ht
  refine ⟨i, t, ht, isEnclosed_of_isQuoted hquoted, ?_⟩
  rw [List.getD_eq_getElem?_getD, ht, Option.getD_some]
  exact spanAt_replace hlength (flipped t)

/-- The tokens are those of a statement of this kind, and a text can hold it. -/
structure IsStatement (kind : StatementKind) (ts : List Token) : Prop where
  tokens : ∀ t ∈ ts, t.InStatement
  exists_statement : ∃ s : Statement, s.tokens = ts ∧ s.kind = kind

theorem exists_statement_flipped {s : Statement} (h : ∀ t ∈ s.tokens, t.InStatement) {i : ℕ}
    {t u : Token} (hi : s.tokens[i]? = some t) (ht : isEnclosed t) (hu : isEnclosed u) :
    ∃ s' : Statement, s'.tokens = s.tokens.set i u ∧ s'.kind = s.kind := by
  obtain ⟨head, rest, htokens, hhead⟩ := s.exists_head fun t ht => (h t ht).1
  have hkind := s.kind_eq
  have hsound := checkFrom_of_alike (forall₂_alike_set hi (.inr ⟨ht, hu⟩)) .none s.sound
  -- The head decides the kind, and it is a word.
  have hset : ∃ rest', s.tokens.set i u = head :: rest' := by
    rw [htokens] at hi ⊢
    cases i with
    | zero =>
      obtain rfl : head = t := by simpa using hi
      rcases hhead with hk | hk <;> simp [isEnclosed, hk] at ht
    | succ i => exact ⟨rest.set i u, rfl⟩
  obtain ⟨rest', hrest'⟩ := hset
  refine ⟨⟨s.kind, s.tokens.set i u, ?_, hsound⟩, rfl, rfl⟩
  rw [hrest']
  rw [htokens] at hkind
  exact hkind

/-! ## Every operator -/

theorem exists_statement_of_keepsGuarantee {op : Operator} {s : Statement} {ts : List Token}
    (hop : op ≠ .quoteFlip) (h : op.keepsGuarantee s ts) :
    ∃ s' : Statement, s'.tokens = ts ∧ s'.kind = s.kind := by
  have hguarantee : op.guarantee = ⟨true, true⟩ := by cases op <;> first | rfl | contradiction
  rw [Operator.keepsGuarantee, hguarantee] at h
  cases hts : Statement.ofTokens ts with
  | error e => simp [hts] at h
  | ok s' => exact ⟨s', Statement.tokens_of_ofTokens hts, by simpa [hts] using h⟩

/-- An operator that promises a statement answers with one, and what holds of every result before
the check holds of the answer. -/
theorem yields_transform_of_gives {op : Operator} {m : Material} {s : Statement}
    {P : List Token → Prop} (hop : op ≠ .quoteFlip) (h : Gives P (op.unchecked m s)) :
    (op.transform m s).Yields fun o => ∀ ts ∈ o,
      P ts ∧ ∃ s' : Statement, s'.tokens = ts ∧ s'.kind = s.kind := by
  unfold Operator.transform
  refine Sampling.Yields.bind h fun o ho => ?_
  cases o with
  | none => exact Sampling.yields_pure (by simp)
  | some ts =>
    apply Sampling.yields_pure
    intro ts' hts'
    split_ifs at hts' with hkeeps
    · obtain rfl := Option.some.inj hts'
      exact ⟨ho ts rfl, exists_statement_of_keepsGuarantee hop hkeeps⟩
    · simp at hts'

/-- Whatever an operator makes of a statement is a statement of the same kind. -/
theorem yields_transform (op : Operator) (m : Material) {s : Statement}
    (h : ∀ t ∈ s.tokens, t.InStatement) :
    (op.transform m s).Yields fun o => ∀ ts ∈ o, IsStatement s.kind ts := by
  by_cases hop : op = .quoteFlip
  · subst hop
    unfold Operator.transform
    refine Sampling.Yields.bind (gives_flipped s) fun o ho => ?_
    cases o with
    | none => exact Sampling.yields_pure (by simp)
    | some ts =>
      obtain ⟨i, t, hi, ht, rfl⟩ := ho ts rfl
      apply Sampling.yields_pure
      intro ts hts
      obtain rfl : s.tokens.set i (flipped t) = ts := by
        simpa [Operator.keepsGuarantee, Operator.guarantee] using hts
      refine ⟨fun u hu => ?_, exists_statement_flipped h hi ht (isEnclosed_flipped t)⟩
      rcases List.mem_or_eq_of_mem_set hu with hu | rfl
      · exact h u hu
      · exact inStatement_flipped t
  · refine Sampling.Yields.mono (yields_transform_of_gives hop (gives_unchecked op m h)) ?_
    intro o ho ts hts
    obtain ⟨htokens, hstatement⟩ := ho ts hts
    exact ⟨htokens, hstatement⟩

end Mutation
end QueryFuzz
