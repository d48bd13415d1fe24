import QueryFuzz.Proofs.Sql.Tilings

/-!
# What can be taken out of a statement

The check of a statement looks at each token between its neighbours, so taking a run of tokens out
can only hurt where the two ends meet. In front of a clause nothing waits for an operand, and the
word of a clause fits behind anything. Between the conjuncts of a predicate there are operands on
both sides of each `AND`. Whole clauses can therefore go, and so can a conjunct with its `AND`.
-/

namespace QueryFuzz
namespace Sql

/-! ## Where the ends meet -/

/-- What follows a part can be exchanged if the last token of the part takes its new neighbour. -/
theorem fitsFrom_exchange {d : ℕ} {before : Option Token} {A B B' : List Token}
    (h : fitsFrom d before (A ++ B))
    (hlast : ∀ t ∈ A.getLast?, ∀ b, misfit? b t B.head? = none → misfit? b t B'.head? = none)
    (hB' : fitsFrom (depthBehind d A) (lastOr before A) B') : fitsFrom d before (A ++ B') := by
  induction A generalizing d before with
  | nil => exact hB'
  | cons t A ih =>
    rw [List.cons_append, fitsFrom_cons] at h ⊢
    obtain ⟨hmisfit, depth', hdepth, hfits⟩ := h
    have hpast : depthPast d t = depth' := depthPast_add hdepth 0
    rw [lastOr_cons, depthBehind_cons, hpast] at hB'
    refine ⟨?_, depth', hdepth, ?_⟩
    · cases A with
      | nil => exact hlast t rfl before hmisfit
      | cons u A => exact hmisfit
    · apply ih hfits _ hB'
      cases A with
      | nil => simp
      | cons u A => rwa [List.getLast?_cons_cons] at hlast

/-- A keyword fits behind any operand, and one that joins no operands fits everywhere. -/
theorem fitsFrom_of_keyword {d : ℕ} {before b : Option Token} {B : List Token}
    (h : fitsFrom d before B) (hB : B.head?.all (·.kind == .keyword))
    (hb : b.any (·.endsOperand) ∨ B.head?.all (!Token.isAnyOf ["AND", "OR"] ·)) :
    fitsFrom d b B := by
  cases B with
  | nil => exact h
  | cons t B =>
    rw [fitsFrom_cons] at h ⊢
    refine ⟨?_, h.2⟩
    have hkind : t.kind = .keyword := by simpa using hB
    have hmisfit := misfit?_eq_none_iff.1 h.1
    rw [misfit?_eq_none_iff]
    simp only [hkind, fitsKeyword, Bool.and_eq_true, Bool.or_eq_true] at hmisfit ⊢
    refine ⟨⟨?_, hmisfit.1.2⟩, hmisfit.2⟩
    rcases hb with hends | hword
    · exact .inr hends
    · exact .inl (by simpa using hword)

/-! ## In front of a clause -/

section Clauses

variable {k : StatementKind} {d : ℕ} {before : Option Token} {A M B Y : List Token}

/-- No operand begins with the word of a clause, and no `NOT` takes one. -/
theorem not_followsNot_of_clauseAhead (hY : Y = [] ∨ clauseAhead k Y) :
    Y.head?.any followsNot = false := by
  cases Y with
  | nil => rfl
  | cons t Y =>
    have hclause := hY.resolve_left (List.cons_ne_nil t Y)
    have hends : EndsPart k (t :: Y) := .inr (.inr hclause)
    have hstarts := hends.not_startsOperand
    rw [List.head?_cons, Option.any_some] at hstarts ⊢
    rw [followsNot, hstarts, isAnyOf_eq_false (isAnyOf_of_clauseAhead hclause) (by decide)]
    rfl

/-- In front of a clause, outside all parentheses, nothing waits for an operand. -/
theorem isSettled_of_clauseAhead {t : Token} (h : misfit? before t Y.head? = none)
    (hY : Y = [] ∨ clauseAhead k Y) (ht : t.kind ≠ .leftParen) : isSettled t := by
  have hstarts := EndsPart.not_startsOperand (.inr hY)
  have hnot := not_followsNot_of_clauseAhead hY
  have hmisfit := misfit?_eq_none_iff.1 h
  unfold isSettled
  cases hkind : t.kind with
  | leftParen => exact absurd hkind ht
  | comma => exact absurd h (misfit?_comma hkind hY)
  | operator => simpa [hkind, fitsOperator, hstarts] using hmisfit
  | keyword =>
    simp only [hkind, fitsKeyword, hstarts, hnot, Bool.or_false, Bool.and_eq_true] at hmisfit
    simp only [hmisfit.1.2, hmisfit.2, Bool.and_self]
  | _ => rfl

theorem isSettled_getLast? (h : fitsFrom d before (A ++ Y)) (hclosed : depthBehind d A = 0)
    (hY : Y = [] ∨ clauseAhead k Y) : A.getLast?.all isSettled := by
  rcases List.eq_nil_or_concat' A with rfl | ⟨A, t, rfl⟩
  · rfl
  · rw [List.append_assoc] at h
    have hmisfit := (fitsFrom_cons.1 (fitsFrom_behind h)).1
    have hkind : t.kind ≠ .leftParen := by
      intro hkind
      rw [depthBehind_append, depthBehind_cons, depthPast, hkind] at hclosed
      exact absurd hclosed (Nat.succ_ne_zero _)
    rw [List.getLast?_append_cons]
    exact isSettled_of_clauseAhead hmisfit hY hkind

theorem IsBoundary.ahead (h : IsBoundary k d A Y) : Y = [] ∨ clauseAhead k Y := by
  have hrest := h.rest
  cases Y with
  | nil => exact .inl rfl
  | cons t Y =>
    rw [clauseRest] at hrest
    split_ifs at hrest with hahead
    exact .inr hahead.2

/-- What reaches from one clause to another one, outside all parentheses, can be taken out. -/
theorem fitsFrom_of_ahead (h : fitsFrom d before (A ++ (M ++ B))) (hA : depthBehind d A = 0)
    (hM : depthBehind d (A ++ M) = 0) (hAhead : M ++ B = [] ∨ clauseAhead k (M ++ B))
    (hB : B = [] ∨ clauseAhead k B) : fitsFrom d before (A ++ B) := by
  have hsettled := isSettled_getLast? h hA hAhead
  apply fitsFrom_exchange h
  · intro t ht b hmisfit
    exact misfit?_of_isSettled ((Option.all_eq_true _ _).1 hsettled t ht) hmisfit
  · rw [← List.append_assoc] at h
    have hfits := fitsFrom_behind h
    rw [hM] at hfits
    rw [hA]
    refine fitsFrom_of_keyword hfits (EndsPart.isKeyword (.inr hB)) (.inr ?_)
    cases B with
    | nil => rfl
    | cons t B =>
      have hclause := hB.resolve_left (List.cons_ne_nil t B)
      have hword : t.isAnyOf ["AND", "OR"] = false :=
        isAnyOf_eq_false (isAnyOf_of_clauseAhead hclause) (by decide)
      simp [hword]

end Clauses

/-! ## Runs that a statement can lose -/

namespace Statement

variable {s : Statement} {t₀ : Token} {rest : List Token}

/-- Without the run the tokens are a statement of the same kind. -/
def CanLose (s : Statement) (run : Span) : Prop :=
  ∃ s', s.splice run [] = .ok s' ∧ s'.kind = s.kind

/-- A statement keeps its kind with its first token. -/
theorem canLose_of_fits {A M B : List Token} (htokens : s.tokens = t₀ :: (A ++ (M ++ B)))
    (h : fitsFrom 0 none (t₀ :: (A ++ B))) :
    s.CanLose ⟨1 + A.length, 1 + A.length + M.length⟩ := by
  have hkind : StatementKind.ofTokens (t₀ :: (A ++ B)) = .ok s.kind := by
    have hhead := s.kind_eq
    rw [htokens] at hhead
    exact hhead
  have hreplace : (⟨1 + A.length, 1 + A.length + M.length⟩ : Span).replace s.tokens [] =
      t₀ :: (A ++ B) := by
    have hsplit : s.tokens = (t₀ :: A) ++ (M ++ B) := htokens
    rw [hsplit]
    exact Span.replace_append (Nat.add_comm 1 A.length) rfl
  refine ⟨⟨s.kind, _, hkind, checkStructure_eq_ok_iff.2 h⟩, ?_, rfl⟩
  rw [splice, hreplace, ofTokens_eq_ok_iff]

/-- Clauses that follow one another can go, but for the head. -/
theorem canLose_clauses {c c' : Clause} (hc : c ∈ s.clauses) (hc' : c' ∈ s.clauses)
    (hkind : c.kind ≠ .head) (hle : c.span.start ≤ c'.span.stop) :
    s.CanLose ⟨c.span.start, c'.span.stop⟩ := by
  obtain ⟨t₀, rest, htokens⟩ := List.exists_cons_of_ne_nil s.tokens_ne_nil
  obtain ⟨A, M, B, rfl, hstart, hstop, hA, hB⟩ := exists_run htokens hc hc' hkind hle
  rw [hstart, hstop]
  apply canLose_of_fits htokens
  have hfits := checkStructure_eq_ok_iff.1 s.sound
  rw [htokens] at hfits
  exact fitsFrom_of_ahead (A := t₀ :: A) hfits hA.closed hB.closed hA.ahead hB.ahead

/-- An operand is in front of these keywords. -/
theorem endsOperand_before {X C : List Token} {u : Token} (htokens : s.tokens = X ++ u :: C)
    (hu : u.isAnyOf ["AND", "OR"]) : (lastOr none X).any (·.endsOperand) := by
  have hmisfit := misfit?_eq_none_iff.1 (fitsFrom_cons.1 (fits_split htokens)).1
  simp only [kind_of_isAnyOf hu, fitsKeyword, hu, Bool.and_eq_true, Bool.not_true,
    Bool.false_or] at hmisfit
  exact hmisfit.1.1

/-- Where a conjunct ends in front of another token. -/
theorem ConjunctAt.exists_behind {A₀ A M C : List Token} {w u : Token}
    (h : s.ConjunctAt t₀ A₀ w A M C)
    (hu : s.tokens[2 + A₀.length + A.length + M.length]? = some u) : ∃ C', C = u :: C' := by
  have hlength : 2 + A₀.length + A.length + M.length = (t₀ :: (A₀ ++ w :: A) ++ M).length := by
    simp only [List.length_append, List.length_cons]
    omega
  rw [h.split, ← List.append_assoc, hlength, List.getElem?_append_right (le_refl _),
    Nat.sub_self] at hu
  cases C with
  | nil => cases hu
  | cons v C => exact ⟨C, by rw [Option.some.inj hu]⟩

/-- Where a conjunct begins behind an `AND`, which is not the `WHERE`. -/
theorem ConjunctAt.exists_in_front {A₀ A M C : List Token} {w u : Token}
    (h : s.ConjunctAt t₀ A₀ w A M C) {i : ℕ} (hi : 2 + A₀.length + A.length = i + 1)
    (hu : s.tokens[i]? = some u) (hand : u.isWord "AND") : ∃ A', A = A' ++ [u] := by
  have hlast : (w :: A).getLast? = some u := by
    have hlength : (t₀ :: (A₀ ++ w :: A)).length = i + 1 := by
      simp only [List.length_cons, List.length_append]
      omega
    rw [h.split, List.getElem?_append_left (by omega)] at hu
    rw [← List.getLast?_append_cons (t₀ :: A₀), List.cons_append, List.getLast?_eq_getElem?,
      hlength, Nat.add_sub_cancel]
    exact hu
  rcases List.eq_nil_or_concat' A with rfl | ⟨A, v, rfl⟩
  · obtain rfl : w = u := Option.some.inj hlast
    have hno : w.isWord "AND" = false := isAnyOf_eq_false h.word (by decide)
    rw [hno] at hand
    cases hand
  · rw [← List.cons_append, List.getLast?_append_cons] at hlast
    obtain rfl : v = u := Option.some.inj hlast
    exact ⟨A, rfl⟩

/-- Behind an `AND` there fits what fits behind any keyword. -/
theorem followsAs_of_keyword {t u : Token} (ht : t.isWord "AND") (hu : u.kind = .keyword) :
    FollowsAs (some t) (some u) := by
  have hends : t.endsOperand = false := by
    rw [Token.endsOperand, kind_of_isWord ht]
    exact isAnyOf_eq_false ht (by decide)
  constructor
  · simp [hends]
  · simp [hu]
  · simp [kind_of_isWord ht]

section Conjuncts

variable {p c c' : Span}

/-- A conjunct can go with the `AND` behind it. -/
theorem canLose_conjunct_and (hp : s.wherePredicate? = some p) (hc : c ∈ s.conjuncts p)
    (hgap : s.JoinedBy "AND" c.stop c'.start) : s.CanLose ⟨c.start, c'.start⟩ := by
  obtain ⟨t₀, rest, htokens⟩ := List.exists_cons_of_ne_nil s.tokens_ne_nil
  obtain ⟨A₀, w, A, M, C, hpiece, rfl⟩ := exists_conjunctAt htokens hp hc
  obtain ⟨u, hu, hand⟩ := hgap.word
  obtain ⟨C, rfl⟩ := hpiece.exists_behind hu
  obtain ⟨X, v, hfront, hv⟩ := hpiece.exists_front
  have htokens' : s.tokens = t₀ :: ((A₀ ++ w :: A) ++ ((M ++ [u]) ++ C)) := by
    rw [hpiece.tokens]
    simp
  have hrun : (⟨2 + A₀.length + A.length, c'.start⟩ : Span) =
      ⟨1 + (A₀ ++ w :: A).length, 1 + (A₀ ++ w :: A).length + (M ++ [u]).length⟩ := by
    rw [hgap.next_eq]
    simp only [List.length_append, List.length_cons, List.length_nil]
    congr 1 <;> omega
  rw [hrun]
  apply canLose_of_fits htokens'
  have hfits := checkStructure_eq_ok_iff.1 s.sound
  rw [htokens'] at hfits
  apply fitsFrom_exchange (A := t₀ :: (A₀ ++ w :: A)) hfits
  · intro t ht b hmisfit
    have hsplit : s.tokens = (t₀ :: (A₀ ++ w :: A) ++ M) ++ u :: C := by
      rw [htokens']
      simp
    have hstarts := startsOperand_behind hsplit (isAnyOf_mono hand (by decide))
    exact misfit?_mono (.refl b) (precedesAs_of_startsOperand hstarts) hmisfit
  · have hsplit : s.tokens = (t₀ :: (A₀ ++ w :: A) ++ (M ++ [u])) ++ C := by
      rw [htokens']
      simp
    have hbehind := fits_split hsplit
    rw [depthBehind_append, hpiece.depthBehind_front _, ← depthBehind_append, ← List.append_assoc,
      depthBehind_append, hpiece.stop, depthBehind_cons, depthPast_of_keyword (kind_of_isWord hand),
      ← List.append_assoc, lastOr_append] at hbehind
    rw [hpiece.depthBehind_front A, hpiece.start, hfront, lastOr_append]
    exact (followsAs_of_keyword hand (kind_of_isAnyOf hv)).fitsFrom hbehind

/-- A conjunct can go with the `AND` in front of it. -/
theorem canLose_and_conjunct (hp : s.wherePredicate? = some p) (hc' : c' ∈ s.conjuncts p)
    (hgap : s.JoinedBy "AND" c.stop c'.start) : s.CanLose ⟨c.stop, c'.stop⟩ := by
  obtain ⟨t₀, rest, htokens⟩ := List.exists_cons_of_ne_nil s.tokens_ne_nil
  obtain ⟨A₀, w, A, M, C, hpiece, rfl⟩ := exists_conjunctAt htokens hp hc'
  obtain ⟨u, hu, hand⟩ := hgap.word
  have hnext := hgap.next_eq
  dsimp only at hnext
  obtain ⟨A, rfl⟩ := hpiece.exists_in_front hnext hu hand
  have htokens' : s.tokens = t₀ :: ((A₀ ++ w :: A) ++ ((u :: M) ++ C)) := by
    rw [hpiece.tokens]
    simp
  have hrun : (⟨c.stop, 2 + A₀.length + (A ++ [u]).length + M.length⟩ : Span) =
      ⟨1 + (A₀ ++ w :: A).length, 1 + (A₀ ++ w :: A).length + (u :: M).length⟩ := by
    simp only [List.length_append, List.length_cons, List.length_nil] at hnext ⊢
    congr 1 <;> omega
  rw [hrun]
  apply canLose_of_fits htokens'
  have hends : (lastOr none (t₀ :: (A₀ ++ w :: A))).any (·.endsOperand) :=
    endsOperand_before htokens' (isAnyOf_mono hand (by decide))
  have hfits := checkStructure_eq_ok_iff.1 s.sound
  rw [htokens'] at hfits
  apply fitsFrom_exchange (A := t₀ :: (A₀ ++ w :: A)) hfits
  · intro t ht b hmisfit
    rw [lastOr, ht] at hends
    exact misfit?_of_isSettled (isSettled_of_endsOperand hends) hmisfit
  · have hsplit : s.tokens = (t₀ :: (A₀ ++ w :: (A ++ [u])) ++ M) ++ C := by
      rw [htokens']
      simp
    have hbehind := fits_split hsplit
    rw [depthBehind_append, hpiece.depthBehind_front _, ← depthBehind_append, hpiece.stop] at hbehind
    have hclosed : depthBehind 0 A = 0 := by
      have hstart := hpiece.start
      rwa [depthBehind_append, depthBehind_cons,
        depthPast_of_keyword (kind_of_isWord hand)] at hstart
    rw [hpiece.depthBehind_front A, hclosed]
    exact fitsFrom_of_keyword hbehind hpiece.behind.isKeyword (.inl hends)

end Conjuncts

end Statement

end Sql
end QueryFuzz
