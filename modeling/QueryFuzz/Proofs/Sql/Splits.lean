import QueryFuzz.Proofs.Sql.Tilings

/-!
# Where a predicate is split

A run of tokens is cut in one pass, so whether it is cut at a token depends on the state that the
tokens in front of it leave behind. A predicate is split at the `AND`s outside all parentheses in
front of which no `BETWEEN` of the predicate waits.
-/

namespace QueryFuzz
namespace Sql

/-! ## Cutting in one pass -/

section Pieces

variable {σ : Type} {cut : σ → ℕ → Token → Bool × σ} {start index i : ℕ} {state : σ}

/-- The state behind some tokens. -/
def stateBehind (cut : σ → ℕ → Token → Bool × σ) (state : σ) (entries : List (ℕ × Token)) : σ :=
  entries.foldl (fun state entry => (cut state entry.1 entry.2).2) state

theorem exists_first_piece (cut : σ → ℕ → Token → Bool × σ) (start index : ℕ) (state : σ)
    (region : List (ℕ × Token)) : ∃ piece more,
      piecesFrom cut start index state region = piece :: more ∧ piece.start = start := by
  induction region generalizing index state with
  | nil => exact ⟨_, [], rfl, rfl⟩
  | cons entry region ih =>
    rw [piecesFrom]
    cases cut state entry.1 entry.2 with
    | mk cuts state' =>
    cases cuts with
    | true => exact ⟨_, _, rfl, rfl⟩
    | false => exact ih (index + 1) state'

theorem le_stop_of_mem_piecesFrom {region : List (ℕ × Token)} {piece : Span}
    (h : piece ∈ piecesFrom cut start index state region) : index ≤ piece.stop := by
  induction region generalizing start index state with
  | nil =>
    obtain rfl := List.mem_singleton.1 h
    exact le_rfl
  | cons entry region ih =>
    rw [piecesFrom] at h
    cases hcut : cut state entry.1 entry.2 with
    | mk cuts state' =>
    rw [hcut] at h
    cases cuts with
    | true =>
      rcases List.mem_cons.1 h with rfl | h
      · exact le_rfl
      · exact (Nat.le_succ index).trans (ih h)
    | false => exact (Nat.le_succ index).trans (ih h)

/-- There are pieces on both sides of a token just where it is cut at. -/
theorem exists_pieces_iff {X Y : List (ℕ × Token)} {entry : ℕ × Token} (hle : start ≤ index)
    (hi : i = index + X.length) :
    (∃ c ∈ piecesFrom cut start index state (X ++ entry :: Y),
      ∃ c' ∈ piecesFrom cut start index state (X ++ entry :: Y), c.stop = i ∧ c'.start = i + 1) ↔
      (cut (stateBehind cut state X) entry.1 entry.2).1 = true := by
  induction X generalizing start index state with
  | nil =>
    obtain rfl : i = index := hi
    rw [List.nil_append, piecesFrom, stateBehind, List.foldl_nil]
    cases cut state entry.1 entry.2 with
    | mk cuts state' =>
    cases cuts with
    | true =>
      obtain ⟨c', more, hpieces, hstart⟩ := exists_first_piece cut (i + 1) (i + 1) state' Y
      have hc' : c' ∈ piecesFrom cut (i + 1) (i + 1) state' Y := by simp [hpieces]
      exact iff_of_true
        ⟨_, List.mem_cons_self, c', List.mem_cons_of_mem _ hc', rfl, hstart⟩ rfl
    | false =>
      refine iff_of_false ?_ Bool.false_ne_true
      rintro ⟨c, hc, -, -, hstop, -⟩
      have hbehind := le_stop_of_mem_piecesFrom hc
      omega
  | cons u X ih =>
    have hi' : i = index + 1 + X.length := by
      rw [hi, List.length_cons]
      omega
    rw [List.cons_append, piecesFrom, stateBehind, List.foldl_cons]
    cases cut state u.1 u.2 with
    | mk cuts state' =>
    cases cuts with
    | false => exact ih (by omega) hi'
    | true =>
      rw [← stateBehind, ← ih le_rfl hi']
      constructor
      · rintro ⟨c, hc, c', hc', hstop, hstart⟩
        -- The piece in front of the first cut is on neither side of the token.
        rcases List.mem_cons.1 hc with rfl | hc
        · dsimp only at hstop
          omega
        · rcases List.mem_cons.1 hc' with rfl | hc'
          · dsimp only at hstart
            omega
          · exact ⟨c, hc, c', hc', hstop, hstart⟩
      · rintro ⟨c, hc, c', hc', hends⟩
        exact ⟨c, List.mem_cons_of_mem _ hc, c', List.mem_cons_of_mem _ hc', hends⟩

end Pieces

/-! ## Positions in a statement -/

namespace Statement

variable {s : Statement} {p : Span} {i : ℕ} {X Y : List Token} {t : Token}

theorem tokens_of_split (htokens : s.tokens = X ++ t :: Y) : s.tokens[X.length]? = some t := by
  rw [htokens, List.getElem?_append_right le_rfl, Nat.sub_self]
  rfl

theorem depths_of_split (htokens : s.tokens = X ++ t :: Y) :
    s.depths[X.length]? = some (depthBehind 0 X) := by
  rw [depths, htokens, depthsFrom_append,
    List.getElem?_append_right (length_depthsFrom 0 X).le, length_depthsFrom, Nat.sub_self]
  rfl

/-! ## Splits of a predicate -/

/-- One conjunct ends at the position and one begins behind it. -/
def SplitsAt (s : Statement) (p : Span) (i : ℕ) : Prop :=
  ∃ c ∈ s.conjuncts p, ∃ c' ∈ s.conjuncts p, c.stop = i ∧ c'.start = i + 1

instance (s : Statement) (p : Span) (i : ℕ) : Decidable (s.SplitsAt p i) :=
  inferInstanceAs (Decidable (∃ c ∈ s.conjuncts p, _))

/-- A predicate, which has `A` in front of it and `B` behind it. -/
structure PredicateAt (s : Statement) (p : Span) (A R B : List Token) : Prop where
  split : s.tokens = A ++ (R ++ B)
  start : p.start = A.length
  stop : p.stop = p.start + R.length
  front : depthBehind 0 A = 0
  word : ∃ A' w, A = A' ++ [w] ∧ w.isWord "WHERE"
  closed : depthBehind 0 R = 0

theorem exists_predicateAt (hp : s.wherePredicate? = some p) : ∃ A R B, s.PredicateAt p A R B := by
  obtain ⟨t₀, rest, htokens⟩ := List.exists_cons_of_ne_nil s.tokens_ne_nil
  obtain ⟨A₀, w, R, B, htokens', hclosed, hword, -, -, hR, rfl⟩ := exists_predicate htokens hp
  have hlength : (t₀ :: A₀ ++ [w]).length = 2 + A₀.length := by
    simp
    omega
  refine ⟨t₀ :: A₀ ++ [w], R, B, ?_, hlength.symm, rfl, ?_, ⟨_, w, rfl, hword⟩, hR⟩
  · rw [htokens']
    simp
  · rw [depthBehind_append, depthBehind_cons 0 t₀, hclosed]
    exact depthPast_of_keyword (kind_of_isWord hword) 0

variable {A R B : List Token}

theorem PredicateAt.slice (h : s.PredicateAt p A R B) : p.slice s.tokens = R := by
  rw [h.split]
  exact Span.slice_append h.start h.stop

theorem PredicateAt.conjuncts_eq (h : s.PredicateAt p A R B) :
    s.conjuncts p = piecesFrom cutConjuncts A.length A.length 0 (withDepths 0 R) := by
  have hsplit : s.tokens = A ++ R ++ B := by rw [h.split, List.append_assoc]
  have hspan : p = ⟨A.length, (A ++ R).length⟩ := by
    rw [← h.start, List.length_append, ← h.start, ← h.stop]
  rw [conjuncts, hspan, slice_tokensAtDepth hsplit, h.front, ← withDepths]

/-- The token at a position of the predicate. -/
theorem PredicateAt.exists_split (h : s.PredicateAt p A R B) (hi : p.start ≤ i)
    (hlt : i < p.stop) : ∃ X t Y, R = X ++ t :: Y ∧ i = A.length + X.length := by
  rw [h.start] at hi
  rw [h.stop, h.start] at hlt
  have hlt' : i - A.length < R.length := by omega
  refine ⟨R.take (i - A.length), R[i - A.length], R.drop (i - A.length + 1), ?_, ?_⟩
  · rw [List.getElem_cons_drop, List.take_append_drop]
  · rw [List.length_take]
    omega

/-- How many `BETWEEN`s outside all parentheses wait behind some tokens of a predicate. -/
def pendingBehind (X : List Token) : ℕ :=
  stateBehind cutConjuncts 0 (withDepths 0 X)

/-- A predicate is split where the pass over it cuts. -/
theorem PredicateAt.splitsAt_iff (h : s.PredicateAt p A (X ++ t :: Y) B) :
    s.SplitsAt p (A.length + X.length) ↔
      (cutConjuncts (pendingBehind X) (depthBehind 0 X) t).1 = true := by
  rw [SplitsAt, h.conjuncts_eq, withDepths_append, withDepths_cons]
  apply exists_pieces_iff le_rfl
  rw [length_withDepths]

end Statement

end Sql
end QueryFuzz
