import QueryFuzz.Proofs.Sql.Pieces

/-!
# Statements cut without remainder

The clauses of a statement follow one another from its first token to its last. The conjuncts of a
predicate do the same with one `AND` between neighbours. Each of these runs lies between two places
outside all parentheses, so it closes just what it opens.
-/

namespace QueryFuzz
namespace Sql

/-! ## Tilings -/

/-- Spans, none of them empty, that follow one another from the first position to the last, with
such a gap between neighbours. -/
inductive Tiles (isGap : ℕ → ℕ → Prop) : ℕ → List Span → ℕ → Prop
  | last {start stop : ℕ} : start < stop → Tiles isGap start [⟨start, stop⟩] stop
  | cons {start mid next stop : ℕ} {spans : List Span} : start < mid → isGap mid next →
      Tiles isGap next spans stop → Tiles isGap start (⟨start, mid⟩ :: spans) stop

section Tiles

variable {isGap : ℕ → ℕ → Prop} {start stop : ℕ}

theorem Tiles.mono {isGap' : ℕ → ℕ → Prop} {spans : List Span} (h : Tiles isGap start spans stop)
    (himp : ∀ mid next, isGap mid next → isGap' mid next) : Tiles isGap' start spans stop := by
  induction h with
  | last hlt => exact .last hlt
  | cons hlt hgap _ ih => exact .cons hlt (himp _ _ hgap) ih

/-- Neighbours have a gap between them. -/
theorem Tiles.isGap_of_append {before after : List Span} {c c' : Span}
    (h : Tiles isGap start (before ++ c :: c' :: after) stop) : isGap c.stop c'.start := by
  induction before generalizing start with
  | nil =>
    cases h with
    | cons _ hgap hrest =>
      cases hrest with
      | last => exact hgap
      | cons => exact hgap
  | cons d before ih =>
    cases before with
    | nil =>
      cases h with
      | cons _ _ hrest => exact ih hrest
    | cons e before =>
      cases h with
      | cons _ _ hrest => exact ih hrest

/-- What reaches from each start to the next one covers everything from the first start on. -/
theorem tiles_clausesUpTo {kind : ClauseKind} {more : List (ℕ × ClauseKind)}
    (hsorted : ((start, kind) :: more).Pairwise (·.1 ≤ ·.1))
    (hlt : ∀ entry ∈ (start, kind) :: more, entry.1 < stop) :
    Tiles (· = ·) start ((clausesUpTo stop ((start, kind) :: more)).map (·.span)) stop := by
  induction more generalizing start kind with
  | nil =>
    have hstop : start < stop := hlt (start, kind) List.mem_cons_self
    rw [clausesUpTo, if_pos hstop]
    exact .last hstop
  | cons entry more ih =>
    obtain ⟨next, kind'⟩ := entry
    obtain ⟨hfirst, hsorted⟩ := List.pairwise_cons.1 hsorted
    have hrest := ih hsorted fun entry hentry => hlt entry (List.mem_cons_of_mem _ hentry)
    have hle : start ≤ next := hfirst (next, kind') List.mem_cons_self
    rw [clausesUpTo]
    split_ifs with hnext
    · exact .cons hnext rfl hrest
    · obtain rfl : start = next := by omega
      exact hrest

/-- Pieces that are not empty follow one another with one token between neighbours, at which they
were cut. -/
theorem tiles_piecesFrom {σ : Type} {cut : σ → ℕ → Token → Bool × σ} {state : σ} {index : ℕ}
    {entries region : List (ℕ × Token)} (hregion : entries.drop index = region)
    (hne : ∀ piece ∈ piecesFrom cut start index state region, piece.start < piece.stop) :
    Tiles (fun mid next => next = mid + 1 ∧ ∃ entry ∈ entries[mid]?, CanBe cut true entry) start
      (piecesFrom cut start index state region) (index + region.length) := by
  induction region generalizing start index state with
  | nil => exact .last (hne ⟨start, index⟩ (List.mem_singleton.2 rfl))
  | cons entry region ih =>
    obtain ⟨depth, t⟩ := entry
    have hentry : entries[index]? = some (depth, t) := by
      rw [← List.head?_drop, hregion]
      rfl
    have hrest : entries.drop (index + 1) = region := by
      rw [← List.tail_drop, hregion]
      rfl
    have hlength : index + ((depth, t) :: region).length = index + 1 + region.length := by
      rw [List.length_cons]
      omega
    rw [piecesFrom] at hne ⊢
    rw [hlength]
    cases hcut : cut state depth t with
    | mk cuts state' =>
    rw [hcut] at hne
    cases cuts with
    | true =>
      obtain ⟨hfirst, hne⟩ := List.forall_mem_cons.1 hne
      exact .cons hfirst ⟨rfl, (depth, t), hentry, state, by rw [hcut]⟩ (ih hrest hne)
    | false => exact ih hrest hne

end Tiles

/-! ## Balance -/

/-- Every parenthesis that is opened is closed, and no other one. -/
def IsBalanced (ts : List Token) : Prop :=
  ts.foldlM depthPast? 0 = some 0

instance (ts : List Token) : Decidable (IsBalanced ts) :=
  inferInstanceAs (Decidable (_ = _))

/-- Where tokens fit, the check of depths goes through all of them. -/
theorem foldlM_of_fitsFrom {d : ℕ} {before : Option Token} {A B : List Token}
    (h : fitsFrom d before (A ++ B)) : A.foldlM depthPast? d = some (depthBehind d A) := by
  induction A generalizing d before with
  | nil => rfl
  | cons t A ih =>
    obtain ⟨-, depth', hdepth, hfits⟩ := fitsFrom_cons.1 h
    have hpast : depthPast d t = depth' := depthPast_add hdepth 0
    rw [List.foldlM_cons, hdepth, depthBehind_cons, hpast]
    exact ih hfits

namespace Statement

variable {s : Statement} {t₀ : Token} {rest : List Token}

/-- What lies between two places outside all parentheses is balanced. -/
theorem isBalanced_of_split {A M B : List Token} (htokens : s.tokens = A ++ (M ++ B))
    (hA : depthBehind 0 A = 0) (hM : depthBehind 0 (A ++ M) = 0) : IsBalanced M := by
  obtain ⟨before, hfits⟩ := fits_behind htokens
  rw [depthBehind_append, hA] at hM
  rw [hA] at hfits
  rw [IsBalanced, foldlM_of_fitsFrom hfits, hM]

/-! ## Clauses -/

theorem tiles_clauses (s : Statement) :
    Tiles (· = ·) 0 (s.clauses.map (·.span)) s.tokens.length := by
  obtain ⟨t₀, rest, htokens⟩ := List.exists_cons_of_ne_nil s.tokens_ne_nil
  rw [clauses_eq_clausesUpTo htokens, htokens, List.length_cons, Nat.add_comm rest.length]
  apply tiles_clausesUpTo
  · exact List.pairwise_cons.2 ⟨fun _ _ => Nat.zero_le _, pairwise_clauseStarts⟩
  · intro entry hentry
    rcases List.mem_cons.1 hentry with rfl | hentry
    · dsimp only
      omega
    · exact lt_of_mem_clauseStarts hentry

/-- The first clause is the head, and no other one is. -/
theorem exists_clauses_eq (s : Statement) : ∃ c more, s.clauses = c :: more ∧ c.kind = .head ∧
    c.span.start = 0 ∧ ∀ c' ∈ more, c'.kind ≠ .head := by
  obtain ⟨t₀, rest, htokens⟩ := List.exists_cons_of_ne_nil s.tokens_ne_nil
  rw [clauses_eq_clausesUpTo htokens, clausesUpTo_cons, nextStart_eq, if_pos (by omega)]
  refine ⟨_, _, rfl, rfl, rfl, ?_⟩
  intro c hc
  obtain ⟨before, more, hstarts, -, -⟩ := mem_clausesUpTo_iff.1 hc
  obtain ⟨X, t, Z, inCompound, -, -, hclause, -, -⟩ := foundIn_of_clauseStarts hstarts
  exact (isSeparator_of_clauseAt? hclause).2

theorem isBalanced_clause {c : Clause} (hc : c ∈ s.clauses) :
    IsBalanced (c.span.slice s.tokens) := by
  obtain ⟨t₀, rest, htokens⟩ := List.exists_cons_of_ne_nil s.tokens_ne_nil
  obtain ⟨c₀, more, hclauses, -, hstart, hmore⟩ := s.exists_clauses_eq
  have hcases : c = c₀ ∨ c ∈ more := List.mem_cons.1 (hclauses ▸ hc)
  rcases hcases with rfl | hmem
  · obtain ⟨X, Y, rfl, hstop, hX⟩ := exists_boundary_stop htokens hc
    have hspan : c.span = ⟨0, (t₀ :: X).length⟩ := by
      rw [List.length_cons, Nat.add_comm, ← hstop, ← hstart]
    have hsplit : s.tokens = [] ++ (t₀ :: X ++ Y) := htokens
    have hslice : (⟨0, (t₀ :: X).length⟩ : Span).slice s.tokens = t₀ :: X := by
      rw [hsplit]
      exact Span.slice_append rfl (Nat.zero_add _).symm
    rw [hspan, hslice]
    exact isBalanced_of_split hsplit rfl hX.closed
  · have hlt := (mem_clauses hc).2.1
    obtain ⟨A, M, B, rfl, hstart, hstop, hA, hM⟩ :=
      exists_run htokens hc hc (hmore c hmem) (by omega)
    have hspan : c.span = ⟨1 + A.length, 1 + A.length + M.length⟩ := by
      rw [← hstop, ← hstart]
    have hsplit : s.tokens = (t₀ :: A) ++ (M ++ B) := htokens
    have hslice : (⟨1 + A.length, 1 + A.length + M.length⟩ : Span).slice s.tokens = M := by
      rw [hsplit]
      exact Span.slice_append (Nat.add_comm _ _) rfl
    rw [hspan, hslice]
    exact isBalanced_of_split hsplit hA.closed hM.closed

/-! ## Conjuncts -/

/-- Behind these keywords there is an operand. -/
theorem startsOperand_behind {X C : List Token} {u : Token} (htokens : s.tokens = X ++ u :: C)
    (hu : u.isAnyOf operandKeywords) : C.head?.any (·.startsOperand) := by
  obtain ⟨before, hfits⟩ := fits_behind htokens
  have hmisfit := misfit?_eq_none_iff.1 (fitsFrom_cons.1 hfits).1
  simp only [kind_of_isAnyOf hu, fitsKeyword, hu, Bool.and_eq_true, Bool.not_true,
    Bool.false_or] at hmisfit
  exact hmisfit.1.2

/-- In front of a conjunct there is a `WHERE` or an `AND`. -/
theorem ConjunctAt.exists_front {A₀ A M C : List Token} {w : Token}
    (h : s.ConjunctAt t₀ A₀ w A M C) :
    ∃ X u, t₀ :: (A₀ ++ w :: A) = X ++ [u] ∧ u.isAnyOf ["WHERE", "AND"] := by
  rcases List.eq_nil_or_concat' A with rfl | ⟨A, u, rfl⟩
  · exact ⟨t₀ :: A₀, w, rfl, isAnyOf_mono h.word (by decide)⟩
  · have hand : u.isWord "AND" := by simpa using h.front
    exact ⟨t₀ :: (A₀ ++ w :: A), u, by simp, isAnyOf_mono hand (by decide)⟩

variable {p : Span}

theorem conjunct_ne_empty {piece : Span} (hp : s.wherePredicate? = some p)
    (h : piece ∈ s.conjuncts p) : piece.start < piece.stop := by
  obtain ⟨t₀, rest, htokens⟩ := List.exists_cons_of_ne_nil s.tokens_ne_nil
  obtain ⟨A₀, w, A, M, C, hpiece, rfl⟩ := exists_conjunctAt htokens hp h
  cases M with
  | cons u M =>
    rw [List.length_cons]
    dsimp only
    omega
  | nil =>
    -- The word in front of the piece needs an operand.
    exfalso
    obtain ⟨X, u, hfront, hu⟩ := hpiece.exists_front
    have hsplit : s.tokens = X ++ u :: C := by
      rw [hpiece.split, hfront]
      simp
    have hstarts := startsOperand_behind hsplit (isAnyOf_mono hu (by decide))
    rw [hpiece.behind.not_startsOperand] at hstarts
    cases hstarts

theorem isBalanced_conjunct {piece : Span} (hp : s.wherePredicate? = some p)
    (h : piece ∈ s.conjuncts p) : IsBalanced (piece.slice s.tokens) := by
  obtain ⟨t₀, rest, htokens⟩ := List.exists_cons_of_ne_nil s.tokens_ne_nil
  obtain ⟨A₀, w, A, M, C, hpiece, rfl⟩ := exists_conjunctAt htokens hp h
  rw [hpiece.slice]
  apply isBalanced_of_split hpiece.split
  · rw [hpiece.depthBehind_front A, hpiece.start]
  · rw [depthBehind_append, hpiece.depthBehind_front A, ← depthBehind_append, hpiece.stop]

/-- Between the two positions there is one token, outside all parentheses, and it is this word. -/
structure JoinedBy (s : Statement) (word : String) (mid next : ℕ) : Prop where
  next_eq : next = mid + 1
  depth : s.depths[mid]? = some 0
  word : ∃ t, s.tokens[mid]? = some t ∧ t.isWord word

theorem tiles_conjuncts (hp : s.wherePredicate? = some p) :
    Tiles (s.JoinedBy "AND") p.start (s.conjuncts p) p.stop := by
  obtain ⟨-, hle, hlength⟩ := isRegion_wherePredicate? hp
  have hstop : p.start + (p.slice s.tokensAtDepth).length = p.stop := by
    rw [Span.slice, List.length_drop, List.length_take, length_tokensAtDepth]
    omega
  have hregion : (s.tokensAtDepth.take p.stop).drop p.start = p.slice s.tokensAtDepth := rfl
  have htiles := tiles_piecesFrom hregion fun piece hpiece => conjunct_ne_empty hp hpiece
  rw [hstop] at htiles
  refine htiles.mono ?_
  rintro mid next ⟨hnext, ⟨depth, t⟩, hentry, pending, hcut⟩
  obtain ⟨rfl, hword, -⟩ := of_cutConjuncts pending depth t hcut
  have hentry : s.tokensAtDepth[mid]? = some (0, t) := by
    rw [Option.mem_def, List.getElem?_take] at hentry
    split_ifs at hentry
    exact hentry
  obtain ⟨hdepth, htoken⟩ := List.getElem?_zip_eq_some.1 hentry
  exact ⟨hnext, hdepth, t, htoken, hword⟩

end Statement

end Sql
end QueryFuzz
