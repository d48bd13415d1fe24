import QueryFuzz.Proofs.Mutation.Tokens
import QueryFuzz.Proofs.Sql.Splits

/-!
# The `AND`s of `BETWEEN`s

Two passes tell the `AND` of a `BETWEEN` from one that joins two conditions. The search for
operators runs over the whole statement with a stack of the depths at which `BETWEEN`s wait; the
pass that cuts a predicate begins behind `WHERE` and only counts those outside all parentheses.
Where every `BETWEEN` finds its `AND` before the parenthesis around it closes, the count is the
number of zeros on the stack, and the two agree on each `AND` outside all parentheses.
-/

namespace QueryFuzz
namespace Mutation

open Sql

/-! ## The stack -/

/-- Is the token the `AND` of the innermost `BETWEEN` that waits? -/
def closesBetween (waiting : List ℕ) (entry : ℕ × Token) : Bool :=
  entry.2.isWord "AND" && waiting.head? == some entry.1

/-- The depths at which `BETWEEN`s wait behind a token. -/
def waitingPast (waiting : List ℕ) (entry : ℕ × Token) : List ℕ :=
  if entry.2.isWord "BETWEEN" then entry.1 :: waiting
  else if closesBetween waiting entry then waiting.tail
  else waiting

/-- The depths at which `BETWEEN`s wait behind some tokens. -/
def waitingBehind (waiting : List ℕ) (entries : List (ℕ × Token)) : List ℕ :=
  entries.foldl waitingPast waiting

theorem waitingBehind_append (waiting : List ℕ) (entries more : List (ℕ × Token)) :
    waitingBehind waiting (entries ++ more) = waitingBehind (waitingBehind waiting entries) more :=
  List.foldl_append

variable {waiting : List ℕ}

theorem betweenAndsFrom_cons (index depth : ℕ) (t : Token) (rest : List (ℕ × Token)) :
    betweenAndsFrom index waiting ((depth, t) :: rest) =
      (if closesBetween waiting (depth, t) then [index] else []) ++
        betweenAndsFrom (index + 1) (waitingPast waiting (depth, t)) rest := by
  rw [betweenAndsFrom, waitingPast, closesBetween]
  by_cases hbetween : t.isWord "BETWEEN"
  · have hand : t.isWord "AND" = false := isAnyOf_eq_false hbetween (by decide)
    simp [hbetween, hand]
  · rw [if_neg hbetween, if_neg hbetween]
    split_ifs <;> rfl

theorem le_of_mem_betweenAndsFrom {index i : ℕ} {entries : List (ℕ × Token)}
    (h : i ∈ betweenAndsFrom index waiting entries) : index ≤ i := by
  induction entries generalizing index waiting with
  | nil => cases h
  | cons entry entries ih =>
    rw [betweenAndsFrom_cons] at h
    rcases List.mem_append.1 h with h | h
    · split_ifs at h
      · exact (List.mem_singleton.1 h).ge
      · cases h
    · exact (Nat.le_succ index).trans (ih h)

/-- Which tokens are found depends on the stack behind those in front of them. -/
theorem mem_betweenAndsFrom_iff {index : ℕ} {X Y : List (ℕ × Token)} {entry : ℕ × Token} :
    index + X.length ∈ betweenAndsFrom index waiting (X ++ entry :: Y) ↔
      closesBetween (waitingBehind waiting X) entry := by
  induction X generalizing index waiting with
  | nil =>
    rw [List.nil_append, betweenAndsFrom_cons, List.mem_append]
    constructor
    · rintro (h | h)
      · split_ifs at h with hcloses
        · exact hcloses
        · cases h
      · have hbehind := le_of_mem_betweenAndsFrom h
        rw [List.length_nil] at hbehind
        omega
    · intro hcloses
      have hhere : closesBetween waiting entry = true := hcloses
      rw [if_pos hhere]
      exact .inl (List.mem_singleton.2 rfl)
  | cons u X ih =>
    have hindex : index + (u :: X).length = index + 1 + X.length := by
      rw [List.length_cons]
      omega
    rw [List.cons_append, betweenAndsFrom_cons, List.mem_append, hindex, ih]
    refine or_iff_right ?_
    split_ifs
    · rw [List.mem_singleton]
      omega
    · exact List.not_mem_nil

/-! ## The stack and the count -/

/-- What waits was met no deeper than where the pass is, and so many of it outside of all
parentheses. -/
structure Agrees (waiting : List ℕ) (depth pending : ℕ) : Prop where
  le_depth : ∀ e ∈ waiting, e ≤ depth
  count_zero : waiting.count 0 = pending

variable {depth pending : ℕ} {t : Token}

theorem agrees_nil : Agrees [] 0 0 :=
  ⟨by simp, rfl⟩

/-- Outside all parentheses there is a `BETWEEN` on the stack just where one is counted. -/
theorem Agrees.head?_eq_iff (h : Agrees waiting 0 pending) :
    waiting.head? = some 0 ↔ pending ≠ 0 := by
  rw [← h.count_zero]
  cases waiting with
  | nil => simp
  | cons e waiting =>
    obtain rfl : e = 0 := Nat.le_zero.1 (h.le_depth e List.mem_cons_self)
    simp

/-- The two passes agree on each `AND` outside all parentheses. -/
theorem Agrees.closesBetween_iff (h : Agrees waiting 0 pending) (hand : t.isWord "AND") :
    closesBetween waiting (0, t) ↔ ¬(cutConjuncts pending 0 t).1 = true := by
  have hbetween : t.isWord "BETWEEN" = false := isAnyOf_eq_false hand (by decide)
  have hhead := h.head?_eq_iff
  by_cases hpending : pending = 0
  · simp [closesBetween, cutConjuncts, hand, hbetween, hpending, hhead]
  · simp [closesBetween, cutConjuncts, hand, hbetween, hpending, hhead]

theorem Agrees.between (h : Agrees waiting depth pending) (ht : t.isWord "BETWEEN") :
    Agrees (waitingPast waiting (depth, t)) depth (cutConjuncts pending depth t).2 := by
  rw [waitingPast, if_pos ht]
  constructor
  · intro e he
    rcases List.mem_cons.1 he with rfl | he
    · exact le_rfl
    · exact h.le_depth e he
  · by_cases hdepth : depth = 0
    · simp [cutConjuncts, ht, hdepth, h.count_zero]
    · simp [cutConjuncts, hdepth, h.count_zero]

theorem Agrees.and (h : Agrees waiting depth pending) (ht : t.isWord "AND") :
    Agrees (waitingPast waiting (depth, t)) depth (cutConjuncts pending depth t).2 := by
  have hbetween : t.isWord "BETWEEN" = false := isAnyOf_eq_false ht (by decide)
  rw [waitingPast, if_neg (by simp [hbetween])]
  constructor
  · intro e he
    split_ifs at he
    · exact h.le_depth e (List.mem_of_mem_tail he)
    · exact h.le_depth e he
  · by_cases hdepth : depth = 0
    · subst hdepth
      have hhead := h.head?_eq_iff
      cases waiting with
      | nil =>
        obtain rfl : 0 = pending := h.count_zero
        simp [closesBetween, cutConjuncts, ht, hbetween]
      | cons e waiting =>
        obtain rfl : e = 0 := Nat.le_zero.1 (h.le_depth e List.mem_cons_self)
        have hpending : pending ≠ 0 := hhead.1 rfl
        have hcount := h.count_zero
        rw [List.count_cons_self] at hcount
        simp [closesBetween, cutConjuncts, ht, hbetween, hpending]
        omega
    · have htail : closesBetween waiting (depth, t) → waiting.tail.count 0 = waiting.count 0 := by
        intro hcloses
        cases waiting with
        | nil => rfl
        | cons e waiting =>
          obtain rfl : e = depth := by simpa [closesBetween, ht] using hcloses
          rw [List.tail_cons, List.count_cons_of_ne hdepth]
      have hcut : (cutConjuncts pending depth t).2 = pending := by simp [cutConjuncts, hdepth]
      rw [hcut, ← h.count_zero]
      split_ifs with hcloses
      · exact htail hcloses
      · rfl

/-- One token keeps the stack and the count in step. A parenthesis that closes must not leave a
`BETWEEN` of its inside on the stack. -/
theorem Agrees.step (h : Agrees waiting depth pending)
    (hclose : t.kind = .rightParen → ∀ e ∈ waiting, e < depth) :
    Agrees (waitingPast waiting (depth, t)) (depthPast depth t)
      (cutConjuncts pending depth t).2 := by
  by_cases hbetween : t.isWord "BETWEEN"
  · rw [depthPast_of_keyword (kind_of_isWord hbetween)]
    exact h.between hbetween
  by_cases hand : t.isWord "AND"
  · rw [depthPast_of_keyword (kind_of_isWord hand)]
    exact h.and hand
  have hstack : waitingPast waiting (depth, t) = waiting := by
    simp [waitingPast, closesBetween, hbetween, hand]
  have hcount : (cutConjuncts pending depth t).2 = pending := by
    simp [cutConjuncts, hbetween, hand]
  rw [hstack, hcount]
  refine ⟨?_, h.count_zero⟩
  intro e he
  have hle := h.le_depth e he
  unfold depthPast
  split
  · omega
  · rename_i hkind
    have hlt := hclose hkind e he
    omega
  · exact hle

/-- A run of tokens keeps them in step. -/
theorem Agrees.run {ts : List Token} (h : Agrees waiting depth pending)
    (hclose : ∀ X t Y, ts = X ++ t :: Y → t.kind = .rightParen →
      ∀ e ∈ waitingBehind waiting (withDepths depth X), e < depthBehind depth X) :
    Agrees (waitingBehind waiting (withDepths depth ts)) (depthBehind depth ts)
      (stateBehind cutConjuncts pending (withDepths depth ts)) := by
  induction ts generalizing waiting depth pending with
  | nil => exact h
  | cons t ts ih =>
    refine ih (h.step (hclose [] t ts rfl)) ?_
    intro X u Y hsplit
    exact hclose (t :: X) u Y (by rw [hsplit, List.cons_append])

/-! ## Statements -/

variable {s : Statement} {p : Span} {i : ℕ}

/-- The depths at which `BETWEEN`s wait in front of a token. -/
def waitingAt (s : Statement) (i : ℕ) : List ℕ :=
  waitingBehind [] (s.tokensAtDepth.take i)

/-- No `BETWEEN` waits when a parenthesis around it closes. -/
def ClosesBetweens (s : Statement) : Prop :=
  ∀ i < s.tokens.length, s.tokens[i]?.any (·.kind == .rightParen) →
    ∀ e ∈ waitingAt s i, e < s.depths[i]?.getD 0

instance (s : Statement) : Decidable (ClosesBetweens s) :=
  inferInstanceAs (Decidable (∀ i < s.tokens.length, _))

theorem waitingAt_of_split {X Y : List Token} (htokens : s.tokens = X ++ Y) :
    waitingAt s X.length = waitingBehind [] (withDepths 0 X) := by
  have hentries : s.tokensAtDepth = withDepths 0 X ++ withDepths (depthBehind 0 X) Y := by
    rw [← withDepths_append, ← htokens]
    rfl
  rw [waitingAt, hentries, List.take_left' (length_withDepths 0 X)]

/-- Behind the tokens in front of some token of the predicate, the stack of the one pass and the
count of the other agree. -/
theorem agrees_of_predicateAt {A X Y B : List Token} {t : Token}
    (h : s.PredicateAt p A (X ++ t :: Y) B) (hclosed : ClosesBetweens s)
    (hfront : waitingAt s (p.start - 1) = []) :
    Agrees (waitingBehind [] (withDepths 0 (A ++ X))) (depthBehind 0 X)
      (Statement.pendingBehind X) := by
  obtain ⟨A', w, rfl, hword⟩ := h.word
  have hsplit : s.tokens = A' ++ w :: (X ++ t :: Y ++ B) := by
    rw [h.split]
    simp
  have hwhere : waitingBehind [] (withDepths 0 (A' ++ [w])) = [] := by
    have hlength : p.start - 1 = A'.length := by
      rw [h.start, List.length_append, List.length_singleton, Nat.add_sub_cancel]
    rw [hlength, waitingAt_of_split hsplit] at hfront
    have hbetween : w.isWord "BETWEEN" = false := isAnyOf_eq_false hword (by decide)
    rw [withDepths_append, waitingBehind_append, hfront, withDepths_cons]
    simp [waitingBehind, withDepths, depthsFrom, waitingPast, closesBetween, hbetween]
  rw [withDepths_append, h.front, waitingBehind_append, hwhere]
  apply agrees_nil.run
  rintro X' u Y' rfl hkind
  have hsplit' : s.tokens = (A' ++ [w] ++ X') ++ u :: (Y' ++ t :: Y ++ B) := by
    rw [h.split]
    simp
  have hlt : (A' ++ [w] ++ X').length < s.tokens.length := by
    rw [hsplit']
    simp
  have htoken := Statement.tokens_of_split hsplit'
  have hinside := hclosed _ hlt (by rw [htoken, Option.any_some, hkind]; rfl)
  rw [waitingAt_of_split hsplit', Statement.depths_of_split hsplit', withDepths_append, h.front,
    waitingBehind_append, hwhere, depthBehind_append, h.front] at hinside
  exact hinside

theorem mem_operatorSites_iff {alike : List String} : (i, alike) ∈ operatorSites s ↔
    ∃ t, s.tokens[i]? = some t ∧ operatorClass? s (betweenAnds s) i t = some alike := by
  constructor
  · intro h
    obtain ⟨t, ht, -, hclass⟩ := of_mem_operatorSites h
    exact ⟨t, ht, hclass⟩
  · rintro ⟨t, ht, hclass⟩
    apply List.mem_filterMap.2
    refine ⟨(t, i), List.mem_zipIdx_iff_getElem?.2 ht, ?_⟩
    dsimp only
    rw [hclass]
    rfl

/-- An `AND` can be exchanged for an `OR` unless it belongs to a `BETWEEN`. -/
theorem forall_notMem_operatorSites_iff (ht : s.tokens[i]? = some t) (hand : t.isWord "AND") :
    (∀ alike, (i, alike) ∉ operatorSites s) ↔ i ∈ betweenAnds s := by
  have hoperator : (t.kind == .operator) = false := by
    rw [kind_of_isWord hand]
    rfl
  have hor : t.isWord "OR" = false := isAnyOf_eq_false hand (by decide)
  have hlike : t.isWord "LIKE" = false := isAnyOf_eq_false hand (by decide)
  have hglob : t.isWord "GLOB" = false := isAnyOf_eq_false hand (by decide)
  have hclass : operatorClass? s (betweenAnds s) i t =
      if (betweenAnds s).contains i then none else some ["AND", "OR"] := by
    rw [operatorClass?]
    simp only [hoperator, hand, hor, hlike, hglob]
    split_ifs <;> simp_all
  simp only [mem_operatorSites_iff, ht, Option.some.injEq, exists_eq_left', hclass]
  by_cases hmem : i ∈ betweenAnds s
  · simp [hmem]
  · simp [hmem]

/-- Where no `BETWEEN` waits when a parenthesis around it closes or when the `WHERE` is reached,
an `AND` of the predicate outside all parentheses is left alone by the exchange of operators just
where the predicate is not split. -/
theorem mem_betweenAnds_iff_not_splitsAt (hp : s.wherePredicate? = some p)
    (hclosed : ClosesBetweens s) (hfront : waitingAt s (p.start - 1) = []) (hi : p.start ≤ i)
    (hlt : i < p.stop) (hdepth : s.depths[i]? = some 0)
    (hand : s.tokens[i]?.any (·.isWord "AND")) :
    (i ∈ betweenAnds s ↔ ¬s.SplitsAt p i) ∧
      (i ∈ betweenAnds s ↔ ∀ alike, (i, alike) ∉ operatorSites s) := by
  obtain ⟨A, R, B, hplace⟩ := Statement.exists_predicateAt hp
  obtain ⟨X, t, Y, rfl, rfl⟩ := hplace.exists_split hi hlt
  have hsplit : s.tokens = (A ++ X) ++ t :: (Y ++ B) := by
    rw [hplace.split]
    simp
  have hposition : A.length + X.length = (A ++ X).length := List.length_append.symm
  have htoken : s.tokens[A.length + X.length]? = some t := by
    rw [hposition]
    exact Statement.tokens_of_split hsplit
  have houtside : depthBehind 0 (A ++ X) = 0 := by
    rw [hposition, Statement.depths_of_split hsplit] at hdepth
    exact Option.some.inj hdepth
  have hword : t.isWord "AND" := by rwa [htoken, Option.any_some] at hand
  have hzero : depthBehind 0 X = 0 := by rwa [depthBehind_append, hplace.front] at houtside
  have hagrees := agrees_of_predicateAt hplace hclosed hfront
  rw [hzero] at hagrees
  have hmem : A.length + X.length ∈ betweenAnds s ↔
      closesBetween (waitingBehind [] (withDepths 0 (A ++ X))) (0, t) := by
    have hentries : s.tokensAtDepth = withDepths 0 (A ++ X) ++ (0, t) :: withDepths 0 (Y ++ B) := by
      have hpast : depthPast 0 t = 0 := depthPast_of_keyword (kind_of_isWord hword) 0
      have hall : s.tokensAtDepth = withDepths 0 s.tokens := rfl
      rw [hall, hsplit, withDepths_append, withDepths_cons, houtside, hpast]
    have hlength : 0 + (withDepths 0 (A ++ X)).length = A.length + X.length := by
      rw [length_withDepths, Nat.zero_add, hposition]
    rw [betweenAnds, hentries, ← hlength, mem_betweenAndsFrom_iff]
  constructor
  · rw [hmem, hplace.splitsAt_iff, hzero, hagrees.closesBetween_iff hword]
  · exact (forall_notMem_operatorSites_iff htoken hword).symm

theorem mem_betweenAnds_iff_not_splitsAt_nested :
    let p : Span := ⟨5, 18⟩
    ∃ s, Statement.parse "SELECT a FROM t WHERE a BETWEEN (b BETWEEN 1 AND 2) AND 3 AND c" = .ok s ∧
      s.wherePredicate? = some p ∧
      (14 ∈ betweenAnds s ∧ ¬s.SplitsAt p 14 ∧ ∀ alike, (14, alike) ∉ operatorSites s) ∧
      16 ∉ betweenAnds s ∧ s.SplitsAt p 16 := by
  intro p
  obtain ⟨s, hs, hp, hbetweens, hclosed, hfront, hands⟩ : ∃ s,
      Statement.parse "SELECT a FROM t WHERE a BETWEEN (b BETWEEN 1 AND 2) AND 3 AND c" = .ok s ∧
        s.wherePredicate? = some p ∧ betweenAnds s = [11, 14] ∧ ClosesBetweens s ∧
          waitingAt s 4 = [] ∧ ∀ i ∈ [14, 16],
            s.depths[i]? = some 0 ∧ s.tokens[i]?.any (·.isWord "AND") :=
    Statement.exists_of_parse (by decide +kernel)
  obtain ⟨hdepth, hand⟩ := hands 14 (by decide)
  obtain ⟨hdepth', hand'⟩ := hands 16 (by decide)
  have howned := mem_betweenAnds_iff_not_splitsAt hp hclosed hfront (by decide) (by decide)
    hdepth hand
  have hfree := mem_betweenAnds_iff_not_splitsAt hp hclosed hfront (by decide) (by decide)
    hdepth' hand'
  have hmem : 14 ∈ betweenAnds s := by simp [hbetweens]
  have hnot : 16 ∉ betweenAnds s := by simp [hbetweens]
  refine ⟨s, hs, hp, ⟨hmem, howned.1.1 hmem, howned.2.1 hmem⟩, hnot, ?_⟩
  by_contra hsplits
  exact hnot (hfree.1.2 hsplits)

end Mutation
end QueryFuzz
