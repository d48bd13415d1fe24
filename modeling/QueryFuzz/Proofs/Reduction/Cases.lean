import QueryFuzz.Proofs.Reduction.Drops
import QueryFuzz.Proofs.Sql.Splits

/-!
# `CASE`s in conjuncts

A conjunct can be dropped or exchanged without harm to the `CASE`s around it if each `CASE` in it
has its `END` there. The pass that splits a predicate counts `BETWEEN`s but not `CASE`s, so it also
splits at an `AND` inside of a `CASE`; all conjuncts are whole just where it never does.
-/

namespace QueryFuzz
namespace Sql

open Reduction

/-! ## Runs next to each other -/

section Runs

variable {α : Type} {xs : List α} {i j k : ℕ}

theorem slice_eq_take_drop (i j : ℕ) (xs : List α) :
    (⟨i, j⟩ : Span).slice xs = (xs.drop i).take (j - i) := by
  rw [Span.slice, List.drop_take]

theorem slice_append_slice (hij : i ≤ j) (hjk : j ≤ k) (xs : List α) :
    (⟨i, j⟩ : Span).slice xs ++ (⟨j, k⟩ : Span).slice xs = (⟨i, k⟩ : Span).slice xs := by
  have hlength : k - i = (j - i) + (k - j) := by omega
  have hdrop : xs.drop j = (xs.drop i).drop (j - i) := by
    rw [List.drop_drop, Nat.add_sub_cancel' hij]
  rw [slice_eq_take_drop, slice_eq_take_drop, slice_eq_take_drop, hlength, List.take_add, hdrop]

theorem slice_succ {x : α} (h : xs[i]? = some x) : (⟨i, i + 1⟩ : Span).slice xs = [x] := by
  rw [slice_eq_take_drop, Nat.add_sub_cancel_left, List.take_one, List.head?_drop, h]
  rfl

theorem take_append_slice_append_drop (hij : i ≤ j) (xs : List α) :
    xs.take i ++ ((⟨i, j⟩ : Span).slice xs ++ xs.drop j) = xs := by
  have hdrop : xs.drop j = (xs.drop i).drop (j - i) := by
    rw [List.drop_drop, Nat.add_sub_cancel' hij]
  rw [slice_eq_take_drop, hdrop, List.take_append_drop, List.take_append_drop]

end Runs

/-! ## `CASE` and `END` -/

/-- How many `CASE`s are open behind a token, or none where an `END` has no `CASE`. -/
def casePast? (opened : ℕ) (t : Token) : Option ℕ :=
  if t.isWord "CASE" then some (opened + 1)
  else if t.isWord "END" then if opened = 0 then none else some (opened - 1)
  else some opened

/-- Every `CASE` has its `END`, and every `END` its `CASE`. -/
def NestsCases (ts : List Token) : Prop :=
  ts.foldlM casePast? 0 = some 0

instance (ts : List Token) : Decidable (NestsCases ts) :=
  inferInstanceAs (Decidable (_ = _))

variable {X M P Y : List Token}

theorem casePast?_add {opened opened' : ℕ} {t : Token} (h : casePast? opened t = some opened')
    (more : ℕ) : casePast? (opened + more) t = some (opened' + more) := by
  unfold casePast? at h ⊢
  split_ifs at h ⊢ with hcase hend hopened hmore
  · obtain rfl := Option.some.inj h
    rw [Nat.add_right_comm]
  · omega
  · obtain rfl := Option.some.inj h
    congr 1
    omega
  · obtain rfl := Option.some.inj h
    rfl

/-- More open `CASE`s in front stay open. -/
theorem foldlM_casePast?_add {opened opened' : ℕ} {ts : List Token}
    (h : ts.foldlM casePast? opened = some opened') (more : ℕ) :
    ts.foldlM casePast? (opened + more) = some (opened' + more) := by
  induction ts generalizing opened with
  | nil =>
    obtain rfl : opened = opened' := Option.some.inj h
    rfl
  | cons t ts ih =>
    rw [List.foldlM_cons] at h ⊢
    obtain ⟨next, hnext, hrest⟩ := Option.bind_eq_some_iff.1 h
    rw [casePast?_add hnext]
    exact ih hrest

/-- Whole tokens leave open what was open in front of them. -/
theorem NestsCases.foldlM (h : NestsCases M) (opened : ℕ) :
    M.foldlM casePast? opened = some opened := by
  have hadd := foldlM_casePast?_add h opened
  rwa [Nat.zero_add] at hadd

theorem nestsCases_append_iff (hX : NestsCases X) : NestsCases (X ++ Y) ↔ NestsCases Y := by
  rw [NestsCases, List.foldlM_append, hX.foldlM 0]
  rfl

theorem nestsCases_singleton {t : Token} (hcase : t.isWord "CASE" = false)
    (hend : t.isWord "END" = false) : NestsCases [t] := by
  rw [NestsCases, List.foldlM_cons, casePast?, hcase, hend]
  rfl

/-- Whole tokens can be exchanged for others. -/
theorem nestsCases_exchange_iff (hM : NestsCases M) (hP : NestsCases P) :
    NestsCases (X ++ (P ++ Y)) ↔ NestsCases (X ++ (M ++ Y)) := by
  simp only [NestsCases, List.foldlM_append, hM.foldlM, hP.foldlM]

theorem nestsCases_replace_iff {run : Span} {ts : List Token} (hle : run.start ≤ run.stop)
    (hrun : NestsCases (run.slice ts)) (hP : NestsCases P) :
    NestsCases (run.replace ts P) ↔ NestsCases ts := by
  rw [Span.replace, List.append_assoc, nestsCases_exchange_iff hrun hP,
    take_append_slice_append_drop hle]

/-! ## Conjuncts -/

theorem Tiles.exists_last {isGap : ℕ → ℕ → Prop} {start stop : ℕ} {spans : List Span}
    (h : Tiles isGap start spans stop) : ∃ c ∈ spans, c.stop = stop := by
  induction h with
  | last => exact ⟨_, List.mem_singleton.2 rfl, rfl⟩
  | cons _ _ _ ih =>
    obtain ⟨c, hc, hstop⟩ := ih
    exact ⟨c, List.mem_cons_of_mem _ hc, hstop⟩

theorem Tiles.exists_first {isGap : ℕ → ℕ → Prop} {start stop : ℕ} {spans : List Span}
    (h : Tiles isGap start spans stop) : ∃ c ∈ spans, c.start = start := by
  cases h with
  | last => exact ⟨_, List.mem_singleton.2 rfl, rfl⟩
  | cons => exact ⟨_, List.mem_cons_self, rfl⟩

/-- A span that is not the last one has a neighbour. -/
theorem Tiles.stop_or_exists_next {isGap : ℕ → ℕ → Prop} {start stop : ℕ} {spans : List Span}
    {c : Span} (h : Tiles isGap start spans stop) (hc : c ∈ spans) :
    c.stop = stop ∨ ∃ c' ∈ spans, isGap c.stop c'.start := by
  induction h with
  | last =>
    obtain rfl := List.mem_singleton.1 hc
    exact .inl rfl
  | cons _ hgap htiles ih =>
    rcases List.mem_cons.1 hc with rfl | hc
    · obtain ⟨c', hc', rfl⟩ := htiles.exists_first
      exact .inr ⟨c', List.mem_cons_of_mem _ hc', hgap⟩
    · refine (ih hc).imp id ?_
      rintro ⟨c', hc', hgap'⟩
      exact ⟨c', List.mem_cons_of_mem _ hc', hgap'⟩

theorem Tiles.start_lt_stop {isGap : ℕ → ℕ → Prop} {start stop : ℕ} {spans : List Span}
    {c : Span} (h : Tiles isGap start spans stop) (hgaps : ∀ mid next, isGap mid next → mid ≤ next)
    (hc : c ∈ spans) : start ≤ c.start ∧ c.start < c.stop := by
  induction h with
  | last hlt =>
    obtain rfl := List.mem_singleton.1 hc
    exact ⟨le_rfl, hlt⟩
  | cons hlt hgap _ ih =>
    have hle := hgaps _ _ hgap
    rcases List.mem_cons.1 hc with rfl | hc
    · exact ⟨le_rfl, hlt⟩
    · obtain ⟨hstart, hlt'⟩ := ih hc
      exact ⟨by omega, hlt'⟩

namespace Statement

variable {s : Statement} {p : Span}

/-- What joins conjuncts is whole. -/
theorem JoinedBy.nestsCases {mid next : ℕ} (h : s.JoinedBy "AND" mid next) :
    NestsCases ((⟨mid, next⟩ : Span).slice s.tokens) := by
  obtain ⟨t, ht, hand⟩ := h.word
  rw [h.next_eq, slice_succ ht]
  exact nestsCases_singleton (isAnyOf_eq_false hand (by decide))
    (isAnyOf_eq_false hand (by decide))

/-- Spans joined by `AND`s are whole if what ends with each of them is. -/
theorem nestsCases_of_tiles_iff {start stop : ℕ} {spans : List Span}
    (h : Tiles (s.JoinedBy "AND") start spans stop) :
    (∀ c ∈ spans, NestsCases (c.slice s.tokens)) ↔
      ∀ c ∈ spans, NestsCases ((⟨start, c.stop⟩ : Span).slice s.tokens) := by
  induction h with
  | last => simp
  | @cons start mid next stop spans hlt hgap htiles ih =>
    simp only [List.forall_mem_cons]
    apply and_congr_right
    intro hfirst
    rw [ih]
    have hmid : mid ≤ next := by
      rw [hgap.next_eq]
      exact Nat.le_succ mid
    have hfront : NestsCases ((⟨start, next⟩ : Span).slice s.tokens) := by
      rw [← slice_append_slice hlt.le hmid, nestsCases_append_iff hfirst]
      exact hgap.nestsCases
    apply forall₂_congr
    intro c hc
    have hbounds := htiles.start_lt_stop
      (fun mid next hgap => hgap.next_eq ▸ Nat.le_succ mid) hc
    rw [← slice_append_slice (by omega : start ≤ next) (by omega : next ≤ c.stop),
      nestsCases_append_iff hfront]

/-- All conjuncts are whole just where the predicate is and no `CASE` of it is open at a split. -/
theorem forall_nestsCases_iff (hp : s.wherePredicate? = some p) :
    (∀ c ∈ s.conjuncts p, NestsCases (c.slice s.tokens)) ↔
      NestsCases (p.slice s.tokens) ∧
        ∀ i, s.SplitsAt p i → NestsCases ((⟨p.start, i⟩ : Span).slice s.tokens) := by
  have htiles := tiles_conjuncts hp
  rw [nestsCases_of_tiles_iff htiles]
  constructor
  · intro h
    constructor
    · obtain ⟨c, hc, hstop⟩ := htiles.exists_last
      have hlast := h c hc
      rw [hstop] at hlast
      exact hlast
    · rintro i ⟨c, hc, -, -, rfl, -⟩
      exact h c hc
  · rintro ⟨hwhole, hsplits⟩ c hc
    rcases htiles.stop_or_exists_next hc with hstop | ⟨c', hc', hgap⟩
    · rw [hstop]
      exact hwhole
    · exact hsplits c.stop ⟨c, hc, c', hc', rfl, hgap.next_eq⟩

/-- A conjunct that is dropped goes with one `AND`. -/
theorem nestsCases_of_mem_partDrops (hp : s.wherePredicate? = some p)
    (hwhole : ∀ c ∈ s.conjuncts p, NestsCases (c.slice s.tokens)) {run : Span}
    (hrun : run ∈ partDrops (s.conjuncts p)) :
    run.start ≤ run.stop ∧ NestsCases (run.slice s.tokens) := by
  obtain ⟨before, c, c', after, h, hcases⟩ := exists_neighbours_of_mem_partDrops hrun
  have htiles := tiles_conjuncts hp
  have hc : c ∈ s.conjuncts p := by simp [h]
  have hc' : c' ∈ s.conjuncts p := by simp [h]
  have hlt := conjunct_ne_empty hp hc
  have hlt' := conjunct_ne_empty hp hc'
  rw [h] at htiles
  have hgap := htiles.isGap_of_append
  have hnext := hgap.next_eq
  rcases hcases with rfl | rfl
  · refine ⟨by dsimp only; omega, ?_⟩
    rw [← slice_append_slice hlt.le (by omega : c.stop ≤ c'.start),
      nestsCases_append_iff (hwhole c hc)]
    exact hgap.nestsCases
  · refine ⟨by dsimp only; omega, ?_⟩
    rw [← slice_append_slice (by omega : c.stop ≤ c'.start) hlt'.le,
      nestsCases_append_iff hgap.nestsCases]
    exact hwhole c' hc'

/-- Conjuncts do not cut a `CASE` just where no split of the predicate lies inside of one. Then
neither a dropped conjunct nor one exchanged for whole tokens separates a `CASE` from its `END`. -/
theorem conjuncts_nest_iff (hp : s.wherePredicate? = some p) :
    ((∀ c ∈ s.conjuncts p, NestsCases (c.slice s.tokens)) ↔
      NestsCases (p.slice s.tokens) ∧
        ∀ i, s.SplitsAt p i → NestsCases ((⟨p.start, i⟩ : Span).slice s.tokens)) ∧
    ((∀ c ∈ s.conjuncts p, NestsCases (c.slice s.tokens)) →
      (∀ run ∈ partDrops (s.conjuncts p),
        (NestsCases (run.replace s.tokens []) ↔ NestsCases s.tokens)) ∧
      ∀ c ∈ s.conjuncts p, ∀ piece, NestsCases piece →
        (NestsCases (c.replace s.tokens piece) ↔ NestsCases s.tokens)) := by
  refine ⟨forall_nestsCases_iff hp, ?_⟩
  intro hwhole
  constructor
  · intro run hrun
    obtain ⟨hle, hnests⟩ := nestsCases_of_mem_partDrops hp hwhole hrun
    exact nestsCases_replace_iff hle hnests rfl
  · intro c hc piece hpiece
    exact nestsCases_replace_iff (conjunct_ne_empty hp hc).le (hwhole c hc) hpiece

theorem conjuncts_nest_iff_outside :
    let p : Span := ⟨5, 17⟩
    ∃ s, Statement.parse "SELECT a FROM t WHERE CASE WHEN a THEN b ELSE c END AND d = 1" = .ok s ∧
      s.wherePredicate? = some p ∧ s.conjuncts p = [⟨5, 13⟩, ⟨14, 17⟩] ∧
      NestsCases (p.slice s.tokens) ∧
      ∀ run ∈ partDrops (s.conjuncts p), NestsCases (run.replace s.tokens []) := by
  intro p
  obtain ⟨s, hs, hp, hconjuncts, hnests, hwhole⟩ : ∃ s,
      parse "SELECT a FROM t WHERE CASE WHEN a THEN b ELSE c END AND d = 1" = .ok s ∧
        s.wherePredicate? = some p ∧ s.conjuncts p = [⟨5, 13⟩, ⟨14, 17⟩] ∧
        NestsCases s.tokens ∧ ∀ c ∈ s.conjuncts p, NestsCases (c.slice s.tokens) :=
    exists_of_parse (by decide +kernel)
  obtain ⟨hiff, hkeeps⟩ := conjuncts_nest_iff hp
  refine ⟨s, hs, hp, hconjuncts, (hiff.1 hwhole).1, ?_⟩
  intro run hrun
  exact ((hkeeps hwhole).1 run hrun).2 hnests

/-- An `AND` in the condition of a `CASE` is taken for one that joins conjuncts, and the reducer
tries what is left behind it. -/
theorem conjuncts_cut_condition :
    let p : Span := ⟨5, 15⟩
    ∃ s, Statement.parse "SELECT a FROM t WHERE CASE WHEN a AND b THEN c ELSE d END" = .ok s ∧
      NestsCases s.tokens ∧ s.wherePredicate? = some p ∧ NestsCases (p.slice s.tokens) ∧
      s.conjuncts p = [⟨5, 8⟩, ⟨9, 15⟩] ∧
      (∀ c ∈ s.conjuncts p, ¬NestsCases (c.slice s.tokens)) ∧
      ∃ s' ∈ statementSimplifications s, ¬NestsCases s'.tokens := by
  intro p
  exact exists_of_parse (by decide +kernel)

end Statement

end Sql
end QueryFuzz
