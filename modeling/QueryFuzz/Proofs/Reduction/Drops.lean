import QueryFuzz.Proofs.Mutation.Orders
import QueryFuzz.Proofs.Reduction.Edits
import QueryFuzz.Proofs.Sql.Removal

/-!
# Drops that are never refused

Both the mutator and the reducer check what is left of a statement when they drop a part of it. For
an optional clause and for a conjunct the check always passes, so an operator that drops a clause
does not decline where it applies, and no such edit is lost.
-/

namespace QueryFuzz

open Sql Draw Mutation Reduction

/-! ## Dropping a clause at random -/

namespace Mutation

variable {s : Statement}

/-- Where there is a run to drop, one is dropped. -/
theorem yields_deleteClause (h : deletableRuns s ≠ []) :
    (deleteClause s).run.Yields fun o =>
      ∃ run ∈ deletableRuns s, o = some (run.replace s.tokens []) := by
  apply Sampling.Yields.bind (Sampling.yields_choose "mutation.site" (deletableRuns s))
  rintro o (⟨run, hrun, rfl⟩ | ⟨hnil, -⟩)
  · exact Sampling.yields_pure ⟨run, hrun, rfl⟩
  · exact absurd hnil h

theorem canLose_of_mem_deletableRuns {run : Span} (h : run ∈ deletableRuns s) :
    s.CanLose run := by
  obtain ⟨c, hc, c', hc', hkind, rfl, hle⟩ := isRun_of_mem_deletableRuns h
  exact Statement.canLose_clauses hc hc' hkind hle

/-- An operator keeps its promise with a run that the statement can lose. -/
theorem keepsGuarantee_of_canLose (op : Operator) {run : Span} (h : s.CanLose run) :
    op.keepsGuarantee s (run.replace s.tokens []) := by
  obtain ⟨s', hsplice, hkind⟩ := h
  rw [Statement.splice] at hsplice
  rw [Operator.keepsGuarantee, hsplice]
  simp [hkind]

/-- Dropping a clause does not decline where it applies. -/
theorem isSome_transform_clauseDeletion (m : Material)
    (h : Operator.clauseDeletion.applies m s) (keys : KeyStream) :
    ((Operator.clauseDeletion.transform m s).run keys).value.isSome := by
  have hruns : deletableRuns s ≠ [] := by
    simpa [Operator.applies] using h
  refine Sampling.Yields.run (P := fun o : Option (List Token) => o.isSome) ?_ keys
  apply Sampling.Yields.bind (yields_deleteClause hruns)
  rintro o ⟨run, hrun, rfl⟩
  apply Sampling.yields_pure
  have hkeeps := keepsGuarantee_of_canLose .clauseDeletion (canLose_of_mem_deletableRuns hrun)
  rw [if_pos hkeeps]
  rfl

end Mutation

/-! ## Dropping a part on purpose -/

namespace Reduction

variable {s : Statement}

/-- The reducer tries what is left of a statement that can lose a run. -/
theorem exists_simplification {run : Span} (hedit : (run, []) ∈ edits s) (h : s.CanLose run) :
    ∃ s' ∈ statementSimplifications s,
      s'.tokens = run.replace s.tokens [] ∧ s'.kind = s.kind := by
  obtain ⟨s', hsplice, hkind⟩ := h
  refine ⟨s', ?_, Statement.tokens_of_ofTokens hsplice, hkind⟩
  apply List.mem_filterMap.2
  refine ⟨(run, []), hedit, ?_⟩
  rw [applyEdit?, hsplice]
  exact if_pos (.inl hkind)

theorem mem_edits_of_mem_clauseDrops {run : Span} (h : run ∈ clauseDrops s) :
    (run, []) ∈ edits s := by
  simp [edits, h]

theorem mem_edits_of_mem_conjunctDrops {run : Span} (h : run ∈ partDrops (conjunctsOf s)) :
    (run, []) ∈ edits s := by
  simp [edits, h]

theorem mem_clauseDrops_of_isOptional {c : Clause} (hc : c ∈ s.clauses) (h : c.kind.isOptional) :
    c.span ∈ clauseDrops s := by
  apply List.mem_flatMap.2
  refine ⟨c, hc, ?_⟩
  simp [h]

end Reduction

namespace Sql
namespace Statement

variable {s : Statement} {p : Span}

/-- The clauses of a statement, the head first, cover its tokens without gap or overlap, and each
is balanced. Every other clause can be dropped, alone or as a `GROUP BY` with the `HAVING` behind
it, so neither the mutator nor the reducer is ever refused when it drops one. -/
theorem clauses_tile_and_can_go (s : Statement) :
    (∃ c more, s.clauses = c :: more ∧ c.kind = .head ∧ ∀ c' ∈ more, c'.kind ≠ .head) ∧
    Tiles (· = ·) 0 (s.clauses.map (·.span)) s.tokens.length ∧
    (∀ c ∈ s.clauses, IsBalanced (c.span.slice s.tokens)) ∧
    (∀ c ∈ s.clauses, c.kind ≠ .head → s.CanLose c.span) ∧
    (∀ before g h after, s.clauses = before ++ g :: h :: after → g.kind = .groupBy →
      h.kind = .having → s.CanLose ⟨g.span.start, h.span.stop⟩) ∧
    (∀ m keys, Operator.clauseDeletion.applies m s →
      ((Operator.clauseDeletion.transform m s).run keys).value.isSome) ∧
    (∀ c ∈ s.clauses, c.kind.isOptional → (c.span, []) ∈ edits s ∧
      ∃ s' ∈ statementSimplifications s,
        s'.tokens = c.span.replace s.tokens [] ∧ s'.kind = s.kind) := by
  have hgo : ∀ c ∈ s.clauses, c.kind ≠ .head → s.CanLose c.span := by
    intro c hc hkind
    exact canLose_clauses hc hc hkind (mem_clauses hc).2.1.le
  refine ⟨?_, s.tiles_clauses, fun c hc => isBalanced_clause hc, hgo, ?_, ?_, ?_⟩
  · obtain ⟨c, more, hclauses, hkind, -, hmore⟩ := s.exists_clauses_eq
    exact ⟨c, more, hclauses, hkind, hmore⟩
  · intro before g h after hclauses hg hh
    have hmemg : g ∈ s.clauses := by simp [hclauses]
    have hmemh : h ∈ s.clauses := by simp [hclauses]
    have htiles := s.tiles_clauses
    rw [hclauses, List.map_append, List.map_cons, List.map_cons] at htiles
    have hgap : g.span.stop = h.span.start := htiles.isGap_of_append
    have hltg := (mem_clauses hmemg).2.1
    have hlth := (mem_clauses hmemh).2.1
    exact canLose_clauses hmemg hmemh (by simp [hg]) (by omega)
  · intro m keys happlies
    exact isSome_transform_clauseDeletion m happlies keys
  · intro c hc hoptional
    have hedit := mem_edits_of_mem_clauseDrops (mem_clauseDrops_of_isOptional hc hoptional)
    exact ⟨hedit, exists_simplification hedit (hgo c hc (kind_of_isOptional hoptional))⟩

/-- Neighbouring conjuncts are joined by one `AND`, and each can go with it. -/
theorem canLose_of_conjuncts_eq (hp : s.wherePredicate? = some p) {before after : List Span}
    {c c' : Span} (h : s.conjuncts p = before ++ c :: c' :: after) :
    s.CanLose ⟨c.start, c'.start⟩ ∧ s.CanLose ⟨c.stop, c'.stop⟩ := by
  have htiles := tiles_conjuncts hp
  rw [h] at htiles
  have hgap := htiles.isGap_of_append
  constructor
  · exact canLose_conjunct_and hp (by simp [h]) hgap
  · exact canLose_and_conjunct hp (by simp [h]) hgap

/-- The conjuncts of a predicate cover it but for one `AND` outside all parentheses between
neighbours, and each is balanced. Each of several can be dropped with the `AND` on either side of
it, and the reducer is never refused when it does so. -/
theorem conjuncts_tile_and_can_go (hp : s.wherePredicate? = some p) :
    Tiles (s.JoinedBy "AND") p.start (s.conjuncts p) p.stop ∧
    (∀ c ∈ s.conjuncts p, IsBalanced (c.slice s.tokens)) ∧
    (∀ before c c' after, s.conjuncts p = before ++ c :: c' :: after →
      s.CanLose ⟨c.start, c'.start⟩ ∧ s.CanLose ⟨c.stop, c'.stop⟩) ∧
    (∀ run ∈ partDrops (s.conjuncts p), (run, []) ∈ edits s ∧
      ∃ s' ∈ statementSimplifications s,
        s'.tokens = run.replace s.tokens [] ∧ s'.kind = s.kind) := by
  have hgo : ∀ before c c' after, s.conjuncts p = before ++ c :: c' :: after →
      s.CanLose ⟨c.start, c'.start⟩ ∧ s.CanLose ⟨c.stop, c'.stop⟩ :=
    fun _ _ _ _ h => canLose_of_conjuncts_eq hp h
  refine ⟨tiles_conjuncts hp, fun c hc => isBalanced_conjunct hp hc, hgo, ?_⟩
  intro run hrun
  have hconjuncts : conjunctsOf s = s.conjuncts p := by
    rw [conjunctsOf, hp]
  have hedit : (run, []) ∈ edits s := by
    rw [← hconjuncts] at hrun
    exact mem_edits_of_mem_conjunctDrops hrun
  obtain ⟨before, c, c', after, h, hcases⟩ := exists_neighbours_of_mem_partDrops hrun
  obtain ⟨hfirst, hlater⟩ := hgo before c c' after h
  refine ⟨hedit, exists_simplification hedit ?_⟩
  rcases hcases with rfl | rfl
  · exact hfirst
  · exact hlater

theorem conjuncts_tile_and_can_go_between :
    let p : Span := ⟨5, 18⟩
    ∃ s, Statement.parse "SELECT a FROM t WHERE (a OR b) AND c BETWEEN 1 AND 2 AND d" = .ok s ∧
      s.wherePredicate? = some p ∧ s.conjuncts p = [⟨5, 10⟩, ⟨11, 16⟩, ⟨17, 18⟩] ∧
      Tiles (s.JoinedBy "AND") 5 (s.conjuncts p) 18 ∧
      ∀ run ∈ partDrops (s.conjuncts p), ∃ s' ∈ statementSimplifications s,
        s'.tokens = run.replace s.tokens [] ∧ s'.kind = s.kind := by
  intro p
  have hparse : ((Statement.parse
      "SELECT a FROM t WHERE (a OR b) AND c BETWEEN 1 AND 2 AND d").map fun s =>
        (s.wherePredicate?, s.conjuncts p)) =
      .ok (some p, [⟨5, 10⟩, ⟨11, 16⟩, ⟨17, 18⟩]) := by
    decide +kernel
  cases hs : Statement.parse "SELECT a FROM t WHERE (a OR b) AND c BETWEEN 1 AND 2 AND d" with
  | error e => simp [hs, Except.map] at hparse
  | ok s =>
    rw [hs] at hparse
    obtain ⟨hp, hconjuncts⟩ := Prod.mk.inj (Except.ok.inj hparse)
    obtain ⟨htiles, -, -, hdrops⟩ := conjuncts_tile_and_can_go hp
    exact ⟨s, rfl, hp, hconjuncts, htiles, fun run hrun => (hdrops run hrun).2⟩

end Statement
end Sql
end QueryFuzz
