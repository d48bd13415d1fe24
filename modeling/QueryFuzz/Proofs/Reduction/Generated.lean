import QueryFuzz.Proofs.Grammar.Candidates
import QueryFuzz.Proofs.Reduction.Search

/-!
# Reducing generated queries

A generated query is a sentence, and a sentence is the text of a single statement in which points
stand between names only. Simplification keeps both, so a reduction of a generated query tries
nothing but statements of its kind, however the callback answers.
-/

namespace QueryFuzz
namespace Reduction

open Sql Draw
open Oracle (VerdictKind)
open Grammar (Config generate)

/-- A sentence is the text of a single statement. -/
theorem isSingle_of_isSentenceText {kind : StatementKind} {text : String}
    (h : IsSentenceText kind text) : IsSingle kind text := by
  obtain ⟨ts, hspells, hsentence⟩ := h
  obtain ⟨s, rfl, hkind⟩ := hsentence.exists_statement
  have hparse := hsentence.script_eq hspells
  exact ⟨s, hparse, hkind, inStatement_of_parseScript hparse s (by simp), hsentence.points⟩

/-- Where a table has a column, generating succeeds, and the query is a single statement. -/
theorem exists_generated (config : Config) (database : ℕ) {schema : Schema} (frontier : NameSet)
    (source : Source) (h : schema.usableTables ≠ []) :
    ∃ c rest kind, generate config database schema frontier source = (.ok c, rest) ∧
      kind ≠ .other ∧ IsSingle kind c.sql := by
  obtain ⟨c, rest, q, rule, hrule, parts, hgenerate, hsql, -, hfollows⟩ :=
    Grammar.exists_candidate config database frontier source h
  obtain ⟨kind, hkind, hsentence⟩ := hfollows.sentence
  have hother : ∀ rule ∈ Grammar.Nonterminal.statement.rules, .other ∉ Grammar.ruleKinds rule := by
    decide
  refine ⟨c, rest, kind, hgenerate, ?_, ?_⟩
  · rintro rfl
    exact hother rule hrule hkind
  · rw [hsql]
    exact isSingle_of_isSentenceText hsentence

/-- Every text that a reduction of a generated query hands out, and the one that it ends with, is a
single statement of the kind of the query. The callback may depend on all that it was handed. -/
theorem reduce_generated (config : Config) (database : ℕ) (schema : Schema) (frontier : NameSet)
    (source : Source) (h : schema.usableTables ≠ []) :
    ∃ c rest s, generate config database schema frontier source = (.ok c, rest) ∧
      parseScript c.sql = .ok [s] ∧
      ∀ (σ : Type) (reproduce : String → StateM σ (Option VerdictKind)) (kind : VerdictKind)
        (maxAttempts : ℕ) (state : σ),
        let plain := reduce maxAttempts c.sql kind reproduce state
        let run := reduce maxAttempts c.sql kind (logged reproduce) ([], state)
        run.1 = plain.1 ∧ run.2.2 = plain.2 ∧
          ∀ text ∈ plain.1.sql :: run.2.1,
            ∃ s', parseScript text = .ok [s'] ∧ s'.kind = s.kind := by
  obtain ⟨c, rest, kind, hgenerate, hother, hsingle⟩ :=
    exists_generated config database frontier source h
  have hsingle' := hsingle
  obtain ⟨s, hparse, rfl, -⟩ := hsingle'
  refine ⟨c, rest, s, hgenerate, hparse, ?_⟩
  intro σ reproduce verdict maxAttempts state
  have hkeep : ∀ text, IsSingle s.kind text → ∀ v ∈ smallerVariants text, IsSingle s.kind v :=
    fun text htext v hv => htext.of_mem_smallerVariants hother hv
  obtain ⟨hresult, hstate, hsql, handed, hlog, hall⟩ :=
    search_logged reproduce verdict maxAttempts hkeep maxAttempts hsingle
      (hkeep c.sql hsingle) [] state
  unfold reduce
  refine ⟨hresult, hstate, fun text htext => ?_⟩
  have htextSingle : IsSingle s.kind text := by
    rcases List.mem_cons.1 htext with rfl | htext
    · rw [← hresult]
      exact hsql
    · rw [hlog] at htext
      exact hall text (by simpa using htext)
  obtain ⟨s', hparse', hkind', -⟩ := htextSingle
  exact ⟨s', hparse', hkind'⟩

/-- A reduction of a query that was generated for the storefront. -/
theorem reduce_storefront :
    Schema.storefront.usableTables ≠ [] ∧
      ∃ c rest s, generate .standard 0 .storefront .empty (Source.ofSeed 7 0) = (.ok c, rest) ∧
        parseScript c.sql = .ok [s] ∧
        ∀ (σ : Type) (reproduce : String → StateM σ (Option VerdictKind)) (kind : VerdictKind)
          (maxAttempts : ℕ) (state : σ),
          let plain := reduce maxAttempts c.sql kind reproduce state
          let run := reduce maxAttempts c.sql kind (logged reproduce) ([], state)
          run.1 = plain.1 ∧ run.2.2 = plain.2 ∧
            ∀ text ∈ plain.1.sql :: run.2.1,
              ∃ s', parseScript text = .ok [s'] ∧ s'.kind = s.kind := by
  have husable : Schema.storefront.usableTables ≠ [] := by decide
  exact ⟨husable, reduce_generated .standard 0 .storefront .empty (.ofSeed 7 0) husable⟩

end Reduction
end QueryFuzz
