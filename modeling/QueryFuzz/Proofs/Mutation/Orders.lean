import QueryFuzz.Proofs.Mutation.Kind
import QueryFuzz.Proofs.Sql.TotalOrders

/-!
# Clauses come and go around an order

A clause is dropped with everything up to the next one, and a clause that is added stands where one
may begin. Neither makes an order of other tokens, and neither adds a select item.
-/

namespace QueryFuzz
namespace Mutation

open Sql Draw

/-! ## What operators preserve -/

/-- Every statement of the same kind that is made of these tokens keeps the orders. -/
def Preserves (s : Statement) (ts : List Token) : Prop :=
  ∀ r : Statement, r.tokens = ts → r.kind = s.kind → KeepsOrders s r

section Operators

variable {m : Material} {s : Statement} {t₀ : Token} {rest : List Token}

/-! ## Dropping clauses -/

/-- What is dropped reaches from the start of a clause to the end of one. -/
structure IsRun (clauses : List Clause) (run : Span) : Prop where
  exists_clauses : ∃ c ∈ clauses, ∃ c' ∈ clauses, c.kind ≠ .head ∧
    run = ⟨c.span.start, c'.span.stop⟩ ∧ c.span.start ≤ c'.span.stop

theorem IsRun.of_mem {clauses : List Clause} {c : Clause} (hc : c ∈ clauses)
    (hkind : c.kind ≠ .head) (hle : c.span.start ≤ c.span.stop) : IsRun clauses c.span :=
  ⟨c, hc, c, hc, hkind, rfl, hle⟩

theorem isRun_of_mem_optionalRuns {clauses : List Clause} {run : Span}
    (hsorted : clauses.Pairwise fun c c' => c.span.start ≤ c'.span.start)
    (hspans : ∀ c ∈ clauses, c.span.start ≤ c.span.stop) (h : run ∈ optionalRuns clauses) :
    IsRun clauses run := by
  have hoptional : ∀ {c : Clause}, c.kind.isOptional → c.kind ≠ .head := by
    intro c hc hhead
    rw [hhead] at hc
    cases hc
  induction clauses with
  | nil => cases h
  | cons c clauses ih =>
    obtain ⟨hfirst, hsorted⟩ := List.pairwise_cons.1 hsorted
    obtain ⟨hspan, hspans⟩ := List.forall_mem_cons.1 hspans
    cases clauses with
    | nil =>
      rw [optionalRuns] at h
      split_ifs at h with hc
      · obtain rfl := List.mem_singleton.1 h
        have hkind := hoptional (Bool.and_eq_true_iff.1 hc).1
        exact .of_mem List.mem_cons_self hkind hspan
      · cases h
    | cons next clauses =>
      have hmore : run ∈ optionalRuns (next :: clauses) → IsRun (c :: next :: clauses) run := by
        intro hrun
        obtain ⟨c₁, hc₁, c₂, hc₂, hrest⟩ := ih hsorted hspans hrun
        exact ⟨c₁, List.mem_cons_of_mem c hc₁, c₂, List.mem_cons_of_mem c hc₂, hrest⟩
      rw [optionalRuns] at h
      split_ifs at h with hc hgroup
      · exact hmore h
      · rcases List.mem_cons.1 h with rfl | h
        · have hkind : c.kind ≠ .head := by
            rw [Bool.and_eq_true, beq_iff_eq] at hgroup
            simp [hgroup.1]
          have hle := (hfirst next List.mem_cons_self).trans (hspans next List.mem_cons_self)
          exact ⟨c, List.mem_cons_self, next, by simp, hkind, rfl, hle⟩
        · exact hmore h
      · rcases List.mem_cons.1 h with rfl | h
        · have hkind : c.kind ≠ .head := by
            refine hoptional ?_
            by_contra hnone
            exact hc (by simp [hnone])
          exact .of_mem List.mem_cons_self hkind hspan
        · exact hmore h

theorem isRun_of_mem_deletableRuns {run : Span} (h : run ∈ deletableRuns s) :
    IsRun s.clauses run := by
  have hspans : ∀ c ∈ s.clauses, c.span.start ≤ c.span.stop := by
    intro c hc
    have hlt := (Statement.mem_clauses hc).2.1
    omega
  rcases List.mem_append.1 h with h | h
  · exact isRun_of_mem_optionalRuns s.pairwise_clauses hspans h
  · obtain ⟨c, hc, rfl⟩ := Option.map_eq_some_iff.1 (Option.mem_toList.1 h)
    obtain ⟨hmem, hkind⟩ := Statement.clause?_mem hc
    exact .of_mem hmem (by simp [hkind]) (hspans c hmem)

theorem preserves_deleteClause (hkind : s.kind = .select) (hplain : PlainOrders s) :
    Gives (Preserves s) (deleteClause s) := by
  refine (gives_chooseSite _ _).bind fun run hrun => gives_pure fun r hr hkind' => ?_
  obtain ⟨t₀, rest, htokens⟩ := List.exists_cons_of_ne_nil s.tokens_ne_nil
  obtain ⟨c, hc, c', hc', hhead, rfl, hle⟩ := isRun_of_mem_deletableRuns hrun
  -- What is dropped lies between two boundaries.
  obtain ⟨A, M, B, rfl, hstart, hstop, hA, hB⟩ := Statement.exists_run htokens hc hc' hhead hle
  have hclosed := hB.closed
  rw [depthBehind_append, hA.closed] at hclosed
  have hr' : r.tokens = t₀ :: (A ++ B) := by
    rw [hr, htokens, ← List.cons_append]
    apply Span.replace_append
    · rw [hstart, List.length_cons, Nat.add_comm]
    · rw [hstart, hstop]
  refine keepsOrders_of_boundary htokens hr' hkind hkind' hplain hA hB.rest hB.notBy ?_
  intro order horder
  rw [← hclosed] at horder
  exact horder.append_left

/-! ## Adding clauses -/

/-- The words of a new clause as tokens. -/
def Addition.words : Addition → List Token
  | .filter => [.ofKeyword "WHERE"]
  | .join => [.ofKeyword "LEFT", .ofKeyword "JOIN"]
  | .order => [.ofKeyword "ORDER", .ofKeyword "BY"]
  | .limit => [.ofKeyword "LIMIT"]

theorem opens_front (addition : Addition) : Opens addition.front addition.words := by
  cases addition <;> exact opens_of_fixedTokens? (by decide +kernel)

theorem keyword_of_mem_words {addition : Addition} :
    ∀ t ∈ addition.words, t.kind = .keyword := by
  cases addition <;> decide

theorem not_order_of_mem_words {addition : Addition} (h : addition ≠ .order) :
    ∀ t ∈ addition.words, t.isWord "ORDER" = false := by
  cases addition with
  | order => exact absurd rfl h
  | _ => decide +kernel

/-- The words of a new clause begin one. -/
theorem clauseAhead_words {addition : Addition} (h : addition ≠ .order) (k : StatementKind)
    (rest : List Token) : clauseAhead k (addition.words ++ rest) := by
  cases addition with
  | order => exact absurd rfl h
  | filter =>
    have hword : (Token.ofKeyword "WHERE").isWord "WHERE" := by decide +kernel
    show clauseAhead k (_ :: rest)
    rw [clauseAhead, clauseAt?_filter_iff.2 ⟨rfl, hword⟩]
    rfl
  | join =>
    have hmodifier : isJoinModifier (.ofKeyword "LEFT") := by decide +kernel
    have hjoin : (Token.ofKeyword "JOIN").isWord "JOIN" := by decide +kernel
    refine clauseAhead_of_join (@joinAhead_modifiers [.ofKeyword "LEFT"] rest _ hjoin ?_)
    simpa using hmodifier
  | limit =>
    have hlimit : (Token.ofKeyword "LIMIT").isWord "LIMIT" := by decide +kernel
    show clauseAhead k (_ :: rest)
    rw [clauseAhead, clauseAt?_limit_iff.2 hlimit]
    rfl

/-- A clause is added behind another one, in front of a limit or behind all of them, and an order
only where there is none. -/
theorem of_mem_additions {addition : Addition} {position : ℕ} (hkind : s.kind = .select)
    (h : (addition, position) ∈ additions m.schema s) :
    ((∃ c ∈ s.clauses, position = c.span.stop) ∨
      (∃ c ∈ s.clauses, c.kind = .limit ∧ position = c.span.start) ∨
      position = s.tokens.length) ∧
    (addition = .order → s.hasClause .orderBy = false) := by
  rw [additions, hkind] at h
  dsimp only at h
  unfold selectAdditions at h
  dsimp only at h
  split at h
  · cases h
  · rename_i sourceEnd hend
    have hsource : ∃ c ∈ s.clauses, sourceEnd = c.span.stop := by
      have hmem := List.max?_mem hend
      obtain ⟨c, hc, rfl⟩ := List.mem_map.1 hmem
      exact ⟨c, (List.mem_filter.1 hc).1, rfl⟩
    have hof : ∀ {condition : Bool} {site : Addition × ℕ},
        (addition, position) ∈ (if condition then [site] else []) →
          condition ∧ (addition, position) = site := by
      intro condition site hmem
      split_ifs at hmem with hcondition
      · exact ⟨hcondition, List.mem_singleton.1 hmem⟩
      · cases hmem
    simp only [List.mem_append] at h
    rcases h with ((h | h) | h) | h
    · obtain ⟨rfl, rfl⟩ := Prod.mk.inj (hof h).2
      exact ⟨.inl hsource, by simp⟩
    · obtain ⟨rfl, rfl⟩ := Prod.mk.inj (hof h).2
      exact ⟨.inl hsource, by simp⟩
    · obtain ⟨hcondition, hsite⟩ := hof h
      obtain ⟨rfl, rfl⟩ := Prod.mk.inj hsite
      have hnone := (Bool.and_eq_true_iff.1 hcondition).1
      refine ⟨.inr ?_, fun _ => by simpa [Statement.hasClause] using hnone⟩
      split
      · rename_i c hc
        exact .inl ⟨c, List.mem_of_find?_eq_some hc, by simpa using List.find?_some hc, rfl⟩
      · exact .inr rfl
    · obtain ⟨rfl, rfl⟩ := Prod.mk.inj (hof h).2
      exact ⟨.inr (.inr rfl), by simp⟩

/-- Where a clause is added, the statement splits. -/
theorem exists_boundary_of_mem_additions {addition : Addition} {position : ℕ}
    (hkind : s.kind = .select) (htokens : s.tokens = t₀ :: rest)
    (h : (addition, position) ∈ additions m.schema s) :
    ∃ A C, rest = A ++ C ∧ position = 1 + A.length ∧
      IsBoundary s.kind (depthPast 0 t₀) A C := by
  rcases (of_mem_additions hkind h).1 with ⟨c, hc, rfl⟩ | ⟨c, hc, hlimit, rfl⟩ | rfl
  · exact Statement.exists_boundary_stop htokens hc
  · exact Statement.exists_boundary_start htokens hc (by simp [hlimit])
  · refine ⟨rest, [], by rw [List.append_nil], ?_, Statement.isBoundary_end htokens⟩
    rw [htokens, List.length_cons, Nat.add_comm]

/-- The statement with the tokens of a new clause put in. -/
theorem tokens_insert {A C ts : List Token} {position : ℕ} (htokens : s.tokens = t₀ :: (A ++ C))
    (hposition : position = 1 + A.length) :
    (⟨position, position⟩ : Span).replace s.tokens ts = t₀ :: (A ++ (ts ++ C)) := by
  rw [htokens, ← List.cons_append]
  refine @Span.replace_append Token (t₀ :: A) [] C _ _ _ ?_ ?_
  · rw [hposition, List.length_cons, Nat.add_comm]
  · rfl

/-- A new clause that is no order leaves the orders as they are. -/
theorem preserves_addition {tables : List Table} {addition : Addition} {A C : List Token}
    {position : ℕ} (hkind : s.kind = .select) (hplain : PlainOrders s) (hnew : addition ≠ .order)
    (htokens : s.tokens = t₀ :: (A ++ C)) (hposition : position = 1 + A.length)
    (hC : IsBoundary s.kind (depthPast 0 t₀) A C) :
    Gives (Preserves s) (do
      let text ← additionText m s tables addition
      return (⟨position, position⟩ : Span).replace s.tokens (← lexed text)) := by
  refine (gives_additionText m s _ addition).bind ?_
  rintro _ ⟨body, rfl, ts, hts, hinert⟩
  have hinert : ∀ t ∈ ts, isInert t := by
    intro t ht
    have hholds := hinert t ht
    cases addition with
    | order => exact absurd rfl hnew
    | _ => exact hholds
  refine (gives_lexed_spelled ((opens_front addition).append_spells hts)).bind ?_
  rintro _ rfl
  apply gives_pure
  intro r hr hkind'
  have hahead := clauseAhead_words hnew s.kind (ts ++ C)
  have hr' : r.tokens = t₀ :: (A ++ (addition.words ++ (ts ++ C))) := by
    rw [hr, tokens_insert htokens hposition, List.append_assoc addition.words]
  refine keepsOrders_of_boundary htokens hr' hkind hkind' hplain hC (clauseRest_of_ahead hahead)
    (byAhead_of_clauseAhead hahead) fun order horder => ?_
  have hrest := (horder.of_append (not_order_of_mem_words hnew)).of_append fun t ht =>
    isAnyOf_of_isInert (hinert t ht) (by decide)
  rwa [depthBehind_of_keyword keyword_of_mem_words, depthBehind_of_isInert hinert] at hrest

/-- No second order is added. -/
theorem preserves_insertClause (hkind : s.kind = .select) (hplain : PlainOrders s)
    (horder : s.hasClause .orderBy) : Gives (Preserves s) (insertClause m s) := by
  refine (gives_chooseSite _ _).bind fun ⟨addition, position⟩ hsite => ?_
  obtain ⟨t₀, rest, htokens⟩ := List.exists_cons_of_ne_nil s.tokens_ne_nil
  obtain ⟨A, C, rfl, hposition, hC⟩ := exists_boundary_of_mem_additions hkind htokens hsite
  refine preserves_addition hkind hplain ?_ htokens hposition hC
  rintro rfl
  have hnone := (of_mem_additions hkind hsite).2 rfl
  rw [horder] at hnone
  cases hnone

end Operators

end Mutation
end QueryFuzz
