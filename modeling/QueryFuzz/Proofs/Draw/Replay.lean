import QueryFuzz.Mutation.Mutator
import QueryFuzz.Proofs.Grammar.Candidates

/-!
# Replaying recorded decisions

A random program can be run again from its recorded decisions, without the key stream that they
were drawn from. It takes exactly its own decisions off the front of a longer record, so no record
of a program is the beginning of another one, and equal records belong to equal results.
-/

namespace QueryFuzz
namespace Draw
namespace Sampling

variable {α : Type}

/-- Runs a program on recorded decisions; none where they belong to another program. The decisions
that it leaves over are returned with its value. -/
def replay : Sampling α → List Decision → Option (α × List Decision)
  | done a, record => some (a, record)
  | ask _ _ _, [] => none
  | ask label _ next, d :: record => if d.label = label then (next d.value).replay record else none

/-- A program takes its own decisions off a record and has its value again. -/
theorem replay_run (p : Sampling α) (s : KeyStream) (more : List Decision) :
    p.replay ((p.run s).draws ++ more) = some ((p.run s).value, more) := by
  induction p generalizing s with
  | done a => rfl
  | ask label q next ih =>
    show (if label = label then _ else _) = _
    rw [if_pos rfl]
    exact ih (q.answer s).1 (q.answer s).2

/-- Runs of a program of which one record begins with the other are the same run. -/
theorem run_eq_of_isPrefix (p : Sampling α) {s t : KeyStream}
    (h : (p.run s).draws <+: (p.run t).draws) :
    (p.run s).draws = (p.run t).draws ∧ (p.run s).value = (p.run t).value := by
  obtain ⟨more, hmore⟩ := h
  have hs := p.replay_run s more
  have ht := p.replay_run t []
  rw [hmore] at hs
  rw [List.append_nil, hs] at ht
  obtain ⟨hvalue, hnil⟩ := Prod.mk.inj (Option.some.inj ht)
  rw [hnil, List.append_nil] at hmore
  exact ⟨hmore, hvalue⟩

end Sampling

/-- One of the records begins with the other. -/
def Comparable (c d : List Decision) : Prop :=
  c <+: d ∨ d <+: c

theorem comparable_of_eq {c d : List Decision} (h : c = d) : Comparable c d :=
  .inl (h ▸ List.prefix_rfl)

theorem Sampling.run_eq_of_comparable {α : Type} (p : Sampling α) {s t : KeyStream}
    (h : Comparable (p.run s).draws (p.run t).draws) :
    (p.run s).draws = (p.run t).draws ∧ (p.run s).value = (p.run t).value := by
  rcases h with h | h
  · exact p.run_eq_of_isPrefix h
  · obtain ⟨hdraws, hvalue⟩ := p.run_eq_of_isPrefix h
    exact ⟨hdraws.symm, hvalue.symm⟩

end Draw

open Draw

/-! ## Generated candidates -/

/-- The expansion that a candidate is generated by. -/
def Grammar.expansion (config : Grammar.Config) (schema : Schema) (frontier : NameSet) :
    Sampling (Option (Grammar.Query × NameSet)) :=
  ((Grammar.query ⟨config, schema.usableTables, frontier⟩).run .empty).run

/-- A candidate holds the draws of its expansion behind those that were pending. -/
theorem Grammar.run_expansion {config : Grammar.Config} {database : ℕ} {schema : Schema}
    {frontier : NameSet} {s : Source} {c : Candidate}
    (h : (Grammar.generate config database schema frontier s).1 = .ok c) :
    ∃ q rules, ((Grammar.expansion config schema frontier).run s.words).value = some (q, rules) ∧
      c.sql = q.text ∧ c.rules = rules ∧
      c.draws = s.trail ++ ((Grammar.expansion config schema frontier).run s.words).draws := by
  unfold Grammar.generate at h
  split_ifs at h with hempty
  have hsample : s.sample (Grammar.expansion config schema frontier) =
      (((Grammar.expansion config schema frontier).run s.words).value, { s with
        words := ((Grammar.expansion config schema frontier).run s.words).rest
        trail := s.trail ++ ((Grammar.expansion config schema frontier).run s.words).draws }) := rfl
  unfold Grammar.expansion at hsample ⊢
  dsimp only at h
  rw [hsample] at h
  cases hvalue : (((Grammar.query ⟨config, schema.usableTables, frontier⟩).run .empty).run.run
      s.words).value with
  | none => simp [hvalue] at h
  | some out =>
    obtain ⟨q, rules⟩ := out
    simp only [hvalue] at h
    obtain rfl := Except.ok.inj h
    exact ⟨q, rules, rfl, rfl, rfl, rfl⟩

/-! ## Mutated candidates -/

/-- The draws of an attempt to mutate, pending ones included: those of the candidate, or those that
stay with the source where there is none. -/
def Mutation.drawsOf : Option Candidate × Source → List Decision
  | (some c, _) => c.draws
  | (none, s) => s.trail

/-- What a mutation made, apart from where it was drawn. -/
def Mutation.resultOf (attempt : Option Candidate × Source) : Option (String × List String) :=
  attempt.1.map fun c => (c.sql, c.operators)

theorem Mutation.drawsOf_mutate (c : Mutation.Config) (parent : Candidate) (parentId : ℕ)
    (schema : Schema) (donors : List String) (s : Source) :
    let out := (Mutation.mutateText c schema donors parent.sql).run s.words
    let attempt := Mutation.mutate c parent parentId schema donors s
    Mutation.drawsOf attempt = s.trail ++ out.draws ∧
      Mutation.resultOf attempt = out.value.map fun d => (d.text, d.operators) := by
  intro out attempt
  have hsample : s.sample (Mutation.mutateText c schema donors parent.sql) =
      (out.value, { s with words := out.rest, trail := s.trail ++ out.draws }) := rfl
  unfold attempt Mutation.mutate
  rw [hsample]
  cases out.value <;> exact ⟨rfl, rfl⟩

/-! ## Equal draws -/

/-- The draws are sufficient for a replay: of two candidates that are generated, or of two attempts
to mutate, the draws of one do not begin with those of the other unless they are the same draws, and
then the results are the same, whatever seeds and streams they were drawn from. -/
theorem result_of_draws {s t : Source} (hs : s.trail = []) (ht : t.trail = []) :
    (∀ (config : Grammar.Config) (database database' : ℕ) (schema : Schema) (frontier : NameSet)
        (c d : Candidate), (Grammar.generate config database schema frontier s).1 = .ok c →
      (Grammar.generate config database' schema frontier t).1 = .ok d →
      Comparable c.draws d.draws →
        c.draws = d.draws ∧ c.sql = d.sql ∧ c.rules = d.rules) ∧
    ∀ (config : Mutation.Config) (parent : Candidate) (parentId parentId' : ℕ) (schema : Schema)
        (donors : List String),
      let first := Mutation.mutate config parent parentId schema donors s
      let second := Mutation.mutate config parent parentId' schema donors t
      Comparable (Mutation.drawsOf first) (Mutation.drawsOf second) →
        Mutation.drawsOf first = Mutation.drawsOf second ∧
          Mutation.resultOf first = Mutation.resultOf second := by
  constructor
  · intro config database database' schema frontier c d hc hd hdraws
    obtain ⟨q, rules, hvalue, hsql, hrules, hcdraws⟩ := Grammar.run_expansion hc
    obtain ⟨q', rules', hvalue', hsql', hrules', hddraws⟩ := Grammar.run_expansion hd
    rw [hs, List.nil_append] at hcdraws
    rw [ht, List.nil_append] at hddraws
    rw [hcdraws, hddraws] at hdraws ⊢
    obtain ⟨heq, hout⟩ := Sampling.run_eq_of_comparable _ hdraws
    rw [hvalue, hvalue'] at hout
    obtain ⟨rfl, rfl⟩ := Prod.mk.inj (Option.some.inj hout)
    exact ⟨heq, by rw [hsql, hsql'], by rw [hrules, hrules']⟩
  · intro config parent parentId parentId' schema donors first second hdraws
    obtain ⟨hfirst, hresult⟩ := Mutation.drawsOf_mutate config parent parentId schema donors s
    obtain ⟨hsecond, hresult'⟩ := Mutation.drawsOf_mutate config parent parentId' schema donors t
    rw [hs, List.nil_append] at hfirst
    rw [ht, List.nil_append] at hsecond
    rw [hfirst, hsecond] at hdraws ⊢
    obtain ⟨heq, hout⟩ := Sampling.run_eq_of_comparable _ hdraws
    exact ⟨heq, by rw [hresult, hresult', hout]⟩

/-- Two seeds that happen to draw the same change, and two databases with one schema. -/
theorem result_of_draws_two_seeds :
    let config : Mutation.Config := ⟨1, 1, 0.3⟩
    let parent : Candidate := ⟨"SELECT NULL", 0, .empty, .seed, none, [], 7, 0, []⟩
    let first := Mutation.mutate config parent 0 ⟨[]⟩ [] (.ofSeed 0 0)
    let second := Mutation.mutate config parent 1 ⟨[]⟩ [] (.ofSeed 2 0)
    (Source.ofSeed 0 0).trail = [] ∧ (Source.ofSeed 2 0).trail = [] ∧
      Mutation.drawsOf first = Mutation.drawsOf second ∧
      Mutation.resultOf second = some ("SELECT HEX(NULL)", ["function-wrap"]) ∧
      ∃ c d, (Grammar.generate .standard 0 .storefront .empty (.ofSeed 0 0)).1 = .ok c ∧
        (Grammar.generate .standard 1 .storefront .empty (.ofSeed 0 0)).1 = .ok d ∧
        c.draws = d.draws ∧ c.sql = d.sql := by
  intro config parent first second
  have hdraws : Mutation.drawsOf first = Mutation.drawsOf second := by decide +kernel
  have hfirst : Mutation.resultOf first = some ("SELECT HEX(NULL)", ["function-wrap"]) := by
    decide +kernel
  have hmutate := (result_of_draws (s := .ofSeed 0 0) (t := .ofSeed 2 0) rfl rfl).2 config parent 0
    1 ⟨[]⟩ [] (comparable_of_eq hdraws)
  have htables : Schema.storefront.usableTables ≠ [] := by decide
  obtain ⟨c, _, _, _, _, _, hc, -⟩ :=
    Grammar.exists_candidate .standard 0 .empty (.ofSeed 0 0) htables
  obtain ⟨d, _, _, _, _, _, hd, -⟩ :=
    Grammar.exists_candidate .standard 1 .empty (.ofSeed 0 0) htables
  have hc' := congrArg Prod.fst hc
  have hd' := congrArg Prod.fst hd
  obtain ⟨_, _, -, -, -, hcdraws⟩ := Grammar.run_expansion hc'
  obtain ⟨_, _, -, -, -, hddraws⟩ := Grammar.run_expansion hd'
  have hgenerate := (result_of_draws (s := .ofSeed 0 0) (t := .ofSeed 0 0) rfl rfl).1 .standard 0 1
    .storefront .empty c d hc' hd' (comparable_of_eq (hcdraws.trans hddraws.symm))
  exact ⟨rfl, rfl, hdraws, hmutate.2 ▸ hfirst, c, d, hc', hd', hgenerate.1, hgenerate.2.1⟩

end QueryFuzz
