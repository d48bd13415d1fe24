import QueryFuzz.Proofs.Grammar.Candidates

/-!
# Coverage bias

With the bias on, a choice takes an alternative that neither the frontier nor the query so far has
used, as long as there is one. So where all rules of a query are those of the frontier, nothing was
left to take: the frontier covers every nonterminal of which an alternative was chosen on the way.
-/

namespace QueryFuzz
namespace Grammar

open Draw

variable {g : Setting} {α : Type} {x : Expansion α} {s s' : NameSet × KeyStream}
  {nts : List Nonterminal} {a : α} {nt : Nonterminal} {used : NameSet} {keys : KeyStream}
  {r rule : String}

/-! ## Choices -/

def Nonterminal.IsCovered (frontier : NameSet) (nt : Nonterminal) : Prop :=
  ∀ r ∈ nt.rules, r ∈ frontier

theorem mem_freshAlternatives (hbias : g.config.coverageBias) {i : ℕ} :
    i ∈ freshAlternatives g used nt ↔ ∃ r, nt.rules[i]? = some r ∧ r ∉ g.frontier ∧ r ∉ used := by
  have hlength : nt.alternatives.length = nt.rules.length := by simp [Nonterminal.rules]
  unfold freshAlternatives
  rw [if_pos hbias, hlength, List.mem_filter, List.mem_range, Option.any_eq_true]
  simp only [Bool.and_eq_true, Bool.not_eq_true', ← Bool.not_eq_true, NameSet.contains_iff]
  constructor
  · exact fun h => h.2
  · rintro ⟨r, hr, hnew⟩
    exact ⟨(List.getElem?_eq_some_iff.1 hr).1, r, hr, hnew⟩

theorem mayChoose_of_run
    (h : (((expand g nt).run used).run.run keys).value = some (rule, used.insert rule)) :
    MayChoose g used nt rule := by
  obtain ⟨rule', hvalue, hchoice⟩ := exists_choice g nt used keys
  rw [h] at hvalue
  obtain rfl : rule = rule' := (Prod.mk.inj (Option.some.inj hvalue)).1
  exact hchoice

/-- A choice that ends with rules of the frontier only had none to prefer. -/
theorem MayChoose.isCovered (h : MayChoose g used nt rule) (hbias : g.config.coverageBias)
    (hfrontier : ∀ r ∈ used.insert rule, r ∈ g.frontier) : nt.IsCovered g.frontier := by
  have hnone : freshAlternatives g used nt = [] := by
    by_contra hfresh
    obtain ⟨i, hi, hrule⟩ := h.2 hfresh
    obtain ⟨r, hr, hnew, -⟩ := (mem_freshAlternatives hbias).1 hi
    obtain rfl : rule = r := by
      rw [hrule] at hr
      exact Option.some.inj hr
    exact hnew (hfrontier rule (NameSet.mem_insert.2 (.inl rfl)))
  intro r hr
  obtain ⟨i, hi⟩ := List.mem_iff_getElem?.1 hr
  by_contra hnew
  have hused : r ∉ used := fun hmem => hnew (hfrontier r (NameSet.mem_insert.2 (.inr hmem)))
  have hfresh := (mem_freshAlternatives hbias).2 ⟨r, hi, hnew, hused⟩
  rw [hnone] at hfresh
  exact absurd hfresh List.not_mem_nil

/-! ## Runs -/

/-- A rule that was used stays among the rules. -/
theorem Runs.grows (h : Runs g x s nts a s') : ∀ r ∈ s.1, r ∈ s'.1 := by
  induction h with
  | done a s => exact fun r hr => hr
  | draw p used keys => exact fun r hr => hr
  | item hitem s => exact fun r hr => hr
  | force hrule used keys => exact fun r hr => NameSet.mem_insert.2 (.inr hr)
  | choose hvalue => exact fun r hr => NameSet.mem_insert.2 (.inr hr)
  | seq hx hf ihx ihf => exact fun r hr => ihf r (ihx r hr)

/-- A rule that a run adds is used without a choice, or it is one of a nonterminal of the run. -/
theorem Runs.origin (h : Runs g x s nts a s') :
    ∀ r ∈ s'.1, r ∈ s.1 ∨ r ∈ g.forcedRules ∨ ∃ nt ∈ nts, r ∈ nt.rules := by
  induction h with
  | done a s => exact fun r hr => .inl hr
  | draw p used keys => exact fun r hr => .inl hr
  | item hitem s => exact fun r hr => .inl hr
  | force hrule used keys =>
    intro r hr
    rcases NameSet.mem_insert.1 hr with rfl | hmem
    · exact .inr (.inl hrule)
    · exact .inl hmem
  | @choose nt used keys rule hvalue =>
    intro r hr
    rcases NameSet.mem_insert.1 hr with rfl | hmem
    · exact .inr (.inr ⟨nt, List.mem_singleton_self nt, (mayChoose_of_run hvalue).1⟩)
    · exact .inl hmem
  | seq hx hf ihx ihf =>
    intro r hr
    rcases ihf r hr with hmem | hforced | ⟨nt, hnt, hrule⟩
    · rcases ihx r hmem with hmem | hforced | ⟨nt, hnt, hrule⟩
      · exact .inl hmem
      · exact .inr (.inl hforced)
      · exact .inr (.inr ⟨nt, List.mem_append_left _ hnt, hrule⟩)
    · exact .inr (.inl hforced)
    · exact .inr (.inr ⟨nt, List.mem_append_right _ hnt, hrule⟩)

/-- A run that ends with rules of the frontier only met covered nonterminals only. What is used
later on counts for an earlier choice as well, since rules are never given up. -/
theorem Runs.isCovered (h : Runs g x s nts a s') (hbias : g.config.coverageBias)
    (hfrontier : ∀ r ∈ s'.1, r ∈ g.frontier) : ∀ nt ∈ nts, nt.IsCovered g.frontier := by
  induction h with
  | done a s => simp
  | draw p used keys => simp
  | item hitem s => simp
  | force hrule used keys => simp
  | choose hvalue =>
    rw [List.forall_mem_singleton]
    exact (mayChoose_of_run hvalue).isCovered hbias hfrontier
  | seq hx hf ihx ihf =>
    refine List.forall_mem_append.2 ⟨ihx ?_, ihf hfrontier⟩
    exact fun r hr => hfrontier r (hf.grows r hr)

/-! ## Queries -/

/-- The rules of a nonterminal that are used after a choice only, where there is a second table. -/
def Nonterminal.chosenRules : Nonterminal → List String
  | .expression => Nonterminal.expression.rules.tail
  | .predicate => Nonterminal.predicate.rules.tail
  | nt => nt.rules

theorem not_mem_forcedRules (htables : 1 < g.tables.length) (hr : r ∈ nt.chosenRules) :
    r ∉ g.forcedRules := by
  have hall : ∀ nt ∈ Nonterminal.all, ∀ r ∈ nt.chosenRules,
      r ∉ "expr.column" :: "pred.compare" :: (literalRules ++ []) := by
    decide +kernel
  rw [Setting.forcedRules, if_pos htables]
  exact hall nt nt.mem_all r hr

theorem mem_rules_of_chosen (hr : r ∈ nt.chosenRules) : r ∈ nt.rules := by
  cases nt with
  | expression => exact List.mem_of_mem_tail hr
  | predicate => exact List.mem_of_mem_tail hr
  | _ => exact hr

/-- The nonterminals of which a query chooses an alternative, one for each choice. -/
def Setting.Chooses (g : Setting) (keys : KeyStream) (nts : List Nonterminal) : Prop :=
  ∃ q s, Runs g (query g) (.empty, keys) nts q s

/-- A rule that is used after a choice only tells of the choice. -/
theorem Runs.mem_of_chosen {q : Query} (h : Runs g (query g) (.empty, keys) nts q s)
    (htables : 1 < g.tables.length) (hr : r ∈ nt.chosenRules) (hmem : r ∈ s.1) : nt ∈ nts := by
  have hnew : r ∉ NameSet.empty := List.not_mem_nil
  obtain ⟨nt', hnt', hrule⟩ :=
    ((h.origin r hmem).resolve_left hnew).resolve_left (not_mem_forcedRules htables hr)
  rwa [eq_of_mem_rules (mem_rules_of_chosen hr) hrule]

/-- With the bias on and several tables to choose from, generating a candidate wastes no
opportunity: if all rules of the candidate are those of the frontier, then the frontier covers every
nonterminal of which an alternative was chosen. That is so for statements, and wherever one of the
rules of the candidate tells of a choice. -/
theorem generate_wastes_no_opportunity {config : Config} (database : ℕ) {schema : Schema}
    (frontier : NameSet) (source : Source) (hbias : config.coverageBias)
    (htables : 1 < schema.usableTables.length) :
    let g : Setting := ⟨config, schema.usableTables, frontier⟩
    ∃ c rest, generate config database schema frontier source = (.ok c, rest) ∧
      (∃ nts, g.Chooses source.words nts) ∧
      ((∀ r ∈ c.rules, r ∈ frontier) →
        (∀ nts, g.Chooses source.words nts → ∀ nt ∈ nts, nt.IsCovered frontier) ∧
        Nonterminal.statement.IsCovered frontier ∧
        ∀ nt : Nonterminal, (∃ r ∈ nt.chosenRules, r ∈ c.rules) → nt.IsCovered frontier) := by
  intro g
  have husable : schema.usableTables ≠ [] := by
    rintro hnone
    simp [hnone] at htables
  have hg : Scope.Usable g g.tables := usable_usableTables husable
  obtain ⟨nts, q, added, keys, hrun, rule, hrule, parts, rfl, -⟩ :=
    traces_query hg .empty source.words
  obtain ⟨c, rest, hgenerate, -, hrules⟩ := generate_eq database husable hrun.run_eq.1
  refine ⟨c, rest, hgenerate, ⟨nts, q, _, hrun⟩, ?_⟩
  rw [hrules]
  intro hfrontier
  have hcovered : ∀ nt : Nonterminal,
      (∃ r ∈ nt.chosenRules, r ∈ NameSet.empty.insertAll (rule :: parts)) →
        nt.IsCovered frontier := by
    rintro nt ⟨r, hr, hmem⟩
    exact hrun.isCovered hbias hfrontier nt (hrun.mem_of_chosen htables hr hmem)
  refine ⟨?_, hcovered .statement ⟨rule, hrule, by simp⟩, hcovered⟩
  -- Every run ends like this one, because there is one result at most.
  rintro nts' ⟨q', s, hrun'⟩
  have hvalue := hrun'.run_eq.1.symm.trans hrun.run_eq.1
  have hused : s.1 = NameSet.empty.insertAll (rule :: parts) :=
    (Prod.mk.inj (Option.some.inj hvalue)).2
  apply hrun'.isCovered hbias
  rwa [hused]

theorem generate_rules_subset {config : Config} {database : ℕ} {schema : Schema}
    {frontier : NameSet} {source rest : Source} {c : Candidate} (h : schema.usableTables ≠ [])
    (hgenerate : generate config database schema frontier source = (.ok c, rest)) :
    ∀ r ∈ c.rules, r ∈ allRules := by
  obtain ⟨c', rest', q, rule, hrule, parts, hgenerate', -, hrules, hfollows⟩ :=
    exists_candidate config database frontier source h
  obtain rfl : c = c' := by
    rw [hgenerate] at hgenerate'
    exact Except.ok.inj (Prod.mk.inj hgenerate').1
  have hall : ∀ r ∈ Nonterminal.statement.rules ++ partRules 1, r ∈ allRules := by decide +kernel
  intro r hr
  apply hall
  rcases List.mem_cons.1 ((hrules r).1 hr) with rfl | hmem
  · exact List.mem_append_left _ hrule
  · exact List.mem_append_right _ (partRules_subset_one _ (hfollows.subset hmem))

/-- Over a frontier of all rules, nothing is left to prefer. -/
theorem generate_wastes_no_opportunity_storefront :
    let config : Config := ⟨3, 0.3, true⟩
    let frontier := NameSet.ofList allRules
    let g : Setting := ⟨config, Schema.storefront.usableTables, frontier⟩
    config.coverageBias ∧ 1 < Schema.storefront.usableTables.length ∧
    ∃ c rest, generate config 0 .storefront frontier (.ofSeed 7 0) = (.ok c, rest) ∧
      (∃ nts, g.Chooses (Source.ofSeed 7 0).words nts) ∧ (∀ r ∈ c.rules, r ∈ frontier) ∧
      (∀ nts, g.Chooses (Source.ofSeed 7 0).words nts → ∀ nt ∈ nts, nt.IsCovered frontier) ∧
      Nonterminal.statement.IsCovered frontier ∧
      ∀ nt : Nonterminal, (∃ r ∈ nt.chosenRules, r ∈ c.rules) → nt.IsCovered frontier := by
  intro config frontier g
  have hbias : config.coverageBias := rfl
  have htables : 1 < Schema.storefront.usableTables.length := by decide
  obtain ⟨c, rest, hgenerate, hruns, himp⟩ :=
    generate_wastes_no_opportunity 0 frontier (.ofSeed 7 0) hbias htables
  have hrules : ∀ r ∈ c.rules, r ∈ frontier := by
    intro r hr
    exact NameSet.mem_ofList.2 (generate_rules_subset (by decide) hgenerate r hr)
  exact ⟨hbias, htables, c, rest, hgenerate, hruns, hrules, himp hrules⟩

end Grammar
end QueryFuzz
