import Mathlib.Logic.Function.Iterate
import QueryFuzz.Mutation.Mutator
import QueryFuzz.Proofs.Mutation.Kind

/-!
# Mutating a script

The statements of a draft are statements of the kinds of its parent after any number of changes,
so the statement drawn for the next change can always be read. The operators of a draft are those
that took effect, in order.
-/

namespace QueryFuzz
namespace Mutation

open Sql Draw

/-- A draft, and the key stream that its next change is drawn from. -/
structure Stage where
  draft : Draft
  words : KeyStream

namespace Stage

variable (m : Material) (x : Stage)

/-- The draw of the statement to change. -/
def drawn : Sampling.Outcome ℕ :=
  (Sampling.index "mutation.statement" x.draft.statements.length).run x.words

/-- The tokens of the statement to change. -/
def chosen : List Token :=
  x.draft.statements.getD x.drawn.value []

/-- The draw of an operator that applies to the statement. -/
def choice (s : Statement) : Sampling.Outcome (Option Operator) :=
  (Sampling.choose "mutation.operator-choice" (Operator.all.filter (·.applies m s))).run
    x.drawn.rest

/-- The operator that takes effect in the next change, with its result. -/
def effect? : Option (Operator × List Token) :=
  match Statement.ofTokens x.chosen with
  | .error _ => none
  | .ok s =>
    match (x.choice m s).value with
    | none => none
    | some op => ((op.transform m s).run (x.choice m s).rest).value.map (op, ·)

/-- The stage behind the next change. -/
def next : Stage :=
  ⟨((change m x.draft).run x.words).value, ((change m x.draft).run x.words).rest⟩

/-- A change without an effect leaves the draft as it is. -/
theorem draft_next : (x.next m).draft = match x.effect? m with
    | none => x.draft
    | some (op, tokens) =>
      ⟨x.draft.statements.set x.drawn.value tokens, x.draft.operators ++ [op.name]⟩ := by
  have hrun : (x.next m).draft = ((change m x.draft).run x.words).value := rfl
  rw [hrun, change, (Sampling.run_bind _ _ _).1]
  show (Sampling.run x.drawn.rest (match Statement.ofTokens x.chosen with
    | .error _ => pure x.draft
    | .ok s => _)).value = _
  unfold effect?
  cases hs : Statement.ofTokens x.chosen with
  | error e => rfl
  | ok s =>
    dsimp only
    rw [(Sampling.run_bind _ _ _).1]
    show (Sampling.run (x.choice m s).rest (match (x.choice m s).value with
      | none => pure x.draft
      | some op => _)).value = _
    cases hop : (x.choice m s).value with
    | none => rfl
    | some op =>
      dsimp only
      rw [(Sampling.run_bind _ _ _).1]
      cases ((op.transform m s).run (x.choice m s).rest).value with
      | none => rfl
      | some tokens => rfl

end Stage

/-- The stage behind so many changes. -/
def stageAfter (m : Material) (x : Stage) (n : ℕ) : Stage :=
  (Stage.next m)^[n] x

theorem stageAfter_succ (m : Material) (x : Stage) (n : ℕ) :
    stageAfter m x (n + 1) = (stageAfter m x n).next m :=
  Function.iterate_succ_apply' _ _ _

/-- Running the changes of a draft goes through its stages. -/
theorem run_changes (m : Material) (x : Stage) (n : ℕ) :
    ((changes m x.draft n).run x.words).value = (stageAfter m x n).draft ∧
      ((changes m x.draft n).run x.words).rest = (stageAfter m x n).words := by
  induction n generalizing x with
  | zero => exact ⟨rfl, rfl⟩
  | succ n ih =>
    have hbind := Sampling.run_bind (change m x.draft) (fun d => changes m d n) x.words
    have hnext : stageAfter m x (n + 1) = stageAfter m (x.next m) n :=
      Function.iterate_succ_apply _ _ _
    rw [hnext, ← (ih (x.next m)).1, ← (ih (x.next m)).2]
    exact hbind

/-! ## The statements of a draft -/

/-- The statements of a draft are statements of these kinds. -/
def Keeps (kinds : List StatementKind) (d : Draft) : Prop :=
  List.Forall₂ IsStatement kinds d.statements

theorem keeps_of_parseScript {sql : String} {statements : List Statement}
    (h : parseScript sql = .ok statements) :
    Keeps (statements.map (·.kind)) ⟨statements.map (·.tokens), []⟩ := by
  have hall := inStatement_of_parseScript h
  unfold Keeps
  rw [List.forall₂_map_left_iff, List.forall₂_map_right_iff, List.forall₂_same]
  intro s hs
  exact ⟨hall s hs, s, rfl, rfl⟩

section Invariant

variable {m : Material} {kinds : List StatementKind} {d : Draft} {x : Stage}

theorem Keeps.length_eq (h : Keeps kinds d) : d.statements.length = kinds.length :=
  (List.Forall₂.length_eq h).symm

theorem Keeps.getElem {i : ℕ} (h : Keeps kinds d) (hi : i < d.statements.length) :
    ∃ kind, kinds[i]? = some kind ∧ IsStatement kind (d.statements.getD i []) := by
  have hkinds : i < kinds.length := by
    have := h.length_eq
    omega
  refine ⟨kinds[i], List.getElem?_eq_getElem hkinds, ?_⟩
  rw [List.getD_eq_getElem?_getD, List.getElem?_eq_getElem hi, Option.getD_some]
  exact List.Forall₂.get h hkinds hi

theorem forall₂_set {α β : Type} {R : α → β → Prop} {as : List α} {bs : List β} {i : ℕ} {a : α}
    {b : β} (h : List.Forall₂ R as bs) (ha : as[i]? = some a) (hb : R a b) :
    List.Forall₂ R as (bs.set i b) := by
  induction h generalizing i with
  | nil => simp at ha
  | @cons a' b' as bs hab hrest ih =>
    cases i with
    | zero =>
      obtain rfl : a' = a := by simpa using ha
      exact .cons hb hrest
    | succ i => exact .cons hab (ih (by simpa using ha))

/-- The statement of a change is drawn among those there are. -/
theorem Stage.drawn_lt (x : Stage) (h : x.draft.statements ≠ []) :
    x.drawn.value < x.draft.statements.length := by
  have hlt := (Sampling.yields_index "mutation.statement" x.draft.statements.length).run x.words
  have hpos := List.length_pos_iff.2 h
  have hdrawn : x.drawn.value < max x.draft.statements.length 1 := hlt
  omega

/-- The statement drawn for a change can be read. -/
theorem Keeps.exists_chosen (h : Keeps kinds x.draft) (hne : kinds ≠ []) :
    ∃ kind s, kinds[x.drawn.value]? = some kind ∧ Statement.ofTokens x.chosen = .ok s ∧
      s.kind = kind ∧ ∀ t ∈ s.tokens, t.InStatement := by
  have hlength := h.length_eq
  have hstatements : x.draft.statements ≠ [] := by
    intro hnil
    rw [hnil] at hlength
    exact hne (List.length_eq_zero_iff.1 hlength.symm)
  obtain ⟨kind, hkind, hchosen⟩ := h.getElem (x.drawn_lt hstatements)
  obtain ⟨s, hs, hs'⟩ := hchosen.exists_statement
  refine ⟨kind, s, hkind, Statement.ofTokens_eq_ok_iff.2 hs, hs', ?_⟩
  rw [hs]
  exact hchosen.tokens

/-- A change keeps the kinds of the statements. -/
theorem Keeps.next (h : Keeps kinds x.draft) (hne : kinds ≠ []) :
    Keeps kinds (x.next m).draft := by
  obtain ⟨kind, s, hkind, hs, rfl, htokens⟩ := h.exists_chosen hne
  rw [Stage.draft_next]
  cases heffect : x.effect? m with
  | none => exact h
  | some effect =>
    unfold Stage.effect? at heffect
    rw [hs] at heffect
    dsimp only at heffect
    cases hop : (x.choice m s).value with
    | none => simp [hop] at heffect
    | some op =>
      rw [hop] at heffect
      obtain ⟨tokens, htransform, rfl⟩ := Option.map_eq_some_iff.1 heffect
      have hkept := (yields_transform op m htokens).run (x.choice m s).rest
      exact forall₂_set h hkind (hkept tokens htransform)

theorem Keeps.stageAfter (h : Keeps kinds x.draft) (hne : kinds ≠ []) (n : ℕ) :
    Keeps kinds (stageAfter m x n).draft := by
  induction n with
  | zero => exact h
  | succ n ih =>
    rw [stageAfter_succ]
    exact ih.next hne

end Invariant

/-! ## The operators of a draft -/

/-- The names of the operators that take effect in the first changes. -/
def effects (m : Material) (x : Stage) (n : ℕ) : List String :=
  (List.range n).filterMap fun i => ((stageAfter m x i).effect? m).map (·.1.name)

theorem operators_stageAfter (m : Material) (x : Stage) (n : ℕ) :
    (stageAfter m x n).draft.operators = x.draft.operators ++ effects m x n := by
  induction n with
  | zero => simp [effects, stageAfter]
  | succ n ih =>
    have heffects : effects m x (n + 1) = effects m x n ++
        (((stageAfter m x n).effect? m).map (·.1.name)).toList := by
      rw [effects, List.range_succ, List.filterMap_append, ← effects]
      cases h : (stageAfter m x n).effect? m <;> simp [h]
    rw [stageAfter_succ, Stage.draft_next, heffects, ← List.append_assoc, ← ih]
    cases (stageAfter m x n).effect? m with
    | none => simp
    | some effect => rfl

theorem length_effects_le (m : Material) (x : Stage) (n : ℕ) : (effects m x n).length ≤ n := by
  have h := List.length_filterMap_le
    (fun i => ((stageAfter m x i).effect? m).map (·.1.name)) (List.range n)
  rwa [List.length_range] at h

theorem effects_eq_nil_iff (m : Material) (x : Stage) (n : ℕ) :
    effects m x n = [] ↔ ∀ i < n, (stageAfter m x i).effect? m = none := by
  simp [effects, List.filterMap_eq_nil_iff]

/-! ## Mutating a candidate -/

/-- The number of changes that a source draws first. -/
def Config.drawn (c : Config) (source : Source) : Sampling.Outcome ℤ :=
  (Sampling.between "mutation.count" c.bounds.1 c.bounds.2).run source.words

/-- The draft of a script before the first change. -/
def Config.start (c : Config) (statements : List Statement) (source : Source) : Stage :=
  ⟨⟨statements.map (·.tokens), []⟩, (c.drawn source).rest⟩

def Config.material (c : Config) (schema : Schema) (donors : List String) : Material :=
  ⟨schema, donors, c.boundaryProbability⟩

theorem run_mutateText {c : Config} {schema : Schema} {donors : List String} {sql : String}
    {statements : List Statement} (h : parseScript sql = .ok statements) (source : Source) :
    ((mutateText c schema donors sql).run source.words).value =
      if (stageAfter (c.material schema donors) (c.start statements source)
        (c.drawn source).value.toNat).draft.operators.isEmpty then none
      else some (stageAfter (c.material schema donors) (c.start statements source)
        (c.drawn source).value.toNat).draft := by
  unfold mutateText Config.start Config.drawn
  rw [h]
  generalize c.bounds = bounds
  obtain ⟨low, high⟩ := bounds
  dsimp only
  refine (Sampling.run_bind _ _ _).1.trans ((Sampling.run_bind _ _ _).1.trans ?_)
  generalize (Sampling.between "mutation.count" low high).run source.words = out
  rw [← (run_changes _ _ _).1]
  rfl

theorem mutated_fields (sql : String) (parent : Candidate) (parentId : ℕ)
    (operators : List String) (source : Source) :
    (Candidate.mutated sql parent parentId operators source).1.sql = sql ∧
      (Candidate.mutated sql parent parentId operators source).1.operators = operators :=
  ⟨rfl, rfl⟩

/-- The draft in the end becomes the candidate, unless nothing took effect. -/
theorem mutate_of_run {c : Config} {parent : Candidate} {schema : Schema} {donors : List String}
    {source : Source} {d : Draft}
    (h : ((mutateText c schema donors parent.sql).run source.words).value =
      if d.operators.isEmpty then none else some d) (parentId : ℕ) :
    ((mutate c parent parentId schema donors source).1 = none ↔ d.operators = []) ∧
      ∀ child ∈ (mutate c parent parentId schema donors source).1, child.sql = d.text ∧
        child.operators = d.operators ∧ child.operators ≠ [] := by
  have hsample : (source.sample (mutateText c schema donors parent.sql)).1 =
      if d.operators.isEmpty then none else some d := h
  unfold mutate
  generalize source.sample (mutateText c schema donors parent.sql) = sampled at hsample ⊢
  obtain ⟨value, rest⟩ := sampled
  by_cases hempty : d.operators.isEmpty
  · rw [if_pos hempty] at hsample
    obtain rfl : value = none := hsample
    simpa using hempty
  · rw [if_neg hempty] at hsample
    obtain rfl : value = some d := hsample
    have hne : d.operators ≠ [] := by simpa using hempty
    simp [mutated_fields, hne]

theorem operators_of_start (m : Material) (c : Config) (statements : List Statement)
    (source : Source) (n : ℕ) :
    (stageAfter m (c.start statements source) n).draft.operators =
      effects m (c.start statements source) n := by
  have hnone : (c.start statements source).draft.operators = [] := rfl
  rw [operators_stageAfter, hnone, List.nil_append]

theorem keeps_of_start {sql : String} {statements : List Statement}
    (h : parseScript sql = .ok statements) (m : Material) (c : Config) (source : Source) (n : ℕ) :
    Keeps (statements.map (·.kind)) (stageAfter m (c.start statements source) n).draft ∧
      statements.map (·.kind) ≠ [] := by
  have hne : statements.map (·.kind) ≠ [] := by
    have := (parseScript_eq_ok_iff.1 h).1
    simpa using this
  have hstart : Keeps (statements.map (·.kind)) (c.start statements source).draft :=
    keeps_of_parseScript h
  exact ⟨hstart.stageAfter hne n, hne⟩

/-- Mutation keeps a script valid: whatever is drawn, the statement drawn for each change is a
statement, and in the end there is one of its kind for each statement of the parent. There is no
result exactly if no change had an effect, and a result names the operators that had one. -/
theorem mutate_keeps_statements {c : Config} {parent : Candidate} {statements : List Statement}
    (h : parseScript parent.sql = .ok statements) (parentId : ℕ) (schema : Schema)
    (donors : List String) (source : Source) :
    let m := c.material schema donors
    let count := (c.drawn source).value.toNat
    let stage := stageAfter m (c.start statements source)
    let child? := (mutate c parent parentId schema donors source).1
    (∀ i, (stage i).drawn.value < statements.length ∧
        ∃ s, Statement.ofTokens (stage i).chosen = .ok s) ∧
      List.Forall₂ (fun s ts => ∃ s', Statement.ofTokens ts = .ok s' ∧ s'.kind = s.kind)
        statements (stage count).draft.statements ∧
      (child? = none ↔ ∀ i < count, (stage i).effect? m = none) ∧
      ∀ child ∈ child?, child.sql = (stage count).draft.text ∧
        child.operators = effects m (c.start statements source) count ∧
        1 ≤ child.operators.length ∧ child.operators.length ≤ count := by
  have hkeeps := keeps_of_start h (c.material schema donors) c source
  obtain ⟨hnone, hsome⟩ := mutate_of_run (run_mutateText h source) parentId
  have hoperators := operators_of_start (c.material schema donors) c statements source
  refine ⟨?_, ?_, ?_, ?_⟩
  · intro i
    obtain ⟨kind, s, hkind, hs, -, -⟩ := (hkeeps i).1.exists_chosen (hkeeps i).2
    obtain ⟨hlength, -⟩ := List.getElem?_eq_some_iff.1 hkind
    rw [List.length_map] at hlength
    exact ⟨hlength, s, hs⟩
  · have hforall := (hkeeps (c.drawn source).value.toNat).1
    unfold Keeps at hforall
    rw [List.forall₂_map_left_iff] at hforall
    refine hforall.imp ?_
    rintro s ts ⟨-, s', hs', hkind⟩
    exact ⟨s', Statement.ofTokens_eq_ok_iff.2 hs', hkind⟩
  · rw [hoperators, effects_eq_nil_iff] at hnone
    exact hnone
  · intro child hchild
    obtain ⟨hsql, heq, hne⟩ := hsome child hchild
    rw [hoperators] at heq
    have hle := length_effects_le (c.material schema donors) (c.start statements source)
      (c.drawn source).value.toNat
    rw [← heq] at hle
    exact ⟨hsql, heq, List.length_pos_iff.2 hne, hle⟩

theorem mutate_keeps_pair :
    let sql := "SELECT 'a' LIMIT 1; DELETE FROM orders"
    let select : Statement := ⟨.select, [⟨.keyword, "SELECT"⟩, ⟨.string, "'a'"⟩,
      ⟨.keyword, "LIMIT"⟩, ⟨.integer, "1"⟩], by decide +kernel, by decide +kernel⟩
    let delete : Statement := ⟨.delete, [⟨.keyword, "DELETE"⟩, ⟨.keyword, "FROM"⟩,
      ⟨.identifier, "orders"⟩], by decide +kernel, by decide +kernel⟩
    let start := Config.standard.start [select, delete] (.ofSeed 7 0)
    parseScript sql = .ok [select, delete] ∧ ∀ i, ∃ s, Statement.ofTokens
      (stageAfter (Config.standard.material .storefront []) start i).chosen = .ok s := by
  intro sql select delete start
  have hparse : parseScript sql = .ok [select, delete] := by decide +kernel
  refine ⟨hparse, fun i => ?_⟩
  let parent : Candidate := ⟨sql, 0, .empty, .seed, none, [], 7, 0, []⟩
  have h := @mutate_keeps_statements .standard parent _ hparse 0 .storefront [] (.ofSeed 7 0)
  exact (h.1 i).2

end Mutation
end QueryFuzz
