import Mathlib.Data.List.Range
import QueryFuzz.Run.Fuzzer

/-!
# Trials, one after the other

What one trial can do, and from it what the trials of a sequential run do. Whatever the engines
answer, and whenever a run is stopped, a trial either leaves no record and the corpus as it was, or
it ends in one of five ways. Only the last of them changes the corpus.
-/

namespace QueryFuzz

variable {σ : Type}

/-! ## Executions and verdicts -/

namespace Oracle

/-- Where both engines ran to their end, there is a difference or one of three reasons. -/
theorem classifyCompleted_cases (config : Config) (sql : String)
    (primary reference : Engine.Outcome) :
    (∃ detail, classifyCompleted config sql primary reference = .bug .logicBug detail) ∨
    ∃ reason ∈ [NormalReason.agreed, .rejectedByBoth, .ignoredError],
      classifyCompleted config sql primary reference = .normal reason := by
  have hside (side version error : String) :
      (∃ detail, oneSided config side version error = .bug .logicBug detail) ∨
      ∃ reason ∈ [NormalReason.agreed, .rejectedByBoth, .ignoredError],
        oneSided config side version error = .normal reason := by
    unfold oneSided
    split_ifs
    · exact .inr ⟨.ignoredError, by simp, rfl⟩
    · exact .inl ⟨_, rfl⟩
  unfold classifyCompleted
  rcases primary.error with _ | e <;> rcases reference.error with _ | e'
  · cases compare config sql primary reference with
    | none => exact .inr ⟨.agreed, by simp, rfl⟩
    | some detail => exact .inl ⟨detail, rfl⟩
  · exact hside _ _ _
  · exact hside _ _ _
  · exact .inr ⟨.rejectedByBoth, by simp, rfl⟩

/-- A verdict is a bug without a reason, or has a reason. Two of the reasons tell how far the
engines got. -/
theorem classify_cases (config : Config) (sql : String) (o : Engine.DualOutcome) :
    (∃ kind detail, kind.isBug = true ∧ classify config sql o = .bug kind detail) ∨
    ∃ reason, classify config sql o = .normal reason ∧
      (reason = .sharedFailure → o.primary.crashed = true ∧ o.reference ≠ none) ∧
      (reason = .unchecked → o.primary.completed = true ∧ o.reference = none) := by
  unfold classify
  by_cases hcrashed : o.primary.crashed = true
  · rw [if_pos hcrashed]
    split_ifs with hshared
    · refine .inr ⟨.sharedFailure, rfl, fun _ => ⟨hcrashed, ?_⟩, by simp⟩
      intro hnone
      simp [hnone] at hshared
    · exact .inl ⟨.crash, _, rfl, rfl⟩
  · rw [if_neg hcrashed]
    by_cases htimedOut : o.primary.timedOut = true
    · rw [if_pos htimedOut]
      exact .inl ⟨.hang, _, rfl, rfl⟩
    · rw [if_neg htimedOut]
      cases hreference : o.reference with
      | none =>
        refine .inr ⟨.unchecked, rfl, by simp, fun _ => ⟨?_, rfl⟩⟩
        simp [Engine.Outcome.completed, hcrashed, htimedOut]
      | some reference =>
        dsimp only
        split_ifs
        · rcases classifyCompleted_cases config sql o.primary reference with
            ⟨detail, h⟩ | ⟨reason, hreason, h⟩
          · exact .inl ⟨.logicBug, detail, rfl, h⟩
          · refine .inr ⟨reason, h, ?_, ?_⟩ <;>
            · rintro rfl
              simp at hreason
        · exact .inl ⟨.referenceError, _, rfl, rfl⟩

theorem isSome_reason_classify (config : Config) (sql : String) (o : Engine.DualOutcome) :
    (classify config sql o).reason.isSome = !(classify config sql o).kind.isBug := by
  rcases classify_cases config sql o with ⟨kind, detail, hkind, h⟩ | ⟨reason, h, -⟩
  · rw [h]
    exact (congrArg Bool.not hkind).symm
  · rw [h]
    rfl

end Oracle

namespace Engine

/-- The reference engine did not run exactly where its run is pointless. -/
def Pair.Ran (p : Pair σ) (outcome : DualOutcome) : Prop :=
  outcome.reference = none ↔ p.skipsReference outcome.primary = true

/-- A run of a query, engine by engine. -/
theorem Pair.run_eq (p : Pair σ) (request : Request) (world : σ) :
    p.run request world =
      match p.primary.execute request world with
      | (.error e, world) => (.error e, world)
      | (.ok primary, world) =>
        if p.skipsReference primary then (.ok ⟨primary, none⟩, world)
        else
          match p.reference.execute request world with
          | (.error e, world) => (.error e, world)
          | (.ok reference, world) => (.ok ⟨primary, some reference⟩, world) := by
  unfold Pair.run
  simp only [bind, ExceptT.bind, ExceptT.mk, StateT.bind, ExceptT.bindCont]
  rcases p.primary.execute request world with ⟨e | primary, w⟩
  · rfl
  · dsimp only
    split_ifs
    · rfl
    · simp only [StateT.bind]
      rcases p.reference.execute request w with ⟨e | reference, w'⟩ <;> rfl

theorem Pair.ran_of_run {p : Pair σ} {request : Request} {world world' : σ}
    {outcome : DualOutcome} (h : p.run request world = (.ok outcome, world')) : p.Ran outcome := by
  rw [Pair.run_eq] at h
  rcases hprimary : p.primary.execute request world with ⟨_ | primary, w⟩ <;>
    simp only [hprimary] at h
  · cases h
  · by_cases hskip : p.skipsReference primary = true
    · rw [if_pos hskip] at h
      cases h
      exact ⟨fun _ => hskip, fun _ => rfl⟩
    · rw [if_neg hskip] at h
      rcases hreference : p.reference.execute request w with ⟨_ | reference, w'⟩ <;>
        simp only [hreference] at h <;> cases h
      exact ⟨fun h => (nomatch h), fun h => absurd h hskip⟩

/-- A query that ran without fault on the primary engine was checked with the other one. -/
theorem Pair.Ran.reason_ne_unchecked {p : Pair σ} {o : DualOutcome} (h : p.Ran o)
    (config : Oracle.Config) (sql : String) :
    (Oracle.classify config sql o).reason ≠ some .unchecked := by
  intro hreason
  rcases Oracle.classify_cases config sql o with ⟨_, _, -, hv⟩ | ⟨reason, hv, -, hunchecked⟩
  · rw [hv] at hreason
    cases hreason
  · rw [hv] at hreason
    obtain ⟨hcompleted, hnone⟩ := hunchecked (Option.some.inj hreason)
    have hskip := h.1 hnone
    unfold Pair.skipsReference at hskip
    unfold Outcome.completed at hcompleted
    cases hc : o.primary.crashed <;> simp [hc] at hskip hcompleted
    simp [hskip] at hcompleted

/-- A failure of both engines comes to light only where crashes are confirmed. -/
theorem Pair.Ran.confirmCrash_of_reason {p : Pair σ} {o : DualOutcome} (h : p.Ran o)
    {config : Oracle.Config} {sql : String}
    (hreason : (Oracle.classify config sql o).reason = some .sharedFailure) :
    p.confirmCrash = true := by
  rcases Oracle.classify_cases config sql o with ⟨_, _, -, hv⟩ | ⟨reason, hv, hshared, -⟩
  · rw [hv] at hreason
    cases hreason
  · rw [hv] at hreason
    obtain ⟨hcrashed, hsome⟩ := hshared (Option.some.inj hreason)
    by_contra hconfirm
    apply hsome
    apply h.2
    simp [Pair.skipsReference, hcrashed, Bool.eq_false_iff.2 hconfirm]

end Engine

namespace Run

open Coverage (Signature)

/-! ## One trial -/

/-- The record of a candidate that has not been run yet. -/
def Product.trial (p : Product) (index : ℕ) : Trial :=
  ⟨index, p.source, p.fallback, some p.candidate, none, none, .notNovel⟩

/-- The record of a candidate with its verdict and what became of it. -/
def Product.judged (p : Product) (index : ℕ) (v : Oracle.Verdict) (d : Disposition) : Trial :=
  { p.trial index with verdict := some v.kind, reason := v.reason, disposition := d }

namespace Fuzzer

variable (f : Fuzzer σ)

def verdict (p : Product) (outcome : Engine.DualOutcome) : Oracle.Verdict :=
  Oracle.classify f.oracle p.candidate.sql outcome

/-- The answer of a corpus to a candidate with nothing wrong, and the corpus behind it. -/
def submitted (c : Corpus) (p : Product) (outcome : Engine.DualOutcome) : Option ℕ × Corpus :=
  c.submit p.candidate
    ((Signature.ofTrace f.options.granularity outcome.primary.coverage).withRules p.candidate.rules)

/-- How a trial can end that leaves a record: with which record, and with which corpus. -/
inductive Ends (index : ℕ) (c : Corpus) : Trial → Corpus → Prop
  /-- There is no candidate. -/
  | unproduced (e : Grammar.Failure) : f.produce c index = .error e →
    Ends index c ⟨index, .generate, false, none, none, none, .skipped e.message⟩ c
  /-- There is no database for the candidate. -/
  | unplaced (p : Product) : f.produce c index = .ok p →
    f.databases[p.candidate.database]? = none →
    Ends index c { p.trial index with
      disposition := .skipped s!"no seed database {p.candidate.database}" } c
  /-- The engines could not be run. -/
  | failed (p : Product) (e : Engine.ExecutionError) : f.produce c index = .ok p →
    Ends index c { p.trial index with disposition := .executionFailed e.message } c
  /-- There is a bug. -/
  | reported (p : Product) (o : Engine.DualOutcome) (bundle : Option Report.BundlePath) :
    f.produce c index = .ok p → f.engines.Ran o → (f.verdict p o).kind.isBug = true →
    Ends index c (p.judged index (f.verdict p o) (.reported (f.verdict p o).kind bundle)) c
  /-- Nothing is wrong, and the corpus takes the candidate. -/
  | admitted (p : Product) (o : Engine.DualOutcome) (id : ℕ) (c' : Corpus) :
    f.produce c index = .ok p → f.engines.Ran o → (f.verdict p o).kind.isBug = false →
    f.submitted c p o = (some id, c') →
    Ends index c (p.judged index (f.verdict p o) (.admitted id)) c'
  /-- Nothing is wrong, and the corpus does not take the candidate. -/
  | rejected (p : Product) (o : Engine.DualOutcome) (c' : Corpus) :
    f.produce c index = .ok p → f.engines.Ran o → (f.verdict p o).kind.isBug = false →
    f.submitted c p o = (none, c') →
    Ends index c (p.judged index (f.verdict p o) .notNovel) c'

/-- What there is of a trial: nothing, and the corpus is as it was, or a record. -/
def Concludes (index : ℕ) (c : Corpus) : Option Trial × State σ → Prop
  | (none, s) => s.corpus = c
  | (some t, s) => f.Ends index c t s.corpus

variable {f}

/-- Only the reduction of a bug can be stopped behind an execution, not the offer to the corpus. -/
theorem concludes_judge {index : ℕ} {s : State σ} {p : Product} {db : Database}
    {o : Engine.DualOutcome} (hp : f.produce s.corpus index = .ok p) (ho : f.engines.Ran o) :
    f.Concludes index s.corpus (f.judge db (p.trial index) p.candidate o s) := by
  unfold judge
  dsimp only
  split_ifs with hbug
  · unfold fileBug
    simp only [bind, StateT.bind, inWorld]
    rcases f.reduced db p.candidate.sql
      (Oracle.classify f.oracle p.candidate.sql o).kind s.world with ⟨_ | sql, world⟩
    · rfl
    · exact .reported p o _ hp ho hbug
  · have hnormal : (f.verdict p o).kind.isBug = false := Bool.eq_false_iff.2 hbug
    unfold offer
    simp only [bind, StateT.bind]
    rcases hsubmit : f.submitted s.corpus p o with ⟨_ | id, c⟩ <;> unfold submitted at hsubmit <;>
      rw [hsubmit]
    · exact .rejected p o c hp ho hnormal hsubmit
    · exact .admitted p o id c hp ho hnormal hsubmit

theorem concludes_conduct {index : ℕ} {s : State σ} {p : Product}
    (hp : f.produce s.corpus index = .ok p) :
    f.Concludes index s.corpus (f.conduct index p s) := by
  unfold conduct
  cases hdb : f.databases[p.candidate.database]? with
  | none => exact .unplaced p hp hdb
  | some db =>
    simp only [bind, StateT.bind, inWorld]
    rcases hrun : f.engines.run ⟨p.candidate.sql, db.path⟩ s.world with ⟨e | o, world⟩
    · cases e
      case cancelled => rfl
      all_goals exact .failed p _ hp
    · exact concludes_judge (s := { s with world := world }) hp (Engine.Pair.ran_of_run hrun)

theorem concludes_trial (index : ℕ) (s : State σ) :
    f.Concludes index s.corpus (f.trial index s) := by
  unfold trial
  simp only [bind, StateT.bind, get, getThe, MonadStateOf.get, StateT.get, pure]
  by_cases hstop : f.isStopped s.world = true
  · rw [if_pos hstop]
    rfl
  · rw [if_neg hstop]
    cases hp : f.produce s.corpus index with
    | error e => exact .unproduced e hp
    | ok p => exact concludes_conduct hp

/-- A trial that fell back from a mutation took a generated candidate. -/
theorem source_of_fallback {index : ℕ} {c : Corpus} {p : Product}
    (h : f.produce c index = .ok p) (hfallback : p.fallback = true) : p.source = .generate := by
  have hgenerated {fallback : Bool} {r : Except Grammar.Failure Candidate}
      (h : r.map (fun c => Product.mk .generate c fallback) = .ok p) : p.source = .generate := by
    cases r with
    | error e => cases h
    | ok c =>
      cases h
      rfl
  unfold produce at h
  dsimp only at h
  split at h
  · cases h
    cases hfallback
  · unfold invented at h
    dsimp only at h
    split at h
    · exact hgenerated h
    · split at h
      · cases h
        cases hfallback
      · exact hgenerated h

/-! ## Runs -/

variable (f) in
/-- The trials of a run from an index on, each with the corpus that the one before it left. -/
inductive Trials : ℕ → Corpus → List Trial → Corpus → Prop
  | nil (index : ℕ) (c : Corpus) : Trials index c [] c
  | cons {index : ℕ} {c c' c'' : Corpus} {t : Trial} {rest : List Trial} :
    f.Ends index c t c' → Trials (index + 1) c' rest c'' → Trials index c (t :: rest) c''

theorem trials_sequential (index remaining : ℕ) (s : State σ) :
    f.Trials index s.corpus (f.sequential index remaining s).1
      (f.sequential index remaining s).2.corpus := by
  induction remaining generalizing index s with
  | zero => exact .nil index s.corpus
  | succ remaining ih =>
    have hconcludes : f.Concludes index s.corpus (f.trial index s) := concludes_trial index s
    unfold sequential
    simp only [bind, StateT.bind]
    rcases htrial : f.trial index s with ⟨_ | t, s'⟩ <;> rw [htrial] at hconcludes
    · rw [← show s'.corpus = s.corpus from hconcludes]
      exact .nil index s'.corpus
    · exact .cons hconcludes (ih (index + 1) { s' with world := (f.observe t s'.world).2 })

end Fuzzer
end Run
end QueryFuzz
