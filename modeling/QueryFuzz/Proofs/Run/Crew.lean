import Mathlib.Data.Multiset.Bind
import Mathlib.Data.Multiset.Range
import Mathlib.Logic.Relation
import Mathlib.Tactic.Abel
import QueryFuzz.Proofs.Run.Course

/-!
# Crews

A crew is the workers of a run at one moment: the indices that nobody has taken yet, the trials that
are under way, each with the accesses that are left of it, and those that have ended. Any trial may
make the next access, so the runs of a crew are all the ways in which trials can come between one
another. What every trial keeps to, the crew keeps to.
-/

namespace QueryFuzz
namespace Run

/-- A trial under way. -/
structure Task where
  worker : ℕ
  index : ℕ
  /-- The deeds that are behind it. -/
  deeds : List Deed
  rest : Dialogue (Option Trial)

/-- A trial that has ended; without a record if it was abandoned. -/
structure Ending where
  worker : ℕ
  index : ℕ
  deeds : List Deed
  result : Option Trial

/-- The worker and the record of a trial that was not abandoned. -/
def Ending.record? (e : Ending) : Option (ℕ × Trial) := e.result.map (e.worker, ·)

structure Crew (σ : Type) where
  state : State σ
  waiting : Multiset ℕ
  running : Multiset Task
  /-- In the order in which they ended. -/
  ended : List Ending

/-- The calls of the corpus among some deeds. -/
def callsOf (deeds : List Deed) : Multiset Corpus.Call := deeds.filterMap Deed.call?

namespace Crew

variable {σ : Type}

/-- The crew before the first trial. -/
def start (s : State σ) (indices : Multiset ℕ) : Crew σ := ⟨s, indices, 0, []⟩

variable (crew : Crew σ)

/-- All indices, whatever has become of them. -/
def indices : Multiset ℕ :=
  (crew.ended.map Ending.index : Multiset ℕ) + crew.running.map Task.index + crew.waiting

/-- All calls of the corpus so far. -/
def calls : Multiset Corpus.Call :=
  (crew.ended : Multiset Ending).bind (fun e => callsOf e.deeds) +
    crew.running.bind fun t => callsOf t.deeds

end Crew

namespace Fuzzer

variable {σ : Type} (f : Fuzzer σ)

/-- The state once the observer was told of a record, if there is one. -/
def told : Option Trial → State σ → State σ
  | some t, s => { s with world := (f.observe t s.world).2 }
  | none, s => s

/-- What can happen next. -/
inductive Step : Crew σ → Crew σ → Prop
  /-- A worker takes an index. -/
  | take {s : State σ} {waiting : Multiset ℕ} {running : Multiset Task} {ended : List Ending}
    (worker index : ℕ) :
    Step ⟨s, index ::ₘ waiting, running, ended⟩
      ⟨s, waiting, ⟨worker, index, [], f.dialogue index⟩ ::ₘ running, ended⟩
  /-- A trial makes its next access. -/
  | act {s : State σ} {waiting : Multiset ℕ} {running : Multiset Task} {ended : List Ending}
    {worker index : ℕ} {deeds : List Deed} (access : Access)
    (next : access.Answer → Dialogue (Option Trial)) :
    Step ⟨s, waiting, ⟨worker, index, deeds, .ask access next⟩ ::ₘ running, ended⟩
      ⟨(f.perform access s).2, waiting,
        ⟨worker, index, deeds ++ access.deeds, next (f.perform access s).1⟩ ::ₘ running, ended⟩
  /-- A trial ends. -/
  | finish {s : State σ} {waiting : Multiset ℕ} {running : Multiset Task} {ended : List Ending}
    {worker index : ℕ} {deeds : List Deed} (result : Option Trial) :
    Step ⟨s, waiting, ⟨worker, index, deeds, .done result⟩ ::ₘ running, ended⟩
      ⟨f.told result s, waiting, running, ended ++ [⟨worker, index, deeds, result⟩]⟩
  /-- The world changes by itself, and may be stopped so, but not started again. -/
  | drift {s : State σ} {waiting : Multiset ℕ} {running : Multiset Task} {ended : List Ending}
    (world : σ) : (f.isStopped s.world = true → f.isStopped world = true) →
    Step ⟨s, waiting, running, ended⟩ ⟨{ s with world := world }, waiting, running, ended⟩

def Unstopped (world : σ) : Prop := f.isStopped world = false

/-- Nothing that a run does starts it again once it is stopped. -/
structure StaysStopped : Prop where
  perform : ∀ access s, f.isStopped s.world = true →
    f.isStopped (f.perform access s).2.world = true
  observe : ∀ t world, f.isStopped world = true → f.isStopped (f.observe t world).2 = true

/-- A crew becomes another one, and all worlds on the way occur. -/
def Reaches (allows : σ → Prop) : Crew σ → Crew σ → Prop :=
  Relation.ReflTransGen fun crew crew' => f.Step crew crew' ∧ allows crew'.state.world

variable {f} {r : Rely σ} {crew crew' : Crew σ}

@[simp] theorem corpus_told (result : Option Trial) {s : State σ} :
    (f.told result s).corpus = s.corpus := by
  cases result <;> rfl

/-! ## What each trial keeps to -/

/-- The trials under way still assure what those that have ended show. -/
structure Upholds (f : Fuzzer σ) (r : Rely σ) (c : Corpus)
    (Q : ℕ → List Deed → Option Trial → Prop) (crew : Crew σ) : Prop where
  allowed : r.allows crew.state.world
  moved : r.moves c crew.state.corpus
  running : ∀ t ∈ crew.running,
    f.Assures r (fun deeds result _ => Q t.index deeds result) t.rest t.deeds crew.state.corpus
  ended : ∀ e ∈ crew.ended, Q e.index e.deeds e.result

section Upholds

variable {c : Corpus} {Q : ℕ → List Deed → Option Trial → Prop}

theorem Upholds.step (h : Upholds f r c Q crew) (hstep : f.Step crew crew')
    (hallows : r.allows crew'.state.world)
    (hQ : ∀ index, f.Assures r (fun deeds result _ => Q index deeds result)
      (f.dialogue index) [] c) : Upholds f r c Q crew' := by
  obtain ⟨hallowed, hmoved, hrunning, hended⟩ := h
  cases hstep with
  | take worker index =>
    refine ⟨hallowed, hmoved, ?_, hended⟩
    intro t ht
    rcases Multiset.mem_cons.1 ht with rfl | ht
    · exact (hQ index).later hmoved fun _ _ h => h
    · exact hrunning t ht
  | act access next =>
    have hactor := hrunning _ (Multiset.mem_cons_self _ _)
    obtain ⟨hmoves, hrest⟩ := hactor _ (r.refl _) hallowed hallows
    refine ⟨hallows, r.trans hmoved hmoves, ?_, hended⟩
    -- The actor assures what is left of it; the others have counted on its move.
    intro t ht
    rcases Multiset.mem_cons.1 ht with rfl | ht
    · exact hrest
    · exact (hrunning t (Multiset.mem_cons_of_mem ht)).later hmoves fun _ _ h => h
  | finish result =>
    refine ⟨hallows, by rwa [corpus_told], ?_, ?_⟩
    · intro t ht
      rw [corpus_told]
      exact hrunning t (Multiset.mem_cons_of_mem ht)
    · intro e he
      rcases List.mem_append.1 he with he | he
      · exact hended e he
      · rw [List.mem_singleton.1 he]
        exact hrunning _ (Multiset.mem_cons_self _ _)
  | drift world _ => exact ⟨hallows, hmoved, hrunning, hended⟩

theorem Upholds.reaches (h : Upholds f r c Q crew) (hreaches : f.Reaches r.allows crew crew')
    (hQ : ∀ index, f.Assures r (fun deeds result _ => Q index deeds result)
      (f.dialogue index) [] c) : Upholds f r c Q crew' := by
  induction hreaches with
  | refl => exact h
  | tail _ hstep ih => exact ih.step hstep.1 hstep.2 hQ

/-- Every trial of a crew takes one of its courses, if no call of the corpus breaks the bounds that
the others count on. -/
theorem upholds_course {s : State σ} {indices : Multiset ℕ} (hs : r.allows s.world)
    (hreaches : f.Reaches r.allows (.start s indices) crew)
    (hoffers : ∀ index, f.Offers r s.corpus index) :
    Upholds f r s.corpus (f.Course r s.corpus) crew := by
  have hstart : Upholds f r s.corpus (f.Course r s.corpus) (.start s indices) :=
    ⟨hs, r.refl _, by simp [Crew.start], by simp [Crew.start]⟩
  exact hstart.reaches hreaches fun index => assures_dialogue (hoffers index)

end Upholds

/-! ## The books of a crew -/

theorem Step.indices_eq (h : f.Step crew crew') : crew'.indices = crew.indices := by
  unfold Crew.indices
  cases h with
  | take worker index => simp [add_assoc]
  | act access next => simp
  | finish result =>
    simp only [List.map_append, List.map_cons, List.map_nil, Multiset.map_cons]
    rw [← Multiset.coe_add, Multiset.coe_singleton, ← Multiset.singleton_add]
    abel
  | drift world _ => rfl

theorem callsOf_append (deeds deeds' : List Deed) :
    callsOf (deeds ++ deeds') = callsOf deeds + callsOf deeds' := by
  simp [callsOf]

/-- Behind each step, the corpus is the one that all calls so far leave when they are made in some
order. -/
theorem Step.corpus_eq (h : f.Step crew crew') {c : Corpus} {calls : List Corpus.Call}
    (hcalls : (calls : Multiset Corpus.Call) = crew.calls)
    (hcorpus : crew.state.corpus = (c.submitAll calls).2) :
    ∃ calls' : List Corpus.Call, (calls' : Multiset Corpus.Call) = crew'.calls ∧
      crew'.state.corpus = (c.submitAll calls').2 := by
  unfold Crew.calls at hcalls ⊢
  cases h with
  | take worker index =>
    refine ⟨calls, ?_, hcorpus⟩
    rw [hcalls]
    simp [callsOf]
  | @act s waiting running ended worker index deeds access next =>
    refine ⟨calls ++ access.deeds.filterMap Deed.call?, ?_, ?_⟩
    · rw [← Multiset.coe_add, hcalls]
      simp only [Multiset.cons_bind, callsOf_append]
      unfold callsOf
      abel
    · show (f.perform access s).2.corpus = _
      rw [perform_corpus, Corpus.submitAll_append, ← hcorpus]
  | finish result =>
    refine ⟨calls, ?_, by rw [corpus_told]; exact hcorpus⟩
    rw [hcalls]
    simp only [← Multiset.coe_add, Multiset.add_bind, Multiset.coe_singleton,
      Multiset.singleton_bind, Multiset.cons_bind]
    abel
  | drift world _ => exact ⟨calls, hcalls, hcorpus⟩

/-- All indices are accounted for, and nothing but the calls of the corpus has changed it. -/
theorem books_of_reaches {allows : σ → Prop} {s : State σ} {indices : Multiset ℕ}
    (h : f.Reaches allows (.start s indices) crew) :
    crew.indices = indices ∧ ∃ calls : List Corpus.Call,
      (calls : Multiset Corpus.Call) = crew.calls ∧
        crew.state.corpus = (s.corpus.submitAll calls).2 := by
  induction h with
  | refl => exact ⟨by simp [Crew.indices, Crew.start], [], by simp [Crew.calls, Crew.start], rfl⟩
  | tail _ hstep ih =>
    obtain ⟨hindices, calls, hcalls, hcorpus⟩ := ih
    exact ⟨hstep.1.indices_eq.trans hindices, hstep.1.corpus_eq hcalls hcorpus⟩

/-! ## Runs that are not stopped -/

theorem Step.isStopped (hstays : f.StaysStopped) (h : f.Step crew crew')
    (hstopped : f.isStopped crew.state.world = true) : f.isStopped crew'.state.world = true := by
  cases h with
  | take worker index => exact hstopped
  | act access next => exact hstays.perform access _ hstopped
  | finish result =>
    cases result with
    | none => exact hstopped
    | some t => exact hstays.observe t _ hstopped
  | drift world hdrift => exact hdrift hstopped

theorem Reaches.mono {allows allows' : σ → Prop} (h : f.Reaches allows crew crew')
    (himp : ∀ world, allows world → allows' world) : f.Reaches allows' crew crew' := by
  apply Relation.ReflTransGen.mono _ crew crew' h
  intro _ _ hstep
  exact ⟨hstep.1, himp _ hstep.2⟩

/-- A run that is not stopped at its end was never stopped. -/
theorem Reaches.unstopped (hstays : f.StaysStopped) (h : f.Reaches (fun _ => True) crew crew')
    (hend : f.Unstopped crew'.state.world) :
    f.Unstopped crew.state.world ∧ f.Reaches f.Unstopped crew crew' := by
  induction h with
  | refl => exact ⟨hend, .refl⟩
  | tail _ hstep ih =>
    have hbefore : f.Unstopped _ := Bool.eq_false_iff.2 fun hstopped =>
      Bool.eq_false_iff.1 hend (hstep.1.isStopped hstays hstopped)
    obtain ⟨hstart, hreaches⟩ := ih hbefore
    exact ⟨hstart, hreaches.tail ⟨hstep.1, hend⟩⟩

/-! ## Runs as runs of a crew -/

section Runs

variable (s : State σ) (waiting : Multiset ℕ) (running : Multiset Task) (ended : List Ending)

theorem reaches_hold (worker index : ℕ) (deeds : List Deed) (d : Dialogue (Option Trial)) :
    ∃ deeds', f.Reaches (fun _ => True) ⟨s, waiting, ⟨worker, index, deeds, d⟩ ::ₘ running, ended⟩
      ⟨(f.hold d s).2, waiting, ⟨worker, index, deeds', .done (f.hold d s).1⟩ ::ₘ running,
        ended⟩ := by
  induction d generalizing deeds s with
  | done a => exact ⟨deeds, .refl⟩
  | ask access next ih =>
    obtain ⟨deeds', h⟩ := ih (f.perform access s).1 (f.perform access s).2 (deeds ++ access.deeds)
    exact ⟨deeds', .head ⟨.act access next, trivial⟩ h⟩

/-- A trial that no other comes between. -/
theorem reaches_trial (worker index : ℕ) :
    ∃ deeds, f.Reaches (fun _ => True) ⟨s, index ::ₘ waiting, running, ended⟩
      ⟨f.told (f.trial index s).1 (f.trial index s).2, waiting, running,
        ended ++ [⟨worker, index, deeds, (f.trial index s).1⟩]⟩ := by
  rw [← hold_dialogue]
  obtain ⟨deeds, h⟩ :=
    reaches_hold (f := f) s waiting running ended worker index [] (f.dialogue index)
  exact ⟨deeds, .head ⟨.take worker index, trivial⟩ (h.tail ⟨.finish _, trivial⟩)⟩

/-- A crew at the end of a run whose workers went one after the other: where the run ended, with its
records behind those that were there, and with no index left unless a trial was abandoned. -/
structure Completes (ended : List Ending) (waiting : Multiset ℕ)
    (out : List (ℕ × Trial) × State σ) (crew : Crew σ) : Prop where
  state : crew.state = out.2
  running : crew.running = 0
  earlier : ended <+: crew.ended
  records : crew.ended.filterMap Ending.record? = ended.filterMap Ending.record? ++ out.1
  waiting : crew.waiting = waiting ∨ ∃ e ∈ crew.ended, e.result = none

/-- The indices that a schedule names from a step on. -/
def scheduledIndices (schedule : ℕ → ℕ × ℕ) (step remaining : ℕ) : Multiset ℕ :=
  (List.range' step remaining).map fun k => (schedule k).2

theorem scheduledIndices_succ (schedule : ℕ → ℕ × ℕ) (step remaining : ℕ) :
    scheduledIndices schedule step (remaining + 1) =
      (schedule step).2 ::ₘ scheduledIndices schedule (step + 1) remaining :=
  rfl

/-- Trials after a schedule. What a worker would take that is gone, nobody takes. -/
theorem reaches_scheduled (schedule : ℕ → ℕ × ℕ) (gone : List ℕ) (step remaining : ℕ)
    (hgone : gone ≠ [] → ∃ e ∈ ended, e.result = none) :
    ∃ crew : Crew σ,
      f.Reaches (fun _ => True) ⟨s, scheduledIndices schedule step remaining + waiting, 0, ended⟩
        crew ∧
      Completes ended waiting (f.scheduled schedule gone step remaining s) crew := by
  induction remaining generalizing gone step s ended waiting with
  | zero => exact ⟨_, .refl, rfl, rfl, List.prefix_rfl, (List.append_nil _).symm, .inl (zero_add _)⟩
  | succ remaining ih =>
    rw [scheduledIndices_succ, Multiset.cons_add]
    unfold scheduled
    dsimp only
    by_cases hworker : gone.contains (schedule step).1 = true
    · rw [if_pos hworker]
      obtain ⟨e, he, hnone⟩ : ∃ e ∈ ended, e.result = none := by
        apply hgone
        rintro rfl
        cases hworker
      -- The index stays with those that nobody takes.
      obtain ⟨crew, hreaches, hcrew⟩ :=
        ih s ((schedule step).2 ::ₘ waiting) ended gone (step + 1) hgone
      rw [Multiset.add_cons] at hreaches
      exact ⟨crew, hreaches, { hcrew with waiting := .inr ⟨e, hcrew.earlier.subset he, hnone⟩ }⟩
    · rw [if_neg hworker]
      simp only [bind, StateT.bind]
      obtain ⟨deeds, htrial⟩ := reaches_trial (f := f) s
        (scheduledIndices schedule (step + 1) remaining + waiting) 0 ended (schedule step).1
        (schedule step).2
      rcases hresult : f.trial (schedule step).2 s with ⟨_ | t, s'⟩ <;> rw [hresult] at htrial
      · obtain ⟨crew, hreaches, hcrew⟩ := ih s' waiting
          (ended ++ [⟨(schedule step).1, (schedule step).2, deeds, none⟩])
          ((schedule step).1 :: gone) (step + 1) fun _ =>
            ⟨_, List.mem_append_right _ (List.mem_singleton_self _), rfl⟩
        refine ⟨crew, htrial.trans hreaches, { hcrew with earlier := ?_, records := ?_ }⟩
        · exact (List.prefix_append _ _).trans hcrew.earlier
        · rw [hcrew.records, List.filterMap_append]
          simp [Ending.record?]
      · obtain ⟨crew, hreaches, hcrew⟩ := ih (f.told (some t) s') waiting
          (ended ++ [⟨(schedule step).1, (schedule step).2, deeds, some t⟩]) gone (step + 1)
          fun h => (hgone h).imp fun e he => ⟨List.mem_append_left _ he.1, he.2⟩
        refine ⟨crew, htrial.trans hreaches, hcrew.state, hcrew.running, ?_, ?_, hcrew.waiting⟩
        · exact (List.prefix_append _ _).trans hcrew.earlier
        · rw [hcrew.records, List.filterMap_append]
          simp [Ending.record?]
          rfl

/-- The schedule of a single worker. -/
def alone (step : ℕ) : ℕ × ℕ := (0, step)

theorem scheduled_alone_gone (step remaining : ℕ) (s : State σ) :
    f.scheduled alone [0] step remaining s = ([], s) := by
  induction remaining generalizing step with
  | zero => rfl
  | succ remaining ih =>
    unfold scheduled
    exact ih (step + 1)

/-- Trials one after the other are the trials of a single worker. -/
theorem sequential_eq_scheduled (index remaining : ℕ) (s : State σ) :
    f.sequential index remaining s =
      match f.scheduled alone [] index remaining s with
      | (trials, s) => (trials.map (·.2), s) := by
  induction remaining generalizing index s with
  | zero => rfl
  | succ remaining ih =>
    unfold sequential scheduled
    dsimp only
    rw [if_neg (by simp)]
    simp only [bind, StateT.bind, alone]
    rcases f.trial index s with ⟨_ | t, s'⟩
    · show ([], s') = match f.scheduled alone [0] (index + 1) remaining s' with
        | (trials, s) => (trials.map (·.2), s)
      rw [scheduled_alone_gone]
      rfl
    · have hrest := ih (index + 1) (f.told (some t) s')
      show (t :: (f.sequential (index + 1) remaining (f.told (some t) s')).1,
        (f.sequential (index + 1) remaining (f.told (some t) s')).2) = _
      rw [hrest]
      rfl

/-- A run takes the indices in their order, whichever worker takes each of them. -/
theorem exists_scheduled_run (s : State σ) :
    ∃ worker : ℕ → ℕ, ((f.run s).1.1, (f.run s).2) =
      match f.scheduled (fun step => (worker step, step)) [] 0 f.options.trials s with
      | (trials, s) => (trials.map (·.2), s) := by
  by_cases hworkers : f.options.workers ≤ 1
  · refine ⟨fun _ => 0, ?_⟩
    rw [run_sequential hworkers]
    exact sequential_eq_scheduled 0 f.options.trials s
  · refine ⟨(· % f.options.workers), ?_⟩
    unfold run
    rw [if_neg hworkers]
    rfl

theorem scheduledIndices_snd (worker : ℕ → ℕ) (remaining : ℕ) :
    scheduledIndices (fun step => (worker step, step)) 0 remaining = Multiset.range remaining := by
  unfold scheduledIndices
  rw [← List.range_eq_range']
  exact congrArg _ (List.map_id _)

theorem map_filterMap_record? (endings : List Ending) :
    (endings.filterMap Ending.record?).map (·.2) = endings.filterMap Ending.result := by
  rw [List.map_filterMap]
  congr 1
  funext e
  unfold Ending.record?
  cases e.result <;> rfl

/-- What a run does, a crew can do. -/
theorem exists_crew_run (s : State σ) :
    ∃ crew : Crew σ,
      f.Reaches (fun _ => True) (.start s (Multiset.range f.options.trials)) crew ∧
      crew.state = (f.run s).2 ∧ crew.running = 0 ∧
      crew.ended.filterMap Ending.result = (f.run s).1.1 := by
  obtain ⟨worker, hrun⟩ := f.exists_scheduled_run s
  obtain ⟨htrials, hstate⟩ := Prod.mk.inj hrun
  obtain ⟨crew, hreaches, hcrew⟩ := reaches_scheduled (f := f) s 0 []
    (fun step => (worker step, step)) [] 0 f.options.trials (by simp)
  rw [scheduledIndices_snd, add_zero] at hreaches
  refine ⟨crew, hreaches, hcrew.state.trans hstate.symm, hcrew.running, ?_⟩
  rw [htrials, ← map_filterMap_record?, hcrew.records]
  rfl

end Runs

end Fuzzer
end Run
end QueryFuzz
