import QueryFuzz.Proofs.Run.Independence

/-!
# Threads refine a single worker

A run with one worker is a run of a crew, too, so two crews that are done can be compared instead of
a crew and a loop. Where the trials are independent, both have the same records and told the corpus
the same, and the summaries of the workers add up to the summary of the loop.
-/

namespace QueryFuzz
namespace Run
namespace Fuzzer

variable {σ : Type} (f : Fuzzer σ)

/-! ## A single worker -/

/-- The fuzzer with a single worker. -/
def single : Fuzzer σ := { f with options := { f.options with workers := 1 } }

theorem sequential_single (index remaining : ℕ) (s : State σ) :
    f.single.sequential index remaining s = f.sequential index remaining s := by
  induction remaining generalizing index s with
  | zero => rfl
  | succ remaining ih =>
    unfold sequential
    simp only [bind, StateT.bind]
    rw [show f.single.trial index = f.trial index from rfl]
    rcases f.trial index s with ⟨_ | t, s'⟩
    · rfl
    · dsimp only
      simp only [StateT.bind, ih]
      rfl

theorem run_single (s : State σ) :
    let out := f.sequential 0 f.options.trials s
    f.single.run s = ((out.1, f.complete (.ofTrials f.outputDirectory out.1) out.2), out.2) := by
  rw [run_sequential (f := f.single) (Nat.le_refl 1), sequential_single]
  rfl

variable {f} {primary reference : Answering}

/-- In whatever order a schedule names the indices, and whichever worker takes each of them, a crew
can do the same, and nobody abandons a trial. -/
theorem exists_completed_scheduled (c : Corpus) (world : σ) (h : f.Independent primary reference)
    (hstays : f.StaysStopped) {schedule : ℕ → ℕ × ℕ} {trials : ℕ}
    (hindices : scheduledIndices schedule 0 trials = Multiset.range trials)
    (hend : f.Unstopped (f.scheduled schedule [] 0 trials ⟨c, world⟩).2.world) :
    ∃ crew, f.Completed c trials crew ∧
      crew.state = (f.scheduled schedule [] 0 trials ⟨c, world⟩).2 ∧
      crew.ended.filterMap Ending.record? = (f.scheduled schedule [] 0 trials ⟨c, world⟩).1 := by
  obtain ⟨crew, hreaches, hcrew⟩ := reaches_scheduled (f := f) ⟨c, world⟩ 0 [] schedule [] 0
    trials (by simp)
  rw [add_zero, hindices] at hreaches
  rw [← hcrew.state] at hend
  obtain ⟨hworld, hunstopped⟩ := hreaches.unstopped hstays hend
  have hwaiting : crew.waiting = 0 := by
    rcases hcrew.waiting with hwaiting | ⟨e, he, hnone⟩
    · exact hwaiting
    · obtain ⟨t, ht, -⟩ := ((h.upholds hworld hunstopped).ended e he).settled h
      rw [hnone] at ht
      cases ht
  exact ⟨crew, ⟨⟨world, hworld, hunstopped⟩, hwaiting, hcrew.running⟩, hcrew.state, hcrew.records⟩

variable {c : Corpus} {world : σ}

/-- What a run with this schedule did, a crew that is done did, too. -/
theorem exists_completed_of_scheduled (worker : ℕ → ℕ) (h : f.Independent primary reference)
    (hstays : f.StaysStopped) {out : List Trial × State σ}
    (hout : out = match f.scheduled (fun step => (worker step, step)) [] 0 f.options.trials
      ⟨c, world⟩ with | (trials, s) => (trials.map (·.2), s))
    (hend : f.Unstopped out.2.world) :
    ∃ crew, f.Completed c f.options.trials crew ∧ crew.state = out.2 ∧
      crew.ended.filterMap Ending.result = out.1 := by
  rw [hout] at hend ⊢
  obtain ⟨crew, hcrew, hstate, hrecords⟩ :=
    exists_completed_scheduled c world h hstays (scheduledIndices_snd worker f.options.trials) hend
  refine ⟨crew, hcrew, hstate, ?_⟩
  rw [← map_filterMap_record?, hrecords]
  rfl

theorem exists_completed_run (h : f.Independent primary reference) (hstays : f.StaysStopped)
    (hend : f.Unstopped (f.run ⟨c, world⟩).2.world) :
    ∃ crew, f.Completed c f.options.trials crew ∧ crew.state = (f.run ⟨c, world⟩).2 ∧
      crew.ended.filterMap Ending.result = (f.run ⟨c, world⟩).1.1 := by
  obtain ⟨worker, hrun⟩ := f.exists_scheduled_run ⟨c, world⟩
  exact exists_completed_of_scheduled worker h hstays hrun hend

theorem exists_completed_single (h : f.Independent primary reference) (hstays : f.StaysStopped)
    (hend : f.Unstopped (f.single.run ⟨c, world⟩).2.world) :
    ∃ crew, f.Completed c f.options.trials crew ∧ crew.state = (f.single.run ⟨c, world⟩).2 ∧
      crew.ended.filterMap Ending.result = (f.single.run ⟨c, world⟩).1.1 := by
  rw [run_single] at hend ⊢
  exact exists_completed_of_scheduled (fun _ => 0) h hstays
    (f.sequential_eq_scheduled 0 f.options.trials ⟨c, world⟩) hend

theorem indices_single (h : f.Independent primary reference) (hstays : f.StaysStopped)
    (hend : f.Unstopped (f.single.run ⟨c, world⟩).2.world) :
    (f.single.run ⟨c, world⟩).1.1.map (·.index) = List.range f.options.trials := by
  obtain ⟨crew, hcrew, -, htrials⟩ := exists_completed_single h hstays hend
  have hlength : (f.single.run ⟨c, world⟩).1.1.length = f.options.trials := by
    have hcard := congrArg Multiset.card (hcrew.records h)
    rw [htrials] at hcard
    simpa using hcard
  have hindices := (trials_sequential (f := f) 0 f.options.trials ⟨c, world⟩).indices
  rw [show (f.sequential 0 f.options.trials ⟨c, world⟩).1 = (f.single.run ⟨c, world⟩).1.1 by
    rw [run_single], hlength] at hindices
  rw [hindices, List.range_eq_range']

theorem getElem?_of_indices {trials : List Trial} {n : ℕ}
    (hindices : trials.map (·.index) = List.range n) {t : Trial} (ht : t ∈ trials) :
    trials[t.index]? = some t := by
  obtain ⟨i, hi, rfl⟩ := List.getElem_of_mem ht
  have hindex : (trials.map (·.index))[i]? = some trials[i].index := by
    rw [List.getElem?_map, List.getElem?_eq_getElem hi]
    rfl
  rw [hindices] at hindex
  obtain ⟨_, hindex⟩ := List.getElem?_eq_some_iff.1 hindex
  rw [← hindex, List.getElem_range]
  exact List.getElem?_eq_getElem hi

/-! ## Records and summaries of crews that are done -/

theorem complete_congr {s s' : State σ} (hcorpus : s.corpus = s'.corpus)
    (hworld : f.isStopped s.world = f.isStopped s'.world) (summary : Summary) :
    f.complete summary s = f.complete summary s' := by
  unfold complete
  rw [hcorpus, hworld]

theorem unbundled_complete (summary : Summary) (s : State σ) :
    (f.complete summary s).unbundled = f.complete summary.unbundled s :=
  rfl

section Completed

variable {trials : ℕ} {crew crew' : Crew σ}

theorem Completed.records_perm (h : f.Independent primary reference)
    (hcrew : f.Completed c trials crew) (hcrew' : f.Completed c trials crew') :
    ((crew.ended.filterMap Ending.result).map Trial.unbundled).Perm
      ((crew'.ended.filterMap Ending.result).map Trial.unbundled) := by
  apply Multiset.coe_eq_coe.1
  rw [hcrew.records h, hcrew'.records h]

/-- The record of a trial is found among all records at its index. -/
theorem Completed.exists_record (h : f.Independent primary reference)
    (hcrew : f.Completed c trials crew) {ts : List Trial}
    (hts : ((crew.ended.filterMap Ending.result).map Trial.unbundled).Perm
      (ts.map Trial.unbundled))
    (hindices : ts.map (·.index) = List.range trials) {e : Ending} (he : e ∈ crew.ended) :
    ∃ t t', e.result = some t ∧ ts[e.index]? = some t' ∧ t.unbundled = t'.unbundled := by
  obtain ⟨t, ht, hsettled⟩ := hcrew.settled h he
  have hmem : t.unbundled ∈ ts.map Trial.unbundled :=
    hts.subset (List.mem_map_of_mem (List.mem_filterMap.2 ⟨e, he, ht⟩))
  obtain ⟨t', ht', hunbundled⟩ := List.mem_map.1 hmem
  have hindex : t'.unbundled.index = e.index := by
    have hsame : (f.settled primary reference c e.index).1.index = e.index :=
      settled_index e.index
    rwa [hsettled, ← hunbundled] at hsame
  have hget := getElem?_of_indices hindices ht'
  rw [show t'.index = e.index from hindex] at hget
  exact ⟨t, t', ht, hget, hunbundled.symm⟩

theorem Completed.complete_eq (h : f.Independent primary reference)
    (hcrew : f.Completed c trials crew) (hcrew' : f.Completed c trials crew')
    (hend : f.Unstopped crew.state.world) (hend' : f.Unstopped crew'.state.world)
    (summary : Summary) : f.complete summary crew.state = f.complete summary crew'.state :=
  complete_congr (hcrew.corpus_eq h hcrew') (hend.trans hend'.symm) summary

end Completed

/-- Workers that take turns come to what a single one comes to. -/
theorem run_refines_single (h : f.Independent primary reference) (hstays : f.StaysStopped)
    {world' : σ} (hrun : f.Unstopped (f.run ⟨c, world⟩).2.world)
    (hsingle : f.Unstopped (f.single.run ⟨c, world'⟩).2.world) :
    ((f.run ⟨c, world⟩).1.1.map Trial.unbundled).Perm
        ((f.single.run ⟨c, world'⟩).1.1.map Trial.unbundled) ∧
      (f.run ⟨c, world⟩).1.2.unbundled = (f.single.run ⟨c, world'⟩).1.2.unbundled := by
  obtain ⟨crew, hcrew, hstate, htrials⟩ := exists_completed_run h hstays hrun
  obtain ⟨other, hother, hstate', htrials'⟩ := exists_completed_single h hstays hsingle
  have hperm := hcrew.records_perm h hother
  rw [htrials, htrials'] at hperm
  refine ⟨hperm, ?_⟩
  rw [← hstate] at hrun
  rw [← hstate'] at hsingle
  rw [unbundled_run, unbundled_run, ← hstate, ← hstate', unbundled_complete, unbundled_complete,
    hcrew.complete_eq h hother hrun hsingle, Summary.unbundled_ofTrials_perm _ hperm]
  rfl

/-- With independent trials and without a stop, workers that share the indices in any way, and come
between one another in any way, do what a single worker does: each index has the same record, but
for the name of a bundle, and their summaries, added up in any order, are the same but for the
bundles, of which there are as many if all of them were written. -/
theorem threads_refine_single (h : f.Independent primary reference) (hstays : f.StaysStopped)
    {world' : σ} {crew : Crew σ}
    (hreaches : f.Reaches (fun _ => True)
      (.start ⟨c, world⟩ (Multiset.range f.options.trials)) crew)
    (hwaiting : crew.waiting = 0) (hrunning : crew.running = 0)
    (hcrew : f.Unstopped crew.state.world)
    (hsingle : f.Unstopped (f.single.run ⟨c, world'⟩).2.world) :
    let trials := (f.single.run ⟨c, world'⟩).1.1
    let summary := (f.single.run ⟨c, world'⟩).1.2
    (crew.ended.map (·.index)).Perm (List.range f.options.trials) ∧
    (∀ e ∈ crew.ended, ∃ t t', e.result = some t ∧ trials[e.index]? = some t' ∧
      t.unbundled = t'.unbundled) ∧
    ∀ order : List ℕ, order.Nodup → (∀ e ∈ crew.ended, e.worker ∈ order) →
      let merged := f.complete (f.mergedIn order (crew.ended.filterMap Ending.record?)) crew.state
      merged.unbundled = summary.unbundled ∧
        ((∀ t ∈ crew.ended.filterMap Ending.result ++ trials, ∀ kind,
          t.disposition ≠ .reported kind none) →
            merged.bundles.length = summary.bundles.length) := by
  intro trials summary
  obtain ⟨hworld, hunstopped⟩ := hreaches.unstopped hstays hcrew
  have hdone : f.Completed c f.options.trials crew :=
    ⟨⟨world, hworld, hunstopped⟩, hwaiting, hrunning⟩
  -- The single worker is a crew, too, so the two are compared as crews that are done.
  obtain ⟨other, hother, hstate, htrials⟩ := exists_completed_single h hstays hsingle
  have hsummary : summary = f.complete (.ofTrials f.outputDirectory trials) other.state := by
    rw [hstate]
    unfold summary trials
    rw [run_single]
  have hrecords := hdone.records_perm h hother
  rw [htrials] at hrecords
  refine ⟨Multiset.coe_eq_coe.1 hdone.indices, ?_, ?_⟩
  · intro e he
    exact hdone.exists_record h hrecords (indices_single h hstays hsingle) he
  · intro order hnodup hworkers merged
    have horder (r : ℕ × Trial) (hr : r ∈ crew.ended.filterMap Ending.record?) : r.1 ∈ order := by
      obtain ⟨e, he, hrecord⟩ := List.mem_filterMap.1 hr
      obtain ⟨t, -, rfl⟩ := Option.map_eq_some_iff.1 hrecord
      exact hworkers e he
    have hunbundled : merged.unbundled = summary.unbundled := by
      have hsame : (f.mergedIn order (crew.ended.filterMap Ending.record?)).unbundled =
          (Summary.ofTrials f.outputDirectory trials).unbundled :=
        unbundled_mergedIn hnodup horder (by rwa [map_filterMap_record?])
      unfold merged
      rw [hsummary, hdone.complete_eq h hother hcrew (by rwa [hstate]), unbundled_complete,
        unbundled_complete, hsame]
    refine ⟨hunbundled, fun hfiled => ?_⟩
    have hbugs := congrArg Summary.bugsFound hunbundled
    have hmerged : merged.bundles.length = merged.bugsFound := by
      apply length_bundles_mergedIn hnodup horder
      rw [map_filterMap_record?]
      exact fun t ht => hfiled t (List.mem_append_left _ ht)
    have hsummaryBundles : summary.bundles.length = summary.bugsFound := by
      rw [hsummary]
      exact Summary.length_bundles_ofTrials f.outputDirectory
        fun t ht => hfiled t (List.mem_append_right _ ht)
    calc merged.bundles.length = merged.bugsFound := hmerged
      _ = summary.bugsFound := hbugs
      _ = summary.bundles.length := hsummaryBundles.symm

theorem independent_repeatable : repeatable.Independent panicking steady where
  toStateless := stateless_repeatable
  grammarCoverage := rfl
  coverage request o ho := by
    cases ho
    unfold Engine.Outcome.ofAnswer
    split_ifs <;> rfl
  primary_ne _ := nofun
  reference_ne _ := nofun

/-- Two workers that take the indices from the last one on, and whose summaries are added up from
the second one on. -/
theorem threads_refine_single_repeatable :
    ∃ world crew,
      repeatable.Reaches (fun _ => True) (.start ⟨.empty, world⟩ (Multiset.range 3)) crew ∧
      (crew.ended.filterMap Ending.record?).map (fun r => (r.1, r.2.index, r.2.disposition)) =
        [(0, 2, .notNovel), (1, 1, .reported .crash (some ⟨"new", "crash", "6"⟩)),
          (0, 0, .notNovel)] ∧
      let merged := repeatable.complete
        (repeatable.mergedIn [1, 0] (crew.ended.filterMap Ending.record?)) crew.state
      merged.unbundled = (repeatable.single.run ⟨.empty, 0⟩).1.2.unbundled ∧
        merged.bundles.length = 1 := by
  have hscheduled :
      (repeatable.scheduled (fun step => (step % 2, 2 - step)) [] 0 3 ⟨.empty, 0⟩).1.map
        (fun r => (r.1, r.2.index, r.2.disposition)) =
      [(0, 2, .notNovel), (1, 1, .reported .crash (some ⟨"new", "crash", "6"⟩)),
        (0, 0, .notNovel)] := by
    decide +kernel
  have hsingle : (repeatable.single.run ⟨.empty, 0⟩).1.1.map (·.disposition) =
      [.notNovel, .reported .crash (some ⟨"new", "crash", "6"⟩), .notNovel] := by
    decide +kernel
  have hlength : (repeatable.single.run ⟨.empty, 0⟩).1.2.bundles.length = 1 := by
    decide +kernel
  have hstays : repeatable.StaysStopped :=
    ⟨fun _ _ h => absurd h Bool.false_ne_true, fun _ _ h => absurd h Bool.false_ne_true⟩
  have hunstopped (calls : ℕ) : repeatable.Unstopped calls := rfl
  have hindices : scheduledIndices (fun step => (step % 2, 2 - step)) 0 3 = Multiset.range 3 := by
    decide
  obtain ⟨crew, hcrew, -, hrecords⟩ := exists_completed_scheduled .empty 0 independent_repeatable
    hstays hindices (hunstopped _)
  obtain ⟨world, -, hreaches⟩ := hcrew.reached
  have hreaches : repeatable.Reaches (fun _ => True) _ _ := hreaches.mono fun _ _ => trivial
  have hend : repeatable.Unstopped (repeatable.single.run ⟨.empty, 0⟩).2.world := hunstopped _
  obtain ⟨-, hresults, hmerged⟩ := threads_refine_single independent_repeatable hstays hreaches
    hcrew.waiting hcrew.running (hunstopped _) hend
  rw [← hrecords] at hscheduled
  have hworkers (e : Ending) (he : e ∈ crew.ended) : e.worker ∈ [1, 0] := by
    obtain ⟨t, -, ht, -⟩ := hresults e he
    have hrecord : e.record? = some (e.worker, t) := congrArg (Option.map _) ht
    have hmem := List.mem_map_of_mem (f := (fun r => (r.1, r.2.index, r.2.disposition)))
      (List.mem_filterMap.2 ⟨e, he, hrecord⟩)
    rw [hscheduled] at hmem
    have hworker := List.mem_map_of_mem (f := (·.1)) hmem
    exact (by decide : [0, 1, 0] ⊆ [1, 0]) hworker
  have hdispositions : (crew.ended.filterMap Ending.result).map (·.disposition) =
      [.notNovel, .reported .crash (some ⟨"new", "crash", "6"⟩), .notNovel] := by
    have hmap := congrArg (List.map (·.2.2)) hscheduled
    rw [← map_filterMap_record?, List.map_map]
    rwa [List.map_map] at hmap
  obtain ⟨hunbundled, hbundles⟩ := hmerged [1, 0] (by decide) hworkers
  refine ⟨world, crew, hreaches, hscheduled, hunbundled, (hbundles ?_).trans hlength⟩
  intro t ht kind hnone
  have hmem := List.mem_map_of_mem (f := (·.disposition)) ht
  rw [List.map_append, hdispositions, hsingle, hnone] at hmem
  simp at hmem

end Fuzzer
end Run
end QueryFuzz
