import QueryFuzz.Proofs.Run.Merging
import QueryFuzz.Proofs.Run.Reproduction

/-!
# Independent trials

Where stateless engines report no coverage and the grammar is not biased, the corpus never admits a
candidate, and no trial reads the only part of it that changes. So the record of a trial depends on
its index alone, and workers that share the indices in any way do what one worker does. What the
trials tell the corpus is the same, too, and so is what it has counted in the end.
-/

namespace QueryFuzz

open Coverage (Signature)

/-! ## Candidates without coverage -/

/-- The corpus with another grammar frontier. -/
def Corpus.withRules (c : Corpus) (rules : NameSet) : Corpus := { c with grammarFrontier := rules }

theorem Corpus.submit_of_units {c : Corpus} {s : Signature} (h : s.units = .empty)
    (x : Candidate) : c.submit x s = (none, c.withRules (c.grammarFrontier.union s.rules)) := by
  rcases c.submit_cases x s with ⟨⟨u, hu, -⟩, -⟩ | ⟨-, heq⟩
  · rw [h] at hu
    exact absurd hu NameSet.not_mem_empty
  · rw [heq]
    unfold observe
    rw [h]
    rfl

theorem Corpus.mem_grammarFrontier_submitAll {c : Corpus} {calls : List Corpus.Call}
    {rule : String} : rule ∈ (c.submitAll calls).2.grammarFrontier ↔
      rule ∈ c.grammarFrontier ∨ ∃ call ∈ calls, rule ∈ call.signature.rules := by
  induction calls generalizing c with
  | nil => simp [submitAll]
  | cons call rest ih =>
    have hsubmit : (c.submit call.candidate call.signature).2.grammarFrontier =
        c.grammarFrontier.union call.signature.rules := by
      rcases c.submit_cases call.candidate call.signature with ⟨-, heq⟩ | ⟨-, heq⟩ <;> rw [heq] <;>
        rfl
    show rule ∈ ((c.submit call.candidate call.signature).2.submitAll rest).2.grammarFrontier ↔ _
    rw [ih, hsubmit]
    simp [or_assoc]

theorem Coverage.Signature.units_of_nil (granularity : Coverage.Granularity) (rules : NameSet) :
    ((Signature.ofTrace granularity []).withRules rules).units = .empty := by
  cases granularity <;> rfl

namespace Run

variable {σ : Type}

namespace Fuzzer

/-- Trials have nothing to do with one another. -/
structure Independent (f : Fuzzer σ) (primary reference : Answering) : Prop
    extends f.Stateless primary reference where
  grammarCoverage : f.options.grammarCoverage = false
  /-- The engine reports no coverage. -/
  coverage : ∀ request o, primary request = .ok o → o.coverage = []
  /-- Only a stop cancels an execution. -/
  primary_ne : ∀ request, primary request ≠ .error .cancelled
  reference_ne : ∀ request, reference request ≠ .error .cancelled

variable (f : Fuzzer σ) (primary reference : Answering)

/-- The record of a trial that depends on its index alone, without the name of a bundle, and what it
tells the corpus. -/
def settled (c : Corpus) (index : ℕ) : Trial × Multiset Corpus.Call :=
  match f.produce c index with
  | .error e => (⟨index, .generate, false, none, none, none, .skipped e.message⟩, 0)
  | .ok p =>
    match f.databases[p.candidate.database]? with
    | none => ({ p.trial index with
        disposition := .skipped s!"no seed database {p.candidate.database}" }, 0)
    | some db =>
      match f.answered primary reference ⟨p.candidate.sql, db.path⟩ with
      | .error e => ({ p.trial index with disposition := .executionFailed e.message }, 0)
      | .ok o =>
        if (f.verdict p o).kind.isBug then
          (p.judged index (f.verdict p o) (.reported (f.verdict p o).kind none), 0)
        else (p.judged index (f.verdict p o) .notNovel, {f.call p.candidate o})

/-- Workers count on the corpus to stay as it is, but for the grammar frontier. -/
def stillRely : Rely σ where
  allows := f.Unstopped
  moves c c' := ∃ rules, c' = c.withRules rules
  refl c := ⟨c.grammarFrontier, rfl⟩
  trans := by
    rintro c _ _ ⟨rules, rfl⟩ ⟨rules', rfl⟩
    exact ⟨rules', rfl⟩

variable {f primary reference} {c : Corpus} {index : ℕ}

/-- A trial does not look at the grammar frontier. -/
theorem producedFrom_withRules (h : f.options.grammarCoverage = false) (rules rules' : NameSet) :
    f.producedFrom (c.withRules rules) (c.withRules rules') index = f.produce c index := by
  have hgenerated (s : Draw.Source) : f.generated (c.withRules rules') s = f.generated c s := by
    unfold generated
    rw [h]
    rfl
  rw [← producedFrom_self]
  unfold producedFrom
  simp only [hgenerated]
  rfl

theorem Independent.answered_ne_cancelled (h : f.Independent primary reference)
    (request : Engine.Request) : f.answered primary reference request ≠ .error .cancelled := by
  unfold answered
  cases hprimary : primary request with
  | error e =>
    rintro ⟨⟩
    exact h.primary_ne request hprimary
  | ok o =>
    dsimp only
    split_ifs
    · rintro ⟨⟩
    · cases hreference : reference request with
      | error e =>
        rintro ⟨⟩
        exact h.reference_ne request hreference
      | ok o' => rintro ⟨⟩

theorem Independent.not_interrupted (h : f.Independent primary reference) :
    ¬ f.Interrupted f.stillRely := by
  rintro (⟨request, hrequest⟩ | ⟨world, hunstopped, hstopped⟩)
  · exact h.answered_ne_cancelled request (h.executes_eq (fun _ => id) hrequest)
  · exact Bool.eq_false_iff.1 hunstopped hstopped

theorem Independent.units_call (h : f.Independent primary reference) {request : Engine.Request}
    {o : Engine.DualOutcome} (ho : f.answered primary reference request = .ok o) (x : Candidate) :
    (f.call x o).signature.units = .empty := by
  have hcoverage : o.primary.coverage = [] := by
    unfold answered at ho
    cases hprimary : primary request with
    | error e =>
      rw [hprimary] at ho
      cases ho
    | ok first =>
      have hfirst := h.coverage request first hprimary
      rw [hprimary] at ho
      dsimp only at ho
      split_ifs at ho
      · cases ho
        exact hfirst
      · cases hreference : reference request with
        | error e =>
          rw [hreference] at ho
          cases ho
        | ok o' =>
          rw [hreference] at ho
          cases ho
          exact hfirst
  unfold call
  rw [hcoverage]
  exact Coverage.Signature.units_of_nil _ _

theorem Independent.offers (h : f.Independent primary reference) (c : Corpus) (index : ℕ) :
    f.Offers f.stillRely c index := by
  intro _ _ now p db o _ _ _ _ _ ho _
  rw [Corpus.submit_of_units (h.units_call (h.executes_eq (fun _ => id) ho) p.candidate)]
  exact ⟨_, rfl⟩

theorem Independent.produces_eq (h : f.Independent primary reference)
    {result : Except Grammar.Failure Product} (hresult : f.Produces f.stillRely c index result) :
    f.produce c index = result := by
  obtain ⟨planned, fresh, ⟨rules, rfl⟩, ⟨rules', rfl⟩, rfl⟩ := hresult
  exact (producedFrom_withRules h.grammarCoverage rules rules').symm

/-- The course of a trial among others is settled. -/
theorem Course.settled (h : f.Independent primary reference) {deeds : List Deed}
    {result : Option Trial} (hcourse : f.Course f.stillRely c index deeds result) :
    ∃ t, result = some t ∧
      f.settled primary reference c index = (t.unbundled, callsOf deeds) := by
  unfold Fuzzer.settled
  cases hcourse with
  | abandoned hinterrupted => exact absurd hinterrupted h.not_interrupted
  | unproduced e he =>
    rw [h.produces_eq he]
    exact ⟨_, rfl, rfl⟩
  | unplaced p hp hdb =>
    rw [h.produces_eq hp]
    dsimp only
    rw [hdb]
    exact ⟨_, rfl, rfl⟩
  | failed p db e hp hdb he =>
    rw [h.produces_eq hp]
    dsimp only
    rw [hdb]
    dsimp only
    rw [h.executes_eq (fun _ => id) he]
    exact ⟨_, rfl, rfl⟩
  | reported p db o sql time world hp hdb ho hbug =>
    rw [h.produces_eq hp]
    dsimp only
    rw [hdb]
    dsimp only
    rw [h.executes_eq (fun _ => id) ho]
    dsimp only
    rw [if_pos hbug]
    exact ⟨_, rfl, rfl⟩
  | offered p db o now hp hdb ho hnormal =>
    have houtcome := h.executes_eq (fun _ => id) ho
    rw [h.produces_eq hp]
    dsimp only
    rw [hdb]
    dsimp only
    rw [houtcome]
    dsimp only
    rw [if_neg (Bool.eq_false_iff.1 hnormal), Corpus.submit_of_units (h.units_call houtcome _)]
    exact ⟨_, rfl, rfl⟩

theorem settled_index (index : ℕ) : (f.settled primary reference c index).1.index = index := by
  unfold Fuzzer.settled
  cases f.produce c index with
  | error e => rfl
  | ok p =>
    dsimp only
    cases f.databases[p.candidate.database]? with
    | none => rfl
    | some db =>
      dsimp only
      cases f.answered primary reference ⟨p.candidate.sql, db.path⟩ with
      | error e => rfl
      | ok o =>
        dsimp only
        split_ifs <;> rfl

theorem Independent.upholds (h : f.Independent primary reference) {world : σ}
    (hworld : f.Unstopped world) {indices : Multiset ℕ} {crew : Crew σ}
    (hreaches : f.Reaches f.Unstopped (.start ⟨c, world⟩ indices) crew) :
    Upholds f f.stillRely c (f.Course f.stillRely c) crew :=
  upholds_course (s := ⟨c, world⟩) hworld hreaches fun index => h.offers c index

/-! ## Crews that are done -/

/-- All trials of a crew have ended, and it was not stopped. -/
structure Completed (f : Fuzzer σ) (c : Corpus) (trials : ℕ) (crew : Crew σ) : Prop where
  reached : ∃ world, f.Unstopped world ∧
    f.Reaches f.Unstopped (.start ⟨c, world⟩ (Multiset.range trials)) crew
  waiting : crew.waiting = 0
  running : crew.running = 0

section Completed

variable {trials : ℕ} {crew crew' : Crew σ}

theorem Completed.indices (hcrew : f.Completed c trials crew) :
    (crew.ended.map Ending.index : Multiset ℕ) = Multiset.range trials := by
  obtain ⟨world, -, hreaches⟩ := hcrew.reached
  obtain ⟨hindices, -⟩ := books_of_reaches hreaches
  unfold Crew.indices at hindices
  rw [hcrew.waiting, hcrew.running] at hindices
  simpa using hindices

theorem Completed.settled (h : f.Independent primary reference) (hcrew : f.Completed c trials crew)
    {e : Ending} (he : e ∈ crew.ended) : ∃ t, e.result = some t ∧
      f.settled primary reference c e.index = (t.unbundled, callsOf e.deeds) := by
  obtain ⟨world, hworld, hreaches⟩ := hcrew.reached
  exact ((h.upholds hworld hreaches).ended e he).settled h

/-- The records of a crew that is done. -/
theorem Completed.records (h : f.Independent primary reference)
    (hcrew : f.Completed c trials crew) :
    ((crew.ended.filterMap Ending.result).map Trial.unbundled : Multiset Trial) =
      (Multiset.range trials).map fun index => (f.settled primary reference c index).1 := by
  have hrecords : ∀ e ∈ crew.ended, e.result.map Trial.unbundled =
      some (f.settled primary reference c e.index).1 := by
    intro e he
    obtain ⟨t, ht, hsettled⟩ := hcrew.settled h he
    rw [ht, Option.map_some, hsettled]
  rw [← hcrew.indices, Multiset.map_coe, List.map_filterMap, List.filterMap_congr hrecords,
    List.filterMap_eq_map', List.map_map]
  rfl

/-- The calls of the corpus by a crew that is done. -/
theorem Completed.calls (h : f.Independent primary reference)
    (hcrew : f.Completed c trials crew) :
    crew.calls =
      (Multiset.range trials).bind fun index => (f.settled primary reference c index).2 := by
  unfold Crew.calls
  rw [hcrew.running, Multiset.zero_bind, add_zero, ← hcrew.indices, ← Multiset.map_coe,
    Multiset.bind_map]
  apply Multiset.bind_congr
  intro e he
  obtain ⟨t, -, hsettled⟩ := hcrew.settled h (Multiset.mem_coe.1 he)
  rw [hsettled]

/-- Two crews that are done have the same corpus. -/
theorem Completed.corpus_eq (h : f.Independent primary reference)
    (hcrew : f.Completed c trials crew) (hcrew' : f.Completed c trials crew') :
    crew.state.corpus = crew'.state.corpus := by
  have hmem {crew : Crew σ} (hcrew : f.Completed c trials crew) (rule : String) :
      rule ∈ crew.state.corpus.grammarFrontier ↔ rule ∈ c.grammarFrontier ∨
        ∃ call ∈ (Multiset.range trials).bind fun index =>
          (f.settled primary reference c index).2, rule ∈ call.signature.rules := by
    obtain ⟨world, -, hreaches⟩ := hcrew.reached
    obtain ⟨-, calls, hcalls, hcorpus⟩ := books_of_reaches hreaches
    rw [hcorpus, Corpus.mem_grammarFrontier_submitAll, ← hcrew.calls h, ← hcalls]
    rfl
  have hrules {crew : Crew σ} (hcrew : f.Completed c trials crew) :
      ∃ rules, crew.state.corpus = c.withRules rules := by
    obtain ⟨world, hworld, hreaches⟩ := hcrew.reached
    exact (h.upholds hworld hreaches).moved
  -- Only the rules can differ, and each crew has those of the same calls.
  obtain ⟨rules, hcorpus⟩ := hrules hcrew
  obtain ⟨rules', hcorpus'⟩ := hrules hcrew'
  have hext : rules = rules' := by
    apply NameSet.ext
    intro rule
    have hiff := (hmem hcrew rule).trans (hmem hcrew' rule).symm
    rwa [hcorpus, hcorpus'] at hiff
  rw [hcorpus, hcorpus', hext]

end Completed

end Fuzzer
end Run
end QueryFuzz
