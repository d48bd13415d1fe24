import QueryFuzz.Proofs.Run.Accounting

/-!
# Adding summaries up

A summary counts trials, and counts do not depend on their order. So the summaries of several
workers add up to the summary that one worker would have of all their trials, whichever trials went
to which worker and whichever summary is added first. Only the bundles are listed in the order in
which they were written.
-/

namespace QueryFuzz
namespace Run

/-! ## Tallies -/

namespace Tally

variable {t u : Tally} {name x : String} {m n k : ℕ}

/-- The count of a name; none if it was never counted. -/
def count? (t : Tally) (x : String) : Option ℕ := t.entries.lookup x

theorem mem_entries_iff : (x, k) ∈ t.entries ↔ t.count? x = some k := by
  constructor
  · intro h
    obtain ⟨before, after, heq⟩ := List.append_of_mem h
    apply List.lookup_eq_some_iff.2
    refine ⟨before, after, heq, ?_⟩
    have hascending := t.ascending
    rw [heq, List.map_append, List.pairwise_append] at hascending
    intro p hp
    have hlt : p.1 < x := hascending.2.2 p.1 (List.mem_map_of_mem hp) x (by simp)
    rw [bne_iff_ne]
    rintro rfl
    exact String.lt_irrefl _ hlt
  · intro h
    obtain ⟨before, after, heq, -⟩ := List.lookup_eq_some_iff.1 h
    rw [heq]
    simp

/-- Tallies with the same counts are equal, because both are listed in ascending order. -/
theorem ext (h : ∀ x, t.count? x = u.count? x) : t = u := by
  have hpairs (t : Tally) : t.entries.Pairwise fun a b => a.1 < b.1 :=
    List.pairwise_map.1 t.ascending
  have hnodup (t : Tally) : t.entries.Nodup := by
    apply (hpairs t).imp
    rintro a _ hlt rfl
    exact String.lt_irrefl _ hlt
  have hperm : t.entries.Perm u.entries := by
    apply (List.perm_ext_iff_of_nodup (hnodup t) (hnodup u)).2
    rintro ⟨x, k⟩
    rw [mem_entries_iff, mem_entries_iff, h]
  have hlist : t.entries = u.entries :=
    hperm.eq_of_pairwise (fun _ _ _ _ h h' => absurd (String.lt_trans h h') (String.lt_irrefl _))
      (hpairs t) (hpairs u)
  cases t
  cases u
  cases hlist
  rfl

theorem lookup_cons (x y : String) (k : ℕ) (rest : List (String × ℕ)) :
    ((y, k) :: rest).lookup x = if x = y then some k else rest.lookup x := by
  rw [List.lookup_cons]
  by_cases h : x = y
  · simp [h]
  · simp [h, beq_eq_false_iff_ne.2 h]

/-- A name in front of all names of a list is not in it. -/
theorem lookup_of_lt {entries : List (String × ℕ)} (h : ∀ y ∈ entries.map Prod.fst, x < y) :
    entries.lookup x = none := by
  rw [List.lookup_eq_none_iff]
  rintro ⟨y, k⟩ hy
  rw [bne_iff_ne]
  rintro rfl
  exact String.lt_irrefl x (h x (List.mem_map_of_mem hy))

/-- Nothing else is counted. -/
theorem lookup_addCount {entries : List (String × ℕ)}
    (h : (entries.map Prod.fst).Pairwise (· < ·)) :
    (addCount name n entries).lookup x =
      if x = name then some ((entries.lookup x).getD 0 + n) else entries.lookup x := by
  induction entries with
  | nil => simp [addCount, lookup_cons]
  | cons e rest ih =>
    obtain ⟨y, k⟩ := e
    rw [List.map_cons, List.pairwise_cons] at h
    rw [addCount]
    by_cases hlt : name < y
    · rw [if_pos hlt, lookup_cons]
      by_cases hx : x = name
      · subst hx
        have hnew : ((y, k) :: rest).lookup x = none := by
          apply lookup_of_lt
          rw [List.map_cons, List.forall_mem_cons]
          exact ⟨hlt, fun z hz => String.lt_trans hlt (h.1 z hz)⟩
        rw [if_pos rfl, if_pos rfl, hnew, Option.getD_none, Nat.zero_add]
      · rw [if_neg hx, if_neg hx]
    rw [if_neg hlt]
    by_cases heq : name = y
    · subst heq
      rw [if_pos rfl, lookup_cons, lookup_cons]
      split_ifs
      · rfl
      · rfl
    · rw [if_neg heq, lookup_cons, lookup_cons, ih h.2]
      by_cases hx : x = y
      · subst hx
        rw [if_pos rfl, if_pos rfl, if_neg (Ne.symm heq)]
      · rw [if_neg hx, if_neg hx]

theorem count?_add (t : Tally) (name : String) (n : ℕ) (x : String) :
    (t.add name n).count? x =
      if x = name then some ((t.count? x).getD 0 + n) else t.count? x :=
  lookup_addCount t.ascending

theorem add_right_comm (t : Tally) (name other : String) (m n : ℕ) :
    (t.add name m).add other n = (t.add other n).add name m := by
  apply ext
  intro x
  simp only [count?_add]
  by_cases hname : x = name
  · subst hname
    by_cases hother : x = other
    · simp [hother, Nat.add_right_comm]
    · simp [hother]
  · simp [hname]

theorem count?_foldl_add {entries : List (String × ℕ)}
    (h : (entries.map Prod.fst).Pairwise (· < ·)) (t : Tally) (x : String) :
    (entries.foldl (fun t e => t.add e.1 e.2) t).count? x =
      Option.merge (· + ·) (t.count? x) (entries.lookup x) := by
  induction entries generalizing t with
  | nil => simp
  | cons e rest ih =>
    obtain ⟨y, k⟩ := e
    rw [List.map_cons, List.pairwise_cons] at h
    rw [List.foldl_cons, ih h.2, count?_add, lookup_cons]
    by_cases hx : x = y
    · subst hx
      rw [if_pos rfl, if_pos rfl, lookup_of_lt h.1]
      cases t.count? x <;> simp
    · rw [if_neg hx, if_neg hx]

/-- A merged tally counts what both count. -/
theorem count?_merge (t u : Tally) (x : String) :
    (t.merge u).count? x = Option.merge (· + ·) (t.count? x) (u.count? x) :=
  count?_foldl_add u.ascending t x

theorem merge_add (t u : Tally) (name : String) (n : ℕ) :
    t.merge (u.add name n) = (t.merge u).add name n := by
  apply ext
  intro x
  rw [count?_merge, count?_add, count?_add, count?_merge]
  by_cases hx : x = name
  · rw [if_pos hx, if_pos hx]
    cases t.count? x <;> cases u.count? x <;> simp [Nat.add_assoc]
  · rw [if_neg hx, if_neg hx]

end Tally

/-! ## Records -/

/-- The disposition without the name of a bundle. -/
def Disposition.unbundled : Disposition → Disposition
  | reported kind _ => reported kind none
  | d => d

/-- The record without the name of a bundle. -/
def Trial.unbundled (t : Trial) : Trial := { t with disposition := t.disposition.unbundled }

attribute [ext] Summary

namespace Summary

variable (s u : Summary) (t : Trial) (ts : List Trial)

/-- The summary without its bundles. -/
def unbundled : Summary := { s with bundles := [] }

@[simp] theorem outputDirectory_record : (s.record t).outputDirectory = s.outputDirectory := by
  rw [record_eq]

@[simp] theorem outputDirectory_foldl :
    (ts.foldl record s).outputDirectory = s.outputDirectory := by
  induction ts generalizing s with
  | nil => rfl
  | cons t rest ih => rw [List.foldl_cons, ih, outputDirectory_record]

/-- A trial counts the same, whichever of two summaries it is counted in. -/
theorem merge_record (h : u.outputDirectory = s.outputDirectory) :
    s.merge (u.record t) = (s.merge u).record t := by
  rw [record_eq, record_eq]
  apply Summary.ext
  case trialsRun => exact (Nat.add_assoc _ _ _).symm
  case fallbacks => exact (Nat.add_assoc _ _ _).symm
  case normal =>
    cases t.reason with
    | none => rfl
    | some reason => exact Tally.merge_add _ _ _ _
  case bugs =>
    cases t.disposition with
    | reported kind bundle => exact Tally.merge_add _ _ _ _
    | _ => rfl
  case bundles =>
    cases t.disposition with
    | reported kind bundle =>
      simp only [merge, countDisposition, h]
      exact (List.append_assoc _ _ _).symm
    | _ => rfl
  case seeded | generated | mutated => cases t.source <;> rfl
  case admitted | notNovel | skipped | executionFailures => cases t.disposition <;> rfl
  all_goals rfl

theorem merge_start : s.merge (start s.outputDirectory) = s := by
  apply Summary.ext
  case bundles => exact List.append_nil s.bundles
  all_goals rfl

theorem merge_ofTrials (ts : List Trial) :
    s.merge (ofTrials s.outputDirectory ts) = ts.foldl record s := by
  unfold ofTrials
  induction ts using List.reverseRecOn with
  | nil => exact s.merge_start
  | append_singleton ts t ih =>
    rw [List.foldl_concat, List.foldl_concat, ← ih]
    exact merge_record s _ t (outputDirectory_foldl _ ts)

/-- Whoever made the trials, and in whatever order the summaries are added. -/
theorem foldl_merge {α : Type} (part : α → List Trial) (order : List α) :
    order.foldl (fun merged a => merged.merge (.ofTrials s.outputDirectory (part a))) s =
      (order.flatMap part).foldl record s := by
  induction order generalizing s with
  | nil => rfl
  | cons a rest ih =>
    have hdirectory : s.outputDirectory = ((part a).foldl record s).outputDirectory := by simp
    rw [List.foldl_cons, List.flatMap_cons, List.foldl_append, merge_ofTrials, ← ih, ← hdirectory]

/-! ## Any order -/

theorem unbundled_record : (s.record t).unbundled = s.unbundled.record t.unbundled := by
  obtain ⟨index, source, fallback, candidate, verdict, reason, disposition⟩ := t
  cases source <;> cases reason <;> cases disposition <;> rfl

theorem unbundled_foldl :
    (ts.foldl record s).unbundled = (ts.map Trial.unbundled).foldl record s.unbundled := by
  induction ts generalizing s with
  | nil => rfl
  | cons t rest ih => rw [List.foldl_cons, ih, unbundled_record, List.map_cons, List.foldl_cons]

/-- Two trials count the same in either order. -/
theorem record_right_comm (t t' : Trial) :
    (s.record t.unbundled).record t'.unbundled = (s.record t'.unbundled).record t.unbundled := by
  obtain ⟨index, source, fallback, candidate, verdict, reason, disposition⟩ := t
  obtain ⟨index', source', fallback', candidate', verdict', reason', disposition'⟩ := t'
  -- Field by field, both trials add to numbers and to tallies only.
  rw [record_eq, record_eq, record_eq, record_eq]
  apply Summary.ext
  case fallbacks => exact Nat.add_right_comm _ _ _
  case seeded | generated | mutated => cases source <;> cases source' <;> rfl
  case normal =>
    cases reason <;> cases reason'
    case some.some => exact Tally.add_right_comm _ _ _ _ _
    all_goals rfl
  case bugs =>
    cases disposition <;> cases disposition'
    case reported.reported => exact Tally.add_right_comm _ _ _ _ _
    all_goals rfl
  case admitted | notNovel | skipped | executionFailures | bundles =>
    cases disposition <;> cases disposition' <;> rfl
  all_goals rfl

theorem unbundled_ofTrials_perm {ts ts' : List Trial} (outputDirectory : String)
    (h : (ts.map Trial.unbundled).Perm (ts'.map Trial.unbundled)) :
    (ofTrials outputDirectory ts).unbundled = (ofTrials outputDirectory ts').unbundled := by
  unfold ofTrials
  rw [unbundled_foldl, unbundled_foldl]
  apply h.foldl_eq'
  intro x hx y hy s
  obtain ⟨t, -, rfl⟩ := List.mem_map.1 hx
  obtain ⟨t', -, rfl⟩ := List.mem_map.1 hy
  exact s.record_right_comm t t'

/-- Where every bug has a bundle, there are as many bundles as bugs. -/
theorem length_bundles_ofTrials {ts : List Trial} (outputDirectory : String)
    (h : ∀ t ∈ ts, ∀ kind, t.disposition ≠ .reported kind none) :
    (ofTrials outputDirectory ts).bundles.length = (ofTrials outputDirectory ts).bugsFound := by
  unfold ofTrials
  induction ts using List.reverseRecOn with
  | nil => rfl
  | append_singleton ts t ih =>
    have hts := ih fun t ht => h t (List.mem_append_left _ ht)
    have ht := h t (List.mem_append_right _ (List.mem_singleton_self t))
    rw [List.foldl_concat, record_eq]
    unfold bugsFound at hts ⊢
    cases hdisposition : t.disposition with
    | reported kind bundle =>
      obtain ⟨path, rfl⟩ : ∃ path, bundle = some path := by
        apply Option.ne_none_iff_exists'.1
        rintro rfl
        exact ht kind hdisposition
      simp only [countDisposition, Tally.total_add, Option.map_some, Option.toList_some,
        List.length_append, List.length_singleton, hts]
    | _ => exact hts

end Summary

/-! ## Workers -/

/-- The trials of each worker are all trials, if there is no other worker. -/
theorem flatMap_filter_perm {order : List ℕ} (hnodup : order.Nodup) {trials : List (ℕ × Trial)}
    (horder : ∀ t ∈ trials, t.1 ∈ order) :
    (order.flatMap fun worker => trials.filter (·.1 == worker)).Perm trials := by
  induction order generalizing trials with
  | nil =>
    obtain rfl : trials = [] := by
      apply List.eq_nil_iff_forall_not_mem.2
      intro t ht
      cases horder t ht
    exact .nil
  | cons worker rest ih =>
    obtain ⟨hworker, hrest⟩ := List.nodup_cons.1 hnodup
    -- The other workers have none of the trials of this one.
    have hothers :
        (rest.flatMap fun other => trials.filter (·.1 == other)) = rest.flatMap fun other =>
          (trials.filter fun t => !(t.1 == worker)).filter (·.1 == other) := by
      apply List.flatMap_congr
      intro other hother
      rw [List.filter_filter]
      apply List.filter_congr
      intro t _
      by_cases h : t.1 = other
      · have hne : t.1 ≠ worker := by
          rintro rfl
          exact hworker (h ▸ hother)
        simp [h, h ▸ hne]
      · simp [h]
    rw [List.flatMap_cons, hothers]
    have hothers' (t : ℕ × Trial) (ht : t ∈ trials.filter fun t => !(t.1 == worker)) :
        t.1 ∈ rest := by
      obtain ⟨ht, hne⟩ := List.mem_filter.1 ht
      simpa [show t.1 ≠ worker by simpa using hne] using horder t ht
    have hperm := ih hrest hothers'
    exact (hperm.append_left _).trans (List.filter_append_perm _ trials)

namespace Fuzzer

variable {σ : Type} (f : Fuzzer σ)

/-- The summaries of some workers, added up in this order. -/
def mergedIn (order : List ℕ) (trials : List (ℕ × Trial)) : Summary :=
  order.foldl (fun merged worker =>
    merged.merge (.ofTrials f.outputDirectory
      ((trials.filter (·.1 == worker)).map (·.2)))) (.start f.outputDirectory)

section Merging

variable {f} {order : List ℕ} (hnodup : order.Nodup) {trials : List (ℕ × Trial)}
  (horder : ∀ t ∈ trials, t.1 ∈ order)

include hnodup horder

/-- It is the summary of the same trials in some order. -/
theorem exists_perm_mergedIn :
    ∃ ts, ts.Perm (trials.map (·.2)) ∧
      f.mergedIn order trials = .ofTrials f.outputDirectory ts := by
  refine ⟨_, (flatMap_filter_perm hnodup horder).map (·.2), ?_⟩
  rw [List.map_flatMap]
  exact Summary.foldl_merge (.start f.outputDirectory) _ order

theorem unbundled_mergedIn {ts : List Trial}
    (hts : ((trials.map (·.2)).map Trial.unbundled).Perm (ts.map Trial.unbundled)) :
    (f.mergedIn order trials).unbundled = (Summary.ofTrials f.outputDirectory ts).unbundled := by
  obtain ⟨ts', hperm, hmerged⟩ := exists_perm_mergedIn (f := f) hnodup horder
  rw [hmerged]
  exact Summary.unbundled_ofTrials_perm f.outputDirectory ((hperm.map _).trans hts)

theorem length_bundles_mergedIn
    (h : ∀ t ∈ trials.map (·.2), ∀ kind, t.disposition ≠ .reported kind none) :
    (f.mergedIn order trials).bundles.length = (f.mergedIn order trials).bugsFound := by
  obtain ⟨ts, hperm, hmerged⟩ := exists_perm_mergedIn (f := f) hnodup horder
  rw [hmerged]
  exact Summary.length_bundles_ofTrials f.outputDirectory fun t ht => h t (hperm.subset ht)

end Merging

theorem exists_worker_of_mem_scheduled {schedule : ℕ → ℕ × ℕ} {gone : List ℕ} {step remaining : ℕ}
    {s : State σ} {t : ℕ × Trial} (ht : t ∈ (f.scheduled schedule gone step remaining s).1) :
    ∃ k, t.1 = (schedule k).1 := by
  induction remaining generalizing gone step s with
  | zero => cases ht
  | succ remaining ih =>
    unfold scheduled at ht
    dsimp only at ht
    by_cases hgone : gone.contains (schedule step).1 = true
    · rw [if_pos hgone] at ht
      exact ih ht
    · rw [if_neg hgone] at ht
      simp only [bind, StateT.bind] at ht
      rcases htrial : f.trial (schedule step).2 s with ⟨_ | first, s'⟩ <;>
        simp only [htrial] at ht
      · exact ih ht
      · rcases List.mem_cons.1 ht with rfl | ht
        · exact ⟨step, rfl⟩
        · exact ih ht

/-- However many workers there are, the summary of a run is that of its trials. -/
theorem unbundled_run (s : State σ) :
    (f.run s).1.2.unbundled =
      (f.complete (.ofTrials f.outputDirectory (f.run s).1.1) (f.run s).2).unbundled := by
  by_cases hworkers : f.options.workers ≤ 1
  · rw [run_sequential hworkers]
    rfl
  · let workers := f.options.workers
    let out := f.scheduled (fun step => (step % workers, step)) [] 0 f.options.trials s
    have hworker (t : ℕ × Trial) (ht : t ∈ out.1) : t.1 ∈ List.range workers := by
      obtain ⟨k, hk⟩ := f.exists_worker_of_mem_scheduled ht
      rw [hk]
      exact List.mem_range.2 (Nat.mod_lt k (Nat.lt_trans Nat.one_pos (Nat.not_le.1 hworkers)))
    have hmerged : (f.mergedSummary workers out.1).unbundled =
        (Summary.ofTrials f.outputDirectory (out.1.map (·.2))).unbundled :=
      unbundled_mergedIn List.nodup_range hworker (.refl _)
    unfold run
    rw [if_neg hworkers]
    exact congrArg (f.complete · out.2) hmerged

end Fuzzer

end Run
end QueryFuzz
