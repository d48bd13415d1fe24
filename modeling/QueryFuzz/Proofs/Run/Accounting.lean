import Mathlib.Algebra.GroupWithZero.Nat
import QueryFuzz.Proofs.Corpus.History
import QueryFuzz.Proofs.Run.Trials

/-!
# Accounts of a run

A summary is a count of trials, each of which is counted by its source, by its reason and by what
became of it. The counts agree at every moment of a run, so they agree wherever it is stopped.
-/

namespace QueryFuzz
namespace Run

variable {σ : Type}

/-! ## Tallies -/

namespace Tally

/-- The names that were counted. -/
def names (t : Tally) : List String := t.entries.map Prod.fst

theorem mem_names_add {t : Tally} {name x : String} {n : ℕ} :
    x ∈ (t.add name n).names ↔ x = name ∨ x ∈ t.names :=
  key_mem_addCount

theorem total_eq_sum (t : Tally) : t.total = (t.entries.map Prod.snd).sum := by
  rw [total, List.sum_eq_foldl, List.foldl_map]

theorem sum_addCount (name : String) (n : ℕ) (entries : List (String × ℕ)) :
    ((addCount name n entries).map Prod.snd).sum = (entries.map Prod.snd).sum + n := by
  induction entries with
  | nil => simp [addCount]
  | cons e rest ih =>
    obtain ⟨x, k⟩ := e
    unfold addCount
    split_ifs
    all_goals simp only [List.map_cons, List.sum_cons]
    all_goals omega

theorem total_add (t : Tally) (name : String) (n : ℕ) :
    (t.add name n).total = t.total + n := by
  rw [total_eq_sum, total_eq_sum]
  exact sum_addCount name n t.entries

end Tally

/-! ## One more trial -/

/-- Was the candidate offered to the corpus? -/
def Disposition.isOffer : Disposition → Bool
  | admitted _ | notNovel => true
  | reported _ _ | skipped _ | executionFailed _ => false

namespace Summary

variable (s : Summary) (t : Trial)

/-- What a trial is counted by: its source, its reason and what became of it, and nothing twice. -/
theorem record_eq : s.record t = { s with
    trialsRun := s.trialsRun + 1
    seeded := (s.countSource t.source).seeded
    generated := (s.countSource t.source).generated
    mutated := (s.countSource t.source).mutated
    fallbacks := s.fallbacks + if t.fallback then 1 else 0
    admitted := (s.countDisposition t.disposition).admitted
    notNovel := (s.countDisposition t.disposition).notNovel
    skipped := (s.countDisposition t.disposition).skipped
    executionFailures := (s.countDisposition t.disposition).executionFailures
    bugs := (s.countDisposition t.disposition).bugs
    normal := (s.countReason t.reason).normal
    bundles := (s.countDisposition t.disposition).bundles } := by
  obtain ⟨index, source, fallback, candidate, verdict, reason, disposition⟩ := t
  cases source <;> cases reason <;> cases disposition <;> rfl

/-- A trial becomes one thing. -/
theorem accounted_record : (s.record t).accounted = s.accounted + 1 := by
  rw [record_eq]
  unfold accounted bugsFound
  cases t.disposition
  all_goals simp only [countDisposition, Tally.total_add]
  all_goals omega

/-- A trial has one source. -/
theorem sources_record : (s.record t).seeded + (s.record t).generated + (s.record t).mutated =
    s.seeded + s.generated + s.mutated + 1 := by
  rw [record_eq]
  cases t.source
  all_goals simp only [countSource]
  all_goals omega

theorem fallbacks_record (h : t.fallback = true → t.source = .generate)
    (hs : s.fallbacks ≤ s.generated) : (s.record t).fallbacks ≤ (s.record t).generated := by
  rw [record_eq]
  by_cases hfallback : t.fallback = true
  · simp only [hfallback, h hfallback, countSource, if_true]
    omega
  · simp only [hfallback, Bool.false_eq_true, if_false]
    cases t.source
    all_goals simp only [countSource]
    all_goals omega

theorem bundles_record (hs : s.bundles.length ≤ s.bugsFound) :
    (s.record t).bundles.length ≤ (s.record t).bugsFound := by
  rw [record_eq]
  unfold bugsFound at hs ⊢
  cases t.disposition with
  | reported kind bundle =>
    have hone : (bundle.map fun p =>
        Storage.joinPath s.outputDirectory p.text).toList.length ≤ 1 := by
      cases bundle <;> simp
    simp only [countDisposition, Tally.total_add, List.length_append]
    omega
  | _ => exact hs

theorem offers_record : (s.record t).admitted + (s.record t).notNovel =
    s.admitted + s.notNovel + if t.disposition.isOffer then 1 else 0 := by
  rw [record_eq]
  cases t.disposition
  all_goals simp only [countDisposition, Disposition.isOffer, if_true, Bool.false_eq_true, if_false]
  all_goals omega

theorem normal_record :
    (s.record t).normal.total = s.normal.total + if t.reason.isSome then 1 else 0 := by
  rw [record_eq]
  cases t.reason with
  | none => rfl
  | some reason => exact Tally.total_add s.normal reason.label 1

/-- The names of reasons belong to the reasons of trials. -/
theorem names_record {name : String} (h : name ∈ (s.record t).normal.names) :
    name ∈ s.normal.names ∨ ∃ reason, t.reason = some reason ∧ name = reason.label := by
  rw [record_eq] at h
  cases hreason : t.reason with
  | none =>
    rw [hreason] at h
    exact .inl h
  | some reason =>
    rw [hreason] at h
    rcases Tally.mem_names_add.1 h with hname | hname
    · exact .inr ⟨reason, rfl, hname⟩
    · exact .inl hname

end Summary

/-! ## What the counts rest on -/

theorem Oracle.NormalReason.label_injective {r r' : Oracle.NormalReason}
    (h : r.label = r'.label) : r = r' := by
  cases r <;> cases r' <;> first | rfl | exact absurd h (by decide)

namespace Fuzzer

variable {f : Fuzzer σ} {index : ℕ} {c c' : Corpus} {t : Trial}

theorem Ends.index_eq (h : f.Ends index c t c') : t.index = index := by
  cases h <;> rfl

theorem Ends.source_of_fallback (h : f.Ends index c t c') (hfallback : t.fallback = true) :
    t.source = .generate := by
  cases h
  case unproduced => rfl
  all_goals exact Fuzzer.source_of_fallback ‹_› hfallback

/-- A trial has a reason exactly if its candidate was offered to the corpus. -/
theorem Ends.isSome_reason (h : f.Ends index c t c') :
    t.reason.isSome = t.disposition.isOffer := by
  have hreason (p : Product) (o : Engine.DualOutcome) :
      (f.verdict p o).reason.isSome = !(f.verdict p o).kind.isBug :=
    Oracle.isSome_reason_classify f.oracle p.candidate.sql o
  cases h with
  | unproduced | unplaced | failed => rfl
  | reported p o _ _ _ hbug => exact (hreason p o).trans (congrArg Bool.not hbug)
  | admitted p o _ _ _ _ hnormal => exact (hreason p o).trans (congrArg Bool.not hnormal)
  | rejected p o _ _ _ hnormal => exact (hreason p o).trans (congrArg Bool.not hnormal)

theorem Ends.ran (h : f.Ends index c t c') {reason : Oracle.NormalReason}
    (hreason : t.reason = some reason) :
    ∃ p o, f.engines.Ran o ∧ (f.verdict p o).reason = some reason := by
  cases h with
  | unproduced | unplaced | failed => cases hreason
  | reported p o _ _ hran _ => exact ⟨p, o, hran, hreason⟩
  | admitted p o _ _ _ hran _ => exact ⟨p, o, hran, hreason⟩
  | rejected p o _ _ hran _ => exact ⟨p, o, hran, hreason⟩

/-- The corpus has one entry more behind an admission, and is as large as before behind all else. -/
theorem Ends.size_eq (h : f.Ends index c t c') (s : Summary) (hs : c.size = s.admitted) :
    c'.size = (s.record t).admitted := by
  rw [Summary.record_eq]
  cases h with
  | unproduced | unplaced | failed | reported => exact hs
  | admitted p o id c' _ _ _ hsubmit =>
    unfold submitted at hsubmit
    rcases c.submit_cases p.candidate _ with ⟨-, heq⟩ | ⟨-, heq⟩
    · rw [heq] at hsubmit
      cases hsubmit
      exact List.length_append.trans (congrArg (· + 1) hs)
    · rw [heq] at hsubmit
      cases hsubmit
  | rejected p o c' _ _ _ hsubmit =>
    unfold submitted at hsubmit
    rcases c.submit_cases p.candidate _ with ⟨-, heq⟩ | ⟨-, heq⟩
    · rw [heq] at hsubmit
      cases hsubmit
    · rw [heq] at hsubmit
      cases hsubmit
      exact hs

end Fuzzer

/-! ## The accounts -/

/-- What the counts of a summary have to do with one another and with a corpus. -/
structure Accounts (f : Fuzzer σ) (trials : ℕ) (c : Corpus) (s : Summary) : Prop where
  trialsRun : s.trialsRun = trials
  /-- Every trial became something, -/
  accounted : s.accounted = trials
  /-- and has a source. -/
  sources : s.seeded + s.generated + s.mutated = trials
  /-- Every candidate with nothing wrong has a reason and was offered to the corpus, -/
  normal : s.normal.total = s.admitted + s.notNovel
  /-- which has those that were admitted. -/
  size : c.size = s.admitted
  fallbacks : s.fallbacks ≤ s.generated
  /-- A bug has one bundle at most. -/
  bundles : s.bundles.length ≤ s.bugsFound
  checked : "unchecked" ∉ s.normal.names
  confirmed : "shared_failure" ∈ s.normal.names → f.engines.confirmCrash = true

section Accounts

variable {f : Fuzzer σ} {index n : ℕ} {c c' : Corpus} {s : Summary} {t : Trial}

theorem accounts_start (f : Fuzzer σ) (outputDirectory : String) :
    Accounts f 0 .empty (.start outputDirectory) := by
  constructor
  case checked => exact List.not_mem_nil
  case confirmed => exact fun h => absurd h List.not_mem_nil
  all_goals rfl

/-- One more trial. -/
theorem Accounts.record (h : Accounts f n c s) (ht : f.Ends index c t c') :
    Accounts f (n + 1) c' (s.record t) where
  trialsRun := by rw [Summary.record_eq, h.trialsRun]
  accounted := by rw [Summary.accounted_record, h.accounted]
  sources := by rw [Summary.sources_record, h.sources]
  normal := by rw [Summary.normal_record, Summary.offers_record, h.normal, ht.isSome_reason]
  size := ht.size_eq s h.size
  fallbacks := s.fallbacks_record t ht.source_of_fallback h.fallbacks
  bundles := s.bundles_record t h.bundles
  checked := by
    intro hname
    rcases s.names_record t hname with hname | ⟨reason, hreason, hlabel⟩
    · exact h.checked hname
    · obtain rfl := Oracle.NormalReason.label_injective
        (show Oracle.NormalReason.unchecked.label = _ from hlabel)
      obtain ⟨p, o, hran, hreason⟩ := ht.ran hreason
      exact hran.reason_ne_unchecked f.oracle p.candidate.sql hreason
  confirmed := by
    intro hname
    rcases s.names_record t hname with hname | ⟨reason, hreason, hlabel⟩
    · exact h.confirmed hname
    · obtain rfl := Oracle.NormalReason.label_injective
        (show Oracle.NormalReason.sharedFailure.label = _ from hlabel)
      obtain ⟨p, o, hran, hreason⟩ := ht.ran hreason
      exact hran.confirmCrash_of_reason hreason

namespace Fuzzer

theorem Trials.accounts {trials : List Trial} (ht : f.Trials index c trials c')
    (h : Accounts f n c s) : Accounts f (n + trials.length) c' (trials.foldl Summary.record s) := by
  induction ht generalizing n s with
  | nil => exact h
  | cons hends _ ih =>
    rw [List.length_cons, ← Nat.add_assoc, Nat.add_right_comm]
    exact ih (h.record hends)

theorem Trials.indices {trials : List Trial} (ht : f.Trials index c trials c') :
    trials.map (·.index) = List.range' index trials.length := by
  induction ht with
  | nil => rfl
  | cons hends _ ih => rw [List.map_cons, List.length_cons, List.range'_succ, ih, hends.index_eq]

/-- With one worker, a run is its trials one after the other. -/
theorem run_sequential (h : f.options.workers ≤ 1) (s : State σ) :
    f.run s = match f.sequential 0 f.options.trials s with
      | (trials, s') =>
        ((trials, f.complete (.ofTrials f.outputDirectory trials) s'), s') := by
  unfold run
  rw [if_pos h]
  rfl

end Fuzzer

end Accounts

/-- The accounts of a run that starts with an empty corpus, whatever its engines do and wherever it
is stopped. -/
theorem Fuzzer.run_accounts (f : Fuzzer σ) (world : σ) (h : f.options.workers ≤ 1) :
    let (trials, summary) := (f.run ⟨.empty, world⟩).1
    trials.map (·.index) = List.range summary.trialsRun ∧
      summary.trialsRun = summary.accounted ∧
      summary.accounted = summary.seeded + summary.generated + summary.mutated ∧
      summary.normal.total = summary.admitted + summary.notNovel ∧
      summary.corpusSize = summary.admitted ∧
      summary.fallbacks ≤ summary.generated ∧
      summary.bundles.length ≤ summary.bugsFound ∧
      "unchecked" ∉ summary.normal.names ∧
      ("shared_failure" ∈ summary.normal.names → f.engines.confirmCrash = true) := by
  rw [Fuzzer.run_sequential h]
  have htrials := Fuzzer.trials_sequential (f := f) 0 f.options.trials ⟨.empty, world⟩
  rcases hrun : f.sequential 0 f.options.trials ⟨.empty, world⟩ with ⟨trials, s⟩
  rw [hrun] at htrials
  have haccounts := htrials.accounts (accounts_start f f.outputDirectory)
  rw [Nat.zero_add] at haccounts
  refine ⟨?_, ?_, ?_, haccounts.normal, haccounts.size, haccounts.fallbacks, haccounts.bundles,
    haccounts.checked, haccounts.confirmed⟩
  · rw [htrials.indices, ← haccounts.trialsRun]
    exact List.range_eq_range'.symm
  · exact haccounts.trialsRun.trans haccounts.accounted.symm
  · exact haccounts.accounted.trans haccounts.sources.symm

/-- A fuzzer with three seed queries that is stopped at the third call of an engine. The primary
engine panics at the second query. -/
def Fuzzer.stopping : Fuzzer ℕ where
  options := ⟨7, 3, 1, 0.5, .statement, false, false⟩
  databases := [⟨"main", "main.db", .storefront⟩]
  seedQueries := ["SELECT 1", "SELECT 2", "SELECT 3"]
  grammar := .standard
  mutator := .standard
  policy := .uniform
  oracle := .standard
  maxAttempts := 100
  engines :=
    { primary := .inProcess "new" (fun _ => false) fun sql calls =>
        ((if sql = "SELECT 2" then .panic "full" else .rows [["one"]], ["parse"]), calls + 1)
      reference := .inProcess "old" (fun _ => false) fun _ calls =>
        ((.rows [["one"]], []), calls + 1)
      confirmCrash := false }
  isStopped calls := decide (3 ≤ calls)
  now calls := (⟨2024, 1, 1, 0, 0, 0, 0⟩, calls)
  file _ calls := (none, calls)
  observe _ calls := ((), calls)
  outputDirectory := "out"

theorem Fuzzer.run_accounts_stopping :
    Fuzzer.stopping.options.workers ≤ 1 ∧
      let (trials, summary) := (Fuzzer.stopping.run ⟨.empty, 0⟩).1
      trials.map (·.disposition) = [.admitted 0, .reported .crash none] ∧
        trials.map (·.index) = List.range 2 ∧ summary.accounted = 2 ∧ summary.corpusSize = 1 := by
  have hworkers : Fuzzer.stopping.options.workers ≤ 1 := Nat.le_refl 1
  have hdispositions : (Fuzzer.stopping.run ⟨.empty, 0⟩).1.1.map (·.disposition) =
      [.admitted 0, .reported .crash none] := by
    decide +kernel
  have hrun : (Fuzzer.stopping.run ⟨.empty, 0⟩).1.2.trialsRun = 2 := by
    decide +kernel
  have hadmitted : (Fuzzer.stopping.run ⟨.empty, 0⟩).1.2.admitted = 1 := by
    decide +kernel
  obtain ⟨hindices, haccounted, -, -, hsize, -⟩ := Fuzzer.run_accounts Fuzzer.stopping 0 hworkers
  refine ⟨hworkers, hdispositions, ?_, haccounted.symm.trans hrun, hsize.trans hadmitted⟩
  rw [← hrun]
  exact hindices

end Run
end QueryFuzz
