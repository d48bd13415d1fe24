import QueryFuzz.Proofs.Run.Crew

/-!
# Bugs that can be seen again

Stateless engines answer a query the same way each time, unless the run is stopped meanwhile. Then
every report is about a bug that can be seen again: the query that was found and the query it was
reduced to both show the reported kind whenever they are run on the database of the report. The
reduction finds its query by many executions among which some fail, but it takes none over that did
not show the kind.
-/

namespace QueryFuzz

open Sql (size)
open Oracle (VerdictKind)

namespace Run

variable {σ : Type}

/-- What an engine answers to each request. -/
abbrev Answering := Engine.Request → Except Engine.ExecutionError Engine.Outcome

namespace Fuzzer

variable (f : Fuzzer σ) (primary reference : Answering)

/-- The answers of the engines depend on nothing but the request, unless the run is stopped. -/
structure Stateless : Prop where
  primary_eq : ∀ request world, f.Unstopped world →
    f.Unstopped (f.engines.primary.execute request world).2 →
      (f.engines.primary.execute request world).1 = primary request
  reference_eq : ∀ request world, f.Unstopped world →
    f.Unstopped (f.engines.reference.execute request world).2 →
      (f.engines.reference.execute request world).1 = reference request

/-- What both engines make of a request. -/
def answered (request : Engine.Request) : Except Engine.ExecutionError Engine.DualOutcome :=
  match primary request with
  | .error e => .error e
  | .ok o =>
    if f.engines.skipsReference o then .ok ⟨o, none⟩
    else (reference request).map fun o' => ⟨o, some o'⟩

/-- A query shows this kind of verdict. -/
def Exhibits (db : Database) (sql : String) (kind : VerdictKind) : Prop :=
  ∃ outcome, f.answered primary reference ⟨sql, db.path⟩ = .ok outcome ∧
    (Oracle.classify f.oracle sql outcome).kind = kind

/-- The run of a query that begins in a world is not stopped. -/
structure Undisturbed (request : Engine.Request) (world : σ) : Prop where
  before : f.Unstopped world
  between : f.Unstopped (f.engines.primary.execute request world).2
  behind : f.Unstopped (f.engines.run request world).2

/-- Whenever a query is run on a database, and not stopped, it shows this kind of verdict. -/
def Reproduces (db : Database) (sql : String) (kind : VerdictKind) : Prop :=
  ∀ world, f.Undisturbed ⟨sql, db.path⟩ world →
    ∃ outcome, (f.engines.run ⟨sql, db.path⟩ world).1 = .ok outcome ∧
      (Oracle.classify f.oracle sql outcome).kind = kind

variable {f primary reference}

/-! ## Runs of queries -/

section Executes

variable {r : Rely σ} {request : Engine.Request}

/-- A query that is run alone comes to what it can come to. -/
theorem executes_run {world : σ} (hbefore : r.allows world)
    (hbetween : r.allows (f.engines.primary.execute request world).2)
    (hbehind : r.allows (f.engines.run request world).2) :
    f.Executes r request (f.engines.run request world).1 := by
  rw [Engine.Pair.run_eq] at hbehind ⊢
  rcases hprimary : f.engines.primary.execute request world with ⟨e | o, world'⟩ <;>
    simp only [hprimary] at hbehind hbetween ⊢
  · exact .failed e ⟨world, hbefore, by rwa [hprimary], by rw [hprimary]⟩
  · have hanswer : Answers r f.engines.primary request (.ok o) :=
      ⟨world, hbefore, by rwa [hprimary], by rw [hprimary]⟩
    by_cases hskips : f.engines.skipsReference o = true
    · rw [if_pos hskips]
      exact .alone o hanswer hskips
    · rw [if_neg hskips] at hbehind ⊢
      have hboth : Answers r f.engines.reference request
          (f.engines.reference.execute request world').1 → f.Executes r request _ :=
        .both o _ hanswer (Bool.eq_false_iff.2 hskips)
      rcases hreference : f.engines.reference.execute request world' with ⟨e | o', world''⟩ <;>
        simp only [hreference] at hbehind hboth ⊢ <;>
        exact hboth ⟨world', hbetween, by rwa [hreference], by rw [hreference]⟩

variable (hr : ∀ world, r.allows world → f.Unstopped world)

include hr

theorem Stateless.answers_primary (h : f.Stateless primary reference)
    {answer : Except Engine.ExecutionError Engine.Outcome}
    (hanswer : Answers r f.engines.primary request answer) : primary request = answer := by
  obtain ⟨world, hbefore, hbehind, rfl⟩ := hanswer
  exact (h.primary_eq request world (hr _ hbefore) (hr _ hbehind)).symm

theorem Stateless.answers_reference (h : f.Stateless primary reference)
    {answer : Except Engine.ExecutionError Engine.Outcome}
    (hanswer : Answers r f.engines.reference request answer) : reference request = answer := by
  obtain ⟨world, hbefore, hbehind, rfl⟩ := hanswer
  exact (h.reference_eq request world (hr _ hbefore) (hr _ hbehind)).symm

/-- A query comes to the same, whatever other workers run in between. -/
theorem Stateless.executes_eq (h : f.Stateless primary reference)
    {result : Except Engine.ExecutionError Engine.DualOutcome}
    (hresult : f.Executes r request result) :
    f.answered primary reference request = result := by
  unfold answered
  cases hresult with
  | failed e he => rw [h.answers_primary hr he]
  | alone o ho hskips =>
    rw [h.answers_primary hr ho]
    exact if_pos hskips
  | both o answer ho hskips hanswer =>
    rw [h.answers_primary hr ho, h.answers_reference hr hanswer]
    exact if_neg (Bool.eq_false_iff.1 hskips)

theorem Stateless.exhibits (h : f.Stateless primary reference) {db : Database} {sql : String}
    {kind : VerdictKind} (hshows : f.Shows r db sql kind) :
    f.Exhibits primary reference db sql kind := by
  obtain ⟨outcome, houtcome, hkind⟩ := hshows
  exact ⟨outcome, h.executes_eq hr houtcome, hkind⟩

end Executes

variable (f) in
/-- Workers count on a run that is not stopped. -/
def unstoppedRely : Rely σ where
  allows := f.Unstopped
  moves _ _ := True
  refl _ := trivial
  trans _ _ := trivial

theorem Exhibits.reproduces (h : f.Stateless primary reference) {db : Database} {sql : String}
    {kind : VerdictKind} (hexhibits : f.Exhibits primary reference db sql kind) :
    f.Reproduces db sql kind := by
  intro world hworld
  obtain ⟨outcome, houtcome, hkind⟩ := hexhibits
  refine ⟨outcome, ?_, hkind⟩
  rw [← houtcome]
  exact (h.executes_eq (r := f.unstoppedRely) (fun _ => id)
    (executes_run hworld.before hworld.between hworld.behind)).symm

/-! ## Reports -/

/-- What a report has to say about a candidate that was reported. -/
structure Documents (f : Fuzzer σ) (report : Report.BugReport) (x : Candidate)
    (kind : VerdictKind) (db : Database) : Prop where
  isBug : kind.isBug = true
  kind_eq : report.kind = kind
  found_eq : report.found = x
  /-- The report names the database that the candidate is meant for. -/
  database : f.databases[x.database]? = some db
  snapshot_eq : report.snapshot = db.path
  reduced_database : report.reduced.database = x.database
  reduced_size : toLex (size report.reduced.sql) ≤ toLex (size x.sql)
  found_reproduces : f.Reproduces db x.sql kind
  reduced_reproduces : f.Reproduces db report.reduced.sql kind

theorem Course.documents (h : f.Stateless primary reference) {r : Rely σ}
    (hr : ∀ world, r.allows world → f.Unstopped world) {c : Corpus} {index : ℕ}
    {deeds : List Deed} {t : Trial} (hcourse : f.Course r c index deeds (some t))
    {kind : VerdictKind} {bundle : Option Report.BundlePath}
    (ht : t.disposition = .reported kind bundle) :
    ∃ report x db, deeds = [.filed report] ∧ t.candidate = some x ∧
      f.Documents report x kind db := by
  cases hcourse with
  | unproduced | unplaced | failed => cases ht
  | offered => exact absurd ht (offered_ne rfl _)
  | reported p db o sql time world hp hdb ho hbug hsql =>
    cases ht
    have hfound : f.Exhibits primary reference db p.candidate.sql (f.verdict p o).kind :=
      h.exhibits hr ⟨o, ho, rfl⟩
    have hreduced : f.Exhibits primary reference db sql (f.verdict p o).kind := by
      rcases hsql.2 with rfl | hshows
      · exact hfound
      · exact h.exhibits hr hshows
    exact ⟨_, p.candidate, db, rfl, rfl, hbug, rfl, rfl, hdb, rfl, rfl, hsql.1,
      hfound.reproduces h, hreduced.reproduces h⟩

/-- Each bug that a run files can be seen again, with or without reduction and among whatever other
workers do: the trial hands in one report, for the database of its candidate, and both the query
that was found and the smaller one show the reported kind of bug whenever they are run. -/
theorem reports_reproduce (h : f.Stateless primary reference) {s : State σ}
    {indices : Multiset ℕ} {crew : Crew σ} (hs : f.Unstopped s.world)
    (hreaches : f.Reaches f.Unstopped (.start s indices) crew) {e : Ending} (he : e ∈ crew.ended)
    {t : Trial} (ht : e.result = some t) {kind : VerdictKind}
    {bundle : Option Report.BundlePath} (hreported : t.disposition = .reported kind bundle) :
    ∃ report x db, e.deeds = [.filed report] ∧ t.candidate = some x ∧
      f.Documents report x kind db := by
  have hcrew : Upholds f f.unstoppedRely s.corpus (f.Course f.unstoppedRely s.corpus) crew :=
    upholds_course hs hreaches fun _ _ _ _ _ _ _ _ _ _ _ _ _ _ => trivial
  have hcourse := hcrew.ended e he
  rw [ht] at hcourse
  exact hcourse.documents h (fun _ => id) hreported

/-- A panic at two queries, one of which the other can be reduced to, and one row otherwise. -/
def panicking : Answering := fun request =>
  .ok (.ofAnswer "new"
    (if request.sql ∈ ["SELECT 2, 3", "SELECT 2"] then .panic "full" else .rows [["one"]]) [])

def steady : Answering := fun _ => .ok (.ofAnswer "old" (.rows [["one"]]) [])

/-- A fuzzer with stateless engines, two workers and reduction. It is never stopped, and the world
counts the executions and the reports. -/
def repeatable : Fuzzer ℕ where
  options := ⟨7, 3, 2, 0.5, .statement, false, true⟩
  databases := [⟨"main", "main.db", .storefront⟩, ⟨"other", "other.db", .storefront⟩]
  seedQueries := ["SELECT 1", "SELECT 2, 3", "SELECT 4"]
  grammar := .standard
  mutator := .standard
  policy := .uniform
  oracle := .standard
  maxAttempts := 100
  engines :=
    { primary := ⟨"new", fun request calls => (panicking request, calls + 1)⟩
      reference := ⟨"old", fun request calls => (steady request, calls + 1)⟩
      confirmCrash := false }
  isStopped _ := false
  now calls := (⟨2024, 1, 1, 0, 0, 0, 0⟩, calls)
  file _ calls := (some ⟨"new", "crash", toString calls⟩, calls + 1)
  observe _ calls := ((), calls)
  outputDirectory := "out"

theorem stateless_repeatable : repeatable.Stateless panicking steady where
  primary_eq _ _ _ _ := rfl
  reference_eq _ _ _ _ := rfl

/-- The crash of the second trial can be seen again. -/
theorem reports_reproduce_repeatable :
    ∃ crew, repeatable.Reaches repeatable.Unstopped (.start ⟨.empty, 0⟩ (Multiset.range 3)) crew ∧
      ∃ e ∈ crew.ended, ∃ t, e.result = some t ∧
        t.disposition = .reported .crash (some ⟨"new", "crash", "6"⟩) ∧
        ∃ report x db, e.deeds = [.filed report] ∧ t.candidate = some x ∧
          x.sql = "SELECT 2, 3" ∧ repeatable.Documents report x .crash db := by
  obtain ⟨crew, hreaches, -, -, htrials⟩ := repeatable.exists_crew_run ⟨.empty, 0⟩
  have hunstopped : repeatable.Reaches repeatable.Unstopped _ _ := hreaches.mono fun _ _ => rfl
  have hfound : ((repeatable.run ⟨.empty, 0⟩).1.1[1]?).map
      (fun t => (t.disposition, t.candidate.map (·.sql))) =
        some (.reported .crash (some ⟨"new", "crash", "6"⟩), some "SELECT 2, 3") := by
    decide +kernel
  obtain ⟨t, ht, hrecord⟩ := Option.map_eq_some_iff.1 hfound
  obtain ⟨hreported, hsql⟩ := Prod.mk.inj hrecord
  rw [← htrials] at ht
  obtain ⟨e, he, hresult⟩ := List.mem_filterMap.1 (List.mem_of_getElem? ht)
  obtain ⟨report, x, db, hdeeds, hx, hdocuments⟩ :=
    reports_reproduce stateless_repeatable rfl hunstopped he hresult hreported
  rw [hx] at hsql
  exact ⟨crew, hunstopped, e, he, t, hresult, hreported, report, x, db, hdeeds, hx,
    Option.some.inj hsql, hdocuments⟩

end Fuzzer
end Run
end QueryFuzz
