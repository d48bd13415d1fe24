import QueryFuzz.Proofs.Grammar.Candidates
import QueryFuzz.Proofs.Run.Lineage
import QueryFuzz.Settings.Assembly

/-!
# Readiness

Settings that pass their checks name a database, and each of their databases has a table with a
column. That is all that the trials of a run need to find a candidate and a database for it: every
entry of the corpus is meant for a database that exists, since it was run on it.
-/

namespace QueryFuzz

/-! ## What the checks establish -/

/-- There is a database, and something to query in each of them. -/
structure Run.Ready (databases : List Run.Database) : Prop where
  ne_nil : databases ≠ []
  usable : ∀ db ∈ databases, db.schema.usableTables ≠ []

namespace Settings

theorem bind_eq_ok {ε α β : Type} {x : Except ε α} {k : α → Except ε β} {b : β}
    (h : (x >>= k) = .ok b) : ∃ a, x = .ok a ∧ k a = .ok b := by
  cases x with
  | error e => cases h
  | ok a => exact ⟨a, rfl, h⟩

theorem ensure_eq_ok {condition : Bool} {e : SetupError} (h : ensure condition e = .ok ()) :
    condition = true := by
  unfold ensure at h
  split_ifs at h with hcondition
  exact hcondition

theorem forM_eq_ok {ε α : Type} {check : α → Except ε Unit} {items : List α}
    (h : items.forM check = .ok ()) : ∀ a ∈ items, check a = .ok () := by
  induction items with
  | nil => simp
  | cons a rest ih =>
    obtain ⟨_, ha, hrest⟩ := bind_eq_ok (x := check a) (k := fun _ => rest.forM check) h
    intro b hb
    rcases List.mem_cons.1 hb with rfl | hb
    · exact ha
    · exact ih hrest b hb

/-- Settings that pass are ready to run. -/
theorem ready_of_validate {s : Settings} {disk : Storage.Disk} {search : List String}
    (h : s.validate disk search = .ok ()) : Run.Ready s.databases := by
  unfold validate at h
  obtain ⟨_, -, h⟩ := bind_eq_ok h
  obtain ⟨_, -, h⟩ := bind_eq_ok h
  obtain ⟨_, -, h⟩ := bind_eq_ok h
  obtain ⟨_, -, h⟩ := bind_eq_ok h
  obtain ⟨_, -, h⟩ := bind_eq_ok h
  obtain ⟨_, -, h⟩ := bind_eq_ok h
  obtain ⟨_, hsome, h⟩ := bind_eq_ok h
  obtain ⟨_, hdatabases, -⟩ := bind_eq_ok h
  constructor
  · simpa using ensure_eq_ok hsome
  · intro db hdb
    have hvalid := forM_eq_ok hdatabases db hdb
    unfold validateDatabase at hvalid
    obtain ⟨_, -, husable⟩ := bind_eq_ok hvalid
    simpa using ensure_eq_ok husable

/-- So a fuzzer that is assembled from settings is ready to run. -/
theorem ready_of_assemble {ε : Type} {s : Settings} {system : Engine.System}
    {search : List String} {observe : Run.Trial → StateM (Machine ε) Unit}
    {disk disk' : Storage.Disk} {f : Run.Fuzzer (Machine ε)}
    (h : s.assemble system search observe disk = (.ok f, disk')) : Run.Ready f.databases := by
  unfold assemble at h
  simp only [bind, ExceptT.bind, ExceptT.mk, StateT.bind, ExceptT.bindCont] at h
  rw [show (get : ExceptT AssemblyError (StateM Storage.Disk) Storage.Disk) disk =
    (.ok disk, disk) from rfl] at h
  dsimp only at h
  cases hvalid : s.validate disk search with
  | error e =>
    rw [hvalid] at h
    cases h
  | ok u =>
    rw [hvalid] at h
    dsimp only [StateT.bind] at h
    rcases hqueries : readQueries s.seedQueries disk with ⟨_ | queries, _⟩ <;> rw [hqueries] at h
    · cases h
    · cases h
      exact ready_of_validate hvalid

end Settings

namespace Run

open Draw (Sampling Source)

variable {σ : Type}

namespace Fuzzer

variable {f : Fuzzer σ}

theorem exists_generated (h : Ready f.databases) (fresh : Corpus) (s : Source) :
    ∃ c, (f.generated fresh s).1 = .ok c := by
  have hlt : (s.sample (Sampling.index "database" f.databases.length)).1 < f.databases.length := by
    have hyields : (s.sample (Sampling.index "database" f.databases.length)).1 <
        max f.databases.length 1 :=
      (Sampling.yields_index "database" f.databases.length).run s.words
    rwa [max_eq_left (List.length_pos_iff.2 h.ne_nil)] at hyields
  unfold generated
  dsimp only
  rw [List.getElem?_eq_getElem hlt]
  dsimp only
  obtain ⟨c, rest, _, _, _, _, hgenerate, -⟩ := Grammar.exists_candidate f.grammar
    (s.sample (Sampling.index "database" f.databases.length)).1
    (if f.options.grammarCoverage then fresh.grammarFrontier else .empty)
    (s.sample (Sampling.index "database" f.databases.length)).2
    (h.usable _ (List.getElem_mem hlt))
  exact ⟨c, congrArg Prod.fst hgenerate⟩

/-- Whatever a trial finds in the corpus, it has a candidate. -/
theorem exists_product (h : Ready f.databases) (planned fresh : Corpus) (index : ℕ) :
    ∃ p, f.producedFrom planned fresh index = .ok p := by
  have hgenerated (fallback : Bool) (s : Source) : ∃ p, (f.generated fresh s).1.map
      (fun c => Product.mk .generate c fallback) = .ok p := by
    obtain ⟨c, hc⟩ := exists_generated h fresh s
    rw [hc]
    exact ⟨_, rfl⟩
  unfold producedFrom
  dsimp only
  split
  · exact ⟨_, rfl⟩
  · split
    · exact hgenerated false _
    · split
      · exact ⟨_, rfl⟩
      · exact hgenerated true _

/-- The database that a candidate is meant for exists. -/
theorem Springs.exists_database (h : Ready f.databases) {planned : Corpus} {index : ℕ}
    {x : Candidate} (hx : f.Springs planned index x) :
    ∃ db, f.databases[x.database]? = some db := by
  cases hx with
  | seed _ _ hdatabase =>
    have hpos := List.length_pos_iff.2 h.ne_nil
    have hlt : x.database < f.databases.length := by
      rw [hdatabase, max_eq_left hpos]
      exact Nat.mod_lt index hpos
    exact ⟨_, List.getElem?_eq_getElem hlt⟩
  | generated db _ _ hdb => exact ⟨db, hdb⟩
  | mutated i e db _ _ _ _ _ hdb => exact ⟨db, hdb⟩

/-! ## Databases of entries -/

variable (f) in
/-- Every entry of a corpus is meant for a database that exists. -/
def Housed (c : Corpus) : Prop :=
  ∀ e ∈ c.entries, ∃ db, f.databases[e.candidate.database]? = some db

variable (f) in
/-- Workers count on one another to offer what has a database. -/
def housedRely : Rely σ where
  allows _ := True
  moves c c' := f.Housed c → f.Housed c'
  refl _ h := h
  trans h h' hc := h' (h hc)

theorem housed_empty : f.Housed .empty := by
  rintro e ⟨⟩

/-- A candidate that is offered was run on its database. -/
theorem offers_housed (c : Corpus) (index : ℕ) : f.Offers f.housedRely c index := by
  intro planned fresh now p db o _ _ _ _ hdb _ _ hhoused e he
  rcases now.submit_cases p.candidate (f.call p.candidate o).signature with ⟨-, heq⟩ | ⟨-, heq⟩ <;>
    rw [heq] at he
  · rcases List.mem_append.1 he with he | he
    · exact hhoused e he
    · rw [List.mem_singleton.1 he]
      exact ⟨db, hdb⟩
  · exact hhoused e he

/-- A trial that finds what it needs is not skipped. -/
theorem Course.not_skipped (h : Ready f.databases) {r : Rely σ} {c : Corpus} {index : ℕ}
    {deeds : List Deed} {t : Trial} (hcourse : f.Course r c index deeds (some t)) :
    (∀ reason, t.disposition ≠ .skipped reason) ∧
      ∃ x db, t.candidate = some x ∧ f.databases[x.database]? = some db := by
  cases hcourse with
  | unproduced e he =>
    obtain ⟨planned, fresh, -, -, hresult⟩ := he
    obtain ⟨p, hp⟩ := exists_product h planned fresh index
    rw [hp] at hresult
    cases hresult
  | unplaced p hp hnone =>
    obtain ⟨planned, fresh, -, -, hresult⟩ := hp
    obtain ⟨db, hdb⟩ := (springs_of_producedFrom hresult).exists_database h
    rw [hnone] at hdb
    cases hdb
  | failed p db _ _ hdb => exact ⟨by simp, p.candidate, db, rfl, hdb⟩
  | reported p db _ _ _ _ _ hdb => exact ⟨by simp [Product.judged], p.candidate, db, rfl, hdb⟩
  | offered p db _ _ _ hdb => exact ⟨fun _ => offered_ne rfl _, p.candidate, db, rfl, hdb⟩

section Crew

variable {world : σ} {indices : Multiset ℕ} {crew : Crew σ}

theorem upholds_housed
    (hreaches : f.Reaches (fun _ => True) (.start ⟨.empty, world⟩ indices) crew) :
    Upholds f f.housedRely .empty (f.Course f.housedRely .empty) crew :=
  upholds_course (s := ⟨.empty, world⟩) trivial hreaches fun index => offers_housed .empty index

theorem housed_of_reaches
    (hreaches : f.Reaches (fun _ => True) (.start ⟨.empty, world⟩ indices) crew) :
    f.Housed crew.state.corpus :=
  (upholds_housed hreaches).moved housed_empty

theorem not_skipped_of_reaches (h : Ready f.databases)
    (hreaches : f.Reaches (fun _ => True) (.start ⟨.empty, world⟩ indices) crew)
    {e : Ending} (he : e ∈ crew.ended) {t : Trial} (ht : e.result = some t) :
    (∀ reason, t.disposition ≠ .skipped reason) ∧
      ∃ x db, t.candidate = some x ∧ f.databases[x.database]? = some db := by
  have hcourse := (upholds_housed hreaches).ended e he
  rw [ht] at hcourse
  exact hcourse.not_skipped h

/-- Where the databases are ready, as checked settings make sure, no run from an empty corpus skips
a trial: candidates and entries are meant for databases that exist, a candidate can be found at any
moment, and so can the database of the parent of any mutation. -/
theorem never_skips (h : Ready f.databases)
    (hreaches : f.Reaches (fun _ => True) (.start ⟨.empty, world⟩ indices) crew) :
    (∀ e ∈ crew.ended, ∀ t, e.result = some t → (∀ reason, t.disposition ≠ .skipped reason) ∧
      ∃ x db, t.candidate = some x ∧ f.databases[x.database]? = some db) ∧
    (∀ e ∈ crew.state.corpus.entries, ∃ db, f.databases[e.candidate.database]? = some db) ∧
    (∀ index, ∃ p db, f.produce crew.state.corpus index = .ok p ∧
      f.databases[p.candidate.database]? = some db) ∧
    (∀ (s : Source) p, (s.sample (f.plan crew.state.corpus)).1 = some p →
      ∃ db, f.databases[p.parent.candidate.database]? = some db) ∧
    (∀ t ∈ (f.run ⟨.empty, world⟩).1.1, ∀ reason, t.disposition ≠ .skipped reason) ∧
    ∀ (s : Settings) (disk : Storage.Disk) (search : List String),
      (∃ e, s.validate disk search = .error e) ∨ Ready s.databases := by
  refine ⟨?_, housed_of_reaches hreaches, ?_, ?_, ?_, ?_⟩
  · intro e he t ht
    exact not_skipped_of_reaches h hreaches he ht
  · intro index
    obtain ⟨p, hp⟩ := exists_product h crew.state.corpus crew.state.corpus index
    obtain ⟨db, hdb⟩ := (springs_of_producedFrom hp).exists_database h
    exact ⟨p, db, hp, hdb⟩
  · intro s p hp
    obtain ⟨i, hi⟩ := exists_parent (s := s) (Prod.ext hp rfl)
    exact housed_of_reaches hreaches p.parent (List.mem_of_getElem? hi)
  · intro t ht
    obtain ⟨last, hlast, -, -, htrials⟩ := f.exists_crew_run ⟨.empty, world⟩
    rw [← htrials] at ht
    obtain ⟨e, he, hresult⟩ := List.mem_filterMap.1 ht
    exact (not_skipped_of_reaches h hlast he hresult).1
  · intro s disk search
    cases hvalid : s.validate disk search with
    | error e => exact .inl ⟨e, rfl⟩
    | ok u => exact .inr (Settings.ready_of_validate hvalid)

end Crew

/-- The run that is stopped has a database with tables. -/
theorem never_skips_stopping :
    ∃ crew, stopping.Reaches (fun _ => True) (.start ⟨.empty, 0⟩ (Multiset.range 3)) crew ∧
      Ready stopping.databases ∧
      (crew.ended.filterMap Ending.result).map (·.disposition) =
        [.admitted 0, .reported .crash none] ∧
      (∀ e ∈ crew.state.corpus.entries,
        ∃ db, stopping.databases[e.candidate.database]? = some db) ∧
      ∃ p, stopping.produce crew.state.corpus 2 = .ok p := by
  have hready : Ready stopping.databases := ⟨by simp [stopping], by decide⟩
  obtain ⟨crew, hreaches, -, -, htrials⟩ := stopping.exists_crew_run ⟨.empty, 0⟩
  have hdispositions : (stopping.run ⟨.empty, 0⟩).1.1.map (·.disposition) =
      [.admitted 0, .reported .crash none] := by
    decide +kernel
  obtain ⟨-, hhoused, hproduce, -⟩ := never_skips hready hreaches
  obtain ⟨p, _, hp, -⟩ := hproduce 2
  exact ⟨crew, hreaches, hready, by rw [htrials, hdispositions], hhoused, p, hp⟩

end Fuzzer
end Run
end QueryFuzz
