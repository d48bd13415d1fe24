import QueryFuzz.Proofs.Reduction.Contract
import QueryFuzz.Proofs.Run.Accounting
import QueryFuzz.Proofs.Run.Interference

/-!
# The course of a trial

What a trial can come to when other workers come between its accesses: with which record it ends,
and which deeds it has done. A trial looks at the corpus, runs queries, and does one deed at the end
or none. A trial with a bug hands in a report, and no other trial does; a candidate with nothing
wrong is handed to the corpus, and no other candidate is.
-/

namespace QueryFuzz

open Sql (size)
open Oracle (VerdictKind)

namespace Run

variable {σ : Type}

namespace Fuzzer

variable (f : Fuzzer σ) (r : Rely σ)

/-! ## Queries -/

/-- An engine answers a request like this in one of the worlds that occur. -/
def Answers (e : Engine σ) (request : Engine.Request)
    (answer : Except Engine.ExecutionError Engine.Outcome) : Prop :=
  ∃ world, r.allows world ∧ r.allows (e.execute request world).2 ∧
    (e.execute request world).1 = answer

/-- What a query on both engines can come to. Other workers may run theirs in between. -/
inductive Executes (request : Engine.Request) :
    Except Engine.ExecutionError Engine.DualOutcome → Prop
  | failed (e : Engine.ExecutionError) :
    Answers r f.engines.primary request (.error e) → Executes request (.error e)
  | alone (primary : Engine.Outcome) :
    Answers r f.engines.primary request (.ok primary) → f.engines.skipsReference primary = true →
    Executes request (.ok ⟨primary, none⟩)
  | both (primary : Engine.Outcome) (answer : Except Engine.ExecutionError Engine.Outcome) :
    Answers r f.engines.primary request (.ok primary) → f.engines.skipsReference primary = false →
    Answers r f.engines.reference request answer →
    Executes request (answer.map fun reference => ⟨primary, some reference⟩)

/-- A query on a database can show a verdict of this kind. -/
def Shows (db : Database) (sql : String) (kind : VerdictKind) : Prop :=
  ∃ outcome, f.Executes r ⟨sql, db.path⟩ (.ok outcome) ∧
    (Oracle.classify f.oracle sql outcome).kind = kind

/-- A run was cancelled, or a world is stopped. -/
def Interrupted : Prop :=
  (∃ request, f.Executes r request (.error .cancelled)) ∨
    ∃ world, r.allows world ∧ f.isStopped world = true

/-- A text that a failing query can be reduced to: it is not larger, and is the query itself or
shows a verdict of the same kind. -/
def ReducesTo (db : Database) (sql : String) (kind : VerdictKind) (reduced : String) : Prop :=
  toLex (size reduced) ≤ toLex (size sql) ∧ (reduced = sql ∨ f.Shows r db reduced kind)

variable {f r} {c : Corpus}

theorem returns_executing (request : Engine.Request) :
    f.Returns r c (f.Executes r request) (f.executing request) := by
  unfold executing
  apply Returns.bind (P := Answers r f.engines.primary request)
  · apply returns_access rfl
    intro s _ hallows hallows'
    exact ⟨s.world, hallows, hallows', rfl⟩
  · intro answer c' _ hprimary
    cases answer with
    | error e => exact returns_pure (.failed e hprimary)
    | ok primary =>
      dsimp only
      split_ifs with hskips
      · exact returns_pure (.alone primary hprimary hskips)
      · apply Returns.bind (P := Answers r f.engines.reference request)
        · apply returns_access rfl
          intro s _ hallows hallows'
          exact ⟨s.world, hallows, hallows', rfl⟩
        · intro answer _ _ hreference
          exact returns_pure (.both primary answer hprimary (Bool.eq_false_iff.2 hskips) hreference)

/-! ## Reductions -/

theorem returns_reproducing (db : Database) (sql : String) (cancelled : Bool)
    (h : cancelled = true → f.Interrupted r) :
    f.Returns r c (fun out => (∀ kind, out.1 = some kind → f.Shows r db sql kind) ∧
      (out.2 = true → f.Interrupted r)) (f.reproducing db sql cancelled) := by
  unfold reproducing
  apply (returns_executing ⟨sql, db.path⟩).bind
  intro result _ _ hresult
  cases result with
  | ok outcome =>
    apply returns_pure
    constructor
    · intro kind hkind
      exact ⟨outcome, hresult, Option.some.inj hkind⟩
    · exact h
  | error e =>
    cases e
    case cancelled =>
      apply returns_pure
      exact ⟨by simp, fun _ => .inl ⟨_, hresult⟩⟩
    all_goals
      apply returns_pure
      exact ⟨by simp, h⟩

/-- The text that stands is the query, or was seen to fail like it. -/
theorem returns_search (db : Database) (sql : String) (kind : VerdictKind) (total : ℕ)
    {left : ℕ} {current : String} {accepted : ℕ} {pending : List String} {cancelled : Bool}
    (hcurrent : f.ReducesTo r db sql kind current)
    (hpending : ∀ v ∈ pending, Reduction.Smaller v current)
    (hcancelled : cancelled = true → f.Interrupted r) :
    f.Returns r c (fun out => f.ReducesTo r db sql kind out.1.sql ∧
      (out.2 = true → f.Interrupted r))
      (Reduction.search (f.reproducing db) kind total current accepted left pending cancelled) := by
  induction left generalizing c current accepted pending cancelled with
  | zero =>
    cases pending with
    | nil => exact returns_pure ⟨hcurrent, hcancelled⟩
    | cons v rest => exact returns_pure ⟨hcurrent, hcancelled⟩
  | succ left ih =>
    cases pending with
    | nil => exact returns_pure ⟨hcurrent, hcancelled⟩
    | cons v rest =>
      apply (returns_reproducing db v cancelled hcancelled).bind
      rintro ⟨answer, cancelled'⟩ c' _ ⟨hshows, hcancelled'⟩
      dsimp only
      -- A variant is taken over only if it was just seen to fail like the query.
      split_ifs with hanswer
      · have hsmaller : toLex (size v) ≤ toLex (size current) := (hpending v (by simp)).le
        apply ih ⟨hsmaller.trans hcurrent.1, .inr (hshows kind hanswer)⟩ _ hcancelled'
        intro w hw
        exact (Reduction.mem_smallerVariants.1 hw).2
      · exact ih hcurrent (fun w hw => hpending w (by simp [hw])) hcancelled'

theorem returns_reducing (db : Database) (sql : String) (kind : VerdictKind) :
    f.Returns r c (fun out => (out = none → f.Interrupted r) ∧
      ∀ reduced, out = some reduced → f.ReducesTo r db sql kind reduced)
      (f.reducing db sql kind) := by
  have hself : f.ReducesTo r db sql kind sql := ⟨le_rfl, .inl rfl⟩
  unfold reducing
  split_ifs
  · apply returns_pure
    constructor
    · simp
    · rintro _ ⟨⟩
      exact hself
  · apply (returns_search db sql kind f.maxAttempts hself
      (fun v hv => (Reduction.mem_smallerVariants.1 hv).2) (by simp)).bind
    rintro ⟨result, cancelled⟩ _ _ ⟨hresult, hcancelled⟩
    apply Returns.bind (P := fun stopped => stopped = true → f.Interrupted r)
    · apply returns_access rfl
      intro s _ hallows _ hstopped
      exact .inr ⟨s.world, hallows, hstopped⟩
    · intro stopped _ _ hstopped
      apply returns_pure
      split_ifs with hcut
      · constructor
        · intro _
          rcases Bool.or_eq_true_iff.1 hcut with h | h
          · exact hcancelled h
          · exact hstopped h
        · rintro _ ⟨⟩
      · constructor
        · rintro ⟨⟩
        · rintro _ ⟨⟩
          exact hresult

/-! ## Candidates -/

variable (f r) in
/-- What the production of a trial can come to that begins at a corpus. -/
def Produces (c : Corpus) (index : ℕ) (result : Except Grammar.Failure Product) : Prop :=
  ∃ planned fresh, r.moves c planned ∧ r.moves planned fresh ∧
    f.producedFrom planned fresh index = result

/-- Both looks at the corpus are taken from where the trial begins on, and the second one is the
last that is known of the corpus. -/
theorem assures_producing (index : ℕ) (deeds : List Deed) :
    f.Assures r (fun deeds' result fresh => deeds' = deeds ∧ ∃ planned, r.moves c planned ∧
      r.moves planned fresh ∧ f.producedFrom planned fresh index = result)
      (f.producing index) deeds c := by
  intro s hplanned _ _
  refine ⟨r.refl _, ?_⟩
  intro s' hfresh _ _
  refine ⟨r.refl _, ?_, s.corpus, hplanned, hfresh, rfl⟩
  simp [Access.deeds]

/-! ## The course of a trial -/

theorem offered_ne {d : Disposition} (h : d.isOffer = false) (answer : Option ℕ) :
    offered answer ≠ d := by
  rintro rfl
  cases answer <;> cases h

variable (f r) in
/-- What a trial can come to that begins at a corpus: its deeds and its record. -/
inductive Course (c : Corpus) (index : ℕ) : List Deed → Option Trial → Prop
  | abandoned : f.Interrupted r → Course c index [] none
  | unproduced (e : Grammar.Failure) : f.Produces r c index (.error e) →
    Course c index [] (some ⟨index, .generate, false, none, none, none, .skipped e.message⟩)
  | unplaced (p : Product) : f.Produces r c index (.ok p) →
    f.databases[p.candidate.database]? = none →
    Course c index [] (some { p.trial index with
      disposition := .skipped s!"no seed database {p.candidate.database}" })
  | failed (p : Product) (db : Database) (e : Engine.ExecutionError) :
    f.Produces r c index (.ok p) → f.databases[p.candidate.database]? = some db →
    f.Executes r ⟨p.candidate.sql, db.path⟩ (.error e) → e ≠ .cancelled →
    Course c index [] (some { p.trial index with disposition := .executionFailed e.message })
  | reported (p : Product) (db : Database) (o : Engine.DualOutcome) (sql : String)
      (time : Report.Timestamp) (world : σ) :
    f.Produces r c index (.ok p) → f.databases[p.candidate.database]? = some db →
    f.Executes r ⟨p.candidate.sql, db.path⟩ (.ok o) → (f.verdict p o).kind.isBug = true →
    f.ReducesTo r db p.candidate.sql (f.verdict p o).kind sql →
    Course c index [.filed (f.bugReport db p.candidate (f.verdict p o) o sql time)]
      (some (p.judged index (f.verdict p o) (.reported (f.verdict p o).kind
        (f.file (f.bugReport db p.candidate (f.verdict p o) o sql time) world).1)))
  | offered (p : Product) (db : Database) (o : Engine.DualOutcome) (now : Corpus) :
    f.Produces r c index (.ok p) → f.databases[p.candidate.database]? = some db →
    f.Executes r ⟨p.candidate.sql, db.path⟩ (.ok o) → (f.verdict p o).kind.isBug = false →
    r.moves c now →
    Course c index [.submitted (f.call p.candidate o)]
      (some (p.judged index (f.verdict p o)
        (offered (now.submit p.candidate (f.call p.candidate o).signature).1)))

variable (f r) in
/-- The calls of the corpus by a trial that begins at a corpus move it as it may. -/
def Offers (c : Corpus) (index : ℕ) : Prop :=
  ∀ planned fresh now p db o, r.moves c planned → r.moves planned fresh → r.moves fresh now →
    f.producedFrom planned fresh index = .ok p → f.databases[p.candidate.database]? = some db →
    f.Executes r ⟨p.candidate.sql, db.path⟩ (.ok o) → (f.verdict p o).kind.isBug = false →
    r.moves now (now.submit p.candidate (f.call p.candidate o).signature).2

section Course

variable {index : ℕ} {p : Product} {db : Database} {o : Engine.DualOutcome}

/-- A bug is reported, or the trial was cut short while it was reduced. -/
theorem assures_filing (hp : f.Produces r c index (.ok p))
    (hdb : f.databases[p.candidate.database]? = some db)
    (ho : f.Executes r ⟨p.candidate.sql, db.path⟩ (.ok o))
    (hbug : (f.verdict p o).kind.isBug = true) {now : Corpus} :
    f.Assures r (fun deeds out _ =>
        f.Course r c index deeds (out.map (p.judged index (f.verdict p o))))
      (f.filing db p.candidate (f.verdict p o) o) [] now := by
  unfold filing
  apply (returns_reducing db p.candidate.sql (f.verdict p o).kind).assures
  rintro out _ _ ⟨hnone, hsome⟩
  cases out with
  | none => exact assures_pure (.abandoned (hnone rfl))
  | some sql =>
    apply Returns.assures (P := fun _ => True)
    · apply returns_access rfl
      intros
      trivial
    · intro time _ _ _ s _ _ _
      exact ⟨r.refl _, .reported p db o sql time s.world hp hdb ho hbug (hsome sql rfl)⟩

theorem assures_judging (h : f.Offers r c index) {planned fresh now : Corpus}
    (hplanned : r.moves c planned) (hfresh : r.moves planned fresh) (hnow : r.moves fresh now)
    (hp : f.producedFrom planned fresh index = .ok p)
    (hdb : f.databases[p.candidate.database]? = some db)
    (ho : f.Executes r ⟨p.candidate.sql, db.path⟩ (.ok o)) :
    f.Assures r (fun deeds result _ => f.Course r c index deeds result)
      (f.judging db index p o) [] now := by
  have hproduces : f.Produces r c index (.ok p) := ⟨planned, fresh, hplanned, hfresh, hp⟩
  unfold judging
  dsimp only
  split_ifs with hbug
  · apply (assures_filing hproduces hdb ho hbug).bind
    intro deeds out _ hcourse
    exact assures_pure hcourse
  · have hnormal : (f.verdict p o).kind.isBug = false := Bool.eq_false_iff.2 hbug
    intro s hs _ _
    have hnow' : r.moves fresh s.corpus := r.trans hnow hs
    constructor
    · exact h planned fresh s.corpus p db o hplanned hfresh hnow' hp hdb ho hnormal
    · exact .offered p db o s.corpus hproduces hdb ho hnormal
        (r.trans (r.trans hplanned hfresh) hnow')

theorem assures_conducting (h : f.Offers r c index) {planned fresh : Corpus}
    (hplanned : r.moves c planned) (hfresh : r.moves planned fresh)
    (hp : f.producedFrom planned fresh index = .ok p) :
    f.Assures r (fun deeds result _ => f.Course r c index deeds result)
      (f.conducting index p) [] fresh := by
  have hproduces : f.Produces r c index (.ok p) := ⟨planned, fresh, hplanned, hfresh, hp⟩
  unfold conducting
  cases hdb : f.databases[p.candidate.database]? with
  | none => exact assures_pure (.unplaced p hproduces hdb)
  | some db =>
    apply (returns_executing ⟨p.candidate.sql, db.path⟩).assures
    intro result now hnow hresult
    cases result with
    | ok o => exact assures_judging h hplanned hfresh hnow hp hdb hresult
    | error e =>
      cases e
      case cancelled => exact assures_pure (.abandoned (.inl ⟨_, hresult⟩))
      all_goals exact assures_pure (.failed p db _ hproduces hdb hresult (by simp))

/-- Whatever the others do meanwhile, a trial takes one of these courses. -/
theorem assures_dialogue (h : f.Offers r c index) :
    f.Assures r (fun deeds result _ => f.Course r c index deeds result)
      (f.dialogue index) [] c := by
  unfold dialogue
  apply Returns.assures (P := fun stopped => stopped = true → f.Interrupted r)
  · apply returns_access rfl
    intro s _ hallows _ hstopped
    exact .inr ⟨s.world, hallows, hstopped⟩
  · intro stopped begun hbegun hstopped
    split_ifs with hcut
    · exact assures_pure (.abandoned (hstopped hcut))
    · apply (assures_producing index []).bind
      rintro _ result fresh ⟨rfl, planned, hplanned, hfresh, hresult⟩
      have hplanned' : r.moves c planned := r.trans hbegun hplanned
      cases result with
      | error e =>
        exact assures_pure (.unproduced e ⟨planned, fresh, hplanned', hfresh, hresult⟩)
      | ok p => exact assures_conducting h hplanned' hfresh hresult

end Course

end Fuzzer
end Run
end QueryFuzz
