import QueryFuzz.Proofs.Corpus.History
import QueryFuzz.Proofs.Reduction.Search
import QueryFuzz.Proofs.Run.Trials

/-!
# Trials as dialogues

Workers share the corpus, the engines, the clock, the sink and the stop flag. A trial reaches them
by single accesses, between which the other workers go on. It is written here as a dialogue: a tree
that is done with a value, or makes one access and goes on with the answer. A dialogue that is left
alone from its first access to its last is the trial.
-/

namespace QueryFuzz
namespace Run

/-- One access to what the workers share. -/
inductive Access where
  | isStopped
  /-- The corpus is read under its lock. -/
  | corpus
  | primary (request : Engine.Request)
  | reference (request : Engine.Request)
  | now
  | file (report : Report.BugReport)
  /-- A candidate is offered to the corpus under its lock. -/
  | submit (call : Corpus.Call)

@[reducible] def Access.Answer : Access → Type
  | isStopped => Bool
  | corpus => Corpus
  | primary _ | reference _ => Except Engine.ExecutionError Engine.Outcome
  | now => Report.Timestamp
  | file _ => Option Report.BundlePath
  | submit _ => Option ℕ

inductive Dialogue (α : Type) where
  | done (value : α)
  | ask (access : Access) (next : access.Answer → Dialogue α)

namespace Dialogue

variable {α β : Type}

protected def bind : Dialogue α → (α → Dialogue β) → Dialogue β
  | done a, k => k a
  | ask access next, k => ask access fun answer => (next answer).bind k

instance : Monad Dialogue where
  pure := done
  bind := Dialogue.bind

/-- A dialogue of a single access. -/
def access (a : Access) : Dialogue a.Answer := ask a done

end Dialogue

namespace Fuzzer

variable {σ : Type} (f : Fuzzer σ)

/-! ## One access -/

/-- Makes an access. -/
def perform : (a : Access) → StateM (State σ) a.Answer
  | .isStopped => fun s => (f.isStopped s.world, s)
  | .corpus => fun s => (s.corpus, s)
  | .primary request => inWorld (f.engines.primary.execute request)
  | .reference request => inWorld (f.engines.reference.execute request)
  | .now => inWorld f.now
  | .file report => inWorld (f.file report)
  | .submit call => fun s =>
    ((s.corpus.submit call.candidate call.signature).1,
      { s with corpus := (s.corpus.submit call.candidate call.signature).2 })

/-- Makes the accesses of a dialogue one after the other. -/
def hold {α : Type} : Dialogue α → StateM (State σ) α
  | .done a => fun s => (a, s)
  | .ask access next => fun s => hold (next (f.perform access s).1) (f.perform access s).2

theorem hold_bind {α β : Type} (d : Dialogue α) (k : α → Dialogue β) (s : State σ) :
    f.hold (d >>= k) s = f.hold (k (f.hold d s).1) (f.hold d s).2 := by
  show f.hold (Dialogue.bind d k) s = _
  induction d generalizing s with
  | done a => rfl
  | ask access next ih => exact ih (f.perform access s).1 (f.perform access s).2

@[simp] theorem hold_access (a : Access) (s : State σ) : f.hold (.access a) s = f.perform a s :=
  rfl

/-! ## The dialogue of a trial -/

/-- A query on both engines. -/
def executing (request : Engine.Request) :
    Dialogue (Except Engine.ExecutionError Engine.DualOutcome) := do
  match ← .access (.primary request) with
  | .error e => return .error e
  | .ok primary =>
    if f.engines.skipsReference primary then return .ok ⟨primary, none⟩
    else return (← .access (.reference request)).map fun reference => ⟨primary, some reference⟩

def reproducing (db : Database) (sql : String) :
    StateT Bool Dialogue (Option Oracle.VerdictKind) := fun cancelled => do
  match ← f.executing ⟨sql, db.path⟩ with
  | .ok outcome => return (some (Oracle.classify f.oracle sql outcome).kind, cancelled)
  | .error .cancelled => return (none, true)
  | .error _ => return (none, cancelled)

def reducing (db : Database) (sql : String) (kind : Oracle.VerdictKind) :
    Dialogue (Option String) :=
  if !f.options.reduce then return some sql
  else do
    let (result, cancelled) ← Reduction.reduce f.maxAttempts sql kind (f.reproducing db) false
    return if cancelled || (← .access .isStopped) then none else some result.sql

/-- What is reported of a bug, with a smaller text of its query. -/
def bugReport (db : Database) (candidate : Candidate) (verdict : Oracle.Verdict)
    (outcome : Engine.DualOutcome) (sql : String) (time : Report.Timestamp) : Report.BugReport :=
  ⟨verdict.kind, verdict.detail, candidate, candidate.reduced sql, db.path,
    f.engines.primary.version, f.engines.reference.version, time, outcome⟩

def filing (db : Database) (candidate : Candidate) (verdict : Oracle.Verdict)
    (outcome : Engine.DualOutcome) : Dialogue (Option Disposition) := do
  match ← f.reducing db candidate.sql verdict.kind with
  | none => return none
  | some sql =>
    let report := f.bugReport db candidate verdict outcome sql (← .access .now)
    return some (.reported verdict.kind (← .access (.file report)))

/-- What a candidate with nothing wrong is offered to the corpus as. -/
def call (candidate : Candidate) (outcome : Engine.DualOutcome) : Corpus.Call :=
  ⟨candidate, (Coverage.Signature.ofTrace f.options.granularity
    outcome.primary.coverage).withRules candidate.rules⟩

/-- What a candidate became that was offered to the corpus. -/
def offered : Option ℕ → Disposition
  | some id => .admitted id
  | none => .notNovel

def judging (db : Database) (index : ℕ) (p : Product) (outcome : Engine.DualOutcome) :
    Dialogue (Option Trial) := do
  let verdict := f.verdict p outcome
  if verdict.kind.isBug then
    return (← f.filing db p.candidate verdict outcome).map (p.judged index verdict)
  else
    let id ← .access (.submit (f.call p.candidate outcome))
    return some (p.judged index verdict (offered id))

def conducting (index : ℕ) (p : Product) : Dialogue (Option Trial) :=
  match f.databases[p.candidate.database]? with
  | none =>
    return some { p.trial index with
      disposition := .skipped s!"no seed database {p.candidate.database}" }
  | some db => do
    match ← f.executing ⟨p.candidate.sql, db.path⟩ with
    | .error .cancelled => return none
    | .error e => return some { p.trial index with disposition := .executionFailed e.message }
    | .ok outcome => f.judging db index p outcome

/-- The candidate of a trial that plans with one corpus and, where there is no mutant, generates
with another one. -/
def producedFrom (planned fresh : Corpus) (index : ℕ) : Except Grammar.Failure Product :=
  let s := Draw.Source.ofSeed f.options.seed index
  match f.seedQueries[index]? with
  | some sql => .ok ⟨.seed, (Candidate.ofSeed sql (index % max f.databases.length 1) s).1, false⟩
  | none =>
    let (plan, s) := s.sample (f.plan planned)
    match plan with
    | none => (f.generated fresh s).1.map fun c => ⟨.generate, c, false⟩
    | some p =>
      match f.mutant p s with
      | (some c, _) => .ok ⟨.mutate, c, false⟩
      | (none, s) => (f.generated fresh s).1.map fun c => ⟨.generate, c, true⟩

/-- The corpus is locked for the plan and once more for the bias of the grammar, and may have
changed in between. A second look that is not needed does no harm. -/
def producing (index : ℕ) : Dialogue (Except Grammar.Failure Product) := do
  let planned ← .access .corpus
  let fresh ← .access .corpus
  return f.producedFrom planned fresh index

/-- One trial, access by access. -/
def dialogue (index : ℕ) : Dialogue (Option Trial) := do
  if ← .access .isStopped then return none
  else
    match ← f.producing index with
    | .error e => return some ⟨index, .generate, false, none, none, none, .skipped e.message⟩
    | .ok p => f.conducting index p

/-! ## A dialogue that is left alone -/

theorem hold_executing (request : Engine.Request) (s : State σ) :
    f.hold (f.executing request) s = inWorld (f.engines.run request) s := by
  unfold executing inWorld
  rw [hold_bind, hold_access, Engine.Pair.run_eq]
  simp only [perform, inWorld]
  rcases f.engines.primary.execute request s.world with ⟨e | primary, world⟩
  · rfl
  · dsimp only
    split_ifs
    · rfl
    · show f.hold (.access (.reference request) >>= _) _ = _
      rw [hold_bind, hold_access]
      simp only [perform, inWorld]
      rcases f.engines.reference.execute request world with ⟨e | reference, world'⟩ <;> rfl

theorem hold_reproducing (db : Database) (sql : String) (cancelled : Bool) (s : State σ) :
    f.hold (f.reproducing db sql cancelled) s =
      match f.reproduce db sql (s.world, cancelled) with
      | (kind, world, cancelled) => ((kind, cancelled), { s with world := world }) := by
  unfold reproducing reproduce
  rw [hold_bind, hold_executing]
  unfold inWorld
  dsimp only
  rcases f.engines.run ⟨sql, db.path⟩ s.world with ⟨e | outcome, world⟩
  · cases e <;> rfl
  · rfl

/-- The search asks for the same variants, whether it runs by itself or as a part of a dialogue. -/
theorem hold_search (db : Database) (kind : Oracle.VerdictKind) (total : ℕ) (left : ℕ)
    (current : String) (accepted : ℕ) (pending : List String) (cancelled : Bool) (s : State σ) :
    f.hold (Reduction.search (f.reproducing db) kind total current accepted left pending
        cancelled) s =
      match Reduction.search (f.reproduce db) kind total current accepted left pending
        (s.world, cancelled) with
      | (result, world, cancelled) => ((result, cancelled), { s with world := world }) := by
  induction left generalizing current accepted pending cancelled s with
  | zero => cases pending <;> rfl
  | succ left ih =>
    cases pending with
    | nil => rfl
    | cons v rest =>
      rw [Reduction.search_succ]
      show f.hold (f.reproducing db v cancelled >>= fun out =>
        (if out.1 = some kind then
          Reduction.search (f.reproducing db) kind total v (accepted + 1) left
            (Reduction.smallerVariants v)
        else Reduction.search (f.reproducing db) kind total current accepted left rest) out.2) s = _
      rw [hold_bind, hold_reproducing]
      rcases f.reproduce db v (s.world, cancelled) with ⟨answer, world, cancelled'⟩
      dsimp only
      split_ifs
      · rw [ih]
      · rw [ih]

theorem hold_reducing (db : Database) (sql : String) (kind : Oracle.VerdictKind) (s : State σ) :
    f.hold (f.reducing db sql kind) s = inWorld (f.reduced db sql kind) s := by
  unfold reducing reduced inWorld
  split_ifs
  · rfl
  · unfold Reduction.reduce
    rw [hold_bind, hold_search]
    dsimp only
    rcases Reduction.search (f.reproduce db) kind f.maxAttempts sql 0 f.maxAttempts
      (Reduction.smallerVariants sql) (s.world, false) with ⟨result, world, cancelled⟩
    rfl

theorem hold_filing (db : Database) (candidate : Candidate) (verdict : Oracle.Verdict)
    (outcome : Engine.DualOutcome) (s : State σ) :
    f.hold (f.filing db candidate verdict outcome) s =
      inWorld (f.fileBug db candidate verdict outcome) s := by
  unfold filing fileBug
  rw [hold_bind, hold_reducing]
  simp only [inWorld, bind, StateT.bind]
  rcases f.reduced db candidate.sql verdict.kind s.world with ⟨_ | sql, world⟩
  · rfl
  · rfl

theorem hold_judging (db : Database) (index : ℕ) (p : Product) (outcome : Engine.DualOutcome)
    (s : State σ) :
    f.hold (f.judging db index p outcome) s =
      f.judge db (p.trial index) p.candidate outcome s := by
  unfold judging judge verdict
  dsimp only
  split_ifs
  · rw [hold_bind, hold_filing]
    rfl
  · unfold offer
    rw [hold_bind, hold_access]
    simp only [perform, call, bind, StateT.bind]
    rcases s.corpus.submit p.candidate _ with ⟨_ | id, c⟩
    · rfl
    · rfl

theorem hold_conducting (index : ℕ) (p : Product) (s : State σ) :
    f.hold (f.conducting index p) s = f.conduct index p s := by
  unfold conducting conduct
  cases f.databases[p.candidate.database]? with
  | none => rfl
  | some db =>
    dsimp only
    rw [hold_bind, hold_executing]
    simp only [inWorld, bind, StateT.bind]
    rcases f.engines.run ⟨p.candidate.sql, db.path⟩ s.world with ⟨e | outcome, world⟩
    · cases e <;> rfl
    · exact f.hold_judging db index p outcome { s with world := world }

theorem producedFrom_self (c : Corpus) (index : ℕ) :
    f.producedFrom c c index = f.produce c index :=
  rfl

/-- A trial that no other worker comes between. -/
theorem hold_dialogue (index : ℕ) (s : State σ) :
    f.hold (f.dialogue index) s = f.trial index s := by
  unfold dialogue trial
  rw [hold_bind, hold_access]
  simp only [bind, StateT.bind, get, getThe, MonadStateOf.get, StateT.get, pure]
  by_cases hstop : (f.perform .isStopped s).1 = true
  · rw [if_pos hstop, if_pos (show f.isStopped s.world = true from hstop)]
    rfl
  · rw [if_neg hstop, if_neg (show ¬ f.isStopped s.world = true from hstop)]
    show f.hold (f.producing index >>= _) s = _
    have hproduce : f.hold (f.producing index) s = (f.produce s.corpus index, s) := by
      rw [← producedFrom_self]
      rfl
    rw [hold_bind, hproduce]
    cases f.produce s.corpus index with
    | error e => rfl
    | ok p => exact f.hold_conducting index p s

end Fuzzer
end Run
end QueryFuzz
