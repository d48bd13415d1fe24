import QueryFuzz.Proofs.Reduction.Contract

/-!
# Reductions that came to their end

A reduction that is not cut short ends in a round that tries every smaller simplification of its
result, and tries them in vain. If the answers of the callback depend on the texts alone, nothing
smaller shows the failure any more, so reducing the result once more changes nothing, however many
attempts are allowed.
-/

namespace QueryFuzz
namespace Reduction

open Oracle (VerdictKind)

/-- The text was tried, and from that call on nothing was accepted. -/
def TriedInVain (kind : VerdictKind) (calls : List Call) (text : String) : Prop :=
  ∃ before answer after, calls = before ++ (text, answer) :: after ∧
    ∀ c ∈ (text, answer) :: after, c.2 ≠ some kind

section Record

variable {kind : VerdictKind} {sql : String} {total : ℕ} {calls : List Call} {r : Result}

theorem triedInVain_of_mem_sinceAccepted {text : String} (h : text ∈ sinceAccepted kind calls) :
    TriedInVain kind calls text := by
  obtain ⟨⟨text, answer⟩, hcall, rfl⟩ := List.mem_map.1 h
  obtain ⟨earlier, after, hround⟩ := List.append_of_mem hcall
  refine ⟨calls.rdropWhile (fun c => c.2 ≠ some kind) ++ earlier, answer, after, ?_, fun c hc => ?_⟩
  · rw [List.append_assoc, ← hround, List.rdropWhile_append_rtakeWhile]
  · have hmem : c ∈ calls.rtakeWhile fun c => c.2 ≠ some kind := by
      rw [hround]
      exact List.mem_append_right earlier hc
    simpa using List.mem_rtakeWhile_imp hmem

theorem Finished.triedInVain {untried : List String}
    (h : Finished kind sql total calls untried r) (hend : r.exhausted = false) :
    ∀ v ∈ smallerVariants r.sql, TriedInVain kind calls v := by
  have huntried : untried = [] := by
    by_contra hne
    simp [h.exhausted_iff.2 hne] at hend
  have hround : smallerVariants r.sql = sinceAccepted kind calls ++ untried := h.recorded.round
  rw [hround, huntried, List.append_nil]
  exact fun v hv => triedInVain_of_mem_sinceAccepted hv

end Record

/-! ## Answers that depend on the text alone -/

section Pure

variable {σ : Type} {reproduce : String → StateM σ (Option VerdictKind)}
  {answer : String → Option VerdictKind} (kind : VerdictKind) (total : ℕ)

/-- What is recorded of each call is the answer for its text. -/
theorem search_traced_answers (h : ∀ text s, (reproduce text s).1 = answer text) (left : ℕ)
    {calls : List Call} (hcalls : ∀ c ∈ calls, c.2 = answer c.1) (current : String) (accepted : ℕ)
    (pending : List String) (s : σ) :
    ∀ c ∈ (search (traced reproduce) kind total current accepted left pending (calls, s)).2.1,
      c.2 = answer c.1 := by
  induction left generalizing calls current accepted pending s with
  | zero =>
    cases pending with
    | nil =>
      rw [search_nil]
      exact hcalls
    | cons v rest =>
      rw [search_zero]
      exact hcalls
  | succ left ih =>
    cases pending with
    | nil =>
      rw [search_nil]
      exact hcalls
    | cons v rest =>
      have hstep : traced reproduce v (calls, s) =
          ((reproduce v s).1, (calls ++ [(v, (reproduce v s).1)], (reproduce v s).2)) := rfl
      have hnext : ∀ c ∈ calls ++ [(v, (reproduce v s).1)], c.2 = answer c.1 := by
        intro c hc
        rcases List.mem_append.1 hc with hc | hc
        · exact hcalls c hc
        · rw [List.mem_singleton.1 hc]
          exact h v s
      rw [search_succ, hstep]
      dsimp only
      split_ifs
      · exact ih hnext v (accepted + 1) (smallerVariants v) _
      · exact ih hnext current accepted rest _

/-- A search all of whose pending texts are answered otherwise stays where it is. -/
theorem search_of_rejected (h : ∀ text s, (reproduce text s).1 = answer text) (left : ℕ)
    (current : String) (accepted : ℕ) {pending : List String}
    (hpending : ∀ v ∈ pending, answer v ≠ some kind) (s : σ) :
    let run := search reproduce kind total current accepted left pending s
    run.1.sql = current ∧ run.1.accepted = accepted := by
  induction left generalizing pending s with
  | zero =>
    cases pending with
    | nil =>
      rw [search_nil]
      exact ⟨rfl, rfl⟩
    | cons v rest =>
      rw [search_zero]
      exact ⟨rfl, rfl⟩
  | succ left ih =>
    cases pending with
    | nil =>
      rw [search_nil]
      exact ⟨rfl, rfl⟩
    | cons v rest =>
      have hv : (reproduce v s).1 ≠ some kind := by
        rw [h v s]
        exact hpending v (by simp)
      rw [search_succ, if_neg hv]
      exact ih (fun w hw => hpending w (by simp [hw])) _

end Pure

/-- A reduction whose attempts did not run out has tried every smaller simplification of its result
since the last acceptance, in vain. With answers that depend on the text alone none of them shows
the failure, and another reduction of the result, from any state and with any number of attempts,
accepts nothing. -/
theorem unexhausted_is_minimal {σ : Type} (reproduce : String → StateM σ (Option VerdictKind))
    (kind : VerdictKind) (sql : String) (maxAttempts : ℕ) (state : σ) {r : Result} {final : σ}
    (hrun : (reduce maxAttempts sql kind reproduce).run state = (r, final))
    (hend : r.exhausted = false) :
    (∃ calls, (reduce maxAttempts sql kind (traced reproduce)).run ([], state) =
        (r, calls, final) ∧ r.sql = standing kind sql calls ∧
        ∀ v ∈ simplifications r.sql, Smaller v r.sql → TriedInVain kind calls v) ∧
      ∀ answer : String → Option VerdictKind, (∀ text s, (reproduce text s).1 = answer text) →
        (∀ v ∈ simplifications r.sql, Smaller v r.sql → answer v ≠ some kind) ∧
          ∀ (again : ℕ) (s : σ),
            let second := ((reduce again r.sql kind reproduce).run s).1
            second.sql = r.sql ∧ second.accepted = 0 := by
  obtain ⟨hresult, hstate, untried, hfinished⟩ :=
    search_traced reproduce kind sql maxAttempts maxAttempts
      (recorded_start kind sql maxAttempts) state
  have hplain : search reproduce kind maxAttempts sql 0 maxAttempts (smallerVariants sql) state =
      (r, final) := hrun
  have hanswers := fun answer h => @search_traced_answers σ reproduce answer kind maxAttempts h
    maxAttempts [] (by simp) sql 0 (smallerVariants sql) state
  rw [hplain] at hresult hstate
  generalize htrace : search (traced reproduce) kind maxAttempts sql 0 maxAttempts
    (smallerVariants sql) ([], state) = run at hresult hstate hfinished hanswers
  obtain ⟨r', calls, final'⟩ := run
  obtain rfl : r' = r := hresult
  obtain rfl : final' = final := hstate
  have hvain : ∀ v ∈ smallerVariants r'.sql, TriedInVain kind calls v :=
    hfinished.triedInVain hend
  refine ⟨⟨calls, htrace, hfinished.recorded.current_eq.symm, fun v hv hsmaller =>
    hvain v (mem_smallerVariants.2 ⟨hv, hsmaller⟩)⟩, fun answer hpure => ?_⟩
  have hrejected : ∀ v ∈ smallerVariants r'.sql, answer v ≠ some kind := by
    intro v hv
    obtain ⟨before, given, after, hcalls, hnone⟩ := hvain v hv
    have hgiven : given = answer v := hanswers answer hpure (v, given) (by simp [hcalls])
    rw [← hgiven]
    exact hnone (v, given) (by simp)
  refine ⟨fun v hv hsmaller => hrejected v (mem_smallerVariants.2 ⟨hv, hsmaller⟩), ?_⟩
  intro again s
  exact search_of_rejected kind again hpure again r'.sql 0 hrejected s

/-- A logic bug that needs both columns. -/
def bothColumns (text : String) : Option VerdictKind :=
  if Text.contains text "a" && Text.contains text "b" then some .logicBug else some .normal

/-- The callback counts its calls, which no answer depends on. -/
theorem unexhausted_is_minimal_both_columns :
    let reproduce : String → StateM ℕ (Option VerdictKind) :=
      fun text calls => (bothColumns text, calls + 1)
    (reduce 20 "SELECT a, 7 FROM t WHERE b AND c" .logicBug reproduce).run 0 =
        (⟨"SELECT a FROM t WHERE b", 7, 2, false⟩, 7) ∧
      (∀ v ∈ simplifications "SELECT a FROM t WHERE b", Smaller v "SELECT a FROM t WHERE b" →
        bothColumns v ≠ some .logicBug) ∧
      ∀ (again : ℕ) (s : ℕ),
        let second :=
          ((reduce again "SELECT a FROM t WHERE b" .logicBug reproduce).run s).1
        second.sql = "SELECT a FROM t WHERE b" ∧ second.accepted = 0 := by
  intro reproduce
  have hrun : (reduce 20 "SELECT a, 7 FROM t WHERE b AND c" .logicBug reproduce).run 0 =
      (⟨"SELECT a FROM t WHERE b", 7, 2, false⟩, 7) := by
    change (_ : Result × ℕ) = _
    decide +kernel
  exact ⟨hrun, (unexhausted_is_minimal reproduce .logicBug "SELECT a, 7 FROM t WHERE b AND c" 20 0
    hrun rfl).2 bothColumns fun _ _ => rfl⟩

end Reduction
end QueryFuzz
