import Mathlib.Data.List.DropRight
import Mathlib.Data.Prod.Lex
import QueryFuzz.Proofs.Reduction.Search

/-!
# The contract of a reduction

What a reduction did can be read off the calls of its callback alone: which text stood at each
moment, which texts took its place, how many attempts were spent, and how far the last round came.
The calls are recorded with their answers, and one invariant ties the record to the state of the
search.
-/

namespace QueryFuzz
namespace Reduction

open Sql (size)
open Oracle (VerdictKind)

/-- Sizes are ordered by the tokens first and by the bytes second. -/
def Smaller (v text : String) : Prop :=
  toLex (size v) < toLex (size text)

theorem isSmaller_iff {a b : ℕ × ℕ} : isSmaller a b ↔ toLex a < toLex b := by
  simp [isSmaller, Prod.Lex.toLex_lt_toLex]

theorem mem_smallerVariants {text v : String} :
    v ∈ smallerVariants text ↔ v ∈ simplifications text ∧ Smaller v text := by
  simp [smallerVariants, Smaller, isSmaller_iff]

/-! ## The record of the calls -/

/-- A text that was handed to the callback, and the answer. -/
abbrev Call := String × Option VerdictKind

section Record

variable (kind : VerdictKind) (sql : String)

/-- The texts for which the callback answered with the kind of the failure. -/
def acceptedTexts (calls : List Call) : List String :=
  (calls.filter fun c => c.2 = some kind).map Prod.fst

/-- The text that stands after these calls. -/
def standing (calls : List Call) : String :=
  (acceptedTexts kind calls).getLastD sql

/-- The texts that were tried since the last one was accepted. -/
def sinceAccepted (calls : List Call) : List String :=
  (calls.rtakeWhile fun c => c.2 ≠ some kind).map Prod.fst

/-- Each call tried a simplification of the text that stood, and a smaller one. -/
def Simplifying (calls : List Call) : Prop :=
  ∀ before text answer after, calls = before ++ (text, answer) :: after →
    text ∈ simplifications (standing kind sql before) ∧ Smaller text (standing kind sql before)

variable {kind sql} {calls : List Call} {v : String} {answer : Option VerdictKind}

theorem acceptedTexts_accept (h : answer = some kind) :
    acceptedTexts kind (calls ++ [(v, answer)]) = acceptedTexts kind calls ++ [v] := by
  simp [acceptedTexts, h]

theorem acceptedTexts_reject (h : answer ≠ some kind) :
    acceptedTexts kind (calls ++ [(v, answer)]) = acceptedTexts kind calls := by
  simp [acceptedTexts, h]

theorem standing_accept (h : answer = some kind) :
    standing kind sql (calls ++ [(v, answer)]) = v := by
  simp [standing, acceptedTexts_accept h]

theorem standing_reject (h : answer ≠ some kind) :
    standing kind sql (calls ++ [(v, answer)]) = standing kind sql calls := by
  simp [standing, acceptedTexts_reject h]

theorem sinceAccepted_accept (h : answer = some kind) :
    sinceAccepted kind (calls ++ [(v, answer)]) = [] := by
  simp [sinceAccepted, h]

theorem sinceAccepted_reject (h : answer ≠ some kind) :
    sinceAccepted kind (calls ++ [(v, answer)]) = sinceAccepted kind calls ++ [v] := by
  simp [sinceAccepted, h]

theorem simplifying_nil : Simplifying kind sql [] := by
  intro before text answer after h
  simp at h

theorem Simplifying.concat (h : Simplifying kind sql calls)
    (hv : v ∈ smallerVariants (standing kind sql calls)) :
    Simplifying kind sql (calls ++ [(v, answer)]) := by
  intro before text answer' after heq
  rcases List.eq_nil_or_concat after with rfl | ⟨after, last, rfl⟩
  · obtain ⟨rfl, hlast⟩ := List.append_inj' heq rfl
    obtain ⟨rfl, rfl⟩ : v = text ∧ answer = answer' := by simpa using hlast
    exact mem_smallerVariants.1 hv
  · have heq' : calls ++ [(v, answer)] = (before ++ (text, answer') :: after) ++ [last] := by
      simpa using heq
    exact h before text answer' after (List.append_inj' heq' rfl).1

end Record

/-! ## The invariant of the search -/

section Invariant

variable (kind : VerdictKind) (sql : String) (total : ℕ)

/-- The state of the search agrees with the record. -/
structure Recorded (calls : List Call) (current : String) (accepted left : ℕ)
    (pending : List String) : Prop where
  current_eq : standing kind sql calls = current
  accepted_eq : accepted = (acceptedTexts kind calls).length
  spent : calls.length + left = total
  simplifying : Simplifying kind sql calls
  decreasing : (sql :: acceptedTexts kind calls).Pairwise fun a b => Smaller b a
  least : ∀ text ∈ sql :: acceptedTexts kind calls, toLex (size current) ≤ toLex (size text)
  round : smallerVariants current = sinceAccepted kind calls ++ pending

theorem recorded_start : Recorded kind sql total [] sql 0 total (smallerVariants sql) where
  current_eq := rfl
  accepted_eq := rfl
  spent := by simp
  simplifying := simplifying_nil
  decreasing := by simp [acceptedTexts]
  least := by simp [acceptedTexts]
  round := rfl

variable {kind sql total} {calls : List Call} {current v : String} {accepted left : ℕ}
  {rest : List String} {answer : Option VerdictKind}

theorem Recorded.mem_smallerVariants
    (h : Recorded kind sql total calls current accepted left (v :: rest)) :
    v ∈ smallerVariants current := by
  rw [h.round]
  simp

theorem Recorded.simplifying_concat
    (h : Recorded kind sql total calls current accepted left (v :: rest)) :
    Simplifying kind sql (calls ++ [(v, answer)]) := by
  apply h.simplifying.concat
  rw [h.current_eq]
  exact h.mem_smallerVariants

theorem Recorded.accept
    (h : Recorded kind sql total calls current accepted (left + 1) (v :: rest))
    (hanswer : answer = some kind) :
    Recorded kind sql total (calls ++ [(v, answer)]) v (accepted + 1) left
      (smallerVariants v) := by
  have hv : Smaller v current := (Reduction.mem_smallerVariants.1 h.mem_smallerVariants).2
  have hbelow : ∀ text ∈ sql :: acceptedTexts kind calls, Smaller v text :=
    fun text htext => lt_of_lt_of_le hv (h.least text htext)
  refine ⟨standing_accept hanswer, ?_, ?_, ?_, ?_, ?_, ?_⟩
  · simp [acceptedTexts_accept hanswer, h.accepted_eq]
  · have := h.spent
    simp only [List.length_append, List.length_singleton]
    omega
  · exact h.simplifying_concat
  · rw [acceptedTexts_accept hanswer, ← List.cons_append]
    exact List.pairwise_append.2
      ⟨h.decreasing, List.pairwise_singleton _ _, by simpa using hbelow⟩
  · intro text htext
    rw [acceptedTexts_accept hanswer, ← List.cons_append, List.mem_append] at htext
    rcases htext with htext | htext
    · exact (hbelow text htext).le
    · rw [List.mem_singleton.1 htext]
  · rw [sinceAccepted_accept hanswer, List.nil_append]

theorem Recorded.reject
    (h : Recorded kind sql total calls current accepted (left + 1) (v :: rest))
    (hanswer : answer ≠ some kind) :
    Recorded kind sql total (calls ++ [(v, answer)]) current accepted left rest := by
  refine ⟨?_, ?_, ?_, ?_, ?_, ?_, ?_⟩
  · rw [standing_reject hanswer, h.current_eq]
  · rw [acceptedTexts_reject hanswer, h.accepted_eq]
  · have := h.spent
    simp only [List.length_append, List.length_singleton]
    omega
  · exact h.simplifying_concat
  · rw [acceptedTexts_reject hanswer]
    exact h.decreasing
  · rw [acceptedTexts_reject hanswer]
    exact h.least
  · rw [h.round, sinceAccepted_reject hanswer, List.append_assoc]
    rfl

/-- The result of a search that ended with these calls and these texts of the last round left. -/
structure Finished (kind : VerdictKind) (sql : String) (total : ℕ) (calls : List Call)
    (untried : List String) (r : Result) : Prop where
  recorded : Recorded kind sql total calls r.sql r.accepted (total - r.attempts) untried
  attempts_eq : r.attempts = calls.length
  exhausted_iff : r.exhausted = true ↔ untried ≠ []
  spent_of_exhausted : r.exhausted = true → r.attempts = total

theorem Recorded.finish_nil (h : Recorded kind sql total calls current accepted left []) :
    Finished kind sql total calls [] ⟨current, total - left, accepted, false⟩ where
  recorded := by
    have hspent := h.spent
    rw [show total - (total - left) = left by omega]
    exact h
  attempts_eq := by
    have hspent := h.spent
    simp only
    omega
  exhausted_iff := by simp
  spent_of_exhausted := by simp

theorem Recorded.finish_zero (h : Recorded kind sql total calls current accepted 0 (v :: rest)) :
    Finished kind sql total calls (v :: rest) ⟨current, total, accepted, true⟩ where
  recorded := by
    rw [Nat.sub_self]
    exact h
  attempts_eq := by simpa using h.spent.symm
  exhausted_iff := by simp
  spent_of_exhausted := fun _ => rfl

end Invariant

section Traced

variable {σ : Type} (reproduce : String → StateM σ (Option VerdictKind))

/-- The callback with a record of its calls. -/
def traced (text : String) : StateM (List Call × σ) (Option VerdictKind) := fun (calls, s) =>
  ((reproduce text s).1, (calls ++ [(text, (reproduce text s).1)], (reproduce text s).2))

variable (kind : VerdictKind) (sql : String) (total : ℕ)

/-- The record does not change the search, and agrees with its state at the end. -/
theorem search_traced (left : ℕ) {calls : List Call} {current : String} {accepted : ℕ}
    {pending : List String} (h : Recorded kind sql total calls current accepted left pending)
    (s : σ) :
    let plain := search reproduce kind total current accepted left pending s
    let run := search (traced reproduce) kind total current accepted left pending (calls, s)
    run.1 = plain.1 ∧ run.2.2 = plain.2 ∧
      ∃ untried, Finished kind sql total run.2.1 untried run.1 := by
  -- Both searches ask for the same text in each step, since the record only listens.
  induction left generalizing calls current accepted pending s with
  | zero =>
    cases pending with
    | nil =>
      rw [search_nil, search_nil]
      exact ⟨rfl, rfl, [], h.finish_nil⟩
    | cons v rest =>
      rw [search_zero, search_zero]
      exact ⟨rfl, rfl, v :: rest, h.finish_zero⟩
  | succ left ih =>
    cases pending with
    | nil =>
      rw [search_nil, search_nil]
      exact ⟨rfl, rfl, [], h.finish_nil⟩
    | cons v rest =>
      have hstep : traced reproduce v (calls, s) =
          ((reproduce v s).1, (calls ++ [(v, (reproduce v s).1)], (reproduce v s).2)) := rfl
      rw [search_succ, search_succ, hstep]
      dsimp only
      by_cases hanswer : (reproduce v s).1 = some kind
      · rw [if_pos hanswer, if_pos hanswer]
        exact ih (h.accept hanswer) (reproduce v s).2
      · rw [if_neg hanswer, if_neg hanswer]
        exact ih (h.reject hanswer) (reproduce v s).2

/-- A reduction calls its callback as often as it counts attempts, within the bound, and hands it
smaller simplifications of the text that stands. The accepted texts get smaller and smaller, the
last of them, or the text itself, is the result, and the attempts count as exhausted exactly if
the bound was spent with smaller simplifications of the result left to try. -/
theorem reduce_contract (maxAttempts : ℕ) (state : σ) :
    ∃ (r : Result) (calls : List Call) (final : σ),
      (reduce maxAttempts sql kind reproduce).run state = (r, final) ∧
      (reduce maxAttempts sql kind (traced reproduce)).run ([], state) = (r, calls, final) ∧
      calls.length = r.attempts ∧ r.attempts ≤ maxAttempts ∧
      Simplifying kind sql calls ∧
      r.accepted = (acceptedTexts kind calls).length ∧
      ((sql :: acceptedTexts kind calls).Pairwise fun a b => Smaller b a) ∧
      r.sql = standing kind sql calls ∧ toLex (size r.sql) ≤ toLex (size sql) ∧
      (r.exhausted = true ↔ r.attempts = maxAttempts ∧
        ∃ v untried, smallerVariants r.sql = sinceAccepted kind calls ++ v :: untried) ∧
      (r.exhausted = false → smallerVariants r.sql = sinceAccepted kind calls) := by
  obtain ⟨hresult, hstate, untried, hfinished⟩ :=
    search_traced reproduce kind sql maxAttempts maxAttempts
      (recorded_start kind sql maxAttempts) state
  generalize hrun : search (traced reproduce) kind maxAttempts sql 0 maxAttempts
    (smallerVariants sql) ([], state) = run at hresult hstate hfinished
  obtain ⟨r, calls, final⟩ := run
  have hrecorded : Recorded kind sql maxAttempts calls r.sql r.accepted
    (maxAttempts - r.attempts) untried := hfinished.recorded
  have hattempts : r.attempts = calls.length := hfinished.attempts_eq
  have hexhausted : r.exhausted = true ↔ untried ≠ [] := hfinished.exhausted_iff
  refine ⟨r, calls, final, (Prod.ext hresult hstate).symm, hrun, hattempts.symm, ?_,
    hrecorded.simplifying, hrecorded.accepted_eq, hrecorded.decreasing,
    hrecorded.current_eq.symm, ?_, ?_, ?_⟩
  · have := hrecorded.spent
    omega
  · exact hrecorded.least sql (by simp)
  · constructor
    · intro h
      obtain ⟨v, rest, rfl⟩ := List.exists_cons_of_ne_nil (hexhausted.1 h)
      exact ⟨hfinished.spent_of_exhausted h, v, rest, hrecorded.round⟩
    · rintro ⟨-, v, rest, hround⟩
      have huntried : untried = v :: rest :=
        List.append_cancel_left (hrecorded.round.symm.trans hround)
      rw [hexhausted, huntried]
      simp
  · intro h
    have huntried : untried = [] := by
      by_contra hne
      simp [hexhausted.2 hne] at h
    rw [hrecorded.round, huntried, List.append_nil]

end Traced

end Reduction
end QueryFuzz
