import QueryFuzz.Proofs.Reduction.Edits

/-!
# What a reduction tries

A reduction hands out nothing but the text it was given and texts derived from it by
simplification, so a property that simplification keeps holds of every text that is handed out and
of the result. The texts are counted by a log that is kept beside the state of the callback.
-/

namespace QueryFuzz
namespace Reduction

open Sql
open Oracle (VerdictKind)

section Log

variable {σ : Type} (reproduce : String → StateM σ (Option VerdictKind))

/-- The callback with a log of the texts that it was handed. -/
def logged (text : String) : StateM (List String × σ) (Option VerdictKind) := fun (log, s) =>
  ((reproduce text s).1, (log ++ [text], (reproduce text s).2))

variable (kind : VerdictKind) (total : ℕ)

theorem search_nil (current : String) (accepted left : ℕ) (s : σ) :
    search reproduce kind total current accepted left [] s =
      (⟨current, total - left, accepted, false⟩, s) := by
  cases left <;> rfl

theorem search_zero (current v : String) (accepted : ℕ) (rest : List String) (s : σ) :
    search reproduce kind total current accepted 0 (v :: rest) s =
      (⟨current, total, accepted, true⟩, s) :=
  rfl

theorem search_succ (current v : String) (accepted left : ℕ) (rest : List String) (s : σ) :
    search reproduce kind total current accepted (left + 1) (v :: rest) s =
      if (reproduce v s).1 = some kind then
        search reproduce kind total v (accepted + 1) left (smallerVariants v) (reproduce v s).2
      else search reproduce kind total current accepted left rest (reproduce v s).2 := by
  have hbind : search reproduce kind total current accepted (left + 1) (v :: rest) s =
      (if (reproduce v s).1 = some kind then
        search reproduce kind total v (accepted + 1) left (smallerVariants v)
      else search reproduce kind total current accepted left rest) (reproduce v s).2 := by
    rw [search]
    rfl
  rw [hbind]
  split_ifs <;> rfl

variable {P : String → Prop}

/-- The log does not change the search, and a property that simplification keeps holds of all that
is logged and of the result. -/
theorem search_logged (hP : ∀ text, P text → ∀ v ∈ smallerVariants text, P v) (left : ℕ)
    {current : String} {accepted : ℕ} {pending : List String} (hcurrent : P current)
    (hpending : ∀ v ∈ pending, P v) (log : List String) (s : σ) :
    let plain := search reproduce kind total current accepted left pending s
    let run := search (logged reproduce) kind total current accepted left pending (log, s)
    run.1 = plain.1 ∧ run.2.2 = plain.2 ∧ P run.1.sql ∧
      ∃ handed, run.2.1 = log ++ handed ∧ ∀ text ∈ handed, P text := by
  induction left generalizing current accepted pending log s with
  | zero =>
    cases pending with
    | nil =>
      rw [search_nil, search_nil]
      exact ⟨rfl, rfl, hcurrent, [], by simp, by simp⟩
    | cons v rest =>
      rw [search_zero, search_zero]
      exact ⟨rfl, rfl, hcurrent, [], by simp, by simp⟩
  | succ left ih =>
    cases pending with
    | nil =>
      rw [search_nil, search_nil]
      exact ⟨rfl, rfl, hcurrent, [], by simp, by simp⟩
    | cons v rest =>
      have hv : P v := hpending v (by simp)
      have hrest : ∀ w ∈ rest, P w := fun w hw => hpending w (by simp [hw])
      have hlater {final : List String}
          (h : ∃ handed, final = log ++ [v] ++ handed ∧ ∀ text ∈ handed, P text) :
          ∃ handed, final = log ++ handed ∧ ∀ text ∈ handed, P text := by
        obtain ⟨handed, rfl, hall⟩ := h
        exact ⟨v :: handed, by simp, List.forall_mem_cons.2 ⟨hv, hall⟩⟩
      have hstep : logged reproduce v (log, s) =
          ((reproduce v s).1, (log ++ [v], (reproduce v s).2)) := rfl
      rw [search_succ, search_succ, hstep]
      dsimp only
      by_cases hshown : (reproduce v s).1 = some kind
      · rw [if_pos hshown, if_pos hshown]
        obtain ⟨hresult, hstate, hsql, hhanded⟩ :=
          @ih v (accepted + 1) (smallerVariants v) hv (hP v hv) (log ++ [v]) (reproduce v s).2
        exact ⟨hresult, hstate, hsql, hlater hhanded⟩
      · rw [if_neg hshown, if_neg hshown]
        obtain ⟨hresult, hstate, hsql, hhanded⟩ :=
          @ih current accepted rest hcurrent hrest (log ++ [v]) (reproduce v s).2
        exact ⟨hresult, hstate, hsql, hlater hhanded⟩

end Log

end Reduction
end QueryFuzz
