import QueryFuzz.Proofs.Draw.Weights
import QueryFuzz.Scheduling

/-!
# Choosing parents

A parent is chosen whenever the corpus has an entry, with one decision whose answer is the number
of that entry. The energies exist for every entry and every exponent, also where they vanish, are
infinite or are no numbers. If they add up to something, an entry with a positive finite energy is
chosen, and otherwise any entry.
-/

namespace QueryFuzz
namespace Scheduling

open Draw

variable {corpus : Corpus}

/-! ## Energies -/

theorem exists_energy (exponent : Float) {i : ℕ} (h : i < corpus.size) :
    ∃ w, energy exponent corpus i = .ok w := by
  have hentry : corpus.entries[i]? = some corpus.entries[i] := List.getElem?_eq_getElem h
  unfold energy Corpus.rarestHits Corpus.get
  rw [hentry]
  exact ⟨_, rfl⟩

/-- The computation of all energies does not stop at any of them. -/
theorem exists_energies (corpus : Corpus) (exponent : Float) (indices : List ℕ)
    (h : ∀ i ∈ indices, i < corpus.size) :
    ∃ energies, indices.mapM (energy exponent corpus) = .ok energies ∧
      energies.length = indices.length := by
  induction indices with
  | nil => exact ⟨[], rfl, rfl⟩
  | cons i rest ih =>
    obtain ⟨hi, hrest⟩ := List.forall_mem_cons.1 h
    obtain ⟨w, hw⟩ := exists_energy exponent hi
    obtain ⟨energies, henergies, hlength⟩ := ih hrest
    refine ⟨w :: energies, ?_, congrArg (· + 1) hlength⟩
    rw [List.mapM_cons, hw, henergies]
    rfl

/-! ## The question that is asked -/

/-- By these energies an index can be chosen: its own is positive and finite, or they add up to
nothing and every index is as good. -/
def IsEligible (energies : List Float) (i : ℕ) : Prop :=
  (∃ w, energies[i]? = some w ∧ IsUsable w) ∨ totalWeight energies ≤ 0.0

/-- The entries that a policy may choose. -/
def Policy.Allows (corpus : Corpus) (i : ℕ) : Policy → Prop
  | uniform => i < corpus.size
  | rarity exponent => i < corpus.size ∧ ∃ energies,
      (List.range corpus.size).mapM (energy exponent corpus) = .ok energies ∧ IsEligible energies i

theorem Policy.Allows.lt {i : ℕ} {policy : Policy} (h : policy.Allows corpus i) :
    i < corpus.size := by
  cases policy with
  | uniform => exact h
  | rarity exponent => exact h.1

/-- Energies that add up to nothing are asked nothing, but then an index is drawn. -/
theorem chooseByEnergy_eq (corpus : Corpus) (energies : List Float) :
    chooseByEnergy corpus energies = .ask "parent"
      (if totalWeight energies ≤ 0.0 then .below corpus.size else .weighted energies) .done := by
  unfold chooseByEnergy Sampling.weighted
  split_ifs <;> rfl

/-- With an entry in the corpus, a parent is the answer to one question. -/
theorem exists_question (policy : Policy) (h : corpus.entries ≠ []) :
    ∃ q : Question, next policy corpus = .ok <$> .ask "parent" q .done ∧
      ∀ s : KeyStream, policy.Allows corpus (q.answer s).1 := by
  have hsize : max corpus.size 1 = corpus.size := max_eq_left (List.length_pos_iff.2 h)
  have hbelow (s : KeyStream) : (answerBelow corpus.size s).1 < corpus.size := by
    simpa only [hsize] using answerBelow_lt corpus.size s
  unfold next
  rw [if_neg (by simpa using h)]
  cases policy with
  | uniform => exact ⟨.below corpus.size, rfl, hbelow⟩
  | rarity exponent =>
    obtain ⟨energies, henergies, hlength⟩ :=
      exists_energies corpus exponent (List.range corpus.size) fun i hi => List.mem_range.1 hi
    rw [List.length_range] at hlength
    dsimp only
    rw [henergies]
    dsimp only
    rw [chooseByEnergy_eq]
    refine ⟨_, rfl, fun s => ?_⟩
    split_ifs with htotal
    · exact ⟨hbelow s, energies, henergies, .inr htotal⟩
    · obtain ⟨w, hw, husable⟩ := isUsable_answerWeighted htotal s
      have hlt := (List.getElem?_eq_some_iff.1 hw).1
      exact ⟨hlength ▸ hlt, energies, henergies, .inl ⟨w, hw, husable⟩⟩

/-- A parent is missing exactly if the corpus is empty, and then nothing is drawn. Otherwise it is
the number of an entry that the policy allows, and the one decision that joins the trail. -/
theorem next_chooses_entry (policy : Policy) (corpus : Corpus) (s : Source) :
    let (parent, s') := s.sample (next policy corpus)
    (corpus.entries = [] ∧ parent = .error .corpusEmpty ∧ s' = s) ∨
    (corpus.entries ≠ [] ∧ ∃ i < corpus.size, parent = .ok i ∧
      s'.trail = s.trail ++ [⟨"parent", i⟩] ∧ policy.Allows corpus i) := by
  by_cases h : corpus.entries = []
  · left
    unfold next
    rw [if_pos (by simpa using h)]
    refine ⟨h, rfl, ?_⟩
    show { s with trail := s.trail ++ [] } = s
    rw [List.append_nil]
  · right
    obtain ⟨q, hq, hallows⟩ := exists_question policy h
    rw [hq]
    exact ⟨h, _, (hallows s.words).lt, rfl, rfl, hallows s.words⟩

end Scheduling
end QueryFuzz
