import QueryFuzz.Proofs.Run.Dialogue

/-!
# Dialogues among others

Between two accesses of a dialogue the other workers may change what is shared. What they can do to
the corpus is a relation, and what a dialogue does itself stays within it, too, so each worker may
count on the others. The rules below follow the construction of a dialogue.
-/

namespace QueryFuzz
namespace Run

variable {σ : Type}

/-! ## What others can see -/

/-- What a trial does for good: it hands a report to the sink, or it calls the corpus. -/
inductive Deed where
  | filed (report : Report.BugReport)
  | submitted (call : Corpus.Call)

def Deed.call? : Deed → Option Corpus.Call
  | filed _ => none
  | submitted call => some call

/-- An access is one deed at most. -/
def Access.deeds : Access → List Deed
  | file report => [.filed report]
  | submit call => [.submitted call]
  | _ => []

/-- What can happen between two moments of a run. -/
structure Rely (σ : Type) where
  /-- The worlds that occur. -/
  allows : σ → Prop
  /-- What becomes of the corpus. -/
  moves : Corpus → Corpus → Prop
  refl (c : Corpus) : moves c c
  trans {c c' c'' : Corpus} : moves c c' → moves c' c'' → moves c c''

namespace Fuzzer

variable (f : Fuzzer σ) (r : Rely σ) {α β : Type}

/-- A dialogue that begins at a corpus, with these deeds behind it, moves the corpus only as it
may, and has the property when it is done, whatever moves come between its accesses. -/
def Assures (Q : List Deed → α → Corpus → Prop) : Dialogue α → List Deed → Corpus → Prop
  | .done a, deeds, c => Q deeds a c
  | .ask access next, deeds, c => ∀ s : State σ, r.moves c s.corpus → r.allows s.world →
    r.allows (f.perform access s).2.world →
      r.moves s.corpus (f.perform access s).2.corpus ∧
        Assures Q (next (f.perform access s).1) (deeds ++ access.deeds)
          (f.perform access s).2.corpus

/-- A dialogue that begins at a corpus does no deed, and its value has the property. -/
def Returns (c : Corpus) (P : α → Prop) (d : Dialogue α) : Prop :=
  ∀ deeds, f.Assures r (fun deeds' a c' => deeds' = deeds ∧ r.moves c c' ∧ P a) d deeds c

variable {f r} {c c' : Corpus} {deeds : List Deed} {d : Dialogue α} {k : α → Dialogue β}
  {Q Q' : List Deed → α → Corpus → Prop} {Q₂ : List Deed → β → Corpus → Prop} {P : α → Prop}
  {P₂ : β → Prop}

/-! ## Rules -/

/-- Only a call of the corpus changes it. -/
theorem perform_corpus (a : Access) (s : State σ) :
    (f.perform a s).2.corpus = (s.corpus.submitAll (a.deeds.filterMap Deed.call?)).2 := by
  cases a <;> rfl

theorem assures_pure {a : α} (h : Q deeds a c) : f.Assures r Q (pure a) deeds c :=
  h

theorem Assures.mono (h : f.Assures r Q d deeds c)
    (himp : ∀ deeds a c, Q deeds a c → Q' deeds a c) : f.Assures r Q' d deeds c := by
  induction d generalizing deeds c with
  | done a => exact himp deeds a c h
  | ask access next ih =>
    intro s hs hallows hallows'
    obtain ⟨hmoves, hrest⟩ := h s hs hallows hallows'
    exact ⟨hmoves, ih _ hrest⟩

theorem Assures.bind (h : f.Assures r Q d deeds c)
    (hk : ∀ deeds a c, Q deeds a c → f.Assures r Q₂ (k a) deeds c) :
    f.Assures r Q₂ (d >>= k) deeds c := by
  show f.Assures r Q₂ (Dialogue.bind d k) deeds c
  induction d generalizing deeds c with
  | done a => exact hk deeds a c h
  | ask access next ih =>
    intro s hs hallows hallows'
    obtain ⟨hmoves, hrest⟩ := h s hs hallows hallows'
    exact ⟨hmoves, ih _ hrest⟩

/-- A dialogue may begin later. -/
theorem Assures.later (h : f.Assures r Q d deeds c) (hc : r.moves c c')
    (hQ : ∀ deeds a, Q deeds a c → Q deeds a c') : f.Assures r Q d deeds c' := by
  cases d with
  | done a => exact hQ deeds a h
  | ask access next => exact fun s hs => h s (r.trans hc hs)

theorem assures_access {a : Access} {Q : List Deed → a.Answer → Corpus → Prop}
    (h : ∀ s : State σ, r.moves c s.corpus → r.allows s.world →
      r.allows (f.perform a s).2.world → r.moves s.corpus (f.perform a s).2.corpus ∧
        Q (deeds ++ a.deeds) (f.perform a s).1 (f.perform a s).2.corpus) :
    f.Assures r Q (.access a) deeds c :=
  h

theorem returns_pure {a : α} (h : P a) : f.Returns r c P (pure a) :=
  fun _ => assures_pure ⟨rfl, r.refl c, h⟩

theorem Returns.assures (h : f.Returns r c P d)
    (hk : ∀ a c', r.moves c c' → P a → f.Assures r Q₂ (k a) deeds c') :
    f.Assures r Q₂ (d >>= k) deeds c := by
  apply (h deeds).bind
  rintro _ a c' ⟨rfl, hmoves, ha⟩
  exact hk a c' hmoves ha

theorem Returns.bind (h : f.Returns r c P d)
    (hk : ∀ a c', r.moves c c' → P a → f.Returns r c' P₂ (k a)) :
    f.Returns r c P₂ (d >>= k) := by
  intro deeds
  apply h.assures
  intro a c' hmoves ha
  apply (hk a c' hmoves ha deeds).mono
  rintro _ b c'' ⟨rfl, hmoves', hb⟩
  exact ⟨rfl, r.trans hmoves hmoves', hb⟩

/-- A single access that is no deed. -/
theorem returns_access {a : Access} {P : a.Answer → Prop} (hdeeds : a.deeds = [])
    (h : ∀ s : State σ, r.moves c s.corpus → r.allows s.world →
      r.allows (f.perform a s).2.world → P (f.perform a s).1) : f.Returns r c P (.access a) := by
  intro deeds
  apply assures_access
  intro s hs hallows hallows'
  rw [perform_corpus, hdeeds, List.append_nil]
  exact ⟨r.refl _, rfl, hs, h s hs hallows hallows'⟩

end Fuzzer
end Run
end QueryFuzz
