import QueryFuzz.Proofs.Grammar.Runs

/-!
# What an expansion does

An expansion that succeeds has a value and has added rules to those that were used before. The
lemmas below follow the construction of an expansion: they show piece by piece that it has a run,
what its value is like and which rules it adds.
-/

namespace QueryFuzz
namespace Grammar

open Draw

variable {g : Setting}

/-- Whatever rules were used and whatever the keys are, the expansion has a run, and its value and
the rules that it adds have the property. -/
def Traces (g : Setting) {α : Type} (P : α → List String → Prop) (x : Expansion α) : Prop :=
  ∀ used keys, ∃ nts a added rest,
    Runs g x (used, keys) nts a (used.insertAll added, rest) ∧ P a added

/-- The expansion succeeds with a value that has the property, and adds none but these rules. -/
def Expands (g : Setting) {α : Type} (allowed : List String) (P : α → Prop) : Expansion α → Prop :=
  Traces g fun a added => added ⊆ allowed ∧ P a

/-- The first rule that was added is one of the nonterminal. -/
def Chosen {α : Type} (nt : Nonterminal) (P : String → α → List String → Prop) (a : α)
    (added : List String) : Prop :=
  ∃ rule ∈ nt.rules, ∃ rest, added = rule :: rest ∧ P rule a rest

theorem insertAll_append (s : NameSet) (names more : List String) :
    s.insertAll (names ++ more) = (s.insertAll names).insertAll more :=
  List.foldl_append

/-! ## Composition -/

section Composition

variable {α β : Type} {P : α → List String → Prop} {Q : β → List String → Prop}
  {x : Expansion α} {f : α → Expansion β}

theorem traces_pure {a : α} (h : P a []) : Traces g P (pure a) :=
  fun used keys => ⟨[], a, [], keys, .done a (used, keys), h⟩

theorem Traces.mono {P' : α → List String → Prop} (h : Traces g P x)
    (himp : ∀ a added, P a added → P' a added) : Traces g P' x := by
  intro used keys
  obtain ⟨nts, a, added, rest, hrun, ha⟩ := h used keys
  exact ⟨nts, a, added, rest, hrun, himp a added ha⟩

theorem Traces.bind (h : Traces g P x)
    (hf : ∀ a added, P a added → Traces g (fun b more => Q b (added ++ more)) (f a)) :
    Traces g Q (x >>= f) := by
  intro used keys
  obtain ⟨nts, a, added, rest, hx, ha⟩ := h used keys
  obtain ⟨nts', b, more, rest', hrun, hb⟩ := hf a added ha (used.insertAll added) rest
  rw [← insertAll_append] at hrun
  exact ⟨nts ++ nts', b, added ++ more, rest', .seq hx hrun, hb⟩

theorem Traces.map {f : α → β} (h : Traces g (fun a added => Q (f a) added) x) :
    Traces g Q (f <$> x) := by
  have hbind : Traces g Q (x >>= fun a => pure (f a)) := by
    apply h.bind
    intro a added ha
    apply traces_pure
    rwa [List.append_nil]
  exact hbind

theorem traces_lift {p : Sampling α} (h : p.Yields fun a => P a []) :
    Traces g P (liftM p : Expansion α) :=
  fun used keys => ⟨[], _, [], _, .draw p used keys, h.run keys⟩

theorem traces_useRule {P : Unit → List String → Prop} {rule : String}
    (hrule : rule ∈ g.forcedRules) (h : P () [rule]) : Traces g P (useRule rule) :=
  fun used keys => ⟨[], (), [rule], keys, .force hrule used keys, h⟩

theorem traces_itemAt {items : List α} {i : ℕ} (hi : i < items.length) (h : P items[i] []) :
    Traces g P (itemAt items i) :=
  fun used keys =>
    ⟨[], items[i], [], keys, .item (List.getElem?_eq_getElem hi) (used, keys), h⟩

end Composition

/-! ## Choices of rules -/

theorem traces_pick {α : Type} (label : String) {items : List α} (hne : items ≠ []) :
    Traces g (fun a added => a ∈ items ∧ added = []) (pick label items) := by
  have hindex : Traces g (fun i added => i < max items.length 1 ∧ added = [])
      (liftM (Sampling.index label items.length)) :=
    traces_lift ((Sampling.yields_index label items.length).mono fun i hi => ⟨hi, rfl⟩)
  refine hindex.bind ?_
  rintro i added ⟨hi, rfl⟩
  have hlt : i < items.length := by
    have := List.length_pos_iff.2 hne
    omega
  exact traces_itemAt hlt ⟨List.getElem_mem hlt, rfl⟩

theorem alternatives_pos (nt : Nonterminal) : 0 < nt.alternatives.length := by
  cases nt <;> decide

theorem lt_of_mem_freshAlternatives {used : NameSet} {nt : Nonterminal} {i : ℕ}
    (h : i ∈ freshAlternatives g used nt) : i < nt.alternatives.length := by
  unfold freshAlternatives at h
  split_ifs at h
  · exact List.mem_range.1 (List.mem_filter.1 h).1
  · simp at h

/-- The rule is one of the nonterminal, and a fresh one while there are any. -/
def MayChoose (g : Setting) (used : NameSet) (nt : Nonterminal) (rule : String) : Prop :=
  rule ∈ nt.rules ∧ (freshAlternatives g used nt ≠ [] →
    ∃ i ∈ freshAlternatives g used nt, nt.rules[i]? = some rule)

/-- Draws the position of an alternative, of a fresh one while there are any. -/
def position (g : Setting) (used : NameSet) (nt : Nonterminal) : Expansion ℕ :=
  if (freshAlternatives g used nt).isEmpty then
    (·.getD 0) <$> (Sampling.weighted "grammar" (nt.alternatives.map (·.weight)) : Expansion _)
  else pick "grammar.uncovered" (freshAlternatives g used nt)

/-- Uses the rule of the alternative at a position. -/
def ruleAt (nt : Nonterminal) (i : ℕ) : Expansion String := do
  let rule ← itemAt nt.rules i
  useRule rule
  return rule

theorem run_expand_eq (g : Setting) (used : NameSet) (nt : Nonterminal) :
    (expand g nt).run used = (position g used nt >>= ruleAt nt).run used := by
  show StateT.run (if (freshAlternatives g used nt).isEmpty then _ else _) used = _
  unfold position
  split_ifs <;> rfl

theorem traces_position (used : NameSet) (nt : Nonterminal) :
    Traces g (fun i added => added = [] ∧ i < nt.alternatives.length ∧
      (freshAlternatives g used nt ≠ [] → i ∈ freshAlternatives g used nt))
      (position g used nt) := by
  unfold position
  split_ifs with hempty
  · apply Traces.map
    apply traces_lift
    apply (Sampling.yields_weighted _ _).mono
    intro i hi
    rw [List.length_map, max_eq_left (alternatives_pos nt)] at hi
    exact ⟨rfl, hi, fun hne => absurd (List.isEmpty_iff.1 hempty) hne⟩
  · refine (traces_pick _ (by simpa using hempty)).mono ?_
    rintro i added ⟨hi, rfl⟩
    exact ⟨rfl, lt_of_mem_freshAlternatives hi, fun _ => hi⟩

/-- An alternative is chosen, preferred or not, and its rule is added. -/
theorem exists_choice (g : Setting) (nt : Nonterminal) (used : NameSet) (keys : KeyStream) :
    ∃ rule, (((expand g nt).run used).run.run keys).value = some (rule, used.insert rule) ∧
      MayChoose g used nt rule := by
  obtain ⟨nts, i, added, rest, hrun, rfl, hi, hfresh⟩ := traces_position (g := g) used nt used keys
  have hlt : i < nt.rules.length := by simpa [Nonterminal.rules] using hi
  have hrule : nt.rules[i]? = some nt.rules[i] := List.getElem?_eq_getElem hlt
  have hposition := hrun.run_eq.1
  refine ⟨nt.rules[i], ?_, List.getElem_mem hlt, fun hne => ⟨i, hfresh hne, hrule⟩⟩
  rw [run_expand_eq, (run_bind_eq hposition).1]
  exact (run_bind_eq (Runs.item (g := g) hrule (used, _)).run_eq.1).1

theorem traces_expand (nt : Nonterminal) :
    Traces g (fun rule added => rule ∈ nt.rules ∧ added = [rule]) (expand g nt) := by
  intro used keys
  obtain ⟨rule, hvalue, hrule, -⟩ := exists_choice g nt used keys
  exact ⟨[nt], rule, [rule], _, .choose hvalue, hrule, rfl⟩

/-- What follows the choice of a rule may depend on the rule. -/
theorem traces_chosen {α : Type} {nt : Nonterminal}
    {P : String → α → List String → Prop} {f : String → Expansion α}
    (h : ∀ rule ∈ nt.rules, Traces g (P rule) (f rule)) :
    Traces g (Chosen nt P) (expand g nt >>= f) := by
  refine (traces_expand nt).bind ?_
  rintro rule added ⟨hrule, rfl⟩
  exact (h rule hrule).mono fun a rest ha => ⟨rule, hrule, rest, rfl, ha⟩

/-! ## Expansions that add few rules -/

section Expands

variable {α β : Type} {allowed : List String} {P : α → Prop} {Q : β → Prop}
  {x : Expansion α} {f : α → Expansion β}

theorem expands_pure {a : α} (h : P a) : Expands g allowed P (pure a) :=
  traces_pure ⟨List.nil_subset allowed, h⟩

theorem Expands.bind (h : Expands g allowed P x) (hf : ∀ a, P a → Expands g allowed Q (f a)) :
    Expands g allowed Q (x >>= f) := by
  refine Traces.bind h fun a added ha => (hf a ha.2).mono fun b more hb => ?_
  exact ⟨List.append_subset.2 ⟨ha.1, hb.1⟩, hb.2⟩

theorem Expands.mono {P' : α → Prop} (h : Expands g allowed P x) (himp : ∀ a, P a → P' a) :
    Expands g allowed P' x :=
  Traces.mono h fun a _ ha => ⟨ha.1, himp a ha.2⟩

theorem Expands.widen {more : List String} (h : Expands g allowed P x) (hsub : allowed ⊆ more) :
    Expands g more P x :=
  Traces.mono h fun _ _ ha => ⟨List.Subset.trans ha.1 hsub, ha.2⟩

theorem Expands.map {f : α → β} (h : Expands g allowed (fun a => Q (f a)) x) :
    Expands g allowed Q (f <$> x) :=
  Traces.map h

theorem expands_lift {p : Sampling α} (h : p.Yields P) :
    Expands g allowed P (liftM p : Expansion α) :=
  traces_lift (h.mono fun _ ha => ⟨List.nil_subset allowed, ha⟩)

/-- Whatever is drawn, it adds no rule. -/
theorem expands_draw (p : Sampling α) :
    Expands g allowed (fun _ => True) (liftM p : Expansion α) :=
  expands_lift (Sampling.yields_true p)

theorem expands_useRule {rule : String} (hrule : rule ∈ g.forcedRules) (h : rule ∈ allowed) :
    Expands g allowed (fun _ => True) (useRule rule) :=
  traces_useRule hrule ⟨by simpa using h, trivial⟩

theorem expands_expand {nt : Nonterminal} (h : nt.rules ⊆ allowed) :
    Expands g allowed (· ∈ nt.rules) (expand g nt) := by
  refine (traces_expand nt).mono ?_
  rintro rule added ⟨hrule, rfl⟩
  exact ⟨by simpa using h hrule, hrule⟩

theorem expands_pick (label : String) {items : List α} (hne : items ≠ []) :
    Expands g allowed (· ∈ items) (pick label items) := by
  refine (traces_pick label hne).mono ?_
  rintro a added ⟨ha, rfl⟩
  exact ⟨List.nil_subset allowed, ha⟩

theorem expands_slice {items : List α} {offset count : ℕ} (h : offset + count ≤ items.length) :
    Expands g allowed (· = (items.drop offset).take count) (slice items offset count) := by
  unfold slice
  rw [if_pos h]
  exact expands_pure rfl

/-- Each of several values of one program, as many as were asked for. -/
theorem expands_repeated {program : Expansion α} (h : Expands g allowed P program) (n : ℕ) :
    Expands g allowed (fun items => items.length = n ∧ ∀ a ∈ items, P a) (repeated program n) := by
  induction n with
  | zero => exact expands_pure ⟨rfl, by simp⟩
  | succ n ih =>
    refine h.bind fun first hfirst => ih.bind fun others hothers => expands_pure ?_
    obtain ⟨hlength, hall⟩ := hothers
    exact ⟨by rw [List.length_cons, hlength], List.forall_mem_cons.2 ⟨hfirst, hall⟩⟩

theorem expands_inTurn {programs : List (Expansion α)}
    (h : ∀ p ∈ programs, Expands g allowed P p) :
    Expands g allowed (fun items => items.length = programs.length ∧ ∀ a ∈ items, P a)
      (inTurn programs) := by
  induction programs with
  | nil => exact expands_pure ⟨rfl, by simp⟩
  | cons program programs ih =>
    have hprogram := h program (by simp)
    have hrest := ih fun p hp => h p (by simp [hp])
    refine hprogram.bind fun first hfirst => hrest.bind fun others hothers => expands_pure ?_
    obtain ⟨hlength, hall⟩ := hothers
    exact ⟨by rw [List.length_cons, hlength, List.length_cons],
      List.forall_mem_cons.2 ⟨hfirst, hall⟩⟩

theorem expands_word {label otherwise : String} {words fixed : List String}
    (hwords : ∀ w ∈ otherwise :: words, w ∈ fixed) :
    Expands g allowed (· ∈ fixed) (word label words otherwise) := by
  refine (expands_lift (Sampling.yields_choose label words)).bind fun o ho => expands_pure ?_
  rcases ho with ⟨w, hw, rfl⟩ | ⟨-, rfl⟩
  · exact hwords w (List.mem_cons_of_mem _ hw)
  · exact hwords otherwise List.mem_cons_self

/-- A count that is drawn from one on is positive. -/
theorem expands_count {label : String} {high : ℤ} (hhigh : Width.fitsSigned 64 high)
    (hle : 1 ≤ high) :
    Expands g allowed (fun n : ℤ => 1 ≤ n ∧ n ≤ high) (liftM (Sampling.between label 1 high)) :=
  expands_lift (Sampling.yields_between label (by decide) hhigh hle)

end Expands

end Grammar
end QueryFuzz
