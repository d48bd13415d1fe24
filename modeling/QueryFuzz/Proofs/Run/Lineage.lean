import QueryFuzz.Proofs.Draw.Yields
import QueryFuzz.Proofs.Run.Crew

/-!
# Lineages

Where the entries of a corpus come from. Only a candidate with nothing wrong is offered to the
corpus, so all other trials leave the corpus alone. A mutant is offered behind its parent, takes
over the database and the rules of the parent, and so belongs to a seed or to a generated candidate
that was meant for the same database.
-/

namespace QueryFuzz
namespace Run

open Draw (Sampling Source)

variable {σ : Type}

/-! ## Where candidates come from -/

/-- What a generated candidate owes to whoever asked for it. -/
theorem generated_of_generate {config : Grammar.Config} {database : ℕ} {schema : Schema}
    {frontier : NameSet} {s : Source} {c : Candidate}
    (h : (Grammar.generate config database schema frontier s).1 = .ok c) :
    c.origin = .generated ∧ c.parent = none ∧ c.database = database := by
  unfold Grammar.generate at h
  split_ifs at h
  dsimp only at h
  split at h
  · cases h
  · cases h
    exact ⟨rfl, rfl, rfl⟩

/-- What a mutant owes to its parent. -/
theorem mutated_of_mutate {config : Mutation.Config} {parent : Candidate} {parentId : ℕ}
    {schema : Schema} {donors : List String} {s : Source} {c : Candidate}
    (h : (Mutation.mutate config parent parentId schema donors s).1 = some c) :
    c.origin = .mutated ∧ c.parent = some parentId ∧ c.database = parent.database ∧
      c.rules = parent.rules := by
  unfold Mutation.mutate at h
  split at h
  · cases h
  · cases h
    exact ⟨rfl, rfl, rfl, rfl⟩

namespace Fuzzer

variable {f : Fuzzer σ}

/-- The parent of a plan is an entry of the corpus. -/
theorem yields_plan (corpus : Corpus) :
    (f.plan corpus).Yields fun plan => ∀ p, plan = some p →
      ∃ i : ℕ, corpus.entries[i]? = some p.parent := by
  unfold plan
  apply (Sampling.yields_true _).bind
  rintro (_ | _) -
  · apply (Sampling.yields_true _).bind
    rintro (_ | i) -
    · exact Sampling.yields_pure (by simp)
    · dsimp only
      cases hget : corpus.get i with
      | error e => exact Sampling.yields_pure (by simp)
      | ok parent =>
        apply (Sampling.yields_true _).bind
        intro donors _
        apply Sampling.yields_pure
        rintro p ⟨⟩
        refine ⟨i, ?_⟩
        unfold Corpus.get at hget
        split at hget
        · cases hget
          assumption
        · cases hget
  · exact Sampling.yields_pure (by simp)

theorem exists_parent {corpus : Corpus} {s s' : Source} {p : Plan}
    (h : s.sample (f.plan corpus) = (some p, s')) :
    ∃ i : ℕ, corpus.entries[i]? = some p.parent := by
  have hvalue := (yields_plan (f := f) corpus).run s.words
  exact hvalue p (congrArg Prod.fst h)

variable (f) in
/-- Where the candidate of a trial comes from that plans with a corpus. -/
inductive Springs (planned : Corpus) (index : ℕ) (x : Candidate) : Prop
  /-- It is a seed query; these go round the databases. -/
  | seed : x.origin = .seed → x.parent = none → x.database = index % max f.databases.length 1 →
    Springs planned index x
  | generated (db : Database) : x.origin = .generated → x.parent = none →
    f.databases[x.database]? = some db → Springs planned index x
  | mutated (i : ℕ) (e : Corpus.Entry) (db : Database) : planned.entries[i]? = some e →
    x.origin = .mutated → x.parent = some e.id → x.database = e.candidate.database →
    x.rules = e.candidate.rules → f.databases[x.database]? = some db → Springs planned index x

theorem springs_generated {planned fresh : Corpus} {index : ℕ} {s : Source} {fallback : Bool}
    {p : Product}
    (h : (f.generated fresh s).1.map (fun c => Product.mk .generate c fallback) = .ok p) :
    f.Springs planned index p.candidate := by
  cases hresult : (f.generated fresh s).1 with
  | error e =>
    rw [hresult] at h
    cases h
  | ok c =>
    rw [hresult] at h
    cases h
    unfold generated at hresult
    dsimp only at hresult
    split at hresult
    · cases hresult
    · obtain ⟨horigin, hparent, hdatabase⟩ := generated_of_generate hresult
      rename_i db hdb
      exact .generated db horigin hparent (hdatabase ▸ hdb)

theorem springs_of_producedFrom {planned fresh : Corpus} {index : ℕ} {p : Product}
    (h : f.producedFrom planned fresh index = .ok p) : f.Springs planned index p.candidate := by
  unfold producedFrom at h
  dsimp only at h
  split at h
  · cases h
    exact .seed rfl rfl rfl
  · rcases hplan : (Source.ofSeed f.options.seed index).sample (f.plan planned) with ⟨_ | pl, s⟩
    · rw [hplan] at h
      exact springs_generated h
    · rw [hplan] at h
      dsimp only at h
      split at h
      · cases h
        rename_i c s' hmutant
        unfold mutant at hmutant
        split at hmutant
        · cases hmutant
        · rename_i db hdb
          obtain ⟨i, hi⟩ := exists_parent hplan
          obtain ⟨horigin, hparent, hdatabase, hrules⟩ :=
            mutated_of_mutate (congrArg Prod.fst hmutant)
          exact .mutated i pl.parent db hi horigin hparent hdatabase hrules (hdatabase ▸ hdb)
      · exact springs_generated h

end Fuzzer
end Run

/-! ## Lineages in a corpus -/

namespace Corpus

/-- What a candidate has to do with the entries that were there before it. -/
inductive StemsFrom (earlier : List Entry) (x : Candidate) : Prop
  | root : x.origin = .seed ∨ x.origin = .generated → x.parent = none → StemsFrom earlier x
  | mutant (p : ℕ) (e : Entry) : x.origin = .mutated → x.parent = some p →
    earlier[p]? = some e → x.database = e.candidate.database → x.rules = e.candidate.rules →
    StemsFrom earlier x

/-- Every entry has its position as its number, and stems from those in front of it. -/
def Lineal (c : Corpus) : Prop :=
  ∀ i e, c.entries[i]? = some e → e.id = i ∧ StemsFrom (c.entries.take i) e.candidate

theorem StemsFrom.mono {earlier later : List Entry} {x : Candidate} (h : StemsFrom earlier x)
    (hextends : earlier <+: later) : StemsFrom later x := by
  cases h with
  | root horigin hparent => exact .root horigin hparent
  | mutant p e horigin hparent he hdatabase hrules =>
    obtain ⟨hp, rfl⟩ := List.getElem?_eq_some_iff.1 he
    exact .mutant p _ horigin hparent (List.prefix_iff_getElem?.1 hextends p hp) hdatabase hrules

theorem lineal_empty : empty.Lineal := by
  rintro i e ⟨⟩

theorem entries_prefix_submit (c : Corpus) (x : Candidate) (s : Coverage.Signature) :
    c.entries <+: (c.submit x s).2.entries := by
  rcases c.submit_cases x s with ⟨-, heq⟩ | ⟨-, heq⟩ <;> rw [heq]
  · exact List.prefix_append _ _
  · exact List.prefix_rfl

theorem Lineal.submit {c : Corpus} (h : c.Lineal) {x : Candidate}
    (hx : StemsFrom c.entries x) (s : Coverage.Signature) : (c.submit x s).2.Lineal := by
  rcases c.submit_cases x s with ⟨-, heq⟩ | ⟨-, heq⟩ <;> rw [heq]
  · intro i e he
    dsimp only at he ⊢
    by_cases hi : i < c.entries.length
    · rw [List.getElem?_append_left hi] at he
      rw [List.take_append_of_le_length hi.le]
      exact h i e he
    · obtain ⟨hlength, -⟩ := List.getElem?_eq_some_iff.1 he
      obtain rfl : i = c.entries.length := by
        rw [List.length_append, List.length_singleton] at hlength
        omega
      rw [List.getElem?_concat_length] at he
      cases he
      rw [List.take_left]
      exact ⟨rfl, hx⟩
  · exact h

/-- An entry is made from another one by mutation. -/
def Descends (c : Corpus) (e parent : Entry) : Prop :=
  ∃ p, e.candidate.parent = some p ∧ c.entries[p]? = some parent

/-- The lineage of an entry. -/
structure Lineage (c : Corpus) (i : ℕ) (e : Entry) : Prop where
  id_eq : e.id = i
  /-- A mutant has a parent in front of it, with the same database and the same rules. -/
  mutant : e.candidate.origin = .mutated → ∃ p parent, p < i ∧ e.candidate.parent = some p ∧
    c.entries[p]? = some parent ∧ e.candidate.database = parent.candidate.database ∧
    e.candidate.rules = parent.candidate.rules
  /-- Any other entry has none. -/
  root : e.candidate.origin ≠ .mutated → e.candidate.parent = none
  /-- From parent to parent, one comes to a seed or a generated candidate for the same database. -/
  ancestor : ∃ first ∈ c.entries, Relation.ReflTransGen c.Descends e first ∧
    (first.candidate.origin = .seed ∨ first.candidate.origin = .generated) ∧
    first.candidate.database = e.candidate.database

theorem Lineal.exists_ancestor {c : Corpus} (h : c.Lineal) {i : ℕ} {e : Entry}
    (he : c.entries[i]? = some e) :
    ∃ first ∈ c.entries, Relation.ReflTransGen c.Descends e first ∧
      (first.candidate.origin = .seed ∨ first.candidate.origin = .generated) ∧
      first.candidate.database = e.candidate.database := by
  induction i using Nat.strong_induction_on generalizing e with
  | _ i ih =>
    obtain ⟨-, hstems⟩ := h i e he
    cases hstems with
    | root horigin hparent => exact ⟨e, List.mem_of_getElem? he, .refl, horigin, rfl⟩
    | mutant p parent horigin hparent hearlier hdatabase hrules =>
      rw [List.getElem?_take, Option.ite_none_right_eq_some] at hearlier
      -- The parent stands further in front, so the way from parent to parent ends.
      obtain ⟨hp, hentry⟩ := hearlier
      obtain ⟨first, hfirst, hdescends, horigin, hsame⟩ := ih p hp hentry
      exact ⟨first, hfirst, .head ⟨p, hparent, hentry⟩ hdescends, horigin,
        hsame.trans hdatabase.symm⟩

theorem Lineal.lineage {c : Corpus} (h : c.Lineal) {i : ℕ} {e : Entry}
    (he : c.entries[i]? = some e) : c.Lineage i e := by
  obtain ⟨hid, hstems⟩ := h i e he
  refine ⟨hid, ?_, ?_, h.exists_ancestor he⟩
  · intro hmutated
    cases hstems with
    | root horigin => simp [hmutated] at horigin
    | mutant p parent _ hparent hearlier hdatabase hrules =>
      rw [List.getElem?_take, Option.ite_none_right_eq_some] at hearlier
      obtain ⟨hp, hentry⟩ := hearlier
      exact ⟨p, parent, hp, hparent, hentry, hdatabase, hrules⟩
  · intro hother
    cases hstems with
    | root _ hparent => exact hparent
    | mutant _ _ hmutated => exact absurd hmutated hother

end Corpus

namespace Run

/-! ## Lineages in a run -/

/-- Workers count on one another to keep the lineages, and the entries. -/
def Rely.lineal (σ : Type) : Rely σ where
  allows _ := True
  moves c c' := c.Lineal → c'.Lineal ∧ c.entries <+: c'.entries
  refl _ h := ⟨h, List.prefix_rfl⟩
  trans h h' hc := ⟨(h' (h hc).1).1, (h hc).2.trans (h' (h hc).1).2⟩

namespace Fuzzer

variable {σ : Type} {f : Fuzzer σ}

/-- The mutants that were planned with a corpus stem from all that it became. -/
theorem Springs.stemsFrom {planned : Corpus} {index : ℕ} {x : Candidate}
    (h : f.Springs planned index x) (hplanned : planned.Lineal) :
    Corpus.StemsFrom planned.entries x := by
  cases h with
  | seed horigin hparent => exact .root (.inl horigin) hparent
  | generated db horigin hparent => exact .root (.inr horigin) hparent
  | mutated i e db he horigin hparent hdatabase hrules =>
    rw [(hplanned i e he).1] at hparent
    exact .mutant i e horigin hparent he hdatabase hrules

theorem offers_lineal {c : Corpus} (hc : c.Lineal) (index : ℕ) :
    f.Offers (.lineal σ) c index := by
  intro planned fresh now p db o hplanned hfresh hnow hp _ _ _ hlineal
  obtain ⟨hplanned, -⟩ := hplanned hc
  obtain ⟨hfresh, hgrown⟩ := hfresh hplanned
  obtain ⟨-, hgrown'⟩ := hnow hfresh
  have hstems := ((springs_of_producedFrom hp).stemsFrom hplanned).mono (hgrown.trans hgrown')
  exact ⟨hlineal.submit hstems _, now.entries_prefix_submit p.candidate _⟩

section Crew

variable {world : σ} {indices : Multiset ℕ} {crew : Crew σ}

theorem upholds_lineal
    (h : f.Reaches (fun _ => True) (.start ⟨.empty, world⟩ indices) crew) :
    Upholds f (.lineal σ) .empty (f.Course (.lineal σ) .empty) crew :=
  upholds_course (s := ⟨.empty, world⟩) trivial h fun index =>
    offers_lineal Corpus.lineal_empty index

theorem lineal_of_reaches
    (h : f.Reaches (fun _ => True) (.start ⟨.empty, world⟩ indices) crew) :
    crew.state.corpus.Lineal :=
  ((upholds_lineal h).moved Corpus.lineal_empty).1

/-! ## Who calls the corpus -/

theorem kind_eq_normal {kind : Oracle.VerdictKind} (h : kind.isBug = false) : kind = .normal := by
  cases kind
  case normal => rfl
  all_goals cases h

/-- A trial calls the corpus only if there is nothing wrong with its candidate. -/
theorem Course.callsOf_eq_zero {r : Rely σ} {c : Corpus} {index : ℕ} {deeds : List Deed}
    {result : Option Trial} (h : f.Course r c index deeds result)
    (hresult : ∀ t, result = some t → t.verdict ≠ some .normal) : callsOf deeds = 0 := by
  cases h with
  | offered p db o now hp hdb ho hnormal =>
    exact absurd (congrArg some (kind_eq_normal hnormal)) (hresult _ rfl)
  | _ => rfl

/-- Only a trial with nothing wrong leaves another corpus behind. -/
theorem Concludes.corpus_eq {index : ℕ} {c : Corpus} {out : Option Trial × State σ}
    (h : f.Concludes index c out) (hout : ∀ t, out.1 = some t → t.verdict ≠ some .normal) :
    out.2.corpus = c := by
  obtain ⟨_ | t, s⟩ := out
  · exact h
  · have hverdict : t.verdict ≠ some .normal := hout t rfl
    cases h with
    | unproduced | unplaced | failed | reported => rfl
    | admitted p o id c' _ _ hnormal =>
      exact absurd (congrArg some (kind_eq_normal hnormal)) hverdict
    | rejected p o c' _ _ hnormal =>
      exact absurd (congrArg some (kind_eq_normal hnormal)) hverdict

/-- Trials without a normal verdict leave the corpus as it was, by themselves and in a crew, where
the corpus is what the calls of the other trials make of it. In every corpus that can be reached,
each entry descends from a seed or a generated candidate for the same database. -/
theorem frame_and_lineage
    (h : f.Reaches (fun _ => True) (.start ⟨.empty, world⟩ indices) crew) :
    (∀ index s, (∀ t, (f.trial index s).1 = some t → t.verdict ≠ some .normal) →
      (f.trial index s).2.corpus = s.corpus) ∧
    (∀ e ∈ crew.ended, (∀ t, e.result = some t → t.verdict ≠ some .normal) →
      callsOf e.deeds = 0) ∧
    (∃ calls : List Corpus.Call, (calls : Multiset Corpus.Call) = crew.calls ∧
      crew.state.corpus = Corpus.after calls) ∧
    (∀ i e, crew.state.corpus.entries[i]? = some e → crew.state.corpus.Lineage i e) ∧
    ∀ i e, (f.run ⟨.empty, world⟩).2.corpus.entries[i]? = some e →
      (f.run ⟨.empty, world⟩).2.corpus.Lineage i e := by
  refine ⟨?_, ?_, (books_of_reaches h).2, ?_, ?_⟩
  · intro index s hresult
    exact (concludes_trial index s).corpus_eq hresult
  · intro e he hresult
    exact ((upholds_lineal h).ended e he).callsOf_eq_zero hresult
  · intro i e he
    exact (lineal_of_reaches h).lineage he
  · intro i e he
    obtain ⟨last, hreaches, hstate, -⟩ := f.exists_crew_run ⟨.empty, world⟩
    rw [← hstate] at he ⊢
    exact (lineal_of_reaches hreaches).lineage he

end Crew

/-- The run that is stopped: it admitted a candidate and reported another one. -/
theorem frame_and_lineage_stopping :
    ∃ crew, stopping.Reaches (fun _ => True) (.start ⟨.empty, 0⟩ (Multiset.range 3)) crew ∧
      (crew.ended.filterMap Ending.result).map (·.disposition) =
        [.admitted 0, .reported .crash none] ∧
      (∃ calls : List Corpus.Call, (calls : Multiset Corpus.Call) = crew.calls ∧
        crew.state.corpus = Corpus.after calls) ∧
      ∃ e, crew.state.corpus.entries[0]? = some e ∧ e.candidate.sql = "SELECT 1" ∧
        crew.state.corpus.Lineage 0 e := by
  obtain ⟨crew, hreaches, hstate, -, htrials⟩ := stopping.exists_crew_run ⟨.empty, 0⟩
  obtain ⟨-, -, hcalls, hlineage, -⟩ := frame_and_lineage hreaches
  have hdispositions : (stopping.run ⟨.empty, 0⟩).1.1.map (·.disposition) =
      [.admitted 0, .reported .crash none] := by
    decide +kernel
  have hfirst : ((stopping.run ⟨.empty, 0⟩).2.corpus.entries[0]?).map (·.candidate.sql) =
      some "SELECT 1" := by
    decide +kernel
  rw [← hstate] at hfirst
  obtain ⟨e, he, hsql⟩ := Option.map_eq_some_iff.1 hfirst
  exact ⟨crew, hreaches, by rw [htrials, hdispositions], hcalls, e, he, hsql, hlineage 0 e he⟩

end Fuzzer
end Run
end QueryFuzz
