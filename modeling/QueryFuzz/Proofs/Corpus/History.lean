import Mathlib.Data.List.Induction
import Mathlib.Data.List.Nodup
import Mathlib.Data.List.Perm.Subperm
import Mathlib.Data.Nat.Notation
import QueryFuzz.Corpus

/-!
# Histories of a corpus

A corpus is a function of the calls that were made to it. A rejected call leaves the frontier as it
is, since it covered nothing new, so the frontier counts the units of all calls and not only of
those that were admitted. Which call is admitted depends on the order; what has been covered, and
how often, does not.
-/

namespace QueryFuzz

open Coverage (Signature)

/-! ## Sets of names -/

namespace NameSet

theorem nodup (s : NameSet) : s.toList.Nodup := by
  refine s.ascending.imp fun {x y} hlt => ?_
  rintro rfl
  exact String.lt_irrefl x hlt

/-- Sets with the same members are equal, because both are listed in ascending order. -/
theorem ext {s t : NameSet} (h : ∀ x, x ∈ s ↔ x ∈ t) : s = t := by
  have hperm : s.toList.Perm t.toList := (List.perm_ext_iff_of_nodup s.nodup t.nodup).2 h
  have hlist : s.toList = t.toList :=
    hperm.eq_of_pairwise (fun _ _ _ _ h h' => absurd (String.lt_trans h h') (String.lt_irrefl _))
      s.ascending t.ascending
  cases s
  cases t
  cases hlist
  rfl

/-- A set grows when it is joined with one that has another member. -/
theorem size_lt_size_union {s t : NameSet} {x : String} (hs : x ∉ s) (ht : x ∈ t) :
    s.size < (s.union t).size := by
  have hnodup : (x :: s.toList).Nodup := List.nodup_cons.2 ⟨hs, s.nodup⟩
  have hsubset : x :: s.toList ⊆ (s.union t).toList := by
    intro y hy
    rcases List.mem_cons.1 hy with rfl | hy
    · exact mem_union.2 (.inr ht)
    · exact mem_union.2 (.inl hy)
  exact (hnodup.subperm hsubset).length_le

end NameSet

namespace Corpus

/-! ## One call -/

theorem getD_foldl_insert {names : List String} (hnodup : names.Nodup)
    (m : Std.HashMap String Nat) (u : String) :
    (names.foldl (fun m u => m.insert u (m.getD u 0 + 1)) m).getD u 0 =
      m.getD u 0 + if names.contains u then 1 else 0 := by
  induction names generalizing m with
  | nil => simp
  | cons name rest ih =>
    obtain ⟨hname, hrest⟩ := List.nodup_cons.1 hnodup
    rw [List.foldl_cons, ih hrest, Std.HashMap.getD_insert]
    by_cases h : name = u
    · subst h
      simp [hname]
    · simp [h, Ne.symm h]

/-- Counting an execution adds one to the hits of each of its units. -/
theorem hits_observe (c : Corpus) (s : Signature) (u : String) :
    (c.observe s).hits u = c.hits u + if s.units.contains u then 1 else 0 :=
  getD_foldl_insert s.units.nodup c.hitCounts u

/-- A call either covers a unit that no entry has, and then its candidate becomes the entry that
is numbered next, or it is counted only. -/
theorem submit_cases (c : Corpus) (candidate : Candidate) (s : Signature) :
    ((∃ u ∈ s.units, u ∉ c.frontier) ∧
      c.submit candidate s = (some c.size, { c.observe s with
        entries := c.entries ++ [⟨c.size, candidate, s⟩]
        frontier := c.frontier.union s.units })) ∨
    ((∀ u ∈ s.units, u ∈ c.frontier) ∧ c.submit candidate s = (none, c.observe s)) := by
  by_cases h : c.isNovel s = true
  · left
    constructor
    · obtain ⟨u, hu, hnew⟩ := List.any_eq_true.1 h
      exact ⟨u, hu, fun hmem => by simp [NameSet.contains_iff.2 hmem] at hnew⟩
    · simp [submit, offer, h]
  · right
    constructor
    · intro u hu
      by_contra hnew
      apply h
      refine List.any_eq_true.2 ⟨u, hu, ?_⟩
      rw [Bool.eq_false_iff.2 (fun hc => hnew (NameSet.contains_iff.1 hc)), Bool.not_false]
    · simp [submit, offer, h]

/-! ## Histories -/

/-- A candidate that is offered, and what its execution covered. -/
structure Call where
  candidate : Candidate
  signature : Signature

/-- Makes calls one after the other. Returns their answers, and the corpus behind them. -/
def submitAll (c : Corpus) : List Call → List (Option ℕ) × Corpus
  | [] => ([], c)
  | call :: rest =>
    let (answer, c) := c.submit call.candidate call.signature
    let (answers, c) := c.submitAll rest
    (answer :: answers, c)

/-- What a history of calls to an empty corpus was answered. -/
def answers (calls : List Call) : List (Option ℕ) := (empty.submitAll calls).1

/-- The corpus that a history of calls to an empty corpus leaves. -/
def after (calls : List Call) : Corpus := (empty.submitAll calls).2

theorem submitAll_concat (c : Corpus) (calls : List Call) (last : Call) :
    c.submitAll (calls ++ [last]) =
      let (answers, d) := c.submitAll calls
      let (answer, e) := d.submit last.candidate last.signature
      (answers ++ [answer], e) := by
  induction calls generalizing c with
  | nil => rfl
  | cons call rest ih =>
    simp only [List.cons_append, submitAll]
    rw [ih]

theorem submitAll_append (c : Corpus) (calls calls' : List Call) :
    (c.submitAll (calls ++ calls')).2 = ((c.submitAll calls).2.submitAll calls').2 := by
  induction calls generalizing c with
  | nil => rfl
  | cons call rest ih => exact ih _

/-- The entries that calls with these answers were given. -/
def admitted (calls : List Call) (answers : List (Option ℕ)) : List Entry :=
  (calls.zip answers).filterMap fun (call, answer) =>
    answer.map fun id => ⟨id, call.candidate, call.signature⟩

theorem admitted_concat {calls : List Call} {answers : List (Option ℕ)} (last : Call)
    (answer : Option ℕ) (h : answers.length = calls.length) :
    admitted (calls ++ [last]) (answers ++ [answer]) =
      admitted calls answers ++
        (answer.map fun id => ⟨id, last.candidate, last.signature⟩).toList := by
  unfold admitted
  rw [List.zip_append h.symm, List.filterMap_append]
  cases answer <;> rfl

/-- What a corpus and its answers have to do with the calls that were made to it. -/
structure Records (calls : List Call) (answers : List (Option ℕ)) (c : Corpus) : Prop where
  /-- Every call is answered. -/
  length_answers : answers.length = calls.length
  /-- A call is admitted if it has a unit that no call before it has. -/
  isSome_iff : ∀ k call, calls[k]? = some call →
    ((∃ id, answers[k]? = some (some id)) ↔
      ∃ u ∈ call.signature.units, ∀ before ∈ calls.take k, u ∉ before.signature.units)
  /-- The entries are the calls that were admitted, with the numbers they were given. -/
  entries_eq : c.entries = admitted calls answers
  /-- Their numbers are their positions, -/
  ids : c.entries.map (·.id) = List.range c.size
  /-- and are given out in this order. -/
  answered : answers.filterMap id = List.range c.size
  /-- The frontier holds the units of the entries, -/
  frontier_entries : ∀ u, u ∈ c.frontier ↔ ∃ e ∈ c.entries, u ∈ e.signature.units
  /-- which are those of all calls. -/
  frontier_calls : ∀ u, u ∈ c.frontier ↔ ∃ call ∈ calls, u ∈ call.signature.units
  grammarFrontier : ∀ r, r ∈ c.grammarFrontier ↔ ∃ call ∈ calls, r ∈ call.signature.rules
  hits : ∀ u, c.hits u = calls.countP fun call => call.signature.units.contains u
  /-- Each entry brought a unit of its own. -/
  size_le : c.size ≤ c.frontier.size

theorem records_empty : Records [] [] empty where
  length_answers := rfl
  isSome_iff := by simp
  entries_eq := rfl
  ids := rfl
  answered := rfl
  frontier_entries u := by simp [empty]
  frontier_calls u := by simp [empty]
  grammarFrontier r := by simp [empty]
  hits u := by simp [hits, empty]
  size_le := Nat.zero_le _

section Step

variable {calls : List Call} {answers : List (Option ℕ)} {c : Corpus}

/-- The answer to one more call, told from the calls before it. -/
theorem Records.isSome_concat (h : Records calls answers c) {last : Call} {answer : Option ℕ}
    (hlast : (∃ id, answer = some id) ↔ ∃ u ∈ last.signature.units, u ∉ c.frontier) (k : ℕ)
    (call : Call) (hcall : (calls ++ [last])[k]? = some call) :
    (∃ id, (answers ++ [answer])[k]? = some (some id)) ↔
      ∃ u ∈ call.signature.units, ∀ before ∈ (calls ++ [last]).take k,
        u ∉ before.signature.units := by
  have hlength := h.length_answers
  by_cases hk : k < calls.length
  · rw [List.getElem?_append_left hk] at hcall
    rw [List.getElem?_append_left (by omega), List.take_append_of_le_length (by omega)]
    exact h.isSome_iff k call hcall
  · have hkl : k = calls.length := by
      have := (List.getElem?_eq_some_iff.1 hcall).1
      simp only [List.length_append, List.length_singleton] at this
      omega
    subst hkl
    rw [List.getElem?_concat_length, Option.some.injEq] at hcall
    subst hcall
    have hanswer : (answers ++ [answer])[calls.length]? = some answer := by
      rw [← hlength, List.getElem?_concat_length]
    rw [hanswer, List.take_left]
    simp only [Option.some.injEq]
    rw [hlast]
    constructor
    · rintro ⟨u, hu, hnew⟩
      exact ⟨u, hu, fun before hbefore hmem =>
        hnew ((h.frontier_calls u).2 ⟨before, hbefore, hmem⟩)⟩
    · rintro ⟨u, hu, hnew⟩
      refine ⟨u, hu, fun hmem => ?_⟩
      obtain ⟨before, hbefore, hmem⟩ := (h.frontier_calls u).1 hmem
      exact hnew before hbefore hmem

theorem Records.hits_concat (h : Records calls answers c) (last : Call) (u : String) :
    (c.observe last.signature).hits u =
      (calls ++ [last]).countP fun call => call.signature.units.contains u := by
  rw [hits_observe, h.hits, List.countP_append, List.countP_singleton]

theorem Records.grammarFrontier_concat (h : Records calls answers c) (last : Call) (r : String) :
    r ∈ (c.observe last.signature).grammarFrontier ↔
      ∃ call ∈ calls ++ [last], r ∈ call.signature.rules := by
  have hobserve : r ∈ (c.observe last.signature).grammarFrontier ↔
      r ∈ c.grammarFrontier ∨ r ∈ last.signature.rules := NameSet.mem_union
  rw [hobserve, h.grammarFrontier]
  simp [or_and_right, exists_or]

/-- A call that is admitted: its units join the frontier, and it is the last entry. -/
theorem Records.accept (h : Records calls answers c) (last : Call) {v : String}
    (hv : v ∈ last.signature.units) (hnew : v ∉ c.frontier) :
    Records (calls ++ [last]) (answers ++ [some c.size]) { c.observe last.signature with
      entries := c.entries ++ [⟨c.size, last.candidate, last.signature⟩]
      frontier := c.frontier.union last.signature.units } := by
  have hsize : ({ c.observe last.signature with
      entries := c.entries ++ [⟨c.size, last.candidate, last.signature⟩]
      frontier := c.frontier.union last.signature.units } : Corpus).size = c.size + 1 :=
    List.length_append
  constructor
  case length_answers => simp [h.length_answers]
  case isSome_iff => exact h.isSome_concat ⟨fun _ => ⟨v, hv, hnew⟩, fun _ => ⟨_, rfl⟩⟩
  case entries_eq =>
    rw [admitted_concat _ _ h.length_answers, ← h.entries_eq]
    rfl
  case ids =>
    rw [hsize, List.range_succ, ← h.ids]
    exact List.map_append
  case answered =>
    rw [hsize, List.range_succ, ← h.answered, List.filterMap_append]
    rfl
  case frontier_entries =>
    intro u
    simp [h.frontier_entries, or_and_right, exists_or]
  case frontier_calls =>
    intro u
    simp [h.frontier_calls, or_and_right, exists_or]
  case grammarFrontier => exact h.grammarFrontier_concat last
  case hits => exact h.hits_concat last
  case size_le =>
    rw [hsize]
    exact Nat.lt_of_le_of_lt h.size_le (NameSet.size_lt_size_union hnew hv)

/-- A call that is rejected: all that it covered is in the frontier already. -/
theorem Records.reject (h : Records calls answers c) (last : Call)
    (hold : ∀ u ∈ last.signature.units, u ∈ c.frontier) :
    Records (calls ++ [last]) (answers ++ [none]) (c.observe last.signature) := by
  constructor
  case length_answers => simp [h.length_answers]
  case isSome_iff =>
    apply h.isSome_concat
    constructor
    · rintro ⟨_, h⟩
      cases h
    · rintro ⟨u, hu, hnew⟩
      exact absurd (hold u hu) hnew
  case entries_eq =>
    rw [admitted_concat _ _ h.length_answers, ← h.entries_eq]
    exact (List.append_nil _).symm
  case ids => exact h.ids
  case answered =>
    rw [List.filterMap_append, h.answered]
    exact List.append_nil _
  case frontier_entries => exact h.frontier_entries
  case frontier_calls =>
    intro u
    have hobserve : u ∈ (c.observe last.signature).frontier ↔ u ∈ c.frontier := Iff.rfl
    rw [hobserve, h.frontier_calls]
    constructor
    · rintro ⟨call, hcall, hu⟩
      exact ⟨call, List.mem_append_left _ hcall, hu⟩
    · rintro ⟨call, hcall, hu⟩
      rcases List.mem_append.1 hcall with hcall | hcall
      · exact ⟨call, hcall, hu⟩
      · rw [List.mem_singleton.1 hcall] at hu
        exact (h.frontier_calls u).1 (hold u hu)
  case grammarFrontier => exact h.grammarFrontier_concat last
  case hits => exact h.hits_concat last
  case size_le => exact h.size_le

/-- One more call. -/
theorem Records.submit (h : Records calls answers c) (last : Call) :
    Records (calls ++ [last]) (answers ++ [(c.submit last.candidate last.signature).1])
      (c.submit last.candidate last.signature).2 := by
  rcases c.submit_cases last.candidate last.signature with ⟨⟨v, hv, hnew⟩, heq⟩ | ⟨hold, heq⟩
  · rw [heq]
    exact h.accept last hv hnew
  · rw [heq]
    exact h.reject last hold

end Step

/-- A corpus that was empty keeps the records of all calls to it. -/
theorem records_after (calls : List Call) : Records calls (answers calls) (after calls) := by
  induction calls using List.reverseRecOn with
  | nil => exact records_empty
  | append_singleton calls last ih =>
    have hconcat := submitAll_concat empty calls last
    unfold answers after
    rw [hconcat]
    exact ih.submit last

/-! ## Entries and their hits -/

section Entries

variable {calls : List Call} {answers : List (Option ℕ)} {c : Corpus}

/-- An entry covered something, and each execution that covered a unit counts. -/
theorem Records.one_le_hits (h : Records calls answers c) {e : Entry} (he : e ∈ c.entries)
    {u : String} (hu : u ∈ e.signature.units) : 1 ≤ c.hits u := by
  obtain ⟨call, hcall, hu⟩ := (h.frontier_calls u).1 ((h.frontier_entries u).2 ⟨e, he, hu⟩)
  rw [h.hits]
  exact List.countP_pos_iff.2 ⟨call, hcall, NameSet.contains_iff.2 hu⟩

/-- No entry is without units. -/
theorem Records.exists_unit (h : Records calls answers c) {e : Entry} (he : e ∈ c.entries) :
    ∃ u, u ∈ e.signature.units := by
  rw [h.entries_eq] at he
  obtain ⟨⟨call, answer⟩, hzip, hentry⟩ := List.mem_filterMap.1 he
  obtain ⟨id, rfl, rfl⟩ := Option.map_eq_some_iff.1 hentry
  obtain ⟨k, hk⟩ := List.getElem?_of_mem hzip
  obtain ⟨hcall, hanswer⟩ := List.getElem?_zip_eq_some.1 hk
  obtain ⟨u, hu, -⟩ := (h.isSome_iff k call hcall).1 ⟨id, hanswer⟩
  exact ⟨u, hu⟩

/-- The rarest hits of an entry are the least of the hits of its units. The bound and the default
that the computation has for an entry without units are not needed. -/
theorem Records.rarestHits_eq (h : Records calls answers c) {i : ℕ} {e : Entry}
    (he : c.entries[i]? = some e) :
    ∃ u ∈ e.signature.units, c.rarestHits i = .ok (c.hits u) ∧ 1 ≤ c.hits u ∧
      ∀ v ∈ e.signature.units, c.hits u ≤ c.hits v := by
  have hmem : e ∈ c.entries := List.mem_of_getElem? he
  obtain ⟨w, hw⟩ := h.exists_unit hmem
  have hsome : (e.signature.units.toList.map c.hits).min?.isSome := by
    rw [List.isSome_min?_iff]
    exact List.ne_nil_of_mem (List.mem_map_of_mem hw)
  obtain ⟨least, hleast⟩ := Option.isSome_iff_exists.1 hsome
  obtain ⟨hmin, hle⟩ := List.min?_eq_some_iff.1 hleast
  obtain ⟨u, hu, rfl⟩ := List.mem_map.1 hmin
  have hone := h.one_le_hits hmem hu
  refine ⟨u, hu, ?_, hone, fun v hv => hle _ (List.mem_map_of_mem hv)⟩
  unfold rarestHits get
  rw [he]
  simp only [Except.map, hleast, Option.getD_some, Nat.max_eq_left hone]

end Entries

/-! ## Any order -/

/-- What has been covered, and how often, does not depend on the order of the calls. -/
theorem after_perm {calls other : List Call} (h : calls.Perm other) :
    (after calls).frontier = (after other).frontier ∧
      (after calls).grammarFrontier = (after other).grammarFrontier ∧
      (after calls).hits = (after other).hits := by
  have hcalls := records_after calls
  have hother := records_after other
  refine ⟨NameSet.ext fun u => ?_, NameSet.ext fun r => ?_, funext fun u => ?_⟩
  · rw [hcalls.frontier_calls, hother.frontier_calls]
    simp only [h.mem_iff]
  · rw [hcalls.grammarFrontier, hother.grammarFrontier]
    simp only [h.mem_iff]
  · rw [hcalls.hits, hother.hits, h.countP_eq]

/-- The law of the corpus, for every history of calls to an empty one. -/
theorem history_law (calls : List Call) :
    Records calls (answers calls) (after calls) ∧
      (∀ i e, (after calls).entries[i]? = some e →
        (after calls).get i = .ok e ∧ e.id = i ∧
        ∃ u ∈ e.signature.units, (after calls).rarestHits i = .ok ((after calls).hits u) ∧
          1 ≤ (after calls).hits u ∧
          ∀ v ∈ e.signature.units, (after calls).hits u ≤ (after calls).hits v) ∧
      ∀ other, calls.Perm other →
        (after calls).frontier = (after other).frontier ∧
        (after calls).grammarFrontier = (after other).grammarFrontier ∧
        (after calls).hits = (after other).hits := by
  have hrecords := records_after calls
  refine ⟨hrecords, fun i e he => ⟨?_, ?_, hrecords.rarestHits_eq he⟩, fun other => after_perm⟩
  · unfold get
    rw [he]
  · have hid : ((after calls).entries.map (·.id))[i]? = some e.id := by
      rw [List.getElem?_map, he]
      rfl
    rw [hrecords.ids] at hid
    obtain ⟨_, hid⟩ := List.getElem?_eq_some_iff.1 hid
    rw [← hid, List.getElem_range]

/-- Three calls and the same calls backwards: other calls are admitted, and what is covered is the
same. -/
theorem history_law_backwards :
    let offered (id : ℕ) (units : List String) : Call :=
      ⟨⟨"SELECT 1", 0, .empty, .seed, none, [], 0, id, []⟩, .ofUnits units⟩
    let calls := [offered 0 ["a", "b"], offered 1 ["a"], offered 2 ["b", "c"]]
    answers calls = [some 0, none, some 1] ∧ answers calls.reverse = [some 0, some 1, none] ∧
      calls.Perm calls.reverse ∧ (after calls).frontier = (after calls.reverse).frontier ∧
      ∃ e, (after calls).entries[1]? = some e ∧ e.id = 1 ∧
        (after calls).rarestHits 1 = .ok 1 ∧ (after calls.reverse).hits "b" = 2 := by
  intro offered calls
  obtain ⟨hrecords, hentries, hperm⟩ := history_law calls
  have hreverse : calls.Perm calls.reverse := (List.reverse_perm calls).symm
  obtain ⟨hfrontier, -, hhits⟩ := hperm _ hreverse
  have hentry : (after calls).entries[1]? =
      some ⟨1, (offered 2 []).candidate, .ofUnits ["b", "c"]⟩ := by
    rw [hrecords.entries_eq]
    rfl
  obtain ⟨-, hid, u, -, hrarest, hone, hleast⟩ := hentries 1 _ hentry
  have hb : (after calls).hits "b" = 2 := hrecords.hits "b"
  have hc : (after calls).hits "c" = 1 := hrecords.hits "c"
  have hu : (after calls).hits u = 1 := by
    have hle := hleast "c" (NameSet.mem_ofList.2 (by simp))
    omega
  rw [hu] at hrarest
  exact ⟨by decide, by decide, hreverse, hfrontier, _, hentry, hid, hrarest,
    (congrFun hhits "b").symm.trans hb⟩

end Corpus
end QueryFuzz
