import QueryFuzz.Proofs.Sql.Extents

/-!
# Where clauses lie

The clauses of a statement are read off its tokens: the head and the clauses of each kind begin
where their words stand outside all parentheses, and each reaches to the next clause.
-/

namespace QueryFuzz
namespace Sql

/-! ## Starts -/

section Starts

variable {k : StatementKind} {inCompound : Bool} {index d m : ℕ} {t : Token} {ts : List Token}

theorem kind_of_clauseAt? {after : Option Token} {kind : ClauseKind}
    (h : clauseAt? k inCompound t after = some kind) : t.kind = .keyword :=
  kind_of_isAnyOf (isAnyOf_of_clauseAt? h)

/-- Words of clauses are neither join modifiers nor `BY`. -/
theorem isAnyOf_of_clauseAt?_eq_false {after : Option Token} {kind : ClauseKind}
    (h : clauseAt? k inCompound t after = some kind) {words : List String}
    (hwords : ∀ word ∈ clauseWords false, word ∉ words) : t.isAnyOf words = false :=
  isAnyOf_eq_false (isAnyOf_of_clauseAt? (isSome_clauseAt? h)) hwords

theorem modifier_of_clauseAt? {after : Option Token} {kind : ClauseKind}
    (h : clauseAt? k inCompound t after = some kind) : isJoinModifier t = false :=
  isAnyOf_of_clauseAt?_eq_false h (by decide)

/-- The modifiers that are counted end the part, and no further one is in front of them. -/
theorem exists_modifiers (ts : List Token) :
    ∃ X modifiers, ts = X ++ modifiers ∧ modifiers.length = modifiersBehind 0 ts ∧
      (∀ t ∈ modifiers, isJoinModifier t) ∧ X.getLast?.all (!isJoinModifier ·) := by
  induction ts using List.reverseRecOn with
  | nil => exact ⟨[], [], rfl, rfl, by simp, rfl⟩
  | append_singleton ts t ih =>
    have hcount : modifiersBehind 0 (ts ++ [t]) =
        if isJoinModifier t then modifiersBehind 0 ts + 1 else 0 := by
      rw [modifiersBehind, List.foldl_append]
      rfl
    by_cases ht : isJoinModifier t
    · obtain ⟨X, modifiers, rfl, hlength, hall, hlast⟩ := ih
      refine ⟨X, modifiers ++ [t], by rw [List.append_assoc], ?_, ?_, hlast⟩
      · rw [hcount, if_pos ht, List.length_append, hlength]
        rfl
      · intro u hu
        rcases List.mem_append.1 hu with hu | hu
        · exact hall u hu
        · obtain rfl := List.mem_singleton.1 hu
          exact ht
    · refine ⟨ts ++ [t], [], by rw [List.append_nil], ?_, by simp, by simp [ht]⟩
      rw [hcount, if_neg ht]
      rfl

/-- The clause that begins at a token outside all parentheses. -/
def foundAt (k : StatementKind) (inCompound : Bool) (d : ℕ) (t : Token) (rest : List Token) :
    Option ClauseKind :=
  if d = 0 then clauseAt? k inCompound t rest.head? else none

/-- The entry of a clause: a join begins at its modifiers. -/
def startEntry (index m : ℕ) (kind : ClauseKind) : ℕ × ClauseKind :=
  (index - if kind = .join then m else 0, kind)

theorem clauseStarts_cons :
    clauseStarts k index d m inCompound (t :: ts) =
      ((foundAt k inCompound d t ts).map (startEntry index m)).toList ++
        clauseStarts k (index + 1) (depthPast d t) (if isJoinModifier t then m + 1 else 0)
          (compoundPast inCompound (foundAt k inCompound d t ts)) ts := by
  rw [clauseStarts]
  unfold foundAt
  cases (if d = 0 then clauseAt? k inCompound t ts.head? else none) with
  | none => rfl
  | some kind =>
    cases kind <;> rfl

/-- Behind any tokens the search goes on, with what it has counted on the way. -/
theorem exists_clauseStarts_append (X Y : List Token) :
    ∃ before inCompound', clauseStarts k index d m inCompound (X ++ Y) = before ++
      clauseStarts k (index + X.length) (depthBehind d X) (modifiersBehind m X) inCompound' Y := by
  induction X generalizing index d m inCompound with
  | nil => exact ⟨[], inCompound, rfl⟩
  | cons t X ih =>
    obtain ⟨before, inCompound', h⟩ := @ih
      (compoundPast inCompound (foundAt k inCompound d t (X ++ Y))) (index + 1) (depthPast d t)
      (if isJoinModifier t then m + 1 else 0)
    rw [List.cons_append, clauseStarts_cons, h, ← List.append_assoc]
    refine ⟨((foundAt k inCompound d t (X ++ Y)).map (startEntry index m)).toList ++ before,
      inCompound', ?_⟩
    rw [List.length_cons, Nat.add_right_comm, Nat.add_assoc]
    rfl

/-- A clause of this kind starts at `p`, and these clauses start behind it. -/
structure FoundIn (k : StatementKind) (index d m : ℕ) (ts : List Token) (p : ℕ)
    (kind : ClauseKind) (more : List (ℕ × ClauseKind)) : Prop where
  exists_split : ∃ X t Z inCompound, ts = X ++ t :: Z ∧ depthBehind d X = 0 ∧
    clauseAt? k inCompound t Z.head? = some kind ∧
    (p, kind) = startEntry (index + X.length) (modifiersBehind m X) kind ∧
    more = clauseStarts k (index + X.length + 1) 0 0 (compoundPast inCompound (some kind)) Z

variable {p : ℕ} {kind : ClauseKind} {before more : List (ℕ × ClauseKind)}

theorem FoundIn.cons (h : FoundIn k (index + 1) (depthPast d t)
    (if isJoinModifier t then m + 1 else 0) ts p kind more) :
    FoundIn k index d m (t :: ts) p kind more := by
  obtain ⟨X, u, Z, inCompound, rfl, hX, hclause, hp, hmore⟩ := h
  refine ⟨t :: X, u, Z, inCompound, rfl, hX, hclause, ?_, ?_⟩
  · rw [hp, List.length_cons, Nat.add_right_comm, Nat.add_assoc]
    rfl
  · rw [hmore, List.length_cons, Nat.add_right_comm index, Nat.add_assoc index]

/-- Each start that is found is that of a clause at some token. -/
theorem foundIn_of_clauseStarts
    (h : clauseStarts k index d m inCompound ts = before ++ (p, kind) :: more) :
    FoundIn k index d m ts p kind more := by
  induction ts generalizing index d m inCompound before with
  | nil =>
    rw [clauseStarts] at h
    simp at h
  | cons t ts ih =>
    rw [clauseStarts_cons] at h
    cases hfound : foundAt k inCompound d t ts with
    | none =>
      rw [hfound] at h
      exact (ih h).cons
    | some kind' =>
      rw [hfound, Option.map_some, Option.toList_some, List.singleton_append] at h
      cases before with
      | cons entry before => exact (ih (List.cons.inj h).2).cons
      | nil =>
        obtain ⟨hentry, hmore⟩ := List.cons.inj h
        obtain rfl : kind' = kind := (Prod.mk.inj hentry).2
        unfold foundAt at hfound
        split_ifs at hfound with hd
        obtain rfl := hd
        refine ⟨[], t, ts, inCompound, rfl, rfl, hfound, hentry.symm, ?_⟩
        rw [modifier_of_clauseAt? hfound, depthPast_of_keyword (kind_of_clauseAt? hfound)] at hmore
        exact hmore.symm

theorem le_of_mem_clauseStarts {entry : ℕ × ClauseKind}
    (h : entry ∈ clauseStarts k index d m inCompound ts) : index - m ≤ entry.1 := by
  induction ts generalizing index d m inCompound with
  | nil => cases h
  | cons t ts ih =>
    rw [clauseStarts_cons, List.mem_append] at h
    rcases h with h | h
    · obtain ⟨kind, -, rfl⟩ := Option.map_eq_some_iff.1 (Option.mem_toList.1 h)
      dsimp only [startEntry]
      split_ifs <;> omega
    · have hle := ih h
      split_ifs at hle <;> omega

/-- Every clause starts at a token. -/
theorem lt_of_mem_clauseStarts {entry : ℕ × ClauseKind}
    (h : entry ∈ clauseStarts k index d m inCompound ts) : entry.1 < index + ts.length := by
  obtain ⟨before, more, hstarts⟩ := List.append_of_mem h
  obtain ⟨X, t, Z, -, rfl, -, -, hp, -⟩ := foundIn_of_clauseStarts hstarts
  rw [(Prod.mk.inj hp).1, List.length_append, List.length_cons]
  omega

/-- Clauses are found in order. -/
theorem pairwise_clauseStarts :
    (clauseStarts k index d m inCompound ts).Pairwise (·.1 ≤ ·.1) := by
  induction ts generalizing index d m inCompound with
  | nil => exact .nil
  | cons t ts ih =>
    rw [clauseStarts_cons]
    cases hfound : foundAt k inCompound d t ts with
    | none => exact ih
    | some kind =>
      unfold foundAt at hfound
      split_ifs at hfound
      refine List.pairwise_cons.2 ⟨fun entry hentry => ?_, ih⟩
      have hle := le_of_mem_clauseStarts hentry
      rw [modifier_of_clauseAt? hfound, if_neg Bool.false_ne_true] at hle
      dsimp only [startEntry]
      omega

/-- Where the first of some clauses starts. -/
def nextStart (stop : ℕ) (starts : List (ℕ × ClauseKind)) : ℕ :=
  (starts.head?.map (·.1)).getD stop

/-- What is found here starts here, or at the modifiers in front of it. -/
theorem start_of_foundAt (h : foundAt k false 0 t ts = some kind) :
    (startEntry index m kind).1 =
      if joinAhead (t :: ts) then index - m else index + (clauseRest k 0 (t :: ts)).length := by
  rw [foundAt, if_pos rfl] at h
  rw [startEntry, joinAhead, modifier_of_clauseAt? h, Bool.false_and, Bool.or_false]
  dsimp only
  by_cases hjoin : t.isWord "JOIN"
  · have hkind : kind = .join := by
      rw [clauseAt?_join_iff.2 hjoin] at h
      exact (Option.some.inj h).symm
    rw [if_pos hkind, if_pos hjoin]
  · have hkind : kind ≠ .join := by
      rintro rfl
      exact hjoin (clauseAt?_join_iff.1 h)
    have hahead : clauseAhead k (t :: ts) := by
      rw [clauseAhead, h]
      rfl
    rw [if_neg hkind, if_neg hjoin, clauseRest_of_ahead hahead]
    rfl

/-- Where no clause is found, only the modifiers of a join can begin one. -/
theorem ahead_of_foundAt (h : foundAt k false 0 t ts = none) :
    joinAhead (t :: ts) = (isJoinModifier t && joinAhead ts) ∧
      clauseAhead k (t :: ts) = (isJoinModifier t && joinAhead ts) := by
  rw [foundAt, if_pos rfl] at h
  have hword : t.isWord "JOIN" = false := by
    by_contra hword
    rw [clauseAt?_join_iff.2 (Bool.eq_true_of_not_eq_false hword)] at h
    cases h
  have hjoin : joinAhead (t :: ts) = (isJoinModifier t && joinAhead ts) := by
    rw [joinAhead, hword, Bool.false_or]
  refine ⟨hjoin, ?_⟩
  rw [clauseAhead, h, hjoin]
  rfl

/-- The next clause starts behind the rest of this one, or at the modifiers in front of it. -/
theorem nextStart_clauseStarts :
    nextStart (index + ts.length) (clauseStarts k index d m false ts) =
      if d = 0 ∧ joinAhead ts then index - m else index + (clauseRest k d ts).length := by
  induction ts generalizing index d m with
  | nil => simp [clauseStarts, nextStart, joinAhead, clauseRest]
  | cons t ts ih =>
    rw [clauseStarts_cons]
    cases hfound : foundAt k false d t ts with
    | some kind =>
      have hd : d = 0 := by
        by_contra hd
        rw [foundAt, if_neg hd] at hfound
        cases hfound
      subst hd
      simp only [true_and]
      exact start_of_foundAt hfound
    | none =>
      have hahead : d = 0 → joinAhead (t :: ts) = (isJoinModifier t && joinAhead ts) ∧
          clauseAhead k (t :: ts) = (isJoinModifier t && joinAhead ts) := by
        rintro rfl
        exact ahead_of_foundAt hfound
      have hstep := @ih (index + 1) (depthPast d t) (if isJoinModifier t then m + 1 else 0)
      have hlength : index + (t :: ts).length = index + 1 + ts.length := by
        rw [List.length_cons]
        omega
      rw [Option.map_none, Option.toList_none, List.nil_append, hlength]
      refine hstep.trans ?_
      rw [clauseRest]
      by_cases ht : isJoinModifier t
      · have hiff : (d = 0 ∧ joinAhead (t :: ts) ↔ d = 0 ∧ joinAhead ts) ∧
            (d = 0 ∧ clauseAhead k (t :: ts) ↔ d = 0 ∧ joinAhead ts) := by
          constructor <;> refine and_congr_right fun hd => ?_
          · rw [(hahead hd).1, ht, Bool.true_and]
          · rw [(hahead hd).2, ht, Bool.true_and]
        rw [if_pos ht, depthPast_of_keyword (kind_of_isAnyOf ht)]
        simp only [hiff.1, hiff.2]
        split_ifs
        · omega
        · rw [List.length_cons]
          omega
      · have hnone : ¬(d = 0 ∧ joinAhead (t :: ts)) ∧ ¬(d = 0 ∧ clauseAhead k (t :: ts)) := by
          constructor <;> rintro ⟨hd, hjoin⟩
          · simp [(hahead hd).1, ht] at hjoin
          · simp [(hahead hd).2, ht] at hjoin
        rw [if_neg ht, if_neg hnone.1, if_neg hnone.2, List.length_cons]
        split_ifs with hjoin
        · rw [hjoin.1, clauseRest_of_ahead (clauseAhead_of_join hjoin.2), List.length_nil]
          omega
        · omega

/-- Behind a token that is no modifier, it starts behind the rest of the clause. -/
theorem nextStart_eq (k : StatementKind) (index d : ℕ) (ts : List Token) :
    nextStart (index + ts.length) (clauseStarts k index d 0 false ts) =
      index + (clauseRest k d ts).length := by
  rw [nextStart_clauseStarts]
  split_ifs with h
  · rw [h.1, clauseRest_of_ahead (clauseAhead_of_join h.2)]
    rfl
  · rfl

end Starts

/-! ## Boundaries -/

/-- The text splits here into what is in front of a clause, or of the end, and what is not. -/
structure IsBoundary (k : StatementKind) (d : ℕ) (X Y : List Token) : Prop where
  closed : depthBehind d X = 0
  rest : clauseRest k 0 Y = []
  notBy : byAhead Y = false
  whole : joinAhead Y → X.getLast?.all (!isJoinModifier ·)

theorem depthBehind_of_keyword {ts : List Token} (h : ∀ t ∈ ts, t.kind = .keyword) (d : ℕ) :
    depthBehind d ts = d := by
  induction ts generalizing d with
  | nil => rfl
  | cons t ts ih =>
    obtain ⟨ht, hts⟩ := List.forall_mem_cons.1 h
    rw [depthBehind_cons, depthPast_of_keyword ht, ih hts]

theorem joinAhead_modifiers {modifiers Z : List Token} {t : Token} (ht : t.isWord "JOIN")
    (h : ∀ u ∈ modifiers, isJoinModifier u) : joinAhead (modifiers ++ t :: Z) := by
  induction modifiers with
  | nil =>
    rw [List.nil_append, joinAhead, ht]
    rfl
  | cons u modifiers ih =>
    obtain ⟨hu, hmodifiers⟩ := List.forall_mem_cons.1 h
    rw [List.cons_append, joinAhead, hu, ih hmodifiers]
    exact Bool.or_true _

/-- The text splits where a clause is found. -/
theorem FoundIn.exists_boundary {k : StatementKind} {d p : ℕ} {ts : List Token} {kind : ClauseKind}
    {more : List (ℕ × ClauseKind)} (h : FoundIn k 1 d 0 ts p kind more) :
    ∃ X Y, ts = X ++ Y ∧ p = 1 + X.length ∧ IsBoundary k d X Y := by
  obtain ⟨X, t, Z, inCompound, rfl, hX, hclause, hp, -⟩ := h
  have hp : p = 1 + X.length - if kind = .join then modifiersBehind 0 X else 0 :=
    (Prod.mk.inj hp).1
  have hfound := isSome_clauseAt? hclause
  have hby : t.isWord "BY" = false := isAnyOf_of_clauseAt?_eq_false hclause (by decide)
  by_cases hkind : kind = .join
  · subst hkind
    have hword := clauseAt?_join_iff.1 hfound
    obtain ⟨X', modifiers, rfl, hlength, hall, hlast⟩ := exists_modifiers X
    have hjoin := joinAhead_modifiers (Z := Z) hword hall
    refine ⟨X', modifiers ++ t :: Z, List.append_assoc _ _ _, ?_, ?_, ?_, ?_, fun _ => hlast⟩
    · rw [hp, if_pos rfl, ← hlength, List.length_append]
      omega
    · rwa [depthBehind_append,
        depthBehind_of_keyword fun u hu => kind_of_isAnyOf (hall u hu)] at hX
    · exact clauseRest_of_ahead (clauseAhead_of_join hjoin)
    · cases modifiers with
      | nil => exact hby
      | cons u modifiers => exact isAnyOf_eq_false (hall u List.mem_cons_self) (by decide)
  · refine ⟨X, t :: Z, rfl, by rw [hp, if_neg hkind, Nat.sub_zero], hX, ?_, hby, ?_⟩
    · refine clauseRest_of_ahead ?_
      rw [clauseAhead, hfound]
      rfl
    · intro hjoin
      have hword : t.isWord "JOIN" = false := by
        by_contra hword
        rw [clauseAt?_join_iff.2 (Bool.eq_true_of_not_eq_false hword)] at hfound
        exact hkind (Option.some.inj hfound).symm
      rw [joinAhead, hword, modifier_of_clauseAt? hclause] at hjoin
      cases hjoin

/-! ## Clauses of a statement -/

theorem clausesUpTo_cons (stop start : ℕ) (kind : ClauseKind) (more : List (ℕ × ClauseKind)) :
    clausesUpTo stop ((start, kind) :: more) =
      (if start < nextStart stop more then [⟨kind, ⟨start, nextStart stop more⟩⟩] else []) ++
        clausesUpTo stop more := by
  cases more with
  | nil =>
    rw [clausesUpTo, clausesUpTo, List.append_nil]
    rfl
  | cons next more =>
    obtain ⟨next, kind'⟩ := next
    have hnext : nextStart stop ((next, kind') :: more) = next := rfl
    rw [clausesUpTo, hnext]
    split_ifs <;> rfl

theorem mem_clausesUpTo_iff {stop : ℕ} {starts : List (ℕ × ClauseKind)} {c : Clause} :
    c ∈ clausesUpTo stop starts ↔ ∃ before more,
      starts = before ++ (c.span.start, c.kind) :: more ∧ c.span.stop = nextStart stop more ∧
        c.span.start < c.span.stop := by
  induction starts with
  | nil => simp [clausesUpTo]
  | cons entry starts ih =>
    obtain ⟨start, kind⟩ := entry
    rw [clausesUpTo_cons, List.mem_append, ih]
    constructor
    · rintro (h | ⟨before, more, rfl, hstop⟩)
      · split_ifs at h with hlt
        · obtain rfl := List.mem_singleton.1 h
          exact ⟨[], starts, rfl, rfl, hlt⟩
        · cases h
      · exact ⟨(start, kind) :: before, more, rfl, hstop⟩
    · rintro ⟨before, more, hstarts, hstop, hlt⟩
      cases before with
      | nil =>
        obtain ⟨hentry, rfl⟩ := List.cons.inj hstarts
        obtain ⟨rfl, rfl⟩ := Prod.mk.inj hentry
        rw [hstop] at hlt
        rw [if_pos hlt, ← hstop]
        exact .inl (List.mem_singleton.2 rfl)
      | cons entry before => exact .inr ⟨before, more, (List.cons.inj hstarts).2, hstop, hlt⟩

theorem sublist_clausesUpTo (stop : ℕ) (starts : List (ℕ × ClauseKind)) :
    ((clausesUpTo stop starts).map fun c => (c.span.start, c.kind)).Sublist starts := by
  induction starts with
  | nil => exact .slnil
  | cons entry starts ih =>
    obtain ⟨start, kind⟩ := entry
    rw [clausesUpTo_cons]
    split_ifs
    · exact ih.cons_cons (start, kind)
    · exact ih.cons (start, kind)

namespace Statement

variable {s : Statement} {t₀ : Token} {rest : List Token} {c : Clause}

theorem clauses_eq_clausesUpTo (htokens : s.tokens = t₀ :: rest) :
    s.clauses = clausesUpTo (1 + rest.length)
      ((0, .head) :: clauseStarts s.kind 1 (depthPast 0 t₀) 0 false rest) := by
  unfold clauses
  rw [htokens, List.length_cons, Nat.add_comm]

/-- The clauses of a statement stand in order. -/
theorem pairwise_clauses (s : Statement) :
    s.clauses.Pairwise fun c c' => c.span.start ≤ c'.span.start := by
  obtain ⟨t₀, rest, htokens⟩ := List.exists_cons_of_ne_nil s.tokens_ne_nil
  rw [clauses_eq_clausesUpTo htokens]
  have hstarts : ((0, ClauseKind.head) :: clauseStarts s.kind 1 (depthPast 0 t₀) 0 false
      rest).Pairwise (·.1 ≤ ·.1) :=
    List.pairwise_cons.2 ⟨fun _ _ => Nat.zero_le _, pairwise_clauseStarts⟩
  have hsorted := hstarts.sublist (sublist_clausesUpTo (1 + rest.length) _)
  rwa [List.pairwise_map] at hsorted

theorem closed_of_sound (htokens : s.tokens = t₀ :: rest) :
    depthBehind (depthPast 0 t₀) rest = 0 := by
  have hfits := checkStructure_eq_ok_iff.1 s.sound
  rw [htokens] at hfits
  exact depthBehind_of_fitsFrom hfits 0

theorem foundIn_of_mem_clauses (htokens : s.tokens = t₀ :: rest) (hc : c ∈ s.clauses)
    (hkind : c.kind ≠ .head) : ∃ more, FoundIn s.kind 1 (depthPast 0 t₀) 0 rest c.span.start c.kind
      more ∧ c.span.stop = nextStart (1 + rest.length) more := by
  rw [clauses_eq_clausesUpTo htokens, mem_clausesUpTo_iff] at hc
  obtain ⟨before, more, hstarts, hstop, -⟩ := hc
  cases before with
  | nil => exact absurd (Prod.mk.inj (List.cons.inj hstarts).1).2.symm hkind
  | cons entry before =>
    exact ⟨more, foundIn_of_clauseStarts (List.cons.inj hstarts).2, hstop⟩

/-- A clause other than the head starts at a boundary. -/
theorem exists_boundary_start (htokens : s.tokens = t₀ :: rest) (hc : c ∈ s.clauses)
    (hkind : c.kind ≠ .head) : ∃ X Y, rest = X ++ Y ∧ c.span.start = 1 + X.length ∧
      IsBoundary s.kind (depthPast 0 t₀) X Y := by
  obtain ⟨more, hfound, -⟩ := foundIn_of_mem_clauses htokens hc hkind
  exact hfound.exists_boundary

/-- Behind everything there is a boundary. -/
theorem isBoundary_end (htokens : s.tokens = t₀ :: rest) :
    IsBoundary s.kind (depthPast 0 t₀) rest [] :=
  ⟨closed_of_sound htokens, rfl, rfl, by simp [joinAhead]⟩

/-- Every clause stops at a boundary. -/
theorem exists_boundary_stop (htokens : s.tokens = t₀ :: rest) (hc : c ∈ s.clauses) :
    ∃ X Y, rest = X ++ Y ∧ c.span.stop = 1 + X.length ∧
      IsBoundary s.kind (depthPast 0 t₀) X Y := by
  rw [clauses_eq_clausesUpTo htokens] at hc
  obtain ⟨-, hstop, -⟩ := mem_clausesUpTo hc
  rcases hstop with hstop | ⟨kind, hstop⟩
  · exact ⟨rest, [], by rw [List.append_nil], hstop, isBoundary_end htokens⟩
  · obtain ⟨before, more, hstarts⟩ := List.append_of_mem hstop
    exact (foundIn_of_clauseStarts hstarts).exists_boundary

/-- From the start of a clause to the end of one there lie whole clauses. -/
theorem exists_run {c' : Clause} (htokens : s.tokens = t₀ :: rest) (hc : c ∈ s.clauses)
    (hc' : c' ∈ s.clauses) (hkind : c.kind ≠ .head) (hle : c.span.start ≤ c'.span.stop) :
    ∃ A M B, rest = A ++ (M ++ B) ∧ c.span.start = 1 + A.length ∧
      c'.span.stop = 1 + A.length + M.length ∧
      IsBoundary s.kind (depthPast 0 t₀) A (M ++ B) ∧
      IsBoundary s.kind (depthPast 0 t₀) (A ++ M) B := by
  obtain ⟨A, Y, rfl, hstart, hA⟩ := exists_boundary_start htokens hc hkind
  obtain ⟨X, B, hsplit, hstop, hX⟩ := exists_boundary_stop htokens hc'
  obtain ⟨M, rfl, rfl⟩ : ∃ M, X = A ++ M ∧ Y = M ++ B := by
    rcases List.append_eq_append_iff.1 hsplit with ⟨M, hM, hB⟩ | ⟨M, hM, hB⟩
    · exact ⟨M, hM, hB⟩
    · have hnil : M = [] := by
        rw [← List.length_eq_zero_iff]
        rw [hM, List.length_append] at hstart
        omega
      subst hnil
      exact ⟨[], by simpa using hM.symm, by simpa using hB.symm⟩
  refine ⟨A, M, B, rfl, hstart, ?_, hA, hX⟩
  rw [hstop, List.length_append, Nat.add_assoc]

/-- The head reaches to the first clause. -/
theorem clause?_head (htokens : s.tokens = t₀ :: rest) : s.clause? .head =
    some ⟨.head, ⟨0, 1 + (clauseRest s.kind (depthPast 0 t₀) rest).length⟩⟩ := by
  rw [clause?, clauses_eq_clausesUpTo htokens, clausesUpTo_cons, nextStart_eq, if_pos (by omega)]
  rfl

/-- Where the clause of a word without modifiers lies. -/
theorem exists_of_mem_clauses (htokens : s.tokens = t₀ :: rest) (hc : c ∈ s.clauses)
    (hkind : c.kind = .orderBy ∨ c.kind = .filter) : ∃ X t Z inCompound, rest = X ++ t :: Z ∧
      depthBehind (depthPast 0 t₀) X = 0 ∧
      clauseAt? s.kind inCompound t Z.head? = some c.kind ∧
      c.span = ⟨1 + X.length, 2 + X.length + (clauseRest s.kind 0 Z).length⟩ := by
  obtain ⟨more, hfound, hstop⟩ := foundIn_of_mem_clauses htokens hc (by rintro h; simp [h] at hkind)
  obtain ⟨X, t, Z, inCompound, rfl, hX, hclause, hp, rfl⟩ := hfound
  refine ⟨X, t, Z, inCompound, rfl, hX, hclause, ?_⟩
  have hstart : c.span.start = 1 + X.length := by
    have hp := (Prod.mk.inj hp).1
    rcases hkind with hkind | hkind <;> simpa [hkind] using hp
  have hpast : compoundPast inCompound (some c.kind) = false := by
    rcases hkind with hkind | hkind <;> rw [hkind]
    · rfl
    · rw [hkind, clauseAt?_filter_iff] at hclause
      exact hclause.1
  have hlength : 1 + (X ++ t :: Z).length = 1 + X.length + 1 + Z.length := by
    rw [List.length_append, List.length_cons]
    omega
  rw [hpast, hlength, nextStart_eq] at hstop
  calc c.span = ⟨c.span.start, c.span.stop⟩ := rfl
    _ = ⟨1 + X.length, 2 + X.length + (clauseRest s.kind 0 Z).length⟩ := by
      rw [hstart, hstop]
      congr 1
      omega

/-- An `ORDER BY` outside all parentheses is a clause. -/
theorem mem_clauses_of_order {X Z : List Token} {o : Token}
    (htokens : s.tokens = t₀ :: (X ++ o :: Z)) (hX : depthBehind (depthPast 0 t₀) X = 0)
    (horder : o.isWord "ORDER") (hby : byAhead Z) :
    ⟨.orderBy, ⟨1 + X.length, 2 + X.length + (clauseRest s.kind 0 Z).length⟩⟩ ∈ s.clauses := by
  obtain ⟨before, inCompound, hstarts⟩ := @exists_clauseStarts_append s.kind false 1
    (depthPast 0 t₀) 0 X (o :: Z)
  have hclause := @clauseAt?_orderBy_iff s.kind inCompound o Z.head? |>.2 ⟨horder, hby⟩
  rw [hX, clauseStarts_cons, foundAt, if_pos rfl, hclause, modifier_of_clauseAt? hclause,
    depthPast_of_keyword (kind_of_isWord horder)] at hstarts
  rw [clauses_eq_clausesUpTo htokens, mem_clausesUpTo_iff]
  refine ⟨(0, .head) :: before, clauseStarts s.kind (1 + X.length + 1) 0 0 false Z, ?_, ?_, ?_⟩
  · rw [hstarts]
    rfl
  · have hlength : 1 + (X ++ o :: Z).length = 1 + X.length + 1 + Z.length := by
      rw [List.length_append, List.length_cons]
      omega
    rw [hlength, nextStart_eq]
    dsimp only
    omega
  · dsimp only
    omega

/-- The tokens behind `ORDER` in each `ORDER BY` outside parentheses. -/
def orders (s : Statement) : List (List Token) :=
  (s.clauses.filter (·.kind == .orderBy)).map fun c =>
    (⟨c.span.start + 1, c.span.stop⟩ : Span).slice s.tokens

theorem slice_behind {X Z Y L : List Token} {o : Token} (htokens : s.tokens = t₀ :: (X ++ o :: Z))
    (hZ : Z = L ++ Y) :
    (⟨1 + X.length + 1, 2 + X.length + L.length⟩ : Span).slice s.tokens = L := by
  have hfront : s.tokens = (t₀ :: X ++ [o]) ++ (L ++ Y) := by
    rw [htokens, hZ]
    simp
  rw [hfront]
  apply Span.slice_append
  · simp only [List.length_append, List.length_cons, List.length_nil]
    omega
  · omega

/-- The orders of a statement are those that its tokens have. -/
theorem mem_orders_iff (htokens : s.tokens = t₀ :: rest) {order : List Token} :
    order ∈ s.orders ↔ HasOrder s.kind (depthPast 0 t₀) rest order := by
  constructor
  · intro h
    obtain ⟨c, hc, rfl⟩ := List.mem_map.1 h
    obtain ⟨hc, hkind⟩ := List.mem_filter.1 hc
    have hkind : c.kind = .orderBy := by simpa using hkind
    obtain ⟨X, o, Z, inCompound, rfl, hX, hclause, hspan⟩ :=
      exists_of_mem_clauses htokens hc (.inl hkind)
    rw [hkind, clauseAt?_orderBy_iff] at hclause
    obtain ⟨Y, hZ, -⟩ := clauseRest_append_drop s.kind 0 Z
    refine ⟨X, o, Z, rfl, hX, hclause.1, hclause.2, ?_⟩
    rw [hspan]
    exact (slice_behind htokens hZ).symm
  · rintro ⟨X, o, Z, rfl, hX, horder, hby, rfl⟩
    obtain ⟨Y, hZ, -⟩ := clauseRest_append_drop s.kind 0 Z
    have hmem := mem_clauses_of_order htokens hX horder hby
    exact List.mem_map.2 ⟨_, List.mem_filter.2 ⟨hmem, rfl⟩, slice_behind htokens hZ⟩

end Statement

end Sql
end QueryFuzz
