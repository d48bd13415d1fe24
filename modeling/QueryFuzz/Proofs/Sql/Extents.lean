import Mathlib.Data.List.DropRight
import QueryFuzz.Proofs.Sql.Partition

/-!
# How far clauses reach

A clause reaches to where the next one begins outside all parentheses, and the next one begins at
its word or, for a join, at the modifiers in front of it. Where that is depends on the tokens up to
there only, so an edit further behind leaves the clause as it is.
-/

namespace QueryFuzz
namespace Sql

/-! ## The words of clauses -/

section Words

variable {k : StatementKind} {inCompound : Bool} {t : Token} {after : Option Token}
  {kind : ClauseKind}

/-- What a token begins depends on the next token only so far as that is `BY`. -/
theorem clauseAt?_congr {after' : Option Token}
    (h : after.any (·.isWord "BY") = after'.any (·.isWord "BY")) :
    clauseAt? k inCompound t after = clauseAt? k inCompound t after' := by
  unfold clauseAt?
  rw [h]

theorem clauseAt?_orderBy_iff : clauseAt? k inCompound t after = some .orderBy ↔
    t.isWord "ORDER" ∧ after.any (·.isWord "BY") :=
  clauseAt?_eq_some_iff

theorem clauseAt?_join_iff : clauseAt? k false t after = some .join ↔ t.isWord "JOIN" :=
  clauseAt?_eq_some_iff.trans (and_iff_right rfl)

theorem clauseAt?_filter_iff : clauseAt? k inCompound t after = some .filter ↔
    inCompound = false ∧ t.isWord "WHERE" :=
  clauseAt?_eq_some_iff

theorem clauseAt?_limit_iff :
    clauseAt? k inCompound t after = some .limit ↔ t.isWord "LIMIT" :=
  clauseAt?_eq_some_iff

/-- Whatever begins a clause in a compound arm begins one elsewhere. -/
theorem isSome_clauseAt? (h : clauseAt? k inCompound t after = some kind) :
    clauseAt? k false t after = some kind := by
  rw [clauseAt?_eq_some_iff] at h ⊢
  cases kind with
  | head | compound | limit | orderBy => exact h
  | _ => exact ⟨rfl, h.2⟩

end Words

/-! ## Where the next clause begins -/

/-- Does the text go on with `BY`? -/
def byAhead (ts : List Token) : Bool :=
  ts.head?.any (·.isWord "BY")

/-- Do a `JOIN` and its modifiers come next? -/
def joinAhead : List Token → Bool
  | [] => false
  | t :: rest => t.isWord "JOIN" || (isJoinModifier t && joinAhead rest)

/-- Does a clause begin here, outside of compound arms? -/
def clauseAhead (k : StatementKind) : List Token → Bool
  | [] => false
  | t :: rest => (clauseAt? k false t rest.head?).isSome || joinAhead (t :: rest)

/-- The tokens in front of the next clause. -/
def clauseRest (k : StatementKind) (depth : ℕ) : List Token → List Token
  | [] => []
  | t :: rest =>
    if depth = 0 ∧ clauseAhead k (t :: rest) then []
    else t :: clauseRest k (depthPast depth t) rest

theorem clauseAhead_of_join {k : StatementKind} {ts : List Token} (h : joinAhead ts) :
    clauseAhead k ts := by
  cases ts with
  | nil => cases h
  | cons t ts =>
    rw [clauseAhead, h]
    exact Bool.or_true _

/-- A clause begins with one of these words. -/
theorem isAnyOf_of_clauseAhead {k : StatementKind} {t : Token} {ts : List Token}
    (h : clauseAhead k (t :: ts)) : t.isAnyOf (clauseWords false ++
      ["LEFT", "RIGHT", "INNER", "OUTER", "CROSS", "NATURAL"]) := by
  rw [clauseAhead, joinAhead, Bool.or_eq_true, Bool.or_eq_true, Bool.and_eq_true] at h
  rcases h with hclause | hjoin | ⟨hmodifier, -⟩
  · obtain ⟨kind, hclause⟩ := Option.isSome_iff_exists.1 hclause
    exact isAnyOf_mono (isAnyOf_of_clauseAt? hclause) fun _ hword => List.mem_append_left _ hword
  · exact isAnyOf_mono hjoin (by decide)
  · exact isAnyOf_mono hmodifier (by decide)

theorem byAhead_of_clauseAhead {k : StatementKind} {ts : List Token} (h : clauseAhead k ts) :
    byAhead ts = false := by
  cases ts with
  | nil => rfl
  | cons t ts => exact isAnyOf_eq_false (isAnyOf_of_clauseAhead h) (by decide)

theorem joinAhead_append {A B B' : List Token} (hA : A ≠ [])
    (h : joinAhead B → joinAhead B' ∨ A.getLast?.all (!isJoinModifier ·))
    (hjoin : joinAhead (A ++ B)) : joinAhead (A ++ B') := by
  induction A with
  | nil => exact absurd rfl hA
  | cons t A ih =>
    rw [List.cons_append, joinAhead, Bool.or_eq_true, Bool.and_eq_true] at hjoin ⊢
    refine hjoin.imp id fun ⟨hmodifier, hrest⟩ => ⟨hmodifier, ?_⟩
    cases A with
    | nil => exact (h hrest).resolve_right (by simp [hmodifier])
    | cons u A =>
      rw [List.getLast?_cons_cons] at h
      exact ih (by simp) h hrest

theorem byAhead_append {A B B' : List Token} (hby : byAhead B = byAhead B') :
    byAhead (A ++ B) = byAhead (A ++ B') := by
  cases A with
  | nil => exact hby
  | cons t A => rfl

theorem clauseAhead_append {k : StatementKind} {A B B' : List Token} (hA : A ≠ [])
    (hby : byAhead B = byAhead B')
    (h : joinAhead B → joinAhead B' ∨ A.getLast?.all (!isJoinModifier ·))
    (hclause : clauseAhead k (A ++ B)) : clauseAhead k (A ++ B') := by
  obtain ⟨t, A, rfl⟩ := List.exists_cons_of_ne_nil hA
  have hword : clauseAt? k false t (A ++ B).head? = clauseAt? k false t (A ++ B').head? :=
    clauseAt?_congr (byAhead_append hby)
  rw [List.cons_append, clauseAhead, Bool.or_eq_true, hword] at hclause
  rw [List.cons_append, clauseAhead, Bool.or_eq_true]
  exact hclause.imp id (joinAhead_append hA h)

section Rest

variable {k : StatementKind} {d : ℕ} {A B B' : List Token}

theorem clauseRest_of_ahead (h : clauseAhead k A) : clauseRest k 0 A = [] := by
  cases A with
  | nil => rfl
  | cons t A => rw [clauseRest, if_pos ⟨rfl, h⟩]

/-- The next clause begins behind these tokens, outside all parentheses. -/
theorem clauseRest_append_drop (k : StatementKind) (d : ℕ) (ts : List Token) :
    ∃ Y, ts = clauseRest k d ts ++ Y ∧
      (Y = [] ∨ (depthBehind d (clauseRest k d ts) = 0 ∧ clauseAhead k Y)) := by
  induction ts generalizing d with
  | nil => exact ⟨[], rfl, .inl rfl⟩
  | cons t ts ih =>
    rw [clauseRest]
    split_ifs with hahead
    · exact ⟨t :: ts, rfl, .inr hahead⟩
    · obtain ⟨Y, hts, hY⟩ := ih (depthPast d t)
      exact ⟨Y, by rw [List.cons_append, ← hts], hY⟩

theorem clauseRest_append_le (k : StatementKind) (d : ℕ) (A B : List Token) :
    clauseRest k d (A ++ B) <+: A ++ clauseRest k (depthBehind d A) B := by
  induction A generalizing d with
  | nil => exact List.prefix_rfl
  | cons t A ih =>
    rw [List.cons_append, clauseRest]
    split_ifs with hahead
    · exact List.nil_prefix
    · exact (List.prefix_cons_inj t).2 (ih (depthPast d t))

theorem clauseRest_behind {K : List Token} (h : clauseRest k d (A ++ B) = A ++ K) :
    clauseRest k (depthBehind d A) B = K := by
  induction A generalizing d with
  | nil => exact h
  | cons t A ih =>
    rw [List.cons_append, clauseRest] at h
    split_ifs at h
    · cases h
    · exact ih (List.cons.inj h).2

/-- Where two texts go on alike, either a clause begins in what they share or none does. -/
theorem clauseRest_append_congr (hby : byAhead B = byAhead B')
    (hjoin : joinAhead B = joinAhead B') :
    clauseRest k d (A ++ B) = clauseRest k d (A ++ B') ∨
      (clauseRest k d (A ++ B) = A ++ clauseRest k (depthBehind d A) B ∧
        clauseRest k d (A ++ B') = A ++ clauseRest k (depthBehind d A) B') := by
  induction A generalizing d with
  | nil => exact .inr ⟨rfl, rfl⟩
  | cons t A ih =>
    have hahead : clauseAhead k (t :: (A ++ B)) ↔ clauseAhead k (t :: (A ++ B')) :=
      ⟨clauseAhead_append (List.cons_ne_nil t A) hby fun h => .inl (hjoin ▸ h),
        clauseAhead_append (List.cons_ne_nil t A) hby.symm fun h => .inl (hjoin ▸ h)⟩
    rw [List.cons_append, List.cons_append, clauseRest, clauseRest]
    by_cases h : d = 0 ∧ clauseAhead k (t :: (A ++ B))
    · rw [if_pos h, if_pos ⟨h.1, hahead.1 h.2⟩]
      exact .inl rfl
    · rw [if_neg h, if_neg fun h' => h ⟨h'.1, hahead.2 h'.2⟩]
      rcases @ih (depthPast d t) with heq | ⟨hB, hB'⟩
      · exact .inl (by rw [heq])
      · exact .inr ⟨by rw [hB]; rfl, by rw [hB']; rfl⟩

/-- A new clause can only shorten the one in front of it, by modifiers of its join. -/
theorem clauseRest_append_isPrefix (hby : byAhead B = byAhead B')
    (h : joinAhead B → joinAhead B' ∨ A.getLast?.all (!isJoinModifier ·))
    (hB' : clauseRest k (depthBehind d A) B' = []) :
    clauseRest k d (A ++ B') <+: clauseRest k d (A ++ B) := by
  induction A generalizing d with
  | nil =>
    obtain hB' : clauseRest k d B' = [] := hB'
    rw [List.nil_append, hB']
    exact List.nil_prefix
  | cons t A ih =>
    rw [List.cons_append, List.cons_append, clauseRest, clauseRest]
    by_cases hahead' : d = 0 ∧ clauseAhead k (t :: (A ++ B'))
    · rw [if_pos hahead']
      exact List.nil_prefix
    by_cases hahead : d = 0 ∧ clauseAhead k (t :: (A ++ B))
    · exact absurd ⟨hahead.1, clauseAhead_append (List.cons_ne_nil t A) hby h hahead.2⟩ hahead'
    rw [if_neg hahead', if_neg hahead, List.prefix_cons_inj]
    refine ih (fun hjoin => (h hjoin).imp id fun hlast => ?_) hB'
    cases A with
    | nil => rfl
    | cons u A => rwa [List.getLast?_cons_cons] at hlast

/-- A clause without join modifiers keeps its extent whatever clause comes next. -/
theorem clauseRest_append_eq (hby : byAhead B = byAhead B')
    (h : joinAhead B → joinAhead B' ∨ A.getLast?.all (!isJoinModifier ·))
    (hB : clauseRest k (depthBehind d A) B = []) (hB' : clauseRest k (depthBehind d A) B' = [])
    (hmodifiers : ∀ t ∈ clauseRest k d (A ++ B), isJoinModifier t = false) :
    clauseRest k d (A ++ B') = clauseRest k d (A ++ B) := by
  induction A generalizing d with
  | nil => exact hB'.trans hB.symm
  | cons t A ih =>
    rw [List.cons_append, clauseRest] at hmodifiers
    rw [List.cons_append, List.cons_append, clauseRest, clauseRest]
    by_cases hahead : d = 0 ∧ clauseAhead k (t :: (A ++ B))
    · have hahead' := clauseAhead_append (List.cons_ne_nil t A) hby h hahead.2
      rw [if_pos hahead, if_pos ⟨hahead.1, hahead'⟩]
    rw [if_neg hahead] at hmodifiers ⊢
    have ht := hmodifiers t List.mem_cons_self
    have hahead' : ¬(d = 0 ∧ clauseAhead k (t :: (A ++ B'))) := fun h' =>
      hahead ⟨h'.1, @clauseAhead_append k [t] _ _ (List.cons_ne_nil t [])
        (byAhead_append hby.symm) (fun _ => .inr (by simp [ht])) h'.2⟩
    rw [if_neg hahead', ih ?_ hB hB' fun u hu => hmodifiers u (List.mem_cons_of_mem t hu)]
    refine fun hjoin => (h hjoin).imp id fun hlast => ?_
    cases A with
    | nil => rfl
    | cons u A => rwa [List.getLast?_cons_cons] at hlast

end Rest

/-! ## Orders -/

/-- Outside all parentheses there is an `ORDER BY` with these tokens behind `ORDER`. -/
def HasOrder (k : StatementKind) (depth : ℕ) (ts order : List Token) : Prop :=
  ∃ X o Z, ts = X ++ o :: Z ∧ depthBehind depth X = 0 ∧ o.isWord "ORDER" ∧ byAhead Z ∧
    clauseRest k 0 Z = order

theorem depthBehind_cons (d : ℕ) (t : Token) (ts : List Token) :
    depthBehind d (t :: ts) = depthBehind (depthPast d t) ts :=
  rfl

theorem depthPast_of_keyword {t : Token} (h : t.kind = .keyword) (d : ℕ) : depthPast d t = d := by
  simp [depthPast, h]

/-- A token between two parts is in the first or in the second of any other two parts. -/
theorem append_eq_append_cons {A B X Z : List Token} {o : Token} (h : A ++ B = X ++ o :: Z) :
    (∃ A', A = X ++ o :: A' ∧ Z = A' ++ B) ∨ ∃ B', X = A ++ B' ∧ B = B' ++ o :: Z := by
  rcases List.append_eq_append_iff.1 h with ⟨B', hX, hB⟩ | ⟨A', hA, hB⟩
  · exact .inr ⟨B', hX, hB⟩
  · cases A' with
    | nil => exact .inr ⟨[], by simpa using hA.symm, by simpa using hB.symm⟩
    | cons u A' =>
      obtain ⟨rfl, hZ⟩ := List.cons.inj hB
      exact .inl ⟨A', hA, hZ⟩

section Orders

variable {k : StatementKind} {d : ℕ} {A B B' order : List Token}

theorem HasOrder.append_left (h : HasOrder k (depthBehind d A) B order) :
    HasOrder k d (A ++ B) order := by
  obtain ⟨X, o, Z, rfl, hclosed, horder, hby, hrest⟩ := h
  exact ⟨A ++ X, o, Z, (List.append_assoc A X _).symm, by rwa [depthBehind_append], horder, hby,
    hrest⟩

theorem HasOrder.of_cons {t : Token} (h : HasOrder k d (t :: A) order)
    (ht : t.isWord "ORDER" = false) : HasOrder k (depthPast d t) A order := by
  obtain ⟨X, o, Z, heq, hclosed, horder, hby, hrest⟩ := h
  cases X with
  | nil =>
    obtain rfl := (List.cons.inj heq).1
    rw [horder] at ht
    cases ht
  | cons u X =>
    obtain ⟨rfl, rfl⟩ := List.cons.inj heq
    exact ⟨X, o, Z, rfl, hclosed, horder, hby, hrest⟩

theorem HasOrder.of_append (h : HasOrder k d (A ++ B) order)
    (hA : ∀ t ∈ A, t.isWord "ORDER" = false) : HasOrder k (depthBehind d A) B order := by
  induction A generalizing d with
  | nil => exact h
  | cons t A ih =>
    obtain ⟨ht, hA⟩ := List.forall_mem_cons.1 hA
    exact ih (h.of_cons ht) hA

theorem HasOrder.exists_mem_outside (h : HasOrder k d A order) :
    ∃ o ∈ outside d A, o.isWord "ORDER" := by
  obtain ⟨X, o, Z, rfl, hclosed, horder, -, -⟩ := h
  refine ⟨o, ?_, horder⟩
  rw [outside_append, hclosed, outside, if_pos rfl]
  simp

/-- An order begins a clause of its own. -/
theorem clauseAhead_order {o : Token} {Z : List Token} (horder : o.isWord "ORDER")
    (hby : byAhead Z) : clauseAhead k (o :: Z) := by
  rw [clauseAhead, clauseAt?_orderBy_iff.2 ⟨horder, hby⟩]
  rfl

/-- There is no order inside of another clause. -/
theorem not_hasOrder_of_clauseRest {K : List Token} (h : clauseRest k d (A ++ B) = A ++ K)
    (k' : StatementKind) (order : List Token) : ¬HasOrder k' d A order := by
  rintro ⟨X, o, Z, rfl, hclosed, horder, hby, -⟩
  induction X generalizing d with
  | nil =>
    obtain rfl : d = 0 := hclosed
    have hby' : byAhead (Z ++ B) := by
      cases Z with
      | nil => cases hby
      | cons u Z => exact hby
    rw [List.nil_append, List.cons_append, clauseRest_of_ahead (clauseAhead_order horder hby')] at h
    cases h
  | cons t X ih =>
    rw [List.cons_append, List.cons_append, clauseRest] at h
    split_ifs at h
    · cases h
    · exact ih (List.cons.inj h).2 hclosed

/-- Orders do not change where the tokens of one clause are exchanged. -/
theorem HasOrder.of_exchange {M P C : List Token} (h : HasOrder k d (A ++ (P ++ C)) order)
    (hdepth : depthBehind d (A ++ P) = depthBehind d (A ++ M))
    (hA : ∀ order, ¬HasOrder k d A order) (hP : ∀ order, ¬HasOrder k (depthBehind d A) P order)
    (hAP : byAhead (P ++ C) → A.getLast?.all (!Token.isWord "ORDER" ·))
    (hPC : byAhead C → P.getLast?.all (!Token.isWord "ORDER" ·)) :
    HasOrder k d (A ++ (M ++ C)) order := by
  obtain ⟨X, o, Z, heq, hclosed, horder, hby, hrest⟩ := h
  rcases append_eq_append_cons heq with ⟨A', rfl, rfl⟩ | ⟨X', rfl, heq'⟩
  · exfalso
    cases A' with
    | nil => simpa [horder] using hAP hby
    | cons u A' => exact hA _ ⟨X, o, u :: A', rfl, hclosed, horder, hby, rfl⟩
  rcases append_eq_append_cons heq' with ⟨P', rfl, rfl⟩ | ⟨C', rfl, rfl⟩
  · exfalso
    rw [depthBehind_append] at hclosed
    cases P' with
    | nil => simpa [horder] using hPC hby
    | cons u P' => exact hP _ ⟨X', o, u :: P', rfl, hclosed, horder, hby, rfl⟩
  · refine ⟨A ++ (M ++ C'), o, Z, by simp, ?_, horder, hby, hrest⟩
    rw [← List.append_assoc, depthBehind_append] at hclosed ⊢
    rwa [← hdepth]

/-- Orders do not change where a clause is put in or dropped that is none, if they hold no
modifiers of a join. -/
theorem HasOrder.of_boundary (h : HasOrder k d (A ++ B') order) (hclosed : depthBehind d A = 0)
    (hby : byAhead B = byAhead B')
    (hjoin : joinAhead B → joinAhead B' ∨ A.getLast?.all (!isJoinModifier ·))
    (hB : clauseRest k 0 B = []) (hB' : clauseRest k 0 B' = [])
    (hkept : HasOrder k 0 B' order → HasOrder k 0 B order)
    (hmodifiers : ∀ order, HasOrder k d (A ++ B) order → ∀ t ∈ order, isJoinModifier t = false) :
    HasOrder k d (A ++ B) order := by
  obtain ⟨X, o, Z, heq, hX, horder, hZ, hrest⟩ := h
  rcases append_eq_append_cons heq with ⟨A', rfl, rfl⟩ | ⟨X', rfl, rfl⟩
  · have hA' : depthBehind 0 A' = 0 := by
      rwa [depthBehind_append, hX, depthBehind_cons,
        depthPast_of_keyword (kind_of_isWord horder)] at hclosed
    rw [← byAhead_append hby] at hZ
    have hsplit : X ++ o :: A' ++ B = X ++ o :: (A' ++ B) := by simp
    have hkeeps := hmodifiers _ ⟨X, o, A' ++ B, hsplit, hX, horder, hZ, rfl⟩
    refine ⟨X, o, A' ++ B, hsplit, hX, horder, hZ, ?_⟩
    rw [← hrest]
    refine (clauseRest_append_eq hby (fun h => (hjoin h).imp id fun hlast => ?_) ?_ ?_ hkeeps).symm
    · cases A' with
      | nil => rfl
      | cons u A' => rwa [List.getLast?_append_cons, List.getLast?_cons_cons] at hlast
    · rwa [hA']
    · rwa [hA']
  · rw [depthBehind_append, hclosed] at hX
    have horder' := hkept ⟨X', o, Z, rfl, hX, horder, hZ, hrest⟩
    rw [← hclosed] at horder'
    exact horder'.append_left

end Orders

/-! ## Tokens without a shape -/

/-- The keywords that tell the parts of a statement. -/
def shapeWords : List String :=
  clauseWords false ++ ["LEFT", "RIGHT", "INNER", "OUTER", "CROSS", "NATURAL", "BY", "SELECT",
    "DISTINCT", "ALL"]

/-- A token that takes no part in how a statement is cut into clauses and items. -/
def isInert (t : Token) : Bool :=
  !([.leftParen, .rightParen, .comma, .semicolon].contains t.kind) && !t.isAnyOf shapeWords

theorem isAnyOf_of_isInert {t : Token} (h : isInert t) {words : List String}
    (hwords : ∀ word ∈ words, word ∈ shapeWords) : t.isAnyOf words = false := by
  have hshape : t.isAnyOf shapeWords = false := by
    simpa using (Bool.and_eq_true_iff.1 h).2
  by_contra hany
  have hany := Bool.eq_true_of_not_eq_false hany
  unfold Token.isAnyOf at hshape hany
  obtain ⟨hkind, hmem⟩ := Bool.and_eq_true_iff.1 hany
  have hmem := hwords _ (List.contains_iff_mem.1 hmem)
  rw [hkind, Bool.true_and] at hshape
  exact Bool.false_ne_true (hshape.symm.trans (List.contains_iff_mem.2 hmem))

theorem kind_of_isInert {t : Token} (h : isInert t) :
    t.kind ≠ .leftParen ∧ t.kind ≠ .rightParen ∧ t.kind ≠ .comma ∧ t.kind ≠ .semicolon := by
  simpa using (Bool.and_eq_true_iff.1 h).1

/-- A token that is no keyword is inert, but for parentheses and separators. -/
theorem isInert_of_kind {t : Token} (hkeyword : t.kind ≠ .keyword)
    (hkind : !([.leftParen, .rightParen, .comma, .semicolon].contains t.kind)) : isInert t := by
  rw [isInert, hkind, Token.isAnyOf, beq_false_of_ne hkeyword]
  rfl

/-- A keyword is inert if it tells no part of a statement. -/
theorem isInert_of_isAnyOf {words : List String} {t : Token} (h : t.isAnyOf words)
    (hwords : ∀ word ∈ words, word ∉ shapeWords) : isInert t := by
  rw [isInert, isAnyOf_eq_false h hwords, kind_of_isAnyOf h]
  rfl

theorem depthPast_of_isInert {t : Token} (h : isInert t) (d : ℕ) : depthPast d t = d := by
  obtain ⟨hleft, hright, -, -⟩ := kind_of_isInert h
  unfold depthPast
  split <;> simp_all

section Inert

variable {k : StatementKind} {d : ℕ} {A C P order : List Token} {t : Token}

theorem depthBehind_of_isInert (h : ∀ u ∈ P, isInert u) : depthBehind d P = d := by
  induction P generalizing d with
  | nil => rfl
  | cons u P ih =>
    obtain ⟨hu, hP⟩ := List.forall_mem_cons.1 h
    rw [depthBehind_cons, depthPast_of_isInert hu, ih hP]

theorem joinAhead_of_isInert (h : isInert t) : joinAhead (t :: C) = false := by
  have hjoin : t.isWord "JOIN" = false := isAnyOf_of_isInert h (by decide)
  have hmodifier : isJoinModifier t = false := isAnyOf_of_isInert h (by decide)
  rw [joinAhead, hjoin, hmodifier]
  rfl

theorem byAhead_of_isInert (h : isInert t) : byAhead (t :: C) = false :=
  isAnyOf_of_isInert h (by decide)

theorem clauseAhead_of_isInert (h : isInert t) : clauseAhead k (t :: C) = false := by
  have hcalm : isCalm false t := by
    rw [isCalm, isAnyOf_of_isInert h (by decide)]
    rfl
  rw [clauseAhead, clauseAt?_of_isCalm hcalm, joinAhead_of_isInert h]
  rfl

theorem clauseRest_cons_of_isInert (h : isInert t) :
    clauseRest k d (t :: C) = t :: clauseRest k d C := by
  rw [clauseRest, clauseAhead_of_isInert h, if_neg (by simp), depthPast_of_isInert h]

theorem clauseRest_of_isInert (h : ∀ u ∈ P, isInert u) :
    clauseRest k d (P ++ C) = P ++ clauseRest k d C := by
  induction P with
  | nil => rfl
  | cons u P ih =>
    obtain ⟨hu, hP⟩ := List.forall_mem_cons.1 h
    rw [List.cons_append, clauseRest_cons_of_isInert hu, ih hP]
    rfl

/-- Exchanging a token for others changes no order but the one it stands in. -/
theorem HasOrder.of_isInert (h : HasOrder k d (A ++ (P ++ C)) order) (ht : isInert t)
    (hP : ∀ u ∈ P, isInert u) (hne : P ≠ []) :
    HasOrder k d (A ++ t :: C) order ∨ ∃ X o A' K, A = X ++ o :: A' ∧ depthBehind d X = 0 ∧
      o.isWord "ORDER" ∧ byAhead (A' ++ t :: C) ∧
      clauseRest k 0 (A' ++ t :: C) = A' ++ t :: K := by
  obtain ⟨X, o, Z, heq, hclosed, horder, hby, hrest⟩ := h
  obtain ⟨u, P', rfl⟩ := List.exists_cons_of_ne_nil hne
  have hu := hP u List.mem_cons_self
  rcases append_eq_append_cons heq with ⟨A', rfl, rfl⟩ | ⟨X', rfl, hPC⟩
  · have hbyAhead : byAhead (t :: C) = byAhead (u :: P' ++ C) :=
      (byAhead_of_isInert ht).trans (byAhead_of_isInert hu).symm
    have hjoinAhead : joinAhead (t :: C) = joinAhead (u :: P' ++ C) :=
      (joinAhead_of_isInert ht).trans (joinAhead_of_isInert hu).symm
    rw [← byAhead_append hbyAhead] at hby
    rcases @clauseRest_append_congr k 0 A' _ _ hbyAhead hjoinAhead with hsame | ⟨hthere, -⟩
    · exact .inl ⟨X, o, A' ++ t :: C, by simp, hclosed, horder, hby, hsame.trans hrest⟩
    · refine .inr ⟨X, o, A', clauseRest k (depthBehind 0 A') C, rfl, hclosed, horder, hby, ?_⟩
      rw [hthere, clauseRest_cons_of_isInert ht]
  rcases append_eq_append_cons hPC with ⟨P'', hP'', rfl⟩ | ⟨C', rfl, rfl⟩
  · have ho : o ∈ u :: P' := by
      rw [hP'']
      simp
    have hno : o.isWord "ORDER" = false := isAnyOf_of_isInert (hP o ho) (by decide)
    exact absurd horder (by simp [hno])
  · refine .inl ⟨A ++ t :: C', o, Z, by simp, ?_, horder, hby, hrest⟩
    rw [depthBehind_append, depthBehind_append, depthBehind_of_isInert hP] at hclosed
    rwa [depthBehind_append, depthBehind_cons, depthPast_of_isInert ht]

end Inert

end Sql
end QueryFuzz
