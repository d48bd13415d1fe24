import QueryFuzz.Proofs.Sql.Structure
import QueryFuzz.Sql.Clause

/-!
# Tokens outside parentheses

Clauses and items are told apart by the tokens outside all parentheses. A part that fits closes
what it opens, so nothing of it is outside once a parenthesis is open in front of it, and the
search for clauses runs through a part without clause words as if it were not there.
-/

namespace QueryFuzz
namespace Sql

/-! ## Runs -/

section Runs

variable {α : Type} {A M C P : List α} {i j : ℕ}

theorem Span.slice_append (hi : i = A.length) (hj : j = i + M.length) :
    (⟨i, j⟩ : Span).slice (A ++ (M ++ C)) = M := by
  subst hi hj
  rw [Span.slice, List.drop_take, List.drop_left, Nat.add_sub_cancel_left, List.take_left]

theorem Span.replace_append (hi : i = A.length) (hj : j = i + M.length) :
    (⟨i, j⟩ : Span).replace (A ++ (M ++ C)) P = A ++ (P ++ C) := by
  subst hi hj
  rw [Span.replace, List.take_left, ← List.drop_drop, List.drop_left, List.drop_left,
    List.append_assoc]

end Runs

/-! ## Depths behind a part -/

/-- The tokens of a part that begin where no parenthesis is open. -/
def outside (depth : ℕ) : List Token → List Token
  | [] => []
  | t :: rest => (if depth = 0 then [t] else []) ++ outside (depthPast depth t) rest

/-- The depth behind a part. -/
def depthBehind (depth : ℕ) (ts : List Token) : ℕ :=
  ts.foldl depthPast depth

theorem depthBehind_append (depth : ℕ) (ts us : List Token) :
    depthBehind depth (ts ++ us) = depthBehind (depthBehind depth ts) us :=
  List.foldl_append

theorem outside_append (depth : ℕ) (ts us : List Token) :
    outside depth (ts ++ us) = outside depth ts ++ outside (depthBehind depth ts) us := by
  induction ts generalizing depth with
  | nil => rfl
  | cons t ts ih =>
    rw [List.cons_append, outside, outside, ih, List.append_assoc]
    rfl

theorem depthsFrom_append (depth : ℕ) (ts us : List Token) :
    depthsFrom depth (ts ++ us) = depthsFrom depth ts ++ depthsFrom (depthBehind depth ts) us := by
  induction ts generalizing depth with
  | nil => rfl
  | cons t ts ih =>
    rw [List.cons_append, depthsFrom, depthsFrom, ih]
    rfl

/-! ## Parts that fit -/

theorem depthPast_add {depth depth' : ℕ} {t : Token} (h : depthPast? depth t = some depth')
    (more : ℕ) : depthPast (depth + more) t = depth' + more := by
  unfold depthPast? at h
  unfold depthPast
  cases hkind : t.kind with
  | leftParen =>
    simp only [hkind, Option.some.injEq] at h ⊢
    omega
  | rightParen =>
    simp only [hkind] at h ⊢
    split_ifs at h with hzero
    simp only [Option.some.injEq] at h
    omega
  | _ =>
    simp only [hkind, Option.some.injEq] at h ⊢
    omega

/-- What fits closes the parentheses that it opens. -/
theorem depthBehind_of_fitsFrom {depth : ℕ} {before : Option Token} {ts : List Token}
    (h : fitsFrom depth before ts) (more : ℕ) : depthBehind (depth + more) ts = more := by
  induction ts generalizing depth before with
  | nil =>
    have hzero : depth = 0 := by simpa [fitsFrom] using h
    rw [hzero, Nat.zero_add]
    rfl
  | cons t ts ih =>
    obtain ⟨-, depth', hdepth, hfits⟩ := fitsFrom_cons.1 h
    have hrest := ih hfits
    rw [← depthPast_add hdepth] at hrest
    exact hrest

/-- Where a parenthesis is open in front, nothing of what fits is outside. -/
theorem outside_of_fitsFrom {depth : ℕ} {before : Option Token} {ts : List Token}
    (h : fitsFrom depth before ts) {more : ℕ} (hmore : 0 < more) :
    outside (depth + more) ts = [] := by
  induction ts generalizing depth before with
  | nil => rfl
  | cons t ts ih =>
    obtain ⟨-, depth', hdepth, hfits⟩ := fitsFrom_cons.1 h
    rw [outside, depthPast_add hdepth, ih hfits, if_neg (by omega), List.append_nil]

/-! ## Words -/

theorem kind_of_isAnyOf {words : List String} {t : Token} (h : t.isAnyOf words) :
    t.kind = .keyword := by
  unfold Token.isAnyOf at h
  exact beq_iff_eq.1 (Bool.and_eq_true_iff.1 h).1

theorem isWord_iff {word : String} {t : Token} :
    t.isWord word ↔ t.kind = .keyword ∧ t.text.toUpper = word := by
  simp [Token.isWord, Token.isAnyOf]

theorem isAnyOf_of_isWord {word : String} {t : Token} (h : t.isWord word) (words : List String) :
    t.isAnyOf words = words.contains word := by
  obtain ⟨hkind, htext⟩ := isWord_iff.1 h
  rw [Token.isAnyOf, hkind, htext]
  rfl

theorem isAnyOf_mono {words others : List String} {t : Token} (h : t.isAnyOf words)
    (hothers : ∀ word ∈ words, word ∈ others) : t.isAnyOf others := by
  unfold Token.isAnyOf at h ⊢
  obtain ⟨hkind, hmem⟩ := Bool.and_eq_true_iff.1 h
  rw [hkind, List.contains_iff_mem.2 (hothers _ (List.contains_iff_mem.1 hmem))]
  rfl

/-- A word is not one of other words. -/
theorem isAnyOf_eq_false {words others : List String} {t : Token} (h : t.isAnyOf words)
    (hothers : ∀ word ∈ words, word ∉ others) : t.isAnyOf others = false := by
  unfold Token.isAnyOf at h ⊢
  obtain ⟨hkind, hword⟩ := Bool.and_eq_true_iff.1 h
  have hmem : t.text.toUpper ∉ others := hothers _ (List.contains_iff_mem.1 hword)
  simp [hmem]

theorem kind_of_isWord {word : String} {t : Token} (h : t.isWord word) : t.kind = .keyword :=
  (isWord_iff.1 h).1

/-! ## The words of clauses -/

/-- The words that can begin a clause, inside or outside of a compound arm. -/
def clauseWords (inCompound : Bool) : List String :=
  ["UNION", "INTERSECT", "EXCEPT", "LIMIT", "ORDER"] ++
    if inCompound then []
    else ["FROM", "JOIN", "WHERE", "GROUP", "HAVING", "SET", "VALUES", "RETURNING"]

/-- A clause of the kind begins at the token, with the one behind it. -/
def ClauseKind.Begins (statement : StatementKind) (inCompound : Bool) (t : Token)
    (after : Option Token) : ClauseKind → Prop
  | .head => False
  | .compound => t.isAnyOf ["UNION", "INTERSECT", "EXCEPT"]
  | .limit => t.isWord "LIMIT"
  | .orderBy => t.isWord "ORDER" ∧ after.any (·.isWord "BY")
  | .source => inCompound = false ∧ t.isWord "FROM"
  | .join => inCompound = false ∧ t.isWord "JOIN"
  | .filter => inCompound = false ∧ t.isWord "WHERE"
  | .groupBy => inCompound = false ∧ t.isWord "GROUP" ∧ after.any (·.isWord "BY")
  | .having => inCompound = false ∧ t.isWord "HAVING"
  | .assignment => inCompound = false ∧ t.isWord "SET" ∧ statement = .update
  | .values => inCompound = false ∧ t.isWord "VALUES"
  | .returning => inCompound = false ∧ t.isWord "RETURNING"

section Begins

variable {k : StatementKind} {inCompound : Bool} {t : Token} {after : Option Token}
  {kind : ClauseKind}

theorem begins_of_ite {p : Prop} [Decidable p] {f : ClauseKind} {rest : Option ClauseKind}
    (h : (if p then some f else rest) = some kind) (hp : p → f.Begins k inCompound t after)
    (hrest : rest = some kind → kind.Begins k inCompound t after) :
    kind.Begins k inCompound t after := by
  by_cases hcase : p
  · rw [if_pos hcase] at h
    exact Option.some.inj h ▸ hp hcase
  · rw [if_neg hcase] at h
    exact hrest h

theorem begins_of_clauseAt? (h : clauseAt? k inCompound t after = some kind) :
    kind.Begins k inCompound t after := by
  unfold clauseAt? at h
  refine begins_of_ite h id fun h => begins_of_ite h id fun h =>
    begins_of_ite h Bool.and_eq_true_iff.1 fun h => ?_
  cases inCompound with
  | true => cases h
  | false =>
    rw [if_neg Bool.false_ne_true] at h
    refine begins_of_ite h (.intro rfl) fun h => begins_of_ite h (.intro rfl) fun h =>
      begins_of_ite h (.intro rfl) fun h => begins_of_ite h (fun hgroup => ⟨rfl, ?_⟩) fun h =>
      begins_of_ite h (.intro rfl) fun h => begins_of_ite h (fun hset => ⟨rfl, ?_⟩) fun h =>
      begins_of_ite h (.intro rfl) fun h => begins_of_ite h (.intro rfl) nofun
    · exact Bool.and_eq_true_iff.1 hgroup
    · simpa using hset

/-- The words are different ones, so the token decides on the kind. -/
theorem clauseAt?_of_begins (h : kind.Begins k inCompound t after) :
    clauseAt? k inCompound t after = some kind := by
  cases kind with
  | head => exact h.elim
  | compound => exact if_pos h
  | limit =>
    have hwords := isAnyOf_of_isWord h
    simp [clauseAt?, Token.isWord, hwords]
  | orderBy =>
    obtain ⟨hword, hby⟩ := h
    have hwords := isAnyOf_of_isWord hword
    rw [clauseAt?, hby]
    simp [Token.isWord, hwords]
  | groupBy =>
    obtain ⟨rfl, hword, hby⟩ := h
    have hwords := isAnyOf_of_isWord hword
    rw [clauseAt?, hby]
    simp [Token.isWord, hwords]
  | assignment =>
    obtain ⟨rfl, hword, rfl⟩ := h
    have hwords := isAnyOf_of_isWord hword
    simp [clauseAt?, Token.isWord, hwords]
  | source | join | filter | having | values | returning =>
    obtain ⟨rfl, hword⟩ := h
    have hwords := isAnyOf_of_isWord hword
    simp [clauseAt?, Token.isWord, hwords]

theorem clauseAt?_eq_some_iff :
    clauseAt? k inCompound t after = some kind ↔ kind.Begins k inCompound t after :=
  ⟨begins_of_clauseAt?, clauseAt?_of_begins⟩

theorem ClauseKind.Begins.isAnyOf (h : kind.Begins k inCompound t after) :
    t.isAnyOf (clauseWords inCompound) := by
  have hwords : ∀ {words}, t.isAnyOf words → (∀ word ∈ words, word ∈ clauseWords inCompound) →
      t.isAnyOf (clauseWords inCompound) := isAnyOf_mono
  cases kind with
  | head => exact h.elim
  | compound | limit => exact hwords h (by simp [clauseWords])
  | orderBy => exact hwords h.1 (by simp [clauseWords])
  | groupBy | assignment => exact hwords h.2.1 (by simp [clauseWords, h.1])
  | source | join | filter | having | values | returning =>
    exact hwords h.2 (by simp [clauseWords, h.1])

theorem isAnyOf_of_clauseAt? (h : clauseAt? k inCompound t after = some kind) :
    t.isAnyOf (clauseWords inCompound) :=
  (clauseAt?_eq_some_iff.1 h).isAnyOf

end Begins

/-! ## Parts without clause words -/

/-- Can no clause begin at the token? -/
def isCalm (inCompound : Bool) (t : Token) : Bool :=
  !t.isAnyOf (clauseWords inCompound)

theorem clauseAt?_of_isCalm {statement : StatementKind} {inCompound : Bool} {t : Token}
    {after : Option Token} (h : isCalm inCompound t) :
    clauseAt? statement inCompound t after = none := by
  have hnone : t.isAnyOf (clauseWords inCompound) = false := by simpa [isCalm] using h
  rw [Option.eq_none_iff_forall_not_mem]
  intro kind hkind
  rw [isAnyOf_of_clauseAt? hkind] at hnone
  cases hnone

theorem isCalm_compound {t : Token} (h : isCalm false t) : isCalm true t := by
  have hwords : ∀ word ∈ clauseWords true, word ∈ clauseWords false := by decide
  unfold isCalm Token.isAnyOf at h ⊢
  by_contra hnot
  obtain ⟨hkind, hmem⟩ : t.kind = .keyword ∧ t.text.toUpper ∈ clauseWords true := by
    simpa using hnot
  simp [hkind, hwords _ hmem] at h

/-- No clause begins in the part, and none that follows reaches into it. -/
structure Calm (inCompound : Bool) (ts : List Token) : Prop where
  outside : (outside 0 ts).all (isCalm inCompound)
  closed : depthBehind 0 ts = 0
  last : ts.getLast?.all (!isJoinModifier ·)

instance (inCompound : Bool) (ts : List Token) : Decidable (Calm inCompound ts) :=
  decidable_of_iff (_ ∧ _ ∧ _)
    ⟨fun h => ⟨h.1, h.2.1, h.2.2⟩, fun h => ⟨h.outside, h.closed, h.last⟩⟩

theorem Calm.compound {ts : List Token} (h : Calm false ts) : Calm true ts := by
  refine ⟨?_, h.closed, h.last⟩
  rw [List.all_eq_true]
  exact fun t ht => isCalm_compound (List.all_eq_true.1 h.outside t ht)

theorem Calm.append {inCompound : Bool} {ts us : List Token} (hts : Calm inCompound ts)
    (hus : Calm inCompound us) : Calm inCompound (ts ++ us) := by
  constructor
  · rw [outside_append, hts.closed, List.all_append, hts.outside, hus.outside]
    rfl
  · rw [depthBehind_append, hts.closed, hus.closed]
  · rw [List.getLast?_append]
    cases hlast : us.getLast? with
    | none => simpa using hts.last
    | some t => simpa [hlast] using hus.last

/-- The join modifiers directly in front of what follows a part. -/
def modifiersBehind (modifiers : ℕ) (ts : List Token) : ℕ :=
  ts.foldl (fun n t => if isJoinModifier t then n + 1 else 0) modifiers

theorem modifiersBehind_of_last {ts : List Token} (h : ts.getLast?.all (!isJoinModifier ·)) :
    modifiersBehind 0 ts = 0 := by
  rcases List.eq_nil_or_concat ts with rfl | ⟨us, t, rfl⟩
  · rfl
  · have ht : isJoinModifier t = false := by simpa using h
    simp [modifiersBehind, ht]

theorem clauseStarts_append {statement : StatementKind} {inCompound : Bool} {index depth : ℕ}
    {ts : List Token} (h : (outside depth ts).all (isCalm inCompound)) (modifiers : ℕ)
    (rest : List Token) :
    clauseStarts statement index depth modifiers inCompound (ts ++ rest) =
      clauseStarts statement (index + ts.length) (depthBehind depth ts)
        (modifiersBehind modifiers ts) inCompound rest := by
  induction ts generalizing index depth modifiers with
  | nil => rfl
  | cons t ts ih =>
    rw [outside, List.all_append, Bool.and_eq_true] at h
    have hnone : (if depth = 0 then clauseAt? statement inCompound t (ts ++ rest).head?
        else none) = none := by
      split_ifs with hdepth
      · rw [if_pos hdepth] at h
        exact clauseAt?_of_isCalm (by simpa using h.1)
      · rfl
    rw [List.cons_append, clauseStarts, hnone]
    dsimp only [compoundPast]
    rw [ih h.2, List.length_cons, Nat.add_right_comm, Nat.add_assoc]
    rfl

/-- The search for clauses runs through a calm part. -/
theorem Calm.clauseStarts {inCompound : Bool} {ts : List Token} (h : Calm inCompound ts)
    (statement : StatementKind) (index : ℕ) (rest : List Token) :
    Sql.clauseStarts statement index 0 0 inCompound (ts ++ rest) =
      Sql.clauseStarts statement (index + ts.length) 0 0 inCompound rest := by
  rw [clauseStarts_append h.outside, h.closed, modifiersBehind_of_last h.last]

end Sql
end QueryFuzz
