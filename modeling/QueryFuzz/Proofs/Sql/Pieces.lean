import QueryFuzz.Proofs.Sql.Items

/-!
# Items and conjuncts of a statement

Select items lie in the head, conjuncts in the clause of `WHERE`. Neither holds a cut of its own,
and what is cut off in front of it and behind it is whole.
-/

namespace QueryFuzz
namespace Sql

/-- No comma stands in front of a clause. -/
theorem misfit?_comma {before : Option Token} {t : Token} {k : StatementKind} {ts : List Token}
    (ht : t.kind = .comma) (hts : ts = [] ∨ clauseAhead k ts) :
    misfit? before t ts.head? ≠ none := by
  have hafter : ts.head?.any (fun n => n.startsOperand || n.isOperator "*") = false := by
    cases ts with
    | nil => rfl
    | cons u ts =>
      have hword := isAnyOf_of_clauseAhead (hts.resolve_left (by simp))
      have hstarts : u.isAnyOf
          ["NOT", "NULL", "CASE", "EXISTS", "CAST", "TRUE", "FALSE", "SELECT"] = false :=
        isAnyOf_eq_false hword (by decide)
      simp [Token.startsOperand, Token.isOperator, kind_of_isAnyOf hword, hstarts]
  simp [misfit?, ht, fitsComma, hafter]

/-- The tokens go on with an `AND`, with a clause, or not at all. -/
def EndsPart (k : StatementKind) (ts : List Token) : Prop :=
  ts.head?.any (·.isWord "AND") ∨ ts = [] ∨ clauseAhead k ts

theorem EndsPart.isAnyOf {k : StatementKind} {ts : List Token} (h : EndsPart k ts) :
    ∀ t ∈ ts.head?, t.isAnyOf ("AND" :: clauseWords false ++
      ["LEFT", "RIGHT", "INNER", "OUTER", "CROSS", "NATURAL"]) := by
  intro t ht
  cases ts with
  | nil => cases ht
  | cons u ts =>
    obtain rfl := Option.some.inj ht
    rcases h with hand | hnil | hclause
    · exact isAnyOf_mono hand (by decide)
    · cases hnil
    · exact isAnyOf_mono (isAnyOf_of_clauseAhead hclause) (by decide)

theorem EndsPart.isKeyword {k : StatementKind} {ts : List Token} (h : EndsPart k ts) :
    ts.head?.all (·.kind == .keyword) := by
  rw [Option.all_eq_true]
  intro t ht
  rw [kind_of_isAnyOf (h.isAnyOf t ht)]
  rfl

/-- No operand follows. -/
theorem EndsPart.not_startsOperand {k : StatementKind} {ts : List Token} (h : EndsPart k ts) :
    ts.head?.any (·.startsOperand) = false := by
  cases ts with
  | nil => rfl
  | cons t ts =>
    have hword := h.isAnyOf t rfl
    rw [List.head?_cons, Option.any_some, Token.startsOperand, kind_of_isAnyOf hword]
    exact isAnyOf_eq_false hword (by decide)

/-! ## What cuts -/

theorem of_cutItems (state : Unit) (depth : ℕ) (t : Token)
    (h : (cutItems state depth t).1 = true) : depth = 0 ∧ isComma t ∧ depthPast 0 t = 0 := by
  obtain ⟨hdepth, hcomma⟩ := Bool.and_eq_true_iff.1 h
  have hkind : t.kind = .comma := by simpa using hcomma
  exact ⟨by simpa using hdepth, hcomma, by simp [depthPast, hkind]⟩

theorem of_cutConjuncts (pending depth : ℕ) (t : Token)
    (h : (cutConjuncts pending depth t).1 = true) :
    depth = 0 ∧ t.isWord "AND" ∧ depthPast 0 t = 0 := by
  unfold cutConjuncts at h
  split_ifs at h with hzero hbetween hand hpending
  exact ⟨by simpa using hzero, hand, depthPast_of_keyword (kind_of_isWord hand) 0⟩

theorem isWord_of_isComma {t : Token} (h : isComma t) (word : String) : t.isWord word = false := by
  have hkind : t.kind = .comma := by simpa [isComma] using h
  simp [Token.isWord, Token.isAnyOf, hkind]

/-- Neither what cuts nor what begins a clause is a `BY`. -/
theorem not_byAhead_append {k : StatementKind} {C Y : List Token}
    (hC : ∀ t, C.head? = some t → t.isWord "BY" = false) (hY : Y = [] ∨ clauseAhead k Y) :
    byAhead (C ++ Y) = false := by
  cases C with
  | cons t C => exact hC t rfl
  | nil =>
    rcases hY with rfl | hY
    · rfl
    · exact byAhead_of_clauseAhead hY

/-- An item stands behind a comma or the words of the `SELECT`. -/
theorem not_order_in_front {t₀ : Token} {F A : List Token}
    (hF : (t₀ :: F).getLast?.all (·.isAnyOf ["SELECT", "DISTINCT", "ALL"]))
    (hA : A.getLast?.all isComma) : (F ++ A).getLast?.all (!Token.isWord "ORDER" ·) := by
  rcases List.eq_nil_or_concat' A with rfl | ⟨A, t, rfl⟩
  · rcases List.eq_nil_or_concat' F with rfl | ⟨F, u, rfl⟩
    · rfl
    · rw [← List.cons_append, List.getLast?_append_cons] at hF
      have hword : u.isWord "ORDER" = false := isAnyOf_eq_false (by simpa using hF) (by decide)
      simp [hword]
  · have hword := isWord_of_isComma (t := t) (by simpa using hA) "ORDER"
    rw [← List.append_assoc, List.getLast?_append_cons]
    simp [hword]

/-! ## Items -/

namespace Statement

variable {s : Statement} {t₀ : Token} {rest : List Token}

theorem fits_split {front behind : List Token} (htokens : s.tokens = front ++ behind) :
    fitsFrom (depthBehind 0 front) (lastOr none front) behind := by
  have hfits := checkStructure_eq_ok_iff.1 s.sound
  rw [htokens] at hfits
  exact fitsFrom_behind hfits

theorem fits_behind {front behind : List Token} (htokens : s.tokens = front ++ behind) :
    ∃ before, fitsFrom (depthBehind 0 front) before behind :=
  ⟨_, fits_split htokens⟩

/-- The head of a statement and what is behind it. -/
theorem exists_head_append (htokens : s.tokens = t₀ :: rest) : ∃ Y,
    s.tokens = (t₀ :: clauseRest s.kind (depthPast 0 t₀) rest) ++ Y ∧
      (Y = [] ∨ clauseAhead s.kind Y) ∧
      depthBehind 0 (t₀ :: clauseRest s.kind (depthPast 0 t₀) rest) = 0 := by
  obtain ⟨Y, hrest, hY⟩ := clauseRest_append_drop s.kind (depthPast 0 t₀) rest
  refine ⟨Y, by rw [htokens, List.cons_append, ← hrest], hY.imp id And.right, ?_⟩
  rw [depthBehind_cons]
  rcases hY with rfl | hY
  · rw [List.append_nil] at hrest
    rw [← hrest]
    exact closed_of_sound htokens
  · exact hY.1

/-- A missing last item is left out. -/
def trimmed (items : List Span) : List Span :=
  if items.getLast?.all (·.isEmpty) then items.dropLast else items

/-- There are no items in an empty list. -/
theorem trimmed_nil {start stop : ℕ} (h : stop ≤ start) :
    trimmed (piecesFrom cutItems start start () ((⟨start, stop⟩ : Span).slice s.tokensAtDepth)) =
      [] := by
  have hslice : (⟨start, stop⟩ : Span).slice s.tokensAtDepth = [] := by
    rw [Span.slice, List.drop_eq_nil_iff, List.length_take]
    exact (Nat.min_le_left _ _).trans h
  rw [hslice, piecesFrom, trimmed, if_pos (by simp [Span.isEmpty])]
  rfl

/-- In front of a clause no item is missing. -/
theorem trimmed_eq {front list Y : List Token} (htokens : s.tokens = front ++ list ++ Y)
    (hY : Y = [] ∨ clauseAhead s.kind Y) (hne : list ≠ []) :
    trimmed (piecesFrom cutItems front.length front.length ()
      ((⟨front.length, (front ++ list).length⟩ : Span).slice s.tokensAtDepth)) =
      piecesFrom cutItems front.length front.length () (withDepths (depthBehind 0 front) list) := by
  rw [slice_tokensAtDepth htokens, ← withDepths]
  have hcut : (withDepths (depthBehind 0 front) list).getLast?.all (!isCut ·) := by
    rcases List.eq_nil_or_concat' list with rfl | ⟨list, t, rfl⟩
    · exact absurd rfl hne
    · have hsplit : s.tokens = (front ++ list) ++ (t :: Y) := by
        rw [htokens]
        simp
      obtain ⟨before, hfits⟩ := fits_behind hsplit
      have hmisfit := (fitsFrom_cons.1 hfits).1
      have hcomma : isComma t = false := by
        by_contra hcomma
        have hkind : t.kind = .comma := by simpa [isComma] using hcomma
        exact misfit?_comma hkind hY hmisfit
      rw [withDepths_append, withDepths_cons, List.getLast?_append_cons]
      simp [withDepths, depthsFrom, isCut, hcomma]
  have hregion : withDepths (depthBehind 0 front) list ≠ [] := by
    rw [← List.length_pos_iff, length_withDepths]
    exact List.length_pos_iff.2 hne
  obtain ⟨piece, hpiece, hempty⟩ := getLast?_piecesFrom_cutItems (le_refl front.length) hregion hcut
  rw [trimmed, hpiece, if_neg (by simp [hempty])]

/-- The list of a `SELECT` begins behind the word, or behind a `DISTINCT` or `ALL` that follows. -/
theorem exists_front {H Y list : List Token} {depth : ℕ}
    (h : behindSelect 0 H = some (depth, list)) :
    ∃ front i, H = front ++ bareList list ∧ (behindSelect 0 front).isSome ∧
      front.getLast?.all (·.isAnyOf ["SELECT", "DISTINCT", "ALL"]) ∧
      commaCount (depthBehind 0 front) (bareList list) = commaCount depth list ∧
      H.findIdx? (·.isWord "SELECT") = some i ∧
      let start :=
        if (H ++ Y)[i + 1]?.any (·.isAnyOf ["DISTINCT", "ALL"]) then i + 1 + 1 else i + 1
      front.length ≤ start ∧ (list ≠ [] → start = front.length) := by
  obtain ⟨U, t, rfl, ht, hdepth, hsome, hindex⟩ := exists_behindSelect h
  have hlength : (U ++ [t]).length = U.length + 1 := by simp
  have hlast : (U ++ [t]).getLast?.all (·.isAnyOf ["SELECT", "DISTINCT", "ALL"]) := by
    simpa using isAnyOf_mono ht (by decide)
  have hsplit : U ++ t :: list = (U ++ [t]) ++ list := by simp
  cases list with
  | nil =>
    refine ⟨U ++ [t], U.length, hsplit, hsome, hlast, by rw [hdepth]; rfl, hindex, ?_, ?_⟩
    · rw [hlength]
      split_ifs
      · exact Nat.le_succ _
      · exact le_refl _
    · exact fun hne => absurd rfl hne
  | cons u list =>
    have hfirst : (U ++ t :: u :: list ++ Y)[U.length + 1]? = some u := by
      rw [hsplit, ← hlength, List.append_assoc, List.getElem?_append_right (le_refl _),
        Nat.sub_self]
      rfl
    rw [bareList]
    by_cases hu : u.isAnyOf ["DISTINCT", "ALL"]
    · have hpast : depthPast depth u = depth := depthPast_of_keyword (kind_of_isAnyOf hu) depth
      have hcomma : isComma u = false := by simp [isComma, kind_of_isAnyOf hu]
      have hnone : commaCount depth [u] = 0 := by
        rw [commaCount, outside, outside]
        split_ifs <;> simp [hcomma]
      have hfront : (U ++ [t] ++ [u]).length = U.length + 1 + 1 := by simp
      rw [if_pos hu]
      refine ⟨U ++ [t] ++ [u], U.length, by simp, ?_, ?_, ?_, hindex, ?_⟩
      · exact isSome_behindSelect_append hsome [u]
      · simpa using isAnyOf_mono hu (by decide)
      · have hbehind : depthBehind depth [u] = depth := hpast
        have hcount := commaCount_append depth [u] list
        rw [hnone, hbehind, Nat.zero_add] at hcount
        rw [depthBehind_append, hdepth, hbehind]
        exact hcount.symm
      · rw [hfirst, Option.any_some, if_pos hu]
        exact ⟨hfront.le, fun _ => hfront.symm⟩
    · rw [if_neg hu]
      refine ⟨U ++ [t], U.length, hsplit, hsome, hlast, by rw [hdepth], hindex, ?_⟩
      rw [hfirst, Option.any_some, if_neg hu]
      exact ⟨hlength.le, fun _ => hlength.symm⟩

/-- The select items are what the commas leave of the list behind the first `SELECT`. -/
theorem selectItems_cases (hkind : s.kind = .select) (htokens : s.tokens = t₀ :: rest) :
    (s.selectItems = [] ∧ headItems (t₀ :: clauseRest s.kind (depthPast 0 t₀) rest) = 0) ∨
      ∃ front list, t₀ :: clauseRest s.kind (depthPast 0 t₀) rest = front ++ list ∧
        (behindSelect 0 front).isSome ∧
        front.getLast?.all (·.isAnyOf ["SELECT", "DISTINCT", "ALL"]) ∧
        headItems (t₀ :: clauseRest s.kind (depthPast 0 t₀) rest) =
          commaCount (depthBehind 0 front) list + 1 ∧
        s.selectItems = piecesFrom cutItems front.length front.length ()
          (withDepths (depthBehind 0 front) list) := by
  obtain ⟨Y, htokens', hY, -⟩ := exists_head_append htokens
  set H := t₀ :: clauseRest s.kind (depthPast 0 t₀) rest with hH
  have hhead : s.clause? .head = some ⟨.head, ⟨0, H.length⟩⟩ := by
    rw [clause?_head htokens, hH, List.length_cons, Nat.add_comm]
  have hslice : (⟨0, H.length⟩ : Span).slice s.tokens = H := by
    rw [htokens', Span.slice, List.take_left]
    rfl
  unfold selectItems
  rw [if_neg (by simp [hkind]), hhead]
  dsimp only
  rw [hslice]
  unfold headItems
  cases hselect : behindSelect 0 H with
  | none =>
    rw [findIdx?_of_behindSelect hselect]
    exact .inl ⟨rfl, rfl⟩
  | some found =>
    obtain ⟨depth, list⟩ := found
    obtain ⟨front, i, hfront, hsome, hlast, hcommas, hindex, hle, hstart⟩ :=
      @exists_front H Y list depth hselect
    rw [← htokens'] at hle hstart
    rw [hindex]
    dsimp only
    rw [Nat.zero_add, ← trimmed, listLength]
    by_cases hbare : bareList list = []
    · rw [if_pos hbare]
      refine .inl ⟨trimmed_nil ?_, rfl⟩
      rwa [hfront, hbare, List.append_nil]
    · have hlist : list ≠ [] := by
        rintro rfl
        exact hbare rfl
      rw [hstart hlist, if_neg hbare]
      refine .inr ⟨front, bareList list, hfront, hsome, hlast, by rw [hcommas], ?_⟩
      rw [hfront] at htokens' ⊢
      exact trimmed_eq htokens' hY hbare

theorem length_selectItems_eq (hkind : s.kind = .select) (htokens : s.tokens = t₀ :: rest) :
    s.selectItems.length = headItems (t₀ :: clauseRest s.kind (depthPast 0 t₀) rest) := by
  rcases selectItems_cases hkind htokens with
    ⟨hitems, hzero⟩ | ⟨front, list, -, -, -, hcount, hitems⟩
  · rw [hitems, hzero, List.length_nil]
  · rw [hitems, hcount, length_piecesFrom_cutItems, countP_withDepths]

/-- A select item lies in the head behind the `SELECT`, and there are no commas in it. -/
structure ItemAt (s : Statement) (t₀ : Token) (A M C : List Token) : Prop where
  tokens : s.tokens = t₀ :: (A ++ (M ++ C))
  inside : ∃ K, clauseRest s.kind (depthPast 0 t₀) (A ++ (M ++ C)) = A ++ (M ++ K)
  select : (behindSelect 0 (t₀ :: A)).isSome
  front : A.getLast?.all (!Token.isWord "ORDER" ·)
  notBy : byAhead C = false
  closed : depthBehind (depthPast 0 t₀) (A ++ M) = 0
  commas : commaCount (depthBehind (depthPast 0 t₀) A) M = 0

section ItemAt

variable {A M C : List Token} (h : s.ItemAt t₀ A M C)

include h

theorem ItemAt.slice : (⟨1 + A.length, 1 + A.length + M.length⟩ : Span).slice s.tokens = M := by
  have hsplit : s.tokens = (t₀ :: A) ++ (M ++ C) := h.tokens
  rw [hsplit]
  exact Span.slice_append (Nat.add_comm 1 A.length) rfl

theorem ItemAt.replace (P : List Token) :
    (⟨1 + A.length, 1 + A.length + M.length⟩ : Span).replace s.tokens P =
      t₀ :: (A ++ (P ++ C)) := by
  have hsplit : s.tokens = (t₀ :: A) ++ (M ++ C) := h.tokens
  rw [hsplit]
  exact Span.replace_append (Nat.add_comm 1 A.length) rfl

/-- What fits in front of an item. -/
theorem ItemAt.fits : ∃ before, fitsFrom (depthBehind (depthPast 0 t₀) A) before (M ++ C) := by
  have hsplit : s.tokens = (t₀ :: A) ++ (M ++ C) := h.tokens
  exact fits_behind hsplit

theorem ItemAt.not_hasOrder (k : StatementKind) (order : List Token) :
    ¬HasOrder k (depthBehind (depthPast 0 t₀) A) M order := by
  intro horder
  obtain ⟨K, hinside⟩ := h.inside
  rw [← List.append_assoc, ← List.append_assoc] at hinside
  exact not_hasOrder_of_clauseRest hinside k order horder.append_left

end ItemAt

theorem exists_itemAt (htokens : s.tokens = t₀ :: rest) {piece : Span}
    (h : piece ∈ s.selectItems) : s.kind = .select ∧ ∃ A M C, s.ItemAt t₀ A M C ∧
      piece = ⟨1 + A.length, 1 + A.length + M.length⟩ := by
  have hkind : s.kind = .select := by
    by_contra hkind
    rw [selectItems, if_pos hkind] at h
    cases h
  refine ⟨hkind, ?_⟩
  obtain ⟨Y, htokens', hY, hclosed⟩ := exists_head_append htokens
  rcases selectItems_cases hkind htokens with
    ⟨hitems, -⟩ | ⟨front, list, hH, hselect, hlast, -, hitems⟩
  · rw [hitems] at h
    cases h
  rw [hitems] at h
  obtain ⟨A, M, C, hpiece, rfl, hbare⟩ := exists_pieceIn of_cutItems h
  have hnext := (Option.all_eq_true _ _).1 hpiece.behind
  obtain ⟨F, rfl⟩ : ∃ F, front = t₀ :: F := by
    cases front with
    | nil => cases hselect
    | cons u F => exact ⟨F, by rw [(List.cons.inj hH).1]⟩
  have hR : clauseRest s.kind (depthPast 0 t₀) rest = F ++ A ++ (M ++ C) := by
    rw [List.append_assoc, ← hpiece.split]
    exact (List.cons.inj hH).2
  have hrest : rest = F ++ A ++ (M ++ (C ++ Y)) := by
    rw [htokens, hR] at htokens'
    simpa using htokens'
  have hdepth : ∀ ts, depthBehind (depthPast 0 t₀) (F ++ ts) =
      depthBehind (depthBehind 0 (t₀ :: F)) ts := fun ts => depthBehind_append _ F ts
  refine ⟨F ++ A, M, C ++ Y, ⟨by rw [htokens, hrest], ⟨C, ?_⟩, ?_, ?_, ?_, ?_, ?_⟩, ?_⟩
  · rw [← hrest, hR]
  · exact isSome_behindSelect_append hselect A
  · exact not_order_in_front hlast hpiece.front
  · exact not_byAhead_append (fun t ht => isWord_of_isComma (hnext t ht) "BY") hY
  · rw [List.append_assoc, hdepth]
    cases C with
    | cons t C => exact hpiece.stop (List.cons_ne_nil t C)
    | nil =>
      rw [hR, List.append_nil, List.append_assoc, depthBehind_cons, hdepth] at hclosed
      exact hclosed
  · rw [hdepth, ← countP_withDepths, List.countP_eq_zero]
    intro entry hentry
    obtain ⟨state, hstate⟩ := hbare entry hentry
    rw [cutItems_eq] at hstate
    exact Bool.eq_false_iff.1 hstate
  · rw [List.length_append, List.length_cons]
    congr 1 <;> omega

/-! ## Parts of a predicate -/

/-- Some tokens lie in a clause that begins with `WHERE`. -/
structure PartAt (s : Statement) (t₀ : Token) (A₀ : List Token) (w : Token) (A M C : List Token) :
    Prop where
  tokens : s.tokens = t₀ :: (A₀ ++ w :: (A ++ (M ++ C)))
  closed : depthBehind (depthPast 0 t₀) A₀ = 0
  word : w.isWord "WHERE"
  inside : ∃ K, clauseRest s.kind 0 (A ++ (M ++ C)) = A ++ (M ++ K)

section PartAt

variable {A₀ A M C : List Token} {w : Token} (h : s.PartAt t₀ A₀ w A M C)

include h

theorem PartAt.split : s.tokens = (t₀ :: (A₀ ++ w :: A)) ++ (M ++ C) := by
  rw [h.tokens]
  simp

theorem PartAt.slice :
    (⟨2 + A₀.length + A.length, 2 + A₀.length + A.length + M.length⟩ : Span).slice s.tokens =
      M := by
  rw [h.split]
  apply Span.slice_append
  · simp only [List.length_cons, List.length_append]
    omega
  · rfl

theorem PartAt.replace (P : List Token) :
    (⟨2 + A₀.length + A.length, 2 + A₀.length + A.length + M.length⟩ : Span).replace s.tokens P =
      t₀ :: (A₀ ++ w :: (A ++ (P ++ C))) := by
  have happend : t₀ :: (A₀ ++ w :: (A ++ (P ++ C))) = (t₀ :: (A₀ ++ w :: A)) ++ (P ++ C) := by
    simp
  rw [h.split, happend]
  apply Span.replace_append
  · simp only [List.length_cons, List.length_append]
    omega
  · rfl

theorem PartAt.depthBehind_front (ts : List Token) :
    depthBehind 0 (t₀ :: (A₀ ++ w :: ts)) = depthBehind 0 ts := by
  rw [depthBehind_cons, depthBehind_append, h.closed, depthBehind_cons,
    depthPast_of_keyword (kind_of_isWord h.word)]

/-- What fits in front of the tokens of a predicate. -/
theorem PartAt.fits : ∃ before, fitsFrom (depthBehind 0 A) before (M ++ C) := by
  rw [← h.depthBehind_front A]
  exact fits_behind h.split

theorem PartAt.not_hasOrder (k : StatementKind) (order : List Token) :
    ¬HasOrder k (depthBehind 0 A) M order := by
  intro horder
  obtain ⟨K, hinside⟩ := h.inside
  rw [← List.append_assoc, ← List.append_assoc] at hinside
  exact not_hasOrder_of_clauseRest hinside k order horder.append_left

end PartAt

/-- Where the predicate of a statement lies. -/
theorem exists_predicate (htokens : s.tokens = t₀ :: rest) {p : Span}
    (h : s.wherePredicate? = some p) : ∃ A₀ w R Y, s.tokens = t₀ :: (A₀ ++ w :: (R ++ Y)) ∧
      depthBehind (depthPast 0 t₀) A₀ = 0 ∧ w.isWord "WHERE" ∧
      clauseRest s.kind 0 (R ++ Y) = R ∧ (Y = [] ∨ clauseAhead s.kind Y) ∧ depthBehind 0 R = 0 ∧
      p = ⟨2 + A₀.length, 2 + A₀.length + R.length⟩ := by
  unfold wherePredicate? at h
  split at h
  · rename_i c hc
    obtain ⟨hmem, hkind⟩ := clause?_mem hc
    obtain ⟨A₀, w, Z, inCompound, rfl, hclosed, hclause, hspan⟩ :=
      exists_of_mem_clauses htokens hmem (.inr hkind)
    rw [hkind, clauseAt?_filter_iff] at hclause
    dsimp only at h
    split_ifs at h
    obtain rfl := Option.some.inj h
    obtain ⟨Y, hZ, hY⟩ := clauseRest_append_drop s.kind 0 Z
    refine ⟨A₀, w, clauseRest s.kind 0 Z, Y, by rw [htokens, ← hZ], hclosed, hclause.2,
      by rw [← hZ], hY.imp id And.right, ?_, ?_⟩
    · rcases hY with rfl | hY
      · have hall := closed_of_sound htokens
        rw [depthBehind_append, hclosed, depthBehind_cons,
          depthPast_of_keyword (kind_of_isWord hclause.2)] at hall
        rw [List.append_nil] at hZ
        rwa [← hZ]
      · exact hY.1
    · have hstart : 1 + A₀.length + 1 = 2 + A₀.length := by omega
      rw [hspan, ← hstart]
  · cases h

/-- Tokens of the predicate. -/
theorem exists_partAt (htokens : s.tokens = t₀ :: rest) {p : Span} (h : s.wherePredicate? = some p)
    {i j : ℕ} (hi : p.start ≤ i) (hij : i ≤ j) (hj : j ≤ p.stop) :
    ∃ A₀ w A M C, s.PartAt t₀ A₀ w A M C ∧ i = 2 + A₀.length + A.length ∧ j = i + M.length := by
  obtain ⟨A₀, w, R, Y, htokens', hclosed, hword, hrest, -, -, rfl⟩ := exists_predicate htokens h
  dsimp only at hi hj
  obtain ⟨A, R', rfl, hA⟩ : ∃ A R', R = A ++ R' ∧ A.length = i - (2 + A₀.length) :=
    ⟨_, _, (List.take_append_drop (i - (2 + A₀.length)) R).symm, by
      rw [List.length_take]
      omega⟩
  rw [List.length_append] at hj
  obtain ⟨M, C, rfl, hM⟩ : ∃ M C, R' = M ++ C ∧ M.length = j - i :=
    ⟨_, _, (List.take_append_drop (j - i) R').symm, by
      rw [List.length_take]
      omega⟩
  refine ⟨A₀, w, A, M, C ++ Y, ⟨?_, hclosed, hword, C, ?_⟩, by omega, by omega⟩
  · rw [htokens']
    simp
  · rw [← List.append_assoc M, ← List.append_assoc A, hrest]

/-- A conjunct lies between `AND`s of the predicate, outside all parentheses. -/
structure ConjunctAt (s : Statement) (t₀ : Token) (A₀ : List Token) (w : Token)
    (A M C : List Token) : Prop extends PartAt s t₀ A₀ w A M C where
  front : A.getLast?.all (·.isWord "AND")
  behind : EndsPart s.kind C
  notBy : byAhead C = false
  start : depthBehind 0 A = 0
  stop : depthBehind 0 (A ++ M) = 0

theorem exists_conjunctAt (htokens : s.tokens = t₀ :: rest) {p piece : Span}
    (hp : s.wherePredicate? = some p) (h : piece ∈ s.conjuncts p) :
    ∃ A₀ w A M C, s.ConjunctAt t₀ A₀ w A M C ∧
      piece = ⟨2 + A₀.length + A.length, 2 + A₀.length + A.length + M.length⟩ := by
  obtain ⟨A₀, w, R, Y, htokens', hclosed, hword, hrest, hY, hR, rfl⟩ := exists_predicate htokens hp
  have hfront : (t₀ :: A₀ ++ [w]).length = 2 + A₀.length := by
    simp
    omega
  have hbehind : (t₀ :: A₀ ++ [w] ++ R).length = 2 + A₀.length + R.length := by
    rw [List.length_append, hfront]
  have hdepth : depthBehind 0 (t₀ :: A₀ ++ [w]) = 0 := by
    rw [depthBehind_append, depthBehind_cons 0 t₀, hclosed]
    exact depthPast_of_keyword (kind_of_isWord hword) 0
  have hsplit : s.tokens = t₀ :: A₀ ++ [w] ++ R ++ Y := by
    rw [htokens']
    simp
  have hslice := slice_tokensAtDepth hsplit
  rw [hbehind, hfront, hdepth, ← withDepths] at hslice
  unfold conjuncts at h
  rw [hslice] at h
  obtain ⟨A, M, C, hpiece, rfl, -⟩ := exists_pieceIn of_cutConjuncts h
  have hnext := (Option.all_eq_true _ _).1 hpiece.behind
  obtain rfl := hpiece.split
  refine ⟨A₀, w, A, M, C ++ Y, ⟨⟨?_, hclosed, hword, C, ?_⟩, hpiece.front, ?_, ?_, ?_, ?_⟩, rfl⟩
  · rw [htokens']
    simp
  · rw [← List.append_assoc M, ← List.append_assoc A, hrest]
  · cases C with
    | cons t C => exact .inl (hnext t rfl)
    | nil => exact .inr hY
  · exact not_byAhead_append (fun t ht => isAnyOf_eq_false (hnext t ht) (by decide)) hY
  · by_cases hA : A = []
    · rw [hA]
      rfl
    · exact hpiece.start hA
  · cases C with
    | cons t C => exact hpiece.stop (List.cons_ne_nil t C)
    | nil => rwa [List.append_nil] at hR

end Statement

end Sql
end QueryFuzz
