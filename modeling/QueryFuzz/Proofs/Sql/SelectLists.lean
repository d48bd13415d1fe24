import QueryFuzz.Proofs.Sql.Splits

/-!
# Lists of select items

Commas outside all parentheses separate the items of a `SELECT`. The list begins behind the first
`SELECT` of the statement, whatever its depth. Where a query in parentheses stands in front of the
main one, that is the `SELECT` of the inner query, and what is found is no list of items.
-/

namespace QueryFuzz
namespace Sql

/-! ## Pieces in order -/

section Pieces

variable {σ : Type} {cut : σ → ℕ → Token → Bool × σ} {start index : ℕ} {state : σ}
  {region : List (ℕ × Token)}

theorem start_le_stop_of_mem_piecesFrom {piece : Span} (hle : start ≤ index)
    (h : piece ∈ piecesFrom cut start index state region) : piece.start ≤ piece.stop := by
  induction region generalizing start index state with
  | nil =>
    obtain rfl := List.mem_singleton.1 h
    exact hle
  | cons entry region ih =>
    rw [piecesFrom] at h
    cases hcut : cut state entry.1 entry.2 with
    | mk cuts state' =>
    rw [hcut] at h
    cases cuts with
    | true =>
      rcases List.mem_cons.1 h with rfl | h
      · exact hle
      · exact ih le_rfl h
    | false => exact ih (by omega) h

/-- Between neighbouring pieces there is one token, at which they were cut. -/
theorem isChain_piecesFrom {entries more : List (ℕ × Token)}
    (hregion : entries.drop index = region ++ more) :
    (piecesFrom cut start index state region).IsChain fun c c' =>
      c'.start = c.stop + 1 ∧ ∃ entry ∈ entries[c.stop]?, CanBe cut true entry := by
  induction region generalizing start index state with
  | nil => exact .singleton _
  | cons entry region ih =>
    have hentry : entries[index]? = some entry := by
      rw [← List.head?_drop, hregion]
      rfl
    have hrest : entries.drop (index + 1) = region ++ more := by
      rw [← List.tail_drop, hregion]
      rfl
    rw [piecesFrom]
    cases hcut : cut state entry.1 entry.2 with
    | mk cuts state' =>
    cases cuts with
    | false => exact ih hrest
    | true =>
      obtain ⟨next, later, hpieces, hnext⟩ :=
        exists_first_piece cut (index + 1) (index + 1) state' region
      have hchain := @ih (index + 1) (index + 1) state' hrest
      dsimp only
      rw [hpieces] at hchain ⊢
      exact .cons_cons ⟨hnext, entry, hentry, state, by rw [hcut]⟩ hchain

end Pieces

namespace Statement

variable {s : Statement}

/-! ## Where the list is -/

/-- The items are cut from some tokens behind the first `SELECT`. -/
structure SelectListAt (s : Statement) (U : List Token) (t : Token) (q list Y : List Token) :
    Prop where
  split : s.tokens = (U ++ t :: q) ++ (list ++ Y)
  first : s.tokens.findIdx? (·.isWord "SELECT") = some U.length
  word : t.isWord "SELECT"
  quantifier : q = [] ∨ ∃ u, q = [u] ∧ u.isAnyOf ["DISTINCT", "ALL"]
  ne_nil : list ≠ []
  behind : Y = [] ∨ clauseAhead s.kind Y
  closed : depthBehind 0 (U ++ t :: q ++ list) = 0
  items : s.selectItems = piecesFrom cutItems (U ++ t :: q).length (U ++ t :: q).length ()
    (withDepths (depthBehind 0 (U ++ t :: q)) list)

/-- A list without tokens would leave no items. -/
theorem selectListAt_of_trimmed {U q list Y : List Token} {t : Token} (hne : s.selectItems ≠ [])
    (hsplit : s.tokens = U ++ t :: q ++ list ++ Y)
    (hfirst : s.tokens.findIdx? (·.isWord "SELECT") = some U.length) (hword : t.isWord "SELECT")
    (hq : q = [] ∨ ∃ u, q = [u] ∧ u.isAnyOf ["DISTINCT", "ALL"])
    (hY : Y = [] ∨ clauseAhead s.kind Y) (hclosed : depthBehind 0 (U ++ t :: q ++ list) = 0)
    (hitems : s.selectItems =
      trimmed (piecesFrom cutItems (U ++ t :: q).length (U ++ t :: q).length ()
        ((⟨(U ++ t :: q).length, (U ++ t :: q ++ list).length⟩ : Span).slice s.tokensAtDepth))) :
    s.SelectListAt U t q list Y := by
  have hlist : list ≠ [] := by
    rintro rfl
    rw [List.append_nil, trimmed_nil le_rfl] at hitems
    exact hne hitems
  refine ⟨?_, hfirst, hword, hq, hlist, hY, hclosed, ?_⟩
  · rw [hsplit, List.append_assoc]
  · rw [hitems]
    exact trimmed_eq hsplit hY hlist

/-- The tokens of the head, outside all parentheses, and what is behind them. -/
theorem exists_head_clause (s : Statement) : ∃ H Y, s.tokens = H ++ Y ∧
    (Y = [] ∨ clauseAhead s.kind Y) ∧ depthBehind 0 H = 0 ∧
    s.clause? .head = some ⟨.head, ⟨0, H.length⟩⟩ := by
  obtain ⟨t₀, rest, htokens⟩ := List.exists_cons_of_ne_nil s.tokens_ne_nil
  obtain ⟨Y, hsplit, hY, hclosed⟩ := exists_head_append htokens
  refine ⟨_, Y, hsplit, hY, hclosed, ?_⟩
  rw [clause?_head htokens, List.length_cons, Nat.add_comm]

section Head

variable {H Y : List Token}

theorem slice_head (htokens : s.tokens = H ++ Y) : (⟨0, H.length⟩ : Span).slice s.tokens = H := by
  rw [htokens, Span.slice, List.take_left]
  rfl

variable (htokens : s.tokens = H ++ Y)
  (hhead : s.clause? .head = some ⟨.head, ⟨0, H.length⟩⟩)

include htokens hhead

theorem exists_select_of_selectItems (h : s.selectItems ≠ []) :
    s.kind = .select ∧ ∃ found, behindSelect 0 H = some found := by
  have hkind : s.kind = .select := by
    by_contra hkind
    exact h (by rw [selectItems, if_pos hkind])
  refine ⟨hkind, Option.ne_none_iff_exists'.1 ?_⟩
  intro hselect
  rw [selectItems, if_neg (by simp [hkind]), hhead] at h
  dsimp only at h
  rw [slice_head htokens, findIdx?_of_behindSelect hselect] at h
  exact absurd rfl h

/-- The items are cut from what is behind the `SELECT`, and behind a `DISTINCT` or `ALL`. -/
theorem selectItems_of_head (hkind : s.kind = .select) {i : ℕ}
    (hindex : H.findIdx? (·.isWord "SELECT") = some i) :
    s.selectItems =
      let start := if s.tokens[i + 1]?.any (·.isAnyOf ["DISTINCT", "ALL"]) then i + 1 + 1
        else i + 1
      trimmed (piecesFrom cutItems start start ()
        ((⟨start, H.length⟩ : Span).slice s.tokensAtDepth)) := by
  rw [selectItems, if_neg (by simp [hkind]), hhead]
  dsimp only
  rw [slice_head htokens, hindex]
  dsimp only
  rw [Nat.zero_add]
  rfl

end Head

theorem exists_selectList (h : s.selectItems ≠ []) :
    ∃ U t q list Y, s.SelectListAt U t q list Y := by
  obtain ⟨H, Y, hsplit, hY, hclosed, hhead⟩ := s.exists_head_clause
  obtain ⟨hkind, ⟨depth, behind⟩, hselect⟩ := exists_select_of_selectItems hsplit hhead h
  obtain ⟨U, t, hUt, ht, -, -, hindex⟩ := exists_behindSelect hselect
  have hfirst : s.tokens.findIdx? (·.isWord "SELECT") = some U.length := by
    rw [hsplit, List.findIdx?_append, hindex]
    rfl
  have hitems := selectItems_of_head hsplit hhead hkind hindex
  by_cases hquantifier : s.tokens[U.length + 1]?.any (·.isAnyOf ["DISTINCT", "ALL"])
  · simp only [if_pos hquantifier] at hitems
    cases behind with
    | nil =>
      -- The word is not in the head, so the list lies behind its end.
      exfalso
      refine h (hitems.trans (trimmed_nil ?_))
      rw [hUt, List.length_append, List.length_singleton]
      omega
    | cons u list =>
      have hUu : H = U ++ t :: [u] ++ list := by
        rw [hUt]
        simp
      have hnext : s.tokens[(U ++ [t]).length]? = some u := by
        apply tokens_of_split (Y := list ++ Y)
        rw [hsplit, hUu]
        simp
      have hlength : (U ++ t :: [u]).length = U.length + 1 + 1 := by simp
      rw [List.length_append, List.length_singleton] at hnext
      rw [hnext] at hquantifier
      rw [hUu] at hsplit hclosed hitems
      refine ⟨U, t, [u], list, Y, selectListAt_of_trimmed h hsplit hfirst ht
        (.inr ⟨u, rfl, hquantifier⟩) hY hclosed ?_⟩
      rw [hlength]
      exact hitems
  · simp only [if_neg hquantifier] at hitems
    have hUt' : H = U ++ t :: [] ++ behind := by
      rw [hUt]
      simp
    have hlength : (U ++ t :: []).length = U.length + 1 := by simp
    rw [hUt'] at hsplit hclosed hitems
    refine ⟨U, t, [], behind, Y, selectListAt_of_trimmed h hsplit hfirst ht (.inl rfl) hY
      hclosed ?_⟩
    rw [hlength]
    exact hitems

section SelectListAt

variable {U q list Y : List Token} {t : Token} (h : s.SelectListAt U t q list Y)

include h

/-- The words in front of the list open no parenthesis and close none. -/
theorem SelectListAt.depthBehind_front : depthBehind 0 (U ++ t :: q) = depthBehind 0 U := by
  have hpast : depthPast (depthBehind 0 U) t = depthBehind 0 U :=
    depthPast_of_keyword (kind_of_isWord h.word) _
  rw [depthBehind_append, depthBehind_cons, hpast]
  rcases h.quantifier with rfl | ⟨u, rfl, hu⟩
  · rfl
  · exact depthPast_of_keyword (kind_of_isAnyOf hu) _

theorem SelectListAt.token : s.tokens[U.length]? = some t := by
  apply tokens_of_split (Y := q ++ (list ++ Y))
  rw [h.split]
  simp

theorem SelectListAt.quantifier_token {u : Token} (hq : q = [u]) :
    s.tokens[U.length + 1]? = some u := by
  have hsplit : s.tokens = (U ++ [t]) ++ u :: (list ++ Y) := by
    rw [h.split, hq]
    simp
  have htoken := tokens_of_split hsplit
  rwa [List.length_append, List.length_singleton] at htoken

theorem SelectListAt.depth : s.depths[U.length]? = some (depthBehind 0 U) := by
  apply depths_of_split (Y := q ++ (list ++ Y)) (t := t)
  rw [h.split]
  simp

/-- Behind a comma the statement goes on. -/
theorem SelectListAt.goes_on {A M C : List Token} (hlist : list = A ++ (M ++ C))
    (hA : A.getLast?.all isComma) : M ++ C ++ Y ≠ [] := by
  intro hnil
  obtain ⟨hMC, rfl⟩ := List.append_eq_nil_iff.1 hnil
  rw [hMC, List.append_nil] at hlist
  obtain rfl := hlist
  rcases List.eq_nil_or_concat' list with rfl | ⟨A, u, rfl⟩
  · exact h.ne_nil rfl
  · have hcomma : u.kind = .comma := by simpa [isComma] using hA
    have hsplit : s.tokens = (U ++ t :: q ++ A) ++ [u] := by
      rw [h.split]
      simp
    obtain ⟨before, hfits⟩ := fits_behind hsplit
    exact misfit?_comma (k := s.kind) hcomma (.inl rfl) (fitsFrom_cons.1 hfits).1

end SelectListAt

/-! ## Lists of items -/

/-- A list begins behind a `SELECT` outside all parentheses, or behind the word that follows. -/
def OpensList (s : Statement) (i : ℕ) : Prop :=
  ∃ j, s.depths[j]? = some 0 ∧ s.tokens[j]?.any (·.isWord "SELECT") ∧
    (i = j + 1 ∨ i = j + 2 ∧ s.tokens[j + 1]?.any (·.isAnyOf ["DISTINCT", "ALL"]))

/-- Between the two positions there is one token, outside all parentheses, and it is a comma. -/
structure SeparatedAt (s : Statement) (mid next : ℕ) : Prop where
  next_eq : next = mid + 1
  depth : s.depths[mid]? = some 0
  comma : s.tokens[mid]?.any (·.kind == .comma)

/-- The items of a `SELECT` outside all parentheses, in their order. -/
structure IsItemList (s : Statement) (items : List Span) : Prop where
  front : ∀ c ∈ items.head?, s.OpensList c.start
  ordered : ∀ c ∈ items, c.start ≤ c.stop
  separated : items.IsChain fun c c' => s.SeparatedAt c.stop c'.start
  outside : ∀ c ∈ items, s.depths[c.start]? = some 0
  balanced : ∀ c ∈ items, IsBalanced (c.slice s.tokens)

/-- The first `SELECT` stands outside all parentheses. -/
def SelectsOutside (s : Statement) : Prop :=
  ∃ i, s.tokens.findIdx? (·.isWord "SELECT") = some i ∧ s.depths[i]? = some 0

section SelectListAt

variable {U q list Y : List Token} {t : Token} (h : s.SelectListAt U t q list Y)

include h

theorem SelectListAt.selectsOutside_iff : s.SelectsOutside ↔ depthBehind 0 U = 0 := by
  simp [SelectsOutside, h.first, h.depth]

/-- Only behind the first `SELECT` there is a list to open. -/
theorem SelectListAt.opensList_iff : s.OpensList (U ++ t :: q).length ↔ s.SelectsOutside := by
  have hlength : (U ++ t :: q).length = U.length + 1 + q.length := by
    rw [List.length_append, List.length_cons]
    omega
  have hquantifier : t.isAnyOf ["DISTINCT", "ALL"] = false := isAnyOf_eq_false h.word (by decide)
  rw [h.selectsOutside_iff]
  constructor
  · rintro ⟨j, hdepth, hword, hi⟩
    suffices hj : j = U.length by
      rw [hj, h.depth] at hdepth
      exact Option.some.inj hdepth
    rcases h.quantifier with rfl | ⟨u, rfl, hu⟩
    · rcases hi with hi | ⟨hi, hbehind⟩
      · rw [List.length_nil] at hlength
        omega
      · -- The token in front of the list is the `SELECT`.
        have hj : j + 1 = U.length := by
          rw [List.length_nil] at hlength
          omega
        rw [hj, h.token, Option.any_some, hquantifier] at hbehind
        cases hbehind
    · rcases hi with hi | ⟨hi, -⟩
      · -- The token in front of the list is not the `SELECT`.
        have hj : j = U.length + 1 := by
          rw [List.length_singleton] at hlength
          omega
        have hselect : u.isWord "SELECT" = false := isAnyOf_eq_false hu (by decide)
        rw [hj, h.quantifier_token rfl, Option.any_some, hselect] at hword
        cases hword
      · rw [List.length_singleton] at hlength
        omega
  · intro hzero
    refine ⟨U.length, by rw [h.depth, hzero], by rw [h.token]; exact h.word, ?_⟩
    rcases h.quantifier with rfl | ⟨u, rfl, hu⟩
    · exact .inl hlength
    · exact .inr ⟨hlength, by rw [h.quantifier_token rfl]; exact hu⟩

section Outside

variable (hzero : depthBehind 0 U = 0)

include hzero

theorem SelectListAt.front_closed : depthBehind 0 (U ++ t :: q) = 0 := by
  rw [h.depthBehind_front, hzero]

theorem SelectListAt.items_outside : s.selectItems =
    piecesFrom cutItems (U ++ t :: q).length (U ++ t :: q).length () (withDepths 0 list) := by
  have hitems := h.items
  rwa [h.front_closed hzero] at hitems

/-- Each item lies between two places outside all parentheses. -/
theorem SelectListAt.whole_of_mem {c : Span} (hc : c ∈ s.selectItems) :
    s.depths[c.start]? = some 0 ∧ IsBalanced (c.slice s.tokens) := by
  have hfront := h.front_closed hzero
  rw [h.items_outside hzero] at hc
  obtain ⟨A, M, C, hpiece, rfl, -⟩ := exists_pieceIn of_cutItems hc
  have hsplit : s.tokens = (U ++ t :: q ++ A) ++ (M ++ (C ++ Y)) := by
    rw [h.split, hpiece.split]
    simp
  have hA : depthBehind 0 (U ++ t :: q ++ A) = 0 := by
    rw [depthBehind_append, hfront]
    by_cases hnil : A = []
    · rw [hnil]
      rfl
    · exact hpiece.start hnil
  have hM : depthBehind 0 (U ++ t :: q ++ A ++ M) = 0 := by
    cases C with
    | nil =>
      have hclosed := h.closed
      rw [hpiece.split] at hclosed
      simpa using hclosed
    | cons u C =>
      rw [List.append_assoc, depthBehind_append, hfront]
      exact hpiece.stop (List.cons_ne_nil u C)
  have hstart : (U ++ t :: q).length + A.length = (U ++ t :: q ++ A).length :=
    List.length_append.symm
  constructor
  · have hne := h.goes_on hpiece.split hpiece.front
    rw [List.append_assoc] at hne
    obtain ⟨u, Z, hZ⟩ := List.exists_cons_of_ne_nil hne
    rw [hZ] at hsplit
    dsimp only
    rw [hstart, depths_of_split hsplit, hA]
  · have hslice : (⟨(U ++ t :: q).length + A.length,
        (U ++ t :: q).length + A.length + M.length⟩ : Span).slice s.tokens = M := by
      rw [hsplit]
      exact Span.slice_append hstart rfl
    rw [hslice]
    exact isBalanced_of_split hsplit hA hM

theorem SelectListAt.separated :
    s.selectItems.IsChain fun c c' => s.SeparatedAt c.stop c'.start := by
  have hentries : s.tokensAtDepth.drop (U ++ t :: q).length =
      withDepths 0 list ++ withDepths (depthBehind 0 list) Y := by
    have hall : s.tokensAtDepth = withDepths 0 s.tokens := rfl
    rw [hall, h.split, withDepths_append, h.front_closed hzero, ← withDepths_append,
      List.drop_left' (length_withDepths 0 _)]
  rw [h.items_outside hzero]
  refine (isChain_piecesFrom hentries).imp ?_
  rintro c c' ⟨hnext, ⟨depth, u⟩, hentry, state, hcut⟩
  obtain ⟨rfl, hcomma, -⟩ := of_cutItems state depth u hcut
  obtain ⟨hdepth, htoken⟩ := List.getElem?_zip_eq_some.1 hentry
  exact ⟨hnext, hdepth, by rw [htoken]; exact hcomma⟩

/-- Behind a `SELECT` outside all parentheses there is a list of items. -/
theorem SelectListAt.isItemList : s.IsItemList s.selectItems := by
  have hitems := h.items_outside hzero
  constructor
  case front =>
    intro c hc
    obtain ⟨first, more, hfirst, hstart⟩ := exists_first_piece cutItems (U ++ t :: q).length
      (U ++ t :: q).length () (withDepths 0 list)
    rw [hitems, hfirst] at hc
    obtain rfl : first = c := Option.some.inj hc
    rw [hstart, h.opensList_iff, h.selectsOutside_iff]
    exact hzero
  case ordered =>
    intro c hc
    rw [hitems] at hc
    exact start_le_stop_of_mem_piecesFrom le_rfl hc
  case separated => exact h.separated hzero
  case outside => exact fun c hc => (h.whole_of_mem hzero hc).1
  case balanced => exact fun c hc => (h.whole_of_mem hzero hc).2

end Outside

end SelectListAt

theorem isItemList_nil (s : Statement) : s.IsItemList [] :=
  ⟨by simp, by simp, .nil, by simp, by simp⟩

/-- Where items are found, they are the items of a `SELECT` outside all parentheses just if the
first `SELECT` of the statement stands there. -/
theorem isItemList_selectItems_iff (s : Statement) :
    s.IsItemList s.selectItems ↔ s.selectItems = [] ∨ s.SelectsOutside := by
  by_cases hnil : s.selectItems = []
  · rw [hnil]
    exact iff_of_true s.isItemList_nil (.inl rfl)
  · obtain ⟨U, t, q, list, Y, h⟩ := exists_selectList hnil
    rw [or_iff_right hnil]
    constructor
    · intro hitems
      obtain ⟨first, more, hfirst, hstart⟩ := exists_first_piece cutItems (U ++ t :: q).length
        (U ++ t :: q).length () (withDepths (depthBehind 0 (U ++ t :: q)) list)
      have hhead : first ∈ s.selectItems.head? := by
        rw [h.items, hfirst]
        rfl
      have hopens := hitems.front first hhead
      rw [hstart] at hopens
      exact h.opensList_iff.1 hopens
    · intro houtside
      exact h.isItemList (h.selectsOutside_iff.1 houtside)

/-- The item found here is the end of the inner query and the main `SELECT` up to its `FROM`. -/
theorem not_isItemList_selectItems_with : ∃ s,
    Statement.parse "WITH x AS (SELECT 1) SELECT a FROM x" = .ok s ∧ s.kind = .select ∧
      s.selectItems = [⟨5, 9⟩] ∧ s.depths[5]? = some 1 ∧
      ¬IsBalanced ((⟨5, 9⟩ : Span).slice s.tokens) ∧ ¬s.IsItemList s.selectItems := by
  obtain ⟨s, hs, hkind, hitems, hdepth, hbalanced⟩ : ∃ s,
      parse "WITH x AS (SELECT 1) SELECT a FROM x" = .ok s ∧ s.kind = .select ∧
        s.selectItems = [⟨5, 9⟩] ∧ s.depths[5]? = some 1 ∧
        ¬IsBalanced ((⟨5, 9⟩ : Span).slice s.tokens) :=
    exists_of_parse (by decide +kernel)
  refine ⟨s, hs, hkind, hitems, hdepth, hbalanced, ?_⟩
  intro hlist
  exact hbalanced (hlist.balanced ⟨5, 9⟩ (by simp [hitems]))

end Statement

end Sql
end QueryFuzz
