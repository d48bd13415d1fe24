import QueryFuzz.Proofs.Sql.Bounds

/-!
# Counting the items of a head

The pieces of a region lie between the tokens at which it is cut. A head has one item more than
there are commas outside parentheses behind its `SELECT`, so a longer head has no fewer items, and
exchanging tokens without such commas adds none.
-/

namespace QueryFuzz
namespace Sql

/-! ## Pieces -/

section Pieces

variable {σ : Type} {cut : σ → ℕ → Token → Bool × σ}

/-- Is there a state in which the token is cut at, or not? -/
def CanBe (cut : σ → ℕ → Token → Bool × σ) (cuts : Bool) (entry : ℕ × Token) : Prop :=
  ∃ state, (cut state entry.1 entry.2).1 = cuts

/-- A piece lies between two cuts, or ends of the region, and holds none itself. -/
theorem exists_of_mem_piecesFrom {start : ℕ} {state : σ} {front region : List (ℕ × Token)}
    {piece : Span} (hfront : ∀ entry ∈ front, CanBe cut false entry)
    (h : piece ∈ piecesFrom cut start (start + front.length) state region) :
    ∃ X M Y, front ++ region = X ++ (M ++ Y) ∧
      piece = ⟨start + X.length, start + X.length + M.length⟩ ∧
      (∀ entry ∈ X.getLast?, CanBe cut true entry) ∧ (∀ entry ∈ Y.head?, CanBe cut true entry) ∧
      ∀ entry ∈ M, CanBe cut false entry := by
  induction region generalizing start state front with
  | nil =>
    obtain rfl := List.mem_singleton.1 h
    exact ⟨[], front, [], by simp, rfl, by simp, by simp, hfront⟩
  | cons entry region ih =>
    obtain ⟨depth, t⟩ := entry
    rw [piecesFrom] at h
    cases hcut : cut state depth t with
    | mk cuts state' =>
    rw [hcut] at h
    cases cuts with
    | true =>
      have hentry : CanBe cut true (depth, t) := ⟨state, by rw [hcut]⟩
      rcases List.mem_cons.1 h with rfl | h
      · exact ⟨[], front, (depth, t) :: region, rfl, rfl, by simp, by simpa using hentry, hfront⟩
      · obtain ⟨X, M, Y, hsplit, rfl, hX, hY, hM⟩ :=
          @ih (start + front.length + 1) state' [] (by simp) h
        refine ⟨front ++ (depth, t) :: X, M, Y, ?_, ?_, ?_, hY, hM⟩
        · rw [List.nil_append] at hsplit
          rw [hsplit]
          simp
        · rw [List.length_append, List.length_cons]
          congr 1 <;> omega
        · intro entry hlast
          rw [List.getLast?_append_cons] at hlast
          cases X with
          | nil =>
            obtain rfl : (depth, t) = entry := by simpa using hlast
            exact hentry
          | cons u X => exact hX entry (by rwa [List.getLast?_cons_cons] at hlast)
    | false =>
      have hentry : CanBe cut false (depth, t) := ⟨state, by rw [hcut]⟩
      have hmore := @ih start state' (front ++ [(depth, t)]) (by
        intro entry hmem
        rcases List.mem_append.1 hmem with hmem | hmem
        · exact hfront entry hmem
        · obtain rfl := List.mem_singleton.1 hmem
          exact hentry) (by simpa [Nat.add_assoc] using h)
      simpa using hmore

/-- What is cut nowhere is one piece. -/
theorem piecesFrom_eq_singleton {start index : ℕ} {state : σ} {region : List (ℕ × Token)}
    (h : ∀ entry ∈ region, ¬CanBe cut true entry) :
    piecesFrom cut start index state region = [⟨start, index + region.length⟩] := by
  induction region generalizing index state with
  | nil => rfl
  | cons entry region ih =>
    obtain ⟨hentry, hregion⟩ := List.forall_mem_cons.1 h
    rw [piecesFrom]
    cases hcut : cut state entry.1 entry.2 with
    | mk cuts state' =>
    cases cuts with
    | true => exact absurd ⟨state, by rw [hcut]⟩ hentry
    | false =>
      dsimp only
      rw [ih hregion, List.length_cons, Nat.add_right_comm, Nat.add_assoc]

/-- The tokens with their depths. -/
def withDepths (d : ℕ) (ts : List Token) : List (ℕ × Token) :=
  (depthsFrom d ts).zip ts

theorem withDepths_cons (d : ℕ) (t : Token) (ts : List Token) :
    withDepths d (t :: ts) = (d, t) :: withDepths (depthPast d t) ts :=
  rfl

theorem withDepths_append (d : ℕ) (ts us : List Token) :
    withDepths d (ts ++ us) = withDepths d ts ++ withDepths (depthBehind d ts) us := by
  rw [withDepths, depthsFrom_append, List.zip_append (Statement.length_depthsFrom d ts)]
  rfl

theorem exists_of_withDepths {d : ℕ} {ts : List Token} {P Q : List (ℕ × Token)}
    (h : withDepths d ts = P ++ Q) :
    ∃ A B, ts = A ++ B ∧ P = withDepths d A ∧ Q = withDepths (depthBehind d A) B := by
  induction P generalizing d ts with
  | nil => exact ⟨[], ts, rfl, rfl, h.symm⟩
  | cons entry P ih =>
    cases ts with
    | nil => cases h
    | cons t ts =>
      obtain ⟨hentry, hrest⟩ := List.cons.inj h
      obtain ⟨A, B, rfl, rfl, rfl⟩ := ih hrest
      exact ⟨t :: A, B, rfl, by rw [withDepths_cons, hentry], rfl⟩

theorem length_withDepths (d : ℕ) (ts : List Token) : (withDepths d ts).length = ts.length := by
  rw [withDepths, List.length_zip, Statement.length_depthsFrom, Nat.min_self]

/-- Between which tokens of a region a piece lies. -/
structure PieceIn (isCutter : Token → Bool) (d : ℕ) (region A M C : List Token) : Prop where
  split : region = A ++ (M ++ C)
  front : A.getLast?.all isCutter
  behind : C.head?.all isCutter
  start : A ≠ [] → depthBehind d A = 0
  stop : C ≠ [] → depthBehind d (A ++ M) = 0

theorem exists_pieceIn {isCutter : Token → Bool} {start d : ℕ} {state : σ} {region : List Token}
    {piece : Span}
    (hcut : ∀ state depth t, (cut state depth t).1 = true →
      depth = 0 ∧ isCutter t ∧ depthPast 0 t = 0)
    (h : piece ∈ piecesFrom cut start start state (withDepths d region)) :
    ∃ A M C, PieceIn isCutter d region A M C ∧
      piece = ⟨start + A.length, start + A.length + M.length⟩ ∧
      ∀ entry ∈ withDepths (depthBehind d A) M, CanBe cut false entry := by
  obtain ⟨X, M, Y, hsplit, rfl, hX, hY, hM⟩ := @exists_of_mem_piecesFrom _ _ start state []
    (withDepths d region) piece (by simp) h
  obtain ⟨A, B, rfl, rfl, hB⟩ := exists_of_withDepths hsplit
  obtain ⟨M, C, rfl, rfl, rfl⟩ := exists_of_withDepths hB.symm
  have hfront : A.getLast?.all isCutter ∧ (A ≠ [] → depthBehind d A = 0) := by
    rcases List.eq_nil_or_concat' A with rfl | ⟨A', t, rfl⟩
    · exact ⟨rfl, fun h => absurd rfl h⟩
    · have hlast : (withDepths d (A' ++ [t])).getLast? = some (depthBehind d A', t) := by
        rw [withDepths_append]
        exact List.getLast?_append_cons _ _ _
      have hentry := hX (depthBehind d A', t) hlast
      obtain ⟨state, hentry⟩ := hentry
      obtain ⟨hdepth, ht, hpast⟩ := hcut state (depthBehind d A') t hentry
      refine ⟨by simpa using ht, fun _ => ?_⟩
      rw [depthBehind_append, hdepth]
      exact hpast
  have hbehind : C.head?.all isCutter ∧ (C ≠ [] → depthBehind d (A ++ M) = 0) := by
    cases C with
    | nil => exact ⟨rfl, fun h => absurd rfl h⟩
    | cons t C =>
      obtain ⟨state, hentry⟩ := hY (depthBehind (depthBehind d A) M, t) rfl
      obtain ⟨hdepth, ht, -⟩ := hcut state _ t hentry
      exact ⟨ht, fun _ => by rwa [depthBehind_append]⟩
  refine ⟨A, M, C, ⟨rfl, hfront.1, hbehind.1, hfront.2, hbehind.2⟩, ?_, hM⟩
  rw [length_withDepths, length_withDepths]

end Pieces

/-! ## Counting items -/

/-- The commas outside all parentheses. -/
def commaCount (d : ℕ) (ts : List Token) : ℕ :=
  (outside d ts).countP isComma

theorem commaCount_append (d : ℕ) (ts us : List Token) :
    commaCount d (ts ++ us) = commaCount d ts + commaCount (depthBehind d ts) us := by
  rw [commaCount, outside_append, List.countP_append]
  rfl

theorem countP_withDepths (d : ℕ) (ts : List Token) :
    (withDepths d ts).countP isCut = commaCount d ts :=
  countP_zip_depthsFrom d ts

/-- The tokens behind the first `SELECT`, with their depth. -/
def behindSelect (d : ℕ) : List Token → Option (ℕ × List Token)
  | [] => none
  | t :: rest =>
    if t.isWord "SELECT" then some (depthPast d t, rest) else behindSelect (depthPast d t) rest

/-- A list of items without `DISTINCT` or `ALL`. -/
def bareList : List Token → List Token
  | [] => []
  | t :: rest => if t.isAnyOf ["DISTINCT", "ALL"] then rest else t :: rest

/-- The number of items in a list. -/
def listLength (d : ℕ) (ts : List Token) : ℕ :=
  if bareList ts = [] then 0 else commaCount d ts + 1

/-- The number of items in a head. -/
def headItems (head : List Token) : ℕ :=
  match behindSelect 0 head with
  | none => 0
  | some (d, ts) => listLength d ts

theorem behindSelect_append (d : ℕ) (ts us : List Token) :
    behindSelect d (ts ++ us) = match behindSelect d ts with
      | some (depth, list) => some (depth, list ++ us)
      | none => behindSelect (depthBehind d ts) us := by
  induction ts generalizing d with
  | nil => rfl
  | cons t ts ih =>
    rw [List.cons_append, behindSelect, behindSelect]
    split_ifs with ht
    · rfl
    · exact ih (depthPast d t)

theorem isSome_behindSelect_append {d : ℕ} {ts : List Token} (h : (behindSelect d ts).isSome)
    (us : List Token) : (behindSelect d (ts ++ us)).isSome := by
  rw [behindSelect_append]
  cases hfound : behindSelect d ts with
  | none => simp [hfound] at h
  | some found => rfl

theorem bareList_append {ts : List Token} (h : bareList ts ≠ []) (us : List Token) :
    bareList (ts ++ us) ≠ [] := by
  cases ts with
  | nil => exact absurd rfl h
  | cons t ts =>
    rw [bareList] at h
    rw [List.cons_append, bareList]
    split_ifs at h ⊢ with ht
    · simp [h]
    · simp

theorem listLength_le (d : ℕ) (ts : List Token) : listLength d ts ≤ commaCount d ts + 1 := by
  unfold listLength
  split_ifs
  · omega
  · exact le_refl _

theorem listLength_append (d : ℕ) (ts us : List Token) :
    listLength d ts ≤ listLength d (ts ++ us) := by
  by_cases h : bareList ts = []
  · rw [listLength, if_pos h]
    exact Nat.zero_le _
  · rw [listLength, listLength, if_neg h, if_neg (bareList_append h us), commaCount_append]
    omega

/-- A longer head has no fewer items. -/
theorem headItems_mono {H H' : List Token} (h : H' <+: H) : headItems H' ≤ headItems H := by
  obtain ⟨Y, rfl⟩ := h
  unfold headItems
  rw [behindSelect_append]
  cases behindSelect 0 H' with
  | none => exact Nat.zero_le _
  | some list => exact listLength_append list.1 list.2 Y

theorem depthBehind_of_behindSelect {d depth : ℕ} {ts list : List Token}
    (h : behindSelect d ts = some (depth, list)) : depthBehind depth list = depthBehind d ts := by
  induction ts generalizing d with
  | nil => cases h
  | cons t ts ih =>
    rw [behindSelect] at h
    split_ifs at h with ht
    · obtain ⟨rfl, rfl⟩ := Prod.mk.inj (Option.some.inj h)
      rfl
    · exact ih h

/-- Exchanging tokens behind the `SELECT` for others without commas adds no item. -/
theorem headItems_le_of_exchange {B M P K : List Token} (hselect : (behindSelect 0 B).isSome)
    (hdepth : depthBehind 0 (B ++ P) = depthBehind 0 (B ++ M))
    (hP : commaCount (depthBehind 0 B) P = 0) (hne : headItems (B ++ (M ++ K)) ≠ 0) :
    headItems (B ++ (P ++ K)) ≤ headItems (B ++ (M ++ K)) := by
  obtain ⟨⟨depth, list⟩, hlist⟩ := Option.isSome_iff_exists.1 hselect
  have hdepthB := depthBehind_of_behindSelect hlist
  have hheads : ∀ Y, headItems (B ++ Y) = listLength depth (list ++ Y) := by
    intro Y
    unfold headItems
    rw [behindSelect_append, hlist]
  have hcommas : ∀ Q, commaCount depth (list ++ (Q ++ K)) =
      commaCount depth list + commaCount (depthBehind 0 B) Q +
        commaCount (depthBehind 0 (B ++ Q)) K := by
    intro Q
    rw [commaCount_append, commaCount_append, hdepthB, depthBehind_append, Nat.add_assoc]
  rw [hheads, hheads] at *
  have hupper := listLength_le depth (list ++ (P ++ K))
  have hfull : listLength depth (list ++ (M ++ K)) = commaCount depth (list ++ (M ++ K)) + 1 := by
    unfold listLength at hne ⊢
    split_ifs at hne ⊢
    · exact absurd rfl hne
    · rfl
  rw [hcommas, hP, hdepth] at hupper
  rw [hfull, hcommas]
  omega

theorem behindSelect_of_isInert {d : ℕ} {ts : List Token} (h : ∀ t ∈ ts, isInert t) :
    behindSelect d ts = none := by
  induction ts generalizing d with
  | nil => rfl
  | cons t ts ih =>
    obtain ⟨ht, hts⟩ := List.forall_mem_cons.1 h
    have hword : t.isWord "SELECT" = false := isAnyOf_of_isInert ht (by decide)
    rw [behindSelect, hword, if_neg Bool.false_ne_true, ih hts]

theorem commaCount_of_isInert {d : ℕ} {ts : List Token} (h : ∀ t ∈ ts, isInert t) :
    commaCount d ts = 0 := by
  induction ts generalizing d with
  | nil => rfl
  | cons t ts ih =>
    obtain ⟨ht, hts⟩ := List.forall_mem_cons.1 h
    have hcomma : isComma t = false := by simpa [isComma] using (kind_of_isInert ht).2.2.1
    have hfirst : ((if d = 0 then [t] else []) : List Token).countP isComma = 0 := by
      split_ifs <;> simp [hcomma]
    rw [commaCount, outside, List.countP_append, hfirst, ← commaCount, ih hts]

theorem bareList_of_isInert {ts K : List Token} {t : Token} (h : isInert t) :
    bareList (ts ++ t :: K) ≠ [] := by
  cases ts with
  | nil =>
    have hword : t.isAnyOf ["DISTINCT", "ALL"] = false := isAnyOf_of_isInert h (by decide)
    rw [List.nil_append, bareList, hword, if_neg Bool.false_ne_true]
    simp
  | cons u ts =>
    rw [List.cons_append, bareList]
    split_ifs <;> simp

/-- Exchanging a token without a shape for others adds no item. -/
theorem headItems_le_of_isInert {B P K : List Token} {t : Token} (ht : isInert t)
    (hP : ∀ u ∈ P, isInert u) : headItems (B ++ (P ++ K)) ≤ headItems (B ++ t :: K) := by
  have ht' : ∀ u ∈ [t], isInert u := by simpa using ht
  cases hselect : behindSelect 0 B with
  | none =>
    have hskip : ∀ Q, (∀ u ∈ Q, isInert u) →
        behindSelect 0 (B ++ (Q ++ K)) = behindSelect (depthBehind 0 B) K := by
      intro Q hQ
      rw [behindSelect_append, hselect, behindSelect_append, behindSelect_of_isInert hQ,
        depthBehind_of_isInert hQ]
    have hthere := hskip [t] ht'
    rw [List.singleton_append] at hthere
    unfold headItems
    rw [hskip P hP, hthere]
  | some found =>
    obtain ⟨depth, list⟩ := found
    refine headItems_le_of_exchange (M := [t]) ?_ ?_ (commaCount_of_isInert hP) ?_
    · rw [hselect]
      rfl
    · rw [depthBehind_append, depthBehind_append, depthBehind_of_isInert hP,
        depthBehind_of_isInert ht']
    · unfold headItems
      rw [behindSelect_append, hselect]
      dsimp only
      rw [listLength, List.singleton_append, if_neg (bareList_of_isInert ht)]
      exact Nat.succ_ne_zero _

/-! ## Depths in a statement -/

section Depths

variable {d more : ℕ} {before : Option Token} {A B : List Token}

/-- What fits never closes more than was opened, so more parentheses in front stay open. -/
theorem depthBehind_add (h : fitsFrom d before (A ++ B)) :
    depthBehind (d + more) A = depthBehind d A + more := by
  induction A generalizing d before with
  | nil => rfl
  | cons t A ih =>
    obtain ⟨-, depth', hdepth, hfits⟩ := fitsFrom_cons.1 h
    have hzero : depthPast d t = depth' := depthPast_add hdepth 0
    rw [depthBehind_cons, depthBehind_cons, depthPast_add hdepth, hzero]
    exact ih hfits

theorem fitsFrom_behind (h : fitsFrom d before (A ++ B)) :
    fitsFrom (depthBehind d A) (lastOr before A) B := by
  induction A generalizing d before with
  | nil => exact h
  | cons t A ih =>
    obtain ⟨-, depth', hdepth, hfits⟩ := fitsFrom_cons.1 h
    have hzero : depthPast d t = depth' := depthPast_add hdepth 0
    rw [lastOr_cons, depthBehind_cons, hzero]
    exact ih hfits

/-- Nothing of what fits is outside of one more parenthesis. -/
theorem outside_add (h : fitsFrom d before (A ++ B)) (hmore : 0 < more) :
    outside (d + more) A = [] := by
  have hall := outside_of_fitsFrom h hmore
  rw [outside_append] at hall
  exact (List.append_eq_nil_iff.1 hall).1

end Depths

/-- The items of a list with a first word. -/
theorem exists_behindSelect {d depth : ℕ} {ts list : List Token}
    (h : behindSelect d ts = some (depth, list)) : ∃ U t, ts = U ++ t :: list ∧
      t.isWord "SELECT" ∧ depthBehind d (U ++ [t]) = depth ∧ (behindSelect d (U ++ [t])).isSome ∧
      ts.findIdx? (·.isWord "SELECT") = some U.length := by
  induction ts generalizing d with
  | nil => cases h
  | cons t ts ih =>
    rw [behindSelect] at h
    split_ifs at h with ht
    · obtain ⟨rfl, rfl⟩ := Prod.mk.inj (Option.some.inj h)
      refine ⟨[], t, rfl, ht, rfl, ?_, ?_⟩
      · rw [List.nil_append, behindSelect, if_pos ht]
        rfl
      · rw [List.findIdx?_cons, if_pos ht]
        rfl
    · obtain ⟨U, u, rfl, hu, hdepth, hselect, hindex⟩ := ih h
      refine ⟨t :: U, u, rfl, hu, hdepth, ?_, ?_⟩
      · rwa [List.cons_append, behindSelect, if_neg ht]
      · rw [List.findIdx?_cons, if_neg ht, hindex]
        rfl

theorem findIdx?_of_behindSelect {d : ℕ} {ts : List Token} (h : behindSelect d ts = none) :
    ts.findIdx? (·.isWord "SELECT") = none := by
  induction ts generalizing d with
  | nil => rfl
  | cons t ts ih =>
    rw [behindSelect] at h
    split_ifs at h with ht
    rw [List.findIdx?_cons, if_neg ht, ih h]
    rfl

end Sql
end QueryFuzz
