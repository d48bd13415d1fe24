import QueryFuzz.Proofs.Sql.Pieces

/-!
# Edits that keep the orders

A statement keeps its orders under an edit that exchanges tokens inside of one clause, one item or
one conjunct, or that adds or drops whole clauses, and none of these edits adds a select item. The
only other way to change an order is to exchange a token of it.
-/

namespace QueryFuzz
namespace Sql

/-! ## What is kept -/

/-- Every order of the second statement is one of the first, and the second has no more select
items. -/
structure KeepsOrders (s r : Statement) : Prop where
  orders : ∀ order ∈ r.orders, order ∈ s.orders
  items : r.selectItems.length ≤ s.selectItems.length

section Edits

variable {s r : Statement} {t₀ : Token} {rest rest' : List Token}

theorem keepsOrders_of (hs : s.tokens = t₀ :: rest) (hr : r.tokens = t₀ :: rest')
    (hkind : s.kind = .select) (hkind' : r.kind = s.kind)
    (horders : ∀ order, HasOrder s.kind (depthPast 0 t₀) rest' order →
      HasOrder s.kind (depthPast 0 t₀) rest order)
    (hitems : headItems (t₀ :: clauseRest s.kind (depthPast 0 t₀) rest') ≤
      headItems (t₀ :: clauseRest s.kind (depthPast 0 t₀) rest)) : KeepsOrders s r := by
  constructor
  · intro order horder
    rw [Statement.mem_orders_iff hr, hkind'] at horder
    exact (Statement.mem_orders_iff hs).2 (horders order horder)
  · rw [Statement.length_selectItems_eq (hkind'.trans hkind) hr,
      Statement.length_selectItems_eq hkind hs, hkind']
    exact hitems

/-- No order holds a modifier of a join. -/
def PlainOrders (s : Statement) : Prop :=
  ∀ order ∈ s.orders, ∀ t ∈ order, isJoinModifier t = false

/-- Whole clauses may be put in or dropped where a clause begins. -/
theorem keepsOrders_of_boundary {A B B' : List Token} (hs : s.tokens = t₀ :: (A ++ B))
    (hr : r.tokens = t₀ :: (A ++ B')) (hkind : s.kind = .select) (hkind' : r.kind = s.kind)
    (hplain : PlainOrders s) (hB : IsBoundary s.kind (depthPast 0 t₀) A B)
    (hB' : clauseRest s.kind 0 B' = []) (hby : byAhead B' = false)
    (hkept : ∀ order, HasOrder s.kind 0 B' order → HasOrder s.kind 0 B order) :
    KeepsOrders s r := by
  have hby' : byAhead B = byAhead B' := hB.notBy.trans hby.symm
  have hwhole : joinAhead B → joinAhead B' ∨ A.getLast?.all (!isJoinModifier ·) :=
    fun h => .inr (hB.whole h)
  refine keepsOrders_of hs hr hkind hkind' (fun order horder => ?_) ?_
  · refine horder.of_boundary hB.closed hby' hwhole hB.rest hB' (hkept order) ?_
    intro order horder
    exact hplain order ((Statement.mem_orders_iff hs).2 horder)
  · refine headItems_mono ((List.prefix_cons_inj t₀).2 ?_)
    refine clauseRest_append_isPrefix hby' hwhole ?_
    rwa [hB.closed]

/-- A select item may be exchanged for something else without orders and commas. -/
theorem keepsOrders_of_item {A M C P : List Token} (hitem : s.ItemAt t₀ A M C)
    (hne : s.selectItems ≠ []) (hr : r.tokens = t₀ :: (A ++ (P ++ C))) (hkind : s.kind = .select)
    (hkind' : r.kind = s.kind)
    (hdepth : depthBehind (depthPast 0 t₀) (A ++ P) = depthBehind (depthPast 0 t₀) (A ++ M))
    (horders : ∀ order, ¬HasOrder s.kind (depthBehind (depthPast 0 t₀) A) P order)
    (hcommas : commaCount (depthBehind (depthPast 0 t₀) A) P = 0) : KeepsOrders s r := by
  obtain ⟨K, hinside⟩ := hitem.inside
  refine keepsOrders_of hitem.tokens hr hkind hkind' (fun order horder => ?_) ?_
  · refine horder.of_exchange hdepth ?_ horders (fun _ => hitem.front) ?_
    · exact not_hasOrder_of_clauseRest hinside s.kind
    · intro hby
      rw [hitem.notBy] at hby
      cases hby
  · have hK : clauseRest s.kind (depthBehind (depthPast 0 t₀) (A ++ M)) C = K := by
      refine clauseRest_behind ?_
      rw [List.append_assoc, List.append_assoc, hinside]
    have hlength := Statement.length_selectItems_eq hkind hitem.tokens
    have hpos : headItems ((t₀ :: A) ++ (M ++ K)) ≠ 0 := by
      rw [List.cons_append, ← hinside, ← hlength]
      exact fun h => hne (List.length_eq_zero_iff.1 h)
    have hle := headItems_le_of_exchange hitem.select hdepth hcommas hpos
    refine le_trans (headItems_mono ?_) (hle.trans_eq (by rw [List.cons_append, hinside]))
    rw [List.cons_append, List.prefix_cons_inj, ← hK, ← hdepth, ← List.append_assoc,
      ← List.append_assoc]
    exact clauseRest_append_le _ _ _ _

/-- Tokens of the predicate may be exchanged for something else without orders. -/
theorem keepsOrders_of_part {A₀ A M C P : List Token} {w : Token} (hpart : s.PartAt t₀ A₀ w A M C)
    (hr : r.tokens = t₀ :: (A₀ ++ w :: (A ++ (P ++ C)))) (hkind : s.kind = .select)
    (hkind' : r.kind = s.kind) (hplain : PlainOrders s)
    (hdepth : depthBehind 0 (A ++ P) = depthBehind 0 (A ++ M))
    (horders : ∀ order, ¬HasOrder s.kind (depthBehind 0 A) P order)
    (hfront : byAhead (P ++ C) → A.getLast?.all (!Token.isWord "ORDER" ·))
    (hbehind : byAhead C → P.getLast?.all (!Token.isWord "ORDER" ·)) : KeepsOrders s r := by
  obtain ⟨K, hinside⟩ := hpart.inside
  have hword : w.isWord "ORDER" = false := isAnyOf_eq_false hpart.word (by decide)
  have hby : w.isWord "BY" = false := isAnyOf_eq_false hpart.word (by decide)
  have hdepthw := depthPast_of_keyword (kind_of_isWord hpart.word) 0
  have hahead : ∀ Z, clauseAhead s.kind (w :: Z) := by
    intro Z
    rw [clauseAhead, clauseAt?_filter_iff.2 ⟨rfl, hpart.word⟩]
    rfl
  have hboundary : IsBoundary s.kind (depthPast 0 t₀) A₀ (w :: (A ++ (M ++ C))) := by
    refine ⟨hpart.closed, clauseRest_of_ahead (hahead _), hby, fun hjoin => ?_⟩
    have hnojoin : w.isWord "JOIN" = false := isAnyOf_eq_false hpart.word (by decide)
    have hnone : isJoinModifier w = false := isAnyOf_eq_false hpart.word (by decide)
    rw [joinAhead, hnojoin, hnone] at hjoin
    cases hjoin
  refine keepsOrders_of_boundary hpart.tokens hr hkind hkind' hplain hboundary
    (clauseRest_of_ahead (hahead _)) hby fun order horder => ?_
  rw [← List.cons_append] at horder ⊢
  refine horder.of_exchange ?_ ?_ ?_ ?_ hbehind
  · rwa [List.cons_append, List.cons_append, depthBehind_cons, depthBehind_cons, hdepthw]
  · intro order horder
    have hA := horder.of_cons hword
    rw [hdepthw] at hA
    exact not_hasOrder_of_clauseRest hinside s.kind order hA
  · rwa [depthBehind_cons, hdepthw]
  · intro h
    cases A with
    | nil => simpa using hword
    | cons u A =>
      rw [List.getLast?_cons_cons]
      exact hfront h

/-- A token without a shape may be exchanged for others, unless it stands in an order. -/
theorem keepsOrders_of_isInert {A C P : List Token} {t : Token}
    (hs : s.tokens = t₀ :: (A ++ t :: C)) (hr : r.tokens = t₀ :: (A ++ (P ++ C)))
    (hkind : s.kind = .select) (hkind' : r.kind = s.kind) (ht : isInert t)
    (hP : ∀ u ∈ P, isInert u) (hne : P ≠ []) :
    KeepsOrders s r ∨ ∃ c ∈ s.clauses, c.kind = .orderBy ∧ c.span.start < 1 + A.length ∧
      1 + A.length < c.span.stop := by
  have hitems : headItems (t₀ :: clauseRest s.kind (depthPast 0 t₀) (A ++ (P ++ C))) ≤
      headItems (t₀ :: clauseRest s.kind (depthPast 0 t₀) (A ++ t :: C)) := by
    obtain ⟨u, P', rfl⟩ := List.exists_cons_of_ne_nil hne
    have hu := hP u List.mem_cons_self
    have hby : byAhead (t :: C) = byAhead (u :: P' ++ C) :=
      (byAhead_of_isInert ht).trans (byAhead_of_isInert hu).symm
    have hjoin : joinAhead (t :: C) = joinAhead (u :: P' ++ C) :=
      (joinAhead_of_isInert ht).trans (joinAhead_of_isInert hu).symm
    rcases @clauseRest_append_congr s.kind (depthPast 0 t₀) A _ _ hby hjoin with
      hsame | ⟨hthere, hhere⟩
    · rw [hsame]
    · rw [hthere, hhere, clauseRest_of_isInert hP, clauseRest_cons_of_isInert ht]
      exact @headItems_le_of_isInert (t₀ :: A) _ _ _ ht hP
  by_cases hstays : ∀ order, HasOrder s.kind (depthPast 0 t₀) (A ++ (P ++ C)) order →
      HasOrder s.kind (depthPast 0 t₀) (A ++ t :: C) order
  · exact .inl (keepsOrders_of hs hr hkind hkind' hstays hitems)
  · right
    push Not at hstays
    obtain ⟨order, horder, hlost⟩ := hstays
    obtain ⟨X, o, A', K, rfl, hX, ho, hby, hrest⟩ :=
      (horder.of_isInert ht hP hne).resolve_left hlost
    have hsplit : s.tokens = t₀ :: (X ++ o :: (A' ++ t :: C)) := by
      rw [hs]
      simp
    refine ⟨_, Statement.mem_clauses_of_order hsplit hX ho hby, rfl, ?_, ?_⟩
    · simp only [List.length_append, List.length_cons]
      omega
    · rw [hrest]
      simp only [List.length_append, List.length_cons]
      omega

end Edits

end Sql
end QueryFuzz
