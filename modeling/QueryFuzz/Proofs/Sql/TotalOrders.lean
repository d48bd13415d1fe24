import QueryFuzz.Decimal.Reading
import QueryFuzz.Proofs.Sql.Orders

/-!
# Total orders

A statement is totally ordered if its order is a list of positions that names every select item:
then no two different rows tie, and the rows can be compared one after the other. An edit that
keeps the orders of a statement keeps it totally ordered.
-/

namespace QueryFuzz
namespace Sql

/-- The output column that a token of an order names. -/
def position? (t : Token) : Option ℤ :=
  if t.kind = .integer then Decimal.readInteger? t.text.toList else none

/-- What can come next in a list of positions. -/
inductive ListPlace where
  /-- A position, at the beginning and behind a comma. -/
  | position
  /-- A direction, a comma or the end, behind a position. -/
  | direction
  /-- A comma or the end, behind a direction. -/
  | comma
  deriving DecidableEq, Repr

/-- The output columns that the rest of a list names, each with an optional direction. -/
def positionsFrom? : ListPlace → List Token → Option (List ℤ)
  | .position, [] => none
  | .direction, [] | .comma, [] => some []
  | .position, t :: rest =>
    (position? t).bind fun n => (positionsFrom? .direction rest).map (n :: ·)
  | .direction, t :: rest =>
    if t.kind = .comma then positionsFrom? .position rest
    else if t.isAnyOf ["ASC", "DESC"] then positionsFrom? .comma rest
    else none
  | .comma, t :: rest => if t.kind = .comma then positionsFrom? .position rest else none

/-- Does the order name each of so many output columns? -/
def covers (width : ℕ) : List Token → Bool
  | [] => false
  | t :: list =>
    t.isWord "BY" && (positionsFrom? .position list).any fun positions =>
      (List.range width).all fun i => positions.contains ((i : ℤ) + 1)

/-- Does each order name all select items? -/
def Statement.isTotallyOrdered (s : Statement) : Bool :=
  s.orders.all (covers s.selectItems.length)

/-- The tokens that an order of positions is made of. -/
def isPositional (t : Token) : Bool :=
  t.kind == .integer || t.kind == .comma || t.isAnyOf ["BY", "ASC", "DESC"]

theorem isPositional_of_position? {t : Token} {n : ℤ} (h : position? t = some n) :
    isPositional t := by
  unfold position? at h
  split_ifs at h with hkind
  simp [isPositional, hkind]

theorem isPositional_of_positionsFrom? {place : ListPlace} {list : List Token}
    {positions : List ℤ} (h : positionsFrom? place list = some positions) :
    ∀ t ∈ list, isPositional t := by
  induction list generalizing place positions with
  | nil => simp
  | cons t list ih =>
    have hcomma : t.kind = .comma → isPositional t := fun hkind => by simp [isPositional, hkind]
    cases place with
    | position =>
      obtain ⟨n, hn, hrest⟩ := Option.bind_eq_some_iff.1 h
      obtain ⟨more, hmore, -⟩ := Option.map_eq_some_iff.1 hrest
      exact List.forall_mem_cons.2 ⟨isPositional_of_position? hn, ih hmore⟩
    | direction =>
      rw [positionsFrom?] at h
      split_ifs at h with hkind hword
      · exact List.forall_mem_cons.2 ⟨hcomma hkind, ih h⟩
      · have ht : isPositional t := by
          rw [isPositional, isAnyOf_mono hword (by decide)]
          exact Bool.or_true _
        exact List.forall_mem_cons.2 ⟨ht, ih h⟩
    | comma =>
      rw [positionsFrom?] at h
      split_ifs at h with hkind
      exact List.forall_mem_cons.2 ⟨hcomma hkind, ih h⟩

theorem isPositional_of_covers {width : ℕ} {order : List Token} (h : covers width order) :
    ∀ t ∈ order, isPositional t := by
  cases order with
  | nil => cases h
  | cons t list =>
    obtain ⟨hby, hlist⟩ := Bool.and_eq_true_iff.1 h
    obtain ⟨positions, hpositions, -⟩ := (Option.any_eq_true _ _).1 hlist
    have ht : isPositional t := by
      rw [isPositional, isAnyOf_mono hby (by decide)]
      exact Bool.or_true _
    exact List.forall_mem_cons.2 ⟨ht, isPositional_of_positionsFrom? hpositions⟩

/-- What names every column names every one of fewer columns. -/
theorem covers_mono {width width' : ℕ} {order : List Token} (h : covers width order)
    (hle : width' ≤ width) : covers width' order := by
  cases order with
  | nil => cases h
  | cons t list =>
    obtain ⟨hby, hlist⟩ := Bool.and_eq_true_iff.1 h
    obtain ⟨positions, hpositions, hall⟩ := (Option.any_eq_true _ _).1 hlist
    rw [covers, hby, hpositions, Bool.true_and, Option.any_some, List.all_eq_true]
    intro i hi
    refine List.all_eq_true.1 hall i ?_
    rw [List.mem_range] at hi ⊢
    omega

theorem KeepsOrders.isTotallyOrdered {s r : Statement} (h : KeepsOrders s r)
    (hs : s.isTotallyOrdered) : r.isTotallyOrdered := by
  apply List.all_eq_true.2
  intro order horder
  exact covers_mono (List.all_eq_true.1 hs order (h.orders order horder)) h.items

theorem plainOrders_of_isTotallyOrdered {s : Statement} (h : s.isTotallyOrdered) :
    PlainOrders s := by
  intro order horder t ht
  have hpositional := isPositional_of_covers (List.all_eq_true.1 h order horder) t ht
  by_contra hmodifier
  have hmodifier := Bool.eq_true_of_not_eq_false hmodifier
  have hword : t.isAnyOf ["BY", "ASC", "DESC"] = false := isAnyOf_eq_false hmodifier (by decide)
  simp [isPositional, kind_of_isAnyOf hmodifier, hword] at hpositional

/-- The token at this position belongs to an order, behind the `ORDER` itself. -/
def Statement.IsInOrder (s : Statement) (i : ℕ) : Prop :=
  ∃ c ∈ s.clauses, c.kind = .orderBy ∧ c.span.start < i ∧ i < c.span.stop

theorem Statement.IsInOrder.exists_order {s : Statement} {i : ℕ} {t : Token}
    (h : s.IsInOrder i) (ht : s.tokens[i]? = some t) : ∃ order ∈ s.orders, t ∈ order := by
  obtain ⟨c, hc, hkind, hstart, hstop⟩ := h
  have hmem : (⟨c.span.start + 1, c.span.stop⟩ : Span).slice s.tokens ∈ s.orders :=
    List.mem_map.2 ⟨c, List.mem_filter.2 ⟨hc, by simp [hkind]⟩, rfl⟩
  refine ⟨_, hmem, List.mem_iff_getElem?.2 ⟨i - (c.span.start + 1), ?_⟩⟩
  rw [Span.slice, List.getElem?_drop, Nat.add_sub_cancel' hstart, List.getElem?_take, if_pos hstop,
    ht]

theorem isPositional_of_isInOrder {s : Statement} {i : ℕ} {t : Token} (hs : s.isTotallyOrdered)
    (h : s.IsInOrder i) (ht : s.tokens[i]? = some t) : isPositional t := by
  obtain ⟨order, horder, hmem⟩ := h.exists_order ht
  exact isPositional_of_covers (List.all_eq_true.1 hs order horder) t hmem

end Sql
end QueryFuzz
