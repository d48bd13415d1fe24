import QueryFuzz.Proofs.Grammar.Selections
import QueryFuzz.Proofs.Sql.TotalOrders

/-!
# Orders that are added

An order by all output columns is a text of positions from one on. Put where a clause may begin in
a statement without an order, it is the only order of what comes out, and it names just these
positions.
-/

namespace QueryFuzz
namespace Sql

/-! ## Positions -/

/-- The positions of so many output columns. -/
def columnPositions (width : ℕ) : List ℤ :=
  (List.range' 1 width).map (↑)

theorem columnPositions_inj {width width' : ℕ} :
    columnPositions width = columnPositions width' ↔ width = width' := by
  constructor
  · intro h
    have hlength := congrArg List.length h
    simpa [columnPositions] using hlength
  · rintro rfl
    rfl

/-- The output columns that the tokens behind an `ORDER` name. -/
def orderPositions? : List Token → Option (List ℤ)
  | [] => none
  | t :: list => if t.isWord "BY" then positionsFrom? .position list else none

theorem isPositional_of_orderPositions? {order : List Token} {positions : List ℤ}
    (h : orderPositions? order = some positions) : ∀ t ∈ order, isPositional t := by
  cases order with
  | nil => simp
  | cons t list =>
    rw [orderPositions?] at h
    split_ifs at h with hby
    have ht : isPositional t := by
      rw [isPositional, isAnyOf_mono hby (by decide)]
      exact Bool.or_true _
    exact List.forall_mem_cons.2 ⟨ht, isPositional_of_positionsFrom? h⟩

theorem byAhead_of_orderPositions? {order : List Token} {positions : List ℤ}
    (h : orderPositions? order = some positions) : byAhead order := by
  cases order with
  | nil => cases h
  | cons t list =>
    rw [orderPositions?] at h
    split_ifs at h with hby
    exact hby

namespace Statement

variable {s : Statement}

/-- The statement has an order, and by just these output columns. -/
def IsOrderedBy (s : Statement) (positions : List ℤ) : Prop :=
  s.orders ≠ [] ∧ ∀ order ∈ s.orders, orderPositions? order = some positions

instance (s : Statement) (positions : List ℤ) : Decidable (s.IsOrderedBy positions) :=
  inferInstanceAs (Decidable (_ ∧ _))

theorem IsOrderedBy.unique {positions positions' : List ℤ} (h : s.IsOrderedBy positions)
    (h' : s.IsOrderedBy positions') : positions = positions' := by
  obtain ⟨order, more, horders⟩ := List.exists_cons_of_ne_nil h.1
  have hmem : order ∈ s.orders := by simp [horders]
  exact Option.some.inj ((h.2 order hmem).symm.trans (h'.2 order hmem))

theorem hasClause_orderBy_iff : s.hasClause .orderBy ↔ s.orders ≠ [] := by
  simp [hasClause, orders]

end Statement

/-! ## Texts of positions -/

section Texts

open Grammar

theorem position?_wholeNumber (n : ℕ) : position? (wholeNumber n) = some (n : ℤ) := by
  have hread := Decimal.readInteger?_digits false Nat.toDigits_ne_nil (Decimal.isDigit_toDigits n)
  rw [Decimal.digitsValue_toDigits] at hread
  rw [position?, wholeNumber, if_pos rfl, toList_toString]
  exact hread

/-- The positions behind another one are read back. -/
theorem positionsFrom?_positionTokens (position : ℕ) (descending : Bool) (rest : List Bool) :
    positionsFrom? .direction (directionTokens descending ++ positionTokens position rest) =
      some ((List.range' position rest.length).map (↑)) := by
  have hcomma : (⟨.comma, ","⟩ : Token).kind = .comma := rfl
  have hdesc : (Token.ofKeyword "DESC").isAnyOf ["ASC", "DESC"] := by decide +kernel
  have hword : ¬(Token.ofKeyword "DESC").kind = .comma := by decide +kernel
  induction rest generalizing position descending with
  | nil =>
    cases descending with
    | false => rfl
    | true =>
      rw [directionTokens, if_pos rfl, positionTokens, List.append_nil, positionsFrom?,
        if_neg hword, if_pos hdesc]
      rfl
  | cons next rest ih =>
    have hrest : positionsFrom? .position (wholeNumber position ::
        (directionTokens next ++ positionTokens (position + 1) rest)) =
        some ((List.range' position (next :: rest).length).map (↑)) := by
      rw [positionsFrom?, position?_wholeNumber, ih]
      rfl
    rw [positionTokens]
    cases descending with
    | false =>
      rw [directionTokens, if_neg Bool.false_ne_true, List.nil_append, positionsFrom?,
        if_pos hcomma, hrest]
    | true =>
      rw [directionTokens, if_pos rfl, List.singleton_append, positionsFrom?, if_neg hword,
        if_pos hdesc, positionsFrom?, if_pos hcomma, hrest]

/-- An order by all output columns names all of them. -/
theorem exists_orderTokens {directions : List Bool} (hne : directions ≠ []) :
    ∃ order, orderTokens directions = .ofKeyword "ORDER" :: order ∧
      orderPositions? order = some (columnPositions directions.length) := by
  obtain ⟨descending, rest, rfl⟩ := List.exists_cons_of_ne_nil hne
  have hby : (Token.ofKeyword "BY").isWord "BY" := by decide +kernel
  refine ⟨_, rfl, ?_⟩
  rw [orderPositions?, if_pos hby, positionsFrom?, position?_wholeNumber,
    positionsFrom?_positionTokens]
  rfl

theorem Spells.more {a b : String} {ts us : List Token} (ha : Spells a ts)
    (hb : SpellsMore false b us) : Spells (a ++ b) (ts ++ us) := by
  rcases hb with ⟨rfl, rfl⟩ | hb
  · simpa using ha
  · exact ha.append hb.spells hb.breaks

theorem spells_orderByText {directions : List Bool} (hne : directions ≠ []) :
    Spells (orderByText directions) (orderTokens directions) := by
  obtain ⟨descending, rest, rfl⟩ := List.exists_cons_of_ne_nil hne
  have hopens : Opens "ORDER BY " [.ofKeyword "ORDER", .ofKeyword "BY"] :=
    opens_of_fixedTokens? (by decide +kernel)
  have hmore := (spellsMore_direction descending).append (spellsMore_positions 2 rest)
  rw [orderByText, intercalate_orderTerms]
  exact hopens.append_spells ((spells_wholeNumber 1).more hmore)

end Texts

/-! ## Where an order is put -/

section Places

variable {k : StatementKind} {d : ℕ} {A C P order : List Token} {o : Token}

theorem depthPast_of_isPositional {t : Token} (h : isPositional t) (d : ℕ) : depthPast d t = d := by
  simp only [isPositional, Bool.or_eq_true, beq_iff_eq] at h
  rcases h with (hkind | hkind) | hword
  · simp [depthPast, hkind]
  · simp [depthPast, hkind]
  · exact depthPast_of_keyword (kind_of_isAnyOf hword) d

/-- None of the words that cut a statement stands in a list of positions. -/
theorem isAnyOf_of_isPositional {t : Token} (h : isPositional t) {words : List String}
    (hwords : ∀ word ∈ ["BY", "ASC", "DESC"], word ∉ words) : t.isAnyOf words = false := by
  simp only [isPositional, Bool.or_eq_true, beq_iff_eq] at h
  rcases h with (hkind | hkind) | hword
  · simp [Token.isAnyOf, hkind]
  · simp [Token.isAnyOf, hkind]
  · exact isAnyOf_eq_false hword hwords

theorem clauseAhead_of_isPositional {t : Token} (h : isPositional t) :
    clauseAhead k (t :: C) = false := by
  have hcalm : isCalm false t := by
    rw [isCalm, isAnyOf_of_isPositional h (by decide)]
    rfl
  have hjoin : t.isWord "JOIN" = false := isAnyOf_of_isPositional h (by decide)
  have hmodifier : isJoinModifier t = false := isAnyOf_of_isPositional h (by decide)
  rw [clauseAhead, clauseAt?_of_isCalm hcalm, joinAhead, hjoin, hmodifier]
  rfl

theorem clauseRest_of_isPositional (h : ∀ u ∈ P, isPositional u) :
    clauseRest k 0 (P ++ C) = P ++ clauseRest k 0 C := by
  induction P with
  | nil => rfl
  | cons u P ih =>
    obtain ⟨hu, hP⟩ := List.forall_mem_cons.1 h
    rw [List.cons_append, clauseRest, clauseAhead_of_isPositional hu, if_neg (by simp),
      depthPast_of_isPositional hu, ih hP]
    rfl

theorem depthBehind_of_isPositional (h : ∀ u ∈ P, isPositional u) : depthBehind d P = d := by
  induction P with
  | nil => rfl
  | cons u P ih =>
    obtain ⟨hu, hP⟩ := List.forall_mem_cons.1 h
    rw [depthBehind_cons, depthPast_of_isPositional hu, ih hP]

/-- An order that is put where a clause may begin is the only one there. -/
theorem hasOrder_added_iff (ho : o.isWord "ORDER") (hP : ∀ u ∈ P, isPositional u)
    (hby : byAhead P) (hA : depthBehind d A = 0) (hC : clauseRest k 0 C = [])
    (hnone : ∀ order, ¬HasOrder k d (A ++ C) order) :
    HasOrder k d (A ++ o :: (P ++ C)) order ↔ order = P := by
  have hrest : clauseRest k 0 (P ++ C) = P := by
    rw [clauseRest_of_isPositional hP, hC, List.append_nil]
  have hpast : depthBehind 0 (o :: P) = 0 := by
    rw [depthBehind_cons, depthPast_of_keyword (kind_of_isWord ho), depthBehind_of_isPositional hP]
  constructor
  · rintro ⟨X, o', Z, hsplit, hX, ho', hbyZ, rfl⟩
    rcases append_eq_append_cons hsplit with ⟨A', rfl, rfl⟩ | ⟨B, rfl, hB⟩
    · -- An order in front of it was there before.
      exfalso
      cases A' with
      | nil =>
        have hno : o.isWord "BY" = false := isAnyOf_eq_false ho (by decide)
        rw [List.nil_append, byAhead, List.head?_cons, Option.any_some, hno] at hbyZ
        cases hbyZ
      | cons u A' =>
        exact hnone _ ⟨X, o', u :: A' ++ C, by simp, hX, ho', hbyZ, rfl⟩
    · cases B with
      | nil =>
        obtain ⟨rfl, rfl⟩ := List.cons.inj hB
        exact hrest
      | cons u B =>
        obtain ⟨rfl, hPC⟩ := List.cons.inj hB
        exfalso
        rcases append_eq_append_cons hPC with ⟨P', rfl, -⟩ | ⟨C', rfl, rfl⟩
        · have hpositional := hP o' (by simp)
          have hno : o'.isWord "ORDER" = false := isAnyOf_of_isPositional hpositional (by decide)
          rw [ho'] at hno
          cases hno
        · -- So was an order behind it.
          have hdepth : depthBehind d (A ++ C') = 0 := by
            rw [depthBehind_append, hA]
            rw [← List.cons_append, depthBehind_append, hA, depthBehind_append, hpast] at hX
            exact hX
          exact hnone _ ⟨A ++ C', o', Z, by simp, hdepth, ho', hbyZ, rfl⟩
  · rintro rfl
    have hbyC : byAhead (order ++ C) := by
      cases order with
      | nil => cases hby
      | cons u P => exact hby
    exact ⟨A, o, order ++ C, rfl, hA, ho, hbyC, hrest⟩

/-- A statement into which an order was put is ordered by what it names. -/
theorem Statement.isOrderedBy_of_added {s r : Statement} {t₀ : Token} {positions : List ℤ}
    (hs : s.tokens = t₀ :: (A ++ C)) (hr : r.tokens = t₀ :: (A ++ o :: (P ++ C)))
    (hkind : r.kind = s.kind) (hnone : s.orders = [])
    (hboundary : IsBoundary s.kind (depthPast 0 t₀) A C) (ho : o.isWord "ORDER")
    (hP : orderPositions? P = some positions) : r.IsOrderedBy positions := by
  have horders : ∀ order, order ∈ r.orders ↔ order = P := by
    intro order
    rw [mem_orders_iff hr, hkind]
    apply hasOrder_added_iff ho (isPositional_of_orderPositions? hP)
      (byAhead_of_orderPositions? hP) hboundary.closed hboundary.rest
    intro order horder
    rw [← mem_orders_iff hs, hnone] at horder
    cases horder
  constructor
  · exact List.ne_nil_of_mem ((horders P).2 rfl)
  · intro order horder
    rw [(horders order).1 horder]
    exact hP

end Places

end Sql
end QueryFuzz
