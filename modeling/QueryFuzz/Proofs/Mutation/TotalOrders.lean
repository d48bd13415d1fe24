import QueryFuzz.Proofs.Mutation.Exchanges

/-!
# Mutations of a totally ordered query

Results of a query with an order are compared row by row, so the order has to be total. Every
operator that promises a statement leaves a total order total, but for the one that exchanges
literals: the positions of an order are literals, too, and are not left out of its sites.
-/

namespace QueryFuzz
namespace Mutation

open Sql Draw

/-- What an operator makes of a totally ordered query before the check keeps its orders, unless a
position is exchanged. -/
theorem gives_preserves {op : Operator} {m : Material} {s : Statement}
    (hop : op.guarantee.wellFormed) (hkind : s.kind = .select) (horder : s.hasClause .orderBy)
    (hs : s.isTotallyOrdered) :
    Gives (fun ts => Preserves s ts ∨ op = .literalValue ∧ ExchangesPosition s ts)
      (op.unchecked m s) := by
  have hplain := plainOrders_of_isTotallyOrdered hs
  cases op with
  | literalValue =>
    apply (preserves_mutateLiteral hkind hs).mono
    intro ts h
    exact h.imp_right fun hexchange => ⟨rfl, hexchange⟩
  | operatorSubstitution => exact (preserves_substituteOperator hkind hs).mono fun _ => .inl
  | clauseInsertion => exact (preserves_insertClause hkind hplain horder).mono fun _ => .inl
  | clauseDeletion => exact (preserves_deleteClause hkind hplain).mono fun _ => .inl
  | identifierSubstitution => exact (preserves_substituteIdentifier hkind hs).mono fun _ => .inl
  | functionWrap => exact (preserves_wrapInFunction hkind hplain).mono fun _ => .inl
  | structuralSplice => exact (preserves_splicePiece hkind hplain).mono fun _ => .inl
  | quoteFlip => cases hop

/-- Whatever an operator that promises a statement makes of a totally ordered query is a totally
ordered query or one without an order, unless it exchanges a position of the order for another
literal. -/
theorem transform_keeps_total_order (op : Operator) (m : Material) {s : Statement}
    {keys : KeyStream} {ts : List Token} (hop : op.guarantee.wellFormed)
    (hkind : s.kind = .select) (horder : s.hasClause .orderBy) (hs : s.isTotallyOrdered)
    (hts : ((op.transform m s).run keys).value = some ts) :
    ∃ r : Statement, r.tokens = ts ∧ r.kind = .select ∧
      (r.isTotallyOrdered ∨ op = .literalValue ∧ ExchangesPosition s ts) := by
  have hflip : op ≠ .quoteFlip := by
    rintro rfl
    cases hop
  have hyields := yields_transform_of_gives hflip (gives_preserves (m := m) hop hkind horder hs)
  obtain ⟨hpreserves, r, hr, hkind'⟩ := hyields.run keys ts hts
  refine ⟨r, hr, hkind'.trans hkind, hpreserves.imp_left fun hkeeps => ?_⟩
  exact (hkeeps r hr hkind').isTotallyOrdered hs

/-- A query of two columns that is ordered by both. -/
def orderedByBoth : Statement :=
  ⟨.select, [⟨.keyword, "SELECT"⟩, ⟨.identifier, "a"⟩, ⟨.comma, ","⟩, ⟨.identifier, "b"⟩,
    ⟨.keyword, "FROM"⟩, ⟨.identifier, "t"⟩, ⟨.keyword, "ORDER"⟩, ⟨.keyword, "BY"⟩,
    ⟨.integer, "1"⟩, ⟨.comma, ","⟩, ⟨.integer, "2"⟩], by decide +kernel, by decide +kernel⟩

/-- A function is applied to a select item, and the order still names both of them. -/
theorem transform_keeps_total_order_rounded :
    let s := orderedByBoth
    let ts : List Token := [⟨.keyword, "SELECT"⟩, ⟨.identifier, "a"⟩, ⟨.comma, ","⟩,
      ⟨.identifier, "ROUND"⟩, ⟨.leftParen, "("⟩, ⟨.identifier, "b"⟩, ⟨.rightParen, ")"⟩,
      ⟨.keyword, "FROM"⟩, ⟨.identifier, "t"⟩, ⟨.keyword, "ORDER"⟩, ⟨.keyword, "BY"⟩,
      ⟨.integer, "1"⟩, ⟨.comma, ","⟩, ⟨.integer, "2"⟩]
    Statement.parse "SELECT a, b FROM t ORDER BY 1, 2" = .ok s ∧
      Operator.functionWrap.guarantee.wellFormed ∧ s.hasClause .orderBy ∧ s.isTotallyOrdered ∧
      ((Operator.functionWrap.transform ⟨.storefront, [], 0.3⟩ s).run (.ofSeed 0 0)).value =
        some ts ∧
      ∃ r : Statement, r.tokens = ts ∧ r.kind = .select ∧ r.isTotallyOrdered := by
  intro s ts
  have hparse : Statement.parse "SELECT a, b FROM t ORDER BY 1, 2" = .ok s := by decide +kernel
  have horder : s.hasClause .orderBy := by decide +kernel
  have hs : s.isTotallyOrdered := by decide +kernel
  have hts : ((Operator.functionWrap.transform ⟨.storefront, [], 0.3⟩ s).run (.ofSeed 0 0)).value =
      some ts := by
    decide +kernel
  obtain ⟨r, hr, hkind, hkept⟩ := transform_keeps_total_order .functionWrap _ rfl rfl horder hs hts
  refine ⟨hparse, rfl, horder, hs, hts, r, hr, hkind, hkept.resolve_right ?_⟩
  rintro ⟨hop, -⟩
  cases hop

/-- Are these the tokens of a query that orders its rows, but not all of them? -/
def breaksOrder (ts : List Token) : Bool :=
  match Statement.ofTokens ts with
  | .ok r => r.kind == .select && r.hasClause .orderBy && !r.isTotallyOrdered
  | .error _ => false

/-- A position is exchanged, and rows that differ in that column only can come in any order. -/
theorem transform_breaks_total_order :
    let s := orderedByBoth
    Statement.parse "SELECT a, b FROM t ORDER BY 1, 2" = .ok s ∧
      Operator.literalValue.guarantee = ⟨true, true⟩ ∧ s.hasClause .orderBy ∧
      s.isTotallyOrdered ∧
      ∃ r : Statement, ((Operator.literalValue.transform ⟨.storefront, [], 0.3⟩ s).run
          (.ofSeed 0 0)).value = some r.tokens ∧
        r.kind = .select ∧ r.hasClause .orderBy ∧ r.isTotallyOrdered = false := by
  intro s
  -- The boundary chance is not decided here; every answer breaks the order.
  have hevery : Sampling.everyOutcome (·.any breaksOrder) (.ofSeed 0 0)
      (Operator.literalValue.transform ⟨.storefront, [], 0.3⟩ s) := by
    decide +kernel
  obtain ⟨ts, hts, hbreaks⟩ := (Option.any_eq_true _ _).1 (Sampling.pass_of_everyOutcome hevery)
  refine ⟨by decide +kernel, rfl, by decide +kernel, by decide +kernel, ?_⟩
  unfold breaksOrder at hbreaks
  split at hbreaks
  · rename_i r hr
    obtain ⟨hcases, hnot⟩ := Bool.and_eq_true_iff.1 hbreaks
    obtain ⟨hkind, horder⟩ := Bool.and_eq_true_iff.1 hcases
    refine ⟨r, ?_, by simpa using hkind, horder, by simpa using hnot⟩
    rw [hts, Statement.tokens_of_ofTokens hr]
  · cases hbreaks

end Mutation
end QueryFuzz
