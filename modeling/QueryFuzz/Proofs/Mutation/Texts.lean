import QueryFuzz.Proofs.Mutation.Kind

/-!
# The texts of mutated statements

Operators check the tokens that they make, but an engine is given their text. Written next to a
point, a literal that has come in place of a word reads on into the point, and then the text is not
that of a statement. Where no two tokens fuse, the text is that of a statement of the same kind.
-/

namespace QueryFuzz
namespace Mutation

open Sql Draw

/-- Whatever an operator makes of the first statement of a text, its tokens are read back from what
is written of them exactly if no two of them fuse. The text is then a statement of the same kind. -/
theorem transform_reads_back (op : Operator) (m : Material) {sql : String} {s : Statement}
    (h : Statement.parse sql = .ok s) {keys : KeyStream} {ts : List Token}
    (hts : ((op.transform m s).run keys).value = some ts) :
    (significantTokens (render ts) = .ok ts ↔ Separable ts) ∧
      (Separable ts → ∃ s', Statement.parse (render ts) = .ok s' ∧ s'.tokens = ts ∧
        s'.kind = s.kind) := by
  have hstatement : IsStatement s.kind ts := by
    refine (yields_transform op m ?_).run keys ts hts
    unfold Statement.parse at h
    split at h
    · simp at h
    · simp at h
    · rename_i first rest hparse
      obtain rfl := Except.ok.inj h
      exact inStatement_of_parseScript hparse first (by simp)
  have hread := significantTokens_render_iff fun t ht => (hstatement.tokens t ht).1
  refine ⟨hread, fun hseparable => ?_⟩
  obtain ⟨s', rfl, hkind⟩ := hstatement.exists_statement
  have hparse := parseScript_eq_singleton (hread.2 hseparable) fun t ht =>
    (hstatement.tokens t ht).2
  exact ⟨s', by rw [Statement.parse, hparse], rfl, hkind⟩

theorem transform_reads_back_null :
    let s : Statement := ⟨.select, [⟨.keyword, "SELECT"⟩, ⟨.keyword, "NULL"⟩], by decide +kernel,
      by decide +kernel⟩
    let ts : List Token := [⟨.keyword, "SELECT"⟩, ⟨.integer, "0"⟩]
    Statement.parse "SELECT NULL" = .ok s ∧
      ((Operator.literalValue.transform ⟨.storefront, [], 0.3⟩ s).run (.ofSeed 12 0)).value =
        some ts ∧
      significantTokens (render ts) = .ok ts ∧
      ∃ s', Statement.parse (render ts) = .ok s' ∧ s'.tokens = ts ∧ s'.kind = .select := by
  intro s ts
  have hparse : Statement.parse "SELECT NULL" = .ok s := by decide +kernel
  have hts : ((Operator.literalValue.transform ⟨.storefront, [], 0.3⟩ s).run (.ofSeed 12 0)).value =
      some ts := by
    decide +kernel
  have hseparable : Separable ts := by decide +kernel
  obtain ⟨hread, hstatement⟩ := transform_reads_back .literalValue _ hparse hts
  exact ⟨hparse, hts, hread.2 hseparable, hstatement hseparable⟩

/-- A word for a truth value, which names a table here, becomes a number and takes the point. -/
theorem transform_fuses :
    let s : Statement := ⟨.select, [⟨.keyword, "SELECT"⟩, ⟨.keyword, "TRUE"⟩, ⟨.dot, "."⟩,
      ⟨.identifier, "x"⟩, ⟨.keyword, "FROM"⟩, ⟨.identifier, "t"⟩], by decide +kernel,
      by decide +kernel⟩
    let ts : List Token := [⟨.keyword, "SELECT"⟩, ⟨.integer, "0"⟩, ⟨.dot, "."⟩,
      ⟨.identifier, "x"⟩, ⟨.keyword, "FROM"⟩, ⟨.identifier, "t"⟩]
    Statement.parse "SELECT TRUE.x FROM t" = .ok s ∧ Separable s.tokens ∧
      Operator.literalValue.guarantee = ⟨true, true⟩ ∧
      ((Operator.literalValue.transform ⟨.storefront, [], 0.3⟩ s).run (.ofSeed 12 0)).value =
        some ts ∧
      Statement.parse (render ts) = .error (.unexpectedCharacter 'x' 7) := by
  intro s ts
  exact ⟨by decide +kernel, by decide +kernel, rfl, by decide +kernel, by decide +kernel⟩

end Mutation
end QueryFuzz
