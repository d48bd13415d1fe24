import Mathlib.Data.Nat.Notation
import Mathlib.Tactic.ByContra
import Mathlib.Tactic.SplitIfs
import QueryFuzz.Sql.Statement

/-!
# The check of the structure, part by part

Whether a token fits depends on few properties of its neighbours, and neighbours that have more of
them do no harm. So a part that fits on its own also fits in front of another part, unless its last
token still waits for an operand.
-/

namespace QueryFuzz
namespace Sql

/-- Do the tokens fit behind `before`, and do they close what `depth` parentheses opened? -/
def fitsFrom (depth : ℕ) (before : Option Token) : List Token → Bool
  | [] => depth == 0
  | t :: rest =>
    misfit? before t rest.head? == none && (depthPast? depth t).any (fitsFrom · (some t) rest)

/-- The position of a token matters to the reports of the check only. -/
theorem checkFrom_eq_ok_iff {index depth : ℕ} {before : Option Token} {ts : List Token} :
    checkFrom index depth before ts = .ok () ↔ fitsFrom depth before ts := by
  induction ts generalizing index depth before with
  | nil =>
    rw [checkFrom, fitsFrom, beq_iff_eq]
    split_ifs with hdepth <;> simp [hdepth]
  | cons t rest ih =>
    rw [checkFrom, fitsFrom]
    cases misfit? before t rest.head? with
    | some misfit => cases misfit <;> simp
    | none =>
      cases depthPast? depth t with
      | none => simp
      | some depth' => simpa using ih

theorem checkStructure_eq_ok_iff {ts : List Token} :
    checkStructure ts = .ok () ↔ fitsFrom 0 none ts :=
  checkFrom_eq_ok_iff

theorem fitsFrom_cons {depth : ℕ} {before : Option Token} {t : Token} {rest : List Token} :
    fitsFrom depth before (t :: rest) ↔ misfit? before t rest.head? = none ∧
      ∃ depth', depthPast? depth t = some depth' ∧ fitsFrom depth' (some t) rest := by
  rw [fitsFrom, Bool.and_eq_true, beq_iff_eq, Option.any_eq_true]

/-! ## Neighbours -/

/-- Whatever fits behind the first token fits behind the second. -/
structure FollowsAs (a b : Option Token) : Prop where
  ends : a.any (·.endsOperand) → b.any (·.endsOperand)
  item : a.any (fun p => p.kind != .leftParen && p.kind != .comma) →
    b.any fun p => p.kind != .leftParen && p.kind != .comma
  name : a.any (·.kind == .identifier) → b.any (·.kind == .identifier)

/-- Whatever fits in front of the first token fits in front of the second. -/
structure PrecedesAs (a b : Option Token) : Prop where
  starts : a.any (·.startsOperand) → b.any (·.startsOperand)
  item : a.any (fun n => n.startsOperand || n.isOperator "*") →
    b.any fun n => n.startsOperand || n.isOperator "*"
  negated : a.any followsNot → b.any followsNot
  closes : b.any (·.kind == .rightParen) → a.any (·.kind == .rightParen)

theorem FollowsAs.refl (a : Option Token) : FollowsAs a a :=
  ⟨id, id, id⟩

theorem PrecedesAs.refl (a : Option Token) : PrecedesAs a a :=
  ⟨id, id, id, id⟩

theorem followsAs_none (b : Option Token) : FollowsAs none b :=
  ⟨by simp, by simp, by simp⟩

theorem kind_of_endsOperand {t : Token} (h : t.endsOperand) :
    t.kind ≠ .leftParen ∧ t.kind ≠ .comma := by
  unfold Token.endsOperand at h
  constructor <;> intro hkind <;> simp [hkind] at h

theorem kind_of_startsOperand {t : Token} (h : t.startsOperand) : t.kind ≠ .rightParen := by
  unfold Token.startsOperand at h
  intro hkind
  simp [hkind] at h

/-- Behind an operand there fits whatever fits behind a token that is no bare name. -/
theorem followsAs_of_endsOperand {a : Token} {b : Option Token} (ha : a.kind ≠ .identifier)
    (hb : b.any (·.endsOperand)) : FollowsAs (some a) b := by
  obtain ⟨t, ht, hends⟩ := (Option.any_eq_true _ _).1 hb
  subst ht
  obtain ⟨hparen, hcomma⟩ := kind_of_endsOperand hends
  exact ⟨fun _ => hb, fun _ => by simp [hparen, hcomma], fun h => by simp [ha] at h⟩

/-- In front of an operand there fits whatever fits in front of any token. -/
theorem precedesAs_of_startsOperand {a b : Option Token} (hb : b.any (·.startsOperand)) :
    PrecedesAs a b := by
  obtain ⟨t, ht, hstarts⟩ := (Option.any_eq_true _ _).1 hb
  subst ht
  have hparen := kind_of_startsOperand hstarts
  exact ⟨fun _ => hb, fun _ => by simp [hstarts], fun _ => by simp [followsNot, hstarts],
    fun h => by simp [hparen] at h⟩

theorem misfit?_eq_none_iff {before after : Option Token} {t : Token} :
    misfit? before t after = none ↔ match t.kind with
      | .leftParen => fitsLeftParen before after
      | .comma => fitsComma before after
      | .operator => t.text == "*" || fitsOperator before t after
      | .keyword => fitsKeyword before t after
      | _ => true := by
  unfold misfit?
  cases t.kind with
  | operator => cases t.text == "*" <;> simp
  | _ => simp

theorem misfit?_mono {before before' after after' : Option Token} {t : Token}
    (hbefore : FollowsAs before before') (hafter : PrecedesAs after after')
    (h : misfit? before t after = none) : misfit? before' t after' = none := by
  rw [misfit?_eq_none_iff] at h ⊢
  cases hkind : t.kind with
  | leftParen =>
    simp only [hkind, fitsLeftParen, Bool.or_eq_true, Bool.not_eq_true'] at h ⊢
    rcases h with hclosed | hname
    · left
      by_contra hopen
      have := hafter.closes (by simpa using hopen)
      simp [hclosed] at this
    · exact .inr (hbefore.name hname)
  | comma =>
    simp only [hkind, fitsComma, Bool.and_eq_true] at h ⊢
    exact ⟨hbefore.item h.1, hafter.item h.2⟩
  | operator =>
    simp only [hkind, fitsOperator, Bool.or_eq_true, Bool.and_eq_true] at h ⊢
    rcases h with hstar | ⟨hleft, hright⟩
    · exact .inl hstar
    · exact .inr ⟨hleft.imp id hbefore.ends, hafter.starts hright⟩
  | keyword =>
    simp only [hkind, fitsKeyword, Bool.or_eq_true, Bool.and_eq_true] at h ⊢
    obtain ⟨⟨hleft, hright⟩, hnot⟩ := h
    exact ⟨⟨hleft.imp id hbefore.ends, hright.imp id hafter.starts⟩, hnot.imp id hafter.negated⟩
  | _ => simp

theorem FollowsAs.fitsFrom {before before' : Option Token} {depth : ℕ} {ts : List Token}
    (hbefore : FollowsAs before before') (h : Sql.fitsFrom depth before ts) :
    Sql.fitsFrom depth before' ts := by
  cases ts with
  | nil => exact h
  | cons t rest =>
    rw [fitsFrom_cons] at h ⊢
    exact ⟨misfit?_mono hbefore (.refl _) h.1, h.2⟩

/-! ## Parts behind one another -/

/-- Does the token fit whatever follows? -/
def isSettled (t : Token) : Bool :=
  match t.kind with
  | .leftParen | .comma => false
  | .operator => t.text == "*"
  | .keyword => !t.isAnyOf operandKeywords && !t.isWord "NOT"
  | _ => true

theorem misfit?_of_isSettled {before after after' : Option Token} {t : Token} (ht : isSettled t)
    (h : misfit? before t after = none) : misfit? before t after' = none := by
  rw [misfit?_eq_none_iff] at h ⊢
  unfold isSettled at ht
  cases hkind : t.kind with
  | leftParen => simp [hkind] at ht
  | comma => simp [hkind] at ht
  | operator =>
    simp only [hkind] at ht
    simp [ht]
  | keyword =>
    simp only [hkind, Bool.and_eq_true, Bool.not_eq_true'] at ht
    simp only [hkind, fitsKeyword, Bool.and_eq_true] at h ⊢
    exact ⟨⟨h.1.1, by simp [ht.1]⟩, by simp [ht.2]⟩
  | _ => simp

theorem isSettled_of_endsOperand {t : Token} (h : t.endsOperand) : isSettled t := by
  unfold Token.endsOperand at h
  unfold isSettled
  cases hkind : t.kind with
  | keyword =>
    simp only [hkind, Token.isAnyOf, Bool.and_eq_true, List.contains_iff_mem] at h
    have hall : ["NULL", "TRUE", "FALSE", "END"].all fun word =>
        !operandKeywords.contains word && word != "NOT" := by
      decide
    have hword := List.all_eq_true.1 hall _ h.2
    simp only [Bool.and_eq_true, Bool.not_eq_true', bne_iff_ne] at hword
    have hmem : t.text.toUpper ∉ operandKeywords := by simpa using hword.1
    simp [Token.isWord, Token.isAnyOf, hmem, hword.2]
  | _ => simp_all

theorem depthPast?_add {depth depth' : ℕ} {t : Token} (h : depthPast? depth t = some depth')
    (more : ℕ) : depthPast? (depth + more) t = some (depth' + more) := by
  unfold depthPast? at h ⊢
  cases hkind : t.kind with
  | leftParen =>
    simp only [hkind, Option.some.injEq] at h ⊢
    omega
  | rightParen =>
    simp only [hkind] at h ⊢
    split_ifs at h with hzero
    rw [if_neg (by omega)]
    simp only [Option.some.injEq] at h ⊢
    omega
  | _ =>
    simp only [hkind, Option.some.injEq] at h ⊢
    omega

/-- The last of some tokens, or the token in front of them. -/
def lastOr (before : Option Token) (ts : List Token) : Option Token :=
  ts.getLast?.or before

theorem lastOr_cons (before : Option Token) (t : Token) (ts : List Token) :
    lastOr before (t :: ts) = lastOr (some t) ts := by
  unfold lastOr
  cases ts with
  | nil => rfl
  | cons u ts =>
    rw [List.getLast?_cons_cons, List.getLast?_eq_some_getLast (List.cons_ne_nil u ts)]
    rfl

theorem lastOr_append (before : Option Token) (ts us : List Token) :
    lastOr before (ts ++ us) = lastOr (lastOr before ts) us := by
  induction ts generalizing before with
  | nil => rfl
  | cons t ts ih => rw [List.cons_append, lastOr_cons, lastOr_cons, ih]

/-- A part that fits on its own fits in front of another one that fits behind it. -/
theorem fitsFrom_append {depth more : ℕ} {before : Option Token} {ts rest : List Token}
    (h : fitsFrom depth before ts) (hlast : ts.getLast?.all isSettled)
    (hrest : fitsFrom more (lastOr before ts) rest) :
    fitsFrom (depth + more) before (ts ++ rest) := by
  induction ts generalizing depth before with
  | nil =>
    have hzero : depth = 0 := by simpa [fitsFrom] using h
    rw [hzero, Nat.zero_add]
    exact hrest
  | cons t ts ih =>
    rw [lastOr_cons] at hrest
    rw [fitsFrom_cons] at h
    obtain ⟨hmisfit, depth', hdepth, hfits⟩ := h
    rw [List.cons_append, fitsFrom_cons]
    refine ⟨?_, depth' + more, depthPast?_add hdepth more, ?_⟩
    · cases ts with
      | nil =>
        have ht : isSettled t := by simpa using hlast
        exact misfit?_of_isSettled ht hmisfit
      | cons u ts => exact hmisfit
    · apply ih hfits _ hrest
      cases ts with
      | nil => rfl
      | cons u ts => rwa [List.getLast?_cons_cons] at hlast

end Sql
end QueryFuzz
