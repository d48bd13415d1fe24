import Mathlib.Data.List.Forall2
import QueryFuzz.Proofs.Sql.Composition
import QueryFuzz.Proofs.Sql.Partition
import QueryFuzz.Proofs.Sql.Points
import QueryFuzz.Proofs.Sql.Script

/-!
# Texts with gaps

A template is a fixed text with gaps. What fills a gap is a name, a term, or a list of terms: tokens
that can stand wherever a literal can, or some of these with commas between them. To know that a
filled template is sound it is enough to run the lexer and the checks on the template itself, with
one token in each gap that stands for whatever fills it.
-/

namespace QueryFuzz
namespace Sql

instance (ts : List Token) : Decidable (WellPointed ts) :=
  decidable_of_iff ((follow .free ts).any (· != .point))
    (by simp [WellPointed, Option.any_eq_true])

/-! ## Terms, clauses and sentences -/

/-- Is the token part of a single term? Commas separate terms, and a parameter stands for a list of
terms. -/
def isSingle (t : Token) : Bool :=
  t.kind != .comma && t.kind != .parameter

/-- The tokens are one term or several, with commas between them. -/
structure IsList (ts : List Token) : Prop where
  fits : fitsFrom 0 none ts
  starts : ts.head?.any (·.startsOperand)
  ends : ts.getLast?.any (·.endsOperand)
  points : WellPointed ts
  plain : ts.all (·.kind != .semicolon)
  calm : (outside 0 ts).all (isCalm false)

/-- The tokens can stand wherever a literal can. -/
structure IsTerm (ts : List Token) : Prop extends IsList ts where
  single : (outside 0 ts).all isSingle

instance (ts : List Token) : Decidable (IsList ts) :=
  decidable_of_iff (_ ∧ _ ∧ _ ∧ _ ∧ _ ∧ _)
    ⟨fun h => ⟨h.1, h.2.1, h.2.2.1, h.2.2.2.1, h.2.2.2.2.1, h.2.2.2.2.2⟩,
      fun h => ⟨h.fits, h.starts, h.ends, h.points, h.plain, h.calm⟩⟩

instance (ts : List Token) : Decidable (IsTerm ts) :=
  decidable_of_iff (IsList ts ∧ _) ⟨fun h => ⟨h.1, h.2⟩, fun h => ⟨h.toIsList, h.single⟩⟩

/-- A settled token that ends no operand and may precede nothing but a separator. -/
def closing : Token := ⟨.keyword, "DESC"⟩

/-- The tokens can stand behind whatever is complete in itself. -/
structure IsClause (ts : List Token) : Prop where
  fits : fitsFrom 0 (some closing) ts
  settled : ts.getLast?.all isSettled
  points : (follow .shut ts).any (· != .point)
  plain : ts.all (·.kind != .semicolon)

instance (ts : List Token) : Decidable (IsClause ts) :=
  decidable_of_iff (_ ∧ _ ∧ _ ∧ _)
    ⟨fun h => ⟨h.1, h.2.1, h.2.2.1, h.2.2.2⟩, fun h => ⟨h.fits, h.settled, h.points, h.plain⟩⟩

/-- The tokens are those of a statement of this kind. -/
structure IsSentence (kind : StatementKind) (ts : List Token) : Prop where
  head : StatementKind.ofTokens ts = .ok kind
  fits : fitsFrom 0 none ts
  settled : ts.getLast?.all isSettled
  points : WellPointed ts
  plain : ts.all (·.kind != .semicolon)

instance (kind : StatementKind) (ts : List Token) : Decidable (IsSentence kind ts) :=
  decidable_of_iff (_ ∧ _ ∧ _ ∧ _ ∧ _)
    ⟨fun h => ⟨h.1, h.2.1, h.2.2.1, h.2.2.2.1, h.2.2.2.2⟩,
      fun h => ⟨h.head, h.fits, h.settled, h.points, h.plain⟩⟩

theorem all_append {p : Token → Bool} {ts us : List Token} (hts : ts.all p) (hus : us.all p) :
    (ts ++ us).all p := by
  rw [List.all_append, hts, hus]
  rfl

theorem getLast?_append_all {p : Token → Bool} {ts us : List Token} (hts : ts.getLast?.all p)
    (hus : us.getLast?.all p) : (ts ++ us).getLast?.all p := by
  rw [List.getLast?_append]
  cases hlast : us.getLast? with
  | none => simpa using hts
  | some t => simpa [hlast] using hus

/-- What is settled can be followed by whatever can follow `closing`. -/
theorem followsAs_lastOr {before : Option Token} {ts : List Token} (hne : ts ≠ [])
    (h : ts.getLast?.all isSettled) : FollowsAs (some closing) (lastOr before ts) := by
  have hlast : ts.getLast? = some (ts.getLast hne) := List.getLast?_eq_some_getLast hne
  generalize ts.getLast hne = t at hlast
  have hsettled : isSettled t := by simpa [hlast] using h
  have hparen : t.kind ≠ .leftParen := by
    intro hk
    simp [isSettled, hk] at hsettled
  have hcomma : t.kind ≠ .comma := by
    intro hk
    simp [isSettled, hk] at hsettled
  have hends : closing.endsOperand = false := by decide +kernel
  have hname : closing.kind ≠ .identifier := by decide
  rw [lastOr, hlast, Option.some_or]
  exact ⟨fun h => by simp [hends] at h, fun _ => by simp [hparen, hcomma],
    fun h => by simp [hname] at h⟩

theorem follow_append_clause {ts us : List Token} {p : Place}
    (hts : (follow p ts).any (· != .point)) (hus : (follow .shut us).any (· != .point)) :
    (follow p (ts ++ us)).any (· != .point) := by
  obtain ⟨q, hq, hne⟩ := (Option.any_eq_true _ _).1 hts
  obtain ⟨r, hr, hne'⟩ := (Option.any_eq_true _ _).1 hus
  have hbelow : Place.Below .shut q := .inr (.inl ⟨rfl, by simpa using hne⟩)
  obtain ⟨r', hr', hbelow'⟩ := hbelow.follow hr
  have hne'' : r' ≠ .point := hbelow'.ne_point (by simpa using hne')
  rw [follow_append, hq, Option.bind_some, hr']
  simpa using hne''

theorem wellPointed_iff (ts : List Token) :
    WellPointed ts ↔ (follow .free ts).any (· != .point) := by
  simp [WellPointed, Option.any_eq_true]

theorem IsSentence.ne_nil {kind : StatementKind} {ts : List Token} (h : IsSentence kind ts) :
    ts ≠ [] := by
  rintro rfl
  simpa [StatementKind.ofTokens] using h.head

theorem IsList.ne_nil {ts : List Token} (h : IsList ts) : ts ≠ [] := by
  rintro rfl
  simpa using h.starts

theorem IsList.last {ts : List Token} (h : IsList ts) {p : Token → Bool}
    (hp : ∀ t, t.endsOperand → p t) : ts.getLast?.all p := by
  obtain ⟨t, ht, hends⟩ := (Option.any_eq_true _ _).1 h.ends
  rw [ht]
  exact hp t hends

theorem IsList.settled {ts : List Token} (h : IsList ts) : ts.getLast?.all isSettled :=
  h.last fun _ => isSettled_of_endsOperand

theorem IsList.closed {ts : List Token} (h : IsList ts) : depthBehind 0 ts = 0 :=
  depthBehind_of_fitsFrom h.fits 0

theorem isJoinModifier_of_endsOperand {t : Token} (h : t.endsOperand) : !isJoinModifier t := by
  by_contra hmodifier
  simp only [Bool.not_eq_true', Bool.not_eq_false, isJoinModifier] at hmodifier
  have hdisjoint : ∀ word ∈ ["LEFT", "RIGHT", "INNER", "OUTER", "CROSS", "NATURAL"],
      word ∉ ["NULL", "TRUE", "FALSE", "END"] := by
    decide
  obtain ⟨hkind, hword⟩ := Bool.and_eq_true_iff.1 hmodifier
  have hend : t.text.toUpper ∈ ["NULL", "TRUE", "FALSE", "END"] := by
    unfold Token.endsOperand at h
    rw [beq_iff_eq.1 hkind] at h
    obtain ⟨-, hmem⟩ := Bool.and_eq_true_iff.1 h
    simpa using hmem
  exact hdisjoint _ (by simpa using hword) hend

theorem IsList.calmPart {ts : List Token} (h : IsList ts) : Calm false ts :=
  ⟨h.calm, h.closed, h.last fun _ => isJoinModifier_of_endsOperand⟩

theorem IsList.isItems {ts : List Token} (h : IsList ts) : IsItems ts := by
  refine ⟨h.ne_nil, h.calmPart, ?_, h.last fun t ht => ?_⟩
  · obtain ⟨t, ht, hstarts⟩ := (Option.any_eq_true _ _).1 h.starts
    have hdisjoint : ∀ word ∈ ["DISTINCT", "ALL"],
        word ∉ ["NOT", "NULL", "CASE", "EXISTS", "CAST", "TRUE", "FALSE", "SELECT"] := by
      decide
    rw [ht, Option.any_some]
    by_contra hword
    simp only [Bool.not_eq_true', Bool.not_eq_false] at hword
    obtain ⟨hkind, hmem⟩ := Bool.and_eq_true_iff.1 hword
    unfold Token.startsOperand at hstarts
    rw [beq_iff_eq.1 hkind] at hstarts
    obtain ⟨-, hmem'⟩ := Bool.and_eq_true_iff.1 hstarts
    exact hdisjoint _ (by simpa using hmem) (by simpa using hmem')
  · simp [isComma, (kind_of_endsOperand ht).2]

theorem IsTerm.itemCount {ts : List Token} (h : IsTerm ts) : itemCount ts = 1 := by
  have hnone : (outside 0 ts).countP isComma = 0 := by
    rw [List.countP_eq_zero]
    intro t ht
    have hsingle := List.all_eq_true.1 h.single t ht
    simp only [isSingle, Bool.and_eq_true, bne_iff_ne] at hsingle
    simp [isComma, hsingle.1]
  rw [Sql.itemCount, hnone]

theorem fitsFrom_append_clause {before : Option Token} {ts us : List Token} (hne : ts ≠ [])
    (hts : fitsFrom 0 before ts) (hsettled : ts.getLast?.all isSettled) (hus : IsClause us) :
    fitsFrom 0 before (ts ++ us) :=
  fitsFrom_append hts hsettled ((followsAs_lastOr hne hsettled).fitsFrom hus.fits)

theorem IsSentence.append {kind : StatementKind} {ts us : List Token} (hts : IsSentence kind ts)
    (hus : IsClause us) : IsSentence kind (ts ++ us) := by
  constructor
  · obtain ⟨t, rest, rfl⟩ := List.exists_cons_of_ne_nil hts.ne_nil
    exact hts.head
  · exact fitsFrom_append_clause hts.ne_nil hts.fits hts.settled hus
  · exact getLast?_append_all hts.settled hus.settled
  · rw [wellPointed_iff]
    exact follow_append_clause ((wellPointed_iff ts).1 hts.points) hus.points
  · exact all_append hts.plain hus.plain

theorem IsClause.append {ts us : List Token} (hts : IsClause ts) (hus : IsClause us) :
    IsClause (ts ++ us) := by
  by_cases hne : ts = []
  · rw [hne]
    exact hus
  · constructor
    · exact fitsFrom_append_clause hne hts.fits hts.settled hus
    · exact getLast?_append_all hts.settled hus.settled
    · exact follow_append_clause hts.points hus.points
    · exact all_append hts.plain hus.plain

/-- A sentence without semicolons is a statement. -/
theorem IsSentence.exists_statement {kind : StatementKind} {ts : List Token}
    (h : IsSentence kind ts) : ∃ s : Statement, s.tokens = ts ∧ s.kind = kind :=
  ⟨⟨kind, ts, h.head, checkStructure_eq_ok_iff.2 h.fits⟩, rfl, rfl⟩

/-! ## Gaps -/

/-- The literal that stands for a term. -/
def literalGap : Token := ⟨.string, "''"⟩

/-- The parameter that stands for a list of terms. -/
def listGap : Token := ⟨.parameter, "?"⟩

/-- The name that stands for any name. -/
def nameGap : Token := ⟨.quotedIdentifier, "\"x\""⟩

def isNameToken (t : Token) : Bool :=
  t.kind == .identifier || t.kind == .quotedIdentifier

/-- The tokens are what a token in a template stands for. -/
structure Replaces (gap : Token) (vs : List Token) : Prop where
  isGap : gap = literalGap ∨ gap = listGap
  list : IsList vs
  single : isSingle gap → (outside 0 vs).all isSingle

theorem IsTerm.replaces {vs : List Token} (h : IsTerm vs) : Replaces literalGap vs :=
  ⟨.inl rfl, h.toIsList, fun _ => h.single⟩

theorem IsList.replaces {vs : List Token} (h : IsList vs) : Replaces listGap vs :=
  ⟨.inr rfl, h, fun hsingle => by simp [isSingle, listGap] at hsingle⟩

/-- The second list is the first one with some of its gaps filled. -/
inductive Filled : List Token → List Token → Prop
  | nil : Filled [] []
  | token (t) {ts us} : Filled ts us → Filled (t :: ts) (t :: us)
  | terms {gap ts us vs} : Replaces gap vs → Filled ts us → Filled (gap :: ts) (vs ++ us)
  | name {t ts us} : isNameToken t → Filled ts us → Filled (nameGap :: ts) (t :: us)

theorem kind_of_isNameToken {t : Token} (h : isNameToken t) :
    t.kind = .identifier ∨ t.kind = .quotedIdentifier := by
  simpa [isNameToken] using h

theorem isNameToken_nameToken (name : String) : isNameToken (nameToken name) := by
  rcases nameToken_kind name with hk | hk <;> simp [isNameToken, hk]

theorem Replaces.kind {gap : Token} {vs : List Token} (h : Replaces gap vs) :
    gap.kind = .string ∨ gap.kind = .parameter := by
  rcases h.isGap with rfl | rfl
  · exact .inl rfl
  · exact .inr rfl

theorem Replaces.depthPast? {gap : Token} {vs : List Token} (h : Replaces gap vs) (depth : ℕ) :
    Sql.depthPast? depth gap = some depth := by
  rcases h.kind with hk | hk <;> simp [Sql.depthPast?, hk]

theorem Filled.append {us vs : List Token} (h : Filled us vs) (ts : List Token) :
    Filled (ts ++ us) (ts ++ vs) := by
  induction ts with
  | nil => exact h
  | cons t ts ih => exact .token t ih

theorem Filled.precedesAs {ts us : List Token} (h : Filled ts us) :
    PrecedesAs ts.head? us.head? := by
  cases h with
  | nil => exact .refl none
  | token t => exact .refl (some t)
  | @terms gap ts us vs hvs =>
    apply precedesAs_of_startsOperand
    rw [List.head?_append_of_ne_nil _ hvs.list.ne_nil]
    exact hvs.list.starts
  | @name t ts us ht =>
    apply precedesAs_of_startsOperand
    rcases kind_of_isNameToken ht with hk | hk <;> simp [Token.startsOperand, hk]

theorem Filled.fits {ts us : List Token} (h : Filled ts us) {depth : ℕ}
    {before before' : Option Token} (hbefore : FollowsAs before before')
    (hts : fitsFrom depth before ts) : fitsFrom depth before' us := by
  induction h generalizing depth before before' with
  | nil => exact hts
  | @token t ts us hfilled ih =>
    rw [fitsFrom_cons] at hts ⊢
    obtain ⟨hmisfit, depth', hdepth, hrest⟩ := hts
    exact ⟨misfit?_mono hbefore hfilled.precedesAs hmisfit, depth', hdepth, ih (.refl _) hrest⟩
  | @terms gap ts us vs hvs hfilled ih =>
    rw [fitsFrom_cons] at hts
    obtain ⟨-, depth', hdepth, hrest⟩ := hts
    obtain rfl : depth = depth' := Option.some.inj ((hvs.depthPast? depth).symm.trans hdepth)
    have hlast : FollowsAs (some gap) (lastOr before' vs) := by
      apply followsAs_of_endsOperand
      · rcases hvs.kind with hk | hk <;> simp [hk]
      · obtain ⟨t, ht, ht'⟩ := (Option.any_eq_true _ _).1 hvs.list.ends
        rw [lastOr, ht]
        exact ht'
    have happend := fitsFrom_append ((followsAs_none before').fitsFrom hvs.list.fits)
      hvs.list.settled (ih hlast hrest)
    rwa [Nat.zero_add] at happend
  | @name t ts us ht hfilled ih =>
    rw [fitsFrom_cons] at hts ⊢
    obtain ⟨-, depth', hdepth, hrest⟩ := hts
    obtain rfl : depth = depth' := Option.some.inj hdepth
    have hlast : FollowsAs (some nameGap) (some t) := by
      apply followsAs_of_endsOperand (by decide)
      rcases kind_of_isNameToken ht with hk | hk <;> simp [Token.endsOperand, hk]
    refine ⟨?_, depth, ?_, ih hlast hrest⟩
    · rcases kind_of_isNameToken ht with hk | hk <;> simp [misfit?, hk]
    · rcases kind_of_isNameToken ht with hk | hk <;> simp [depthPast?, hk]

theorem Filled.follow {ts us : List Token} (h : Filled ts us) {p p' q : Place}
    (hp : p.Below p') (hts : Sql.follow p ts = some q) :
    ∃ q', Sql.follow p' us = some q' ∧ q.Below q' := by
  induction h generalizing p p' with
  | nil =>
    obtain rfl := Option.some.inj hts
    exact ⟨p', rfl, hp⟩
  | @token t ts us hfilled ih =>
    obtain ⟨r, hr, hrest⟩ := follow_cons_eq_some hts
    obtain ⟨r', hr', hbelow⟩ := hp.past hr
    rw [follow_cons hr']
    exact ih hbelow hrest
  | @terms gap ts us vs hvs hfilled ih =>
    obtain ⟨r, hr, hrest⟩ := follow_cons_eq_some hts
    have hplace : (p = .free ∨ p = .name) ∧ r = .shut := by
      rcases hvs.kind with hk | hk <;> simp [Place.past, hk] at hr <;> exact ⟨hr.1, hr.2.symm⟩
    have hfree : Place.Below .free p' := by
      rcases hplace.1 with rfl | rfl
      · exact hp
      · rcases hp with rfl | ⟨hp, -⟩ | ⟨hp, -⟩
        · decide
        · simp at hp
        · simp at hp
    obtain ⟨rfl, hbelow⟩ : r = .shut ∧ Place.Below .free p' := ⟨hplace.2, hfree⟩
    obtain ⟨a, ha, hane⟩ := hvs.list.points
    obtain ⟨a', ha', hbelow'⟩ := hbelow.follow ha
    have hshut : Place.Below .shut a' := .inr (.inl ⟨rfl, hbelow'.ne_point hane⟩)
    rw [follow_append, ha', Option.bind_some]
    exact ih hshut hrest
  | @name t ts us ht hfilled ih =>
    obtain ⟨r, hr, hrest⟩ := follow_cons_eq_some hts
    have hsame : p.past t = p.past nameGap := by
      rcases kind_of_isNameToken ht with hk | hk <;> simp [Place.past, nameGap, hk]
    rw [← hsame] at hr
    obtain ⟨r', hr', hbelow⟩ := hp.past hr
    rw [follow_cons hr']
    exact ih hbelow hrest

theorem Filled.all_lastOr {ts us : List Token} (h : Filled ts us) {p : Token → Bool}
    (hp : ∀ t, t.endsOperand → p t) (before before' : Option Token)
    (hbefore : before.all p → before'.all p) (hts : (lastOr before ts).all p) :
    (lastOr before' us).all p := by
  induction h generalizing before before' with
  | nil => exact hbefore hts
  | @token t ts us hfilled ih =>
    rw [lastOr_cons] at hts ⊢
    exact ih (some t) (some t) id hts
  | @terms gap ts us vs hvs hfilled ih =>
    rw [lastOr_cons] at hts
    rw [lastOr_append]
    refine ih (some gap) _ (fun _ => ?_) hts
    obtain ⟨t, ht, hends⟩ := (Option.any_eq_true _ _).1 hvs.list.ends
    rw [lastOr, ht]
    exact hp t hends
  | @name t ts us ht hfilled ih =>
    rw [lastOr_cons] at hts ⊢
    refine ih (some nameGap) (some t) (fun _ => ?_) hts
    apply hp
    rcases kind_of_isNameToken ht with hk | hk <;> simp [Token.endsOperand, hk]

theorem Filled.plain {ts us : List Token} (h : Filled ts us)
    (hts : ts.all (·.kind != .semicolon)) : us.all (·.kind != .semicolon) := by
  induction h with
  | nil => rfl
  | @token t ts us hfilled ih =>
    rw [List.all_cons, Bool.and_eq_true] at hts ⊢
    exact ⟨hts.1, ih hts.2⟩
  | @terms gap ts us vs hvs hfilled ih =>
    rw [List.all_cons, Bool.and_eq_true] at hts
    exact all_append hvs.list.plain (ih hts.2)
  | @name t ts us ht hfilled ih =>
    rw [List.all_cons, Bool.and_eq_true] at hts ⊢
    refine ⟨?_, ih hts.2⟩
    rcases kind_of_isNameToken ht with hk | hk <;> simp [hk]

theorem Filled.any_follow {ts us : List Token} (h : Filled ts us) {p : Place}
    (hts : (Sql.follow p ts).any (· != .point)) : (Sql.follow p us).any (· != .point) := by
  obtain ⟨q, hq, hne⟩ := (Option.any_eq_true _ _).1 hts
  obtain ⟨q', hq', hbelow⟩ := h.follow (.inl rfl) hq
  rw [hq']
  simpa using hbelow.ne_point (by simpa using hne)

theorem Filled.all_getLast? {ts us : List Token} (h : Filled ts us) {p : Token → Bool}
    (hp : ∀ t, t.endsOperand → p t) (hts : ts.getLast?.all p) : us.getLast?.all p := by
  have hlast := h.all_lastOr hp none none id
  unfold lastOr at hlast
  rw [Option.or_none, Option.or_none] at hlast
  exact hlast hts

theorem Filled.settled {ts us : List Token} (h : Filled ts us)
    (hts : ts.getLast?.all isSettled) : us.getLast?.all isSettled :=
  h.all_getLast? (fun _ => isSettled_of_endsOperand) hts

/-- What holds of the tokens outside parentheses still holds when gaps are filled with what it
holds of. -/
theorem Filled.all_outside {ts us : List Token} (h : Filled ts us) {p : Token → Bool}
    (hterms : ∀ gap vs, Replaces gap vs → p gap → (outside 0 vs).all p)
    (hname : ∀ t, isNameToken t → p t) {depth : ℕ} (hts : (outside depth ts).all p) :
    (outside depth us).all p := by
  induction h generalizing depth with
  | nil => rfl
  | @token t ts us hfilled ih =>
    rw [outside, List.all_append, Bool.and_eq_true] at hts ⊢
    exact ⟨hts.1, ih hts.2⟩
  | @terms gap ts us vs hvs hfilled ih =>
    have hgap : depthPast depth gap = depth := by
      simpa using depthPast_add (hvs.depthPast? 0) depth
    have hbehind : depthBehind depth vs = depth := by
      simpa using depthBehind_of_fitsFrom hvs.list.fits depth
    rw [outside, hgap, List.all_append, Bool.and_eq_true] at hts
    rw [outside_append, hbehind, List.all_append, ih hts.2, Bool.and_true]
    by_cases hdepth : depth = 0
    · subst hdepth
      exact hterms gap vs hvs (by simpa using hts.1)
    · have hnone : outside depth vs = [] := by
        simpa using outside_of_fitsFrom hvs.list.fits (Nat.pos_of_ne_zero hdepth)
      rw [hnone]
      rfl
  | @name t ts us ht hfilled ih =>
    have hsame : depthPast depth t = depthPast depth nameGap := by
      rcases kind_of_isNameToken ht with hk | hk <;> simp [depthPast, nameGap, hk]
    rw [outside, List.all_append, Bool.and_eq_true] at hts ⊢
    rw [hsame]
    refine ⟨?_, ih hts.2⟩
    split_ifs
    · simpa using hname t ht
    · rfl

theorem Filled.all_isCalm {ts us : List Token} (h : Filled ts us) {depth : ℕ}
    (hts : (outside depth ts).all (isCalm false)) : (outside depth us).all (isCalm false) := by
  refine h.all_outside (fun _ _ hvs _ => hvs.list.calm) (fun t ht => ?_) hts
  rcases kind_of_isNameToken ht with hk | hk <;> simp [isCalm, Token.isAnyOf, hk]

theorem Filled.all_isSingle {ts us : List Token} (h : Filled ts us) {depth : ℕ}
    (hts : (outside depth ts).all isSingle) : (outside depth us).all isSingle := by
  refine h.all_outside (fun _ _ hvs => hvs.single) (fun t ht => ?_) hts
  rcases kind_of_isNameToken ht with hk | hk <;> simp [isSingle, hk]

theorem IsList.filled {ts us : List Token} (hts : IsList ts) (h : Filled ts us) : IsList us := by
  have hstarts := h.precedesAs.starts hts.starts
  constructor
  · exact h.fits (.refl none) hts.fits
  · exact hstarts
  · have hne : us ≠ [] := by
      rintro rfl
      simp at hstarts
    obtain ⟨t, ht, hends⟩ := (Option.any_eq_true _ _).1 hts.ends
    have hall : us.getLast?.all (·.endsOperand) := by
      apply h.all_getLast? fun _ => id
      rw [ht]
      exact hends
    rw [List.getLast?_eq_some_getLast hne] at hall ⊢
    exact hall
  · rw [wellPointed_iff]
    exact h.any_follow ((wellPointed_iff ts).1 hts.points)
  · exact h.plain hts.plain
  · exact h.all_isCalm hts.calm

theorem IsTerm.filled {ts us : List Token} (hts : IsTerm ts) (h : Filled ts us) : IsTerm us :=
  ⟨hts.toIsList.filled h, h.all_isSingle hts.single⟩

theorem IsClause.filled {ts us : List Token} (hts : IsClause ts) (h : Filled ts us) :
    IsClause us :=
  ⟨h.fits (.refl _) hts.fits, h.settled hts.settled, h.any_follow hts.points, h.plain hts.plain⟩

theorem IsSentence.filled {kind : StatementKind} {ts us : List Token} (hts : IsSentence kind ts)
    (h : Filled ts us) : IsSentence kind us := by
  constructor
  · -- A statement begins with a word of its own, which is no gap.
    have hhead := hts.head
    have hliteral : StatementKind.ofHead? literalGap.text.toUpper = none := by decide +kernel
    have hlist : StatementKind.ofHead? listGap.text.toUpper = none := by decide +kernel
    have hname : StatementKind.ofHead? nameGap.text.toUpper = none := by decide +kernel
    cases h with
    | nil => exact hhead
    | token t => exact hhead
    | terms hvs =>
      rcases hvs.isGap with rfl | rfl
      · simp [StatementKind.ofTokens, hliteral] at hhead
      · simp [StatementKind.ofTokens, hlist] at hhead
    | name => simp [StatementKind.ofTokens, hname] at hhead
  · exact h.fits (.refl none) hts.fits
  · exact h.settled hts.settled
  · rw [wellPointed_iff]
    exact h.any_follow ((wellPointed_iff ts).1 hts.points)
  · exact h.plain hts.plain

/-! ## Filled texts -/

/-- The significant tokens of a text that has any. -/
def textTokens (text : String) : List Token :=
  (significantTokens text).toOption.getD []

theorem textTokens_eq {text : String} {ts : List Token} (h : Spells text ts) :
    textTokens text = ts := by
  rw [textTokens, h.significantTokens]
  rfl

def IsTermText (text : String) : Prop :=
  ∃ ts, Spells text ts ∧ IsTerm ts

/-- The text lists so many terms. -/
def IsListText (n : ℕ) (text : String) : Prop :=
  ∃ ts, Spells text ts ∧ IsList ts ∧ itemCount ts = n

theorem IsTermText.isListText {text : String} (h : IsTermText text) : IsListText 1 text := by
  obtain ⟨ts, hspells, hterm⟩ := h
  exact ⟨ts, hspells, hterm.toIsList, hterm.itemCount⟩

def IsSentenceText (kind : StatementKind) (text : String) : Prop :=
  ∃ ts, Spells text ts ∧ IsSentence kind ts

/-- The text of a sentence is a script of one statement. -/
theorem IsSentence.script_eq {kind : StatementKind} {text : String} {s : Statement}
    (h : IsSentence kind s.tokens) (hspells : Spells text s.tokens) :
    parseScript text = .ok [s] := by
  apply parseScript_eq_singleton hspells.significantTokens
  intro t ht
  simpa using List.all_eq_true.1 h.plain t ht

theorem IsSentenceText.exists_statement {kind : StatementKind} {text : String}
    (h : IsSentenceText kind text) : ∃ s, parseScript text = .ok [s] ∧ s.kind = kind := by
  obtain ⟨ts, hspells, hsentence⟩ := h
  obtain ⟨s, rfl, hkind⟩ := hsentence.exists_statement
  exact ⟨s, hsentence.script_eq hspells, hkind⟩

theorem beginsWithBreak_append {a : String} (h : beginsWithBreak a) (b : String) :
    beginsWithBreak (a ++ b) := by
  unfold beginsWithBreak at h ⊢
  rw [String.toList_append]
  cases ha : a.toList with
  | nil => simp [ha] at h
  | cons c cs => simpa [ha] using h

inductive Gap where
  | term
  | list
  | name

def Gap.token : Gap → Token
  | term => literalGap
  | list => listGap
  | name => nameGap

/-- The text fills the gap. -/
def Gap.Fits : Gap → String → Prop
  | term, text => IsTermText text
  | list, text => ∃ n, IsListText n text
  | name, text => ∃ t, Spells text [t] ∧ isNameToken t

/-- A fixed text and the gaps behind it, each with the fixed text that follows it, all filled. -/
def fill (first : String) : List (Gap × String) → List String → String
  | (_, next) :: gaps, text :: texts => first ++ text ++ fill next gaps texts
  | _, _ => first

@[simp] theorem fill_nil (first : String) : fill first [] [] = first :=
  rfl

@[simp] theorem fill_cons (first next text : String) (gap : Gap) (gaps : List (Gap × String))
    (texts : List String) :
    fill first ((gap, next) :: gaps) (text :: texts) = first ++ text ++ fill next gaps texts :=
  rfl

/-- The tokens of a template with a literal or a name in each gap, if its fixed texts keep to
themselves. -/
def skeleton? (first : String) : List (Gap × String) → Option (List Token)
  | [] => fixedTokens? (fun _ => true) first
  | (gap, next) :: gaps =>
    match fixedTokens? isPunctuation first, skeleton? next gaps with
    | some ts, some more =>
      if next.isEmpty && gaps.isEmpty || beginsWithBreak next then some (ts ++ gap.token :: more)
      else none
    | _, _ => none

/-- A fixed text, and gaps with the fixed texts behind them. -/
structure Template where
  first : String
  gaps : List (Gap × String)

/-- With a literal or a name in each gap, the template is a term. -/
abbrev Template.MakesTerm (t : Template) : Prop :=
  (skeleton? t.first t.gaps).any fun ts => decide (IsTerm ts)

abbrev Template.MakesSentence (kind : StatementKind) (t : Template) : Prop :=
  (skeleton? t.first t.gaps).any fun ts => decide (IsSentence kind ts)

/-- Each text fills its gap. -/
abbrev Fill (gaps : List (Gap × String)) (texts : List String) : Prop :=
  List.Forall₂ (fun gap text => gap.1.Fits text) gaps texts

theorem beginsWithBreak_fill {first : String} (h : beginsWithBreak first)
    (gaps : List (Gap × String)) (texts : List String) :
    beginsWithBreak (fill first gaps texts) := by
  unfold fill
  split
  · rw [String.append_assoc]
    exact beginsWithBreak_append h _
  · exact h

theorem Gap.Fits.exists_spells {gap : Gap} {text : String} (h : gap.Fits text) :
    ∃ vs, Spells text vs ∧
      ∀ ts us, Filled ts us → Filled (gap.token :: ts) (vs ++ us) := by
  cases gap with
  | term =>
    obtain ⟨vs, hspells, hterm⟩ := h
    exact ⟨vs, hspells, fun _ _ => .terms hterm.replaces⟩
  | list =>
    obtain ⟨n, vs, hspells, hlist, -⟩ := h
    exact ⟨vs, hspells, fun _ _ => .terms hlist.replaces⟩
  | name =>
    obtain ⟨t, hspells, hname⟩ := h
    exact ⟨[t], hspells, fun _ _ => .name hname⟩

theorem skeleton?_cons {first next : String} {gap : Gap} {gaps : List (Gap × String)}
    {ts : List Token} (h : skeleton? first ((gap, next) :: gaps) = some ts) :
    ∃ front more, fixedTokens? isPunctuation first = some front ∧
      skeleton? next gaps = some more ∧ ts = front ++ gap.token :: more ∧
      ((next = "" ∧ gaps = []) ∨ beginsWithBreak next) := by
  rw [skeleton?] at h
  split at h
  · rename_i front more hfront hmore
    split_ifs at h with hnext
    refine ⟨front, more, hfront, hmore, (Option.some.inj h).symm, ?_⟩
    simpa using hnext
  · simp at h

/-- The tokens of the fixed texts, and between them those of the texts that fill the gaps. -/
def woven (first : String) : List (Gap × String) → List String → List Token
  | (_, next) :: gaps, text :: texts =>
    textTokens first ++ (textTokens text ++ woven next gaps texts)
  | _, _ => textTokens first

@[simp] theorem woven_nil (first : String) : woven first [] [] = textTokens first :=
  rfl

@[simp] theorem woven_cons (first next text : String) (gap : Gap) (gaps : List (Gap × String))
    (texts : List String) :
    woven first ((gap, next) :: gaps) (text :: texts) =
      textTokens first ++ (textTokens text ++ woven next gaps texts) :=
  rfl

/-- A filled template is read as its tokens with the gaps filled. -/
theorem spells_fill {first : String} {gaps : List (Gap × String)} {texts : List String}
    {ts : List Token} (h : skeleton? first gaps = some ts) (hfill : Fill gaps texts) :
    Spells (fill first gaps texts) (woven first gaps texts) ∧
      Filled ts (woven first gaps texts) := by
  induction hfill generalizing first ts with
  | nil =>
    have hspells : Spells first ts := spells_of_fixedTokens? h
    rw [woven_nil, textTokens_eq hspells]
    exact ⟨hspells, by simpa using Filled.nil.append ts⟩
  | @cons gap text gaps texts hfits hfill ih =>
    obtain ⟨front, more, hfront, hmore, rfl, hnext⟩ := skeleton?_cons h
    obtain ⟨hus, hfilled⟩ := ih hmore
    obtain ⟨vs, hvs, hgap⟩ := hfits.exists_spells
    have hopens : Opens first front := opens_of_fixedTokens? hfront
    have hrest : Spells (text ++ fill gap.2 gaps texts) (vs ++ woven gap.2 gaps texts) := by
      rcases hnext with ⟨hempty, rfl⟩ | hbreak
      · cases hfill
        have hnone : woven gap.2 [] [] = [] := by
          rw [woven_nil, hempty]
          exact textTokens_eq opens_empty.spells
        rw [fill_nil, hnone, hempty, String.append_empty, List.append_nil]
        exact hvs
      · exact hvs.append hus (beginsWithBreak_fill hbreak gaps texts)
    rw [fill_cons, woven_cons, textTokens_eq hopens.spells, textTokens_eq hvs, String.append_assoc]
    exact ⟨hopens.append_spells hrest, (hgap _ _ hfilled).append front⟩

section Texts

variable {t : Template} {texts : List String}

/-- It is enough to check a template with its gaps unfilled. -/
theorem isTermText_fill (h : t.MakesTerm) (hfill : Fill t.gaps texts) :
    IsTermText (fill t.first t.gaps texts) := by
  obtain ⟨ts, hts, hterm⟩ := (Option.any_eq_true _ _).1 h
  obtain ⟨hus, hfilled⟩ := spells_fill hts hfill
  exact ⟨_, hus, (of_decide_eq_true hterm).filled hfilled⟩

theorem isSentenceText_fill {kind : StatementKind} (h : t.MakesSentence kind)
    (hfill : Fill t.gaps texts) : IsSentenceText kind (fill t.first t.gaps texts) := by
  obtain ⟨ts, hts, hsentence⟩ := (Option.any_eq_true _ _).1 h
  obtain ⟨hus, hfilled⟩ := spells_fill hts hfill
  exact ⟨_, hus, (of_decide_eq_true hsentence).filled hfilled⟩

end Texts

end Sql
end QueryFuzz
