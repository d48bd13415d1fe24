import Mathlib.Data.List.Chain
import QueryFuzz.Proofs.Sql.Rendering

/-!
# Where points stand

In the queries considered here a point stands between two names, and the name behind it is not
called as a function. A reader of such tokens needs to know only which of four places it is in.
Tokens it gets through do not fuse, and it still gets through them when a part between two
separators is cut out or a pair of parentheses is taken away.
-/

namespace QueryFuzz
namespace Sql

/-- What the token in front leaves open. -/
inductive Place where
  /-- Anything but a point. -/
  | free
  /-- Anything, a point included. -/
  | name
  /-- Only a name: a point is in front. -/
  | point
  /-- Neither a name, a literal, a point nor an opening parenthesis. -/
  | shut
  deriving DecidableEq

/-- The place behind a token, or none where the token may not stand. -/
def Place.past (p : Place) (t : Token) : Option Place :=
  match t.kind with
  | .dot => if p = .name then some .point else none
  | .identifier | .quotedIdentifier =>
    match p with
    | .free | .name => some .name
    | .point => some .shut
    | .shut => none
  | .string | .blob | .integer | .float | .parameter =>
    if p = .free ∨ p = .name then some .shut else none
  | .leftParen => if p = .free ∨ p = .name then some .free else none
  | .rightParen => if p = .point then none else some .shut
  | _ => if p = .point then none else some .free

/-- The place behind all of the tokens. -/
def follow (p : Place) : List Token → Option Place
  | [] => some p
  | t :: rest => (p.past t).bind fun q => follow q rest

theorem follow_append (p : Place) (ts us : List Token) :
    follow p (ts ++ us) = (follow p ts).bind fun q => follow q us := by
  induction ts generalizing p with
  | nil => rfl
  | cons t ts ih =>
    rw [List.cons_append, follow, follow]
    cases p.past t with
    | none => rfl
    | some q => exact ih q

theorem follow_append_eq_some {p r : Place} {ts us : List Token}
    (h : follow p (ts ++ us) = some r) : ∃ q, follow p ts = some q ∧ follow q us = some r := by
  rw [follow_append] at h
  exact Option.bind_eq_some_iff.1 h

theorem follow_cons_eq_some {p r : Place} {t : Token} {ts : List Token}
    (h : follow p (t :: ts) = some r) : ∃ q, p.past t = some q ∧ follow q ts = some r :=
  Option.bind_eq_some_iff.1 h

theorem follow_cons {p q : Place} {t : Token} (h : p.past t = some q) (ts : List Token) :
    follow p (t :: ts) = follow q ts := by
  rw [follow, h, Option.bind_some]

/-! ## Tokens that were followed do not fuse -/

theorem Lexeme.name_head {kind : TokenKind} {cs : List Char} (h : Lexeme kind cs)
    (hkind : kind = .identifier ∨ kind = .quotedIdentifier) :
    cs.head?.any Char.isDigit = false := by
  cases h with
  | word hstart => simpa using isDigit_of_startsWord hstart
  | quoted hmark =>
    rcases hmark with rfl | rfl <;> rfl
  | bracketed => rfl
  | numeral hnumeral => rcases hnumeral.kind_cases with rfl | rfl <;> simp at hkind
  | _ => simp at hkind

theorem past_dot {p q : Place} {t : Token} (ht : t.kind = .dot) (h : p.past t = some q) :
    p = .name ∧ q = .point := by
  unfold Place.past at h
  rw [ht] at h
  cases p <;> simp_all

theorem fuses_of_past {p q r : Place} {t u : Token} (hu : u.IsLexeme) (ht : p.past t = some q)
    (h : q.past u = some r) : fuses t u = false := by
  by_cases hdot : t.kind = .dot
  · obtain ⟨-, rfl⟩ := past_dot hdot ht
    have hname : u.kind = .identifier ∨ u.kind = .quotedIdentifier := by
      cases hk : u.kind <;> simp [Place.past, hk] at h ⊢
    have hdigit := Lexeme.name_head hu hname
    simp [fuses, hdot, hdigit]
  · have hinteger : t.kind = .integer → u.kind ≠ .dot := by
      intro hk hu
      obtain ⟨rfl, -⟩ := past_dot hu h
      unfold Place.past at ht
      rw [hk] at ht
      cases p <;> simp at ht
    by_cases hk : t.kind = .integer
    · simp [fuses, hk, hinteger hk]
    · simp [fuses, hk, hdot]

theorem separable_of_follow {p q : Place} {ts : List Token} (hts : ∀ t ∈ ts, t.IsLexeme)
    (h : follow p ts = some q) : Separable ts := by
  induction ts generalizing p with
  | nil => exact List.isChain_nil
  | cons t ts ih =>
    obtain ⟨q', ht, hrest⟩ := follow_cons_eq_some h
    have hsep := ih (fun u hu => hts u (List.mem_cons_of_mem t hu)) hrest
    cases ts with
    | nil => exact List.isChain_singleton t
    | cons u ts =>
      obtain ⟨r, hu, -⟩ := follow_cons_eq_some hrest
      exact List.isChain_cons_cons.2 ⟨fuses_of_past (hts u (by simp)) ht hu, hsep⟩

/-! ## Places that leave more open -/

/-- Whatever may follow at the first place may follow at the second. -/
def Place.Below (p q : Place) : Prop :=
  p = q ∨ (p = .shut ∧ q ≠ .point) ∨ (p = .free ∧ q = .name)

instance (p q : Place) : Decidable (p.Below q) :=
  inferInstanceAs (Decidable (_ ∨ _))

theorem Place.Below.ne_point {p q : Place} (h : p.Below q) (hp : p ≠ .point) : q ≠ .point := by
  rcases h with rfl | ⟨-, hq⟩ | ⟨-, rfl⟩
  · exact hp
  · exact hq
  · decide

theorem Place.Below.past {p q r : Place} {t : Token} (h : p.Below q) (ht : p.past t = some r) :
    ∃ r', q.past t = some r' ∧ r.Below r' := by
  rcases h with rfl | ⟨rfl, hq⟩ | ⟨rfl, rfl⟩
  · exact ⟨r, ht, .inl rfl⟩
  · cases hk : t.kind <;> cases q <;>
      simp_all [Place.past, Place.Below]
  · cases hk : t.kind <;> simp_all [Place.past, Place.Below]

theorem Place.Below.follow {p q r : Place} {ts : List Token} (h : p.Below q)
    (hts : Sql.follow p ts = some r) : ∃ r', Sql.follow q ts = some r' ∧ r.Below r' := by
  induction ts generalizing p q with
  | nil =>
    obtain rfl := Option.some.inj hts
    exact ⟨q, rfl, h⟩
  | cons t ts ih =>
    obtain ⟨p', hp', hrest⟩ := follow_cons_eq_some hts
    obtain ⟨q', hq', hbelow⟩ := h.past hp'
    obtain ⟨r', hr', hr⟩ := ih hbelow hrest
    exact ⟨r', by rw [follow_cons hq', hr'], hr⟩

/-- The points of a statement all stand where they should. -/
def WellPointed (ts : List Token) : Prop :=
  ∃ p, follow .free ts = some p ∧ p ≠ .point

theorem WellPointed.separable {ts : List Token} (h : WellPointed ts)
    (hts : ∀ t ∈ ts, t.IsLexeme) : Separable ts := by
  obtain ⟨p, hp, -⟩ := h
  exact separable_of_follow hts hp

/-! ## Cutting between separators -/

/-- Keywords, operators and commas stand between parts. -/
def isSeparator (t : Token) : Bool :=
  t.kind == .keyword || t.kind == .operator || t.kind == .comma

theorem past_separator {p : Place} {t : Token} (ht : isSeparator t) (hp : p ≠ .point) :
    p.past t = some .free := by
  have hcases : t.kind = .keyword ∨ t.kind = .operator ∨ t.kind = .comma := by
    simpa [isSeparator, or_assoc] using ht
  rcases hcases with hk | hk | hk <;> simp [Place.past, hk, hp]

theorem of_past_separator {p q : Place} {t : Token} (ht : isSeparator t)
    (h : p.past t = some q) : p ≠ .point ∧ q = .free := by
  have hp : p ≠ .point := by
    rintro rfl
    have hcases : t.kind = .keyword ∨ t.kind = .operator ∨ t.kind = .comma := by
      simpa [isSeparator, or_assoc] using ht
    rcases hcases with hk | hk | hk <;> simp [Place.past, hk] at h
  rw [past_separator ht hp] at h
  exact ⟨hp, (Option.some.inj h).symm⟩

/-- A separator or the end is at the position. -/
def StopsAt (ts : List Token) (i : ℕ) : Prop :=
  ∀ t ∈ ts[i]?, isSeparator t

/-- A separator is in front of the position. -/
def StartsAt (ts : List Token) (i : ℕ) : Prop :=
  ∃ k t, i = k + 1 ∧ ts[k]? = some t ∧ isSeparator t

theorem follow_take_drop {p q : Place} {ts : List Token} (i : ℕ) (h : follow p ts = some q) :
    ∃ r, follow p (ts.take i) = some r ∧ follow r (ts.drop i) = some q := by
  rw [← List.take_append_drop i ts] at h
  exact follow_append_eq_some h

theorem follow_drop_of_stopsAt {p q : Place} {ts : List Token} {i : ℕ} (hi : StopsAt ts i)
    (h : follow p (ts.drop i) = some q) (hq : q ≠ .point) : p ≠ .point ∧ ∀ r, r ≠ .point →
      ∃ q', follow r (ts.drop i) = some q' ∧ q' ≠ .point := by
  cases hdrop : ts.drop i with
  | nil =>
    rw [hdrop] at h
    obtain rfl := Option.some.inj h
    exact ⟨hq, fun r hr => ⟨r, rfl, hr⟩⟩
  | cons t rest =>
    have ht : isSeparator t := hi t (by rw [← List.head?_drop, hdrop]; rfl)
    rw [hdrop] at h
    obtain ⟨q', hpast, hrest⟩ := follow_cons_eq_some h
    obtain ⟨hp, rfl⟩ := of_past_separator ht hpast
    refine ⟨hp, fun r hr => ⟨q, ?_, hq⟩⟩
    rw [follow_cons (past_separator ht hr), hrest]

theorem WellPointed.cut_before {ts : List Token} {i j : ℕ} (h : WellPointed ts)
    (hi : StopsAt ts i) (hj : StopsAt ts j) : WellPointed (ts.take i ++ ts.drop j) := by
  obtain ⟨q, hq, hne⟩ := h
  obtain ⟨r, hr, hafter⟩ := follow_take_drop i hq
  obtain ⟨hr', -⟩ := follow_drop_of_stopsAt hi hafter hne
  obtain ⟨r', -, hrest⟩ := follow_take_drop j hq
  obtain ⟨q', hq', hne'⟩ := (follow_drop_of_stopsAt hj hrest hne).2 r hr'
  exact ⟨q', by rw [follow_append, hr, Option.bind_some, hq'], hne'⟩

theorem follow_take_of_startsAt {p q : Place} {ts : List Token} {i : ℕ} (hi : StartsAt ts i)
    (h : follow p ts = some q) :
    follow p (ts.take i) = some .free ∧ follow .free (ts.drop i) = some q := by
  obtain ⟨k, t, rfl, hk, ht⟩ := hi
  obtain ⟨hlength, -⟩ := List.getElem?_eq_some_iff.1 hk
  obtain ⟨r, hr, hrest⟩ := follow_take_drop (k + 1) h
  rw [List.take_add_one, hk, Option.toList_some] at hr
  obtain ⟨r', -, hlast⟩ := follow_append_eq_some hr
  obtain ⟨r'', hpast, hnil⟩ := follow_cons_eq_some hlast
  obtain ⟨-, rfl⟩ := of_past_separator ht hpast
  obtain rfl : Place.free = r := Option.some.inj hnil
  rw [List.take_add_one, hk, Option.toList_some]
  exact ⟨hr, hrest⟩

theorem WellPointed.cut_behind {ts : List Token} {i j : ℕ} (h : WellPointed ts)
    (hi : StartsAt ts i) (hj : StartsAt ts j) : WellPointed (ts.take i ++ ts.drop j) := by
  obtain ⟨q, hq, hne⟩ := h
  have hbefore := (follow_take_of_startsAt hi hq).1
  have hafter := (follow_take_of_startsAt hj hq).2
  exact ⟨q, by rw [follow_append, hbefore, Option.bind_some, hafter], hne⟩

/-! ## Taking parentheses away -/

theorem past_leftParen {p q : Place} {t : Token} (ht : t.kind = .leftParen)
    (h : p.past t = some q) : Place.Below .free p ∧ q = .free := by
  cases p <;> simp_all [Place.past, Place.Below]

theorem past_rightParen {p q : Place} {t : Token} (ht : t.kind = .rightParen)
    (h : p.past t = some q) : p ≠ .point ∧ q = .shut := by
  unfold Place.past at h
  rw [ht] at h
  by_cases hp : p = .point
  · simp [hp] at h
  · exact ⟨hp, by simpa [hp, eq_comm] using h⟩

/-- A name in front of a parenthesis is a function, which no point qualifies. -/
theorem past_name {p q : Place} {t : Token} (ht : t.kind = .identifier)
    (h : p.past t = some q) (hq : Place.Below .free q) : Place.Below .free p := by
  unfold Place.past at h
  rw [ht] at h
  cases p with
  | free => exact .inl rfl
  | name => exact .inr (.inr ⟨rfl, rfl⟩)
  | point =>
    obtain rfl := Option.some.inj h
    revert hq
    decide
  | shut => simp at h

/-- What stands in parentheses and behind them can also stand without them. -/
theorem follow_unwrapped {p q : Place} {left right : Token} {content rest : List Token}
    (hleft : left.kind = .leftParen) (hright : right.kind = .rightParen)
    (h : follow p (left :: (content ++ right :: rest)) = some q) (hq : q ≠ .point) :
    Place.Below .free p ∧ ∀ r, Place.Below .free r →
      ∃ q', follow r (content ++ rest) = some q' ∧ q' ≠ .point := by
  obtain ⟨p', hp', hinside⟩ := follow_cons_eq_some h
  obtain ⟨hbelow, rfl⟩ := past_leftParen hleft hp'
  obtain ⟨a, ha, hbehind⟩ := follow_append_eq_some hinside
  obtain ⟨b, hb, hrest⟩ := follow_cons_eq_some hbehind
  obtain ⟨hane, rfl⟩ := past_rightParen hright hb
  refine ⟨hbelow, fun r hr => ?_⟩
  obtain ⟨a', ha', hbelow'⟩ := hr.follow ha
  have hshut : Place.Below .shut a' := .inr (.inl ⟨rfl, hbelow'.ne_point hane⟩)
  obtain ⟨q', hq', hbelow''⟩ := hshut.follow hrest
  refine ⟨q', ?_, hbelow''.ne_point hq⟩
  rw [follow_append, ha', Option.bind_some, hq']

theorem WellPointed.unwrap {before content rest : List Token} {left right : Token}
    (hleft : left.kind = .leftParen) (hright : right.kind = .rightParen)
    (h : WellPointed (before ++ left :: (content ++ right :: rest))) :
    WellPointed (before ++ (content ++ rest)) := by
  obtain ⟨q, hq, hne⟩ := h
  obtain ⟨p, hp, hbehind⟩ := follow_append_eq_some hq
  obtain ⟨hbelow, hall⟩ := follow_unwrapped hleft hright hbehind hne
  obtain ⟨q', hq', hne'⟩ := hall p hbelow
  exact ⟨q', by rw [follow_append, hp, Option.bind_some, hq'], hne'⟩

theorem WellPointed.unwrap_call {before content rest : List Token} {name left right : Token}
    (hname : name.kind = .identifier) (hleft : left.kind = .leftParen)
    (hright : right.kind = .rightParen)
    (h : WellPointed (before ++ name :: left :: (content ++ right :: rest))) :
    WellPointed (before ++ (content ++ rest)) := by
  obtain ⟨q, hq, hne⟩ := h
  obtain ⟨p, hp, hcall⟩ := follow_append_eq_some hq
  obtain ⟨p', hp', hbehind⟩ := follow_cons_eq_some hcall
  obtain ⟨hbelow, hall⟩ := follow_unwrapped hleft hright hbehind hne
  obtain ⟨q', hq', hne'⟩ := hall p (past_name hname hp' hbelow)
  exact ⟨q', by rw [follow_append, hp, Option.bind_some, hq'], hne'⟩

/-! ## Exchanging literals -/

def isLiteralKind (kind : TokenKind) : Bool :=
  kind == .string || kind == .blob || kind == .integer || kind == .float || kind == .parameter

theorem past_eq_of_isLiteralKind {t u : Token} (ht : isLiteralKind t.kind)
    (hu : isLiteralKind u.kind) (p : Place) : p.past t = p.past u := by
  cases hk : t.kind <;> simp_all [isLiteralKind] <;>
    cases hk' : u.kind <;> simp_all [Place.past]

theorem WellPointed.exchange {before rest : List Token} {t u : Token} (ht : isLiteralKind t.kind)
    (hu : isLiteralKind u.kind) (h : WellPointed (before ++ t :: rest)) :
    WellPointed (before ++ u :: rest) := by
  obtain ⟨q, hq, hne⟩ := h
  refine ⟨q, ?_, hne⟩
  rw [follow_append] at hq ⊢
  simpa only [follow, past_eq_of_isLiteralKind ht hu] using hq

end Sql
end QueryFuzz
