import QueryFuzz.Proofs.Grammar.Selections

/-!
# Selections over tables

Every clause of a selection goes on over the tables that the selection is over. So the whole text
keeps to them and nests no deeper than its items, conditions and bounds, and a second query nests
no deeper than the first.
-/

namespace QueryFuzz
namespace Grammar

open Sql

variable {tables : List Table} {limit : ℕ}

/-! ## Texts behind texts -/

section Keeping

variable {inCompound : Bool} {kind : ClauseKind} {a b body text : String}
  {front ts us : List Token}

/-- A text keeps to what its two parts keep to, if the first closes what it opens. -/
theorem KeepsTo.append {before : Option Token} (ha : KeepsTo tables limit a)
    (hb : KeepsTo tables limit b) (hspells : Spells a ts) (hfits : fitsFrom 0 before ts)
    (hbehind : SpellsBehind b us) : KeepsTo tables limit (a ++ b) := by
  have hclosed : depthBehind 0 (textTokens a) = 0 := by
    rw [textTokens_eq hspells]
    exact depthBehind_of_fitsFrom hfits 0
  have htokens : textTokens (a ++ b) = textTokens a ++ textTokens b := by
    rw [textTokens_eq (hspells.append hbehind.spells hbehind.breaks), textTokens_eq hspells,
      textTokens_eq hbehind.spells]
  constructor <;> rw [htokens]
  · exact ha.grounded.append hb.grounded
  · rw [shallow_append, hclosed]
    exact ⟨ha.shallow, hb.shallow⟩

/-- The token can stand over any tables, and it is no parenthesis. -/
def isFlat (t : Token) : Bool :=
  isFixed t && t.kind != .leftParen && t.kind != .rightParen

theorem isFixed_of_isFlat {t : Token} (h : isFlat t) : isFixed t := by
  simp only [isFlat, Bool.and_eq_true] at h
  exact h.1.1

theorem depthPast_of_isFlat {t : Token} (h : isFlat t) (depth : ℕ) : depthPast depth t = depth := by
  unfold isFlat at h
  unfold depthPast
  cases hk : t.kind <;> simp_all

theorem shallow_of_isFlat (h : ∀ t ∈ ts, isFlat t) :
    Shallow limit 0 ts ∧ depthBehind 0 ts = 0 := by
  induction ts with
  | nil => exact ⟨shallow_nil, rfl⟩
  | cons t ts ih =>
    obtain ⟨ht, hts⟩ := List.forall_mem_cons.1 h
    obtain ⟨hshallow, hbehind⟩ := ih hts
    rw [← depthPast_of_isFlat ht 0] at hshallow hbehind
    exact ⟨List.forall_mem_cons.2 ⟨Nat.zero_le limit, hshallow⟩,
      hbehind.trans (depthPast_of_isFlat ht 0)⟩

/-- Flat tokens in front of a text. -/
theorem keepsTo_of_isFlat (hfront : ∀ t ∈ front, isFlat t) (hbody : KeepsTo tables limit body)
    (htokens : textTokens text = front ++ textTokens body) : KeepsTo tables limit text := by
  obtain ⟨hshallow, hclosed⟩ : Shallow limit 0 front ∧ depthBehind 0 front = 0 :=
    shallow_of_isFlat hfront
  constructor <;> rw [htokens]
  · exact (grounded_of_isFixed fun t ht => isFixed_of_isFlat (hfront t ht)).append hbody.grounded
  · rw [shallow_append, hclosed]
    exact ⟨hshallow, hbody.shallow⟩

theorem keepsTo_empty : KeepsTo tables limit "" := by
  have htokens : textTokens "" = [] := textTokens_eq opens_empty.spells
  constructor <;> rw [htokens]
  · exact .nil
  · exact shallow_nil

/-- Behind whatever is complete, the text goes on over the tables. -/
structure Continues (tables : List Table) (limit : ℕ) (text : String) : Prop extends
    KeepsTo tables limit text where
  behind : ∃ ts, SpellsBehind text ts

theorem Continues.append (ha : Continues tables limit a) (hb : Continues tables limit b) :
    Continues tables limit (a ++ b) := by
  obtain ⟨ts, hts⟩ := ha.behind
  obtain ⟨us, hus⟩ := hb.behind
  exact ⟨ha.toKeepsTo.append hb.toKeepsTo hts.spells hts.clause.fits hus, _, hts.append hus⟩

theorem continues_front (h : IsFront front text) (hfront : ∀ t ∈ front, isFlat t)
    (hbody : Holds tables limit .list body) : Continues tables limit (text ++ body) := by
  obtain ⟨n, us, hspells, hlist, -⟩ := hbody.fits
  have hbehind := h.spells hspells hlist
  refine ⟨keepsTo_of_isFlat hfront hbody.toKeepsTo ?_, _, hbehind⟩
  rw [textTokens_eq hbehind.spells, textTokens_eq hspells]

theorem isFlat_of_mem_fronts : (∀ front ∈ partFronts, ∀ t ∈ front.2.2.1, isFlat t) ∧
    ∀ front ∈ restFronts, ∀ t ∈ front.2.1, isFlat t := by
  decide +kernel

theorem continues_part (h : (inCompound, kind, front, text) ∈ partFronts)
    (hbody : Holds tables limit .list body) : Continues tables limit (text ++ body) :=
  continues_front (isFront_of_mem_partFronts _ h) (isFlat_of_mem_fronts.1 _ h) hbody

theorem continues_rest (h : (inCompound, front, text) ∈ restFronts)
    (hbody : Holds tables limit .list body) : Continues tables limit (text ++ body) :=
  continues_front (isFront_of_mem_restFronts _ h).1 (isFlat_of_mem_fronts.2 _ h) hbody

/-- A sentence with clauses behind it keeps to what it and they keep to. -/
theorem keepsTo_joinParts {statement : StatementKind} {parts : List (ClauseKind × String)}
    (ha : KeepsTo tables limit a) (hspells : Spells a ts) (hsentence : IsSentence statement ts)
    (hparts : ∀ part ∈ parts, Continues tables limit part.2) :
    KeepsTo tables limit (a ++ joinParts parts) := by
  induction parts generalizing a ts with
  | nil => simpa [joinParts] using ha
  | cons part parts ih =>
    obtain ⟨hpart, hparts⟩ := List.forall_mem_cons.1 hparts
    obtain ⟨us, hus⟩ := hpart.behind
    have hboth := ha.append hpart.toKeepsTo hspells hsentence.fits hus
    have hwhole := ih hboth (hspells.append hus.spells hus.breaks) (hsentence.append hus.clause)
      hparts
    obtain ⟨kind, text⟩ := part
    rwa [joinParts_cons, ← String.append_assoc]

end Keeping

/-! ## Clauses -/

theorem continues_filter {condition : Option Predicate}
    (h : ∀ p ∈ condition, IsPhrase tables limit p.text) :
    ∀ part ∈ filterParts condition, Continues tables limit part.2 := by
  intro part hpart
  obtain ⟨p, hp, rfl⟩ := mem_optionalPart.1 hpart
  exact continues_part where_mem_partFronts (h p hp).list

theorem continues_source {s : TableSource} (h : s.IsIn tables) :
    ∀ part ∈ s.parts, Continues tables limit part.2 := by
  obtain ⟨first, join⟩ := s
  obtain ⟨hfirst, hjoin⟩ := h
  have hname : ∀ {name : String}, IsKnown tables name →
      Holds tables limit .list (quoteIdentifier name) :=
    fun hname => (isPhrase_name (holds_name hname)).list
  intro part hpart
  rcases List.mem_cons.1 hpart with rfl | hpart
  · exact continues_part from_mem_partFronts (hname hfirst)
  · cases join with
    | none => simp [Join.parts] at hpart
    | cross table =>
      obtain rfl := List.mem_singleton.1 hpart
      exact continues_part crossJoin_mem_partFronts (hname hjoin)
    | on kind table left right =>
      obtain rfl := List.mem_singleton.1 hpart
      obtain ⟨hleft, hright⟩ := hjoin
      obtain ⟨front, -, hfront⟩ := kind.exists_mem_partFronts
      have hop : "=" ∈ comparisons := by decide
      have hcomparison : IsPhrase tables limit ((⟨some first, left⟩ : ColumnRef).text ++ " " ++
          "=" ++ " " ++ (⟨some table, right⟩ : ColumnRef).text) :=
        isPhrase_comparison hop (isPhrase_column hleft) (isPhrase_column hright)
      exact (continues_part hfront (hname (hright.isKnown_qualifier rfl))).append
        (continues_rest on_mem_restFronts hcomparison.list)

theorem continues_grouping {grouping : Option Grouping}
    (h : ∀ g ∈ grouping, g.Sound tables limit) :
    ∀ part ∈ groupingParts grouping, Continues tables limit part.2 := by
  have hop : ">" ∈ comparisons := by decide
  intro part hpart
  rcases List.mem_append.1 hpart with hpart | hpart
  · obtain ⟨g, hg, rfl⟩ := mem_optionalPart.1 hpart
    apply continues_part groupBy_mem_partFronts
    exact holds_commaList_map (h g hg).ne_nil fun c hc => isPhrase_column ((h g hg).keys c hc)
  · obtain ⟨pair, hpair, rfl⟩ := mem_optionalPart.1 hpart
    obtain ⟨g, hg, hpair⟩ := Option.bind_eq_some_iff.1 hpair
    obtain ⟨haggregate, hbound⟩ := (h g hg).having pair hpair
    exact continues_part having_mem_partFronts (isPhrase_comparison hop haggregate hbound).list

theorem continues_compound {compound : Option CompoundPart}
    (h : ∀ c ∈ compound, c.Sound tables limit) :
    ∀ part ∈ compoundParts compound, Continues tables limit part.2 := by
  intro part hpart
  obtain ⟨c, hc, rfl⟩ := mem_optionalPart.1 hpart
  have hsound := h c hc
  obtain ⟨⟨operator, words⟩, hwords, hoperator⟩ := List.mem_map.1 hsound.operator
  have hselect := continues_part (compound_mem_partFronts _ hwords)
    (holds_commaList_map hsound.ne_nil hsound.items)
  have hsource := hselect.append
    (continues_rest from_mem_restFronts (isPhrase_name (holds_name hsound.table)).list)
  have htext : compoundText (some c) = " " ++ operator ++ " SELECT " ++
      commaList (c.arm.items.map (·.text)) ++ (" FROM " ++ quoteIdentifier c.arm.table) ++
        whereText c.arm.condition := by
    simp [compoundText, ← hoperator, String.append_assoc]
  dsimp only
  rw [htext]
  cases hcondition : c.arm.condition with
  | none =>
    rw [whereText, String.append_empty]
    exact hsource
  | some p =>
    have hwhere := continues_filter hsound.condition (.filter, " WHERE " ++ p.text) (by
      rw [hcondition]
      exact List.mem_singleton_self _)
    exact hsource.append hwhere

theorem isFlat_positionTokens (position : ℕ) (directions : List Bool) :
    ∀ t ∈ positionTokens position directions, isFlat t := by
  induction directions generalizing position with
  | nil => simp [positionTokens]
  | cons descending rest ih =>
    have hdirection : ∀ t ∈ directionTokens descending, isFlat t := by
      cases descending <;> decide
    rw [positionTokens]
    exact List.forall_mem_cons.2 ⟨rfl, List.forall_mem_cons.2 ⟨rfl,
      List.forall_mem_append.2 ⟨hdirection, ih (position + 1)⟩⟩⟩

theorem continues_order {order : Option (List Bool)} (h : ∀ ds ∈ order, ds ≠ []) :
    ∀ part ∈ orderParts order, Continues tables limit part.2 := by
  intro part hpart
  obtain ⟨ds, hds, rfl⟩ := mem_optionalPart.1 hpart
  have hpart := spellsPart_order false (h ds hds)
  have hflat : ∀ t ∈ orderTokens ds, isFlat t := by
    obtain ⟨descending, rest, rfl⟩ := List.exists_cons_of_ne_nil (h ds hds)
    have hdirection : ∀ t ∈ directionTokens descending, isFlat t := by
      cases descending <;> decide
    rw [orderTokens]
    simp only [List.forall_mem_cons, List.forall_mem_append]
    exact ⟨rfl, rfl, rfl, hdirection, isFlat_positionTokens 2 rest⟩
  refine ⟨keepsTo_of_isFlat hflat keepsTo_empty ?_, _, hpart.toSpellsBehind⟩
  rw [textTokens_eq hpart.spells, textTokens_eq opens_empty.spells, List.append_nil]

theorem continues_limit (o : Option LimitPart) :
    ∀ part ∈ limitParts o, Continues tables limit part.2 := by
  intro part hpart
  obtain ⟨⟨count, offset⟩, -, rfl⟩ := mem_optionalPart.1 hpart
  have hcount : Continues tables limit (" LIMIT " ++ toString count) :=
    continues_part (limit_mem_partFronts false) (isPhrase_integer count).list
  cases offset with
  | none => simpa [limitText] using hcount
  | some n =>
    exact hcount.append (continues_rest offset_mem_restFronts (isPhrase_integer n).list)

/-- The text of a selection keeps to its tables, and nests as deep as its parts. -/
theorem Selection.Sound.keepsTo {s : Selection} {width : ℕ} (h : s.Sound tables limit width) :
    KeepsTo tables limit s.text := by
  obtain ⟨ts, hhead, htokens, -⟩ := h.exists_head
  have hwords : ∀ t ∈ selectWords s.distinct, isFlat t := by
    cases s.distinct <;> decide
  have hkeeps : KeepsTo tables limit (headText s.distinct s.items.text) := by
    apply keepsTo_of_isFlat hwords h.keeps
    rw [textTokens_eq hhead.spells, htokens]
  rw [s.text_eq]
  apply keepsTo_joinParts hkeeps hhead.spells hhead.sentence
  simp only [Selection.parts, List.forall_mem_append]
  exact ⟨⟨⟨⟨⟨continues_source h.source, continues_filter h.condition⟩,
    continues_grouping h.grouping⟩, continues_compound h.compound⟩, continues_order h.order⟩,
    continues_limit s.limit⟩

/-! ## Sentences over tables -/

/-- The text is a sentence of its kind over the tables. -/
structure IsQueryText (tables : List Table) (limit : ℕ) (kind : StatementKind) (text : String) :
    Prop extends KeepsTo tables limit text where
  sentence : IsSentenceText kind text

section Sentences

variable {kind : StatementKind} {text : String}

theorem isQueryText_flat {t : Template} {texts : List String}
    (ht : (kind, t) ∈ Shape.flatSentences)
    (h : FillOver tables limit t.gaps texts) :
    IsQueryText tables limit kind (fill t.first t.gaps texts) := by
  obtain ⟨hmakes, hadds⟩ := Shape.makesSentence_of_mem_flatSentences _ ht
  obtain ⟨ts, hskeleton, -⟩ := (Option.any_eq_true _ _).1 hmakes
  exact ⟨keepsTo_fill hskeleton hadds h, isSentenceText_fill hmakes h.fill⟩

/-- Where gaps stand in parentheses, it counts how deep the text in each of them is. -/
theorem isQueryText_nesting {t : Template} {texts : List String}
    (ht : (kind, t) ∈ Shape.nestingSentences) (hlimit : 1 ≤ limit)
    (h : FillOver tables limit t.gaps texts)
    (hdepths : List.Forall₂ (fun d text => Shallow limit d (textTokens text))
      (gapDepths 0 t.first t.gaps) texts) :
    IsQueryText tables limit kind (fill t.first t.gaps texts) := by
  obtain ⟨hmakes, hadds⟩ := Shape.makesSentence_of_mem_nestingSentences _ ht
  obtain ⟨ts, hskeleton, -⟩ := (Option.any_eq_true _ _).1 hmakes
  exact ⟨keepsTo_fill_of_depths hskeleton hadds hlimit h hdepths,
    isSentenceText_fill hmakes h.fill⟩

theorem isQueryText_where {condition : Option Predicate}
    (htext : IsQueryText tables limit kind text)
    (h : ∀ p ∈ condition, IsPhrase tables limit p.text) :
    IsQueryText tables limit kind (text ++ whereText condition) := by
  have hsentence := isSentenceText_where htext.sentence fun p hp => (h p hp).fits
  obtain ⟨ts, hspells, hts⟩ := htext.sentence
  have hkeeps := keepsTo_joinParts htext.toKeepsTo hspells hts (continues_filter h)
  rw [joinParts_filterParts] at hkeeps
  exact ⟨hkeeps, hsentence⟩

end Sentences

end Grammar
end QueryFuzz
