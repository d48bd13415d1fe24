import QueryFuzz.Proofs.Sql.Templates

/-!
# The texts of clauses

A clause is written as a front, which is fixed, and a list of terms behind it, perhaps with more
fronts and lists that belong to the same clause. A text that is put together from a head and from
clauses is a statement with exactly these clauses.
-/

namespace QueryFuzz
namespace Sql

/-! ## Fronts -/

theorem clauseStarts_found {inCompound : Bool} {kind : ClauseKind} {t : Token} {rest : List Token}
    (hclause : clauseAt? .select inCompound t rest.head? = some kind) (hdepth : depthPast 0 t = 0)
    (hmodifier : isJoinModifier t = false) (index modifiers : ℕ) :
    clauseStarts .select index 0 modifiers inCompound (t :: rest) =
      (if kind = .join then index - modifiers else index, kind) ::
        clauseStarts .select (index + 1) 0 0 (compoundPast inCompound (some kind)) rest := by
  rw [clauseStarts, if_pos rfl, hclause, hdepth, hmodifier]
  cases kind <;> rfl

/-- One clause begins at the first token, and none in the tokens behind it. -/
theorem isPart_cons {inCompound : Bool} {kind : ClauseKind} {t : Token} {us : List Token}
    (hclause : ∀ rest : List Token, clauseAt? .select inCompound t (us ++ rest).head? = some kind)
    (hdepth : depthPast 0 t = 0) (hmodifier : isJoinModifier t = false)
    (hus : Calm (compoundPast inCompound (some kind)) us) : IsPart inCompound kind (t :: us) := by
  refine ⟨List.cons_ne_nil t us, fun index rest => ?_⟩
  rw [List.cons_append, clauseStarts_found (hclause rest) hdepth hmodifier, hus.clauseStarts,
    Nat.sub_zero, ite_self, List.length_cons, Nat.add_right_comm, Nat.add_assoc]

/-- What a token begins does not depend on what follows it unless `BY` might follow. -/
theorem clauseAt?_after {inCompound : Bool} {t : Token} (horder : t.isWord "ORDER" = false)
    (hgroup : t.isWord "GROUP" = false) (after : Option Token) :
    clauseAt? .select inCompound t after = clauseAt? .select inCompound t none := by
  unfold clauseAt?
  rw [horder, hgroup]
  rfl

theorem isPart_word {inCompound : Bool} {kind : ClauseKind} {t : Token} {us : List Token}
    (h : clauseAt? .select inCompound t none = some kind ∧ t.isWord "ORDER" = false ∧
      t.isWord "GROUP" = false ∧ depthPast 0 t = 0 ∧ isJoinModifier t = false ∧
      Calm (compoundPast inCompound (some kind)) us) : IsPart inCompound kind (t :: us) := by
  obtain ⟨hclause, horder, hgroup, hdepth, hmodifier, hus⟩ := h
  refine isPart_cons (fun rest => ?_) hdepth hmodifier hus
  rw [clauseAt?_after horder hgroup, hclause]

theorem isPart_wordBy {inCompound : Bool} {kind : ClauseKind} {t : Token}
    (h : clauseAt? .select inCompound t (some (.ofKeyword "BY")) = some kind ∧
      depthPast 0 t = 0 ∧ isJoinModifier t = false ∧
      Calm (compoundPast inCompound (some kind)) [.ofKeyword "BY"]) :
    IsPart inCompound kind [t, .ofKeyword "BY"] :=
  isPart_cons (fun _ => h.1) h.2.1 h.2.2.1 h.2.2.2

/-- A join begins at the modifiers in front of its word. -/
theorem isPart_join {modifiers : List Token}
    (h : (outside 0 modifiers).all (isCalm false) ∧ depthBehind 0 modifiers = 0 ∧
      modifiersBehind 0 modifiers = modifiers.length) :
    IsPart false .join (modifiers ++ [.ofKeyword "JOIN"]) := by
  obtain ⟨hcalm, hclosed, hmodifiers⟩ := h
  refine ⟨by simp, fun index rest => ?_⟩
  have hjoin : clauseAt? .select false (.ofKeyword "JOIN") rest.head? = some .join := by
    rw [clauseAt?_after (by decide +kernel) (by decide +kernel)]
    decide +kernel
  rw [List.append_assoc, clauseStarts_append hcalm, hclosed, hmodifiers, List.singleton_append,
    clauseStarts_found hjoin rfl (by decide +kernel), if_pos rfl, Nat.add_sub_cancel,
    List.length_append, List.length_singleton, Nat.add_assoc]

/-! ## Clauses as texts -/

/-- Behind whatever is complete, the text is made of these tokens. -/
structure SpellsBehind (text : String) (ts : List Token) : Prop where
  breaks : beginsWithBreak text
  spells : Spells text ts
  clause : IsClause ts

/-- There, it is one clause of this kind. -/
structure SpellsPart (inCompound : Bool) (kind : ClauseKind) (text : String) (ts : List Token) :
    Prop extends SpellsBehind text ts where
  part : IsPart inCompound kind ts

/-- There, it belongs to the clause in front of it. -/
structure SpellsRest (inCompound : Bool) (text : String) (ts : List Token) : Prop extends
    SpellsBehind text ts where
  calm : Calm inCompound ts

def IsPartText (inCompound : Bool) (kind : ClauseKind) (text : String) : Prop :=
  ∃ ts, SpellsPart inCompound kind text ts

section Texts

variable {inCompound : Bool} {kind : ClauseKind} {a b : String} {ts us : List Token}

theorem SpellsBehind.append (ha : SpellsBehind a ts) (hb : SpellsBehind b us) :
    SpellsBehind (a ++ b) (ts ++ us) :=
  ⟨beginsWithBreak_append ha.breaks b, ha.spells.append hb.spells hb.breaks,
    ha.clause.append hb.clause⟩

theorem SpellsPart.append (ha : SpellsPart inCompound kind a ts)
    (hb : SpellsRest (compoundPast inCompound (some kind)) b us) :
    SpellsPart inCompound kind (a ++ b) (ts ++ us) :=
  ⟨ha.toSpellsBehind.append hb.toSpellsBehind, ha.part.append_calm hb.calm⟩

theorem SpellsRest.append (ha : SpellsRest inCompound a ts) (hb : SpellsRest inCompound b us) :
    SpellsRest inCompound (a ++ b) (ts ++ us) :=
  ⟨ha.toSpellsBehind.append hb.toSpellsBehind, ha.calm.append hb.calm⟩

/-- More of a clause, or nothing. -/
def SpellsMore (inCompound : Bool) (text : String) (ts : List Token) : Prop :=
  (text = "" ∧ ts = []) ∨ SpellsRest inCompound text ts

theorem SpellsPart.more (ha : SpellsPart inCompound kind a ts)
    (hb : SpellsMore (compoundPast inCompound (some kind)) b us) :
    SpellsPart inCompound kind (a ++ b) (ts ++ us) := by
  rcases hb with ⟨rfl, rfl⟩ | hb
  · simpa using ha
  · exact ha.append hb

theorem SpellsMore.append (ha : SpellsMore inCompound a ts) (hb : SpellsMore inCompound b us) :
    SpellsMore inCompound (a ++ b) (ts ++ us) := by
  rcases ha with ⟨rfl, rfl⟩ | ha
  · simpa using hb
  · rcases hb with ⟨rfl, rfl⟩ | hb
    · rw [String.append_empty, List.append_nil]
      exact .inr ha
    · exact .inr (ha.append hb)

end Texts

/-! ## Fronts as texts -/

/-- The fronts of clauses, each with whether a compound arm may be in front of it. -/
def partFronts : List (Bool × ClauseKind × List Token × String) :=
  [(false, .source, [.ofKeyword "FROM"], " FROM "),
    (false, .join, [.ofKeyword "JOIN"], " JOIN "),
    (false, .join, [.ofKeyword "LEFT", .ofKeyword "JOIN"], " LEFT JOIN "),
    (false, .join, [.ofKeyword "CROSS", .ofKeyword "JOIN"], " CROSS JOIN "),
    (false, .filter, [.ofKeyword "WHERE"], " WHERE "),
    (false, .groupBy, [.ofKeyword "GROUP", .ofKeyword "BY"], " GROUP BY "),
    (false, .having, [.ofKeyword "HAVING"], " HAVING "),
    (false, .compound, [.ofKeyword "UNION", .ofKeyword "SELECT"], " UNION SELECT "),
    (false, .compound, [.ofKeyword "UNION", .ofKeyword "ALL", .ofKeyword "SELECT"],
      " UNION ALL SELECT "),
    (false, .compound, [.ofKeyword "INTERSECT", .ofKeyword "SELECT"], " INTERSECT SELECT "),
    (false, .compound, [.ofKeyword "EXCEPT", .ofKeyword "SELECT"], " EXCEPT SELECT "),
    (false, .orderBy, [.ofKeyword "ORDER", .ofKeyword "BY"], " ORDER BY "),
    (true, .orderBy, [.ofKeyword "ORDER", .ofKeyword "BY"], " ORDER BY "),
    (false, .limit, [.ofKeyword "LIMIT"], " LIMIT "),
    (true, .limit, [.ofKeyword "LIMIT"], " LIMIT ")]

theorem from_mem_partFronts :
    (false, .source, [.ofKeyword "FROM"], " FROM ") ∈ partFronts := by
  simp [partFronts]

theorem crossJoin_mem_partFronts :
    (false, .join, [.ofKeyword "CROSS", .ofKeyword "JOIN"], " CROSS JOIN ") ∈ partFronts := by
  simp [partFronts]

theorem groupBy_mem_partFronts :
    (false, .groupBy, [.ofKeyword "GROUP", .ofKeyword "BY"], " GROUP BY ") ∈ partFronts := by
  simp [partFronts]

theorem having_mem_partFronts :
    (false, .having, [.ofKeyword "HAVING"], " HAVING ") ∈ partFronts := by
  simp [partFronts]

theorem limit_mem_partFronts (inCompound : Bool) :
    (inCompound, .limit, [.ofKeyword "LIMIT"], " LIMIT ") ∈ partFronts := by
  cases inCompound <;> simp [partFronts]

theorem where_mem_partFronts :
    (false, .filter, [.ofKeyword "WHERE"], " WHERE ") ∈ partFronts := by
  simp [partFronts]

/-- The fronts inside of clauses, each with whether it is inside a compound arm. -/
def restFronts : List (Bool × List Token × String) :=
  [(false, [.ofKeyword "ON"], " ON "), (false, [.ofKeyword "OFFSET"], " OFFSET "),
    (false, [⟨.comma, ","⟩], ", "), (true, [.ofKeyword "FROM"], " FROM "),
    (true, [.ofKeyword "WHERE"], " WHERE ")]

theorem on_mem_restFronts : (false, [.ofKeyword "ON"], " ON ") ∈ restFronts := by
  simp [restFronts]

theorem offset_mem_restFronts : (false, [.ofKeyword "OFFSET"], " OFFSET ") ∈ restFronts := by
  simp [restFronts]

theorem from_mem_restFronts : (true, [.ofKeyword "FROM"], " FROM ") ∈ restFronts := by
  simp [restFronts]

theorem isPart_of_mem : ∀ front ∈ partFronts, IsPart front.1 front.2.1 front.2.2.1 := by
  unfold partFronts
  simp only [List.forall_mem_cons, List.not_mem_nil, false_imp_iff, implies_true, and_true]
  refine ⟨isPart_word (by decide +kernel), @isPart_join [] (by decide +kernel),
    @isPart_join [.ofKeyword "LEFT"] (by decide +kernel),
    @isPart_join [.ofKeyword "CROSS"] (by decide +kernel), isPart_word (by decide +kernel),
    isPart_wordBy (by decide +kernel), isPart_word (by decide +kernel),
    isPart_word (by decide +kernel), isPart_word (by decide +kernel),
    isPart_word (by decide +kernel), isPart_word (by decide +kernel),
    isPart_wordBy (by decide +kernel), isPart_wordBy (by decide +kernel),
    isPart_word (by decide +kernel), isPart_word (by decide +kernel)⟩

/-- The text is made of these tokens, and a list behind them makes a clause. -/
abbrev IsFront (ts : List Token) (text : String) : Prop :=
  beginsWithBreak text ∧ fixedTokens? isPunctuation text = some ts ∧ IsClause (ts ++ [listGap])

theorem isFront_of_mem_partFronts : ∀ front ∈ partFronts, IsFront front.2.2.1 front.2.2.2 := by
  decide +kernel

theorem isFront_of_mem_restFronts :
    ∀ front ∈ restFronts, IsFront front.2.1 front.2.2 ∧ Calm front.1 front.2.1 := by
  decide +kernel

section Lists

variable {inCompound : Bool} {kind : ClauseKind} {front us : List Token} {text body : String}

theorem IsFront.spells (h : IsFront front text) (hbody : Spells body us) (hus : IsList us) :
    SpellsBehind (text ++ body) (front ++ us) := by
  obtain ⟨hbreak, hfixed, hclause⟩ := h
  have hfilled : Filled (front ++ [listGap]) (front ++ us) := by
    simpa using (Filled.terms hus.replaces .nil).append front
  exact ⟨beginsWithBreak_append hbreak body, (opens_of_fixedTokens? hfixed).append_spells hbody,
    hclause.filled hfilled⟩

theorem IsList.calm_of (h : IsList us) (inCompound : Bool) : Calm inCompound us := by
  cases inCompound with
  | true => exact h.calmPart.compound
  | false => exact h.calmPart

/-- The front of a clause with a list behind it. -/
theorem spellsPart_list (h : (inCompound, kind, front, text) ∈ partFronts) (hbody : Spells body us)
    (hus : IsList us) : SpellsPart inCompound kind (text ++ body) (front ++ us) :=
  ⟨(isFront_of_mem_partFronts _ h).spells hbody hus,
    (isPart_of_mem _ h).append_calm (hus.calm_of _)⟩

theorem spellsRest_list (h : (inCompound, front, text) ∈ restFronts) (hbody : Spells body us)
    (hus : IsList us) : SpellsRest inCompound (text ++ body) (front ++ us) := by
  obtain ⟨hfront, hcalm⟩ := isFront_of_mem_restFronts _ h
  exact ⟨hfront.spells hbody hus, hcalm.append (hus.calm_of _)⟩

theorem isPartText_list {n : ℕ} (h : (inCompound, kind, front, text) ∈ partFronts)
    (hbody : IsListText n body) : IsPartText inCompound kind (text ++ body) := by
  obtain ⟨us, hspells, hlist, -⟩ := hbody
  exact ⟨_, spellsPart_list h hspells hlist⟩

end Lists

/-! ## Statements as texts -/

/-- Each text is one clause where the ones before it have left off. -/
def ArePartTexts (inCompound : Bool) : List (ClauseKind × String) → Prop
  | [] => True
  | (kind, text) :: rest =>
    IsPartText inCompound kind text ∧ ArePartTexts (compoundPast inCompound (some kind)) rest

/-- Whether a compound arm is left open by clauses. -/
def compoundBehind (inCompound : Bool) (parts : List (ClauseKind × String)) : Bool :=
  parts.foldl (fun inCompound part => compoundPast inCompound (some part.1)) inCompound

theorem compoundBehind_of_ne {parts : List (ClauseKind × String)}
    (h : ∀ part ∈ parts, part.1 ≠ .compound) : compoundBehind false parts = false := by
  induction parts with
  | nil => rfl
  | cons part parts ih =>
    obtain ⟨hne, hparts⟩ := List.forall_mem_cons.1 h
    have hpast : compoundPast false (some part.1) = false := by
      unfold compoundPast
      split
      · rename_i heq
        exact absurd (Option.some.inj heq) hne
      · rfl
      · rfl
      · rfl
    rw [compoundBehind, List.foldl_cons, hpast]
    exact ih hparts

theorem ArePartTexts.append {inCompound : Bool} {parts more : List (ClauseKind × String)}
    (hparts : ArePartTexts inCompound parts)
    (hmore : ArePartTexts (compoundBehind inCompound parts) more) :
    ArePartTexts inCompound (parts ++ more) := by
  induction parts generalizing inCompound with
  | nil => exact hmore
  | cons part parts ih => exact ⟨hparts.1, ih hparts.2 hmore⟩

/-- Behind clauses that open no compound arm, the text goes on as in front of them. -/
theorem ArePartTexts.append_of_ne {parts more : List (ClauseKind × String)}
    (hparts : ArePartTexts false parts) (hne : ∀ part ∈ parts, part.1 ≠ .compound)
    (hmore : ArePartTexts false more) : ArePartTexts false (parts ++ more) := by
  refine hparts.append ?_
  rwa [compoundBehind_of_ne hne]

def joinParts (parts : List (ClauseKind × String)) : String :=
  String.join (parts.map (·.2))

def tokenParts (parts : List (ClauseKind × String)) : List (ClauseKind × List Token) :=
  parts.map fun part => (part.1, textTokens part.2)

theorem joinParts_cons (kind : ClauseKind) (text : String) (parts : List (ClauseKind × String)) :
    joinParts ((kind, text) :: parts) = text ++ joinParts parts := by
  simp [joinParts]

theorem ArePartTexts.areParts {inCompound : Bool} {parts : List (ClauseKind × String)}
    (h : ArePartTexts inCompound parts) : AreParts inCompound (tokenParts parts) := by
  induction parts generalizing inCompound with
  | nil => trivial
  | cons part parts ih =>
    obtain ⟨kind, text⟩ := part
    obtain ⟨⟨ts, hts⟩, hrest⟩ := h
    exact ⟨by rw [textTokens_eq hts.spells]; exact hts.part, ih hrest⟩

theorem joinParts_append (parts more : List (ClauseKind × String)) :
    joinParts (parts ++ more) = joinParts parts ++ joinParts more := by
  simp [joinParts, String.join_append]

theorem tokenParts_append (parts more : List (ClauseKind × String)) :
    tokenParts (parts ++ more) = tokenParts parts ++ tokenParts more :=
  List.map_append

/-- A clause that need not be there. -/
def optionalPart {α : Type} (kind : ClauseKind) (text : α → String) :
    Option α → List (ClauseKind × String)
  | none => []
  | some a => [(kind, text a)]

section Optional

variable {α : Type} {kind : ClauseKind} {text : α → String} {o : Option α}

theorem mem_optionalPart {part : ClauseKind × String} :
    part ∈ optionalPart kind text o ↔ ∃ a ∈ o, part = (kind, text a) := by
  cases o <;> simp [optionalPart]

theorem kind_of_mem_optionalPart {part : ClauseKind × String}
    (h : part ∈ optionalPart kind text o) : part.1 = kind := by
  obtain ⟨a, -, rfl⟩ := mem_optionalPart.1 h
  rfl

theorem kinds_optionalPart :
    (optionalPart kind text o).map (·.1) = if o.isSome then [kind] else [] := by
  cases o <;> rfl

theorem joinParts_optionalPart : joinParts (optionalPart kind text o) = o.elim "" text := by
  cases o <;> simp [optionalPart, joinParts]

theorem arePartTexts_optionalPart {inCompound : Bool}
    (h : ∀ a ∈ o, IsPartText inCompound kind (text a)) :
    ArePartTexts inCompound (optionalPart kind text o) := by
  cases o with
  | none => trivial
  | some a => exact ⟨h a rfl, trivial⟩

end Optional

/-- A head with clauses behind it is read as its tokens and theirs. -/
theorem ArePartTexts.spells {inCompound : Bool} {parts : List (ClauseKind × String)}
    (h : ArePartTexts inCompound parts) {kind : StatementKind} {head : String}
    {ts : List Token} (hhead : Spells head ts) (hts : IsSentence kind ts) :
    Spells (head ++ joinParts parts) (ts ++ partsTokens (tokenParts parts)) ∧
      IsSentence kind (ts ++ partsTokens (tokenParts parts)) := by
  induction parts generalizing inCompound head ts with
  | nil => simpa [joinParts, tokenParts, partsTokens] using ⟨hhead, hts⟩
  | cons part parts ih =>
    obtain ⟨part, text⟩ := part
    obtain ⟨⟨us, hus⟩, hrest⟩ := h
    have hmore := ih hrest (hhead.append hus.spells hus.breaks) (hts.append hus.clause)
    have htokens : partsTokens (tokenParts ((part, text) :: parts)) =
        us ++ partsTokens (tokenParts parts) := by
      simp [partsTokens, tokenParts, textTokens_eq hus.spells]
    rwa [joinParts_cons, htokens, ← String.append_assoc, ← List.append_assoc]

/-- A text of a head and clauses is a statement with these clauses and the items of the head. -/
theorem exists_select {distinct : Bool} {head : String} {ts : List Token}
    {parts : List (ClauseKind × String)} (hhead : Spells head (selectWords distinct ++ ts))
    (hsentence : IsSentence .select (selectWords distinct ++ ts)) (hitems : IsItems ts)
    (hparts : ArePartTexts false parts) :
    ∃ s : Statement, s.tokens = selectWords distinct ++ ts ++ partsTokens (tokenParts parts) ∧
      Spells (head ++ joinParts parts) s.tokens ∧ IsSentence .select s.tokens ∧ s.kind = .select ∧
      s.sections = (.head, selectWords distinct ++ ts) :: tokenParts parts ∧
      s.selectItems.length = itemCount ts := by
  obtain ⟨hspells, hwhole⟩ := hparts.spells hhead hsentence
  obtain ⟨s, htokens, hkind⟩ := hwhole.exists_statement
  refine ⟨s, htokens, by rwa [htokens], by rwa [htokens], hkind, ?_, ?_⟩
  · exact Statement.sections_eq hkind htokens hitems hparts.areParts
  · exact Statement.length_selectItems hkind htokens hitems hparts.areParts

end Sql
end QueryFuzz
