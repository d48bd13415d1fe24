import QueryFuzz.Proofs.Sql.Outside
import QueryFuzz.Proofs.Sql.Points
import QueryFuzz.Proofs.Sql.Script

/-!
# Where the parts of a statement begin and end

Clauses begin at keywords and reach to a keyword or to the end of the statement. Conjuncts and
select items begin behind a keyword or a comma and reach to one or to the end of their clause.
-/

namespace QueryFuzz
namespace Sql

/-! ## Keywords that begin a clause -/

theorem isSeparator_of_isAnyOf {words : List String} {t : Token} (h : t.isAnyOf words) :
    isSeparator t := by
  simp [isSeparator, kind_of_isAnyOf h]

/-- A keyword begins every clause but the head. -/
theorem isSeparator_of_clauseAt? {statement : StatementKind} {inCompound : Bool} {t : Token}
    {after : Option Token} {kind : ClauseKind}
    (h : clauseAt? statement inCompound t after = some kind) : isSeparator t ∧ kind ≠ .head := by
  have hbegins := clauseAt?_eq_some_iff.1 h
  refine ⟨isSeparator_of_isAnyOf hbegins.isAnyOf, ?_⟩
  rintro rfl
  exact hbegins.elim

/-- The positions so far in front of one that belong to its join. -/
def ModifiersBefore (ts : List Token) (index modifiers : ℕ) : Prop :=
  modifiers ≤ index ∧ ∀ k < index, index - modifiers ≤ k → ∃ t, ts[k]? = some t ∧ isSeparator t

theorem ModifiersBefore.succ {ts : List Token} {index modifiers : ℕ} {t : Token}
    (h : ModifiersBefore ts index modifiers) (ht : ts[index]? = some t) :
    ModifiersBefore ts (index + 1) (if isJoinModifier t then modifiers + 1 else 0) := by
  split_ifs with hmodifier
  · refine ⟨by have := h.1; omega, fun k hk hle => ?_⟩
    by_cases heq : k = index
    · exact ⟨t, by rw [heq, ht], isSeparator_of_isAnyOf hmodifier⟩
    · exact h.2 k (by omega) (by omega)
  · exact ⟨by omega, fun k hk hle => by omega⟩

/-- Every clause but the head begins at a separator. -/
theorem separator_of_mem_clauseStarts {statement : StatementKind} {ts rest : List Token}
    {index depth modifiers : ℕ} {inCompound : Bool} {start : ℕ} {kind : ClauseKind}
    (hrest : ts.drop index = rest) (hmodifiers : ModifiersBefore ts index modifiers)
    (h : (start, kind) ∈ clauseStarts statement index depth modifiers inCompound rest) :
    (∃ t, ts[start]? = some t ∧ isSeparator t) ∧ kind ≠ .head := by
  induction rest generalizing index depth modifiers inCompound with
  | nil => simp [clauseStarts] at h
  | cons t rest ih =>
    have ht : ts[index]? = some t := by rw [← List.head?_drop, hrest]; rfl
    have hrest' : ts.drop (index + 1) = rest := by
      rw [← List.tail_drop, hrest, List.tail_cons]
    have hmodifiers' := hmodifiers.succ ht
    rw [clauseStarts] at h
    split at h
    · rename_i found hfound
      rcases List.mem_cons.1 h with heq | h
      · obtain ⟨rfl, rfl⟩ := Prod.mk.inj heq
        have hclause : isSeparator t := by
          split_ifs at hfound
          exact (isSeparator_of_clauseAt? hfound).1
        by_cases hnone : modifiers = 0
        · exact ⟨⟨t, by rw [hnone, Nat.sub_zero, ht], hclause⟩, by simp⟩
        · exact ⟨hmodifiers.2 _ (by have := hmodifiers.1; omega) (by omega), by simp⟩
      · exact ih hrest' hmodifiers' h
    · rename_i found hfound
      rcases List.mem_cons.1 h with heq | h
      · obtain ⟨rfl, rfl⟩ := Prod.mk.inj heq
        have hclause : isSeparator t ∧ kind ≠ .head := by
          split_ifs at hfound
          exact isSeparator_of_clauseAt? hfound
        exact ⟨⟨t, ht, hclause.1⟩, hclause.2⟩
      · exact ih hrest' hmodifiers' h
    · exact ih hrest' hmodifiers' h

theorem mem_clausesUpTo {stop start : ℕ} {kind : ClauseKind} {starts : List (ℕ × ClauseKind)}
    {c : Clause} (h : c ∈ clausesUpTo stop ((start, kind) :: starts)) :
    (c.span.start, c.kind) ∈ (start, kind) :: starts ∧
      (c.span.stop = stop ∨ ∃ kind', (c.span.stop, kind') ∈ starts) ∧
      c.span.start < c.span.stop := by
  induction starts generalizing start kind with
  | nil =>
    rw [clausesUpTo] at h
    split_ifs at h with hlt
    · obtain rfl := List.mem_singleton.1 h
      exact ⟨by simp, .inl rfl, hlt⟩
    · simp at h
  | cons next starts ih =>
    obtain ⟨position, kind'⟩ := next
    have hmore : c ∈ clausesUpTo stop ((position, kind') :: starts) →
        (c.span.start, c.kind) ∈ (start, kind) :: (position, kind') :: starts ∧
          (c.span.stop = stop ∨ ∃ k, (c.span.stop, k) ∈ (position, kind') :: starts) ∧
          c.span.start < c.span.stop := by
      intro hc
      obtain ⟨hmem, hstop, hlt⟩ := ih hc
      refine ⟨List.mem_cons_of_mem _ hmem, ?_, hlt⟩
      rcases hstop with hstop | ⟨k, hk⟩
      · exact .inl hstop
      · exact .inr ⟨k, List.mem_cons_of_mem _ hk⟩
    rw [clausesUpTo] at h
    split_ifs at h with hlt
    · rcases List.mem_cons.1 h with rfl | h
      · exact ⟨by simp, .inr ⟨kind', by simp⟩, hlt⟩
      · exact hmore h
    · exact hmore h

namespace Statement

/-- Where a clause of a statement begins and ends. -/
theorem mem_clauses {s : Statement} {c : Clause} (h : c ∈ s.clauses) :
    StopsAt s.tokens c.span.stop ∧ c.span.start < c.span.stop ∧
      c.span.stop ≤ s.tokens.length ∧
      (c.kind ≠ .head → ∃ t, s.tokens[c.span.start]? = some t ∧ isSeparator t) := by
  unfold clauses at h
  obtain ⟨t, rest, htokens⟩ := List.exists_cons_of_ne_nil s.tokens_ne_nil
  rw [htokens] at h
  have hstarts : ∀ start kind, (start, kind) ∈ clauseStarts s.kind 1 (depthPast 0 t) 0 false rest →
      (∃ t, s.tokens[start]? = some t ∧ isSeparator t) ∧ kind ≠ .head := fun start kind hmem =>
    separator_of_mem_clauseStarts (by rw [htokens, List.drop_one, List.tail_cons])
      ⟨by omega, fun k hk hle => by omega⟩ hmem
  obtain ⟨hmem, hstop, hlt⟩ := mem_clausesUpTo h
  refine ⟨fun u hu => ?_, hlt, ?_, fun hkind => ?_⟩
  · rcases hstop with hstop | ⟨kind, hstop⟩
    · rw [hstop, ← htokens, List.getElem?_eq_none le_rfl] at hu
      simp at hu
    · obtain ⟨v, hv, hsep⟩ := (hstarts _ _ hstop).1
      rw [hv] at hu
      exact Option.some.inj hu ▸ hsep
  · rcases hstop with hstop | ⟨kind, hstop⟩
    · rw [hstop, htokens]
    · obtain ⟨v, hv, -⟩ := (hstarts _ _ hstop).1
      exact le_of_lt (List.getElem?_eq_some_iff.1 hv).1
  · rcases List.mem_cons.1 hmem with heq | hmem
    · exact absurd (Prod.mk.inj heq).2 hkind
    · exact (hstarts _ _ hmem).1

theorem clause?_mem {s : Statement} {kind : ClauseKind} {c : Clause}
    (h : s.clause? kind = some c) : c ∈ s.clauses ∧ c.kind = kind := by
  unfold clause? at h
  exact ⟨List.mem_of_find?_eq_some h, by simpa using List.find?_some h⟩

end Statement

/-! ## Pieces of a region -/

/-- The region begins behind a separator and ends at one. -/
structure IsRegion (ts : List Token) (region : Span) : Prop where
  starts : StartsAt ts region.start
  stops : StopsAt ts region.stop

theorem isRegion_of_mem_piecesFrom {σ : Type} {cut : σ → ℕ → Token → Bool × σ}
    {ts : List Token} {start index : ℕ} {state : σ} {region : List (ℕ × Token)} {piece : Span}
    (hcut : ∀ state depth t, (cut state depth t).1 = true → isSeparator t)
    (hregion : ∀ (k : ℕ) (h : k < region.length), ts[index + k]? = some region[k].2)
    (hstart : StartsAt ts start) (hstop : StopsAt ts (index + region.length))
    (h : piece ∈ piecesFrom cut start index state region) : IsRegion ts piece := by
  induction region generalizing start index state with
  | nil =>
    obtain rfl := List.mem_singleton.1 h
    exact ⟨hstart, hstop⟩
  | cons entry region ih =>
    obtain ⟨depth, t⟩ := entry
    have ht : ts[index]? = some t := hregion 0 (by simp)
    have hrest : ∀ (k : ℕ) (h : k < region.length), ts[index + 1 + k]? = some region[k].2 := by
      intro k hk
      have hnext := hregion (k + 1) (by simpa using hk)
      rwa [show index + (k + 1) = index + 1 + k by omega] at hnext
    have hstop' : StopsAt ts (index + 1 + region.length) := by
      rwa [List.length_cons, show index + (region.length + 1) = index + 1 + region.length by omega]
        at hstop
    rw [piecesFrom] at h
    split at h
    · rename_i state' hcuts
      have hsep : isSeparator t := hcut state depth t (by rw [hcuts])
      rcases List.mem_cons.1 h with rfl | h
      · refine ⟨hstart, fun u hu => ?_⟩
        rw [ht] at hu
        exact Option.some.inj hu ▸ hsep
      · exact ih hrest ⟨index, t, rfl, ht, hsep⟩ hstop' h
    · exact ih hrest hstart hstop' h

theorem isSeparator_of_cutConjuncts (pending depth : ℕ) (t : Token)
    (h : (cutConjuncts pending depth t).1 = true) : isSeparator t := by
  unfold cutConjuncts at h
  by_cases hand : t.isWord "AND"
  · exact isSeparator_of_isAnyOf hand
  · rw [if_neg hand] at h
    split at h
    · simp at h
    · split at h <;> simp at h

theorem isSeparator_of_cutItems (state : Unit) (depth : ℕ) (t : Token)
    (h : (cutItems state depth t).1 = true) : isSeparator t := by
  have hcomma : t.kind = .comma := beq_iff_eq.1 (Bool.and_eq_true_iff.1 h).2
  simp [isSeparator, hcomma]

namespace Statement

theorem length_depthsFrom (depth : ℕ) (ts : List Token) :
    (depthsFrom depth ts).length = ts.length := by
  induction ts generalizing depth with
  | nil => rfl
  | cons t ts ih => rw [depthsFrom, List.length_cons, List.length_cons, ih]

theorem length_tokensAtDepth (s : Statement) : s.tokensAtDepth.length = s.tokens.length := by
  rw [tokensAtDepth, List.length_zip, depths, length_depthsFrom, Nat.min_self]

theorem getElem?_slice_tokensAtDepth {s : Statement} {region : Span} (k : ℕ)
    (h : k < (region.slice s.tokensAtDepth).length) :
    s.tokens[region.start + k]? = some (region.slice s.tokensAtDepth)[k].2 := by
  unfold Span.slice at h ⊢
  rw [List.length_drop, List.length_take, length_tokensAtDepth] at h
  rw [List.getElem_drop, List.getElem_take]
  unfold tokensAtDepth
  rw [List.getElem_zip, List.getElem?_eq_getElem]

/-- The pieces of a region are regions again. -/
theorem isRegion_of_mem_pieces {σ : Type} {cut : σ → ℕ → Token → Bool × σ} {s : Statement}
    {region piece : Span} {state : σ}
    (hcut : ∀ state depth t, (cut state depth t).1 = true → isSeparator t)
    (hregion : IsRegion s.tokens region) (hle : region.start ≤ region.stop)
    (hlength : region.stop ≤ s.tokens.length)
    (h : piece ∈ piecesFrom cut region.start region.start state (region.slice s.tokensAtDepth)) :
    IsRegion s.tokens piece := by
  refine isRegion_of_mem_piecesFrom hcut getElem?_slice_tokensAtDepth hregion.starts ?_ h
  have hstop : region.start + (region.slice s.tokensAtDepth).length = region.stop := by
    unfold Span.slice
    rw [List.length_drop, List.length_take, length_tokensAtDepth]
    omega
  rw [hstop]
  exact hregion.stops

theorem isRegion_wherePredicate? {s : Statement} {p : Span} (h : s.wherePredicate? = some p) :
    IsRegion s.tokens p ∧ p.start ≤ p.stop ∧ p.stop ≤ s.tokens.length := by
  unfold wherePredicate? at h
  split at h
  · rename_i c hc
    obtain ⟨hmem, hkind⟩ := clause?_mem hc
    obtain ⟨hstop, hlt, hlength, hstart⟩ := mem_clauses hmem
    obtain ⟨t, ht, hsep⟩ := hstart (by simp [hkind])
    dsimp only at h
    split_ifs at h
    obtain rfl := Option.some.inj h
    exact ⟨⟨⟨c.span.start, t, rfl, ht, hsep⟩, hstop⟩, hlt, hlength⟩
  · simp at h

theorem isRegion_of_mem_conjuncts {s : Statement} {p piece : Span}
    (hp : s.wherePredicate? = some p) (h : piece ∈ s.conjuncts p) : IsRegion s.tokens piece := by
  obtain ⟨hregion, hle, hlength⟩ := isRegion_wherePredicate? hp
  exact isRegion_of_mem_pieces isSeparator_of_cutConjuncts hregion hle hlength h

theorem isRegion_of_mem_selectItems {s : Statement} {piece : Span} (h : piece ∈ s.selectItems) :
    IsRegion s.tokens piece := by
  unfold selectItems at h
  split_ifs at h
  · simp at h
  split at h
  · simp at h
  rename_i head hhead
  split at h
  · simp at h
  rename_i at_ hat
  obtain ⟨hmem, hkind⟩ := clause?_mem hhead
  obtain ⟨hstop, hlt, hlength, -⟩ := mem_clauses hmem
  obtain ⟨hselect, hword, -⟩ := List.findIdx?_eq_some_iff_getElem.1 hat
  unfold Span.slice at hselect hword
  rw [List.length_drop, List.length_take] at hselect
  rw [List.getElem_drop, List.getElem_take] at hword
  dsimp only at h
  set first := head.span.start + at_ + 1 with hfirst
  set start := if s.tokens[first]?.any (·.isAnyOf ["DISTINCT", "ALL"]) then first + 1 else first
    with hstart
  have hstarts : StartsAt s.tokens start := by
    rw [hstart]
    split_ifs with hdistinct
    · obtain ⟨t, ht, hany⟩ := (Option.any_eq_true _ _).1 hdistinct
      exact ⟨first, t, rfl, ht, isSeparator_of_isAnyOf hany⟩
    · exact ⟨head.span.start + at_, _, hfirst, List.getElem?_eq_getElem (by omega),
        isSeparator_of_isAnyOf hword⟩
  by_cases hle : start ≤ head.span.stop
  · have hall := fun piece hpiece => @isRegion_of_mem_pieces _ cutItems s ⟨start, head.span.stop⟩
      piece () isSeparator_of_cutItems ⟨hstarts, hstop⟩ hle hlength hpiece
    split_ifs at h
    · exact hall piece (List.mem_of_mem_dropLast h)
    · exact hall piece h
  · have hnone : (⟨start, head.span.stop⟩ : Span).slice s.tokensAtDepth = [] := by
      unfold Span.slice
      rw [List.drop_eq_nil_iff, List.length_take]
      exact (Nat.min_le_left _ _).trans (Nat.le_of_not_le hle)
    rw [hnone, piecesFrom] at h
    simp [Span.isEmpty] at h

end Statement

end Sql
end QueryFuzz
