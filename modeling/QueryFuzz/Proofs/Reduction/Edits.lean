import QueryFuzz.Proofs.Sql.Clauses
import QueryFuzz.Reduction

/-!
# Simplifications keep a statement readable

Every edit drops a part between separators, takes a pair of parentheses away or exchanges a
literal. Where the points of a statement stand as they should, they still do so afterwards, so the
simplified statement is read back from its text.
-/

namespace QueryFuzz
namespace Reduction

open Sql

/-! ## Dropping parts -/

theorem kind_of_isOptional {kind : ClauseKind} (h : kind.isOptional) : kind ≠ .head := by
  rintro rfl
  simp [ClauseKind.isOptional] at h

/-- A dropped clause begins and ends at separators. -/
theorem stopsAt_of_mem_clauseDrops {s : Statement} {run : Span} (h : run ∈ clauseDrops s) :
    StopsAt s.tokens run.start ∧ StopsAt s.tokens run.stop := by
  have hstart : ∀ c ∈ s.clauses, c.kind ≠ .head → StopsAt s.tokens c.span.start := by
    intro c hc hkind u hu
    obtain ⟨t, ht, hsep⟩ := (Statement.mem_clauses hc).2.2.2 hkind
    rw [ht] at hu
    exact Option.some.inj hu ▸ hsep
  obtain ⟨c, hc, hrun⟩ := List.mem_flatMap.1 h
  rcases List.mem_append.1 hrun with hrun | hrun
  · split_ifs at hrun with hoptional
    · obtain rfl := List.mem_singleton.1 hrun
      exact ⟨hstart c hc (kind_of_isOptional hoptional), (Statement.mem_clauses hc).1⟩
    · simp at hrun
  · split at hrun
    · rename_i having hkind hhaving
      obtain rfl := List.mem_singleton.1 hrun
      exact ⟨hstart c hc (by simp [hkind]),
        (Statement.mem_clauses (Statement.clause?_mem hhaving).1).1⟩
    · simp at hrun

/-- The members of a list paired with the ones behind them are neighbours. -/
theorem exists_append_of_mem_zip_tail {parts : List Span} {a b : Span}
    (h : (a, b) ∈ parts.zip parts.tail) : ∃ before after, parts = before ++ a :: b :: after := by
  induction parts with
  | nil => cases h
  | cons part parts ih =>
    cases parts with
    | nil => cases h
    | cons next parts =>
      rcases List.mem_cons.1 h with heq | h
      · obtain ⟨rfl, rfl⟩ := Prod.mk.inj heq
        exact ⟨[], parts, rfl⟩
      · obtain ⟨before, after, hparts⟩ := ih h
        exact ⟨part :: before, after, by rw [hparts, List.cons_append]⟩

/-- A part is dropped with the gap to one of its neighbours. -/
theorem exists_neighbours_of_mem_partDrops {parts : List Span} {run : Span}
    (h : run ∈ partDrops parts) : ∃ before a b after, parts = before ++ a :: b :: after ∧
      (run = ⟨a.start, b.start⟩ ∨ run = ⟨a.stop, b.stop⟩) := by
  unfold partDrops at h
  split at h
  · rename_i first second rest
    rcases List.mem_cons.1 h with rfl | h
    · exact ⟨[], first, second, rest, rfl, .inl rfl⟩
    · obtain ⟨⟨a, b⟩, hzip, rfl⟩ := List.mem_map.1 h
      obtain ⟨before, after, hparts⟩ := exists_append_of_mem_zip_tail hzip
      exact ⟨before, a, b, after, hparts, .inr rfl⟩
  · cases h

theorem wellPointed_of_mem_partDrops {ts : List Token} {parts : List Span} {run : Span}
    (hts : WellPointed ts) (hparts : ∀ part ∈ parts, IsRegion ts part)
    (h : run ∈ partDrops parts) : WellPointed (run.replace ts []) := by
  obtain ⟨before, a, b, after, rfl, hrun⟩ := exists_neighbours_of_mem_partDrops h
  have ha := hparts a (by simp)
  have hb := hparts b (by simp)
  have hstart := hts.cut_behind ha.starts hb.starts
  have hstop := hts.cut_before ha.stops hb.stops
  unfold Span.replace
  rw [List.append_nil]
  rcases hrun with rfl | rfl
  · exact hstart
  · exact hstop

theorem isRegion_of_mem_conjunctsOf {s : Statement} {part : Span} (h : part ∈ conjunctsOf s) :
    IsRegion s.tokens part := by
  unfold conjunctsOf at h
  split at h
  · rename_i p hp
    exact Statement.isRegion_of_mem_conjuncts hp h
  · simp at h

/-! ## Taking parentheses away -/

theorem closingParen?_spec {index depth close : ℕ} {ts : List Token}
    (h : closingParen? index depth ts = some close) :
    ∃ k t, close = index + k ∧ ts[k]? = some t ∧ t.kind = .rightParen := by
  induction ts generalizing index depth with
  | nil => simp [closingParen?] at h
  | cons t ts ih =>
    have hlater : ∀ depth', closingParen? (index + 1) depth' ts = some close →
        ∃ k u, close = index + k ∧ (t :: ts)[k]? = some u ∧ u.kind = .rightParen := by
      intro depth' hclose
      obtain ⟨k, u, rfl, hu, hkind⟩ := ih hclose
      exact ⟨k + 1, u, by omega, by simpa using hu, hkind⟩
    rw [closingParen?] at h
    split at h
    · exact hlater _ h
    · rename_i hkind
      split_ifs at h
      · obtain rfl := Option.some.inj h
        exact ⟨0, t, rfl, rfl, hkind⟩
      · exact hlater _ h
    · exact hlater _ h

/-- A list around two of its positions. -/
theorem eq_take_cons_slice_cons_drop {ts : List Token} {i j : ℕ} {t u : Token} (hij : i < j)
    (ht : ts[i]? = some t) (hu : ts[j]? = some u) :
    ts = ts.take i ++ t :: ((⟨i + 1, j⟩ : Span).slice ts ++ u :: ts.drop (j + 1)) := by
  obtain ⟨hi, rfl⟩ := List.getElem?_eq_some_iff.1 ht
  obtain ⟨hj, rfl⟩ := List.getElem?_eq_some_iff.1 hu
  have hslice : (⟨i + 1, j⟩ : Span).slice ts = (ts.drop (i + 1)).take (j - (i + 1)) := by
    unfold Span.slice
    rw [List.drop_take]
  have hsplit : ts.drop (i + 1) = (ts.drop (i + 1)).take (j - (i + 1)) ++ ts.drop j := by
    have hdrop := List.take_append_drop (j - (i + 1)) (ts.drop (i + 1))
    rw [List.drop_drop, show i + 1 + (j - (i + 1)) = j by omega] at hdrop
    exact hdrop.symm
  rw [hslice, List.getElem_cons_drop, ← hsplit, List.getElem_cons_drop, List.take_append_drop]

/-- What is taken away: a pair of parentheses around some tokens, and the name of a function if one
is in front of them. -/
theorem exists_of_unwrapAt? {ts : List Token} {region : Span} {i : ℕ} {e : Edit}
    (h : unwrapAt? ts region i = some e) :
    ∃ front left content right behind, ts = front ++ left :: (content ++ right :: behind) ∧
      left.kind = .leftParen ∧ right.kind = .rightParen ∧ e.2 = content ∧
      (e.1.replace ts content = front ++ (content ++ behind) ∨
        ∃ front' name, front = front' ++ [name] ∧ name.kind = .identifier ∧
          e.1.replace ts content = front' ++ (content ++ behind)) := by
  unfold unwrapAt? at h
  by_cases hparen : ts[i]?.any (·.kind == .leftParen)
  swap
  · simp [hparen] at h
  rw [if_neg (by simpa using hparen)] at h
  obtain ⟨left, hleft, hkind⟩ := (Option.any_eq_true _ _).1 hparen
  have hkind' : left.kind = .leftParen := by simpa using hkind
  split at h
  · simp at h
  rename_i close hclose
  obtain ⟨k, right, rfl, hright, hright'⟩ := closingParen?_spec hclose
  rw [List.getElem?_drop] at hright
  have hlt : i < i + k := by
    by_contra hle
    obtain rfl : k = 0 := by omega
    rw [Nat.add_zero, hleft] at hright
    obtain rfl := Option.some.inj hright
    simp [hright'] at hkind
  have hsplit := eq_take_cons_slice_cons_drop hlt hleft hright
  dsimp only at h
  generalize hbefore : (if i = 0 then none else ts[i - 1]?) = before at h
  refine ⟨ts.take i, left, (⟨i + 1, i + k⟩ : Span).slice ts, right, ts.drop (i + k + 1), hsplit,
    hkind', hright', ?_⟩
  unfold Span.replace
  split_ifs at h with hstay hcall hsingle hsingle
  · obtain rfl := Option.some.inj h
    obtain ⟨name, hname, hword⟩ := (Option.any_eq_true _ _).1 hcall
    have hi : i ≠ 0 ∧ ts[i - 1]? = some name := by
      subst hbefore
      split_ifs at hname with hzero
      exact ⟨hzero, hname⟩
    have htake : ts.take (i - 1 + 1) = ts.take (i - 1) ++ [name] := by
      rw [List.take_add_one, hi.2]
      rfl
    rw [Nat.sub_add_cancel (Nat.one_le_iff_ne_zero.2 hi.1)] at htake
    exact ⟨rfl, .inr ⟨ts.take (i - 1), name, htake, by simpa using hword, List.append_assoc _ _ _⟩⟩
  · obtain rfl := Option.some.inj h
    exact ⟨rfl, .inl (List.append_assoc _ _ _)⟩

theorem wellPointed_of_unwrapAt? {ts : List Token} {region : Span} {i : ℕ} {e : Edit}
    (hts : WellPointed ts) (h : unwrapAt? ts region i = some e) :
    WellPointed (e.1.replace ts e.2) := by
  obtain ⟨front, left, content, right, behind, hsplit, hleft, hright, hcontent, hreplace⟩ :=
    exists_of_unwrapAt? h
  rw [hcontent]
  rw [hsplit] at hts
  rcases hreplace with hreplace | ⟨front, name, rfl, hname, hreplace⟩
  · rw [hreplace]
    exact hts.unwrap hleft hright
  · rw [hreplace]
    rw [List.append_assoc, List.singleton_append] at hts
    exact hts.unwrap_call hname hleft hright

theorem mem_of_unwrapAt? {ts : List Token} {region : Span} {i : ℕ} {e : Edit}
    (h : unwrapAt? ts region i = some e) : ∀ t ∈ e.2, t ∈ ts := by
  obtain ⟨front, left, content, right, behind, hsplit, -, -, hcontent, -⟩ := exists_of_unwrapAt? h
  intro t ht
  rw [hcontent] at ht
  simp [hsplit, ht]

/-! ## Exchanging literals -/

/-- A lesser literal is a literal of the same sort, and a token of its own. -/
theorem lesser?_spec {t t' : Token} (h : lesser? t = some t') :
    isLiteralKind t.kind ∧ isLiteralKind t'.kind ∧ t'.InStatement := by
  have hzero : Token.InStatement ⟨.integer, "0"⟩ :=
    inStatement_of_read (by decide +kernel) (by simp)
  have htext : Token.InStatement ⟨.string, "''"⟩ :=
    inStatement_of_read (by decide +kernel) (by simp)
  have hblob : Token.InStatement ⟨.blob, "x''"⟩ :=
    inStatement_of_read (by decide +kernel) (by simp)
  unfold lesser? at h
  split at h
  · rename_i hkind
    split_ifs at h
    obtain rfl := Option.some.inj h
    exact ⟨by rw [hkind]; rfl, rfl, hzero⟩
  · rename_i hkind
    obtain rfl := Option.some.inj h
    exact ⟨by rw [hkind]; rfl, rfl, hzero⟩
  · rename_i hkind
    split_ifs at h
    obtain rfl := Option.some.inj h
    exact ⟨by rw [hkind]; rfl, rfl, htext⟩
  · rename_i hkind
    split_ifs at h
    obtain rfl := Option.some.inj h
    exact ⟨by rw [hkind]; rfl, rfl, hblob⟩
  · simp at h

theorem mem_literalShrinks {s : Statement} {e : Edit} (h : e ∈ literalShrinks s) :
    ∃ i t t', s.tokens[i]? = some t ∧ lesser? t = some t' ∧ e = (⟨i, i + 1⟩, [t']) := by
  obtain ⟨⟨t, i⟩, hmem, hlesser⟩ := List.mem_filterMap.1 h
  obtain ⟨t', ht', rfl⟩ := Option.map_eq_some_iff.1 hlesser
  exact ⟨i, t, t', List.mem_zipIdx_iff_getElem?.1 hmem, ht', rfl⟩

theorem WellPointed.shrink {ts : List Token} {i : ℕ} {t t' : Token} (hts : WellPointed ts)
    (hi : ts[i]? = some t) (h : lesser? t = some t') :
    WellPointed ((⟨i, i + 1⟩ : Span).replace ts [t']) := by
  obtain ⟨ht, ht', -⟩ := lesser?_spec h
  obtain ⟨hlength, rfl⟩ := List.getElem?_eq_some_iff.1 hi
  have hsplit : ts = ts.take i ++ ts[i] :: ts.drop (i + 1) := by
    rw [List.getElem_cons_drop, List.take_append_drop]
  rw [hsplit] at hts
  unfold Span.replace
  rw [List.append_assoc, List.singleton_append]
  exact hts.exchange ht ht'

/-! ## Every edit -/

/-- The tokens of a statement that is read back from its text. -/
structure IsReadable (ts : List Token) : Prop where
  tokens : ∀ t ∈ ts, t.InStatement
  points : WellPointed ts

theorem IsReadable.edit {s : Statement} {e : Edit} (hs : IsReadable s.tokens)
    (h : e ∈ edits s) : IsReadable (e.1.replace s.tokens e.2) := by
  unfold edits at h
  rcases List.mem_append.1 h with h | h
  · rcases List.mem_append.1 h with h | h
    · obtain ⟨run, hrun, rfl⟩ := List.mem_map.1 h
      refine ⟨inStatement_replace hs.tokens (by simp), ?_⟩
      rcases List.mem_append.1 hrun with hrun | hrun
      · rcases List.mem_append.1 hrun with hrun | hrun
        · obtain ⟨hstart, hstop⟩ := stopsAt_of_mem_clauseDrops hrun
          have hcut := hs.points.cut_before hstart hstop
          unfold Span.replace
          rwa [List.append_nil]
        · apply wellPointed_of_mem_partDrops hs.points _ hrun
          intro part hpart
          exact isRegion_of_mem_conjunctsOf hpart
      · apply wellPointed_of_mem_partDrops hs.points _ hrun
        intro part hpart
        exact Statement.isRegion_of_mem_selectItems hpart
    · obtain ⟨region, -, hregion⟩ := List.mem_flatMap.1 h
      obtain ⟨i, -, hi⟩ := List.mem_filterMap.1 hregion
      refine ⟨inStatement_replace hs.tokens ?_, wellPointed_of_unwrapAt? hs.points hi⟩
      intro t ht
      exact hs.tokens t (mem_of_unwrapAt? hi t ht)
  · obtain ⟨i, t, t', hi, ht, rfl⟩ := mem_literalShrinks h
    refine ⟨inStatement_replace hs.tokens ?_, WellPointed.shrink hs.points hi ht⟩
    intro u hu
    obtain rfl := List.mem_singleton.1 hu
    exact (lesser?_spec ht).2.2

/-! ## Smaller texts -/

/-- The text is a script of a single statement of this kind, which is read back from its text. -/
def IsSingle (kind : StatementKind) (text : String) : Prop :=
  ∃ s, parseScript text = .ok [s] ∧ s.kind = kind ∧ IsReadable s.tokens

theorem isSingle_renderScript {s : Statement} (h : IsReadable s.tokens) :
    IsSingle s.kind (renderScript [s]) := by
  refine ⟨s, ?_, rfl, h⟩
  apply parseScript_renderScript
  · simp
  · intro s' hs'
    obtain rfl := List.mem_singleton.1 hs'
    exact h.tokens
  · intro s' hs'
    obtain rfl := List.mem_singleton.1 hs'
    exact h.points.separable fun t ht => (h.tokens t ht).1

theorem applyEdit?_spec {s s' : Statement} {e : Edit} (h : applyEdit? s e = some s') :
    s'.tokens = e.1.replace s.tokens e.2 ∧ (s'.kind = s.kind ∨ s.kind = .other) := by
  unfold applyEdit? at h
  split at h
  · rename_i found hfound
    split_ifs at h with hkind
    obtain rfl := Option.some.inj h
    exact ⟨Statement.tokens_of_ofTokens hfound, hkind⟩
  · simp at h

/-- What is smaller than a single statement is a single statement of the same kind. -/
theorem IsSingle.of_mem_smallerVariants {kind : StatementKind} {text v : String}
    (h : IsSingle kind text) (hkind : kind ≠ .other) (hv : v ∈ smallerVariants text) :
    IsSingle kind v := by
  obtain ⟨s, hparse, rfl, hs⟩ := h
  have hv' := List.mem_of_mem_filter hv
  unfold simplifications at hv'
  rw [hparse] at hv'
  dsimp only at hv'
  rcases List.mem_append.1 hv' with hdrop | hedit
  · simp at hdrop
  · obtain ⟨⟨s₀, i⟩, hmem, hvariant⟩ := List.mem_flatMap.1 hedit
    obtain ⟨rfl, rfl⟩ : s₀ = s ∧ i = 0 := by simpa using hmem
    obtain ⟨s', hs', rfl⟩ := List.mem_map.1 hvariant
    obtain ⟨e, he, happly⟩ := List.mem_filterMap.1 hs'
    obtain ⟨htokens, hsame⟩ := applyEdit?_spec happly
    have hreadable := hs.edit he
    rw [← htokens] at hreadable
    have hsingle := isSingle_renderScript hreadable
    rw [hsame.resolve_right hkind] at hsingle
    exact hsingle

end Reduction
end QueryFuzz
