import QueryFuzz.Proofs.Sql.Clauses
import QueryFuzz.Proofs.Sql.Outside

/-!
# Statements as a head and parts

A `SELECT` statement that is put together from a head without clause words and from parts that
each begin with the words of one clause has exactly these clauses. Its select items are what the
commas outside parentheses leave of the head.
-/

namespace QueryFuzz
namespace Sql

/-! ## Parts -/

/-- Behind whatever is complete, the tokens are one clause of this kind. -/
structure IsPart (inCompound : Bool) (kind : ClauseKind) (ts : List Token) : Prop where
  ne_nil : ts ≠ []
  starts : ∀ index rest, clauseStarts .select index 0 0 inCompound (ts ++ rest) =
    (index, kind) ::
      clauseStarts .select (index + ts.length) 0 0 (compoundPast inCompound (some kind)) rest

theorem IsPart.append_calm {inCompound : Bool} {kind : ClauseKind} {ts us : List Token}
    (hts : IsPart inCompound kind ts) (hus : Calm (compoundPast inCompound (some kind)) us) :
    IsPart inCompound kind (ts ++ us) := by
  refine ⟨by simp [hts.ne_nil], fun index rest => ?_⟩
  rw [List.append_assoc, hts.starts, hus.clauseStarts, List.length_append, Nat.add_assoc]

/-- Each is one clause where the ones before it have left off. -/
def AreParts (inCompound : Bool) : List (ClauseKind × List Token) → Prop
  | [] => True
  | (kind, ts) :: rest =>
    IsPart inCompound kind ts ∧ AreParts (compoundPast inCompound (some kind)) rest

def partsTokens (parts : List (ClauseKind × List Token)) : List Token :=
  parts.flatMap (·.2)

/-- Where the parts begin. -/
def partStarts (index : ℕ) : List (ClauseKind × List Token) → List (ℕ × ClauseKind)
  | [] => []
  | (kind, ts) :: rest => (index, kind) :: partStarts (index + ts.length) rest

/-- The clauses that the parts are. -/
def partClauses (index : ℕ) : List (ClauseKind × List Token) → List Clause
  | [] => []
  | (kind, ts) :: rest =>
    ⟨kind, ⟨index, index + ts.length⟩⟩ :: partClauses (index + ts.length) rest

theorem AreParts.clauseStarts {inCompound : Bool} {parts : List (ClauseKind × List Token)}
    (h : AreParts inCompound parts) (index : ℕ) :
    Sql.clauseStarts .select index 0 0 inCompound (partsTokens parts) = partStarts index parts := by
  induction parts generalizing inCompound index with
  | nil => rfl
  | cons part parts ih =>
    obtain ⟨kind, ts⟩ := part
    have htokens : partsTokens ((kind, ts) :: parts) = ts ++ partsTokens parts := by
      simp [partsTokens]
    rw [htokens, h.1.starts, ih h.2, partStarts]

theorem AreParts.ne_nil {inCompound : Bool} {parts : List (ClauseKind × List Token)}
    (h : AreParts inCompound parts) : ∀ part ∈ parts, part.2 ≠ [] := by
  induction parts generalizing inCompound with
  | nil => simp
  | cons part parts ih => exact List.forall_mem_cons.2 ⟨h.1.ne_nil, ih h.2⟩

theorem length_partsTokens_cons (kind : ClauseKind) (ts : List Token)
    (parts : List (ClauseKind × List Token)) :
    (partsTokens ((kind, ts) :: parts)).length = ts.length + (partsTokens parts).length := by
  simp [partsTokens]

/-- Clauses that reach to the next one are the parts. -/
theorem clausesUpTo_partStarts {index : ℕ} {parts : List (ClauseKind × List Token)}
    (h : ∀ part ∈ parts, part.2 ≠ []) :
    clausesUpTo (index + (partsTokens parts).length) (partStarts index parts) =
      partClauses index parts := by
  induction parts generalizing index with
  | nil => rfl
  | cons part parts ih =>
    obtain ⟨kind, ts⟩ := part
    obtain ⟨hts, hrest⟩ := List.forall_mem_cons.1 h
    have hlt : index < index + ts.length :=
      Nat.lt_add_of_pos_right (List.length_pos_iff.2 hts)
    have hstep := @ih (index + ts.length) hrest
    rw [length_partsTokens_cons, ← Nat.add_assoc]
    cases parts with
    | nil =>
      rw [partStarts, partStarts, partClauses, partClauses, clausesUpTo]
      exact if_pos hlt
    | cons part' parts =>
      obtain ⟨kind', ts'⟩ := part'
      rw [partStarts] at hstep
      rw [partStarts, partStarts, clausesUpTo, partClauses, hstep]
      exact if_pos hlt

/-- The tokens of each clause are those of the part. -/
theorem slices_partClauses {all : List Token} {index : ℕ}
    {parts : List (ClauseKind × List Token)} (h : all.drop index = partsTokens parts) :
    (partClauses index parts).map (fun c => (c.kind, c.span.slice all)) = parts := by
  induction parts generalizing index with
  | nil => rfl
  | cons part parts ih =>
    obtain ⟨kind, ts⟩ := part
    have htokens : all.drop index = ts ++ partsTokens parts := by
      rw [h]
      simp [partsTokens]
    have hslice : (⟨index, index + ts.length⟩ : Span).slice all = ts := by
      unfold Span.slice
      rw [List.drop_take, htokens, Nat.add_sub_cancel_left, List.take_left]
    have hrest : all.drop (index + ts.length) = partsTokens parts := by
      rw [← List.drop_drop, htokens, List.drop_left]
    rw [partClauses, List.map_cons, hslice, ih hrest]

/-! ## Items -/

def isComma (t : Token) : Bool :=
  t.kind == .comma

/-- The number of items of a list. -/
def itemCount (ts : List Token) : ℕ :=
  (outside 0 ts).countP isComma + 1

theorem itemCount_append_comma {ts us : List Token} {comma : Token} (hts : depthBehind 0 ts = 0)
    (hcomma : comma.kind = .comma) :
    itemCount (ts ++ comma :: us) = itemCount ts + itemCount us := by
  have hdepth : depthPast 0 comma = 0 := by simp [depthPast, hcomma]
  have hcut : isComma comma := by simp [isComma, hcomma]
  unfold itemCount
  rw [outside_append, hts, outside, hdepth, if_pos rfl, List.countP_append, List.singleton_append,
    List.countP_cons_of_pos hcut]
  omega

/-- Does the list of items go on behind the token? -/
def isCut (entry : ℕ × Token) : Bool :=
  entry.1 == 0 && isComma entry.2

theorem cutItems_eq (depth : ℕ) (t : Token) : cutItems () depth t = (isCut (depth, t), ()) :=
  rfl

theorem length_piecesFrom_cutItems (start index : ℕ) (region : List (ℕ × Token)) :
    (piecesFrom cutItems start index () region).length = region.countP isCut + 1 := by
  induction region generalizing start index with
  | nil => rfl
  | cons entry region ih =>
    obtain ⟨depth, t⟩ := entry
    rw [piecesFrom, cutItems_eq]
    cases hcut : isCut (depth, t) with
    | true => rw [List.countP_cons_of_pos hcut, List.length_cons, ih]
    | false => rw [List.countP_cons_of_neg (by simp [hcut]), ih]

/-- The last piece ends with the region, and it is not empty unless a cut ends the region. -/
theorem getLast?_piecesFrom_cutItems {start index : ℕ} (hle : start ≤ index)
    {region : List (ℕ × Token)} (hne : region ≠ [])
    (hlast : region.getLast?.all (!isCut ·)) :
    ∃ piece, (piecesFrom cutItems start index () region).getLast? = some piece ∧
      piece.isEmpty = false := by
  induction region generalizing start index with
  | nil => exact absurd rfl hne
  | cons entry region ih =>
    obtain ⟨depth, t⟩ := entry
    cases region with
    | nil =>
      have hcut : isCut (depth, t) = false := by simpa using hlast
      refine ⟨⟨start, index + 1⟩, by simp [piecesFrom, cutItems_eq, hcut], ?_⟩
      simp only [Span.isEmpty, decide_eq_false_iff_not]
      omega
    | cons entry' region =>
      rw [List.getLast?_cons_cons] at hlast
      rw [piecesFrom, cutItems_eq]
      cases isCut (depth, t) with
      | true =>
        obtain ⟨piece, hpiece, hempty⟩ := ih (Nat.le_refl (index + 1)) (by simp) hlast
        refine ⟨piece, ?_, hempty⟩
        dsimp only
        rw [List.getLast?_cons, hpiece]
        rfl
      | false => exact ih (Nat.le_succ_of_le hle) (by simp) hlast

theorem countP_zip_depthsFrom (depth : ℕ) (ts : List Token) :
    ((depthsFrom depth ts).zip ts).countP isCut = (outside depth ts).countP isComma := by
  induction ts generalizing depth with
  | nil => rfl
  | cons t ts ih =>
    rw [depthsFrom, List.zip_cons_cons, List.countP_cons, ih, outside, List.countP_append,
      Nat.add_comm]
    by_cases hdepth : depth = 0 <;> simp [hdepth, isCut, isComma]

theorem getLast?_zip_depthsFrom {ts : List Token} (h : ts.getLast?.all (!isComma ·)) :
    ((depthsFrom 0 ts).zip ts).getLast?.all (!isCut ·) := by
  have hsnd : ((depthsFrom 0 ts).zip ts).map (·.2) = ts :=
    List.map_snd_zip (Statement.length_depthsFrom 0 ts).ge
  rw [← hsnd, List.getLast?_map] at h
  cases hentry : ((depthsFrom 0 ts).zip ts).getLast? with
  | none => rfl
  | some entry =>
    have hcomma : isComma entry.2 = false := by simpa [hentry] using h
    simp [isCut, hcomma]

/-! ## Selecting statements -/

/-- The words in front of a select list. -/
def selectWords (distinct : Bool) : List Token :=
  ⟨.keyword, "SELECT"⟩ :: if distinct then [⟨.keyword, "DISTINCT"⟩] else []

/-- What can stand between `SELECT` and `FROM`. -/
structure IsItems (ts : List Token) : Prop where
  ne_nil : ts ≠ []
  calm : Calm false ts
  starts : !ts.head?.any (·.isAnyOf ["DISTINCT", "ALL"])
  ends : ts.getLast?.all (!isComma ·)

instance (ts : List Token) : Decidable (IsItems ts) :=
  decidable_of_iff (_ ∧ _ ∧ _ ∧ _)
    ⟨fun h => ⟨h.1, h.2.1, h.2.2.1, h.2.2.2⟩, fun h => ⟨h.ne_nil, h.calm, h.starts, h.ends⟩⟩

theorem calm_selectWords (distinct : Bool) : Calm false (selectWords distinct) := by
  cases distinct <;> decide +kernel

namespace Statement

/-- The kinds of the clauses, each with its tokens. -/
def sections (s : Statement) : List (ClauseKind × List Token) :=
  s.clauses.map fun c => (c.kind, c.span.slice s.tokens)

variable {s : Statement} {distinct : Bool} {items : List Token}
  {parts : List (ClauseKind × List Token)}

theorem clauses_eq (hkind : s.kind = .select)
    (htokens : s.tokens = selectWords distinct ++ items ++ partsTokens parts)
    (hitems : IsItems items) (hparts : AreParts false parts) :
    s.clauses = partClauses 0 ((.head, selectWords distinct ++ items) :: parts) := by
  have hcalm : Calm false (selectWords distinct ++ items) :=
    (calm_selectWords distinct).append hitems.calm
  have hnonempty : ∀ part ∈ (ClauseKind.head, selectWords distinct ++ items) :: parts,
      part.2 ≠ [] :=
    List.forall_mem_cons.2 ⟨by simp [hitems.ne_nil], hparts.ne_nil⟩
  have hstarts : partStarts 0 ((.head, selectWords distinct ++ items) :: parts) =
      (0, .head) :: clauseStarts .select 0 0 0 false s.tokens := by
    rw [htokens, hcalm.clauseStarts, hparts.clauseStarts, partStarts]
  have hlength : 0 + (partsTokens ((.head, selectWords distinct ++ items) :: parts)).length =
      s.tokens.length := by
    rw [length_partsTokens_cons, htokens, Nat.zero_add, ← List.length_append]
  rw [← clausesUpTo_partStarts hnonempty, hstarts, hlength]
  -- `SELECT` itself begins no clause, so the search may as well start in front of it.
  have hselect : s.tokens = ⟨.keyword, "SELECT"⟩ :: s.tokens.tail := by
    rw [htokens]
    cases distinct <;> rfl
  have hcalmSelect : (outside 0 [⟨.keyword, "SELECT"⟩]).all (isCalm false) := by decide +kernel
  have hskip := @clauseStarts_append .select false 0 0 _ hcalmSelect 0 s.tokens.tail
  rw [List.singleton_append, ← hselect, modifiersBehind_of_last (by decide +kernel)] at hskip
  rw [hskip]
  unfold clauses
  rw [hkind, hselect]
  rfl

theorem sections_eq (hkind : s.kind = .select)
    (htokens : s.tokens = selectWords distinct ++ items ++ partsTokens parts)
    (hitems : IsItems items) (hparts : AreParts false parts) :
    s.sections = (.head, selectWords distinct ++ items) :: parts := by
  rw [sections, clauses_eq hkind htokens hitems hparts]
  apply slices_partClauses
  rw [htokens]
  simp [partsTokens]

/-- The tokens of a part with the depths that they have behind the part in front. -/
theorem slice_tokensAtDepth {front ts rest : List Token}
    (htokens : s.tokens = front ++ ts ++ rest) :
    (⟨front.length, (front ++ ts).length⟩ : Span).slice s.tokensAtDepth =
      (depthsFrom (depthBehind 0 front) ts).zip ts := by
  have hdepths : s.depths = depthsFrom 0 front ++ (depthsFrom (depthBehind 0 front) ts ++
      depthsFrom (depthBehind (depthBehind 0 front) ts) rest) := by
    rw [depths, htokens, List.append_assoc, depthsFrom_append, depthsFrom_append]
  have hzip : s.tokensAtDepth = (depthsFrom 0 front).zip front ++
      ((depthsFrom (depthBehind 0 front) ts).zip ts ++
        (depthsFrom (depthBehind (depthBehind 0 front) ts) rest).zip rest) := by
    rw [tokensAtDepth, hdepths, htokens, List.append_assoc, List.zip_append (length_depthsFrom _ _),
      List.zip_append (length_depthsFrom _ _)]
  have hlength : ∀ (depth : ℕ) (us : List Token),
      ((depthsFrom depth us).zip us).length = us.length := by
    intro depth us
    rw [List.length_zip, length_depthsFrom, Nat.min_self]
  rw [hzip]
  apply Span.slice_append
  · rw [hlength]
  · rw [hlength, List.length_append]

theorem length_selectItems (hkind : s.kind = .select)
    (htokens : s.tokens = selectWords distinct ++ items ++ partsTokens parts)
    (hitems : IsItems items) (hparts : AreParts false parts) :
    s.selectItems.length = itemCount items := by
  set start := (selectWords distinct).length with hstart
  have hhead : s.clause? .head =
      some ⟨.head, ⟨0, 0 + (selectWords distinct ++ items).length⟩⟩ := by
    rw [clause?, clauses_eq hkind htokens hitems hparts, partClauses]
    rfl
  have hslice : (⟨0, 0 + (selectWords distinct ++ items).length⟩ : Span).slice s.tokens =
      selectWords distinct ++ items := by
    rw [htokens, Span.slice, Nat.zero_add, List.drop_zero, List.take_left]
  have hselect : (selectWords distinct ++ items).findIdx? (·.isWord "SELECT") = some 0 := by
    have hword : (⟨.keyword, "SELECT"⟩ : Token).isWord "SELECT" := by decide +kernel
    rw [selectWords, List.cons_append, List.findIdx?_cons, if_pos hword]
  have hfirst : (if s.tokens[1]?.any (·.isAnyOf ["DISTINCT", "ALL"]) then 2 else 1) = start := by
    obtain ⟨t, rest, rfl⟩ := List.exists_cons_of_ne_nil hitems.ne_nil
    have hitem : t.isAnyOf ["DISTINCT", "ALL"] = false := by simpa using hitems.starts
    have hdistinct : (⟨.keyword, "DISTINCT"⟩ : Token).isAnyOf ["DISTINCT", "ALL"] := by
      decide +kernel
    rw [htokens, hstart]
    cases distinct <;> simp [selectWords, hitem, hdistinct]
  have hregion : (⟨start, 0 + (selectWords distinct ++ items).length⟩ : Span).slice
      s.tokensAtDepth = (depthsFrom 0 items).zip items := by
    rw [Nat.zero_add, hstart, slice_tokensAtDepth htokens, (calm_selectWords distinct).closed]
  have hne : (depthsFrom 0 items).zip items ≠ [] := by
    rw [← List.length_pos_iff, List.length_zip, length_depthsFrom, Nat.min_self]
    exact List.length_pos_iff.2 hitems.ne_nil
  have hlast := getLast?_zip_depthsFrom hitems.ends
  obtain ⟨piece, hpiece, hempty⟩ := getLast?_piecesFrom_cutItems (le_refl start) hne hlast
  have hcount := length_piecesFrom_cutItems start start ((depthsFrom 0 items).zip items)
  rw [countP_zip_depthsFrom] at hcount
  unfold selectItems
  rw [if_neg (by simp [hkind]), hhead]
  dsimp only
  rw [hslice, hselect]
  dsimp only [Nat.zero_add]
  rw [hfirst, hregion, hpiece, if_neg (by simp [hempty])]
  exact hcount

end Statement

end Sql
end QueryFuzz
