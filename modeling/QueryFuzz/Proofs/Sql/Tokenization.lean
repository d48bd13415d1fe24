import QueryFuzz.Proofs.Sql.Lookahead

/-!
# The tokens of a text stand side by side

The tokens of a text stand side by side between positions of the text, that is between whole
characters, and none is empty. Where a fault is reported there is such a position as well, and the
text in front of it has tokens: the token in front of the fault was ended by a character that is
cut off, and what was scanned without looking further is scanned again.
-/

namespace QueryFuzz
namespace Sql

/-! ## One token after the other -/

theorem tokenizeFrom_nil (offset : ℕ) : tokenizeFrom offset [] = .ok [] := by
  rw [tokenizeFrom]

theorem tokenizeFrom_of_fault {offset : ℕ} {c : Char} {rest : List Char} {e : Error}
    (h : scan offset c rest = .error e) : tokenizeFrom offset (c :: rest) = .error e := by
  rw [tokenizeFrom, h]

theorem tokenizeFrom_of_token {offset : ℕ} {c : Char} {kind : TokenKind} {run after : List Char}
    (h : scan offset c (run ++ after) = .ok (kind, run.length)) :
    tokenizeFrom offset (c :: (run ++ after)) =
      (tokenizeFrom (offset + utf8Length (c :: run)) after).map
        (⟨kind, String.ofList (c :: run)⟩ :: ·) := by
  rw [tokenizeFrom, h]
  dsimp only
  rw [List.take_left, List.drop_left]
  cases tokenizeFrom (offset + utf8Length (c :: run)) after <;> rfl

/-- A lexeme on its own is a single token. -/
theorem tokenize_of_isLexeme {t : Token} (h : t.IsLexeme) : tokenize t.text = .ok [t] := by
  obtain ⟨c, cs, hcs⟩ := List.exists_cons_of_ne_nil (Lexeme.ne_nil h)
  have hlexeme : Lexeme t.kind (c :: cs) := hcs ▸ h
  have hscan : scan 0 c (cs ++ []) = .ok (t.kind, cs.length) := scan_lexeme 0 hlexeme (by simp)
  have htoken : (⟨t.kind, String.ofList (c :: cs)⟩ : Token) = t := by
    rw [← hcs, String.ofList_toList]
  have hread := tokenizeFrom_of_token hscan
  rw [List.append_nil, tokenizeFrom_nil, htoken] at hread
  rw [tokenize, hcs, hread]
  rfl

/-- What holds of the empty text and of a text with a fault at its start, and of every text that
begins with a token if it holds behind the token, holds of all texts. -/
@[elab_as_elim]
theorem tokens_induction {motive : ℕ → List Char → Prop} (nil : ∀ offset, motive offset [])
    (fault : ∀ offset c rest e, scan offset c rest = .error e → motive offset (c :: rest))
    (token : ∀ offset c kind run after, scan offset c (run ++ after) = .ok (kind, run.length) →
      motive (offset + utf8Length (c :: run)) after → motive offset (c :: (run ++ after)))
    (offset : ℕ) (cs : List Char) : motive offset cs := by
  induction hn : cs.length using Nat.strong_induction_on generalizing offset cs with
  | _ n ih =>
    cases cs with
    | nil => exact nil offset
    | cons c rest =>
      cases hscan : scan offset c rest with
      | error e => exact fault offset c rest e hscan
      | ok answer =>
        obtain ⟨kind, k⟩ := answer
        obtain ⟨run, after, rfl, rfl⟩ : ∃ run after, rest = run ++ after ∧ run.length = k :=
          ⟨rest.take k, rest.drop k, (List.take_append_drop k rest).symm,
            List.length_take_of_le (scan_le hscan)⟩
        have hshort : after.length < n := by
          rw [← hn, List.length_cons, List.length_append]
          omega
        exact token offset c kind run after hscan (ih _ hshort _ _ rfl)

/-! ## Side by side -/

/-- The tokens are the slices of the text from one position to another, side by side, and none
of them is empty. -/
inductive SideBySide (sql : String) : sql.Pos → List Token → sql.Pos → Prop where
  | nil (p : sql.Pos) : SideBySide sql p [] p
  | cons {first next last : sql.Pos} {t : Token} {ts : List Token} (h : first < next)
      (ht : (sql.slice first next (Std.le_of_lt h)).copy = t.text)
      (hts : SideBySide sql next ts last) : SideBySide sql first (t :: ts) last

namespace SideBySide

variable {sql : String} {first last : sql.Pos} {ts : List Token}

theorem text_ne_empty (h : SideBySide sql first ts last) : ∀ t ∈ ts, t.text ≠ "" := by
  induction h with
  | nil => simp
  | @cons first next last t ts hlt ht hts ih =>
    refine List.forall_mem_cons.2 ⟨?_, ih⟩
    rw [← ht]
    intro hempty
    obtain ⟨front, back, hfirst, hnext⟩ := String.copy_slice_eq_iff_splits.1 ⟨_, hempty⟩
    rw [String.append_empty] at hnext
    exact Std.ne_of_lt hlt (hfirst.pos_eq hnext)

theorem splits {front back : String} (h : SideBySide sql first ts last)
    (hfirst : first.Splits front back) :
    ∃ rest, last.Splits (front ++ String.join (ts.map (·.text))) rest := by
  induction h generalizing front back with
  | nil => exact ⟨back, by simpa using hfirst⟩
  | @cons first next last t ts hlt ht hts ih =>
    obtain ⟨front', back', hfirst', hnext⟩ := String.copy_slice_eq_iff_splits.1 ⟨_, ht⟩
    obtain rfl := hfirst.eq_left hfirst'
    simpa [String.append_assoc] using ih hnext

/-- The texts of tokens from the start of a text on join to the text in front of their end. -/
theorem join (h : SideBySide sql sql.startPos ts last) :
    String.join (ts.map (·.text)) = (sql.sliceTo last).copy := by
  obtain ⟨rest, hlast⟩ := h.splits sql.splits_startPos
  rw [hlast.copy_sliceTo_eq, String.empty_append]

end SideBySide

/-- Wherever in a text the characters stand, their tokens stand side by side. -/
theorem sideBySide_of_tokenizeFrom {sql : String} {first last : sql.Pos} (front back : List Char)
    {offset : ℕ} {cs : List Char} {ts : List Token} (h : tokenizeFrom offset cs = .ok ts)
    (hfirst : first.Splits (String.ofList front) (String.ofList (cs ++ back)))
    (hlast : last.Splits (String.ofList (front ++ cs)) (String.ofList back)) :
    SideBySide sql first ts last := by
  induction offset, cs using tokens_induction generalizing first front ts with
  | nil offset =>
    rw [tokenizeFrom_nil] at h
    obtain rfl := Except.ok.inj h
    rw [List.append_nil] at hlast
    obtain rfl := hfirst.pos_eq hlast
    exact .nil first
  | fault offset c rest e hscan =>
    rw [tokenizeFrom_of_fault hscan] at h
    cases h
  | token offset c kind run after hscan ih =>
    rw [tokenizeFrom_of_token hscan] at h
    obtain ⟨more, hmore, rfl⟩ := map_eq_ok.1 h
    have hwhole : sql = String.ofList (front ++ c :: run) ++ String.ofList (after ++ back) := by
      rw [hfirst.eq_append, ← String.ofList_append, ← String.ofList_append]
      simp
    have hnext := String.Pos.splits_ofEqAppend hwhole
    have hfront : String.ofList (front ++ c :: run) =
        String.ofList front ++ String.ofList (c :: run) := String.ofList_append
    have hback : String.ofList (c :: (run ++ after) ++ back) =
        String.ofList (c :: run) ++ String.ofList (after ++ back) := by
      rw [← String.ofList_append]
      simp
    rw [hback] at hfirst
    obtain ⟨hle, ht⟩ :=
      String.copy_slice_eq_iff_splits.2 ⟨_, _, hfirst, by rw [← hfront]; exact hnext⟩
    have hlt : first < String.Pos.ofEqAppend hwhole :=
      (hfirst.lt_iff_exists_eq_append hnext).2 ⟨String.ofList (c :: run), by simp, hfront, rfl⟩
    exact .cons hlt ht (ih _ hmore hnext (by simpa using hlast))

/-! ## Faults -/

/-- The byte offset that a lexical fault reports. -/
def Error.offset? : Error → Option ℕ
  | .unterminated _ offset => some offset
  | .unexpectedCharacter _ offset => some offset
  | .malformedBlob offset => some offset
  | _ => none

theorem scanQuoted_fault {offset : ℕ} {close : Char} {what : Enclosed} {kind : TokenKind}
    {rest : List Char} {e : Error} (h : scanQuoted offset close what kind rest = .error e) :
    e.offset? = some offset := by
  unfold scanQuoted at h
  split at h
  · obtain rfl := Except.error.inj h
    rfl
  · cases h

theorem scanNumber_fault {offset : ℕ} {c : Char} {rest : List Char} {e : Error}
    (h : scanNumber offset c rest = .error e) : e.offset? = some offset := by
  unfold scanNumber at h
  dsimp only at h
  split at h
  · split_ifs at h
    obtain rfl := Except.error.inj h
    rfl
  · cases h

theorem scanMark_fault {offset : ℕ} {c : Char} {rest : List Char} {e : Error}
    (h : scanMark offset c rest = .error e) : e.offset? = some offset := by
  unfold scanMark at h
  split at h
  case h_6 =>
    unfold scanOperator at h
    split at h
    · cases h
    · obtain rfl := Except.error.inj h
      rfl
  all_goals cases h

theorem scanBlob_fault {offset : ℕ} {rest : List Char} {e : Error}
    (h : scanBlob offset rest = .error e) :
    e.offset? = some offset ∨ e.offset? = some (offset + 1) := by
  unfold scanBlob at h
  split at h
  · obtain rfl := Except.error.inj h
    exact .inr rfl
  · dsimp only at h
    split_ifs at h
    obtain rfl := Except.error.inj h
    exact .inl rfl

/-- A fault is reported at the start of its token, but a blob without an end at its quote. -/
theorem scan_fault {offset : ℕ} {c : Char} {rest : List Char} {e : Error}
    (h : scan offset c rest = .error e) :
    e.offset? = some offset ∨ e.offset? = some (offset + 1) ∧ (c = 'x' ∨ c = 'X') := by
  rw [scan_eq_scanAs] at h
  cases hform : formOf c rest.head? with
  | blanks | lineComment | numbered | named | word =>
    rw [hform] at h
    cases h
  | blockComment =>
    rw [hform, scanAs] at h
    split at h
    · obtain rfl := Except.error.inj h
      exact .inl rfl
    · cases h
  | string | quoted | bracketed =>
    rw [hform] at h
    exact .inl (scanQuoted_fault h)
  | blob =>
    rw [hform] at h
    exact (scanBlob_fault h).imp_right fun hoffset => ⟨hoffset, (formOf_eq_iff.1 hform).1⟩
  | number =>
    rw [hform] at h
    exact .inl (scanNumber_fault h)
  | mark =>
    rw [hform] at h
    exact .inl (scanMark_fault h)

/-- A fault is reported behind a front of the text that has tokens. -/
theorem exists_front_of_fault {offset : ℕ} {cs : List Char} {e : Error}
    (h : tokenizeFrom offset cs = .error e) :
    ∃ front rest ts, cs = front ++ rest ∧ e.offset? = some (offset + utf8Length front) ∧
      ∀ offset', tokenizeFrom offset' front = .ok ts := by
  induction offset, cs using tokens_induction with
  | nil offset =>
    rw [tokenizeFrom_nil] at h
    cases h
  | fault offset c rest e' hscan =>
    rw [tokenizeFrom_of_fault hscan] at h
    obtain rfl := Except.error.inj h
    rcases scan_fault hscan with hoffset | ⟨hoffset, hx⟩
    · exact ⟨[], c :: rest, [], rfl, hoffset, tokenizeFrom_nil⟩
    · -- The `x` alone is a word.
      refine ⟨[c], rest, [⟨wordKind [c], String.ofList [c]⟩], rfl, ?_, fun offset' => ?_⟩
      · rcases hx with rfl | rfl <;> exact hoffset
      · have hword : startsWord c := by rcases hx with rfl | rfl <;> decide
        have hscan' : scan offset' c ([] ++ []) = .ok (wordKind [c], [].length) :=
          scan_word hword (by simp) (by simp)
        have htokens := tokenizeFrom_of_token hscan'
        rw [tokenizeFrom_nil] at htokens
        exact htokens
  | token offset c kind run after hscan ih =>
    rw [tokenizeFrom_of_token hscan] at h
    cases hafter : tokenizeFrom (offset + utf8Length (c :: run)) after with
    | ok ts =>
      rw [hafter] at h
      cases h
    | error e' =>
      rw [hafter] at h
      obtain rfl := Except.error.inj h
      obtain ⟨front, rest, ts, rfl, hoffset, htokens⟩ := ih hafter
      refine ⟨c :: (run ++ front), rest, ⟨kind, String.ofList (c :: run)⟩ :: ts, by simp, ?_,
        fun offset' => ?_⟩
      · rw [hoffset, ← List.cons_append, utf8Length_append, Nat.add_assoc]
      · have hcut : ∀ d ∈ front.head?, d ∈ (front ++ rest).head? := by
          intro d hd
          obtain ⟨tail, rfl⟩ := List.head?_eq_some_iff.1 hd
          rfl
        rw [tokenizeFrom_of_token (scan_congr offset' hscan fun d hd => .inl (hcut d hd)), htokens]
        rfl

/-! ## Positions -/

theorem utf8ByteSize_ofList (cs : List Char) :
    (String.ofList cs).utf8ByteSize = utf8Length cs := by
  induction cs with
  | nil => rfl
  | cons c cs ih =>
    rw [String.ofList_cons, String.utf8ByteSize_append, String.utf8ByteSize_singleton, ih,
      utf8Length_cons]

/-- The characters up to a place in the list end at a position of the text. -/
theorem exists_pos {sql : String} {front back : List Char} (h : sql.toList = front ++ back) :
    ∃ p : sql.Pos, p.Splits (String.ofList front) (String.ofList back) ∧
      p.offset.byteIdx = utf8Length front := by
  have hwhole : sql = String.ofList front ++ String.ofList back := by
    rw [← String.ofList_append, ← h, String.ofList_toList]
  have hp := String.Pos.splits_ofEqAppend hwhole
  refine ⟨_, hp, ?_⟩
  rw [hp.offset_eq_rawEndPos, String.byteIdx_rawEndPos, utf8ByteSize_ofList]

/-- Between two positions of the text, the first one at this byte offset, stand these characters. -/
def HasSlice (sql : String) (offset : ℕ) (cs : List Char) : Prop :=
  ∃ (first last : sql.Pos) (hle : first ≤ last),
    first.offset.byteIdx = offset ∧ (sql.slice first last hle).copy = String.ofList cs

theorem hasSlice {sql : String} {front cs : List Char} (back : List Char)
    (h : sql.toList = front ++ (cs ++ back)) : HasSlice sql (utf8Length front) cs := by
  obtain ⟨first, hfirst, hoffset⟩ := exists_pos h
  obtain ⟨last, hlast, -⟩ := exists_pos (h.trans (List.append_assoc front cs back).symm)
  rw [String.ofList_append] at hfirst hlast
  obtain ⟨hle, hcopy⟩ := String.copy_slice_eq_iff_splits.2 ⟨_, _, hfirst, hlast⟩
  exact ⟨first, last, hle, hoffset, hcopy⟩

/-- Lexing loses nothing. The tokens of a text stand side by side from its start to its end. Where
it has none, the fault is reported at one of its positions, and the text up to there has tokens,
which stand side by side up to there. The digits of a blob, which are looked at once more, are a
slice of the text as well. -/
theorem tokenize_lossless (sql : String) :
    (match tokenize sql with
      | .ok ts => SideBySide sql sql.startPos ts sql.endPos ∧ (∀ t ∈ ts, t.text ≠ "") ∧
          String.join (ts.map (·.text)) = sql
      | .error e => ∃ (fault : sql.Pos) (ts : List Token),
          e.offset? = some fault.offset.byteIdx ∧
          tokenize (sql.sliceTo fault).copy = .ok ts ∧ SideBySide sql sql.startPos ts fault ∧
          String.join (ts.map (·.text)) = (sql.sliceTo fault).copy) ∧
    ∀ front c rest n, sql.toList = front ++ c :: '\'' :: rest → quotedLength '\'' rest = some n →
      0 < n ∧ HasSlice sql (utf8Length (front ++ [c, '\''])) (rest.take (n - 1)) := by
  refine ⟨?_, fun front c rest n hsql hn => ?_⟩
  · split
    · rename_i ts hts
      have hplaces : SideBySide sql sql.startPos ts sql.endPos := by
        refine sideBySide_of_tokenizeFrom [] [] hts ?_ ?_
        · simp
        · simp
      refine ⟨hplaces, hplaces.text_ne_empty, ?_⟩
      rw [hplaces.join, (String.splits_endPos sql).copy_sliceTo_eq]
    · rename_i e he
      obtain ⟨front, rest, ts, hsql, hoffset, htokens⟩ := exists_front_of_fault he
      obtain ⟨fault, hfault, hbyte⟩ := exists_pos hsql
      have hplaces : SideBySide sql sql.startPos ts fault := by
        refine sideBySide_of_tokenizeFrom [] rest (htokens 0) ?_ ?_
        · rw [← hsql, String.ofList_toList]
          exact sql.splits_startPos
        · exact hfault
      refine ⟨fault, ts, ?_, ?_, hplaces, hplaces.join⟩
      · rw [hoffset, Nat.zero_add, hbyte]
      · rw [hfault.copy_sliceTo_eq, tokenize, String.toList_ofList]
        exact htokens 0
  · refine ⟨(quotedLength_le hn).1, hasSlice (rest.drop (n - 1)) ?_⟩
    rw [List.take_append_drop, hsql]
    simp

end Sql
end QueryFuzz
