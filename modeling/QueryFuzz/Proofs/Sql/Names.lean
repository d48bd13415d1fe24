import Mathlib.Data.List.Infix
import QueryFuzz.Proofs.Sql.Composition

/-!
# Names are read back

Between marks a closing mark is written twice and stands for a single one. Any name is written as
one token that is no keyword, and that token stands for the name. Names between back quotes are
read as if they stood between double quotes, so they are read right only where neither a back quote
nor a double quote next to another one occurs in them.
-/

namespace QueryFuzz
namespace Sql

/-! ## What stands between marks -/

/-- The characters between two marks, and what they stand for: a doubled closing mark for a single
one, any other character for itself. A bracket cannot be doubled. -/
inductive StandsFor (close : Char) : List Char → List Char → Prop
  | nil : StandsFor close [] []
  | char {c body name} : c ≠ close → StandsFor close body name →
      StandsFor close (c :: body) (c :: name)
  | pair {body name} : close ≠ ']' → StandsFor close body name →
      StandsFor close (close :: close :: body) (close :: name)

variable {mark close c : Char} {body name cs : List Char}

theorem Enclosable.exists_standsFor (h : Enclosable close body) :
    ∃ name, StandsFor close body name := by
  induction h with
  | nil => exact ⟨[], .nil⟩
  | char hc _ ih =>
    obtain ⟨name, hname⟩ := ih
    exact ⟨_, .char hc hname⟩
  | pair hclose _ ih =>
    obtain ⟨name, hname⟩ := ih
    exact ⟨_, .pair hclose hname⟩

theorem standsFor_doubled (h : mark ≠ ']') (name : List Char) :
    StandsFor mark (doubled mark name) name := by
  induction name with
  | nil => exact .nil
  | cons c name ih =>
    rw [doubled]
    split_ifs with hc
    · subst hc
      exact .pair h ih
    · exact .char hc ih

namespace StandsFor

/-- What is read is written again as it was. -/
theorem doubled_eq (h : StandsFor close body name) : doubled close name = body := by
  induction h with
  | nil => rfl
  | char hc _ ih => rw [doubled, if_neg hc, ih]
  | pair _ _ ih => rw [doubled, if_pos rfl, ih]

/-- A closing mark is written twice. -/
theorem count_eq (h : StandsFor close body name) : body.count close = 2 * name.count close := by
  induction h with
  | nil => rfl
  | char hc _ ih => rw [List.count_cons_of_ne hc, List.count_cons_of_ne hc, ih]
  | pair _ _ ih =>
    rw [List.count_cons_self, List.count_cons_self, List.count_cons_self, ih]
    omega

/-- Without a closing mark the characters stand for themselves. -/
theorem eq_of_notMem (h : StandsFor close body name) (hclose : close ∉ body) : name = body := by
  induction h with
  | nil => rfl
  | char _ _ ih => rw [ih fun hmem => hclose (List.mem_cons_of_mem _ hmem)]
  | pair => exact absurd List.mem_cons_self hclose

theorem eq_of_bracket (h : StandsFor ']' body name) : name = body := by
  induction h with
  | nil => rfl
  | char _ _ ih => rw [ih]
  | pair hclose _ _ => exact absurd rfl hclose

end StandsFor

theorem standsFor_iff (h : mark ≠ ']') : StandsFor mark body name ↔ doubled mark name = body := by
  refine ⟨StandsFor.doubled_eq, ?_⟩
  rintro rfl
  exact standsFor_doubled h name

/-! ## Undoing doubled marks -/

theorem undoubled_cons_of_ne (h : c ≠ mark) (cs : List Char) :
    undoubled mark (c :: cs) = c :: undoubled mark cs := by
  cases cs with
  | nil => rfl
  | cons d rest => rw [undoubled, if_neg fun hpair => h hpair.1]

theorem undoubled_pair (mark : Char) (cs : List Char) :
    undoubled mark (mark :: mark :: cs) = mark :: undoubled mark cs := by
  rw [undoubled, if_pos ⟨rfl, rfl⟩]

theorem StandsFor.undoubled_eq (h : StandsFor close body name) : undoubled close body = name := by
  induction h with
  | nil => rfl
  | char hc _ ih => rw [undoubled_cons_of_ne hc, ih]
  | pair _ _ ih => rw [undoubled_pair, ih]

/-- Only the mark is affected. -/
theorem count_undoubled (h : c ≠ mark) (cs : List Char) :
    (undoubled mark cs).count c = cs.count c := by
  fun_induction undoubled mark cs with
  | case1 => rfl
  | case2 => rfl
  | case3 d e rest hpair ih =>
    obtain ⟨rfl, rfl⟩ := hpair
    rw [List.count_cons_of_ne h.symm, List.count_cons_of_ne h.symm, List.count_cons_of_ne h.symm,
      ih]
  | case4 d e rest _ ih => rw [List.count_cons, List.count_cons, ih]

theorem length_undoubled_le (mark : Char) (cs : List Char) :
    (undoubled mark cs).length ≤ cs.length := by
  fun_induction undoubled mark cs with
  | case1 => exact le_rfl
  | case2 => exact le_rfl
  | case3 d e rest _ ih =>
    simp only [List.length_cons]
    omega
  | case4 d e rest _ ih =>
    simp only [List.length_cons] at ih ⊢
    omega

/-- Nothing changes just where the mark never stands next to itself. -/
theorem undoubled_eq_self_iff : undoubled mark cs = cs ↔ ¬[mark, mark] <:+: cs := by
  fun_induction undoubled mark cs with
  | case1 => simp
  | case2 c => simp [List.infix_cons_iff]
  | case3 c d rest hpair _ =>
    obtain ⟨rfl, rfl⟩ := hpair
    refine iff_of_false ?_ ?_
    · intro heq
      have hle := length_undoubled_le d rest
      have hlength := congrArg List.length heq
      simp only [List.length_cons] at hlength
      omega
    · exact not_not_intro ⟨[], rest, rfl⟩
  | case4 c d rest hpair ih =>
    have hfirst : ¬[mark, mark] <+: c :: d :: rest := by
      intro hstart
      have heads : mark = c ∧ mark = d := by simpa [List.cons_prefix_cons] using hstart
      exact hpair ⟨heads.1.symm, heads.2.symm⟩
    have hsplit : [mark, mark] <:+: c :: d :: rest ↔
        [mark, mark] <+: c :: d :: rest ∨ [mark, mark] <:+: d :: rest :=
      List.infix_cons_iff
    rw [List.cons_inj_right, ih, hsplit, or_iff_right hfirst]

/-- Undoing another mark gives the name just where neither mark is there to be undone. -/
theorem StandsFor.undoubled_eq_iff (h : StandsFor close body name) (hne : close ≠ mark) :
    undoubled mark body = name ↔ close ∉ body ∧ ¬[mark, mark] <:+: body := by
  constructor
  · intro heq
    have hcount : body.count close = name.count close := by rw [← heq, count_undoubled hne]
    have hdouble := h.count_eq
    have hclose : close ∉ body := List.count_eq_zero.1 (by omega)
    refine ⟨hclose, undoubled_eq_self_iff.1 ?_⟩
    rw [heq, h.eq_of_notMem hclose]
  · rintro ⟨hclose, hpair⟩
    rw [h.eq_of_notMem hclose, undoubled_eq_self_iff.2 hpair]

/-! ## Tokens between delimiters -/

/-- The marks that the tokens of a kind stand between. -/
def delimiters : List (TokenKind × Char × Char) :=
  [(.string, '\'', '\''), (.quotedIdentifier, '"', '"'), (.quotedIdentifier, '\x60', '\x60'),
    (.quotedIdentifier, '[', ']')]

/-- A quoted token: its delimiters, what stands between them, and the text it stands for. -/
structure Token.Quotes (t : Token) (opening close : Char) (body name : List Char) : Prop where
  mem_delimiters : (t.kind, opening, close) ∈ delimiters
  text_eq : t.text.toList = opening :: (body ++ [close])
  standsFor : StandsFor close body name

namespace Token

variable {t u : Token} {opening : Char} {body' : List Char}

theorem IsLexeme.exists_quotes (h : t.IsLexeme)
    (hkind : t.kind = .string ∨ t.kind = .quotedIdentifier) :
    ∃ opening close body name, t.Quotes opening close body name := by
  have hquotes : ∀ {opening close body}, (t.kind, opening, close) ∈ delimiters →
      t.text.toList = opening :: (body ++ [close]) → Enclosable close body →
      ∃ opening close body name, t.Quotes opening close body name := by
    intro opening close body hmem htext hbody
    obtain ⟨name, hname⟩ := hbody.exists_standsFor
    exact ⟨opening, close, body, name, hmem, htext, hname⟩
  have hlexeme : Lexeme t.kind t.text.toList := h
  generalize t.kind = kind at hkind hlexeme hquotes
  generalize t.text.toList = cs at hlexeme hquotes
  cases hlexeme with
  | @word c cs => rcases wordKind_cases (c :: cs) with hk | hk <;> simp [hk] at hkind
  | numeral hnumeral => rcases hnumeral.kind_cases with rfl | rfl <;> simp at hkind
  | string hbody => exact hquotes (by decide) rfl hbody
  | quoted hmark hbody => rcases hmark with rfl | rfl <;> exact hquotes (by decide) rfl hbody
  | bracketed hbody => exact hquotes (by decide) rfl hbody
  | _ => simp at hkind

/-- The kind, the delimiters and the text that is stood for determine a token. -/
theorem Quotes.eq (ht : t.Quotes opening close body name) (hu : u.Quotes opening close body' name)
    (hkind : t.kind = u.kind) : t = u := by
  have hbody : body = body' := ht.standsFor.doubled_eq.symm.trans hu.standsFor.doubled_eq
  have htext : t.text.toList = u.text.toList := by rw [ht.text_eq, hu.text_eq, hbody]
  obtain ⟨kind, text⟩ := t
  obtain rfl : kind = u.kind := hkind
  obtain rfl : text = u.text := String.toList_inj.1 htext
  rfl

theorem Quotes.inner_eq (h : t.Quotes opening close body name) : inner t.text.toList = body := by
  simp [inner, h.text_eq]

/-- The names between double quotes and back quotes are taken for what their text stands for with
double quotes as marks. -/
theorem Quotes.unquote_eq (h : t.Quotes opening close body name)
    (hkind : t.kind = .quotedIdentifier) :
    unquote t.text = String.ofList (if close = ']' then body else undoubled '"' body) := by
  have hlast : t.text.toList.getLast? = some close := by
    rw [h.text_eq, ← List.cons_append, List.getLast?_concat]
  have hlength : 2 ≤ t.text.toList.length := by
    rw [h.text_eq, List.length_cons, List.length_append, List.length_singleton]
    omega
  have hcases : opening = '"' ∧ close = '"' ∨ opening = '\x60' ∧ close = '\x60' ∨
      opening = '[' ∧ close = ']' := by
    simpa [delimiters, hkind] using h.mem_delimiters
  unfold unquote
  dsimp only
  rw [h.inner_eq, hlast, h.text_eq, List.head?_cons, ← h.text_eq]
  rcases hcases with ⟨rfl, rfl⟩ | ⟨rfl, rfl⟩ | ⟨rfl, rfl⟩
  · exact if_pos hlength
  · exact if_pos hlength
  · rfl

end Token

/-! ## Names that are written -/

/-- A name between double quotes. -/
def doubleQuoted (name : List Char) : Token :=
  ⟨.quotedIdentifier, String.ofList ('"' :: doubled '"' name ++ ['"'])⟩

theorem quotes_doubleQuoted (name : List Char) :
    (doubleQuoted name).Quotes '"' '"' (doubled '"' name) name :=
  ⟨by simp [doubleQuoted, delimiters], String.toList_ofList, standsFor_doubled (by decide) name⟩

theorem unquote_doubleQuoted (name : List Char) :
    unquote (doubleQuoted name).text = String.ofList name := by
  rw [(quotes_doubleQuoted name).unquote_eq rfl, if_neg (by decide),
    (standsFor_doubled (by decide) name).undoubled_eq]

/-- A plain name is not between delimiters. -/
theorem unquote_of_isPlainName {name : String} (h : isPlainName name.toList) :
    unquote name = name := by
  cases hcs : name.toList with
  | nil => simp [hcs, isPlainName] at h
  | cons c cs =>
    rw [hcs] at h
    have hfirst : c.isAlpha ∨ c = '_' := by
      simp only [isPlainName, Bool.and_eq_true, Bool.or_eq_true, beq_iff_eq] at h
      exact h.1
    have hmark : c ≠ '"' ∧ c ≠ '\x60' ∧ c ≠ '[' := by
      refine ⟨?_, ?_, ?_⟩ <;> rintro rfl <;> revert hfirst <;> decide
    unfold unquote
    simp only [hcs, List.head?_cons]
    split <;> simp_all

theorem unquote_quoteIdentifier (name : String) : unquote (quoteIdentifier name) = name := by
  unfold quoteIdentifier
  split_ifs with hplain
  · exact unquote_of_isPlainName (Bool.and_eq_true_iff.1 hplain).1
  · exact (unquote_doubleQuoted name.toList).trans String.ofList_toList

/-- Any name is written as one token, which is no keyword and stands for the name. -/
theorem written_name_is_read_back (name : String) :
    ∃ t, significantTokens (quoteIdentifier name) = .ok [t] ∧
      (t.kind = .identifier ∨ t.kind = .quotedIdentifier) ∧ t.text = quoteIdentifier name ∧
      unquote t.text = name :=
  ⟨nameToken name, (spells_quoteIdentifier name).significantTokens, nameToken_kind name, rfl,
    unquote_quoteIdentifier name⟩

/-! ## Names that are read -/

/-- A quoted name of a text stands between delimiters for a name, and that is the name it is taken
for, unless it stands between back quotes and holds a back quote or a doubled double quote. -/
theorem unquote_reads_name_iff {sql : String} {ts : List Token} (h : tokenize sql = .ok ts)
    {t : Token} (ht : t ∈ ts) (hkind : t.kind = .quotedIdentifier) :
    (∃ opening close body name, t.Quotes opening close body name) ∧
      ∀ opening close body name, t.Quotes opening close body name →
        (unquote t.text = String.ofList name ↔
          (close = '\x60' → '\x60' ∉ body ∧ ¬['"', '"'] <:+: body)) := by
  have hread : significantTokens sql = .ok (ts.filter (!·.isTrivia)) := by
    rw [significantTokens, h]
    rfl
  have hmem : t ∈ ts.filter (!·.isTrivia) := by
    simp [ht, Token.isTrivia, hkind]
  refine ⟨(isLexeme_of_significantTokens hread t hmem).exists_quotes (.inr hkind), ?_⟩
  intro opening close body name hquotes
  have hname := hquotes.standsFor
  have hclose : close = '"' ∨ close = '\x60' ∨ close = ']' := by
    have hcases := hquotes.mem_delimiters
    simp [delimiters, hkind] at hcases
    tauto
  rw [hquotes.unquote_eq hkind, String.ofList_inj]
  rcases hclose with rfl | rfl | rfl
  · refine iff_of_true ?_ fun hback => by cases hback
    rw [if_neg (by decide), hname.undoubled_eq]
  · rw [if_neg (by decide), hname.undoubled_eq_iff (by decide)]
    exact ⟨fun hplain _ => hplain, fun hplain => hplain rfl⟩
  · refine iff_of_true ?_ fun hback => by cases hback
    rw [if_pos rfl, hname.eq_of_bracket]

theorem unquote_reads_name_iff_doubled :
    let t : Token := ⟨.quotedIdentifier, "\"say \"\"hi\"\"\""⟩
    tokenize t.text = .ok [t] ∧
      t.Quotes '"' '"' "say \"\"hi\"\"".toList "say \"hi\"".toList ∧
      unquote t.text = "say \"hi\"" := by
  intro t
  have hread : tokenize t.text = .ok [t] := by decide +kernel
  have hquotes : t.Quotes '"' '"' "say \"\"hi\"\"".toList "say \"hi\"".toList :=
    ⟨by decide, by decide, (standsFor_iff (by decide)).2 (by decide)⟩
  have hname := ((unquote_reads_name_iff hread List.mem_cons_self rfl).2 _ _ _ _ hquotes).2
    fun hback => by cases hback
  exact ⟨hread, hquotes, hname⟩

/-- A back quote in a name is written twice, and taken for two. -/
theorem unquote_keeps_back_quotes :
    let t : Token := ⟨.quotedIdentifier, "`a``b`"⟩
    tokenize t.text = .ok [t] ∧ t.Quotes '\x60' '\x60' "a``b".toList "a`b".toList ∧
      unquote t.text = "a``b" ∧ unquote t.text ≠ "a`b" := by
  intro t
  have hquotes : t.Quotes '\x60' '\x60' "a``b".toList "a`b".toList :=
    ⟨by decide, by decide, (standsFor_iff (by decide)).2 (by decide)⟩
  exact ⟨by decide +kernel, hquotes, by decide, by decide⟩

end Sql
end QueryFuzz
