import QueryFuzz.Grammar.Phrase
import QueryFuzz.Proofs.Grammar.Literals
import QueryFuzz.Proofs.Sql.Depths
import QueryFuzz.Proofs.Sql.Names

/-!
# Texts over tables

A text is over tables if its names are those of the tables and of their columns, apart from a few
fixed ones, and if a point stands nowhere but between a table and a column of it. A template that is
filled with such texts is one, and it nests as much deeper as its gaps stand.
-/

namespace QueryFuzz
namespace Grammar

open Sql

/-! ## Names -/

def functions : List String :=
  ["ABS", "COALESCE", "LENGTH", "LOWER", "UPPER", "SUBSTR", "TYPEOF", "ROUND", "SUM", "AVG",
    "TOTAL", "MIN", "MAX", "COUNT"]

/-- The names in queries that do not depend on the tables. -/
def fixedNames : List String :=
  functions ++ ColumnType.all.map (·.sqlName)

/-- The name is that of a table or a column, a fixed one, or one that is made up for a new thing. -/
def IsKnown (tables : List Table) (name : String) : Prop :=
  (∃ t ∈ tables, name = t.name ∨ ∃ c ∈ t.columns, name = c.name) ∨ name ∈ fixedNames ∨
    "sqldrift_".toList <+: name.toList

/-- All names are known, and points stand between tables and their columns only. -/
inductive Grounded (tables : List Table) : List Token → Prop
  | nil : Grounded tables []
  | plain {t : Token} {ts : List Token} : isNameToken t = false → t.kind ≠ .dot →
      Grounded tables ts → Grounded tables (t :: ts)
  | name {t : Token} {ts : List Token} : isNameToken t → IsKnown tables (unquote t.text) →
      Grounded tables ts → Grounded tables (t :: ts)
  | column {table : Table} {c : Column} {ts : List Token} : table ∈ tables → c ∈ table.columns →
      Grounded tables ts → Grounded tables (nameToken table.name :: dot :: nameToken c.name :: ts)

variable {tables : List Table}

theorem Grounded.append {ts us : List Token} (hts : Grounded tables ts)
    (hus : Grounded tables us) : Grounded tables (ts ++ us) := by
  induction hts with
  | nil => exact hus
  | plain hname hdot _ ih => exact .plain hname hdot ih
  | name hname hknown _ ih => exact .name hname hknown ih
  | column htable hc _ ih => exact .column htable hc ih

theorem isKnown_unquote {name : String} (h : IsKnown tables name) :
    IsKnown tables (unquote (nameToken name).text) := by
  rwa [show unquote (nameToken name).text = name from unquote_quoteIdentifier name]

theorem isKnown_table {t : Table} (ht : t ∈ tables) : IsKnown tables t.name :=
  .inl ⟨t, ht, .inl rfl⟩

theorem isKnown_column {t : Table} (ht : t ∈ tables) {c : Column} (hc : c ∈ t.columns) :
    IsKnown tables c.name :=
  .inl ⟨t, ht, .inr ⟨c, hc, rfl⟩⟩

theorem Grounded.isKnown {ts : List Token} (h : Grounded tables ts) :
    ∀ t ∈ ts, isNameToken t → IsKnown tables (unquote t.text) := by
  induction h with
  | nil => simp
  | plain hname _ _ ih =>
    refine List.forall_mem_cons.2 ⟨fun ht => ?_, ih⟩
    rw [hname] at ht
    exact Bool.noConfusion ht
  | name _ hknown _ ih => exact List.forall_mem_cons.2 ⟨fun _ => hknown, ih⟩
  | column htable hc _ ih =>
    simp only [List.forall_mem_cons]
    exact ⟨fun _ => isKnown_unquote (isKnown_table htable), fun hdot => absurd hdot (by decide),
      fun _ => isKnown_unquote (isKnown_column htable hc), ih⟩

/-- Something always stands in front of a point. -/
theorem Grounded.head_ne_dot {t : Token} {ts us : List Token} (h : Grounded tables ts)
    (hbegins : t :: us <+: ts) : t.kind ≠ .dot := by
  cases h with
  | nil => simp at hbegins
  | plain _ hdot _ =>
    obtain ⟨rfl, -⟩ := List.cons_prefix_cons.1 hbegins
    exact hdot
  | name hname _ _ =>
    obtain ⟨rfl, -⟩ := List.cons_prefix_cons.1 hbegins
    intro hdot
    simp [isNameToken, hdot] at hname
  | @column table =>
    obtain ⟨rfl, -⟩ := List.cons_prefix_cons.1 hbegins
    rcases nameToken_kind table.name with hk | hk <;> simp [hk]

/-- What stands around a point is a table and a column of it. -/
theorem Grounded.exists_column {t point c : Token} {ts : List Token} (h : Grounded tables ts)
    (hpoint : point.kind = .dot) (hstands : [t, point, c] <:+: ts) :
    ∃ table ∈ tables, ∃ column ∈ table.columns,
      t = nameToken table.name ∧ c = nameToken column.name := by
  induction h with
  | nil => simp at hstands
  | plain _ _ hrest ih =>
    rcases List.infix_cons_iff.1 hstands with hbegins | hstands
    · exact absurd hpoint (hrest.head_ne_dot (List.cons_prefix_cons.1 hbegins).2)
    · exact ih hstands
  | name _ _ hrest ih =>
    rcases List.infix_cons_iff.1 hstands with hbegins | hstands
    · exact absurd hpoint (hrest.head_ne_dot (List.cons_prefix_cons.1 hbegins).2)
    · exact ih hstands
  | @column table column ts htable hcolumn hrest ih =>
    rcases List.infix_cons_iff.1 hstands with hbegins | hstands
    · obtain ⟨ht, hbegins⟩ := List.cons_prefix_cons.1 hbegins
      obtain ⟨-, hbegins⟩ := List.cons_prefix_cons.1 hbegins
      exact ⟨table, htable, column, hcolumn, ht, (List.cons_prefix_cons.1 hbegins).1⟩
    have hfirst : Grounded tables (nameToken column.name :: ts) :=
      .name (isNameToken_nameToken _) (isKnown_unquote (isKnown_column htable hcolumn)) hrest
    rcases List.infix_cons_iff.1 hstands with hbegins | hstands
    · exact absurd hpoint (hfirst.head_ne_dot (List.cons_prefix_cons.1 hbegins).2)
    rcases List.infix_cons_iff.1 hstands with hbegins | hstands
    · exact absurd hpoint (hrest.head_ne_dot (List.cons_prefix_cons.1 hbegins).2)
    · exact ih hstands

/-- A token that can stand over any tables. -/
def isFixed (t : Token) : Bool :=
  t.kind != .dot && (!isNameToken t || fixedNames.contains (unquote t.text))

theorem grounded_of_isFixed {ts : List Token} (h : ∀ t ∈ ts, isFixed t) : Grounded tables ts := by
  induction ts with
  | nil => exact .nil
  | cons t ts ih =>
    obtain ⟨ht, hts⟩ := List.forall_mem_cons.1 h
    obtain ⟨hdot, hname⟩ : t.kind ≠ .dot ∧
        (isNameToken t = false ∨ unquote t.text ∈ fixedNames) := by
      simpa [isFixed] using ht
    cases hnamed : isNameToken t with
    | false => exact .plain hnamed hdot (ih hts)
    | true =>
      refine .name hnamed (.inr (.inl (hname.resolve_left ?_))) (ih hts)
      rw [hnamed]
      exact Bool.noConfusion

theorem isFixed_of_isLiteral {t : Token} (h : t.isLiteral) : isFixed t := by
  have hkind : t.kind = .keyword ∨ t.kind = .string ∨ t.kind = .blob ∨ t.kind = .integer ∨
      t.kind = .float := by
    unfold Token.isLiteral at h
    cases hk : t.kind <;> simp_all [Token.isAnyOf]
  rcases hkind with hk | hk | hk | hk | hk <;> simp [isFixed, isNameToken, hk]

theorem isFixed_of_isLiteralTokens {ts : List Token} (h : isLiteralTokens ts) :
    ∀ t ∈ ts, isFixed t := by
  match ts with
  | [t] => simpa using isFixed_of_isLiteral h
  | [sign, t] =>
    obtain ⟨rfl, hkind⟩ : sign = minus ∧ (t.kind = .integer ∨ t.kind = .float) := by
      simpa [isLiteralTokens] using h
    have ht : isFixed t := isFixed_of_isLiteral (by
      rcases hkind with hk | hk <;> simp [Token.isLiteral, hk])
    have hsign : isFixed minus := by decide
    simpa using ⟨hsign, ht⟩

theorem grounded_nameToken {name : String} (h : IsKnown tables name) :
    Grounded tables [nameToken name] :=
  .name (isNameToken_nameToken name) (isKnown_unquote h) .nil

/-! ## Texts -/

/-- The text is over the tables and nests no deeper than the limit. -/
structure KeepsTo (tables : List Table) (limit : ℕ) (text : String) : Prop where
  grounded : Grounded tables (textTokens text)
  shallow : Shallow limit 0 (textTokens text)

theorem KeepsTo.mono {limit limit' : ℕ} {text : String} (h : KeepsTo tables limit text)
    (hle : limit ≤ limit') : KeepsTo tables limit' text :=
  ⟨h.grounded, h.shallow.mono hle⟩

/-- The text fills a gap and keeps to the tables and the limit. -/
structure Holds (tables : List Table) (limit : ℕ) (gap : Gap) (text : String) : Prop extends
    KeepsTo tables limit text where
  fits : gap.Fits text

/-- A term over the tables. -/
abbrev IsPhrase (tables : List Table) (limit : ℕ) (text : String) : Prop :=
  Holds tables limit .term text

theorem Holds.mono {gap : Gap} {limit limit' : ℕ} {text : String} (h : Holds tables limit gap text)
    (hle : limit ≤ limit') : Holds tables limit' gap text :=
  ⟨h.toKeepsTo.mono hle, h.fits⟩

/-- A term is a list of one. -/
theorem Holds.list {limit : ℕ} {text : String} (h : IsPhrase tables limit text) :
    Holds tables limit .list text :=
  ⟨h.toKeepsTo, 1, h.fits.isListText⟩

theorem keepsTo_of_isFixed {limit : ℕ} {text : String} {ts : List Token} (hspells : Spells text ts)
    (hts : ∀ t ∈ ts, isFixed t) (hshallow : Shallow limit 0 ts) : KeepsTo tables limit text := by
  constructor <;> rw [textTokens_eq hspells]
  · exact grounded_of_isFixed hts
  · exact hshallow

/-- One token, or a sign and one, nests nothing. -/
theorem shallow_of_isLiteralTokens {ts : List Token} (h : isLiteralTokens ts) :
    Shallow 0 0 ts := by
  match ts with
  | [t] => simp [Shallow, depthsFrom]
  | [sign, t] =>
    obtain ⟨rfl, -⟩ : sign = minus ∧ (t.kind = .integer ∨ t.kind = .float) := by
      simpa [isLiteralTokens] using h
    simp [Shallow, depthsFrom, depthPast, minus]

theorem keepsTo_of_literal {text : String} (h : IsLiteralText text) : KeepsTo tables 0 text := by
  obtain ⟨ts, hspells, hliteral⟩ := h
  exact keepsTo_of_isFixed hspells (isFixed_of_isLiteralTokens hliteral)
    (shallow_of_isLiteralTokens hliteral)

/-! ## Filled templates -/

/-- There is a text over the tables for each gap. -/
abbrev FillOver (tables : List Table) (limit : ℕ) (gaps : List (Gap × String))
    (texts : List String) : Prop :=
  List.Forall₂ (fun gap text => Holds tables limit gap.1 text) gaps texts

/-- The template adds no names but fixed ones, and so much to the depth of what fills it. -/
abbrev Adds (limit : ℕ) (t : Template) : Prop :=
  (∀ text ∈ t.first :: t.gaps.map (·.2), ∀ token ∈ textTokens text, isFixed token) ∧
    (∀ d ∈ fixedDepths 0 t.first t.gaps, d ≤ limit) ∧ ∀ d ∈ gapDepths 0 t.first t.gaps, d ≤ limit

section Fill

variable {limit more depth : ℕ} {first : String} {gaps : List (Gap × String)}
  {texts : List String}

theorem FillOver.fill (h : FillOver tables limit gaps texts) : Fill gaps texts :=
  h.imp fun _ _ hholds => hholds.fits

theorem grounded_woven
    (hfixed : ∀ text ∈ first :: gaps.map (·.2), ∀ token ∈ textTokens text, isFixed token)
    (h : FillOver tables limit gaps texts) :
    Grounded tables (woven first gaps texts) := by
  induction h generalizing first with
  | nil => exact grounded_of_isFixed (hfixed first List.mem_cons_self)
  | cons htext _ ih =>
    obtain ⟨hfirst, hgaps⟩ := List.forall_mem_cons.1 hfixed
    rw [woven_cons]
    exact (grounded_of_isFixed hfirst).append (htext.grounded.append (ih hgaps))

/-- What stands in a gap is as much deeper as the gap. -/
theorem forall₂_gapDepths
    (h : FillOver tables limit gaps texts)
    (hdepths : ∀ d ∈ gapDepths depth first gaps, d ≤ more) :
    List.Forall₂ (fun d text => Shallow (limit + more) d (textTokens text))
      (gapDepths depth first gaps) texts := by
  induction h generalizing first depth with
  | nil => exact .nil
  | cons htext _ ih =>
    rw [gapDepths] at hdepths ⊢
    obtain ⟨hd, hdepths⟩ := List.forall_mem_cons.1 hdepths
    refine .cons ?_ (ih hdepths)
    have hdeep := htext.shallow.add htext.fits.fits (depthBehind depth (textTokens first))
    rw [Nat.zero_add] at hdeep
    exact hdeep.mono (Nat.add_le_add_left hd limit)

variable {t : Template}

/-- A filled template keeps to a limit if the text in each gap does where it stands. -/
theorem keepsTo_fill_of_depths {ts : List Token} (hskeleton : skeleton? t.first t.gaps = some ts)
    (hadds : Adds more t) (hle : more ≤ limit)
    (h : FillOver tables limit t.gaps texts)
    (hdepths : List.Forall₂ (fun d text => Shallow limit d (textTokens text))
      (gapDepths 0 t.first t.gaps) texts) :
    KeepsTo tables limit (fill t.first t.gaps texts) := by
  obtain ⟨hfixed, hshallow, -⟩ := hadds
  have hfill := h.fill
  constructor <;> rw [textTokens_eq (spells_fill hskeleton hfill).1]
  · exact grounded_woven hfixed h
  · exact shallow_woven hfill (fun d hd => (hshallow d hd).trans hle) hdepths

theorem keepsTo_fill {ts : List Token} (hskeleton : skeleton? t.first t.gaps = some ts)
    (hadds : Adds more t)
    (h : FillOver tables limit t.gaps texts) :
    KeepsTo tables (limit + more) (fill t.first t.gaps texts) :=
  keepsTo_fill_of_depths hskeleton hadds (Nat.le_add_left more limit)
    (h.imp fun _ _ hholds => hholds.mono (Nat.le_add_right limit more))
    (forall₂_gapDepths h hadds.2.2)

theorem isPhrase_fill (hterm : t.MakesTerm) (hadds : Adds more t)
    (h : FillOver tables limit t.gaps texts) :
    IsPhrase tables (limit + more) (fill t.first t.gaps texts) := by
  obtain ⟨ts, hskeleton, -⟩ := (Option.any_eq_true _ _).1 hterm
  exact ⟨keepsTo_fill hskeleton hadds h, isTermText_fill hterm h.fill⟩

end Fill

end Grammar
end QueryFuzz
