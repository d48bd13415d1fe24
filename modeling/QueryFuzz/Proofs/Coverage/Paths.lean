import Mathlib.Data.List.Destutter
import Mathlib.Logic.Relation
import QueryFuzz.Coverage.Signature

/-!
# Which traces are the same path

Traces have the same path signature exactly if they differ only in how long they stay at a unit. The
collapsed trace is the one form that all such traces share. Its units have no line breaks and are
joined by them, so the joined text determines it, and only a collision of digests could confuse two
paths. The text of one empty unit is empty like that of no units, but no units are no path.
-/

namespace QueryFuzz
namespace Coverage

/-! ## Staying at a unit -/

/-- The second trace stays at one unit of the first for one entry more. -/
inductive Lingers : List String → List String → Prop
  | intro (before : List String) (unit : String) (after : List String) :
      Lingers (before ++ unit :: after) (before ++ unit :: unit :: after)

theorem Lingers.cons {t t' : List String} (h : Lingers t t') (unit : String) :
    Lingers (unit :: t) (unit :: t') := by
  obtain ⟨before, stay, after⟩ := h
  exact .intro (unit :: before) stay after

theorem eqvGen_cons {t t' : List String} (h : Relation.EqvGen Lingers t t') (unit : String) :
    Relation.EqvGen Lingers (unit :: t) (unit :: t') := by
  induction h with
  | rel _ _ h => exact .rel _ _ (h.cons unit)
  | refl _ => exact .refl _
  | symm _ _ _ ih => exact .symm _ _ ih
  | trans _ _ _ _ _ ih ih' => exact .trans _ _ _ ih ih'

/-! ## Collapsed traces -/

theorem collapse_eq_destutter (trace : List String) :
    collapse trace = trace.destutter (· ≠ ·) := by
  induction trace using collapse.induct with
  | case1 => rfl
  | case2 x => rfl
  | case3 y rest ih =>
    rw [collapse, if_pos rfl, ih, List.destutter_cons_cons, if_neg (not_not.2 rfl),
      List.destutter_cons']
  | case4 x y rest hne ih =>
    rw [collapse, if_neg hne, ih, List.destutter_cons_cons, if_pos hne, List.destutter_cons']

theorem collapse_eq_nil {trace : List String} : collapse trace = [] ↔ trace = [] := by
  rw [collapse_eq_destutter, List.destutter_eq_nil]

/-- What is in front of a unit collapses the same way whatever follows that unit. -/
theorem collapse_append_congr {unit : String} {after after' : List String}
    (h : collapse (unit :: after) = collapse (unit :: after')) (before : List String) :
    collapse (before ++ unit :: after) = collapse (before ++ unit :: after') := by
  induction before with
  | nil => exact h
  | cons x before ih =>
    cases before with
    | nil => simp only [List.cons_append, List.nil_append, collapse, h]
    | cons y before =>
      simp only [List.cons_append, collapse] at ih ⊢
      rw [ih]

theorem Lingers.collapse_eq {t t' : List String} (h : Lingers t t') : collapse t = collapse t' := by
  obtain ⟨before, unit, after⟩ := h
  apply collapse_append_congr
  rw [collapse, if_pos rfl]

theorem eqvGen_collapse (trace : List String) :
    Relation.EqvGen Lingers trace (collapse trace) := by
  induction trace using collapse.induct with
  | case1 => exact .refl _
  | case2 x => exact .refl _
  | case3 y rest ih =>
    rw [collapse, if_pos rfl]
    exact .trans _ _ _ (.symm _ _ (.rel _ _ (.intro [] y rest))) ih
  | case4 x y rest hne ih =>
    rw [collapse, if_neg hne]
    exact eqvGen_cons ih x

/-- Collapsing decides whether two traces differ only in how long they stay at a unit. -/
theorem collapse_eq_iff {t t' : List String} :
    collapse t = collapse t' ↔ Relation.EqvGen Lingers t t' := by
  constructor
  · intro h
    exact .trans _ _ _ (eqvGen_collapse t) (h ▸ .symm _ _ (eqvGen_collapse t'))
  · intro h
    induction h with
    | rel _ _ h => exact h.collapse_eq
    | refl _ => rfl
    | symm _ _ _ ih => exact ih.symm
    | trans _ _ _ _ _ ih ih' => exact ih.trans ih'

/-! ## The text of a path -/

/-- No unit goes over more than one line. -/
def IsLineByLine (trace : List String) : Prop :=
  ∀ unit ∈ trace, '\n' ∉ unit.toList

instance (trace : List String) : Decidable (IsLineByLine trace) :=
  inferInstanceAs (Decidable (∀ unit ∈ trace, '\n' ∉ unit.toList))

theorem IsLineByLine.collapse {trace : List String} (h : IsLineByLine trace) :
    IsLineByLine (collapse trace) := by
  intro unit hunit
  rw [collapse_eq_destutter] at hunit
  exact h unit ((List.destutter_sublist _ trace).mem hunit)

/-- The text whose digest names the path. -/
def pathText (trace : List String) : String :=
  "\n".intercalate (collapse trace)

theorem IsLineByLine.splitOn {units : List String} (h : IsLineByLine units) (hne : units ≠ []) :
    ("\n".intercalate units).toList.splitOn '\n' = units.map String.toList := by
  rw [String.toList_intercalate]
  refine List.splitOn_intercalate '\n' ?_ (by simpa using hne)
  simpa [IsLineByLine] using h

/-- The units of a path are the lines of its text. -/
theorem pathText_inj {t t' : List String} (ht : IsLineByLine t) (ht' : IsLineByLine t')
    (hne : t ≠ []) (hne' : t' ≠ []) : pathText t = pathText t' ↔ collapse t = collapse t' := by
  constructor
  · intro h
    have hlines := ht.collapse.splitOn (mt collapse_eq_nil.1 hne)
    have hlines' := ht'.collapse.splitOn (mt collapse_eq_nil.1 hne')
    unfold pathText at h
    rw [h, hlines'] at hlines
    have hinjective : Function.Injective String.toList := fun _ _ => String.toList_injective
    exact (List.map_injective_iff.2 hinjective hlines).symm
  · intro h
    rw [pathText, h, pathText]

/-! ## Signatures of paths -/

theorem ofTrace_of_ne_nil {trace : List String} (h : trace ≠ []) :
    Signature.ofTrace .path trace = .ofUnits ["path:" ++ digest (pathText trace)] := by
  rw [Signature.ofTrace, if_neg (by simpa using h)]
  rfl

theorem units_ofTrace {trace : List String} (h : trace ≠ []) :
    (Signature.ofTrace .path trace).units.toList = ["path:" ++ digest (pathText trace)] := by
  rw [ofTrace_of_ne_nil h]
  rfl

/-- Only no trace at all is no path. -/
theorem units_ofTrace_eq_empty_iff {trace : List String} :
    (Signature.ofTrace .path trace).units = .empty ↔ trace = [] := by
  constructor
  · intro h
    by_contra hne
    have hunits := units_ofTrace hne
    rw [h] at hunits
    cases hunits
  · rintro rfl
    rfl

theorem ofTrace_eq_empty_iff {trace : List String} :
    Signature.ofTrace .path trace = .empty ↔ trace = [] := by
  constructor
  · intro h
    exact units_ofTrace_eq_empty_iff.1 (congrArg Signature.units h)
  · rintro rfl
    rfl

theorem ofTrace_eq_iff_digest {t t' : List String} (hne : t ≠ []) (hne' : t' ≠ []) :
    Signature.ofTrace .path t = .ofTrace .path t' ↔
      digest (pathText t) = digest (pathText t') := by
  constructor
  · intro h
    have hunits := units_ofTrace hne
    rw [h, units_ofTrace hne', List.cons.injEq] at hunits
    exact ((String.append_right_inj _).1 hunits.1).symm
  · intro h
    rw [ofTrace_of_ne_nil hne, ofTrace_of_ne_nil hne', h]

theorem ofTrace_eq_iff_collapse {t t' : List String} (ht : IsLineByLine t) (ht' : IsLineByLine t')
    (hdigest : digest (pathText t) = digest (pathText t') → pathText t = pathText t') :
    Signature.ofTrace .path t = .ofTrace .path t' ↔ collapse t = collapse t' := by
  -- The joined text of no units is also that of one empty unit, so no trace at all stands apart.
  by_cases hne : t = []
  · subst hne
    have hnil : collapse [] = collapse t' ↔ t' = [] := eq_comm.trans collapse_eq_nil
    exact eq_comm.trans (ofTrace_eq_empty_iff.trans hnil.symm)
  by_cases hne' : t' = []
  · subst hne'
    have hnil : collapse t = collapse [] ↔ t = [] := collapse_eq_nil
    exact ofTrace_eq_empty_iff.trans hnil.symm
  · rw [ofTrace_eq_iff_digest hne hne', ← pathText_inj ht ht' hne hne']
    exact ⟨hdigest, congrArg digest⟩

/-- The signatures of two paths are equal exactly if the traces are equal once their runs of equal
units are collapsed, which is to say if they differ only in how long they stay at a unit. A path is
one unit, and only no trace at all has none. -/
theorem path_signature_eq_iff {t t' : List String} (ht : IsLineByLine t) (ht' : IsLineByLine t')
    (hdigest : digest (pathText t) = digest (pathText t') → pathText t = pathText t') :
    (Signature.ofTrace .path t = .ofTrace .path t' ↔
      t.destutter (· ≠ ·) = t'.destutter (· ≠ ·)) ∧
    (Signature.ofTrace .path t = .ofTrace .path t' ↔ Relation.EqvGen Lingers t t') ∧
    ∀ trace, (trace ≠ [] → ∃ unit, (Signature.ofTrace .path trace).units.toList = [unit]) ∧
      ((Signature.ofTrace .path trace).units = .empty ↔ trace = []) := by
  have hcollapse := ofTrace_eq_iff_collapse ht ht' hdigest
  refine ⟨?_, hcollapse.trans collapse_eq_iff, fun trace => ⟨?_, units_ofTrace_eq_empty_iff⟩⟩
  · rw [hcollapse, collapse_eq_destutter, collapse_eq_destutter]
  · intro hne
    exact ⟨_, units_ofTrace hne⟩

/-- A loop that is run three times is the path of a loop that is run once, and the way back is
another path. -/
theorem path_signature_eq_iff_loop :
    let once := ["parse:1", "step:4", "step:9"]
    let looped := ["parse:1", "step:4", "step:4", "step:4", "step:9"]
    let back := ["step:9", "step:4", "parse:1"]
    IsLineByLine once ∧ IsLineByLine looped ∧ IsLineByLine back ∧
      Signature.ofTrace .path once = .ofTrace .path looped ∧
      Signature.ofTrace .path once ≠ .ofTrace .path back := by
  intro once looped back
  have honce : IsLineByLine once := by decide
  have hlooped : IsLineByLine looped := by decide
  have hback : IsLineByLine back := by decide
  have hdigest : digest (pathText once) ≠ digest (pathText back) := by decide +kernel
  obtain ⟨hcollapsed, -, -⟩ := path_signature_eq_iff honce hlooped fun _ => by decide
  obtain ⟨hdestutter, -, -⟩ := path_signature_eq_iff honce hback fun h => absurd h hdigest
  exact ⟨honce, hlooped, hback, hcollapsed.2 (by decide), mt hdestutter.1 (by decide)⟩

end Coverage
end QueryFuzz
