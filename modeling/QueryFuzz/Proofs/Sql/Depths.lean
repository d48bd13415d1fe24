import QueryFuzz.Proofs.Sql.Templates

/-!
# How deep tokens stand

A part that fits stands as much deeper as the place where it stands. So the depths of a filled
template are those of its fixed texts, and those of the texts in its gaps, each of them at the
depth of its gap.
-/

namespace QueryFuzz
namespace Sql

/-- In front of no token of a part that begins at this depth, more parentheses are open than the
limit. -/
def Shallow (limit depth : ℕ) (ts : List Token) : Prop :=
  ∀ d ∈ depthsFrom depth ts, d ≤ limit

instance (limit depth : ℕ) (ts : List Token) : Decidable (Shallow limit depth ts) :=
  inferInstanceAs (Decidable (∀ d ∈ depthsFrom depth ts, d ≤ limit))

section Parts

variable {limit depth : ℕ} {before : Option Token} {ts us : List Token}

@[simp] theorem shallow_nil : Shallow limit depth [] := by
  simp [Shallow, depthsFrom]

theorem shallow_append : Shallow limit depth (ts ++ us) ↔
    Shallow limit depth ts ∧ Shallow limit (depthBehind depth ts) us := by
  unfold Shallow
  rw [depthsFrom_append]
  exact List.forall_mem_append

theorem Shallow.mono {limit' : ℕ} (h : Shallow limit depth ts) (hle : limit ≤ limit') :
    Shallow limit' depth ts :=
  fun d hd => (h d hd).trans hle

theorem depthsFrom_add (h : fitsFrom depth before ts) (more : ℕ) :
    depthsFrom (depth + more) ts = (depthsFrom depth ts).map (· + more) := by
  induction ts generalizing depth before with
  | nil => rfl
  | cons t ts ih =>
    obtain ⟨-, depth', hdepth, hfits⟩ := fitsFrom_cons.1 h
    have hpast : depthPast depth t = depth' := depthPast_add hdepth 0
    rw [depthsFrom, depthsFrom, depthPast_add hdepth, ih hfits, hpast, List.map_cons]

theorem Shallow.add (h : Shallow limit depth ts) (hfits : fitsFrom depth before ts) (more : ℕ) :
    Shallow (limit + more) (depth + more) ts := by
  intro d hd
  rw [depthsFrom_add hfits] at hd
  obtain ⟨d', hd', rfl⟩ := List.mem_map.1 hd
  exact Nat.add_le_add_right (h d' hd') more

end Parts

/-! ## Filled templates -/

theorem Gap.Fits.fits {gap : Gap} {text : String} (h : gap.Fits text) :
    fitsFrom 0 none (textTokens text) := by
  cases gap with
  | term =>
    obtain ⟨ts, hspells, hterm⟩ := h
    rw [textTokens_eq hspells]
    exact hterm.fits
  | list =>
    obtain ⟨n, ts, hspells, hlist, -⟩ := h
    rw [textTokens_eq hspells]
    exact hlist.fits
  | name =>
    obtain ⟨t, hspells, hname⟩ := h
    have hgap : IsTerm [nameGap] := by decide
    rw [textTokens_eq hspells]
    exact (hgap.filled (.name hname .nil)).fits

/-- The depths at which the gaps of a template stand. -/
def gapDepths (depth : ℕ) (first : String) : List (Gap × String) → List ℕ
  | [] => []
  | (_, next) :: gaps =>
    depthBehind depth (textTokens first) ::
      gapDepths (depthBehind depth (textTokens first)) next gaps

/-- The depths of the tokens of its fixed texts. -/
def fixedDepths (depth : ℕ) (first : String) : List (Gap × String) → List ℕ
  | [] => depthsFrom depth (textTokens first)
  | (_, next) :: gaps =>
    depthsFrom depth (textTokens first) ++
      fixedDepths (depthBehind depth (textTokens first)) next gaps

theorem shallow_woven {limit depth : ℕ} {first : String} {gaps : List (Gap × String)}
    {texts : List String} (hfill : Fill gaps texts)
    (hfixed : ∀ d ∈ fixedDepths depth first gaps, d ≤ limit)
    (hgaps : List.Forall₂ (fun d text => Shallow limit d (textTokens text))
      (gapDepths depth first gaps) texts) : Shallow limit depth (woven first gaps texts) := by
  induction hfill generalizing first depth with
  | nil => exact hfixed
  | @cons gap text gaps texts hfits hfill ih =>
    rw [fixedDepths] at hfixed
    rw [gapDepths] at hgaps
    obtain ⟨hfirst, hrest⟩ := List.forall_mem_append.1 hfixed
    obtain ⟨htext, hgaps⟩ := List.forall₂_cons.1 hgaps
    have hclosed : depthBehind (depthBehind depth (textTokens first)) (textTokens text) =
        depthBehind depth (textTokens first) := by
      simpa using depthBehind_of_fitsFrom hfits.fits (depthBehind depth (textTokens first))
    rw [woven_cons, shallow_append, shallow_append, hclosed]
    exact ⟨hfirst, htext, ih hrest hgaps⟩

end Sql
end QueryFuzz
