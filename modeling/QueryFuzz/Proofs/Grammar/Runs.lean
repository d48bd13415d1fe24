import QueryFuzz.Grammar.Generator
import QueryFuzz.Proofs.Draw.Yields

/-!
# Runs of expansions

A run of an expansion starts from the rules that were used so far and from a key stream. It is
composed like the expansion, and it lists the nonterminals of which an alternative was chosen, one
for each choice. A rule that is used without a choice is one of a few: those of literals, and the
first alternatives of expressions and predicates where nothing may nest any more. From a state there
is one result at most, the one that the program computes.
-/

namespace QueryFuzz
namespace Grammar

open Draw

/-- The rules that are used without a choice. A second table is no choice where there is none. -/
def Setting.forcedRules (g : Setting) : List String :=
  "expr.column" :: "pred.compare" ::
    (literalRules ++ if 1 < g.tables.length then [] else ["from.single"])

/-- The expansion goes from one state to another with this value, and it chooses an alternative of
each of the nonterminals in turn. -/
inductive Runs (g : Setting) : {α : Type} → Expansion α → NameSet × KeyStream → List Nonterminal →
    α → NameSet × KeyStream → Prop
  | done {α : Type} (a : α) (s : NameSet × KeyStream) : Runs g (pure a) s [] a s
  | draw {α : Type} (p : Sampling α) (used : NameSet) (keys : KeyStream) :
      Runs g (liftM p) (used, keys) [] (p.run keys).value (used, (p.run keys).rest)
  | item {α : Type} {items : List α} {i : ℕ} {a : α} (h : items[i]? = some a)
      (s : NameSet × KeyStream) : Runs g (itemAt items i) s [] a s
  | force {rule : String} (h : rule ∈ g.forcedRules) (used : NameSet) (keys : KeyStream) :
      Runs g (useRule rule) (used, keys) [] () (used.insert rule, keys)
  | choose {nt : Nonterminal} {used : NameSet} {keys : KeyStream} {rule : String}
      (h : (((expand g nt).run used).run.run keys).value = some (rule, used.insert rule)) :
      Runs g (expand g nt) (used, keys) [nt] rule
        (used.insert rule, (((expand g nt).run used).run.run keys).rest)
  | seq {α β : Type} {x : Expansion α} {f : α → Expansion β} {s s' s'' : NameSet × KeyStream}
      {nts more : List Nonterminal} {a : α} {b : β} (hx : Runs g x s nts a s')
      (hf : Runs g (f a) s' more b s'') : Runs g (x >>= f) s (nts ++ more) b s''

variable {g : Setting} {α : Type} {x : Expansion α} {s s' : NameSet × KeyStream}
  {nts : List Nonterminal} {a : α}

/-- An expansion goes on with another one where the first has left off. -/
theorem run_bind_eq {α β : Type} {x : Expansion α} {f : α → Expansion β} {used used' : NameSet}
    {keys : KeyStream} {a : α} (h : ((x.run used).run.run keys).value = some (a, used')) :
    (((x >>= f).run used).run.run keys).value =
        (((f a).run used').run.run ((x.run used).run.run keys).rest).value ∧
      (((x >>= f).run used).run.run keys).rest =
        (((f a).run used').run.run ((x.run used).run.run keys).rest).rest := by
  have hx : (Sampling.run keys (x used)).value = some (a, used') := h
  constructor
  · refine (Sampling.run_bind _ _ _).1.trans ?_
    rw [hx]
    rfl
  · refine (Sampling.run_bind _ _ _).2.trans ?_
    rw [hx]
    rfl

theorem run_lift_eq {α : Type} (p : Sampling α) (used : NameSet) (keys : KeyStream) :
    (((liftM p : Expansion α).run used).run.run keys).value = some ((p.run keys).value, used) ∧
      (((liftM p : Expansion α).run used).run.run keys).rest = (p.run keys).rest := by
  have hvalue : (Sampling.run keys (monadLift p : OptionT Sampling α)).value =
      some (p.run keys).value :=
    (Sampling.run_bind _ _ _).1
  have hrest : (Sampling.run keys (monadLift p : OptionT Sampling α)).rest = (p.run keys).rest :=
    (Sampling.run_bind _ _ _).2
  constructor
  · refine (Sampling.run_bind _ _ _).1.trans ?_
    rw [hvalue]
    rfl
  · refine (Sampling.run_bind _ _ _).2.trans ?_
    rw [hvalue, hrest]
    rfl

/-- A run is what the program does. -/
theorem Runs.run_eq (h : Runs g x s nts a s') :
    ((x.run s.1).run.run s.2).value = some (a, s'.1) ∧ ((x.run s.1).run.run s.2).rest = s'.2 := by
  induction h with
  | done a s => exact ⟨rfl, rfl⟩
  | draw p used keys => exact run_lift_eq p used keys
  | item hitem s =>
    unfold itemAt
    rw [hitem]
    exact ⟨rfl, rfl⟩
  | force hrule used keys => exact ⟨rfl, rfl⟩
  | choose hvalue => exact ⟨hvalue, rfl⟩
  | @seq α β x f s s' s'' nts more a b hx hf ihx ihf =>
    obtain ⟨hvalue, hrest⟩ := run_bind_eq (f := f) ihx.1
    rw [ihx.2] at hvalue hrest
    exact ⟨hvalue.trans ihf.1, hrest.trans ihf.2⟩

end Grammar
end QueryFuzz
