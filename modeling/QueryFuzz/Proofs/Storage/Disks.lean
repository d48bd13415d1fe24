import QueryFuzz.Proofs.Storage.Trees

/-!
# What an action on a disk comes to

An action has a result and leaves a tree, whichever of its operations fail. Each operation is told
by a condition on both, and the conditions are put together along the program.
-/

namespace QueryFuzz
namespace Storage

/-! ## Growing trees -/

/-- The tree has all that it had before, and new in it are only directories on the way to the
place. -/
structure Tree.Grows (t t' : Tree) (place : Location) : Prop where
  kept : ∀ l n, t.get? l = some n → t'.get? l = some n
  added : ∀ l n, t'.get? l = some n → t.get? l = some n ∨ (n = .directory ∧ l <+: place)
  rooted : t'.IsRooted

namespace Tree

variable {t t' t'' : Tree} {l place : Location}

theorem Grows.refl (h : t.IsRooted) (place : Location) : Grows t t place :=
  ⟨fun _ _ hget => hget, fun _ _ hget => .inl hget, h⟩

theorem Grows.congr (h : Grows t t' place) (hsame : ∀ l, t''.get? l = t'.get? l) :
    Grows t t'' place := by
  refine ⟨fun l n hget => ?_, fun l n hget => ?_, h.rooted.congr hsame⟩
  · rw [hsame]
    exact h.kept l n hget
  · rw [hsame] at hget
    exact h.added l n hget

theorem Grows.set (h : Grows t t' place) (hl : l <+: place) (hfree : t'.get? l = none)
    (hparent : t'.get? l.dropLast = some .directory) : Grows t (t'.set l .directory) place := by
  have hne := ne_nil_of_get?_eq_none hfree
  constructor
  · intro m n hget
    rw [get?_set hne]
    split_ifs with hm
    · have hkept := h.kept m n hget
      rw [hm, hfree] at hkept
      cases hkept
    · exact h.kept m n hget
  · intro m n hget
    rw [get?_set hne] at hget
    split_ifs at hget with hm
    · subst hm
      exact .inr ⟨(Option.some.inj hget).symm, hl⟩
    · exact h.added m n hget
  · intro m name n hget
    rw [get?_set hne] at hget ⊢
    split_ifs at hget with hm
    · have hfront : l.dropLast = m := by rw [← hm, List.dropLast_concat]
      split_ifs
      · rfl
      · rwa [hfront] at hparent
    · have hm' := h.rooted m name n hget
      split_ifs
      · rfl
      · exact hm'

end Tree

namespace Disk

/-! ## Putting actions together -/

section Rules

variable {ε ε' α β : Type} {d : Disk} {x : ExceptT ε (StateM Disk) α}
  {P Q : Except ε α → Tree → Prop}

/-- Whatever the action comes to, its result and the tree that it leaves satisfy the condition, and
relative paths still start where they did. -/
structure Ends (x : ExceptT ε (StateM Disk) α) (d : Disk) (Q : Except ε α → Tree → Prop) :
    Prop where
  directory : (x d).2.directory = d.directory
  holds : Q (x d).1 (x d).2.tree

theorem Ends.mono (h : Ends x d P) (himp : ∀ result t, P result t → Q result t) : Ends x d Q :=
  ⟨h.directory, himp _ _ h.holds⟩

theorem ends_pure {a : α} (h : Q (.ok a) d.tree) : Ends (pure a) d Q :=
  ⟨rfl, h⟩

theorem ends_throw {e : ε} (h : Q (.error e) d.tree) : Ends (throw e) d Q :=
  ⟨rfl, h⟩

theorem Ends.bind {f : α → ExceptT ε (StateM Disk) β} {Q : Except ε β → Tree → Prop}
    (h : Ends x d P)
    (hok : ∀ a d', d'.directory = d.directory → P (.ok a) d'.tree → Ends (f a) d' Q)
    (herror : ∀ e t, P (.error e) t → Q (.error e) t) : Ends (x >>= f) d Q := by
  have hbind : (x >>= f) d = ExceptT.bindCont f (x d).1 (x d).2 := rfl
  obtain ⟨hdirectory, hholds⟩ := h
  cases hx : x d with
  | mk result d' =>
    rw [hx] at hdirectory hholds hbind
    cases result with
    | ok a =>
      have hnext := hok a d' hdirectory hholds
      exact ⟨hbind ▸ hnext.directory.trans hdirectory, hbind ▸ hnext.holds⟩
    | error e => exact ⟨hbind ▸ hdirectory, hbind ▸ herror e _ hholds⟩

theorem Ends.adapt (g : ε → ε') (h : Ends x d P) :
    Ends (x.adapt g) d fun result t => match result with
      | .ok a => P (.ok a) t
      | .error e => ∃ e', e = g e' ∧ P (.error e') t := by
  have hrun : x.adapt g d = ((x d).1.mapError g, (x d).2) := rfl
  refine ⟨by rw [hrun]; exact h.directory, ?_⟩
  have hholds := h.holds
  rw [hrun]
  generalize (x d).1 = result at hholds ⊢
  cases result with
  | ok a => exact hholds
  | error e => exact ⟨e, rfl, hholds⟩

/-- An action whose failure is looked at does not fail itself. -/
theorem Ends.run (h : Ends x d P) :
    Ends (liftM x.run : ExceptT ε' (StateM Disk) (Except ε α)) d fun result t => match result with
      | .ok inner => P inner t
      | .error _ => False :=
  ⟨h.directory, h.holds⟩

/-- A loop keeps what each of its steps keeps. -/
theorem ends_forM {xs : List α} {f : α → ExceptT ε (StateM Disk) PUnit} {I : Tree → Prop}
    (hstep : ∀ a ∈ xs, ∀ d', I d'.tree → Ends (f a) d' fun _ t => I t) (h : I d.tree) :
    Ends (xs.forM f) d fun _ t => I t := by
  induction xs generalizing d with
  | nil => exact ends_pure h
  | cons a xs ih =>
    obtain ⟨hfirst, hstep⟩ := List.forall_mem_cons.1 hstep
    apply Ends.bind (hfirst d h)
    · intro _ d' _ hd'
      exact ih hstep hd'
    · intro _ _ ht
      exact ht

theorem ends_attemptPartly {Q : Except Failure α → Tree → Prop} {remains : Fault → Tree → Tree}
    {operation : Tree → Except Failure (α × Tree)}
    (hfault : ∀ fault, Q (.error fault.failure) (remains fault d.tree))
    (hok : ∀ a t, operation d.tree = .ok (a, t) → Q (.ok a) t)
    (herror : ∀ e, operation d.tree = .error e → Q (.error e) d.tree) :
    Ends (attemptPartly remains operation) d Q := by
  have hends : (attemptPartly remains operation d).2.directory = d.directory ∧
      Q (attemptPartly remains operation d).1 (attemptPartly remains operation d).2.tree := by
    unfold attemptPartly
    split
    · rename_i fault later hfaults
      exact ⟨rfl, hfault fault⟩
    · split
      · rename_i a t hoperation
        exact ⟨rfl, hok a t hoperation⟩
      · rename_i e hoperation
        exact ⟨rfl, herror e hoperation⟩
  exact ⟨hends.1, hends.2⟩

/-- An operation that fails without effect. -/
theorem ends_attempt {Q : Except Failure α → Tree → Prop}
    {operation : Tree → Except Failure (α × Tree)}
    (hok : ∀ a t, operation d.tree = .ok (a, t) → Q (.ok a) t)
    (herror : ∀ e, Q (.error e) d.tree) : Ends (attempt operation) d Q :=
  ends_attemptPartly (fun fault => herror fault.failure) hok fun e _ => herror e

end Rules

/-! ## Operations -/

section Operations

variable {d : Disk}

theorem ends_current (d : Disk) :
    Ends current d fun result t => result = .ok d.tree ∧ t = d.tree :=
  ⟨rfl, rfl, rfl⟩

theorem ends_makeDirectory (l : Location) :
    Ends (makeDirectory l) d fun _ t => t = d.tree ∨ (d.tree.get? l = none ∧
      d.tree.get? l.dropLast = some .directory ∧ t = d.tree.set l .directory) := by
  apply ends_attempt
  · intro _ t hoperation
    split at hoperation
    · left
      obtain ⟨-, rfl⟩ := Prod.mk.inj (Except.ok.inj hoperation)
      rfl
    · cases hoperation
    · rename_i hfree
      split_ifs at hoperation with hparent
      right
      refine ⟨hfree, Tree.isDirectory_iff.1 (by simpa using hparent), ?_⟩
      cases hnames : checkNames l with
      | error e => simp [hnames, Except.map] at hoperation
      | ok u =>
        rw [hnames] at hoperation
        obtain ⟨-, rfl⟩ := Prod.mk.inj (Except.ok.inj hoperation)
        rfl
  · intro _
    exact .inl rfl

/-- Making directories adds nothing but them, however far it gets. -/
theorem ends_makeDirectories (hrooted : d.tree.IsRooted) (place : Location) :
    Ends (makeDirectories place) d fun _ t => d.tree.Grows t place := by
  apply ends_forM
  · intro i _ d' hgrows
    apply (ends_makeDirectory (place.take (i + 1))).mono
    rintro _ t (rfl | ⟨hfree, hparent, rfl⟩)
    · exact hgrows
    · exact hgrows.set (List.take_prefix _ place) hfree hparent
  · exact .refl hrooted place

/-- A write changes one location at most, and what it puts where nothing was is the file. -/
theorem written_spec {t t' : Tree} {l : Location} {content : ByteArray} {executable : Bool}
    (h : written t l content executable = .ok t') :
    (∀ m, m ≠ l → t'.get? m = t.get? m) ∧
      (t.get? l = none → t'.get? l = some (.file content executable)) := by
  have hset : ∀ n, l ≠ [] → (∀ m, m ≠ l → (t.set l n).get? m = t.get? m) ∧
      (t.set l n).get? l = some n := by
    intro n hl
    refine ⟨fun m hm => ?_, ?_⟩
    · rw [Tree.get?_set hl, if_neg hm]
    · rw [Tree.get?_set hl, if_pos rfl]
  unfold written at h
  split at h
  · cases h
  · rename_i x hget
    obtain rfl := Except.ok.inj h
    refine ⟨(hset _ (Tree.ne_nil_of_get?_ne (t := t) (by simp [hget]))).1, fun hnone => ?_⟩
    rw [hget] at hnone
    cases hnone
  · rename_i hget
    split_ifs at h
    obtain rfl := Except.ok.inj h
    have hl := Tree.ne_nil_of_get?_eq_none hget
    exact ⟨(hset _ hl).1, fun _ => (hset _ hl).2⟩

theorem ends_write (l : Location) (content : ByteArray) (executable : Bool) :
    Ends (write l content executable) d fun result t =>
      (∀ m, m ≠ l → t.get? m = d.tree.get? m) ∧ (result = .ok () → d.tree.get? l = none →
        t.get? l = some (.file content executable)) := by
  apply ends_attemptPartly
  · intro fault
    refine ⟨fun m hm => ?_, fun h => by cases h⟩
    cases fault.written with
    | none => rfl
    | some n =>
      dsimp only
      cases hwritten : written d.tree l (content.extract 0 n) executable with
      | error e => rfl
      | ok t => exact (written_spec hwritten).1 m hm
  · intro _ t hoperation
    cases hwritten : written d.tree l content executable with
    | error e => simp [hwritten, Except.map] at hoperation
    | ok t' =>
      rw [hwritten] at hoperation
      obtain ⟨-, rfl⟩ := Prod.mk.inj (Except.ok.inj hoperation)
      exact ⟨(written_spec hwritten).1, fun _ => (written_spec hwritten).2⟩
  · intro _ _
    exact ⟨fun _ _ => rfl, fun h => by cases h⟩

theorem ends_read (l : Location) :
    Ends (read l) d fun result t => t = d.tree ∧
      ∀ content x, result = .ok (content, x) → d.tree.get? l = some (.file content x) := by
  apply ends_attempt
  · intro found t hoperation
    split at hoperation
    · rename_i content x hget
      obtain ⟨rfl, rfl⟩ := Prod.mk.inj (Except.ok.inj hoperation)
      refine ⟨rfl, fun content' x' heq => ?_⟩
      obtain ⟨rfl, rfl⟩ := Prod.mk.inj (Except.ok.inj heq)
      exact hget
    · cases hoperation
    · cases hoperation
  · intro _
    exact ⟨rfl, fun _ _ h => by cases h⟩

theorem step_eq_ok {t : Tree} {l l' : Location} {piece : String} (h : step t l piece = .ok l') :
    (if piece = "" ∨ piece = "." then l
      else if piece = ".." then l.dropLast
      else l ++ [piece]) = l' := by
  unfold step at h
  split at h
  · split_ifs at h ⊢
    · exact Except.ok.inj h
    · exact Except.ok.inj h
    · cases hnames : checkNames [piece] with
      | error e => simp [hnames, Except.map] at h
      | ok u =>
        rw [hnames] at h
        exact Except.ok.inj h
  · cases h
  · cases h

/-- A path whose directories are all there leads to where it says. -/
theorem lexical_of_resolve {path : String} {l : Location} (h : d.resolve path = .ok l) :
    d.lexical path = l := by
  have hsteps : (pieces path).foldlM (step d.tree) (if isAbsolute path then [] else d.directory) =
      .ok l := by
    unfold resolve at h
    split at h
    · cases h
    split at h
    · cases h
    split at h
    · cases h
    exact h
  unfold lexical
  generalize (if isAbsolute path then [] else d.directory) = start at hsteps ⊢
  generalize pieces path = ps at hsteps ⊢
  induction ps generalizing start with
  | nil => exact Except.ok.inj hsteps
  | cons piece ps ih =>
    rw [List.foldlM_cons] at hsteps
    cases hstep : step d.tree start piece with
    | error e =>
      rw [hstep] at hsteps
      cases hsteps
    | ok next =>
      rw [hstep] at hsteps
      rw [List.foldl_cons, step_eq_ok hstep]
      exact ih next hsteps

theorem lexical_congr {d' : Disk} (h : d'.directory = d.directory) (path : String) :
    d'.lexical path = d.lexical path := by
  rw [lexical, lexical, h]

theorem ends_locate (path : String) :
    Ends (locate path) d fun result t => t = d.tree ∧ ∀ l, result = .ok l → d.lexical path = l :=
  ⟨rfl, rfl, fun _ h => lexical_of_resolve h⟩

/-- Moving succeeds only onto a free name, and then it does so in one step. -/
theorem ends_rename (source target : Location) :
    Ends (rename source target) d fun result t => match result with
      | .ok () => d.tree.get? target = none ∧ d.tree.get? target.dropLast = some .directory ∧
        t = d.tree.move source target
      | .error _ => t = d.tree := by
  apply ends_attempt
  · intro _ t hoperation
    split_ifs at hoperation with hsource htarget hparent
    cases hnames : checkNames target with
    | error e => simp [hnames, Except.map] at hoperation
    | ok u =>
      rw [hnames] at hoperation
      obtain ⟨-, rfl⟩ := Prod.mk.inj (Except.ok.inj hoperation)
      exact ⟨by simpa using htarget, Tree.isDirectory_iff.1 (by simpa using hparent), rfl⟩
  · intro _
    rfl

theorem ends_makeTemporary (parent : Location) (start : String) :
    Ends (makeTemporary parent start) d fun result t => match result with
      | .ok l => ∃ name, l = parent ++ [start ++ name] ∧ d.tree.get? l = none ∧
        t = d.tree.set l .directory
      | .error _ => t = d.tree := by
  apply ends_attempt
  · intro l t hoperation
    split_ifs at hoperation
    obtain ⟨rfl, rfl⟩ := Prod.mk.inj (Except.ok.inj hoperation)
    refine ⟨_, rfl, ?_, rfl⟩
    have hfresh := freshName_notMem start (d.tree.names parent)
    rw [Tree.mem_names_iff] at hfresh
    simpa using hfresh
  · intro _
    rfl

/-- An action in a temporary directory ends without it. -/
theorem ends_withTemporary {ε α : Type} {parent : Location} {start : String}
    {onFailure : Failure → ε} {action : Location → ExceptT ε (StateM Disk) α}
    {Q : Except ε α → Tree → Prop} (hmake : ∀ e, Q (.error (onFailure e)) d.tree)
    (haction : ∀ name l d', l = parent ++ [start ++ name] → d.tree.get? l = none →
      d'.directory = d.directory → d'.tree = d.tree.set l .directory →
      Ends (action l) d' fun result t => Q result (t.remove l)) :
    Ends (withTemporary parent start onFailure action) d Q := by
  obtain ⟨hdirectory, hmade⟩ := ends_makeTemporary (d := d) parent start
  cases hrun : makeTemporary parent start d with
  | mk result d' =>
    rw [hrun] at hdirectory hmade
    cases result with
    | error e =>
      have hwhole : withTemporary parent start onFailure action d = (.error (onFailure e), d') := by
        rw [withTemporary, hrun]
      have htree : d'.tree = d.tree := hmade
      exact ⟨by rw [hwhole]; exact hdirectory, by rw [hwhole, htree]; exact hmake e⟩
    | ok l =>
      obtain ⟨name, hl, hfree, htree⟩ := hmade
      have hwhole : withTemporary parent start onFailure action d =
          ((action l d').1, { (action l d').2 with tree := (action l d').2.tree.remove l }) := by
        rw [withTemporary, hrun]
        rfl
      have hends := haction name l d' hl hfree hdirectory htree
      exact ⟨by rw [hwhole]; exact hends.directory.trans hdirectory,
        by rw [hwhole]; exact hends.holds⟩

end Operations

end Disk
end Storage
end QueryFuzz
