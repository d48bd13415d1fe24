import QueryFuzz.Proofs.Storage.Disks

/-!
# Directories put together in one place and moved to another

Files are written into a directory where nothing was, one after the other. What is outside of that
directory stays as it was, so once the directory has moved to its target, or was removed, there is
nothing in the tree that was not there before but the target with all its files.
-/

namespace QueryFuzz
namespace Storage

/-! ## Directories and what is outside of them -/

/-- What is in a directory that holds these files and nothing else, by the names from there on. -/
def Tree.entry (files : List (String × Node)) : Location → Option Node
  | [] => some .directory
  | [name] => files.lookup name
  | _ => none

/-- At the location there is a directory that holds these files and nothing else. -/
def Tree.Holds (t : Tree) (place : Location) (files : List (String × Node)) : Prop :=
  ∀ rest, t.get? (place ++ rest) = Tree.entry files rest

/-- Two trees are the same but for what is at the location and below it. -/
def Tree.SameOutside (t t' : Tree) (place : Location) : Prop :=
  ∀ l, ¬ place <+: l → t'.get? l = t.get? l

namespace Tree

variable {t t' t'' : Tree} {place : Location}

theorem exists_of_entry {files : List (String × Node)} {rest : Location} {content : ByteArray}
    {x : Bool} (h : entry files rest = some (.file content x)) :
    ∃ name, rest = [name] ∧ (name, .file content x) ∈ files := by
  rcases rest with _ | ⟨name, _ | ⟨next, rest⟩⟩
  · cases h
  · obtain ⟨before, after, rfl, -⟩ := List.lookup_eq_some_iff.1 h
    exact ⟨name, rfl, by simp⟩
  · cases h

theorem SameOutside.refl (t : Tree) (place : Location) : SameOutside t t place :=
  fun _ _ => rfl

theorem SameOutside.trans (h : SameOutside t t' place) (h' : SameOutside t' t'' place) :
    SameOutside t t'' place :=
  fun l hl => (h' l hl).trans (h l hl)

theorem SameOutside.of_single {name : String}
    (h : ∀ m, m ≠ place ++ [name] → t'.get? m = t.get? m) : SameOutside t t' place := by
  intro m hm
  apply h
  rintro rfl
  exact hm (List.prefix_append place [name])

/-- A directory with one more file. -/
theorem Holds.add {files : List (String × Node)} {name : String} {n : Node}
    (h : t.Holds place files) (hname : files.lookup name = none)
    (hsame : ∀ m, m ≠ place ++ [name] → t'.get? m = t.get? m)
    (hnew : t'.get? (place ++ [name]) = some n) : t'.Holds place (files ++ [(name, n)]) := by
  intro rest
  by_cases hrest : rest = [name]
  · rw [hrest, hnew, entry, List.lookup_append, hname]
    simp
  · rw [hsame, h rest]
    · rcases rest with _ | ⟨other, _ | ⟨next, rest⟩⟩
      · rfl
      · have hne : other ≠ name := fun heq => hrest (by rw [heq])
        rw [entry, entry, List.lookup_append, List.lookup_cons, beq_false_of_ne hne]
        simp
      · rfl
    · intro heq
      exact hrest (List.append_cancel_left heq)

end Tree

namespace Disk

/-! ## Writing into a directory -/

section Files

variable {d : Disk} {place : Location} {files : List (String × Node)}

theorem ends_write_into {name : String} (hholds : d.tree.Holds place files)
    (hname : files.lookup name = none) (content : ByteArray) (executable : Bool) :
    Ends (write (place ++ [name]) content executable) d fun result t =>
      d.tree.SameOutside t place ∧
        (result = .ok () → t.Holds place (files ++ [(name, .file content executable)])) := by
  apply (ends_write (place ++ [name]) content executable).mono
  rintro result t ⟨hsame, hnew⟩
  refine ⟨.of_single hsame, fun hok => ?_⟩
  have hfree : d.tree.get? (place ++ [name]) = none := by
    rw [hholds [name], Tree.entry, hname]
  exact hholds.add hname hsame (hnew hok hfree)

theorem ends_copy_into {name : String} (hholds : d.tree.Holds place files)
    (hname : files.lookup name = none) (source : Location) :
    Ends (copy source (place ++ [name])) d fun result t =>
      d.tree.SameOutside t place ∧ (result = .ok () → ∃ content x,
        d.tree.get? source = some (.file content x) ∧
          t.Holds place (files ++ [(name, .file content x)])) := by
  apply Ends.bind (ends_read source)
  · rintro ⟨content, x⟩ d' _ ⟨htree, hcontent⟩
    rw [← htree] at hholds ⊢
    apply (ends_write_into hholds hname content x).mono
    rintro result t ⟨hsame, hadd⟩
    refine ⟨hsame, fun hok => ⟨content, x, ?_, hadd hok⟩⟩
    rw [htree]
    exact hcontent content x rfl
  · rintro e t ⟨rfl, -⟩
    exact ⟨.refl _ _, fun h => by cases h⟩

/-- Text files as they are on a disk. -/
def textNodes (texts : List (String × String)) : List (String × Node) :=
  texts.map fun (name, content) => (name, .file content.toUTF8 false)

theorem ends_writeTexts {texts : List (String × String)} (hholds : d.tree.Holds place files)
    (hnames : (files.map Prod.fst ++ texts.map Prod.fst).Nodup) :
    Ends (texts.forM fun (name, content) => writeText (place ++ [name]) content) d
      fun result t => d.tree.SameOutside t place ∧
        (result = .ok () → t.Holds place (files ++ textNodes texts)) := by
  induction texts generalizing d files with
  | nil =>
    apply ends_pure
    refine ⟨.refl _ _, fun _ => ?_⟩
    rw [textNodes, List.map_nil, List.append_nil]
    exact hholds
  | cons text texts ih =>
    obtain ⟨name, content⟩ := text
    have hname : files.lookup name = none := by
      have hfirst := (List.nodup_append.1 hnames).2.2
      rw [List.lookup_eq_none_iff]
      rintro ⟨other, n⟩ hmem
      rw [bne_iff_ne, ne_comm]
      exact hfirst other (List.mem_map_of_mem hmem) name List.mem_cons_self
    apply Ends.bind (ends_write_into hholds hname content.toUTF8 false)
    · rintro _ d' _ ⟨hsame, hadd⟩
      have hmore := ih (hadd rfl) (by simpa using hnames)
      apply hmore.mono
      rintro result t ⟨hsame', hadd'⟩
      refine ⟨hsame.trans hsame', fun hok => ?_⟩
      simpa [textNodes] using hadd' hok
    · rintro e t ⟨hsame, -⟩
      exact ⟨hsame, fun h => by cases h⟩

end Files

end Disk

/-! ## A directory moved to its place -/

namespace Tree

variable {t t' : Tree} {staging target : Location} {files : List (String × Node)}

theorem holds_nil_of_set (hrooted : t.IsRooted) (hfree : t.get? staging = none) :
    (t.set staging .directory).Holds staging [] := by
  have hne := ne_nil_of_get?_eq_none hfree
  intro rest
  rw [get?_set hne]
  rcases rest with _ | ⟨name, rest⟩
  · simp [entry]
  · rw [if_neg (by simp), hrooted.get?_append_of_none hfree]
    cases rest <;> rfl

theorem sameOutside_set (hfree : t.get? staging = none) (n : Node) :
    t.SameOutside (t.set staging n) staging := by
  have hne := ne_nil_of_get?_eq_none hfree
  intro l hl
  rw [get?_set hne, if_neg]
  rintro rfl
  exact hl (List.prefix_refl l)

/-- Without the staging directory the tree is as it was. -/
theorem SameOutside.get?_remove (h : t.SameOutside t' staging) (hrooted : t.IsRooted)
    (hfree : t.get? staging = none) (l : Location) :
    (t'.remove staging).get? l = t.get? l := by
  have hne := ne_nil_of_get?_eq_none hfree
  rw [Tree.get?_remove hne]
  split_ifs with hinside
  · obtain ⟨rest, rfl⟩ := hinside
    rw [hrooted.get?_append_of_none hfree]
  · exact h l hinside

/-- The tree has a directory with these files where nothing was, and is the same elsewhere. -/
structure Gains (t t' : Tree) (place : Location) (files : List (String × Node)) : Prop where
  free : t.get? place = none
  parent : t.get? place.dropLast = some .directory
  holds : t'.Holds place files
  same : t.SameOutside t' place

/-- Once the staging directory has moved, all that was in it is at the target. -/
theorem Gains.of_move (hrooted : t.IsRooted) (hstaging : t.get? staging = none)
    (hsame : t.SameOutside t' staging) (hholds : t'.Holds staging files)
    (hfree : t'.get? target = none) (hparent : t'.get? target.dropLast = some .directory)
    (hbelow : ¬ staging <+: target) (habove : ¬ target <+: staging) :
    Gains t ((t'.move staging target).remove staging) target files := by
  have hne := ne_nil_of_get?_eq_none hstaging
  have hne' := ne_nil_of_get?_eq_none hfree
  have hfront : ¬ staging <+: target.dropLast :=
    fun h => hbelow (h.trans (List.dropLast_prefix target))
  have hapart : ∀ rest, ¬ staging <+: target ++ rest := by
    intro rest hinside
    exact (List.prefix_or_prefix_of_prefix hinside (List.prefix_append target rest)).elim hbelow
      habove
  have hclear : t.get? target = none := by rwa [← hsame target hbelow]
  have hmove := get?_move hne hne' fun rest => by
    rw [hsame _ (hapart rest)]
    exact hrooted.get?_append_of_none hclear rest
  constructor
  · exact hclear
  · rwa [← hsame _ hfront]
  · intro rest
    rw [Tree.get?_remove hne, if_neg (hapart rest), hmove, if_pos (List.prefix_append target rest),
      List.drop_left]
    exact hholds rest
  · intro l hl
    rw [Tree.get?_remove hne, hmove, if_neg hl]
    split_ifs with hinside
    · obtain ⟨rest, rfl⟩ := hinside
      rw [hrooted.get?_append_of_none hstaging]
    · exact hsame l hinside

/-- A tree that had grown and then gained a directory has all that it had. -/
theorem Grows.kept_of_gains {t₀ : Tree} {place : Location} (h : t₀.Grows t place)
    (hgains : t.Gains t' target files) {l : Location} {n : Node} (hget : t₀.get? l = some n) :
    t'.get? l = some n := by
  have hkept := h.kept l n hget
  rw [hgains.same l, hkept]
  rintro ⟨rest, rfl⟩
  rw [h.rooted.get?_append_of_none hgains.free] at hkept
  cases hkept

theorem Gains.rooted (h : t.Gains t' target files) (hrooted : t.IsRooted) : t'.IsRooted := by
  intro l name n hget
  by_cases hl : target <+: l
  · obtain ⟨rest, rfl⟩ := hl
    rw [List.append_assoc, h.holds] at hget
    rcases rest with _ | ⟨other, rest⟩
    · exact h.holds []
    · rcases rest with _ | ⟨next, rest⟩ <;> cases hget
  · rw [h.same l hl]
    by_cases hname : target <+: l ++ [name]
    · have heq : target = l ++ [name] := (List.prefix_concat_iff.1 hname).resolve_right hl
      have hparent := h.parent
      rwa [heq, List.dropLast_concat] at hparent
    · rw [h.same _ hname] at hget
      exact hrooted l name n hget

end Tree
end Storage
end QueryFuzz
