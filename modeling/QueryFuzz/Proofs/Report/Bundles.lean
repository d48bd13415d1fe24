import QueryFuzz.Proofs.Storage.Staging
import QueryFuzz.Report.Sink

/-!
# Bundles are filed whole or not at all

A bundle is put together where nothing was, beside the categories, and moved to a free name in one
step. Whatever fails on the way, what is left of the staging directory is removed, so the tree ends
as it was but for the directories on the way to the category, or with the whole bundle in a place
that was free.
-/

namespace QueryFuzz
namespace Report

open Storage Storage.Disk

namespace BugReport

variable {r : BugReport} {d : Disk} {root place staging : Location}

/-- All files of a bundle with this database. -/
def files (r : BugReport) (database : Node) : List (String × Node) :=
  textNodes r.textFiles ++ [(databaseFile, database)]

/-- Where the bundles of this version and kind are kept. -/
def categoryLocation (r : BugReport) (root : Location) : Location :=
  root ++ [pathComponent r.engineVersion, r.kind.category]

/-! ## Putting a bundle together -/

theorem ends_assemble (hholds : d.tree.Holds place []) :
    Ends (r.assemble place) d fun result t => d.tree.SameOutside t place ∧
      (result = .ok () → ∃ content x, t.Holds place (r.files (.file content x)) ∧
        ((¬ place <+: d.lexical r.snapshot ∧
            d.tree.get? (d.lexical r.snapshot) = some (.file content x)) ∨
          ∃ name, d.lexical r.snapshot = place ++ [name] ∧
            (name, .file content x) ∈ textNodes r.textFiles)) := by
  have hnames : (([] : List (String × Node)).map Prod.fst ++ r.textFiles.map Prod.fst).Nodup := by
    show ["README.md", "original_test.sql", "reduced_test.sql", "version.txt"].Nodup
    decide
  have hdatabase : (textNodes r.textFiles).lookup databaseFile = none := rfl
  unfold assemble
  apply Ends.bind (ends_writeTexts hholds hnames)
  · rintro _ d₁ hdirectory₁ ⟨hsame₁, hholds₁⟩
    replace hholds₁ := hholds₁ rfl
    rw [List.nil_append] at hholds₁
    apply Ends.bind (ends_locate r.snapshot)
    · rintro source d₂ hdirectory₂ ⟨htree₂, hsource⟩
      have hlexical : d.lexical r.snapshot = source := by
        rw [← hsource source rfl, lexical_congr hdirectory₁]
      rw [← htree₂] at hholds₁
      apply (ends_copy_into hholds₁ hdatabase source).mono
      rintro result t ⟨hsame, hadd⟩
      rw [htree₂] at hsame hadd
      refine ⟨hsame₁.trans hsame, fun hok => ?_⟩
      obtain ⟨content, x, hget, hholds⟩ := hadd hok
      refine ⟨content, x, hholds, ?_⟩
      rw [hlexical]
      by_cases hinside : place <+: source
      · obtain ⟨rest, rfl⟩ := hinside
        rw [htree₂] at hholds₁
        rw [hholds₁ rest] at hget
        obtain ⟨name, rfl, htext⟩ := Tree.exists_of_entry hget
        exact .inr ⟨name, rfl, htext⟩
      · rw [hsame₁ source hinside] at hget
        exact .inl ⟨hinside, hget⟩
    · rintro e t ⟨rfl, -⟩
      exact ⟨hsame₁, fun h => by cases h⟩
  · rintro e t ⟨hsame, -⟩
    exact ⟨hsame, fun h => by cases h⟩

/-! ## Moving it into place -/

/-- What a move comes to: one step onto a free name in a directory, or nothing. -/
def Places (r : BugReport) (root staging : Location) (attempts : List ℕ) (t : Tree) :
    Except FilingError BundlePath → Tree → Prop
  | .ok p, t' => (∃ taken ∈ attempts, p = r.bundlePath taken) ∧
      t.get? (p.location root) = none ∧ t.get? (p.location root).dropLast = some .directory ∧
      t' = t.move staging (p.location root)
  | .error _, t' => t' = t

theorem ends_moveIntoPlace (attempts : List ℕ) :
    Ends (r.moveIntoPlace root staging attempts) d (r.Places root staging attempts d.tree) := by
  induction attempts generalizing d with
  | nil => exact ends_throw rfl
  | cons taken later ih =>
    have hlater : ∀ d' : Disk, Ends (r.moveIntoPlace root staging later) d'
        (r.Places root staging (taken :: later) d'.tree) := by
      intro d'
      apply ih.mono
      rintro (e | p) t hplaced
      · exact hplaced
      · obtain ⟨⟨other, hother, hp⟩, hmoved⟩ := hplaced
        exact ⟨⟨other, List.mem_cons_of_mem taken hother, hp⟩, hmoved⟩
    unfold moveIntoPlace
    apply Ends.bind ((ends_current d).adapt FilingError.storage)
    · rintro t d₁ _ ⟨hresult, htree⟩
      obtain rfl := Except.ok.inj hresult
      split_ifs
      · rw [← htree]
        exact hlater d₁
      · apply Ends.bind (ends_rename staging ((r.bundlePath taken).location root)).run
        · rintro result d₂ _ hrename
          rw [htree] at hrename
          rcases result with failure | _
          · have htree₂ : d₂.tree = d.tree := hrename
            rw [← htree₂]
            -- A name that was taken in between is passed over.
            cases failure with
            | occupied => exact hlater d₂
            | _ => exact ends_throw rfl
          · apply ends_pure
            obtain ⟨hfree, hparent, hmove⟩ := hrename
            exact ⟨⟨taken, List.mem_cons_self, rfl⟩, hfree, hparent, hmove⟩
        · intro e t hnever
          exact hnever.elim
    · rintro e t ⟨e', -, hresult, -⟩
      cases hresult

/-! ## Filing -/

/-- A file that can be the database of a bundle: what was at the place of the snapshot. Where
nothing was, it can be one of the texts, if that place is the one of the text in the staging
directory, whose name is not known before. -/
structure IsDatabase (r : BugReport) (root : Location) (d : Disk) (n : Node) : Prop where
  isFile : ∃ content x, n = .file content x
  source : d.tree.get? (d.lexical r.snapshot) = some n ∨
    (d.tree.get? (d.lexical r.snapshot) = none ∧ ∃ name text, (text, n) ∈ textNodes r.textFiles ∧
      d.lexical r.snapshot = root ++ [pathComponent r.engineVersion, ".staging-" ++ name, text])

/-- What filing comes to: a whole bundle where nothing was, or nothing but directories. -/
def Files (r : BugReport) (root : Location) (d : Disk) :
    Except FilingError BundlePath → Tree → Prop
  | .ok p, t' => (∃ taken < maxNames, p = r.bundlePath taken) ∧ ∃ t database,
      d.tree.Grows t (r.categoryLocation root) ∧ r.IsDatabase root d database ∧
        t.Gains t' (p.location root) (r.files database)
  | .error _, t' => d.tree.Grows t' (r.categoryLocation root)

theorem category_ne_staging (name : String) : ".staging-" ++ name ≠ r.kind.category := by
  intro h
  have hhead := congrArg (fun s => s.toList.head?) h
  cases hkind : r.kind <;> simp [hkind, Oracle.VerdictKind.category] at hhead

/-- The staging directory and a bundle lie beside each other. -/
theorem not_prefix_bundlePath (r : BugReport) (root : Location) (name : String) (taken : ℕ) :
    ¬ root ++ [pathComponent r.engineVersion] ++ [".staging-" ++ name] <+:
        (r.bundlePath taken).location root ∧
      ¬ (r.bundlePath taken).location root <+:
        root ++ [pathComponent r.engineVersion] ++ [".staging-" ++ name] := by
  constructor
  · rintro ⟨rest, hrest⟩
    simp only [BundlePath.location, bundlePath, List.append_assoc, List.cons_append,
      List.nil_append, List.append_cancel_left_eq, List.cons.injEq] at hrest
    exact category_ne_staging name hrest.2.1
  · intro hinside
    have hle := hinside.length_le
    simp only [BundlePath.location, List.length_append, List.length_cons, List.length_nil] at hle
    omega

/-- What was read from the place of the snapshot was there before, or is one of the texts. -/
theorem isDatabase_of_source {name : String} {t : Tree} {content : ByteArray} {x : Bool}
    (hgrows : d.tree.Grows t place)
    (hstaging : staging = root ++ [pathComponent r.engineVersion] ++ [".staging-" ++ name])
    (hfree : t.get? staging = none)
    (hsource : t.get? (d.lexical r.snapshot) = some (.file content x) ∨
      ∃ text, d.lexical r.snapshot = staging ++ [text] ∧
        (text, .file content x) ∈ textNodes r.textFiles) :
    r.IsDatabase root d (.file content x) := by
  refine ⟨⟨content, x, rfl⟩, ?_⟩
  rcases hsource with hget | ⟨text, hplace, htext⟩
  · rcases hgrows.added _ _ hget with hbefore | ⟨hdirectory, -⟩
    · exact .inl hbefore
    · cases hdirectory
  · have hnone : t.get? (d.lexical r.snapshot) = none := by
      rw [hplace]
      exact hgrows.rooted.get?_append_of_none hfree [text]
    refine .inr ⟨Tree.get?_eq_none_of_kept (hgrows.kept _) hnone, name, text, htext, ?_⟩
    rw [hplace, hstaging]
    simp

/-- Inside the staging directory, which is removed in the end. -/
theorem ends_inside {name : String} {t : Tree} {d' : Disk}
    (hgrows : d.tree.Grows t (r.categoryLocation root))
    (hstaging : staging = root ++ [pathComponent r.engineVersion] ++ [".staging-" ++ name])
    (hfree : t.get? staging = none) (hdirectory : d'.directory = d.directory)
    (htree : d'.tree = t.set staging .directory) :
    Ends (do
      (r.assemble staging).adapt .storage
      r.moveIntoPlace root staging (List.range maxNames)) d' fun result t' =>
        r.Files root d result (t'.remove staging) := by
  have hholds : d'.tree.Holds staging [] := by
    rw [htree]
    exact Tree.holds_nil_of_set hgrows.rooted hfree
  have hset : t.SameOutside d'.tree staging := by
    rw [htree]
    exact Tree.sameOutside_set hfree _
  have hgone : ∀ t', t.SameOutside t' staging →
      d.tree.Grows (t'.remove staging) (r.categoryLocation root) :=
    fun t' hsame => hgrows.congr (hsame.get?_remove hgrows.rooted hfree)
  apply Ends.bind ((ends_assemble hholds).adapt FilingError.storage)
  · rintro _ d₁ _ ⟨hsame, hbundle⟩
    obtain ⟨content, x, hbundle, hsource⟩ := hbundle rfl
    have hsame₁ := hset.trans hsame
    apply (ends_moveIntoPlace (List.range maxNames)).mono
    rintro (e | p) t' hplaced
    · have ht' : t' = d₁.tree := hplaced
      rw [ht']
      exact hgone _ hsame₁
    · obtain ⟨⟨taken, htaken, rfl⟩, hclear, hparent, rfl⟩ := hplaced
      obtain ⟨hbelow, habove⟩ := not_prefix_bundlePath r root name taken
      rw [← hstaging] at hbelow habove
      have hgains := Tree.Gains.of_move hgrows.rooted hfree hsame₁ hbundle hclear hparent hbelow
        habove
      refine ⟨⟨taken, List.mem_range.1 htaken, rfl⟩, t, .file content x, hgrows, ?_, hgains⟩
      rw [lexical_congr hdirectory] at hsource
      apply isDatabase_of_source hgrows hstaging hfree
      rcases hsource with ⟨hinside, hget⟩ | htext
      · rw [hset _ hinside] at hget
        exact .inl hget
      · exact .inr htext
  · rintro e t' ⟨e', -, hsame, -⟩
    exact hgone t' (hset.trans hsame)

theorem ends_file (root : Location) (hrooted : d.tree.IsRooted) (hbug : r.kind.isBug) :
    Ends (r.file root) d (r.Files root d) := by
  have hcategory : root ++ [pathComponent r.engineVersion] ++ [r.kind.category] =
      r.categoryLocation root := by
    rw [categoryLocation, List.append_assoc]
    rfl
  unfold file
  simp only [hbug, Bool.not_true]
  rw [if_neg (by simp), hcategory]
  apply Ends.bind ((ends_makeDirectories hrooted (r.categoryLocation root)).adapt
    FilingError.storage)
  · rintro _ d₁ hdirectory₁ hgrows
    apply ends_withTemporary
    · intro _
      exact hgrows
    · rintro name staging d₂ hstaging hfree hdirectory htree
      exact ends_inside hgrows hstaging hfree (hdirectory.trans hdirectory₁) htree
  · rintro _ t ⟨_, -, hgrows⟩
    exact hgrows

theorem file_of_not_isBug (hbug : r.kind.isBug = false) :
    r.file root d = (.error (.notABug r.kind), d) := by
  unfold file
  simp only [hbug, Bool.not_false]
  rfl

/-- Whether or not the report is filed, the tree ends with all that it had, and everything in it
stands in a directory. -/
theorem file_keeps (root : Location) (r : BugReport) (hrooted : d.tree.IsRooted) :
    (∀ l n, d.tree.get? l = some n → (r.file root d).2.tree.get? l = some n) ∧
      (r.file root d).2.tree.IsRooted := by
  cases hbug : r.kind.isBug with
  | false =>
    rw [file_of_not_isBug hbug]
    exact ⟨fun _ _ hget => hget, hrooted⟩
  | true =>
    have hfiles := (ends_file root hrooted hbug).holds
    cases hresult : (r.file root d).1 with
    | ok p =>
      rw [hresult] at hfiles
      obtain ⟨-, t, database, hgrows, -, hgains⟩ := hfiles
      exact ⟨fun l n hget => hgrows.kept_of_gains hgains hget, hgains.rooted hgrows.rooted⟩
    | error e =>
      rw [hresult] at hfiles
      have hgrows : d.tree.Grows _ _ := hfiles
      exact ⟨hgrows.kept, hgrows.rooted⟩

/-- A bundle is in place: a whole one, where nothing was. -/
structure IsFiled (r : BugReport) (root : Location) (d : Disk) (p : BundlePath) (t : Tree) :
    Prop where
  name : ∃ taken < maxNames, p = r.bundlePath taken
  category : p.category = r.kind.category
  free : d.tree.get? (p.location root) = none
  bundle : ∃ database, r.IsDatabase root d database ∧ t.Holds (p.location root) (r.files database)
  added : ∀ l n, t.get? l = some n → d.tree.get? l = some n ∨
    (n = .directory ∧ l <+: r.categoryLocation root) ∨ p.location root <+: l

/-- No bundle is in place that was not there before, and new are directories only. -/
structure IsUnfiled (r : BugReport) (root : Location) (d : Disk) (t : Tree) : Prop where
  bundles : ∀ p : BundlePath, t.get? (p.location root) = d.tree.get? (p.location root)
  added : ∀ l n, t.get? l = some n → d.tree.get? l = some n ∨
    (n = .directory ∧ l <+: r.categoryLocation root)

/-- No directory on the way to a category has the place of a bundle. -/
theorem not_location_prefix_category (p : BundlePath) :
    ¬ p.location root <+: r.categoryLocation root := by
  intro hinside
  have hle := hinside.length_le
  simp [BundlePath.location, categoryLocation] at hle

theorem isFiled_of_file {p : BundlePath} (hrooted : d.tree.IsRooted)
    (h : (r.file root d).1 = .ok p) : r.IsFiled root d p (r.file root d).2.tree := by
  cases hbug : r.kind.isBug with
  | false =>
    rw [file_of_not_isBug hbug] at h
    cases h
  | true =>
    have hfiles := (ends_file root hrooted hbug).holds
    rw [h] at hfiles
    obtain ⟨⟨taken, htaken, rfl⟩, t, database, hgrows, hdatabase, hgains⟩ := hfiles
    refine ⟨⟨taken, htaken, rfl⟩, rfl, ?_, ⟨database, hdatabase, hgains.holds⟩, fun l n hget => ?_⟩
    · exact Tree.get?_eq_none_of_kept (hgrows.kept _) hgains.free
    · by_cases hbelow : (r.bundlePath taken).location root <+: l
      · exact .inr (.inr hbelow)
      · rw [hgains.same l hbelow] at hget
        exact (hgrows.added l n hget).imp_right .inl

theorem isUnfiled_of_file {e : FilingError} (hrooted : d.tree.IsRooted)
    (h : (r.file root d).1 = .error e) : r.IsUnfiled root d (r.file root d).2.tree := by
  cases hbug : r.kind.isBug with
  | false =>
    rw [file_of_not_isBug hbug]
    exact ⟨fun _ => rfl, fun _ _ hget => .inl hget⟩
  | true =>
    have hfiles := (ends_file root hrooted hbug).holds
    rw [h] at hfiles
    have hgrows : d.tree.Grows (r.file root d).2.tree (r.categoryLocation root) := hfiles
    refine ⟨fun p => ?_, hgrows.added⟩
    cases hafter : (r.file root d).2.tree.get? (p.location root) with
    | some n =>
      rcases hgrows.added _ n hafter with hbefore | ⟨-, hinside⟩
      · exact hbefore.symm
      · exact absurd hinside (not_location_prefix_category p)
    | none => exact (Tree.get?_eq_none_of_kept (hgrows.kept _) hafter).symm

/-- Beside the category there is nothing new, so the staging directory is gone. -/
theorem get?_file_beside (hrooted : d.tree.IsRooted) {name : String}
    (hname : name ≠ r.kind.category) :
    (r.file root d).2.tree.get? (root ++ [pathComponent r.engineVersion, name]) =
      d.tree.get? (root ++ [pathComponent r.engineVersion, name]) := by
  have hway : ¬ root ++ [pathComponent r.engineVersion, name] <+: r.categoryLocation root := by
    simp [categoryLocation, hname]
  have hbelow (p : BundlePath) :
      ¬ p.location root <+: root ++ [pathComponent r.engineVersion, name] := by
    intro hinside
    have hle := hinside.length_le
    simp [BundlePath.location] at hle
  have hadded : ∀ n,
      (r.file root d).2.tree.get? (root ++ [pathComponent r.engineVersion, name]) = some n →
        d.tree.get? (root ++ [pathComponent r.engineVersion, name]) = some n := by
    intro n hget
    cases hresult : (r.file root d).1 with
    | ok p =>
      rcases (isFiled_of_file hrooted hresult).added _ n hget with hbefore | ⟨-, hinside⟩ | hinside
      · exact hbefore
      · exact absurd hinside hway
      · exact absurd hinside (hbelow p)
    | error e =>
      rcases (isUnfiled_of_file hrooted hresult).added _ n hget with hbefore | ⟨-, hinside⟩
      · exact hbefore
      · exact absurd hinside hway
  exact Option.ext fun n => ⟨hadded n, (file_keeps root r hrooted).1 _ n⟩

/-! ## One report after the other -/

/-- The locations that are returned for reports filed one after the other. -/
def fileAll : List (Location × BugReport) → Disk → List Location
  | [], _ => []
  | (root, r) :: jobs, d =>
    match r.file root d with
    | (.ok p, d') => p.location root :: fileAll jobs d'
    | (.error _, d') => fileAll jobs d'

/-- Nothing was in the places that are returned, and each is returned once. -/
theorem fileAll_spec (jobs : List (Location × BugReport)) (hrooted : d.tree.IsRooted) :
    (∀ l ∈ fileAll jobs d, d.tree.get? l = none) ∧ (fileAll jobs d).Nodup := by
  induction jobs generalizing d with
  | nil => exact ⟨fun _ hl => absurd hl List.not_mem_nil, List.nodup_nil⟩
  | cons job jobs ih =>
    obtain ⟨root, r⟩ := job
    obtain ⟨hkept, hrooted'⟩ := file_keeps root r hrooted
    obtain ⟨hfree, hnodup⟩ := ih hrooted'
    have hfree₀ : ∀ l ∈ fileAll jobs (r.file root d).2, d.tree.get? l = none :=
      fun l hl => Tree.get?_eq_none_of_kept (hkept l) (hfree l hl)
    rw [fileAll]
    split
    · rename_i p d' hrun
      have hfiled := isFiled_of_file hrooted (congrArg Prod.fst hrun)
      rw [hrun] at hfree hnodup hfree₀ hfiled
      obtain ⟨database, -, hholds⟩ := hfiled.bundle
      have hnotMem : p.location root ∉ fileAll jobs d' := by
        intro hmem
        have hdirectory := hholds []
        rw [List.append_nil, hfree _ hmem] at hdirectory
        cases hdirectory
      exact ⟨List.forall_mem_cons.2 ⟨hfiled.free, hfree₀⟩, List.nodup_cons.2 ⟨hnotMem, hnodup⟩⟩
    · rename_i e d' hrun
      rw [hrun] at hnodup hfree₀
      exact ⟨hfree₀, hnodup⟩

/-- Whichever operations fail, a report is filed as a whole bundle where nothing was or not at all,
what was there stays, nothing is left of the staging directory, and no place is returned twice. -/
theorem filing_is_all_or_nothing (hrooted : d.tree.IsRooted) :
    (∀ (root : Location) (r : BugReport),
      (∀ p, (r.file root d).1 = .ok p → r.IsFiled root d p (r.file root d).2.tree) ∧
      (∀ e, (r.file root d).1 = .error e → r.IsUnfiled root d (r.file root d).2.tree) ∧
      (∀ l n, d.tree.get? l = some n → (r.file root d).2.tree.get? l = some n) ∧
      (∀ name, name ≠ r.kind.category →
        (r.file root d).2.tree.get? (root ++ [pathComponent r.engineVersion, name]) =
          d.tree.get? (root ++ [pathComponent r.engineVersion, name])) ∧
      (r.kind = .normal → r.file root d = (.error (.notABug .normal), d))) ∧
    ∀ jobs, (fileAll jobs d).Nodup := by
  refine ⟨fun root r => ⟨fun p => isFiled_of_file hrooted, fun e => isUnfiled_of_file hrooted,
    (file_keeps root r hrooted).1, fun name => get?_file_beside hrooted, fun hnormal => ?_⟩,
    fun jobs => (fileAll_spec jobs hrooted).2⟩
  rw [file_of_not_isBug (by rw [hnormal]; rfl), hnormal]

/-- A query that made one engine hang. -/
def hanging : BugReport where
  kind := .hang
  detail := "No answer"
  found := ⟨"SELECT 1, 2", 0, .empty, .seed, none, [], 7, 0, []⟩
  reduced := ⟨"SELECT 1", 0, .empty, .reduced, none, [], 7, 0, []⟩
  snapshot := "/main.db"
  engineVersion := "new"
  referenceVersion := "old"
  time := ⟨2024, 1, 1, 0, 0, 0, 0⟩
  outcome := ⟨⟨"new", .timedOut, false, true, none, none, "", "", 1000, []⟩, none⟩

/-- A disk with a database. The eleventh operation on it finds its target occupied, and the
nineteenth is cut short after three bytes. -/
def disturbed : Disk where
  tree := ⟨[(["main.db"], .file ⟨#[1, 2]⟩ false)]⟩
  directory := []
  faults := List.replicate 10 none ++ some ⟨.occupied, none⟩ :: List.replicate 7 none ++
    [some ⟨.device, some 3⟩]

/-- The first of three equal reports gets the second name, as the first seems to be taken. The
second is not filed, and the third gets the first name, which is free. -/
theorem filing_is_all_or_nothing_disturbed :
    disturbed.tree.IsRooted ∧
      (hanging.file ["out"] disturbed).1 = .ok (hanging.bundlePath 1) ∧
      hanging.IsFiled ["out"] disturbed (hanging.bundlePath 1)
        (hanging.file ["out"] disturbed).2.tree ∧
      fileAll (List.replicate 3 (["out"], hanging)) disturbed =
        [(hanging.bundlePath 1).location ["out"], (hanging.bundlePath 0).location ["out"]] ∧
      (fileAll (List.replicate 3 (["out"], hanging)) disturbed).Nodup := by
  have hrooted : disturbed.tree.IsRooted := by decide
  have hfile : (hanging.file ["out"] disturbed).1 = .ok (hanging.bundlePath 1) := by
    decide +kernel
  have hreturned : fileAll (List.replicate 3 (["out"], hanging)) disturbed =
      [(hanging.bundlePath 1).location ["out"], (hanging.bundlePath 0).location ["out"]] := by
    decide +kernel
  obtain ⟨hone, hall⟩ := filing_is_all_or_nothing hrooted
  exact ⟨hrooted, hfile, (hone ["out"] hanging).1 _ hfile, hreturned, hall _⟩

end BugReport
end Report
end QueryFuzz
