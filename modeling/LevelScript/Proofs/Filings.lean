import LevelScript.Proofs.Folders

/-!
What filing changes.

Work on a tree may fail, and what was done before stays.  So it is said of every run, whether it fails
or not, which addresses it can change.  Making a directory makes that one, and those on the way to it
only if something is missing there; a file is written where its path leads.
-/

namespace LevelScript

open FilePath (IsName)

/-! ### Paths -/

namespace FilePath

variable {absolute : Bool} {parts : List String} {name : String} {path : FilePath}

/-- The path of what has a name in the directory at a path. -/
def child (path : FilePath) (name : String) : FilePath :=
  ⟨path.absolute, path.parts ++ [name]⟩

theorem dropIdle_isPrefix (parts : List String) : dropIdle parts <+: parts := by
  have hsuffix := List.dropWhile_suffix (l := parts.reverse) isIdle
  rw [dropIdle, ← List.reverse_suffix, List.reverse_reverse]
  exact hsuffix

theorem dropIdle_dropIdle (parts : List String) : dropIdle (dropIdle parts) = dropIdle parts := by
  induction parts using List.reverseRecOn with
  | nil => rfl
  | append_singleton parts part ih =>
      rw [dropIdle_concat]
      cases hidle : isIdle part with
      | true => exact ih
      | false =>
          rw [if_neg Bool.false_ne_true, dropIdle_concat, hidle]
          rfl

theorem trimmed_isPrefix (path : FilePath) : path.trimmed.parts <+: path.parts := by
  unfold trimmed
  split
  · next rest => exact (List.prefix_cons_inj ".").mpr (dropIdle_isPrefix rest)
  · next parts _ => exact dropIdle_isPrefix parts

/-- Only a point at the front is kept for its own sake. -/
theorem trimmed_of_ne_point (h : ∀ rest, FilePath.mk absolute parts ≠ ⟨false, "." :: rest⟩) :
    trimmed ⟨absolute, parts⟩ = ⟨absolute, dropIdle parts⟩ := by
  unfold trimmed
  split
  · next rest hpath => exact absurd hpath (h rest)
  · next hpath =>
    obtain ⟨rfl, rfl⟩ := FilePath.mk.inj hpath
    rfl

theorem trimmed_trimmed (path : FilePath) : path.trimmed.trimmed = path.trimmed := by
  obtain ⟨absolute, parts⟩ := path
  by_cases hpoint : ∃ rest, FilePath.mk absolute parts = ⟨false, "." :: rest⟩
  · obtain ⟨rest, hpath⟩ := hpoint
    rw [hpath, trimmed, trimmed, dropIdle_dropIdle]
  · rw [not_exists] at hpoint
    have hfree : ∀ rest, FilePath.mk absolute (dropIdle parts) ≠ ⟨false, "." :: rest⟩ := by
      intro rest hpath
      obtain ⟨rfl, hparts⟩ := FilePath.mk.inj hpath
      obtain ⟨more, hmore⟩ := dropIdle_isPrefix parts
      rw [hparts, List.cons_append] at hmore
      exact hpoint (rest ++ more) (by rw [hmore])
    rw [trimmed_of_ne_point hpoint, trimmed_of_ne_point hfree, dropIdle_dropIdle]

/-- A slash at the end does not count. -/
theorem trimmed_concat_empty (absolute : Bool) (parts : List String) :
    trimmed ⟨absolute, parts ++ [""]⟩ = trimmed ⟨absolute, parts⟩ := by
  have hidle : isIdle "" = true := rfl
  by_cases hpoint : ∃ rest, FilePath.mk absolute parts = ⟨false, "." :: rest⟩
  · obtain ⟨rest, hpath⟩ := hpoint
    obtain ⟨rfl, rfl⟩ := FilePath.mk.inj hpath
    rw [List.cons_append, trimmed, trimmed, dropIdle_concat, if_pos hidle]
  · rw [not_exists] at hpoint
    have hfree : ∀ rest, FilePath.mk absolute (parts ++ [""]) ≠ ⟨false, "." :: rest⟩ := by
      intro rest hpath
      obtain ⟨rfl, hparts⟩ := FilePath.mk.inj hpath
      obtain ⟨rfl, hempty⟩ | ⟨more, rfl, -⟩ := List.append_eq_cons_iff.mp hparts
      · exact absurd (List.cons.inj hempty).1 (by decide)
      · exact hpoint more rfl
    rw [trimmed_of_ne_point hpoint, trimmed_of_ne_point hfree, dropIdle_concat, if_pos hidle]

/-- Slashes at the end do not count for a directory that is made. -/
def made (path : FilePath) : List String :=
  (path.parts.reverse.dropWhile (· == "")).reverse

theorem made_isPrefix (path : FilePath) : path.made <+: path.parts := by
  rw [made, ← List.reverse_suffix, List.reverse_reverse]
  exact List.dropWhile_suffix _

theorem made_child (path : FilePath) (h : IsName name) :
    (path.child name).made = (path.child name).parts := by
  have hname : (name == "") = false := by
    rw [beq_eq_false_iff_ne]
    rintro rfl
    cases h.not_idle
  simp [made, child, hname]

/-- What is in one of the items is in what they are put together to. -/
theorem mem_intercalate {sep item : List Char} {items : List (List Char)} (h : item ∈ items)
    {c : Char} (hc : c ∈ item) : c ∈ sep.intercalate items := by
  induction items with
  | nil => cases h
  | cons first rest ih =>
      cases rest with
      | nil =>
          rw [List.mem_singleton.mp h] at hc
          rwa [List.intercalate_singleton]
      | cons second rest =>
          rw [List.intercalate_cons_cons, List.mem_append]
          rcases List.mem_cons.mp h with rfl | hrest
          · exact .inl (List.mem_append_left _ hc)
          · exact .inr (ih hrest)

/-- A path with a name in it is not empty. -/
theorem text_child_ne (path : FilePath) (h : IsName name) : (path.child name).text ≠ "" := by
  obtain ⟨c, hc⟩ := List.exists_mem_of_ne_nil _ h.toList_ne_nil
  have hmem : c ∈ (path.child name).text.toList := by
    rw [text, String.toList_append, String.toList_intercalate]
    apply List.mem_append_right
    apply mem_intercalate _ hc
    exact List.mem_map_of_mem (List.mem_append_right path.parts List.mem_cons_self)
  intro hempty
  rw [hempty] at hmem
  cases hmem

theorem check_child_ne (path : FilePath) (h : IsName name) :
    (path.child name).check ≠ .error .notFound := by
  unfold check
  split
  · nofun
  · split
    · nofun
    · rw [if_neg (by simpa using text_child_ne path h)]
      nofun

/-- What is above a path is a part of the way along it. -/
theorem prefix_of_mem_lineage {above : FilePath} (h : above ∈ path.lineage) :
    above.absolute = path.absolute ∧ above.parts <+: path.parts := by
  fun_induction lineage path with
  | case1 path hnone => cases h
  | case2 path parent hparent ih =>
      rcases List.mem_cons.mp h with rfl | hmem
      · exact ⟨rfl, List.prefix_rfl⟩
      · obtain ⟨habsolute, hparts⟩ := ih hmem
        unfold parent? at hparent
        dsimp only at hparent
        split at hparent
        · cases hparent
        · obtain rfl := Option.some.inj hparent
          rw [trimmed_absolute, trimmed_absolute] at habsolute
          have hshorter : path.trimmed.parts.dropLast <+: path.trimmed.parts :=
            List.dropLast_prefix _
          refine ⟨habsolute, hparts.trans ((trimmed_isPrefix _).trans ?_)⟩
          exact hshorter.trans (trimmed_isPrefix path)

end FilePath

/-! ### What changes in a tree -/

namespace FileTree

variable {tree tree' tree'' : FileTree} {path : FilePath} {dir address : Address}
  {allowed allowed' : FileTree → Address → Prop}

/-- The path leads to the address, whatever is there. -/
def LeadsTo (tree : FileTree) (path : FilePath) (address : Address) : Prop :=
  tree.walk (start path) path.parts = .ok address

/-- Directories stay, and what is new or has become another is at an address that is allowed. -/
structure Changed (allowed : FileTree → Address → Prop) (tree tree' : FileTree) : Prop where
  directory : ∀ {address}, tree.find? address = some .directory →
    tree'.find? address = some .directory
  allowed : ∀ address, tree'.find? address ≠ tree.find? address → allowed tree' address

/-- What is allowed stays so while directories stay. -/
def Lasting (allowed : FileTree → Address → Prop) : Prop :=
  ∀ (tree tree' : FileTree) (address : Address), Kept (fun _ => True) tree tree' →
    allowed tree address → allowed tree' address

namespace Changed

theorem kept (h : Changed allowed tree tree') : Kept (fun _ => True) tree tree' :=
  ⟨h.directory, fun hnot => absurd trivial hnot⟩

theorem refl (allowed : FileTree → Address → Prop) (tree : FileTree) :
    Changed allowed tree tree :=
  ⟨id, fun _ hne => absurd rfl hne⟩

theorem trans (hlasting : Lasting allowed) (h : Changed allowed tree tree')
    (h' : Changed allowed tree' tree'') : Changed allowed tree tree'' := by
  refine ⟨fun hdir => h'.directory (h.directory hdir), fun address hne => ?_⟩
  by_cases hlater : tree''.find? address = tree'.find? address
  · exact hlasting tree' tree'' address h'.kept (h.allowed address (hlater ▸ hne))
  · exact h'.allowed address hlater

theorem mono (h : Changed allowed tree tree')
    (himp : ∀ address, allowed tree' address → allowed' tree' address) :
    Changed allowed' tree tree' :=
  ⟨h.directory, fun address hne => himp address (h.allowed address hne)⟩

/-- What is put where no directory was changes that address only. -/
theorem insert (hfree : tree.find? address ≠ some .directory) (node : FileNode) :
    Changed (fun _ other => other = address) tree (tree.insert address node) := by
  refine ⟨fun {other} hdir => ?_, fun other hne => ?_⟩
  · rw [find?_insert hfree, if_neg (by rintro rfl; exact hfree hdir), hdir]
  · by_contra hother
    rw [find?_insert hfree, if_neg hother] at hne
    exact hne rfl

end Changed

theorem lasting_const (inside : Address → Prop) : Lasting fun _ => inside :=
  fun _ _ _ _ => id

theorem LeadsTo.kept {inside : Address → Prop} (h : tree.LeadsTo path dir)
    (hkept : Kept inside tree tree') : tree'.LeadsTo path dir :=
  hkept.walk h

theorem LeadsTo.unique (h : tree.LeadsTo path dir) (h' : tree.LeadsTo path address) :
    address = dir :=
  Except.ok.inj (h'.symm.trans h)

/-- The path leads to a directory. -/
def HasDirectory (tree : FileTree) (path : FilePath) : Prop :=
  ∃ dir, tree.LeadsTo path dir ∧ tree.find? dir = some .directory

/-- A name leads one step further. -/
theorem LeadsTo.of_child {name : String} (hname : IsName name)
    (h : tree.LeadsTo (path.child name) address) :
    ∃ dir, tree.LeadsTo path dir ∧ address = dir ++ [name] := by
  have hwalk : tree.walk (start path) (path.parts ++ [name]) = .ok address := h
  cases hdir : tree.walk (start path) path.parts with
  | error error =>
      rw [walk_append, hdir] at hwalk
      cases hwalk
  | ok dir => exact ⟨dir, hdir, walk_concat hname hdir hwalk⟩

/-- A directory on the way along a path, or at its end. -/
def OnTheWay (path : FilePath) (tree : FileTree) (address : Address) : Prop :=
  ∃ parts, parts <+: path.parts ∧ tree.walk (start path) parts = .ok address ∧
    tree.find? address = some .directory

theorem lasting_onTheWay (path : FilePath) : Lasting (OnTheWay path) := by
  rintro tree tree' address hkept ⟨parts, hprefix, hwalk, hdir⟩
  exact ⟨parts, hprefix, hkept.walk hwalk, hkept.directory hdir⟩

/-- What is allowed in the directory at a path or, if that is missing, a directory on the way. -/
def InOrOnTheWay (path : FilePath) (missing : Prop) (inside : Address → Address → Prop)
    (tree : FileTree) (address : Address) : Prop :=
  (∃ dir, tree.LeadsTo path dir ∧ inside dir address) ∨ missing ∧ OnTheWay path tree address

theorem lasting_inOrOnTheWay (path : FilePath) (missing : Prop)
    (inside : Address → Address → Prop) : Lasting (InOrOnTheWay path missing inside) := by
  rintro tree tree' address hkept (⟨dir, hdir, hinside⟩ | ⟨hmissing, hway⟩)
  · exact .inl ⟨dir, hdir.kept hkept, hinside⟩
  · exact .inr ⟨hmissing, lasting_onTheWay path tree tree' address hkept hway⟩

end FileTree

/-! ### What filing changes, whether it fails or not -/

/-- Work on a tree goes on where it has come to, or stops with its error. -/
theorem run_bind_tree {ε α β : Type} (work : ExceptT ε (StateM FileTree) α)
    (next : α → ExceptT ε (StateM FileTree) β) (tree : FileTree) :
    (work >>= next).run tree =
      match work.run tree with
      | (.ok a, later) => (next a).run later
      | (.error error, later) => (.error error, later) := by
  have hbind : (work >>= next).run tree =
      (ExceptT.bindCont next (work.run tree).1).run (work.run tree).2 := rfl
  rw [hbind]
  rcases work.run tree with ⟨_ | a, later⟩ <;> rfl

namespace Filing

open FileTree (Changed Lasting)

variable {α β : Type} {tree : FileTree} {allowed : FileTree → Address → Prop}

/-- The filing changes a tree only where it may. -/
def Confines (filing : Filing α) (tree : FileTree) (allowed : FileTree → Address → Prop) : Prop :=
  Changed allowed tree (filing.run tree).2

namespace Confines

theorem pure (a : α) : Confines (pure a) tree allowed :=
  .refl allowed tree

theorem throw (error : FileError) : Confines (throw error : Filing α) tree allowed :=
  .refl allowed tree

theorem bind {filing : Filing α} {next : α → Filing β} (hlasting : Lasting allowed)
    (h : filing.Confines tree allowed)
    (hnext : filing.Ensures tree fun a tree' => (next a).Confines tree' allowed) :
    (filing >>= next).Confines tree allowed := by
  rw [Confines, run_bind_tree]
  rcases hfiling : filing.run tree with ⟨error | a, tree'⟩
  · rw [Confines, hfiling] at h
    exact h
  · rw [Confines, hfiling] at h
    exact h.trans hlasting (hnext a tree' hfiling)

theorem tryCatch {filing : Filing α} {handle : FileError → Filing α} (hlasting : Lasting allowed)
    (h : filing.Confines tree allowed)
    (hhandle : ∀ error tree', filing.run tree = (.error error, tree') →
      (handle error).Confines tree' allowed) :
    (tryCatch filing handle).Confines tree allowed := by
  rw [Confines, run_tryCatch]
  rcases hfiling : filing.run tree with ⟨error | a, tree'⟩
  · rw [Confines, hfiling] at h
    exact h.trans hlasting (hhandle error tree' hfiling)
  · rw [Confines, hfiling] at h
    exact h

end Confines

/-- A directory that was made at the end of a path. -/
def Made (path : FilePath) (tree : FileTree) (address : Address) : Prop :=
  tree.walk (FileTree.start path) path.made = .ok address ∧ tree.find? address = some .directory

theorem lasting_made (path : FilePath) : Lasting (Made path) :=
  fun _ _ _ hkept hmade => ⟨hkept.walk hmade.1, hkept.directory hmade.2⟩

/-- Making a directory makes none but that one. -/
theorem confines_makeDirectory (path : FilePath) (tree : FileTree) :
    (makeDirectory path).Confines tree (Made path) := by
  obtain ⟨error, hrun⟩ | ⟨address, hlocate, hfree, hrun⟩ := run_makeDirectory path tree
  · rw [Confines, hrun]
    exact .refl _ tree
  · rw [Confines, hrun]
    have hplain : tree.find? address ≠ some .directory := by
      rw [hfree]
      nofun
    have hwalk : tree.walk (FileTree.start path) path.made = .ok address :=
      (FileTree.locateAlong_eq_ok.mp hlocate).2
    have hchanged := Changed.insert hplain .directory
    refine hchanged.mono fun other hother => ?_
    subst hother
    refine ⟨hchanged.kept.walk hwalk, ?_⟩
    rw [FileTree.find?_insert hplain, if_pos rfl]

theorem confines_ensureDirectory (path : FilePath) (tree : FileTree) :
    (ensureDirectory path).Confines tree (Made path) := by
  refine .tryCatch (lasting_made path) (confines_makeDirectory path tree) fun error later _ => ?_
  rw [Confines, run_get_bind]
  split
  · exact .refl _ later
  · exact .refl _ later

/-- Making the directories of a lineage makes none but those on the way. -/
theorem confines_ensureLineage {base : FilePath} {paths : List FilePath}
    (h : ∀ path ∈ paths, path.absolute = base.absolute ∧ path.parts <+: base.parts)
    (tree : FileTree) : (ensureLineage paths).Confines tree (FileTree.OnTheWay base) := by
  have hlasting := FileTree.lasting_onTheWay base
  induction paths generalizing tree with
  | nil => exact .pure ()
  | cons path outer ih =>
      obtain ⟨habsolute, hparts⟩ := h path List.mem_cons_self
      have hstart : FileTree.start path = FileTree.start base := by
        rw [FileTree.start, habsolute, FileTree.start]
      have hmade (tree : FileTree) :
          (ensureDirectory path).Confines tree (FileTree.OnTheWay base) := by
        refine (confines_ensureDirectory path tree).mono fun address haddress => ?_
        exact ⟨path.made, path.made_isPrefix.trans hparts, hstart ▸ haddress.1, haddress.2⟩
      refine .tryCatch hlasting (hmade tree) fun error later _ => ?_
      split
      · have houter := ih fun other hother => h other (List.mem_cons_of_mem path hother)
        exact .bind hlasting (houter later) fun _ last _ => hmade last
      · exact .throw error

/-- A name in a directory that is there is found, or it is refused for what it is. -/
theorem locateAlong_child {path : FilePath} {dir : Address} {name : String} (hname : IsName name)
    (hdir : tree.LeadsTo path dir) (hthere : tree.find? dir = some .directory) :
    tree.locateAlong (path.child name) (path.child name).parts ≠ .error .notFound := by
  have hcheck := path.check_child_ne hname
  unfold FileTree.locateAlong
  cases hresult : (path.child name).check with
  | error error =>
      rintro ⟨⟩
      exact hcheck hresult
  | ok done =>
      change tree.walk (FileTree.start path) (path.parts ++ [name]) ≠ _
      rw [FileTree.walk_append, show tree.walk (FileTree.start path) path.parts = .ok dir from hdir]
      simp only [FileTree.walk, hthere, hname.not_idle, beq_eq_false_iff_ne.mpr hname.ne_up,
        Bool.false_eq_true, ↓reduceIte]
      split <;> intro hfound <;> cases hfound

/-- So making a directory in one that is there does not fail for want of what is above it. -/
theorem makeDirectory_child_ne {path : FilePath} {dir : Address} {name : String}
    (hname : IsName name) (hdir : tree.LeadsTo path dir)
    (hthere : tree.find? dir = some .directory) (later : FileTree) :
    (makeDirectory (path.child name)).run tree ≠ (.error .notFound, later) := by
  intro hrun
  have hnames : ((path.child name).parts.reverse.dropWhile (· == "")).reverse =
      (path.child name).parts := path.made_child hname
  have hlocate := locateAlong_child hname hdir hthere
  rw [makeDirectory, run_get_bind, hnames] at hrun
  dsimp only at hrun
  cases hresult : tree.locateAlong (path.child name) (path.child name).parts with
  | error error =>
      rw [hresult] at hrun hlocate
      cases hrun
      exact hlocate rfl
  | ok address =>
      rw [hresult] at hrun
      dsimp only at hrun
      split at hrun <;> cases hrun

theorem ensureDirectory_child_ne {path : FilePath} {dir : Address} {name : String}
    (hname : IsName name) (hdir : tree.LeadsTo path dir)
    (hthere : tree.find? dir = some .directory) (later : FileTree) :
    (ensureDirectory (path.child name)).run tree ≠ (.error .notFound, later) := by
  intro hrun
  rw [ensureDirectory, run_tryCatch] at hrun
  rcases hmade : (makeDirectory (path.child name)).run tree with ⟨error | done, between⟩
  · rw [hmade] at hrun
    dsimp only at hrun
    rw [run_get_bind] at hrun
    split at hrun
    · cases hrun
    · cases hrun
      exact makeDirectory_child_ne hname hdir hthere _ hmade
  · rw [hmade] at hrun
    cases hrun

/-- Making a directory and what is missing above it makes what the name stands for.  It makes
something else only if the directory of that name is not there, and then on the way to it. -/
theorem confines_makeDirectories {base : FilePath} (hbase : base.trimmed = base) {name : String}
    (hname : IsName name) (tree : FileTree) :
    (makeDirectories (base.child name)).Confines tree
      (FileTree.InOrOnTheWay base (¬ tree.HasDirectory base) fun dir address =>
        address = dir ++ [name]) := by
  generalize hallowed : (FileTree.InOrOnTheWay base (¬ tree.HasDirectory base) fun dir address =>
    address = dir ++ [name]) = allowed
  have hlasting : Lasting allowed := hallowed ▸ FileTree.lasting_inOrOnTheWay base _ _
  have hlineage : (base.child name).lineage = base.child name :: base.lineage := by
    rw [FilePath.lineage, FilePath.child, FilePath.parent?_concat base.absolute base.parts hname]
    dsimp only
    rw [hbase]
  have hlast (between : FileTree) :
      (ensureDirectory (base.child name)).Confines between allowed := by
    refine (confines_ensureDirectory _ between).mono fun address haddress => ?_
    have hwalk := haddress.1
    rw [base.made_child hname] at hwalk
    rw [← hallowed]
    exact .inl (FileTree.LeadsTo.of_child hname hwalk)
  rw [makeDirectories, hlineage, ensureLineage]
  refine .tryCatch hlasting (hlast tree) fun error between hrun => ?_
  split
  · next hnotFound =>
    subst hnotFound
    have hmissing : ¬ tree.HasDirectory base := by
      rintro ⟨dir, hdir, hthere⟩
      exact ensureDirectory_child_ne hname hdir hthere between hrun
    refine .bind hlasting ?_ fun _ later _ => hlast later
    refine (confines_ensureLineage (fun _ => FilePath.prefix_of_mem_lineage) between).mono ?_
    rw [← hallowed]
    exact fun address hway => .inr ⟨hmissing, hway⟩
  · exact .throw error

/-- A file is written where its path leads, or nothing changes. -/
theorem run_write (path : FilePath) (content : Array UInt8) (tree : FileTree) :
    (∃ error, (write path content).run tree = (.error error, tree)) ∨
      ∃ address, tree.locate path = .ok address ∧ tree.find? address ≠ some .directory ∧
        (write path content).run tree = (.ok (), tree.insert address (.file content)) := by
  rw [write, run_get_bind]
  cases tree.locate path with
  | error error => exact .inl ⟨error, rfl⟩
  | ok address =>
      dsimp only
      split
      · exact .inl ⟨_, rfl⟩
      · next hfree => exact .inr ⟨address, rfl, hfree, rfl⟩

end Filing

end LevelScript
