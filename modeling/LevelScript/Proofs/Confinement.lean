import LevelScript.Proofs.Filings
import LevelScript.Proofs.Traces

/-!
Export stays in its directory.

A folder keeps one path, of which each file replaces the last name.  Whatever was written before,
that path ends with a name and not with a step up or on the spot, so the next file and the next
folder lie one step below the directory.  A level is four steps deep.  Only where the directory
itself is not there yet, entering it makes what is missing on the way.
-/

namespace LevelScript

/-! ### Names -/

/-- A name that leads one step further wherever it is read: also where a backslash parts names. -/
structure FilePath.IsSafe (name : String) : Prop extends IsName name where
  no_backslash : '\\' ∉ name.toList

open FilePath (IsName IsSafe)

/-- No character that is refused is left in a safe form. -/
theorem not_mem_safeName (text : String) {c : Char} (h : isUnsafeInFileName c = true) :
    c ∉ (safeName text).toList := by
  have hunderscore : c ≠ '_' := by
    rintro rfl
    cases h
  have hsafe : c ∉ text.toList.map fun c => if isUnsafeInFileName c then '_' else c := by
    intro hmem
    obtain ⟨other, -, hother⟩ := List.mem_map.mp hmem
    split at hother
    · exact hunderscore hother.symm
    · next hallowed =>
      subst hother
      exact hallowed h
  unfold safeName
  dsimp only
  split
  · rw [String.toList_append, List.mem_append, not_or]
    refine ⟨by simpa using hunderscore, ?_⟩
    rwa [String.toList_ofList]
  · rwa [String.toList_ofList]

theorem isSafe_safeName (text : String) : IsSafe (safeName text) :=
  ⟨isName_safeName text, not_mem_safeName text rfl⟩

theorem isSafe_safeNameWith (text : String) {extension : String} (hslash : '/' ∉ extension.toList)
    (hbackslash : '\\' ∉ extension.toList) : IsSafe (safeNameWith text extension) := by
  refine ⟨isName_safeNameWith text hslash, ?_⟩
  have hname : '\\' ∉ (safeName text).toList := not_mem_safeName text rfl
  unfold safeNameWith
  dsimp only
  split
  · exact hname
  · simp only [String.toList_append, String.toList_ofList, List.mem_append, not_or]
    exact ⟨⟨hname, by decide⟩, fun hmem => hbackslash ((List.dropWhile_sublist _).mem hmem)⟩

/-! ### Folders -/

namespace Folder

open FileTree (InOrOnTheWay)

variable {folder : Folder} {tree tree' : FileTree} {dir : Address} {name extension : String}

/-- A folder whose path ends with a name, which the next file replaces. -/
def Regular (folder : Folder) : Prop :=
  ∃ absolute parts name, IsName name ∧ folder.latest = ⟨absolute, parts ++ [name]⟩

theorem Regular.trimmed_directory (h : folder.Regular) :
    folder.directory.trimmed = folder.directory := by
  obtain ⟨absolute, parts, name, hname, hlatest⟩ := h
  rw [directory, hlatest, FilePath.parent?_concat absolute parts hname, Option.getD_some,
    FilePath.trimmed_trimmed]

/-- The next name goes behind the directory. -/
theorem Regular.withFileName (h : folder.Regular) (hname : IsName name) :
    folder.latest.withFileName name = folder.directory.child name := by
  obtain ⟨absolute, parts, old, hold, hlatest⟩ := h
  rw [directory, hlatest, FilePath.withFileName_concat hold hname,
    FilePath.parent?_concat absolute parts hold, Option.getD_some, FilePath.child,
    FilePath.trimmed_absolute]

/-- A path that ends with a name is the path of something in its directory. -/
theorem regular_of_child {base : FilePath} (hbase : base.trimmed = base) (hname : IsName name) :
    Regular ⟨base.child name⟩ ∧ directory ⟨base.child name⟩ = base := by
  refine ⟨⟨base.absolute, base.parts, name, hname, rfl⟩, ?_⟩
  rw [directory, FilePath.child, FilePath.parent?_concat base.absolute base.parts hname,
    Option.getD_some, hbase]

/-- A file that is written leaves the folder where it is. -/
theorem Regular.moved (h : folder.Regular) (name : String)
    (hextension : '/' ∉ extension.toList) :
    (folder.moved name extension).latest =
        folder.directory.child (safeNameWith name extension) ∧
      (folder.moved name extension).Regular ∧
      (folder.moved name extension).directory = folder.directory := by
  have hname := isName_safeNameWith name hextension
  have hlatest : (folder.moved name extension).latest =
      folder.directory.child (safeNameWith name extension) := h.withFileName hname
  obtain ⟨hregular, hdirectory⟩ := regular_of_child h.trimmed_directory hname
  rw [← hlatest] at hregular hdirectory
  exact ⟨hlatest, hregular, hdirectory⟩

/-- A folder starts out at its path. -/
theorem regular_fresh (path : FilePath) :
    (fresh path).Regular ∧ (fresh path).directory = path.trimmed := by
  have hplace : IsName "_" := ⟨by decide, by decide, by decide⟩
  generalize hbefore :
    (if path.parts.getLast? == some "" then path.parts.dropLast else path.parts) = before
  have hfresh : fresh path = ⟨⟨path.absolute, before ++ ["_"]⟩⟩ := by
    rw [fresh, FilePath.push, hbefore, FilePath.partsOf_eq_singleton hplace]
  rw [hfresh]
  refine ⟨⟨path.absolute, before, "_", hplace, rfl⟩, ?_⟩
  rw [directory, FilePath.parent?_concat path.absolute before hplace, Option.getD_some, ← hbefore]
  split
  · next hslash =>
    obtain ⟨parts, hparts⟩ := List.getLast?_eq_some_iff.mp (beq_iff_eq.mp hslash)
    rw [hparts, List.dropLast_concat, ← FilePath.trimmed_concat_empty, ← hparts]
  · rfl

theorem directory_fresh_child (path : FilePath) {name : String} (hname : IsName name) :
    (fresh (path.child name)).directory = path.child name := by
  rw [(regular_fresh _).2]
  exact FilePath.trimmed_concat hname.not_idle

theorem Regular.enter_eq (h : folder.Regular) (name : String) :
    folder.enter name = create (folder.directory.child (safeName name)) := by
  rw [enter, h.withFileName (isName_safeName name)]

/-- A folder inside is one step below the directory. -/
theorem Regular.enter_confines (h : folder.Regular) (name : String) (tree : FileTree) :
    (folder.enter name).Confines tree
      (InOrOnTheWay folder.directory (¬ tree.HasDirectory folder.directory) fun dir address =>
        address = dir ++ [safeName name]) := by
  rw [h.enter_eq, create]
  have hmade := Filing.confines_makeDirectories h.trimmed_directory (isName_safeName name) tree
  exact .bind (FileTree.lasting_inOrOnTheWay _ _ _) hmade fun _ _ _ => .pure _

/-- A folder whose directory is there, at an address. -/
structure IsAt (folder : Folder) (tree : FileTree) (dir : Address) : Prop where
  regular : folder.Regular
  leads : tree.LeadsTo folder.directory dir
  there : tree.find? dir = some .directory

theorem IsAt.kept {inside : Address → Prop} (h : folder.IsAt tree dir)
    (hkept : FileTree.Kept inside tree tree') : folder.IsAt tree' dir :=
  ⟨h.regular, h.leads.kept hkept, hkept.directory h.there⟩

/-- The folder that was entered is a fresh one, at the directory that the name stands for. -/
theorem Regular.enter_isAt (h : folder.Regular) (name : String) (tree : FileTree) :
    (folder.enter name).Ensures tree fun sub tree' =>
      sub = fresh (folder.directory.child (safeName name)) ∧
        ∃ dir, tree'.LeadsTo folder.directory dir ∧ sub.IsAt tree' (dir ++ [safeName name]) := by
  have hname := isName_safeName name
  rw [h.enter_eq, create]
  refine .bind ((Filing.ensures_makeDirectories hname tree).imp fun _ tree' => ?_)
  rintro ⟨-, address, hlocate, hthere⟩
  obtain ⟨-, hwalk⟩ := FileTree.locate_eq_ok.mp hlocate
  obtain ⟨dir, hdir, rfl⟩ := FileTree.LeadsTo.of_child hname hwalk
  have hregular := (regular_fresh (folder.directory.child (safeName name))).1
  have hleads : tree'.LeadsTo (fresh (folder.directory.child (safeName name))).directory
      (dir ++ [safeName name]) := by
    rw [directory_fresh_child _ hname]
    exact hwalk
  exact .pure ⟨rfl, dir, hdir, hregular, hleads, hthere⟩

/-- Entering a folder in a directory that is there changes one address at most. -/
theorem IsAt.enter (h : folder.IsAt tree dir) (name : String) :
    ((folder.enter name).Confines tree fun _ address => address = dir ++ [safeName name]) ∧
      (folder.enter name).Ensures tree fun sub tree' =>
        sub.IsAt tree' (dir ++ [safeName name]) := by
  have hconfines := h.regular.enter_confines name tree
  have hleads := h.leads.kept hconfines.kept
  constructor
  · refine hconfines.mono fun address => ?_
    rintro (⟨other, hother, rfl⟩ | ⟨hmissing, -⟩)
    · rw [hleads.unique hother]
    · exact absurd ⟨dir, h.leads, h.there⟩ hmissing
  · intro sub tree' hrun
    obtain ⟨-, other, hother, hsub⟩ := h.regular.enter_isAt name tree sub tree' hrun
    rw [hrun] at hleads
    rwa [hleads.unique hother] at hsub

/-- A file is written in the directory, under its safe name, or nothing changes. -/
theorem Regular.run_write (h : folder.Regular) (name : String)
    (hextension : '/' ∉ extension.toList) (text : String) (tree : FileTree) :
    (∃ error, (folder.write name extension text).run tree = (.error error, tree)) ∨
      ∃ dir, tree.LeadsTo folder.directory dir ∧
        tree.find? (dir ++ [safeNameWith name extension]) ≠ some .directory ∧
        (folder.write name extension text).run tree =
          (.ok (), tree.insert (dir ++ [safeNameWith name extension])
            (.file text.toUTF8.data)) := by
  rw [write, (h.moved name hextension).1]
  obtain ⟨error, hrun⟩ | ⟨address, hlocate, hfree, hrun⟩ := Filing.run_write
    (folder.directory.child (safeNameWith name extension)) text.toUTF8.data tree
  · exact .inl ⟨error, hrun⟩
  · obtain ⟨-, hwalk⟩ := FileTree.locate_eq_ok.mp hlocate
    obtain ⟨dir, hdir, rfl⟩ :=
      FileTree.LeadsTo.of_child (isName_safeNameWith name hextension) hwalk
    exact .inr ⟨dir, hdir, hfree, hrun⟩

theorem IsAt.write (h : folder.IsAt tree dir) (name : String)
    (hextension : '/' ∉ extension.toList) (text : String) :
    (folder.write name extension text).Confines tree fun _ address =>
      address = dir ++ [safeNameWith name extension] := by
  obtain ⟨error, hrun⟩ | ⟨other, hother, hfree, hrun⟩ :=
    h.regular.run_write name hextension text tree
  · rw [Filing.Confines, hrun]
    exact .refl _ tree
  · rw [Filing.Confines, hrun]
    obtain rfl := h.leads.unique hother
    exact .insert hfree _

/-! ### Levels -/

/-- An address below a directory, at most so many steps, each under a safe name. -/
def Below (dir : Address) (depth : Nat) (address : Address) : Prop :=
  ∃ names, address = dir ++ names ∧ 1 ≤ names.length ∧ names.length ≤ depth ∧
    ∀ name ∈ names, IsSafe name

theorem below_child (dir : Address) (depth : Nat) (hname : IsSafe name) :
    Below dir (depth + 1) (dir ++ [name]) :=
  ⟨[name], rfl, Nat.le_refl 1, by simp, by simpa using hname⟩

theorem Below.of_child {depth : Nat} {address : Address} (hname : IsSafe name)
    (h : Below (dir ++ [name]) depth address) : Below dir (depth + 1) address := by
  obtain ⟨names, rfl, -, hdepth, hsafe⟩ := h
  refine ⟨name :: names, by simp, by simp, by simpa using hdepth, ?_⟩
  intro other hother
  rcases List.mem_cons.mp hother with rfl | hmem
  · exact hname
  · exact hsafe other hmem

/-- The filing changes only what is below a directory. -/
abbrev Stays {α : Type} (filing : Filing α) (tree : FileTree) (dir : Address) (depth : Nat) :
    Prop :=
  filing.Confines tree fun _ => Below dir depth

variable {depth : Nat}

theorem IsAt.write_stays (h : folder.IsAt tree dir) (name : String)
    (hslash : '/' ∉ extension.toList) (hbackslash : '\\' ∉ extension.toList) (text : String) :
    Stays (folder.write name extension text) tree dir (depth + 1) := by
  refine (h.write name hslash text).mono ?_
  rintro _ rfl
  exact below_child dir depth (isSafe_safeNameWith name hslash hbackslash)

theorem IsAt.forM_stays {α : Type} {step : α → Filing Unit} (h : folder.IsAt tree dir)
    (items : List α)
    (hstep : ∀ item tree, folder.IsAt tree dir → Stays (step item) tree dir depth) :
    Stays (items.forM step) tree dir depth := by
  induction items generalizing tree with
  | nil => exact .pure ()
  | cons item items ih =>
      have hfirst := hstep item tree h
      refine .bind (FileTree.lasting_const _) hfirst fun _ tree' hrun => ih ?_
      rw [Stays, Filing.Confines, hrun] at hfirst
      exact h.kept hfirst.kept

/-- What is done in a folder and then beside it. -/
theorem IsAt.bind_stays {next : Unit → Filing Unit} {filing : Filing Unit}
    (h : folder.IsAt tree dir) (hfiling : Stays filing tree dir depth)
    (hnext : ∀ tree, folder.IsAt tree dir → Stays (next ()) tree dir depth) :
    Stays (filing >>= next) tree dir depth := by
  refine .bind (FileTree.lasting_const _) hfiling fun _ tree' hrun => hnext tree' ?_
  rw [Stays, Filing.Confines, hrun] at hfiling
  exact h.kept hfiling.kept

/-- What is done in a folder inside is one step deeper. -/
theorem IsAt.enter_stays {next : Folder → Filing Unit} (h : folder.IsAt tree dir) (name : String)
    (hnext : ∀ sub tree, sub.IsAt tree (dir ++ [safeName name]) →
      Stays (next sub) tree (dir ++ [safeName name]) depth) :
    Stays (folder.enter name >>= next) tree dir (depth + 1) := by
  obtain ⟨hconfines, hsub⟩ := h.enter name
  have hsafe := isSafe_safeName name
  refine .bind (FileTree.lasting_const _) ?_ fun sub tree' hrun => ?_
  · refine hconfines.mono ?_
    rintro _ rfl
    exact below_child dir depth hsafe
  · exact (hnext sub tree' (hsub sub tree' hrun)).mono fun _ => Below.of_child hsafe

theorem IsAt.writeList_stays (h : folder.IsAt tree dir) (name : String) (texts : List String) :
    Stays (folder.writeList name texts) tree dir 1 := by
  unfold writeList
  split
  · exact .pure ()
  · exact h.write_stays name (by decide) (by decide) _

theorem IsAt.writeActorScripts_stays (h : folder.IsAt tree dir) (graph : CallGraph)
    (name : String) : Stays (folder.writeActorScripts graph name) tree dir 2 := by
  refine h.enter_stays name fun own between hown => ?_
  refine hown.bind_stays (hown.forM_stays _ fun offset later hlater => ?_) fun later hlater => ?_
  · cases graph.find? offset with
    | none => exact .pure ()
    | some script => exact hlater.write_stays _ (by decide) (by decide) _
  · exact hlater.bind_stays (hlater.writeList_stays _ _) fun last hlast => hlast.writeList_stays _ _

theorem IsAt.writeSetupLogs_stays (h : folder.IsAt tree dir) (arena : Arena) :
    Stays (folder.writeSetupLogs arena) tree dir 2 := by
  unfold writeSetupLogs
  split
  · exact .pure ()
  · refine h.enter_stays "Setup" fun setup between hsetup => ?_
    exact hsetup.forM_stays _ fun entry later hlater =>
      hlater.write_stays entry.1 (by decide) (by decide) _

theorem IsAt.writeArena_stays (h : folder.IsAt tree dir) (arena : Arena) :
    Stays (folder.writeArena arena) tree dir 3 := by
  rw [writeArena_eq]
  refine h.enter_stays arena.name fun own between hown => ?_
  refine hown.bind_stays (hown.forM_stays _ fun entry later hlater => ?_) fun later hlater => ?_
  · exact hlater.write_stays entry.1 (by decide) (by decide) _
  · exact hlater.writeSetupLogs_stays arena

/-- All that follows once the directory of the level is there. -/
theorem IsAt.writeParts_stays (h : folder.IsAt tree dir) (level : Level) :
    Stays (do level.arenas.toList.forM folder.writeArena
              let scripts ← folder.enter "Scripts"
              scripts.writeScripts level.scripts : Filing Unit) tree dir 3 := by
  refine h.bind_stays (h.forM_stays _ fun arena later hlater => hlater.writeArena_stays arena) ?_
  intro between hbetween
  refine hbetween.enter_stays "Scripts" fun scripts later hscripts => ?_
  exact hscripts.forM_stays _ fun name last hlast => hlast.writeActorScripts_stays _ name

/-- Whatever the names in a level are, writing it changes what is below the directory of the folder,
at most four steps.  If that directory was not there, those on the way to it are made. -/
theorem Regular.writeLevel_confines (h : folder.Regular) (level : Level) (summary : Bool)
    (tree : FileTree) :
    (folder.writeLevel level summary).Confines tree
      (InOrOnTheWay folder.directory (¬ tree.HasDirectory folder.directory) fun dir =>
        Below dir 4) := by
  have hsafe := isSafe_safeName level.name
  refine .bind (FileTree.lasting_inOrOnTheWay _ _ _) ?_ fun own entered hrun => ?_
  · refine (h.enter_confines level.name tree).mono ?_
    rintro _ (⟨dir, hdir, rfl⟩ | hway)
    · exact .inl ⟨dir, hdir, below_child dir 3 hsafe⟩
    · exact .inr hway
  · obtain ⟨-, dir, hdir, hown⟩ := h.enter_isAt level.name tree own entered hrun
    have hrest : Stays (do
        if summary then own.write "summary" "json" level.json.pretty
        level.arenas.toList.forM own.writeArena
        let scripts ← own.enter "Scripts"
        scripts.writeScripts level.scripts : Filing Unit) entered
          (dir ++ [safeName level.name]) 3 := by
      cases summary with
      | false => exact hown.writeParts_stays level
      | true =>
          exact hown.bind_stays (hown.write_stays "summary" (by decide) (by decide) _)
            fun later hlater => hlater.writeParts_stays level
    refine FileTree.Changed.mono hrest fun address hbelow => ?_
    exact .inl ⟨dir, hdir.kept hrest.kept, hbelow.of_child hsafe⟩

/-! ### Any sequence of files and folders -/

/-- What can be asked of a folder. -/
inductive Step
  | write (name extension text : String)
  | enter (name : String)
deriving DecidableEq, Repr

/-- The extension of a file leads nowhere else. -/
def Step.Plain : Step → Prop
  | write _ extension _ => '/' ∉ extension.toList
  | enter _ => True

instance : DecidablePred Step.Plain
  | .write _ extension _ => inferInstanceAs (Decidable ('/' ∉ extension.toList))
  | .enter _ => inferInstanceAs (Decidable True)

/-- The folder and the tree after a step, whether it fails or not.  A folder that is entered is
another one, so this one stays as it is. -/
def after : Folder × FileTree → Step → Folder × FileTree
  | (folder, tree), .write name extension text =>
    (folder.moved name extension, ((folder.write name extension text).run tree).2)
  | (folder, tree), .enter name => (folder, ((folder.enter name).run tree).2)

def afterAll (folder : Folder) (tree : FileTree) (steps : List Step) : Folder × FileTree :=
  steps.foldl after (folder, tree)

theorem Regular.after (h : folder.Regular) {step : Step} (hplain : step.Plain)
    (tree : FileTree) :
    (Folder.after (folder, tree) step).1.Regular ∧
      (Folder.after (folder, tree) step).1.directory = folder.directory := by
  cases step with
  | write name extension text => exact (h.moved name hplain).2
  | enter name => exact ⟨h, rfl⟩

/-- A folder never leaves its directory. -/
theorem Regular.afterAll (h : folder.Regular) {steps : List Step}
    (hplain : ∀ step ∈ steps, step.Plain) (tree : FileTree) :
    (folder.afterAll tree steps).1.Regular ∧
      (folder.afterAll tree steps).1.directory = folder.directory := by
  induction steps generalizing folder tree with
  | nil => exact ⟨h, rfl⟩
  | cons step steps ih =>
      obtain ⟨hregular, hdirectory⟩ := h.after (hplain step List.mem_cons_self) tree
      have hrest := ih hregular (fun other hother => hplain other (List.mem_cons_of_mem step hother))
        (Folder.after (folder, tree) step).2
      rw [hdirectory] at hrest
      exact hrest

/-- How a file is written into the directory at a path: the path that is kept is the name behind
that path, and either nothing changes or just what the name stands for is the file. -/
structure WritesInto (folder : Folder) (tree : FileTree) (path : FilePath)
    (name extension text : String) : Prop where
  latest_eq : (folder.moved name extension).latest =
    path.child (safeNameWith name extension)
  run : (∃ error, (folder.write name extension text).run tree = (.error error, tree)) ∨
    ∃ dir, tree.LeadsTo path dir ∧
      tree.find? (dir ++ [safeNameWith name extension]) ≠ some .directory ∧
      (folder.write name extension text).run tree =
        (.ok (), tree.insert (dir ++ [safeNameWith name extension]) (.file text.toUTF8.data))

/-- Nothing is written outside a directory that a level is exported to: what a level changes there,
be it that an error stops it, is one to four steps below it, each under a name that leads to no other
place.  Only if that directory was not there, those on the way to it are made.  And whatever files
and folders were asked of a folder before, it keeps to its directory: the next file lies there under
its safe name, and so does the next folder, which starts out afresh. -/
theorem export_confined (out : FilePath) (tree : FileTree) :
    (∀ (level : Level) (summary : Bool),
      let tree' := (((fresh out).writeLevel level summary).run tree).2
      ∀ address, tree'.find? address ≠ tree.find? address →
        (∃ dir names, tree'.LeadsTo out.trimmed dir ∧ address = dir ++ names ∧
            1 ≤ names.length ∧ names.length ≤ 4 ∧ ∀ name ∈ names, IsSafe name) ∨
          ¬ tree.HasDirectory out.trimmed ∧ FileTree.OnTheWay out.trimmed tree' address) ∧
      ∀ steps : List Step, (∀ step ∈ steps, step.Plain) →
        let (folder, now) := (fresh out).afterAll tree steps
        folder.directory = out.trimmed ∧
          (∀ name extension text, '/' ∉ extension.toList →
            folder.WritesInto now out.trimmed name extension text) ∧
          ∀ name sub later, (folder.enter name).run now = (.ok sub, later) →
            sub = fresh (out.trimmed.child (safeName name)) ∧
              sub.directory = out.trimmed.child (safeName name) := by
  obtain ⟨hregular, hdirectory⟩ := regular_fresh out
  constructor
  · intro level summary tree' address hchanged
    have hconfines := hregular.writeLevel_confines level summary tree
    rw [hdirectory] at hconfines
    rcases hconfines.allowed address hchanged with ⟨dir, hdir, names, hnames⟩ | hway
    · exact .inl ⟨dir, names, hdir, hnames⟩
    · exact .inr hway
  · intro steps hplain
    obtain ⟨hlast, hsame⟩ := hregular.afterAll hplain tree
    rw [hdirectory] at hsame
    generalize (fresh out).afterAll tree steps = last at hlast hsame ⊢
    obtain ⟨folder, now⟩ := last
    refine ⟨hsame, fun name extension text hextension => ⟨?_, ?_⟩, fun name sub later hrun => ?_⟩
    · rw [(hlast.moved name hextension).1]
      exact congrArg (FilePath.child · _) hsame
    · have hrun := hlast.run_write name hextension text now
      rwa [show folder.directory = out.trimmed from hsame] at hrun
    · have hsub := (hlast.enter_isAt name now sub later hrun).1
      rw [show folder.directory = out.trimmed from hsame] at hsub
      exact ⟨hsub, hsub ▸ directory_fresh_child _ (isName_safeName name)⟩

/-- Names that would lead out of the folder, one after the other. -/
def Step.hostile : List Step :=
  [.write ".." "txt" "a", .enter "..", .write "" "" "b", .write "../../C" ".txt" "c", .enter "D/.."]

/-- After all of them the folder is where it was, and writes one more there. -/
theorem export_confined_hostile :
    (∀ step ∈ Step.hostile, step.Plain) ∧
      let tree := FileTree.empty.insert ["root"] .directory
      let (folder, now) := (fresh (.parse "root")).afterAll tree Step.hostile
      folder.directory = ⟨false, ["root"]⟩ ∧
        folder.WritesInto now ⟨false, ["root"]⟩ "..\\.." "" "d" := by
  have hplain : ∀ step ∈ Step.hostile, step.Plain := by decide
  have hout : (FilePath.parse "root").trimmed = ⟨false, ["root"]⟩ := by decide
  obtain ⟨-, hsteps⟩ := export_confined (.parse "root") (FileTree.empty.insert ["root"] .directory)
  obtain ⟨hdirectory, hwrites, -⟩ := hsteps Step.hostile hplain
  rw [hout] at hdirectory hwrites
  exact ⟨hplain, hdirectory, hwrites "..\\.." "" "d" (by decide)⟩

end Folder

end LevelScript
