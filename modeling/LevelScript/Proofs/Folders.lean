import LevelScript.Export
import Mathlib.Data.List.Induction

/-!
Folders and what is written into them.

A tree only grows: directories stay where they are, and a file is lost only if another one is
written at its own address.  So a walk that once led to a directory leads there for good, and a
folder that was opened stays open while other files are written.  Whatever a name is made of, its
safe form leads one step further into the folder and nowhere else.
-/

namespace LevelScript

/-! ### Names and paths -/

namespace FilePath

/-- A name that leads one step further: it is no step back or on the spot, and has no slash. -/
structure IsName (name : String) : Prop where
  not_idle : isIdle name = false
  ne_up : name ≠ ".."
  no_slash : '/' ∉ name.toList

variable {absolute : Bool} {parts : List String} {name : String}

theorem IsName.toList_ne_nil (h : IsName name) : name.toList ≠ [] := by
  intro hnil
  have hidle := h.not_idle
  rw [String.toList_eq_nil_iff.mp hnil] at hidle
  cases hidle

/-- What is longer than a step back leads further. -/
theorem IsName.of_length (hlong : 2 < name.toList.length) (hslash : '/' ∉ name.toList) :
    IsName name where
  not_idle := by
    rw [isIdle, Bool.or_eq_false_iff, beq_eq_false_iff_ne, beq_eq_false_iff_ne]
    constructor
    · rintro rfl
      exact absurd hlong (by decide)
    · rintro rfl
      exact absurd hlong (by decide)
  ne_up := by
    rintro rfl
    exact absurd hlong (by decide)
  no_slash := hslash

theorem partsOf_eq_singleton (h : IsName name) : partsOf name.toList = [name] := by
  have hsplit (chars : List Char) (hchars : '/' ∉ chars) : split chars = [chars] := by
    induction chars with
    | nil => rfl
    | cons c chars ih =>
        rw [List.mem_cons, not_or] at hchars
        rw [split, if_neg (Ne.symm hchars.1), ih hchars.2]
  rw [partsOf, hsplit name.toList h.no_slash, if_neg (by simpa using h.toList_ne_nil)]
  simp

theorem dropIdle_concat (parts : List String) (name : String) :
    dropIdle (parts ++ [name]) = if isIdle name then dropIdle parts else parts ++ [name] := by
  rw [dropIdle, dropIdle, List.reverse_append]
  cases hidle : isIdle name with
  | true => simp [hidle]
  | false => simp [hidle]

/-- What is left does not end with a part that leads nowhere. -/
theorem getLast?_dropIdle_ne (parts : List String) : (dropIdle parts).getLast? ≠ some "" := by
  rw [dropIdle, List.getLast?_reverse]
  intro hlast
  have hidle := List.head?_dropWhile_not isIdle parts.reverse
  rw [hlast] at hidle
  cases hidle

theorem trimmed_absolute (path : FilePath) : path.trimmed.absolute = path.absolute := by
  unfold trimmed
  split <;> rfl

theorem trimmed_concat (h : isIdle name = false) :
    trimmed ⟨absolute, parts ++ [name]⟩ = ⟨absolute, parts ++ [name]⟩ := by
  unfold trimmed
  split
  · next rest hpath =>
    obtain ⟨rfl, hparts⟩ := FilePath.mk.inj hpath
    obtain ⟨-, hname⟩ | ⟨parts, rfl, rfl⟩ := List.append_eq_cons_iff.mp hparts
    · rw [(List.cons.inj hname).1] at h
      cases h
    · rw [dropIdle_concat, h]
      rfl
  · next hpath =>
    obtain ⟨rfl, rfl⟩ := FilePath.mk.inj hpath
    rw [dropIdle_concat, h]
    rfl

theorem getLast?_trimmed_ne (path : FilePath) : path.trimmed.parts.getLast? ≠ some "" := by
  unfold trimmed
  split
  · next rest =>
    rw [List.getLast?_cons]
    cases hlast : (dropIdle rest).getLast? with
    | none => simp
    | some last =>
        intro heq
        rw [Option.getD_some] at heq
        exact getLast?_dropIdle_ne rest (hlast.trans heq)
  · next parts _ => exact getLast?_dropIdle_ne parts

theorem parent?_concat (absolute : Bool) (parts : List String) (h : IsName name) :
    parent? ⟨absolute, parts ++ [name]⟩ = some (trimmed ⟨absolute, parts⟩) := by
  simp [parent?, trimmed_concat h.not_idle]

/-- A name goes behind what is left of a path. -/
theorem withFileName_concat {old : String} (hold : IsName old) (h : IsName name) :
    withFileName ⟨absolute, parts ++ [old]⟩ name =
      ⟨absolute, (trimmed ⟨absolute, parts⟩).parts ++ [name]⟩ := by
  have hname : fileName? ⟨absolute, parts ++ [old]⟩ = some old := by
    have hpoint : old ≠ "." := by
      rintro rfl
      cases hold.not_idle
    simp [fileName?, trimmed_concat hold.not_idle, hold.ne_up, hpoint]
  simp only [withFileName, hname, parent?_concat absolute parts hold]
  rw [push, if_neg (by simpa using getLast?_trimmed_ne _), trimmed_absolute, partsOf_eq_singleton h]

end FilePath

open FilePath (IsName)

/-- The safe form of a text leads one step further, whatever the text is. -/
theorem isName_safeName (text : String) : IsName (safeName text) := by
  have hslash : '/' ∉ text.toList.map fun c => if isUnsafeInFileName c then '_' else c := by
    intro hmem
    obtain ⟨c, -, hc⟩ := List.mem_map.mp hmem
    split at hc
    · cases hc
    · next hsafe =>
      subst hc
      exact hsafe rfl
  unfold safeName
  generalize hsafe : String.ofList
    (text.toList.map fun c => if isUnsafeInFileName c then '_' else c) = safe
  rw [← String.toList_ofList (l := text.toList.map _), hsafe] at hslash
  dsimp only
  split
  · next hreserved =>
    simp only [Bool.or_eq_true, beq_iff_eq] at hreserved
    obtain (rfl | rfl) | rfl := hreserved
    · exact ⟨by decide, by decide, by decide⟩
    · exact ⟨by decide, by decide, by decide⟩
    · exact ⟨by decide, by decide, by decide⟩
  · next hfree =>
    simp only [Bool.or_eq_true, beq_iff_eq, not_or] at hfree
    exact ⟨by simp [FilePath.isIdle, hfree], hfree.2, hslash⟩

/-- So does a name with an extension, unless the extension leads further. -/
theorem isName_safeNameWith (text : String) {extension : String}
    (h : '/' ∉ extension.toList) : IsName (safeNameWith text extension) := by
  have hname := isName_safeName text
  unfold safeNameWith
  generalize hbare : String.ofList (extension.toList.dropWhile (· == '.')) = bare
  have hslash : '/' ∉ bare.toList := by
    rw [← hbare, String.toList_ofList]
    exact fun hmem => h ((List.dropWhile_sublist _).mem hmem)
  dsimp only
  split
  · exact hname
  · next hnonempty =>
    have hfirst := List.length_pos_iff.mpr hname.toList_ne_nil
    have hlast : 0 < bare.toList.length :=
      List.length_pos_iff.mpr (by simpa using hnonempty)
    apply IsName.of_length
    · simp only [String.toList_append, List.length_append, show ".".toList.length = 1 from rfl]
      omega
    · simp only [String.toList_append, List.mem_append, not_or]
      exact ⟨⟨hname.no_slash, by decide⟩, hslash⟩

theorem safeNameWith_inj {first second extension : String} :
    safeNameWith first extension = safeNameWith second extension ↔
      safeName first = safeName second := by
  unfold safeNameWith
  dsimp only
  split
  · exact Iff.rfl
  · rw [String.append_left_inj, String.append_left_inj]

/-! ### Trees -/

namespace FileTree

variable {tree tree' tree'' : FileTree} {address other : Address} {node : FileNode}

theorem find?_insert (h : tree.find? address ≠ some .directory) :
    (tree.insert address node).find? other =
      if other = address then some node else tree.find? other := by
  by_cases hother : other = address
  · subst hother
    have hplain : (other.isEmpty || other.isOutside) = false := by
      cases houtside : (other.isEmpty || other.isOutside) with
      | false => rfl
      | true => exact absurd (by simp only [find?, houtside, ↓reduceIte]) h
    simp [find?, insert, hplain]
  · have hfilter : (tree.entries.filter (·.1 != address)).find? (·.1 == other) =
        tree.entries.find? (·.1 == other) := by
      rw [List.find?_filter]
      congr 1
      funext entry
      by_cases hentry : entry.1 = other
      · simp [hentry, hother]
      · simp [hentry]
    simp [find?, insert, hother, Ne.symm hother, hfilter]

/-- Directories stay, and so do the files that are not `inside`. -/
structure Kept (inside : Address → Prop) (tree tree' : FileTree) : Prop where
  directory : ∀ {address}, tree.find? address = some .directory →
    tree'.find? address = some .directory
  file : ∀ {address content}, ¬ inside address → tree.find? address = some (.file content) →
    tree'.find? address = some (.file content)

namespace Kept

variable {inside inside' : Address → Prop}

theorem refl (inside : Address → Prop) (tree : FileTree) : Kept inside tree tree :=
  ⟨id, fun _ => id⟩

theorem trans (h : Kept inside tree tree') (h' : Kept inside tree' tree'') :
    Kept inside tree tree'' :=
  ⟨fun hfind => h'.directory (h.directory hfind),
    fun hnot hfind => h'.file hnot (h.file hnot hfind)⟩

theorem mono (h : Kept inside tree tree') (himp : ∀ address, inside address → inside' address) :
    Kept inside' tree tree' :=
  ⟨h.directory, fun hnot => h.file fun hinside => hnot (himp _ hinside)⟩

/-- A directory that is made where nothing was takes nothing away. -/
theorem insert_directory (h : tree.find? address = none) (inside : Address → Prop) :
    Kept inside tree (tree.insert address .directory) := by
  have hfree : tree.find? address ≠ some .directory := by
    rw [h]
    exact nofun
  constructor
  · intro other hother
    rw [find?_insert hfree, if_neg (by rintro rfl; exact hfree hother), hother]
  · intro other content _ hother
    rw [find?_insert hfree, if_neg (by rintro rfl; rw [h] at hother; cases hother), hother]

/-- A file takes the place of none but the one at its own address. -/
theorem insert_file (h : tree.find? address ≠ some .directory) (content : Array UInt8) :
    Kept (· = address) tree (tree.insert address (.file content)) := by
  constructor
  · intro other hother
    rw [find?_insert h, if_neg (by rintro rfl; exact h hother), hother]
  · intro other content hne hother
    rw [find?_insert h, if_neg hne, hother]

end Kept

/-! ### Walks -/

variable {here dir : Address} {parts : List String} {name : String}

theorem walk_append (tree : FileTree) (here : Address) (parts rest : List String) :
    tree.walk here (parts ++ rest) =
      match tree.walk here parts with
      | .ok address => tree.walk address rest
      | .error error => .error error := by
  induction parts generalizing here with
  | nil => rfl
  | cons part parts ih =>
      rw [List.cons_append, walk, walk]
      cases tree.find? here with
      | none => rfl
      | some node =>
          cases node with
          | file content => rfl
          | directory =>
              dsimp only
              split
              · exact ih here
              · split
                · exact ih here.above
                · split
                  · rfl
                  · exact ih (here ++ [part])

/-- A walk goes the same way while the directories stay. -/
theorem Kept.walk {inside : Address → Prop} (h : Kept inside tree tree')
    (hwalk : tree.walk here parts = .ok address) : tree'.walk here parts = .ok address := by
  induction parts generalizing here with
  | nil => exact hwalk
  | cons part parts ih =>
      rw [FileTree.walk] at hwalk ⊢
      cases hhere : tree.find? here with
      | none =>
          rw [hhere] at hwalk
          cases hwalk
      | some node =>
          cases node with
          | file content =>
              rw [hhere] at hwalk
              cases hwalk
          | directory =>
              rw [hhere] at hwalk
              rw [h.directory hhere]
              dsimp only at hwalk ⊢
              split at hwalk
              · next hidle =>
                rw [if_pos hidle]
                exact ih hwalk
              · next hidle =>
                rw [if_neg hidle]
                split at hwalk
                · next hup =>
                  rw [if_pos hup]
                  exact ih hwalk
                · next hup =>
                  rw [if_neg hup]
                  split at hwalk
                  · cases hwalk
                  · next hshort =>
                    rw [if_neg hshort]
                    exact ih hwalk

/-- Where the walk along a path starts. -/
def start (path : FilePath) : Address :=
  if path.absolute then Address.root else []

theorem locateAlong_eq_ok {path : FilePath} {parts : List String} :
    tree.locateAlong path parts = .ok address ↔
      path.check = .ok () ∧ tree.walk (start path) parts = .ok address := by
  rw [locateAlong]
  cases path.check with
  | error error => exact ⟨nofun, nofun⟩
  | ok done => exact ⟨fun h => ⟨rfl, h⟩, fun h => h.2⟩

theorem locate_eq_ok {path : FilePath} :
    tree.locate path = .ok address ↔
      path.check = .ok () ∧ tree.walk (start path) path.parts = .ok address :=
  locateAlong_eq_ok

theorem Kept.locate {inside : Address → Prop} {path : FilePath} (h : Kept inside tree tree')
    (hlocate : tree.locate path = .ok address) : tree'.locate path = .ok address := by
  obtain ⟨hcheck, hwalk⟩ := locate_eq_ok.mp hlocate
  exact locate_eq_ok.mpr ⟨hcheck, h.walk hwalk⟩

/-- A name leads from a directory one step further. -/
theorem walk_concat (hname : IsName name) (hdir : tree.walk here parts = .ok dir)
    (hwalk : tree.walk here (parts ++ [name]) = .ok address) : address = dir ++ [name] := by
  rw [walk_append, hdir] at hwalk
  simp only [walk, hname.not_idle, beq_eq_false_iff_ne.mpr hname.ne_up] at hwalk
  split at hwalk
  · simp only [Bool.false_eq_true, ↓reduceIte] at hwalk
    split at hwalk
    · cases hwalk
    · exact (Except.ok.inj hwalk).symm
  · cases hwalk
  · cases hwalk

end FileTree

/-! ### Filings -/

namespace Filing

open FileTree (Kept)

variable {α β : Type} {tree : FileTree}

/-- Where the filing succeeds, its result and the tree that it leaves behind are as they should
be. -/
def Ensures (filing : Filing α) (tree : FileTree) (post : α → FileTree → Prop) : Prop :=
  ∀ a tree', filing.run tree = (.ok a, tree') → post a tree'

namespace Ensures

variable {post : α → FileTree → Prop}

theorem pure {a : α} (h : post a tree) : Ensures (pure a) tree post := by
  rintro _ _ ⟨⟩
  exact h

theorem bind {filing : Filing α} {next : α → Filing β} {post : β → FileTree → Prop}
    (h : filing.Ensures tree fun a tree' => (next a).Ensures tree' post) :
    (filing >>= next).Ensures tree post := by
  intro b tree'' hrun
  have hbind : (filing >>= next).run tree =
      (ExceptT.bindCont next (filing.run tree).1).run (filing.run tree).2 := rfl
  rw [hbind] at hrun
  rcases hfirst : filing.run tree with ⟨error | a, tree'⟩
  · rw [hfirst] at hrun
    cases hrun
  · rw [hfirst] at hrun
    exact h a tree' hfirst b tree'' hrun

theorem imp {filing : Filing α} {post' : α → FileTree → Prop} (h : filing.Ensures tree post)
    (himp : ∀ a tree', post a tree' → post' a tree') : filing.Ensures tree post' :=
  fun a tree' hrun => himp a tree' (h a tree' hrun)

/-- What each step keeps, all steps keep. -/
theorem forM {step : α → Filing Unit} {holds : FileTree → Prop} (items : List α)
    (hstep : ∀ item ∈ items, ∀ tree, holds tree →
      (step item).Ensures tree fun _ tree' => holds tree') (h : holds tree) :
    (items.forM step).Ensures tree fun _ tree' => holds tree' := by
  induction items generalizing tree with
  | nil => exact pure h
  | cons item items ih =>
      have hfirst := hstep item List.mem_cons_self tree h
      refine bind (hfirst.imp fun _ tree' htree' => ?_)
      exact ih (fun other hother => hstep other (List.mem_cons_of_mem item hother)) htree'

end Ensures

theorem run_get_bind (next : FileTree → Filing α) (tree : FileTree) :
    (get >>= next).run tree = (next tree).run tree := rfl

/-! ### Directories -/

/-- A directory is made where nothing is, and a failure changes nothing. -/
theorem run_makeDirectory (path : FilePath) (tree : FileTree) :
    (∃ error, (makeDirectory path).run tree = (.error error, tree)) ∨
      ∃ address,
        tree.locateAlong path (path.parts.reverse.dropWhile (· == "")).reverse = .ok address ∧
        tree.find? address = none ∧
        (makeDirectory path).run tree = (.ok (), tree.insert address .directory) := by
  rw [makeDirectory, run_get_bind]
  dsimp only
  cases tree.locateAlong path (path.parts.reverse.dropWhile (· == "")).reverse with
  | error error => exact .inl ⟨error, rfl⟩
  | ok address =>
      dsimp only
      cases hfind : tree.find? address with
      | some node => exact .inl ⟨.exists, rfl⟩
      | none => exact .inr ⟨address, rfl, hfind, rfl⟩

theorem run_tryCatch (filing : Filing α) (handle : FileError → Filing α) (tree : FileTree) :
    (tryCatch filing handle).run tree =
      match filing.run tree with
      | (.ok a, tree') => (.ok a, tree')
      | (.error error, tree') => (handle error).run tree' := by
  simp only [tryCatch, tryCatchThe, MonadExceptOf.tryCatch, ExceptT.tryCatch, ExceptT.run,
    ExceptT.mk, Bind.bind, StateT.bind]
  rcases filing tree with ⟨error | a, tree'⟩ <;> rfl

/-- The path leads to a directory. -/
def Reaches (path : FilePath) (tree : FileTree) : Prop :=
  ∃ address, tree.locate path = .ok address ∧ tree.find? address = some .directory

theorem reaches_of_isDirectory {path : FilePath} (h : tree.isDirectory path = true) :
    Reaches path tree := by
  unfold FileTree.isDirectory at h
  cases hlocate : tree.locate path with
  | error error =>
      rw [hlocate] at h
      cases h
  | ok address =>
      rw [hlocate] at h
      exact ⟨address, hlocate, by simpa using h⟩

/-- A directory that was made is found from then on, unless the path ends with a slash. -/
theorem reaches_of_makeDirectory {path : FilePath} {address : Address}
    (hpath : path.parts.getLast? ≠ some "")
    (hlocate : tree.locateAlong path (path.parts.reverse.dropWhile (· == "")).reverse = .ok address)
    (hfree : tree.find? address = none) : Reaches path (tree.insert address .directory) := by
  have hnames : (path.parts.reverse.dropWhile (· == "")).reverse = path.parts := by
    rw [← List.head?_reverse] at hpath
    cases hreverse : path.parts.reverse with
    | nil => simpa using hreverse.symm
    | cons last before =>
        rw [hreverse] at hpath
        rw [List.dropWhile_cons_of_neg (by simpa using hpath), ← hreverse, List.reverse_reverse]
  rw [hnames] at hlocate
  refine ⟨address, (Kept.insert_directory hfree fun _ => False).locate hlocate, ?_⟩
  rw [FileTree.find?_insert (by rw [hfree]; exact nofun), if_pos rfl]

/-- Making a directory leads to one and takes nothing away; a failure changes nothing. -/
theorem run_ensureDirectory (path : FilePath) (tree : FileTree) :
    (∃ error, (ensureDirectory path).run tree = (.error error, tree)) ∨
      ∃ tree', (ensureDirectory path).run tree = (.ok (), tree') ∧
        Kept (fun _ => False) tree tree' ∧
        (path.parts.getLast? ≠ some "" → Reaches path tree') := by
  rw [ensureDirectory, run_tryCatch]
  obtain ⟨error, hrun⟩ | ⟨address, hlocate, hfree, hrun⟩ := run_makeDirectory path tree
  · rw [hrun]
    dsimp only
    rw [run_get_bind]
    split
    · next hthere =>
      rw [Bool.and_eq_true] at hthere
      exact .inr ⟨tree, rfl, .refl _ tree, fun _ => reaches_of_isDirectory hthere.2⟩
    · exact .inl ⟨error, rfl⟩
  · rw [hrun]
    exact .inr ⟨_, rfl, .insert_directory hfree _,
      fun hpath => reaches_of_makeDirectory hpath hlocate hfree⟩

theorem ensures_ensureDirectory (path : FilePath) (tree : FileTree) :
    (ensureDirectory path).Ensures tree fun _ tree' =>
      Kept (fun _ => False) tree tree' ∧ (path.parts.getLast? ≠ some "" → Reaches path tree') := by
  intro done tree' hrun
  obtain ⟨error, herror⟩ | ⟨made, hmade, hkept⟩ := run_ensureDirectory path tree
  · rw [herror] at hrun
    cases hrun
  · rw [hmade] at hrun
    cases hrun
    exact hkept

/-- The first directory of a lineage is made last, whether the others have to be made or not. -/
theorem ensures_ensureLineage {outer : List FilePath}
    (houter : ∀ tree, (ensureLineage outer).Ensures tree fun _ tree' =>
      Kept (fun _ => False) tree tree')
    (path : FilePath) (tree : FileTree) :
    (ensureLineage (path :: outer)).Ensures tree fun _ tree' =>
      Kept (fun _ => False) tree tree' ∧ (path.parts.getLast? ≠ some "" → Reaches path tree') := by
  have hboth : (do ensureLineage outer; ensureDirectory path).Ensures tree fun _ tree' =>
      Kept (fun _ => False) tree tree' ∧ (path.parts.getLast? ≠ some "" → Reaches path tree') := by
    refine .bind ((houter tree).imp fun _ between hbetween => ?_)
    exact (ensures_ensureDirectory path between).imp fun _ _ h => ⟨hbetween.trans h.1, h.2⟩
  intro done tree' hrun
  rw [ensureLineage, run_tryCatch] at hrun
  obtain ⟨error, herror⟩ | ⟨made, hmade, hkept⟩ := run_ensureDirectory path tree
  · rw [herror] at hrun
    dsimp only at hrun
    split at hrun
    · exact hboth done tree' hrun
    · cases hrun
  · rw [hmade] at hrun
    cases hrun
    exact hkept

theorem kept_ensureLineage (paths : List FilePath) (tree : FileTree) :
    (ensureLineage paths).Ensures tree fun _ tree' => Kept (fun _ => False) tree tree' := by
  induction paths generalizing tree with
  | nil => exact .pure (.refl _ tree)
  | cons path outer ih => exact (ensures_ensureLineage ih path tree).imp fun _ _ h => h.1

theorem ensures_makeDirectories {absolute : Bool} {parts : List String} {name : String}
    (hname : IsName name) (tree : FileTree) :
    (makeDirectories ⟨absolute, parts ++ [name]⟩).Ensures tree fun _ tree' =>
      Kept (fun _ => False) tree tree' ∧ Reaches ⟨absolute, parts ++ [name]⟩ tree' := by
  have hlast : (parts ++ [name]).getLast? ≠ some "" := by
    rw [List.getLast?_concat, ne_eq, Option.some.injEq]
    rintro rfl
    cases hname.not_idle
  rw [makeDirectories, FilePath.lineage, FilePath.parent?_concat absolute parts hname]
  exact (ensures_ensureLineage (kept_ensureLineage _) _ tree).imp fun _ _ h => ⟨h.1, h.2 hlast⟩

/-- A file that was written is found. -/
theorem ensures_write (path : FilePath) (content : Array UInt8) (tree : FileTree) :
    (write path content).Ensures tree fun _ tree' =>
      ∃ address, tree.locate path = .ok address ∧
        tree'.find? address = some (.file content) ∧ Kept (· = address) tree tree' := by
  intro done tree' hrun
  rw [write, run_get_bind] at hrun
  cases hlocate : tree.locate path with
  | error error =>
      rw [hlocate] at hrun
      cases hrun
  | ok address =>
      rw [hlocate] at hrun
      dsimp only at hrun
      split at hrun
      · cases hrun
      · next hfree =>
        cases hrun
        refine ⟨address, rfl, ?_, .insert_file hfree content⟩
        rw [FileTree.find?_insert hfree, if_pos rfl]

end Filing

/-! ### Folders -/

namespace FileTree

variable {tree : FileTree} {here address : Address}

/-- Parts that lead nowhere may be left out at the end of a walk. -/
theorem walk_of_concat_idle {parts : List String} {part : String}
    (hidle : FilePath.isIdle part = true) (h : tree.walk here (parts ++ [part]) = .ok address) :
    tree.walk here parts = .ok address := by
  rw [walk_append] at h
  cases hwalk : tree.walk here parts with
  | error error =>
      rw [hwalk] at h
      cases h
  | ok last =>
      rw [hwalk] at h
      simp only [walk, hidle, ↓reduceIte] at h
      split at h
      · exact h
      · cases h
      · cases h

theorem walk_dropIdle {parts : List String} (h : tree.walk here parts = .ok address) :
    tree.walk here (FilePath.dropIdle parts) = .ok address := by
  induction parts using List.reverseRecOn with
  | nil => exact h
  | append_singleton parts part ih =>
      rw [FilePath.dropIdle_concat]
      cases hidle : FilePath.isIdle part with
      | false => exact h
      | true => exact ih (walk_of_concat_idle hidle h)

theorem walk_trimmed (path : FilePath) (h : tree.walk here path.parts = .ok address) :
    tree.walk here path.trimmed.parts = .ok address := by
  unfold FilePath.trimmed
  split
  · next rest =>
    rw [walk] at h ⊢
    cases hhere : tree.find? here with
    | none =>
        rw [hhere] at h
        cases h
    | some node =>
        rw [hhere] at h
        cases node with
        | file content => cases h
        | directory => exact walk_dropIdle h
  · exact walk_dropIdle h

end FileTree

namespace Folder

open FileTree (Kept)

variable {folder : Folder} {tree tree' : FileTree} {dir : Address}

/-- The files of the folder are those of the directory at an address. -/
def Opens (folder : Folder) (tree : FileTree) (dir : Address) : Prop :=
  ∃ base : FilePath, tree.walk (FileTree.start base) base.parts = .ok dir ∧
    ∀ name, IsName name →
      folder.latest.withFileName name = ⟨base.absolute, base.parts ++ [name]⟩

/-- A folder stays open while directories stay. -/
theorem Opens.kept {inside : Address → Prop} (h : folder.Opens tree dir)
    (hkept : Kept inside tree tree') : folder.Opens tree' dir := by
  obtain ⟨base, hwalk, hname⟩ := h
  exact ⟨base, hkept.walk hwalk, hname⟩

/-- A folder opens where its path leads. -/
theorem opens_fresh {path : FilePath} (h : tree.walk (FileTree.start path) path.parts = .ok dir) :
    (fresh path).Opens tree dir := by
  have hplace : IsName "_" := ⟨by decide, by decide, by decide⟩
  generalize hbefore :
    (if path.parts.getLast? == some "" then path.parts.dropLast else path.parts) = before
  have hfresh : fresh path = ⟨⟨path.absolute, before ++ ["_"]⟩⟩ := by
    rw [fresh, FilePath.push, hbefore, FilePath.partsOf_eq_singleton hplace]
  have hwalk : tree.walk (FileTree.start path) before = .ok dir := by
    rw [← hbefore]
    split
    · next hslash =>
      obtain ⟨parts, hparts⟩ := List.getLast?_eq_some_iff.mp (beq_iff_eq.mp hslash)
      rw [hparts] at h ⊢
      rw [List.dropLast_concat]
      exact FileTree.walk_of_concat_idle rfl h
    · exact h
  refine ⟨FilePath.trimmed ⟨path.absolute, before⟩, ?_, fun name hname => ?_⟩
  · rw [FileTree.start, FilePath.trimmed_absolute]
    exact FileTree.walk_trimmed ⟨path.absolute, before⟩ hwalk
  · rw [hfresh, FilePath.withFileName_concat hplace hname, FilePath.trimmed_absolute]

/-- A folder inside opens one step further, and nothing is taken away. -/
theorem Opens.enter (h : folder.Opens tree dir) (name : String) :
    (folder.enter name).Ensures tree fun sub tree' =>
      sub.Opens tree' (dir ++ [safeName name]) ∧ Kept (fun _ => False) tree tree' := by
  obtain ⟨base, hbase, hpath⟩ := h
  have hname := isName_safeName name
  rw [Folder.enter, hpath _ hname, create]
  refine .bind ((Filing.ensures_makeDirectories hname tree).imp fun _ tree' => ?_)
  rintro ⟨hkept, address, hlocate, -⟩
  obtain ⟨-, hwalk⟩ := FileTree.locate_eq_ok.mp hlocate
  have haddress : address = dir ++ [safeName name] :=
    FileTree.walk_concat hname (hkept.walk hbase) hwalk
  subst haddress
  exact .pure ⟨opens_fresh hwalk, hkept⟩

/-- A file that is written lies in the folder, and takes the place of none but the one that has its
name there. -/
theorem Opens.write (h : folder.Opens tree dir) (name : String) {extension : String}
    (hextension : '/' ∉ extension.toList) (text : String) :
    (folder.write name extension text).Ensures tree fun _ tree' =>
      tree'.find? (dir ++ [safeNameWith name extension]) = some (.file text.toUTF8.data) ∧
        Kept (· = dir ++ [safeNameWith name extension]) tree tree' := by
  obtain ⟨base, hbase, hpath⟩ := h
  have hname := isName_safeNameWith name hextension
  rw [Folder.write, moved, hpath _ hname]
  refine (Filing.ensures_write _ _ tree).imp fun _ tree' => ?_
  rintro ⟨address, hlocate, hfile⟩
  obtain ⟨-, hwalk⟩ := FileTree.locate_eq_ok.mp hlocate
  obtain rfl : address = dir ++ [safeNameWith name extension] :=
    FileTree.walk_concat hname hbase hwalk
  exact hfile

end Folder

end LevelScript
