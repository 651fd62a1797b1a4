import LevelScript.CommandLine
import LevelScript.Proofs.Filings
import LevelScript.Proofs.Operands
import LevelScript.Proofs.Traces

/-!
The length field in front of a container.

A file may hold a container alone or behind its length.  The field is told from a container by its
value only, so a container whose name starts with the bytes of its own length, less four, looks as
if it had one.  Every other container is loaded alike with the field and without it: the two runs
read the same level, and from there on they work in step on trees that differ in that one file.
-/

namespace LevelScript

/-! ### Taking the field off -/

namespace Container

/-- A container behind its length. -/
def withLength (body : Bytes) : Bytes :=
  (wordBytes (.ofNat body.size)).toArray ++ body

theorem size_withLength (body : Bytes) : (withLength body).size = body.size + 4 := by
  simp [withLength, wordBytes, length_littleBytes, Nat.add_comm]

/-- What taking the field off comes to, of bytes that are long enough to have one. -/
theorem stripLength_eq {bytes : Bytes} (h : 4 ≤ bytes.size) :
    stripLength bytes =
      if littleEndian (bytes.toList.take 4) + 4 = bytes.size then bytes.extract 4 bytes.size
      else bytes := by
  have hfield : (bytes.extract 0 (0 + 4)).toList = bytes.toList.take 4 := by simp
  have hlt : littleEndian (bytes.toList.take 4) < 2 ^ 32 := by
    have hbound := littleEndian_lt (bytes.toList.take 4)
    rwa [List.length_take_of_le (by simpa using h)] at hbound
  rw [stripLength, wordAt?, if_pos (by omega), hfield]
  dsimp only
  rw [UInt32.toNat_ofNat', Nat.mod_eq_of_lt hlt]
  by_cases hlength : littleEndian (bytes.toList.take 4) + 4 = bytes.size
  · rw [if_pos hlength, if_pos (by omega)]
  · rw [if_neg hlength, if_neg (by omega)]

/-- A field that is there is taken off. -/
theorem stripLength_withLength {body : Bytes} (h : body.size < 2 ^ 32) :
    stripLength (withLength body) = body := by
  have hlength : (wordBytes (.ofNat body.size)).length = 4 := length_littleBytes 4 _
  have hnumber : littleEndian ((withLength body).toList.take 4) = body.size := by
    rw [withLength, Array.toList_append, List.take_left' hlength, wordBytes,
      littleEndian_littleBytes, UInt32.toNat_ofNat', Nat.mod_eq_of_lt h]
    exact Nat.mod_eq_of_lt h
  have hsize := size_withLength body
  rw [stripLength_eq (by omega), if_pos (by omega)]
  apply Array.toList_inj.mp
  rw [Array.toList_extract, List.extract_eq_take_drop, hsize, withLength, Array.toList_append,
    List.drop_left' hlength, List.take_of_length_le (by simp)]

/-- A body is taken for one with a field just if its first four bytes stand for the length of the
rest. -/
theorem stripLength_eq_self_iff {body : Bytes} (h : 4 ≤ body.size) :
    stripLength body = body ↔ littleEndian (body.toList.take 4) + 4 ≠ body.size := by
  rw [stripLength_eq h]
  by_cases hlength : littleEndian (body.toList.take 4) + 4 = body.size
  · rw [if_pos hlength]
    refine iff_of_false (fun heq => ?_) (fun hne => hne hlength)
    have hsize := congrArg Array.size heq
    rw [Array.size_extract] at hsize
    omega
  · rw [if_neg hlength]
    exact iff_of_true rfl hlength

/-- A container starts with its name. -/
theorem take_of_parse {body : Bytes} {container : Container} (h : parse body = .ok container) :
    IsPlain 12 container.name ∧ body.toList.take 12 = paddedBytes 12 container.name := by
  have hrun : read.run body (.start 0) = (.ok container, (read.run body (.start 0)).2) :=
    Prod.ext h rfl
  simp only [read, Scan.run_bind_eq_ok, Scan.run_pure_eq_ok] at hrun
  obtain ⟨name, c, hname, _, _, -, _, _, -, _, _, -, _, _, -, _, _, -, _, _, -, rfl, -⟩ := hrun
  obtain ⟨field, ⟨-, hplain, rfl⟩, hbetween⟩ := Scan.Spells.text 12 body _ _ _ hname
  refine ⟨hplain, ?_⟩
  have hextract := hbetween.extract_eq
  rw [hbetween.stop_eq, length_paddedBytes hplain] at hextract
  rw [← hextract]
  simp [Cursor.start]

/-- The first four bytes of a container are those of its name. -/
theorem take_four_of_parse {body : Bytes} {container : Container}
    (h : parse body = .ok container) :
    4 ≤ body.size ∧ body.toList.take 4 = (paddedBytes 12 container.name).take 4 := by
  obtain ⟨hplain, htake⟩ := take_of_parse h
  have hlength := congrArg List.length htake
  rw [List.length_take, length_paddedBytes hplain, Array.length_toList] at hlength
  refine ⟨by omega, ?_⟩
  rw [← htake, List.take_take]
  rfl

/-- Four characters stand for more bytes than there are in any container of less than half a
gigabyte. -/
theorem le_littleEndian_of_name {name : String} (h : IsPlain 12 name)
    (hlong : 4 ≤ name.toList.length) :
    0x20202020 ≤ littleEndian ((paddedBytes 12 name).take 4) := by
  obtain ⟨a, b, c, d, rest, hname⟩ : ∃ a b c d rest, name.toList = a :: b :: c :: d :: rest := by
    match hchars : name.toList, hlong with
    | a :: b :: c :: d :: rest, _ => exact ⟨a, b, c, d, rest, rfl⟩
  have hbyte : ∀ x ∈ name.toList, 0x20 ≤ (UInt8.ofNat x.toNat).toNat := by
    intro x hx
    rw [h.ofNat_toNat hx]
    exact (h.printable x hx).1
  have hbytes : (paddedBytes 12 name).take 4 =
      [.ofNat a.toNat, .ofNat b.toNat, .ofNat c.toNat, .ofNat d.toNat] := by
    rw [paddedBytes, textBytes, hname]
    rfl
  have ha := hbyte a (by simp [hname])
  have hb := hbyte b (by simp [hname])
  have hc := hbyte c (by simp [hname])
  have hd := hbyte d (by simp [hname])
  rw [hbytes]
  simp only [littleEndian]
  omega

end Container

/-! ### Trees that differ in one file -/

namespace FileTree

theorem read_file {tree : FileTree} {path : FilePath} {address : Address} {content : Array UInt8}
    (hlocate : tree.locate path = .ok address)
    (hfile : tree.find? address = some (.file content)) : tree.read path = .ok content := by
  rw [FileTree.read, hlocate]
  simp only [bind, Except.bind, hfile]

/-- Two trees that differ in nothing but what the file at an address holds. -/
def Twins (address : Address) (content content' : Array UInt8) (tree tree' : FileTree) : Prop :=
  ∀ other, tree'.find? other = tree.find? other ∨
    other = address ∧ tree.find? other = some (.file content) ∧
      tree'.find? other = some (.file content')

namespace Twins

variable {address : Address} {content content' : Array UInt8} {tree tree' : FileTree}

theorem directory (h : Twins address content content' tree tree') (other : Address) :
    tree'.find? other = some .directory ↔ tree.find? other = some .directory := by
  rcases h other with heq | ⟨-, hfile, hfile'⟩
  · rw [heq]
  · rw [hfile, hfile']
    exact iff_of_false nofun nofun

theorem isSome (h : Twins address content content' tree tree') (other : Address) :
    (tree'.find? other).isSome = (tree.find? other).isSome := by
  rcases h other with heq | ⟨-, hfile, hfile'⟩
  · rw [heq]
  · rw [hfile, hfile']
    rfl

/-- A walk does not look into files. -/
theorem walk (h : Twins address content content' tree tree') (here : Address)
    (parts : List String) : tree'.walk here parts = tree.walk here parts := by
  induction parts generalizing here with
  | nil => rfl
  | cons part parts ih =>
      rw [FileTree.walk, FileTree.walk]
      rcases h here with heq | ⟨-, hfile, hfile'⟩
      · rw [heq, ih, ih, ih]
      · rw [hfile, hfile']

theorem locateAlong (h : Twins address content content' tree tree') (path : FilePath)
    (parts : List String) : tree'.locateAlong path parts = tree.locateAlong path parts := by
  rw [FileTree.locateAlong, FileTree.locateAlong, h.walk]

theorem locate (h : Twins address content content' tree tree') (path : FilePath) :
    tree'.locate path = tree.locate path :=
  h.locateAlong path path.parts

theorem isDirectory (h : Twins address content content' tree tree') (path : FilePath) :
    tree'.isDirectory path = tree.isDirectory path := by
  rw [FileTree.isDirectory, FileTree.isDirectory, h.locate]
  cases tree.locate path with
  | error error => rfl
  | ok other =>
      dsimp only
      rw [Bool.eq_iff_iff, beq_iff_eq, beq_iff_eq]
      exact h.directory other

/-- Every other file is read alike. -/
theorem read (h : Twins address content content' tree tree') {path : FilePath}
    (hother : tree.locate path ≠ .ok address) : tree'.read path = tree.read path := by
  rw [FileTree.read, FileTree.read, h.locate]
  cases hlocate : tree.locate path with
  | error error => rfl
  | ok other =>
      rcases h other with heq | ⟨rfl, -, -⟩
      · simp only [bind, Except.bind, heq]
      · exact absurd hlocate hother

/-- Whatever is put anywhere, the trees are twins still. -/
theorem insert (h : Twins address content content' tree tree') {other : Address}
    (hfree : tree.find? other ≠ some .directory) (node : FileNode) :
    Twins address content content' (tree.insert other node) (tree'.insert other node) := by
  have hfree' : tree'.find? other ≠ some .directory := fun hdir => hfree ((h.directory other).mp hdir)
  intro third
  rw [find?_insert hfree, find?_insert hfree']
  split
  · exact .inl rfl
  · exact h third

/-- Two files that are put at the same address of a tree. -/
theorem of_insert (hfree : tree.find? address ≠ some .directory) :
    Twins address content content' (tree.insert address (.file content))
      (tree.insert address (.file content')) := by
  intro other
  rw [find?_insert hfree, find?_insert hfree]
  split
  · next hother => exact .inr ⟨hother, rfl, rfl⟩
  · exact .inl rfl

end Twins

end FileTree

/-! ### Two runs in step -/

/-- Two runs, each with a tree of its own, that give the same and leave trees that are alike. -/
def InStep {ε α : Type} (alike : FileTree → FileTree → Prop)
    (work work' : ExceptT ε (StateM FileTree) α) (tree tree' : FileTree) : Prop :=
  (work'.run tree').1 = (work.run tree).1 ∧ alike (work.run tree).2 (work'.run tree').2

namespace InStep

variable {ε α β : Type} {alike : FileTree → FileTree → Prop} {tree tree' : FileTree}

theorem pure (h : alike tree tree') (a : α) :
    InStep alike (Pure.pure a : ExceptT ε (StateM FileTree) α) (Pure.pure a) tree tree' :=
  ⟨rfl, h⟩

theorem throw (h : alike tree tree') (error : ε) :
    InStep alike (throw error : ExceptT ε (StateM FileTree) α) (throw error) tree tree' :=
  ⟨rfl, h⟩

theorem set {later later' : FileTree} (h : alike later later') :
    InStep alike (set later : ExceptT ε (StateM FileTree) Unit) (set later') tree tree' :=
  ⟨rfl, h⟩

theorem get {next next' : FileTree → ExceptT ε (StateM FileTree) α}
    (h : InStep alike (next tree) (next' tree') tree tree') :
    InStep alike (get >>= next) (get >>= next') tree tree' :=
  h

theorem bind {work work' : ExceptT ε (StateM FileTree) α}
    {next next' : α → ExceptT ε (StateM FileTree) β} (h : InStep alike work work' tree tree')
    (hnext : ∀ a later later', alike later later' → InStep alike (next a) (next' a) later later') :
    InStep alike (work >>= next) (work' >>= next') tree tree' := by
  obtain ⟨hresult, hlater⟩ := h
  rw [InStep, run_bind_tree, run_bind_tree]
  rcases hwork : work.run tree with ⟨result, later⟩
  rcases hwork' : work'.run tree' with ⟨result', later'⟩
  rw [hwork, hwork'] at hresult hlater
  obtain rfl : result' = result := hresult
  cases result' with
  | error error => exact ⟨rfl, hlater⟩
  | ok a => exact hnext a later later' hlater

/-- Work that only reads, and reads the same, leaves the trees as they are. -/
theorem bind_of_reads {work work' : ExceptT ε (StateM FileTree) α}
    {next next' : α → ExceptT ε (StateM FileTree) β} {result : Except ε α}
    (h : alike tree tree') (hwork : work.run tree = (result, tree))
    (hwork' : work'.run tree' = (result, tree'))
    (hnext : ∀ a, InStep alike (next a) (next' a) tree tree') :
    InStep alike (work >>= next) (work' >>= next') tree tree' := by
  rw [InStep, run_bind_tree, run_bind_tree, hwork, hwork']
  cases result with
  | error error => exact ⟨rfl, h⟩
  | ok a => exact hnext a

end InStep

/-- Filing that two trees of a kind cannot be told apart by. -/
def Filing.Steady {α : Type} (alike : FileTree → FileTree → Prop) (filing : Filing α) : Prop :=
  ∀ tree tree', alike tree tree' → InStep alike filing filing tree tree'

namespace Filing.Steady

variable {α β : Type} {alike : FileTree → FileTree → Prop}

theorem pure (a : α) : Steady alike (pure a) :=
  fun _ _ h => .pure h a

theorem throw (error : FileError) : Steady alike (throw error : Filing α) :=
  fun _ _ h => .throw h error

theorem bind {filing : Filing α} {next : α → Filing β} (h : filing.Steady alike)
    (hnext : ∀ a, (next a).Steady alike) : (filing >>= next).Steady alike :=
  fun tree tree' halike => (h tree tree' halike).bind fun a => hnext a

theorem forM {step : α → Filing Unit} (items : List α) (hstep : ∀ item, (step item).Steady alike) :
    (items.forM step).Steady alike := by
  induction items with
  | nil => exact pure ()
  | cons item items ih => exact bind (hstep item) fun _ => ih

theorem tryCatch {filing : Filing α} {handle : FileError → Filing α} (h : filing.Steady alike)
    (hhandle : ∀ error, (handle error).Steady alike) :
    (tryCatch filing handle).Steady alike := by
  intro tree tree' halike
  obtain ⟨hresult, hlater⟩ := h tree tree' halike
  rw [InStep, run_tryCatch, run_tryCatch]
  rcases hfiling : filing.run tree with ⟨result, later⟩
  rcases hfiling' : filing.run tree' with ⟨result', later'⟩
  rw [hfiling, hfiling'] at hresult hlater
  obtain rfl : result' = result := hresult
  cases result' with
  | error error => exact hhandle error later later' hlater
  | ok a => exact ⟨rfl, hlater⟩

section Twins

variable {address : Address} {content content' : Array UInt8}

theorem makeDirectory (path : FilePath) :
    (makeDirectory path).Steady (FileTree.Twins address content content') := by
  intro tree tree' h
  refine .get ?_
  dsimp only
  rw [h.locateAlong]
  cases tree.locateAlong path (path.parts.reverse.dropWhile (· == "")).reverse with
  | error error => exact .throw h error
  | ok other =>
      dsimp only
      rw [h.isSome]
      split
      · exact .throw h _
      · next hnone => exact .set (h.insert (by rintro hdir; simp [hdir] at hnone) _)

theorem ensureDirectory (path : FilePath) :
    (ensureDirectory path).Steady (FileTree.Twins address content content') := by
  refine tryCatch (makeDirectory path) fun error tree tree' h => ?_
  refine .get ?_
  rw [h.isDirectory]
  split
  · exact .pure h ()
  · exact .throw h error

theorem ensureLineage (paths : List FilePath) :
    (ensureLineage paths).Steady (FileTree.Twins address content content') := by
  induction paths with
  | nil => exact pure ()
  | cons path outer ih =>
      refine tryCatch (ensureDirectory path) fun error => ?_
      split
      · exact bind ih fun _ => ensureDirectory path
      · exact throw error

theorem write (path : FilePath) (data : Array UInt8) :
    (write path data).Steady (FileTree.Twins address content content') := by
  intro tree tree' h
  refine .get ?_
  rw [h.locate]
  cases tree.locate path with
  | error error => exact .throw h error
  | ok other =>
      dsimp only
      rw [if_congr (h.directory other) rfl rfl]
      split
      · exact .throw h _
      · next hfree => exact .set (h.insert hfree _)

end Twins

end Filing.Steady

namespace Folder

open Filing

variable {address : Address} {content content' : Array UInt8}

theorem create_steady (path : FilePath) :
    (create path).Steady (FileTree.Twins address content content') :=
  .bind (.ensureLineage path.lineage) fun _ => .pure _

theorem enter_steady (folder : Folder) (name : String) :
    (folder.enter name).Steady (FileTree.Twins address content content') :=
  create_steady _

theorem write_steady (folder : Folder) (name extension text : String) :
    (folder.write name extension text).Steady (FileTree.Twins address content content') :=
  .write _ _

theorem writeList_steady (folder : Folder) (name : String) (texts : List String) :
    (folder.writeList name texts).Steady (FileTree.Twins address content content') := by
  unfold writeList
  split
  · exact .pure ()
  · exact write_steady folder name "txt" _

theorem writeActorScripts_steady (folder : Folder) (graph : CallGraph) (name : String) :
    (folder.writeActorScripts graph name).Steady (FileTree.Twins address content content') := by
  refine .bind (enter_steady folder name) fun own => ?_
  refine .bind (.forM _ fun offset => ?_) fun _ => ?_
  · cases graph.find? offset with
    | none => exact .pure ()
    | some script => exact write_steady own _ "txt" _
  · exact .bind (writeList_steady own _ _) fun _ =>
      writeList_steady own _ _

theorem writeSetupLogs_steady (folder : Folder) (arena : Arena) :
    (folder.writeSetupLogs arena).Steady (FileTree.Twins address content content') := by
  unfold writeSetupLogs
  split
  · exact .pure ()
  · refine .bind (enter_steady folder "Setup") fun setup => ?_
    exact .forM _ fun entry => write_steady setup entry.1 "txt" _

theorem writeArena_steady (folder : Folder) (arena : Arena) :
    (folder.writeArena arena).Steady (FileTree.Twins address content content') := by
  refine .bind (enter_steady folder arena.name) fun own => ?_
  refine .bind (write_steady own arena.name "txt" _) fun _ => ?_
  refine .bind (.forM _ fun entry => ?_) fun _ => ?_
  · exact write_steady own entry.1 "txt" _
  · exact writeSetupLogs_steady own arena

theorem writeLevel_steady (folder : Folder) (level : Level) (summary : Bool) :
    (folder.writeLevel level summary).Steady (FileTree.Twins address content content') := by
  refine .bind (enter_steady folder level.name) fun own => ?_
  have hrest : (do level.arenas.toList.forM own.writeArena
                   let scripts ← own.enter "Scripts"
                   scripts.writeScripts level.scripts : Filing Unit).Steady
      (FileTree.Twins address content content') := by
    refine .bind (.forM _ (writeArena_steady own)) fun _ => ?_
    refine .bind (enter_steady own "Scripts") fun scripts => ?_
    exact .forM _ (writeActorScripts_steady scripts level.scripts)
  cases summary with
  | false => exact hrest
  | true =>
      exact .bind (write_steady own "summary" "json" _) fun _ => hrest

end Folder

/-! ### The command line -/

/-- The level is read from the file at an address, and nothing else is. -/
structure Arguments.LoadsFrom (arguments : Arguments) (tree : FileTree) (address : Address) :
    Prop where
  level : tree.locate (.parse arguments.level) = .ok address
  settings : ∀ path, arguments.settings = some path → tree.locate (.parse path) ≠ .ok address
  survey : ∀ path, arguments.survey = some path → tree.locate (.parse path) ≠ .ok address

namespace Job

variable {address : Address} {content content' : Array UInt8} {tree tree' : FileTree}
  {arguments : Arguments}

theorem run_filing {α : Type} (work : Filing α) (failure : FileError → JobError)
    (tree : FileTree) :
    (filing work failure).run tree =
      match work.run tree with
      | (.ok a, tree) => (.ok a, tree)
      | (.error error, tree) => (.error (failure error), tree) := rfl

theorem filing_inStep {α : Type} {alike : FileTree → FileTree → Prop} {work : Filing α}
    (h : work.Steady alike) (failure : FileError → JobError) {tree tree' : FileTree}
    (halike : alike tree tree') :
    InStep alike (filing work failure) (filing work failure) tree tree' := by
  obtain ⟨hresult, hlater⟩ := h tree tree' halike
  rw [InStep, run_filing, run_filing]
  rcases hwork : work.run tree with ⟨result, later⟩
  rcases hwork' : work.run tree' with ⟨result', later'⟩
  rw [hwork, hwork'] at hresult hlater
  obtain rfl : result' = result := hresult
  cases result' with
  | error error => exact ⟨rfl, hlater⟩
  | ok a => exact ⟨rfl, hlater⟩

theorem check_ok {ε α : Type} (a : α) (failure : ε → JobError) :
    check (.ok a) failure = pure a := rfl

/-- Work whose result does not hang on the tree, and which leaves the tree as it is. -/
def Still {α : Type} (job : Job α) : Prop :=
  ∃ result, ∀ tree, job.run tree = (result, tree)

theorem Still.pure {α : Type} (a : α) : Still (Pure.pure a) :=
  ⟨.ok a, fun _ => rfl⟩

theorem Still.check {ε α : Type} (result : Except ε α) (failure : ε → JobError) :
    Still (check result failure) := by
  cases result with
  | error error => exact ⟨.error (failure error), fun _ => rfl⟩
  | ok a => exact ⟨.ok a, fun _ => rfl⟩

theorem Still.bind {α β : Type} {job : Job α} {next : α → Job β} (h : Still job)
    (hnext : ∀ a, Still (next a)) : Still (job >>= next) := by
  obtain ⟨result, hresult⟩ := h
  cases result with
  | error error => exact ⟨.error error, fun tree => by rw [run_bind_tree, hresult]⟩
  | ok a =>
      obtain ⟨later, hlater⟩ := hnext a
      exact ⟨later, fun tree => by rw [run_bind_tree, hresult]; exact hlater tree⟩

section Twins

variable {address : Address} {content content' : Array UInt8} {tree tree' : FileTree}
  {arguments : Arguments}

/-- What is read from another file is the same. -/
theorem reads_alike {α : Type} (h : FileTree.Twins address content content' tree tree')
    {path : FilePath} (hpath : tree.locate path ≠ .ok address)
    {next : Except FileError (Array UInt8) → Job α} (hnext : ∀ read, Still (next read)) :
    ∃ result, (do let tree ← get; next (tree.read path)).run tree = (result, tree) ∧
      (do let tree ← get; next (tree.read path)).run tree' = (result, tree') := by
  obtain ⟨result, hresult⟩ := hnext (tree.read path)
  refine ⟨result, hresult tree, ?_⟩
  have hresult' := hresult tree'
  rwa [← h.read hpath] at hresult'

theorem settings_reads (h : FileTree.Twins address content content' tree tree')
    (hpath : ∀ path, arguments.settings = some path → tree.locate (.parse path) ≠ .ok address) :
    ∃ result, (settings arguments).run tree = (result, tree) ∧
      (settings arguments).run tree' = (result, tree') := by
  unfold settings
  cases hsettings : arguments.settings with
  | none => exact ⟨_, rfl, rfl⟩
  | some path =>
      -- What the arguments change in the settings hangs on no file.
      have hnext (change : Settings → Settings) (read : Except FileError (Array UInt8)) :
          Still (do
            let base ← check (Settings.ofFile read.toOption) fun _ => .settings path
            return change base) :=
        (Still.check _ _).bind fun _ => .pure _
      have hreads (change : Settings → Settings) :=
        reads_alike h (hpath path hsettings) (hnext change)
      exact hreads _

theorem placements_reads (h : FileTree.Twins address content content' tree tree')
    (hpath : ∀ path, arguments.survey = some path → tree.locate (.parse path) ≠ .ok address) :
    ∃ result, (placements arguments).run tree = (result, tree) ∧
      (placements arguments).run tree' = (result, tree') := by
  unfold placements
  cases hsurvey : arguments.survey with
  | none => exact ⟨_, rfl, rfl⟩
  | some path =>
      have hnext : ∀ read : Except FileError (Array UInt8), Still (do
          let bytes ← check read (.reading path)
          let survey ← check (Survey.parse bytes) (.parsing path)
          return survey.placements) :=
        fun read => (Still.check _ _).bind fun _ => (Still.check _ _).bind fun _ => .pure _
      obtain ⟨result, hresult⟩ := reads_alike h (hpath path hsurvey) hnext
      exact ⟨result, hresult⟩

/-- Two files that are the same without their length field are loaded in step. -/
theorem load_inStep (h : FileTree.Twins address content content' tree tree')
    (hloads : arguments.LoadsFrom tree address)
    (hfile : tree.find? address = some (.file content))
    (hfile' : tree'.find? address = some (.file content'))
    (hstrip : Container.stripLength content' = Container.stripLength content) :
    InStep (FileTree.Twins address content content') (load arguments) (load arguments) tree
      tree' := by
  have hlocate' : tree'.locate (.parse arguments.level) = .ok address := by
    rw [h.locate, hloads.level]
  obtain ⟨_, hsettings, hsettings'⟩ := settings_reads h hloads.settings
  refine .bind_of_reads h hsettings hsettings' fun settings => ?_
  obtain ⟨_, hplacements, hplacements'⟩ := placements_reads h hloads.survey
  refine .bind_of_reads h hplacements hplacements' fun placements => .get ?_
  rw [FileTree.read_file hloads.level hfile, FileTree.read_file hlocate' hfile', check_ok, check_ok,
    pure_bind, pure_bind, hstrip]
  obtain ⟨_, hlevel⟩ := Still.check
    (loadLevel settings placements (Container.stripLength content)).result
    (JobError.loading arguments.level)
  refine .bind_of_reads h (hlevel tree) (hlevel tree') fun level => ?_
  refine .bind (filing_inStep (Folder.create_steady _) _ h) fun folder later later' hlater => ?_
  exact filing_inStep (Folder.writeLevel_steady folder level _) _ hlater

end Twins

end Job

/-- Work in step is reported alike. -/
theorem runCommandLine_of_inStep {words : List String} {arguments : Arguments}
    {alike : FileTree → FileTree → Prop} {tree tree' : FileTree}
    (hwords : Request.parse words = .load arguments)
    (h : InStep alike (Job.load arguments) (Job.load arguments) tree tree') :
    (runCommandLine words tree').1 = (runCommandLine words tree).1 ∧
      alike (runCommandLine words tree).2 (runCommandLine words tree').2 := by
  obtain ⟨hresult, hlater⟩ := h
  simp only [runCommandLine, hwords]
  rcases hload : (Job.load arguments).run tree with ⟨result, later⟩
  rcases hload' : (Job.load arguments).run tree' with ⟨result', later'⟩
  rw [hload, hload'] at hresult hlater
  obtain rfl : result' = result := hresult
  cases result' with
  | error error => exact ⟨rfl, hlater⟩
  | ok done => exact ⟨rfl, hlater⟩

/-- The length field of a container is taken off where it is there.  A container without one is left
alone, unless the first four bytes of its name are the field that the rest of it would have; for
that a name of four characters is too much, in less than half a gigabyte.  A container that is left
alone is loaded alike with the field and without it: the command line reports the same, and leaves
trees behind that differ at most in that file. -/
theorem runCommandLine_withLength {body : Bytes} {container : Container}
    (hparse : Container.parse body = .ok container) (hsize : body.size < 2 ^ 32) :
    Container.stripLength (Container.withLength body) = body ∧
      (Container.stripLength body = body ↔
        littleEndian ((paddedBytes 12 container.name).take 4) + 4 ≠ body.size) ∧
      (4 ≤ container.name.toList.length → body.size < 0x20202024 →
        Container.stripLength body = body) ∧
      (Container.stripLength body = body →
        ∀ (words : List String) (arguments : Arguments) (tree : FileTree) (address : Address),
          let bare := tree.insert address (.file body)
          let framed := tree.insert address (.file (Container.withLength body))
          Request.parse words = .load arguments → tree.find? address ≠ some .directory →
          arguments.LoadsFrom bare address →
          (runCommandLine words framed).1 = (runCommandLine words bare).1 ∧
            FileTree.Twins address body (Container.withLength body) (runCommandLine words bare).2
              (runCommandLine words framed).2) := by
  obtain ⟨hlong, hfour⟩ := Container.take_four_of_parse hparse
  have hself := Container.stripLength_eq_self_iff hlong
  rw [hfour] at hself
  have hstrip := Container.stripLength_withLength hsize
  refine ⟨hstrip, hself, ?_, ?_⟩
  · intro hname hshort
    have hle := Container.le_littleEndian_of_name (Container.take_of_parse hparse).1 hname
    exact hself.mpr (by omega)
  · intro hbare words arguments tree address bare framed hwords hfree hloads
    have hfile (content : Array UInt8) :
        (tree.insert address (.file content)).find? address = some (.file content) := by
      rw [FileTree.find?_insert hfree, if_pos rfl]
    exact runCommandLine_of_inStep hwords
      (Job.load_inStep (.of_insert hfree) hloads (hfile _) (hfile _) (hstrip.trans hbare.symm))

/-- A level is given with its length field and without it, in an otherwise empty directory. -/
theorem runCommandLine_withLength_lonely :
    let bare := FileTree.empty.insert ["L.CMI"] (.file Bytes.lonely)
    let framed := FileTree.empty.insert ["L.CMI"] (.file (Container.withLength .lonely))
    Container.parse .lonely = .ok .lonely ∧ Container.stripLength .lonely = .lonely ∧
      (runCommandLine ["L.CMI", "--ticks=2"] framed).1 =
        (runCommandLine ["L.CMI", "--ticks=2"] bare).1 := by
  intro bare framed
  have hparse : Container.parse .lonely = .ok .lonely := by decide +kernel
  obtain ⟨-, hself, -, hrun⟩ := runCommandLine_withLength hparse (by decide)
  have hbare : Container.stripLength .lonely = .lonely := hself.mpr (by decide)
  have hwords : Request.parse ["L.CMI", "--ticks=2"] =
      .load ⟨"L.CMI", none, "output", none, some 2, true⟩ := by decide +kernel
  have hloads : Arguments.LoadsFrom ⟨"L.CMI", none, "output", none, some 2, true⟩ bare
      ["L.CMI"] := ⟨by decide +kernel, nofun, nofun⟩
  have hsame := hrun hbare _ _ FileTree.empty ["L.CMI"] hwords (by decide) hloads
  exact ⟨hparse, hbare, hsame.1⟩

/-- Eighty bytes that are a container named `L`, and also the length of a container without a name
and that container. -/
def Bytes.ambiguous : Bytes :=
  #[76] ++ Array.replicate 79 0

/-- A container that is not left alone.  Nothing else would do: what is left of it is a container as
well, and the bytes are just that one behind its length. -/
theorem Container.stripLength_ambiguous :
    (∃ container, parse .ambiguous = .ok container) ∧ Bytes.ambiguous.size < 2 ^ 32 ∧
      stripLength .ambiguous ≠ .ambiguous ∧
      (∃ container, parse (Array.replicate 76 0) = .ok container) ∧
      withLength (Array.replicate 76 0) = .ambiguous := by
  refine ⟨⟨⟨"L", 0, [], [], [], []⟩, ?_⟩, ?_, ?_, ⟨⟨"", 0, [], [], [], []⟩, ?_⟩, ?_⟩
  · decide +kernel
  · decide +kernel
  · decide +kernel
  · decide +kernel
  · decide +kernel

end LevelScript
