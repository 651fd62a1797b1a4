import LevelScript.Play
import LevelScript.Proofs.Folders
import Mathlib.Data.List.Forall2

/-!
Traces as files.

Every actor of a level leaves its trace in a file of the directory of its arena.  A file is lost
only to a later one of the same name, and names that differ may have the same safe form: then the
later trace takes the place of the earlier one.  Where the safe forms differ, every trace is kept.
-/

namespace LevelScript

/-! ### The traces of an arena -/

theorem length_freeNames (used bases : List String) :
    (freeNames used bases).length = bases.length := by
  induction bases generalizing used with
  | nil => rfl
  | cons base bases ih => rw [freeNames, List.length_cons, List.length_cons, ih]

namespace Arena

/-- The traces that are written for an arena, each with its name: first its own. -/
def traces (arena : Arena) : List (String × Actor) :=
  (arena.name, arena.self) :: arena.traceNames.zip arena.live.toList

/-- No actor is left out. -/
theorem map_snd_traces (arena : Arena) :
    arena.traces.map Prod.snd = arena.self :: arena.live.toList := by
  have hlength : arena.live.toList.length ≤ arena.traceNames.length := by
    simp [traceNames, length_freeNames]
  rw [traces, List.map_cons, List.map_snd_zip hlength]

/-- The actors of the arena have files of these names in a directory, no two of them the same one,
and the file of each holds its trace. -/
structure Filed (arena : Arena) (tree : FileTree) (dir : Address) (files : List String) : Prop where
  nodup : files.Nodup
  content : List.Forall₂
    (fun actor file => tree.find? (dir ++ [file]) = some (.file actor.trace.toUTF8.data))
    (arena.self :: arena.live.toList) files

/-- A trace that is nowhere in a tree is in none of its files. -/
theorem not_filed {arena : Arena} {tree : FileTree} {actor : Actor} (hactor : actor ∈ arena.live)
    (h : ∀ entry ∈ tree.entries, entry.2 ≠ .file actor.trace.toUTF8.data) (dir : Address)
    (files : List String) : ¬ arena.Filed tree dir files := by
  intro hfiled
  have hsome := (List.forall₂_and_left _ _).mp (hfiled.content.imp fun _ file hfile =>
    And.intro (Exists.intro file hfile) hfile)
  obtain ⟨file, hfile⟩ := hsome.1 actor (List.mem_cons_of_mem _ (Array.mem_toList_iff.mpr hactor))
  unfold FileTree.find? at hfile
  split at hfile
  · cases hfile
  · obtain ⟨entry, hentry, hnode⟩ := Option.map_eq_some_iff.mp hfile
    exact h entry (List.mem_of_find?_eq_some hentry) hnode

end Arena

theorem ne_of_nodup_map {α : Type} {name : α → String} {before after : List α} {item : α}
    (h : ((before ++ item :: after).map name).Nodup) : ∀ later ∈ after, name later ≠ name item := by
  intro later hlater heq
  rw [List.map_append, List.map_cons] at h
  have hafter := (List.nodup_cons.mp (List.nodup_append.mp h).2.1).1
  exact hafter (heq ▸ List.mem_map_of_mem hlater)

/-- A file that is written for an entry whose name no later one shares, and what it holds. -/
def Lasts (entries : List (String × Actor)) (file : String) (content : Array UInt8) : Prop :=
  ∃ before entry after, entries = before ++ entry :: after ∧
    (∀ later ∈ after, safeName later.1 ≠ safeName entry.1) ∧
    file = safeNameWith entry.1 "txt" ∧ content = entry.2.trace.toUTF8.data

/-- Where no two names are the same, every entry lasts. -/
theorem lasts_of_nodup {entries : List (String × Actor)}
    (h : (entries.map fun entry => safeName entry.1).Nodup) {entry : String × Actor}
    (hentry : entry ∈ entries) :
    Lasts entries (safeNameWith entry.1 "txt") entry.2.trace.toUTF8.data := by
  obtain ⟨before, after, rfl⟩ := List.append_of_mem hentry
  exact ⟨before, entry, after, rfl, ne_of_nodup_map h, rfl, rfl⟩

namespace Folder

open FileTree (Kept)

variable {folder : Folder} {tree : FileTree} {dir : Address}

/-! ### Writing one after the other -/

/-- What a step leaves in a folder is there at the end, unless a later step is about the same
address. -/
theorem Opens.forM {α : Type} {step : α → Filing Unit} (inside : α → Address → Prop)
    (leaves : α → Address → Array UInt8 → Prop) (items : List α)
    (hstep : ∀ item ∈ items, ∀ tree, folder.Opens tree dir →
      (step item).Ensures tree fun _ tree' =>
        (∀ address content, leaves item address content →
          tree'.find? address = some (.file content)) ∧ Kept (inside item) tree tree')
    (h : folder.Opens tree dir) :
    (items.forM step).Ensures tree fun _ tree' =>
      (∀ before item after, items = before ++ item :: after →
        ∀ address content, leaves item address content → (∀ later ∈ after, ¬ inside later address) →
          tree'.find? address = some (.file content)) ∧
        Kept (fun address => ∃ item ∈ items, inside item address) tree tree' := by
  induction items generalizing tree with
  | nil => exact .pure ⟨by simp, .refl _ tree⟩
  | cons item items ih =>
      refine .bind ((hstep item List.mem_cons_self tree h).imp fun _ between => ?_)
      rintro ⟨hleaves, hfirst⟩
      refine (ih (fun other hother => hstep other (List.mem_cons_of_mem item hother))
        (h.kept hfirst)).imp fun _ tree' => ?_
      rintro ⟨hall, hrest⟩
      refine ⟨?_, (hfirst.mono fun address hinside => ?_).trans (hrest.mono ?_)⟩
      · intro before other after hitems address content hother hlater
        cases before with
        | nil =>
            obtain ⟨rfl, rfl⟩ := List.cons.inj hitems
            apply hrest.file ?_ (hleaves address content hother)
            rintro ⟨later, hmem, hinside⟩
            exact hlater later hmem hinside
        | cons first before =>
            exact hall before other after (List.cons.inj hitems).2 address content hother hlater
      · exact ⟨item, List.mem_cons_self, hinside⟩
      · rintro address ⟨other, hother, hinside⟩
        exact ⟨other, List.mem_cons_of_mem item hother, hinside⟩

/-- Traces that are written one after the other: the latest of a name lasts. -/
theorem Opens.writeTraces (h : folder.Opens tree dir) (entries : List (String × Actor)) :
    (entries.forM fun (name, actor) => folder.write name "txt" actor.trace : Filing Unit).Ensures
      tree fun _ tree' =>
        (∀ file content, Lasts entries file content →
          tree'.find? (dir ++ [file]) = some (.file content)) ∧ Kept (dir <+: ·) tree tree' := by
  refine (Opens.forM (fun entry address => address = dir ++ [safeNameWith entry.1 "txt"])
    (fun entry address content =>
      address = dir ++ [safeNameWith entry.1 "txt"] ∧ content = entry.2.trace.toUTF8.data)
    entries ?_ h).imp ?_
  · intro entry _ tree hopens
    refine (hopens.write entry.1 (by decide) entry.2.trace).imp fun _ tree' => ?_
    rintro ⟨hfile, hkept⟩
    refine ⟨?_, hkept⟩
    rintro _ _ ⟨rfl, rfl⟩
    exact hfile
  · intro _ tree'
    rintro ⟨hleft, hkept⟩
    constructor
    · rintro _ _ ⟨before, entry, after, hentries, hlater, rfl, rfl⟩
      refine hleft before entry after hentries _ _ ⟨rfl, rfl⟩ fun later hmem heq => ?_
      have hfile := (List.cons.inj (List.append_cancel_left heq)).1
      exact hlater later hmem (safeNameWith_inj.mp hfile).symm
    · refine hkept.mono ?_
      rintro address ⟨entry, -, rfl⟩
      exact List.prefix_append dir _

/-! ### What lies in a folder of its own -/

/-- Files that are written into a folder touch nothing outside it. -/
theorem Opens.write_within (h : folder.Opens tree dir) (name text : String) :
    (folder.write name "txt" text).Ensures tree fun _ tree' => Kept (dir <+: ·) tree tree' := by
  refine (h.write name (by decide) text).imp fun _ tree' hwritten => hwritten.2.mono ?_
  rintro address rfl
  exact List.prefix_append dir _

theorem Opens.forM_within {α : Type} {step : α → Filing Unit} (items : List α)
    (hstep : ∀ item ∈ items, ∀ tree, folder.Opens tree dir →
      (step item).Ensures tree fun _ tree' => Kept (dir <+: ·) tree tree')
    (h : folder.Opens tree dir) :
    (items.forM step).Ensures tree fun _ tree' => Kept (dir <+: ·) tree tree' := by
  refine Filing.Ensures.forM items (fun item hitem between hbetween => ?_) (.refl _ tree)
  exact (hstep item hitem between (h.kept hbetween)).imp fun _ _ => hbetween.trans

/-- Writing into a folder inside touches nothing outside that folder. -/
theorem Opens.enter_within {next : Folder → Filing Unit} (h : folder.Opens tree dir)
    (name : String)
    (hnext : ∀ sub tree, sub.Opens tree (dir ++ [safeName name]) →
      (next sub).Ensures tree fun _ tree' => Kept (dir ++ [safeName name] <+: ·) tree tree') :
    (folder.enter name >>= next).Ensures tree fun _ tree' =>
      Kept (dir ++ [safeName name] <+: ·) tree tree' := by
  refine .bind ((h.enter name).imp fun sub between => ?_)
  rintro ⟨hsub, hkept⟩
  refine (hnext sub between hsub).imp fun _ tree' hrest => ?_
  exact (hkept.mono fun _ => False.elim).trans hrest

theorem Opens.writeSetupLogs (h : folder.Opens tree dir) (arena : Arena) :
    (folder.writeSetupLogs arena).Ensures tree fun _ tree' =>
      Kept (dir ++ ["Setup"] <+: ·) tree tree' := by
  unfold Folder.writeSetupLogs
  split
  · exact .pure (.refl _ tree)
  · refine h.enter_within "Setup" fun setup between hsetup => ?_
    exact hsetup.forM_within _ fun entry _ between hbetween => hbetween.write_within entry.1 _

theorem Opens.writeList (h : folder.Opens tree dir) (name : String) (texts : List String) :
    (folder.writeList name texts).Ensures tree fun _ tree' => Kept (dir <+: ·) tree tree' := by
  unfold Folder.writeList
  split
  · exact .pure (.refl _ tree)
  · exact h.write_within name _

theorem Opens.writeActorScripts (h : folder.Opens tree dir) (graph : CallGraph) (name : String) :
    (folder.writeActorScripts graph name).Ensures tree fun _ tree' =>
      Kept (dir ++ [safeName name] <+: ·) tree tree' := by
  refine h.enter_within name fun own between hown => ?_
  refine .bind ((hown.forM_within (graph.usage name).scripts ?_).imp fun _ first hfirst => ?_)
  · intro offset _ between hbetween
    cases graph.find? offset with
    | none => exact .pure (.refl _ between)
    | some script => exact hbetween.write_within _ _
  · refine .bind (((hown.kept hfirst).writeList "Animations" _).imp fun _ second hsecond => ?_)
    have hboth := hfirst.trans hsecond
    exact ((hown.kept hboth).writeList "Paths" _).imp fun _ _ => hboth.trans

theorem Opens.writeScripts (h : folder.Opens tree dir) (graph : CallGraph) :
    (folder.writeScripts graph).Ensures tree fun _ tree' => Kept (dir <+: ·) tree tree' := by
  refine h.forM_within graph.actors fun name _ between hbetween => ?_
  refine (hbetween.writeActorScripts graph name).imp fun _ _ hkept => hkept.mono fun _ => ?_
  exact (List.prefix_append dir [safeName name]).trans

/-! ### Levels -/

/-- The directory of the rehearsals has no extension, so no trace lies there. -/
theorem safeNameWith_txt_ne_setup (text : String) : safeNameWith text "txt" ≠ "Setup" := by
  intro heq
  have hlast := congrArg (fun name => name.toList.getLast?) heq
  have hbare : String.ofList ("txt".toList.dropWhile (· == '.')) = "txt" := rfl
  rw [safeNameWith, hbare] at hlast
  simp at hlast

/-- What lies under one name of a directory does not lie under another. -/
theorem not_prefix_of_ne {first second : String} (h : first ≠ second) (below : List String) :
    ¬ dir ++ [second] <+: dir ++ first :: below := by
  intro hprefix
  obtain ⟨rest, hrest⟩ := (List.prefix_append_right_inj dir).mp hprefix
  exact h (List.cons.inj hrest).1.symm

/-- The arena's own trace is written like those of its live actors. -/
theorem writeArena_eq (folder : Folder) (arena : Arena) :
    folder.writeArena arena = (do
      let own ← folder.enter arena.name
      arena.traces.forM fun (name, actor) => own.write name "txt" actor.trace
      own.writeSetupLogs arena) := by
  simp only [Folder.writeArena, Arena.traces, List.forM_eq_forM, List.forM_cons, bind_assoc]

/-- The traces of an arena that last lie in its directory, and nothing outside it is touched. -/
theorem Opens.writeArena (h : folder.Opens tree dir) (arena : Arena) :
    (folder.writeArena arena).Ensures tree fun _ tree' =>
      (∀ file content, Lasts arena.traces file content →
        tree'.find? (dir ++ [safeName arena.name] ++ [file]) = some (.file content)) ∧
        Kept (dir ++ [safeName arena.name] <+: ·) tree tree' := by
  rw [writeArena_eq]
  refine .bind ((h.enter arena.name).imp fun own entered => ?_)
  rintro ⟨hown, hentered⟩
  refine .bind ((hown.writeTraces arena.traces).imp fun _ written => ?_)
  rintro ⟨hlast, hwritten⟩
  refine ((hown.kept hwritten).writeSetupLogs arena).imp fun _ tree' hsetup => ⟨?_, ?_⟩
  · rintro file content ⟨before, entry, after, hentries, hlater, rfl, rfl⟩
    refine hsetup.file (not_prefix_of_ne (safeNameWith_txt_ne_setup entry.1) []) ?_
    exact hlast _ _ ⟨before, entry, after, hentries, hlater, rfl, rfl⟩
  · refine ((hentered.mono fun _ => False.elim).trans hwritten).trans (hsetup.mono fun _ => ?_)
    exact (List.prefix_append (dir ++ [safeName arena.name]) ["Setup"]).trans

section Levels

variable (level : Level)
  (hnames : (level.arenas.toList.map fun arena => safeName arena.name).Nodup)
  (hscripts : ∀ arena ∈ level.arenas, safeName arena.name ≠ "Scripts")

include hnames hscripts

/-- The traces that last in their arenas last in the level, if no two arenas share a directory with
each other or with the listings. -/
theorem Opens.writeArenas (h : folder.Opens tree dir) :
    (do level.arenas.toList.forM folder.writeArena
        let scripts ← folder.enter "Scripts"
        scripts.writeScripts level.scripts : Filing Unit).Ensures tree fun _ tree' =>
      ∀ arena ∈ level.arenas, ∀ file content, Lasts arena.traces file content →
        tree'.find? (dir ++ [safeName arena.name, file]) = some (.file content) := by
  refine .bind ((Opens.forM (fun arena address => dir ++ [safeName arena.name] <+: address)
    (fun arena address content => ∃ file, address = dir ++ [safeName arena.name, file] ∧
      Lasts arena.traces file content) level.arenas.toList ?_ h).imp ?_)
  · intro arena _ between hbetween
    refine (hbetween.writeArena arena).imp fun _ tree' => ?_
    rintro ⟨hlasts, hkept⟩
    refine ⟨?_, hkept⟩
    rintro _ content ⟨file, rfl, hfile⟩
    simpa using hlasts file content hfile
  · rintro _ written ⟨hlast, hwritten⟩
    have hlisted := (h.kept hwritten).enter_within "Scripts" fun scripts between hbetween =>
      hbetween.writeScripts level.scripts
    refine hlisted.imp fun _ tree' hkept arena harena file content hlasts => ?_
    obtain ⟨before, after, hsplit⟩ := List.append_of_mem (Array.mem_toList_iff.mpr harena)
    refine hkept.file (not_prefix_of_ne (hscripts arena harena) [file]) ?_
    refine hlast before arena after hsplit _ _ ⟨file, rfl, hlasts⟩ fun later hlater => ?_
    rw [hsplit] at hnames
    exact not_prefix_of_ne (ne_of_nodup_map hnames later hlater).symm [file]

theorem Opens.writeLevel (h : folder.Opens tree dir) (summary : Bool) :
    (folder.writeLevel level summary).Ensures tree fun _ tree' =>
      ∀ arena ∈ level.arenas, ∀ file content, Lasts arena.traces file content →
        tree'.find? (dir ++ [safeName level.name] ++ [safeName arena.name, file]) =
          some (.file content) := by
  refine .bind ((h.enter level.name).imp fun own entered => ?_)
  rintro ⟨hown, -⟩
  cases summary with
  | false => exact hown.writeArenas level hnames hscripts
  | true =>
      refine .bind ((hown.write "summary" (by decide) level.json.pretty).imp ?_)
      rintro _ written ⟨-, hwritten⟩
      exact (hown.kept hwritten).writeArenas level hnames hscripts

end Levels

/-- No trace is lost where the safe forms of the names stay apart: if a level was written into a
directory, and no two of its arenas share a directory, then each arena whose names have different
safe forms has a file of its own for each of its actors, its own first. -/
theorem writeLevel_filed {path : FilePath} {tree tree' : FileTree} {dir : Address} {level : Level}
    {summary : Bool} (hdir : tree.walk (FileTree.start path) path.parts = .ok dir)
    (hwrite : ((fresh path).writeLevel level summary).run tree = (.ok (), tree'))
    (hnames : (level.arenas.toList.map fun arena => safeName arena.name).Nodup)
    (hscripts : ∀ arena ∈ level.arenas, safeName arena.name ≠ "Scripts") :
    ∀ arena ∈ level.arenas, (arena.traces.map fun entry => safeName entry.1).Nodup →
      arena.Filed tree' (dir ++ [safeName level.name, safeName arena.name])
        (arena.traces.map fun entry => safeNameWith entry.1 "txt") := by
  intro arena harena hdistinct
  have hlast := (opens_fresh hdir).writeLevel level hnames hscripts summary () tree' hwrite arena
    harena
  refine ⟨?_, ?_⟩
  · have hapart := List.pairwise_map.mp hdistinct
    exact List.pairwise_map.mpr (hapart.imp fun hne heq => hne (safeNameWith_inj.mp heq))
  · rw [← arena.map_snd_traces, List.forall₂_map_left_iff, List.forall₂_map_right_iff,
      List.forall₂_same]
    intro entry hentry
    simpa using hlast _ _ (lasts_of_nodup hdistinct hentry)

end Folder

/-! ### One arena, written out -/

/-- A script that calls nothing is all that a search for it finds. -/
theorem CallGraph.search_of_calls_nil {bytes : Bytes} {offset : UInt32} (hoffset : offset ≠ 0)
    (hcalls : (Listing.explore bytes offset).1.calls = []) (fuel : Nat) (origin : Origin) :
    search bytes (fuel + 1) [(offset, origin)] empty [] =
      (empty.insert ⟨(Listing.explore bytes offset).1, [origin]⟩,
        (Listing.explore bytes offset).2) := by
  have hleads : callLeads origin (Listing.explore bytes offset).1 = [] := by
    rw [callLeads, hcalls]
    rfl
  have hnew : empty.find? offset = none := rfl
  rw [search, if_neg hoffset, hnew]
  simp only [hleads, search, List.append_nil]

/-- A level `L` with one arena `A` whose script ends at once. -/
def Bytes.lonely : Bytes :=
  #[76, 0, 0, 0, 0, 0, 0, 0, 0, 0, 0, 0, 0, 0, 0, 0, 0, 0, 0, 0, 0, 0, 0, 0, 0, 0, 0, 0, 1, 0, 0, 0,
    1, 65, 38, 0, 0, 0, 0, 0, 44, 0, 0, 0, 0xff]

def Container.lonely : Container :=
  ⟨"L", 0, [], [], [], [⟨"A", ("", ""), 44⟩]⟩

def Level.lonely : Level where
  name := "L"
  fileSize := 0
  bytes := .lonely
  vars := .zero
  meshes := .empty
  arenas := #[.new .standard 0 ⟨"A", ("", ""), 44⟩]
  scripts := CallGraph.empty.insert
    ⟨(Listing.explore .lonely 44).1, [.ofTable "A" "A" "Arena"]⟩

theorem Level.explore_lonely :
    explore .standard .lonely .lonely = .ok (.lonely, (Listing.explore .lonely 44).2) := by
  have hgraph : CallGraph.explore .lonely .lonely =
      .ok (Level.lonely.scripts, (Listing.explore .lonely 44).2) :=
    congrArg Except.ok (CallGraph.search_of_calls_nil (by decide) (by decide +kernel) 45 _)
  rw [explore, hgraph]
  rfl

/-- The level with some actors placed in it, and what writing it into an empty directory leaves
there. -/
def Level.lonelyExport (placements : List Placement) : Option (Level × FileTree) :=
  let reads := (Listing.explore .lonely 44).2 ++ (Container.read.run .lonely (.start 0)).2.reads
  match (Play.load .standard placements).run ⟨.lonely, reads⟩ with
  | (.error _, _) => none
  | (.ok (), session) =>
    match ((Folder.fresh .empty).writeLevel session.level false).run .empty with
    | (.error _, _) => none
    | (.ok (), tree) => some (session.level, tree)

theorem Level.lonelyExport_eq_some {placements : List Placement} {level : Level} {tree : FileTree}
    (h : lonelyExport placements = some (level, tree)) :
    (loadLevel .standard placements .lonely).result = .ok level ∧
      ((Folder.fresh .empty).writeLevel level false).run .empty = (.ok (), tree) := by
  have hread : Container.read.run .lonely (.start 0) =
      (.ok .lonely, (Container.read.run .lonely (.start 0)).2) :=
    Prod.ext (by decide +kernel) rfl
  unfold lonelyExport at h
  dsimp only at h
  split at h
  · cases h
  · next session hload =>
    split at h
    · cases h
    · next hwrite =>
      cases h
      refine ⟨?_, hwrite⟩
      rw [loadLevel, hread]
      dsimp only
      rw [explore_lonely]
      dsimp only
      rw [hload]

namespace Folder

/-- Two actors of one name and id have a file each. -/
theorem writeLevel_filed_lonely :
    ∃ level tree',
      (loadLevel .standard [⟨"A", "G", 0, .origin, 1⟩, ⟨"A", "G", 0, .origin, 2⟩] .lonely).result =
        .ok level ∧
      ((fresh .empty).writeLevel level false).run .empty = (.ok (), tree') ∧
      ∃ arena ∈ level.arenas, arena.live.size = 2 ∧
        arena.Filed tree' ["L", "A"] ["A.txt", "G_0.txt", "G_0_2.txt"] := by
  have hcheck : ((Level.lonelyExport
      [⟨"A", "G", 0, .origin, 1⟩, ⟨"A", "G", 0, .origin, 2⟩]).any fun (level, _) => decide (
        (level.arenas.toList.map fun arena => safeName arena.name).Nodup ∧
        (∀ arena ∈ level.arenas, safeName arena.name ≠ "Scripts") ∧
        safeName level.name = "L" ∧
        ∃ arena ∈ level.arenas, arena.live.size = 2 ∧ safeName arena.name = "A" ∧
          (arena.traces.map fun entry => safeName entry.1).Nodup ∧
          arena.traces.map (fun entry => safeNameWith entry.1 "txt") =
            ["A.txt", "G_0.txt", "G_0_2.txt"])) = true := by
    decide +kernel
  obtain ⟨⟨level, tree'⟩, hexport, hlevel⟩ := (Option.any_eq_true _ _).mp hcheck
  obtain ⟨hnames, hscripts, hlevel, arena, harena, hsize, hname, hdistinct, hfiles⟩ :=
    of_decide_eq_true hlevel
  obtain ⟨hload, hwrite⟩ := Level.lonelyExport_eq_some hexport
  have hfiled := writeLevel_filed rfl hwrite hnames hscripts arena harena hdistinct
  rw [hlevel, hname, hfiles] at hfiled
  exact ⟨level, tree', hload, hwrite, arena, harena, hsize, hfiled⟩

/-- A slash and a colon have one safe form, so two actors whose names differ in nothing else share a
file, and the trace of the first one is lost. -/
theorem writeLevel_loses_trace :
    ∃ level tree',
      (loadLevel .standard [⟨"A", "G/H", 0, .origin, 1⟩, ⟨"A", "G:H", 0, .origin, 2⟩]
        .lonely).result = .ok level ∧
      ((fresh .empty).writeLevel level false).run .empty = (.ok (), tree') ∧
      (level.arenas.toList.map fun arena => safeName arena.name).Nodup ∧
      (∀ arena ∈ level.arenas, safeName arena.name ≠ "Scripts") ∧
      ∃ arena ∈ level.arenas, ∀ files,
        ¬ arena.Filed tree' [safeName level.name, safeName arena.name] files := by
  have hcheck : ((Level.lonelyExport
      [⟨"A", "G/H", 0, .origin, 1⟩, ⟨"A", "G:H", 0, .origin, 2⟩]).any fun (level, tree) => decide (
        (level.arenas.toList.map fun arena => safeName arena.name).Nodup ∧
        (∀ arena ∈ level.arenas, safeName arena.name ≠ "Scripts") ∧
        ∃ arena ∈ level.arenas, ∃ actor ∈ arena.live, ∀ entry ∈ tree.entries,
          entry.2 ≠ .file actor.trace.toUTF8.data)) = true := by
    decide +kernel
  obtain ⟨⟨level, tree'⟩, hexport, hlevel⟩ := (Option.any_eq_true _ _).mp hcheck
  obtain ⟨hnames, hscripts, arena, harena, actor, hactor, hlost⟩ := of_decide_eq_true hlevel
  obtain ⟨hload, hwrite⟩ := Level.lonelyExport_eq_some hexport
  exact ⟨level, tree', hload, hwrite, hnames, hscripts, arena, harena,
    Arena.not_filed hactor hlost _⟩

end Folder

end LevelScript
