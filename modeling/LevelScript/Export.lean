import LevelScript.FileTree
import LevelScript.Level

/-!
Export of a level: a directory for the level, one inside it for each arena with the traces of its
actors, and one with the listings of all scripts.
-/

namespace LevelScript

/-- The characters that could lead out of a directory, or that some file systems refuse. -/
def isUnsafeInFileName (c : Char) : Bool :=
  ['/', '\\', ':', '*', '?', '"', '<', '>', '|'].contains c

/-- A file name for any text: it is not empty, has no separators, and is not one of the names that
stand for a directory. -/
def safeName (text : String) : String :=
  let safe := String.ofList (text.toList.map fun c => if isUnsafeInFileName c then '_' else c)
  if safe == "" || safe == "." || safe == ".." then "_" ++ safe else safe

/-- A file name with an extension, whose leading points do not count.  Only the name is made safe: a
separator in the extension leads into a directory. -/
def safeNameWith (text extension : String) : String :=
  let bare := String.ofList (extension.toList.dropWhile (· == '.'))
  if bare == "" then safeName text else safeName text ++ "." ++ bare

/-- A directory to write into, kept as the path of the latest file in it: the next file takes its
place. -/
structure Folder where
  latest : FilePath
deriving DecidableEq, Repr, Inhabited

namespace Folder

/-- The folder at a path, before any file is written. -/
def fresh (path : FilePath) : Folder :=
  ⟨path.push "_"⟩

/-- The path of the directory. -/
def directory (folder : Folder) : FilePath :=
  folder.latest.parent?.getD .empty

/-- The directory at a path, made with all directories on the way. -/
def create (path : FilePath) : Filing Folder := do
  Filing.makeDirectories path
  return fresh path

/-- A directory inside this one, made if it is not there. -/
def enter (folder : Folder) (name : String) : Filing Folder :=
  create (folder.latest.withFileName (safeName name))

/-- The folder with its next file.  The directory stays the same, unless the extension leads
further. -/
def moved (folder : Folder) (name extension : String) : Folder :=
  ⟨folder.latest.withFileName (safeNameWith name extension)⟩

def write (folder : Folder) (name extension text : String) : Filing Unit :=
  Filing.write (folder.moved name extension).latest text.toUTF8.data

/-- Lines, each with a line break after it. -/
def lines (texts : List String) : String :=
  String.join (texts.map (· ++ "\n"))

/-- Writes a list into a file, unless the list is empty. -/
def writeList (folder : Folder) (name : String) (texts : List String) : Filing Unit :=
  if texts.isEmpty then pure () else folder.write name "txt" (lines texts)

/-- Writes what the actor of a name runs: each script, and the lists of its animations and paths. -/
def writeActorScripts (folder : Folder) (graph : CallGraph) (name : String) : Filing Unit := do
  let usage := graph.usage name
  let own ← folder.enter name
  usage.scripts.forM fun offset =>
    match graph.find? offset with
    | some script => own.write (script.title name) "txt" (script.report name)
    | none => pure ()
  own.writeList "Animations" (usage.animations.map Animation.plain)
  own.writeList "Paths" (usage.paths.map fun offset => hexOffset offset.toNat)

/-- Writes the listings, a directory for each actor. -/
def writeScripts (folder : Folder) (graph : CallGraph) : Filing Unit :=
  graph.actors.forM (folder.writeActorScripts graph)

/-- Writes what the rehearsals of an arena's setup scripts logged. -/
def writeSetupLogs (folder : Folder) (arena : Arena) : Filing Unit :=
  if arena.setupLogs.entries.isEmpty then pure ()
  else do
    let setup ← folder.enter "Setup"
    arena.setupLogs.entries.forM fun (name, log) =>
      setup.write name "txt" ("\n".intercalate (log.toList.map TraceLine.render) ++ "\n")

/-- Writes the traces of an arena's actors, the arena's own first. -/
def writeArena (folder : Folder) (arena : Arena) : Filing Unit := do
  let own ← folder.enter arena.name
  own.write arena.name "txt" arena.self.trace
  (arena.traceNames.zip arena.live.toList).forM fun (name, actor) => own.write name "txt" actor.trace
  own.writeSetupLogs arena

/-- Writes a level, with a summary or without. -/
def writeLevel (folder : Folder) (level : Level) (summary : Bool) : Filing Unit := do
  let own ← folder.enter level.name
  if summary then own.write "summary" "json" level.json.pretty
  level.arenas.toList.forM own.writeArena
  let scripts ← own.enter "Scripts"
  scripts.writeScripts level.scripts

end Folder

end LevelScript
