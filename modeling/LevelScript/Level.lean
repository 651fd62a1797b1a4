import LevelScript.CallGraph
import LevelScript.Run
import LevelScript.Survey

/-!
Levels: arenas, their actors, and the tables that scripts look up.
-/

namespace LevelScript

/-- An arena with its actors. -/
structure Arena where
  /-- Its index within the level. -/
  id : Nat
  name : String
  music : String × String
  /-- The actor that stands for the arena and runs the arena's script. -/
  self : Actor
  /-- Setup scripts by name of the actor. -/
  setups : NamedTable UInt32
  /-- Scripts of placed actors by name and id. -/
  inits : NamedTable UInt32
  vars : Vars
  /-- The actors that were placed or spawned, in order. -/
  live : Array Actor
  /-- What the rehearsals of the setup scripts logged. -/
  setupLogs : NamedTable (Array TraceLine)

/-- A level. -/
structure Level where
  name : String
  fileSize : UInt32
  /-- The buffer into which all offsets point. -/
  bytes : Bytes
  vars : Vars
  meshes : NamedTable UInt32
  arenas : Array Arena
  /-- Listings of all scripts that the tables reach. -/
  scripts : CallGraph

namespace Arena

/-- An arena whose own actor is about to run the arena's script. -/
def new (settings : Settings) (id : Nat) (record : ArenaRecord) : Arena where
  id := id
  name := record.name
  music := record.music
  self :=
    ({ Actor.new settings record.name 0 id .plain with isArena := true }).startAt record.script
  setups := .empty
  inits := .empty
  vars := .zero
  live := #[]
  setupLogs := .empty

/-- The live actors of a name. -/
def named (arena : Arena) (name : String) : List Actor :=
  arena.live.toList.filter (·.name == name)

end Arena

/-! ### Names of trace files -/

/-- The name that stands in for a taken one on the `k`-th try. -/
def numbered (base : String) (k : Nat) : String :=
  s!"{base}_{k}"

/-- The first of `base_k`, `base_(k+1)`, … that is free, after at most `fuel` tries. -/
def firstFree (used : List String) (base : String) : Nat → Nat → String
  | 0, k => numbered base k
  | fuel + 1, k =>
    if used.contains (numbered base k) then firstFree used base fuel (k + 1) else numbered base k

/-- The base name if it is free, otherwise the first free one with a number from two on.  Of more
numbered names than there are used ones, one is free. -/
def freeName (used : List String) (base : String) : String :=
  if used.contains base then firstFree used base used.length 2 else base

/-- A free name for each base name in turn. -/
def freeNames (used : List String) : List String → List String
  | [] => []
  | base :: rest =>
    let name := freeName used base
    name :: freeNames (name :: used) rest

namespace Arena

/-- The trace files of the live actors, one each.  The arena's own trace lies beside them, so its
name is taken. -/
def traceNames (arena : Arena) : List String :=
  freeNames [arena.name] (arena.live.toList.map Actor.label)

end Arena

/-! ### Building -/

namespace Level

def arenaNames (level : Level) : List String :=
  level.arenas.toList.map Arena.name

/-- The index of the first arena of a name. -/
def arenaIndex? (level : Level) (name : String) : Option Nat :=
  level.arenaNames.findIdx? (· == name)

/-- The index of an arena that must exist. -/
def arenaIndex (level : Level) (name : String) : Except DataError Nat :=
  Command.findArena level.arenaNames name

/-- The arena index and the local part of a key. -/
def routeKey (arenas : List String) (key : String) : Except DataError (Nat × String) := do
  let (arena, name) ← Container.splitKey key
  let index ← Command.findArena arenas arena
  return (index, name)

/-- Every entry of a table with the index of its arena and the local part of its key; fails on the
first key that is malformed or names no arena. -/
def route (arenas : List String) :
    List OffsetEntry → Except DataError (List (Nat × OffsetEntry))
  | [] => .ok []
  | (key, offset) :: rest => do
    let (index, name) ← routeKey arenas key
    let routed ← route arenas rest
    return (index, name, offset) :: routed

/-- The part of a routed table that belongs to one arena. -/
def share (index : Nat) (routed : List (Nat × OffsetEntry)) : NamedTable UInt32 :=
  ⟨(routed.filter (·.1 == index)).map (·.2)⟩

/-- Arenas with their shares of the tables. -/
def buildArenas (settings : Settings) (container : Container) : Except DataError (Array Arena) := do
  let names := container.arenas.map ArenaRecord.name
  let setups ← route names container.setups
  let inits ← route names container.inits
  let arenas := container.arenas.mapIdx fun index record =>
    { Arena.new settings index record with setups := share index setups, inits := share index inits }
  return arenas.toArray

/-- Builds the level of a container, and tells which bytes the listings read. -/
def explore (settings : Settings) (container : Container) (bytes : Bytes) :
    Except DataError (Level × List Span) := do
  let arenas ← buildArenas settings container
  let (scripts, reads) ← CallGraph.explore container bytes
  return (
    { name := container.name
      fileSize := container.fileSize
      bytes := bytes
      vars := .zero
      meshes := ⟨container.meshes⟩
      arenas := arenas
      scripts := scripts }, reads)

/-- Builds the level of a container. -/
def build (settings : Settings) (container : Container) (bytes : Bytes) :
    Except DataError Level := do
  let (level, _) ← explore settings container bytes
  return level

end Level

/-! ### Summary -/

def NamedTable.offsetsJson (table : NamedTable UInt32) : Json :=
  table.json fun offset => .int offset.toNat

def Arena.json (arena : Arena) : Json :=
  .object
    [("id", .int arena.id),
      ("name", .text arena.name),
      ("music", .list [.text arena.music.1, .text arena.music.2]),
      ("entity", arena.self.json),
      ("setup_offsets", arena.setups.offsetsJson),
      ("init_offsets", arena.inits.offsetsJson),
      ("vars", arena.vars.json),
      ("entities", .list (arena.live.toList.map Actor.json))]

/-- Everything about a level but its bytes, logs and listings. -/
def Level.json (level : Level) : Json :=
  .object
    [("name", .text level.name),
      ("file_size", .int level.fileSize.toNat),
      ("vars", level.vars.json),
      ("mesh_offsets", level.meshes.offsetsJson),
      ("arenas", .list (level.arenas.toList.map Arena.json))]

end LevelScript
