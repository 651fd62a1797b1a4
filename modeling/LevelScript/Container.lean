import LevelScript.NamedTable
import LevelScript.Scan

/-!
The container of a level's scripts (CMI): a header, three tables of offsets, and a table of arenas
with a record each.  All offsets count from the start of the buffer.
-/

namespace LevelScript

/-- A table entry: a name and an offset. -/
abbrev OffsetEntry := String × UInt32

/-- What the container says about an arena. -/
structure ArenaRecord where
  name : String
  /-- The two pieces of music. -/
  music : String × String
  script : UInt32
deriving DecidableEq, Repr, Inhabited

/-- A decoded container. -/
structure Container where
  name : String
  fileSize : UInt32
  /-- Scripts of placed actors, by `ARENA$NAME_ID`. -/
  inits : List OffsetEntry
  meshes : List OffsetEntry
  /-- Scripts that set actors up, by `ARENA$NAME`. -/
  setups : List OffsetEntry
  arenas : List ArenaRecord
deriving DecidableEq, Repr, Inhabited

namespace Container

open Scan

/-- A name and an offset. -/
def readEntry : Scan DataError OffsetEntry := do
  let name ← countedText
  let offset ← u32
  return (name, offset)

/-- A count and so many entries. -/
def readTable : Scan DataError (List OffsetEntry) := do
  let count ← u32
  times readEntry count.toNat

/-- Music and script of the arena that a table entry points to. -/
def readArena (entry : OffsetEntry) : Scan DataError ArenaRecord :=
  visit entry.2.toNat do
    let first ← countedText
    let second ← countedText
    let script ← u32
    return ⟨entry.1, (first, second), script⟩

/-- The records of all arenas, in the order of their table. -/
def readArenas : List OffsetEntry → Scan DataError (List ArenaRecord)
  | [] => pure []
  | entry :: rest => do
    let record ← readArena entry
    let records ← readArenas rest
    return record :: records

def read : Scan DataError Container := do
  let name ← text 12
  let fileSize ← u32
  let inits ← readTable
  let meshes ← readTable
  let setups ← readTable
  let arenaTable ← readTable
  let arenas ← readArenas arenaTable
  return ⟨name, fileSize, inits, meshes, setups, arenas⟩

/-- Decodes a container. -/
def parse (bytes : Bytes) : Except DataError Container :=
  read.eval bytes 0

/-- The two parts of a key, before and after its first dollar sign. -/
def splitKey (key : String) : Except DataError (String × String) :=
  let chars := key.toList
  match chars.dropWhile (· != '$') with
  | [] => .error (.malformedKey key)
  | _ :: rest => .ok (String.ofList (chars.takeWhile (· != '$')), String.ofList rest)

/-- Drops the length field that may stand in front of a container. -/
def stripLength (bytes : Bytes) : Bytes :=
  match wordAt? bytes 0 with
  | some word => if word.toNat = bytes.size - 4 then bytes.extract 4 bytes.size else bytes
  | none => bytes

end Container

end LevelScript
