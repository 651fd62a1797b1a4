import LevelScript.Actor
import LevelScript.Instruction
import LevelScript.NamedTable

/-!
Commands: instructions that change something.

An instruction is first read into a command, which can fail but changes nothing, and then carried
out, which cannot fail.  So an instruction that fails leaves no half-made change behind.
-/

namespace LevelScript

/-- What a spawned actor is. -/
inductive SpawnKind
  | plain
  | pickup
  /-- A door to the arena at an index. -/
  | door (target : Nat)
deriving DecidableEq, Repr, Inhabited

/-- An order to spawn an actor. -/
structure SpawnOrder where
  name : String
  id : Int32
  kind : SpawnKind
  position : Point
  angle : Single
  /-- The script that the actor is pointed at, zero for none. -/
  init : UInt32
deriving DecidableEq, Repr, Inhabited

/-- An instruction with its operands. -/
inductive Command
  /-- Marks the place that a return goes to. -/
  | anchor
  | animate (anim : Animation)
  | turn (yaw : Nat)
  /-- Gives the script up. -/
  | clear
  | minOrderRange (range : UInt8)
  | maxOrderRange (range : UInt8)
  /-- Sets the health; without health the actor is destroyed. -/
  | health (points : UInt16)
  | delay (time : Quantity)
  | assign (target : Variable) (value : Single)
  | increase (target : Variable) (value : Single)
  | move (position : Point)
  | raiseFlags (bits : UInt32)
  | lowerFlags (bits : UInt32)
  | spawn (order : SpawnOrder)
  | doorAnimations (animations : DoorAnimations)
  | doorSounds (sounds : DoorSounds)
  | doorFlags (bits : UInt32)
  | doorDistance (distance : Single)
  /-- Ends the invocation; the next one starts at the anchor. -/
  | goBack
  /-- Has no effect but its line in the trace. -/
  | note (detail : String)
  | unmodeled
deriving DecidableEq, Repr, Inhabited

namespace Command

open Scan

/-- The index of the first arena of a name. -/
def findArena (arenas : List String) (name : String) : Except DataError Nat :=
  match arenas.findIdx? (· == name) with
  | some index => .ok index
  | none => .error (.unknownArena name)

def readSpawn (kind : SpawnKind) : Scan DataError Command := do
  let position ← point
  let name ← countedText
  let init ← u32
  return .spawn ⟨name, 0, kind, position, .zero, init⟩

/-- A spawn that gives angle and id too. -/
def readPosedSpawn : Scan DataError Command := do
  let position ← point
  let angle ← single
  let id ← i32
  let name ← countedText
  let init ← u32
  return .spawn ⟨name, id, .plain, position, angle, init⟩

/-- A door that is spawned; its arena must exist. -/
def readDoorSpawn (arenas : List String) : Scan DataError Command := do
  let position ← point
  let angle ← single
  let id ← i32
  let name ← countedText
  let arena ← countedText
  let init ← u32
  let target ← ofExcept (findArena arenas arena)
  return .spawn ⟨name, id, .door target, position, angle, init⟩

/-- The operands of an instruction that only a door can carry out. -/
def readDoor (opcode : UInt8) : Scan DataError Command := do
  match opcode.toNat with
  | 0x96 =>
    let opening ← animation
    let closing ← animation
    return .doorAnimations ⟨opening, closing⟩
  | 0x97 =>
    let opening ← countedText
    let closing ← countedText
    let opened ← countedText
    let closed ← countedText
    return .doorSounds ⟨opening, closing, opened, closed⟩
  | 0x98 =>
    let bits ← u32
    return .doorFlags bits
  | _ =>
    let distance ← single
    return .doorDistance distance

def readAnimate : Scan DataError Command := do
  let anim ← animation
  return .animate anim

/-- A yaw, brought into the range of a full turn. -/
def readTurn : Scan DataError Command := do
  let yaw ← i16
  return .turn (yaw.toInt % 360).toNat

/-- Variable and number of an instruction that writes a variable. -/
def readWrite (opcode : UInt8) (make : Variable → Single → Command) : Scan ScriptFailure Command := do
  let target ← variableTarget opcode
  let value ← single
  return make target value

/-- An instruction without effect of its own. -/
def readNote (site : Site) : Scan ScriptFailure Command := do
  let decoded ← site.decode
  match decoded.text? with
  | some detail => return .note detail
  | none => return .unmodeled

/-- Reads the operands of the instruction at `site` for an actor that carries it out, in a level
with the given arenas. -/
def read (arenas : List String) (actor : Actor) (site : Site) : Scan ScriptFailure Command :=
  match site.opcode.toNat with
  | 0x01 => pure .anchor
  | 0x03 | 0x3b => forScript readAnimate
  | 0x08 => forScript readTurn
  | 0x09 | 0x7d => pure .clear
  | 0x0b => do
    let range ← u8
    return .minOrderRange range
  | 0x49 => do
    let range ← u8
    return .maxOrderRange range
  | 0x10 => do
    let points ← u16
    return .health points
  | 0x40 => do
    let time ← quantity
    return .delay time
  | 0x41 => readWrite site.opcode .assign
  | 0x42 => readWrite site.opcode .increase
  | 0x4f => do
    let position ← point
    return .move position
  | 0x74 => do
    let bits ← u32
    return .raiseFlags bits
  | 0x75 => do
    let bits ← u32
    return .lowerFlags bits
  | 0x56 | 0x71 => forScript (readSpawn .plain)
  | 0xa1 => forScript (readSpawn .pickup)
  | 0xe6 => forScript readPosedSpawn
  | 0x95 => forScript (readDoorSpawn arenas)
  | 0x96 | 0x97 | 0x98 | 0x99 =>
    match actor.door? with
    | some _ => forScript (readDoor site.opcode)
    | none => fail (.notADoor site.opcode actor.label)
  | 0xfd => pure .goBack
  | _ => readNote site

end Command

end LevelScript
