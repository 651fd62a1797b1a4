import LevelScript.Settings
import LevelScript.Trace
import LevelScript.Variable

/-!
Actors: everything in an arena that runs a script, and the arena itself.

An actor carries what scripts can change about it, where its script stands, and a log of all that
it did.
-/

namespace LevelScript

/-- The animations of a door. -/
structure DoorAnimations where
  opening : Animation
  closing : Animation
deriving DecidableEq, Repr, Inhabited

/-- The sounds of a door: while it opens and closes, and when it has done so. -/
structure DoorSounds where
  opening : String
  closing : String
  opened : String
  closed : String
deriving DecidableEq, Repr, Inhabited

def DoorAnimations.toList (a : DoorAnimations) : List Animation :=
  [a.opening, a.closing]

def DoorSounds.toList (s : DoorSounds) : List String :=
  [s.opening, s.closing, s.opened, s.closed]

/-- A door to another arena. -/
structure Door where
  target : Nat
  flags : DoorFlags
  openDistance : Single
  animations : Option DoorAnimations
  sounds : Option DoorSounds
deriving DecidableEq, Repr, Inhabited

inductive ActorKind
  | plain
  | door (door : Door)
  | pickup
deriving DecidableEq, Repr, Inhabited

/-- Where an actor's script stands. -/
inductive Control
  /-- It has no script to run. -/
  | idle
  /-- Its next invocation starts at the offset. -/
  | running (offset : Nat)
  /-- It goes on at an offset when its delay has run out. -/
  | blocked (resume : Nat) (delay : Single)
  | ended (reason : Ending)
deriving DecidableEq, Repr, Inhabited

namespace Control

/-- Where the next invocation starts, zero if there is none. -/
def scriptOffset : Control → Nat
  | running offset => offset
  | _ => 0

/-- Where a delayed script goes on, zero if none is delayed. -/
def resumeOffset : Control → Nat
  | blocked resume _ => resume
  | _ => 0

def delay : Control → Single
  | blocked _ delay => delay
  | _ => .zero

def ending? : Control → Option Ending
  | ended reason => some reason
  | _ => none

def stateName : Control → String
  | idle => "Idle"
  | running _ => "Running"
  | blocked .. => "Blocked"
  | ended _ => "Terminated"

end Control

/-- An actor. -/
structure Actor where
  name : String
  id : Int32
  /-- The index of its arena. -/
  arena : Nat
  /-- Whether it stands for the arena itself. -/
  isArena : Bool
  kind : ActorKind
  position : Point
  angle : Single
  health : UInt16
  vars : Vars
  flags : UInt32
  minOrderRange : UInt8
  maxOrderRange : UInt8
  animation : Option Animation
  /-- Where a return instruction goes, zero for nowhere. -/
  anchor : Nat
  control : Control
  log : Array TraceLine
deriving DecidableEq, Repr

namespace Actor

/-- A fresh actor without a script. -/
def new (settings : Settings) (name : String) (id : Int32) (arena : Nat) (kind : ActorKind) :
    Actor where
  name := name
  id := id
  arena := arena
  isArena := false
  kind := kind
  position := .origin
  angle := .zero
  health := settings.defaultHealth
  vars := .zero
  flags := 0
  minOrderRange := 0
  maxOrderRange := 0
  animation := none
  anchor := 0
  control := .idle
  log := #[]

instance : Inhabited Actor := ⟨new .standard "" 0 0 .plain⟩

/-- A fresh door: shut, without animations and sounds. -/
def newDoor (settings : Settings) (name : String) (id : Int32) (arena target : Nat) : Actor :=
  new settings name id arena (.door ⟨target, .closed, settings.doorOpenDistance, none, none⟩)

def door? (actor : Actor) : Option Door :=
  match actor.kind with
  | .door door => some door
  | _ => none

def push (actor : Actor) (line : TraceLine) : Actor :=
  { actor with log := actor.log.push line }

/-- Points the actor at a script; offset zero leaves it without one. -/
def startAt (actor : Actor) (offset : UInt32) : Actor :=
  { actor with
    anchor := 0
    control := if offset = 0 then .idle else .running offset.toNat }

/-- Ends the actor's script for good. -/
def endWith (actor : Actor) (reason : Ending) : Actor :=
  { actor.push (.ended reason) with control := .ended reason }

def ending? (actor : Actor) : Option Ending :=
  actor.control.ending?

/-- Whether the actor is out of the game, rather than only done with its script. -/
def isGone (actor : Actor) : Bool :=
  match actor.ending? with
  | none | some .finished => false
  | some _ => true

/-- The offset at which an invocation starts, if the actor can be invoked. -/
def start? (actor : Actor) : Option Nat :=
  match actor.control with
  | .running offset => if offset = 0 then none else some offset
  | _ => none

def isRunnable (actor : Actor) : Bool :=
  actor.start?.isSome

/-- The name in traces: the arena's own name, or name and id. -/
def label (actor : Actor) : String :=
  if actor.isArena then actor.name else s!"{actor.name}_{actor.id}"

/-- The log as text. -/
def trace (actor : Actor) : String :=
  TraceLine.renderAll actor.log

end Actor

/-! ### Summary -/

def Vars.json (vars : Vars) : Json :=
  .list (vars.toList.map Json.single)

def Animation.json : Animation → Json
  | named name => .object [("Named", .text name)]
  | offset position => .object [("Offset", .int position.toNat)]

/-- The value of an optional field. -/
def Json.ofOption {α : Type} (write : α → Json) : Option α → Json
  | some a => write a
  | none => .null

def Door.fields (door : Door) : List (String × Json) :=
  [("target_arena", .int door.target),
    ("door_flags", .int door.flags.bits.toNat),
    ("open_distance", .single door.openDistance),
    ("anims", Json.ofOption (fun a => .list (a.toList.map Animation.json)) door.animations),
    ("sounds", Json.ofOption (fun s => .list (s.toList.map Json.text)) door.sounds)]

/-- The kind with what only that kind has. -/
def ActorKind.fields : ActorKind → List (String × Json)
  | plain => [("kind", .text "Plain")]
  | door d => ("kind", .text "Door") :: d.fields
  | pickup => [("kind", .text "Pickup")]

/-- Everything about an actor but its log. -/
def Actor.json (actor : Actor) : Json :=
  .object <|
    [("name", .text actor.name),
      ("id", .int actor.id.toInt),
      ("arena", .int actor.arena),
      ("is_arena", .bool actor.isArena)] ++
    actor.kind.fields ++
    [("position", actor.position.json),
      ("angle", .single actor.angle),
      ("health", .int actor.health.toNat),
      ("vars", actor.vars.json),
      ("flags", .int actor.flags.toNat),
      ("min_order_range", .int actor.minOrderRange.toNat),
      ("max_order_range", .int actor.maxOrderRange.toNat),
      ("animation", Json.ofOption Animation.json actor.animation),
      ("script_offset", .int actor.control.scriptOffset),
      ("anchor_offset", .int actor.anchor),
      ("resume_offset", .int actor.control.resumeOffset),
      ("delay", .single actor.control.delay),
      ("state", .text actor.control.stateName),
      ("termination", Json.ofOption (fun reason => .text reason.message) actor.ending?)]

end LevelScript
