import LevelScript.Level

/-!
Playing a level: placing actors, running scripts in passes, and letting delays run out.

A play changes a session, the level and which of its bytes were read, and may stop with an error.
What was changed before an error stays changed.
-/

namespace LevelScript

/-- A level at play. -/
structure Session where
  level : Level
  /-- The spans of the level's bytes that were read. -/
  reads : List Span

/-- A change of a session that an error can stop. -/
abbrev Play := ExceptT DataError (StateM Session)

/-- Where an actor lives in its arena. -/
inductive Seat
  /-- The actor that stands for the arena. -/
  | self
  | live (index : Nat)
deriving DecidableEq, Repr, Inhabited

namespace Arena

def actor? (arena : Arena) : Seat → Option Actor
  | .self => some arena.self
  | .live index => arena.live[index]?

def setActor (arena : Arena) (seat : Seat) (actor : Actor) : Arena :=
  match seat with
  | .self => { arena with self := actor }
  | .live index => { arena with live := arena.live.setIfInBounds index actor }

/-- Takes over the variables that a script may have changed. -/
def withVars (arena : Arena) (vars : Vars) : Arena :=
  { arena with vars := vars }

def append (arena : Arena) (actors : Array Actor) : Arena :=
  { arena with live := arena.live ++ actors }

/-- Keeps the log of a rehearsal. -/
def keepLog (arena : Arena) (name : String) (log : Array TraceLine) : Arena :=
  { arena with setupLogs := arena.setupLogs.insert name log }

end Arena

namespace Session

/-- What a script in an arena sees. -/
def stage (session : Session) (settings : Settings) (arena : Arena) (index : Nat)
    (rehearsal : Bool) : Stage where
  bytes := session.level.bytes
  settings := settings
  arenas := session.level.arenaNames
  arena := index
  setups := arena.setups
  rehearsal := rehearsal

/-- What scripts in an arena share. -/
def world (session : Session) (arena : Arena) : World :=
  ⟨session.level.vars, arena.vars, session.reads⟩

/-- The actor on a seat of an arena. -/
def actor? (session : Session) (index : Nat) (seat : Seat) : Option Actor :=
  match session.level.arenas[index]? with
  | some arena => arena.actor? seat
  | none => none

/-- Changes one arena; without that arena nothing changes. -/
def updateArena (session : Session) (index : Nat) (update : Arena → Arena) : Session :=
  { session with
    level := { session.level with arenas := session.level.arenas.modify index update } }

/-- Takes over what a script shared with the others in its arena. -/
def share (session : Session) (index : Nat) (world : World) : Session :=
  let shared := session.updateArena index (·.withVars world.arenaVars)
  { level := { shared.level with vars := world.levelVars }, reads := world.reads }

end Session

namespace Play

/-- The error of an outcome stops the play. -/
def stopIf : Option DataError → Play Unit
  | some error => throw error
  | none => pure ()

/-- Lets something happen to one actor of an arena; an empty seat stays empty.  The script runs in
the arena that the actor names: it sees the variables and setup scripts of that arena, and what it
spawns joins that arena. -/
def withActor (settings : Settings) (index : Nat) (seat : Seat)
    (happen : Stage → Scene → Outcome) : Play Unit := do
  let session ← get
  match session.actor? index seat with
  | none => pure ()
  | some actor =>
    match session.level.arenas[actor.arena]? with
    | none => pure ()
    | some home =>
      let (fatal, scene) :=
        happen (session.stage settings home actor.arena false) ⟨actor, session.world home, #[]⟩
      let seated := session.updateArena index (·.setActor seat scene.actor)
      set ((seated.updateArena actor.arena (·.append scene.spawned)).share actor.arena scene.world)
      stopIf fatal

/-- Runs one actor's script. -/
def invoke (settings : Settings) (index : Nat) (seat : Seat) : Play Unit :=
  withActor settings index seat Stage.invoke

/-- Counts one actor's delay down, and runs its script if it can run. -/
def tick (settings : Settings) (index : Nat) (seat : Seat) : Play Unit :=
  withActor settings index seat Stage.tick

/-- How many live actors an arena has now. -/
def liveCount (index : Nat) : Play Nat := do
  let session ← get
  return match session.level.arenas[index]? with
    | some arena => arena.live.size
    | none => 0

/-- How many arenas the level has. -/
def arenaCount : Play Nat := do
  let session ← get
  return session.level.arenas.size

/-- Runs every live actor of an arena once.  Actors that are spawned on the way wait for the next
pass. -/
def pass (settings : Settings) (index : Nat) : Play Unit := do
  let count ← liveCount index
  (List.range count).forM fun i => invoke settings index (.live i)

/-! ### Placing -/

/-- The actor of a placement. -/
def placedActor (settings : Settings) (index : Nat) (placement : Placement) : Actor :=
  ({ Actor.new settings placement.name placement.id index .plain with
      position := placement.position }).push (.placed placement.position placement.value)

/-- Places one actor, runs its setup script and points it at its own script. -/
def place (settings : Settings) (placement : Placement) : Play Unit := do
  let session ← get
  match session.level.arenaIndex placement.arena with
  | .error error => throw error
  | .ok index =>
    match session.level.arenas[index]? with
    | none => pure ()
    | some arena =>
      let init := (arena.inits.get? placement.localKey).getD 0
      let (fatal, scene) :=
        settle (session.stage settings arena index false) settings.maxCallDepth
          (placedActor settings index placement) init (session.world arena)
      let joined := session.updateArena index (·.append (#[scene.actor] ++ scene.spawned))
      set (joined.share index scene.world)
      stopIf fatal

/-- Places actors one after the other. -/
def seed (settings : Settings) (placements : List Placement) : Play Unit :=
  placements.forM (place settings)

/-! ### Rehearsing -/

/-- The actor on which a setup script is rehearsed.  It is what the first live actor of that name
is, so that the setup of a door has a door to act on. -/
def understudy (settings : Settings) (arena : Arena) (index : Nat) (name : String) : Actor :=
  let kind :=
    match arena.named name with
    | first :: _ => first.kind
    | [] => .plain
  Actor.new settings name 0 index kind

/-- Rehearses one setup script: it runs on an actor of its own and spawns nothing. -/
def rehearse (settings : Settings) (index : Nat) (entry : OffsetEntry) : Play Unit := do
  let session ← get
  match session.level.arenas[index]? with
  | none => pure ()
  | some arena =>
    let actor := (understudy settings arena index entry.1).startAt entry.2
    let (fatal, scene) :=
      (session.stage settings arena index true).invoke ⟨actor, session.world arena, #[]⟩
    match fatal with
    | some error =>
      set (session.share index scene.world)
      throw error
    | none =>
      set ((session.updateArena index (·.keepLog entry.1 scene.actor.log)).share index scene.world)

/-- Rehearses all setup scripts of an arena, in the order of their table. -/
def rehearseAll (settings : Settings) (index : Nat) : Play Unit := do
  let session ← get
  match session.level.arenas[index]? with
  | none => pure ()
  | some arena => arena.setups.entries.forM (rehearse settings index)

/-! ### Loading -/

/-- The passes over one arena: its live actors, the rehearsals, the arena itself, and its live
actors again. -/
def loadArena (settings : Settings) (index : Nat) : Play Unit := do
  pass settings index
  rehearseAll settings index
  invoke settings index .self
  pass settings index

def loadPasses (settings : Settings) : Play Unit := do
  let count ← arenaCount
  (List.range count).forM (loadArena settings)

/-- One round of countdown in an arena: first the arena itself, then the actors that are live by
then. -/
def tickArena (settings : Settings) (index : Nat) : Play Unit := do
  tick settings index .self
  let count ← liveCount index
  (List.range count).forM fun i => tick settings index (.live i)

def tickAll (settings : Settings) : Play Unit := do
  let count ← arenaCount
  (List.range count).forM (tickArena settings)

/-- Repeats a play. -/
def repeated (play : Play Unit) : Nat → Play Unit
  | 0 => pure ()
  | count + 1 => do
    play
    repeated play count

/-- All rounds of countdown. -/
def ticks (settings : Settings) : Play Unit :=
  repeated (tickAll settings) settings.tickIterations

/-- Everything that a load plays. -/
def load (settings : Settings) (placements : List Placement) : Play Unit := do
  seed settings placements
  loadPasses settings
  ticks settings

end Play

/-- What can be done to a level at play. -/
inductive Operation
  | seed (placements : List Placement)
  | loadPasses
  | pass (index : Nat)
  | ticks
  | tick (index : Nat) (seat : Seat)
  | invoke (index : Nat) (seat : Seat)
deriving DecidableEq, Repr, Inhabited

/-- Carries out an operation. -/
def Operation.play (settings : Settings) : Operation → Play Unit
  | seed placements => Play.seed settings placements
  | loadPasses => Play.loadPasses settings
  | pass index => Play.pass settings index
  | ticks => Play.ticks settings
  | tick index seat => Play.tick settings index seat
  | invoke index seat => Play.invoke settings index seat

/-- The session after an operation, whether an error stopped it or not. -/
def Session.after (session : Session) (settings : Settings) (operation : Operation) : Session :=
  ((operation.play settings).run session).2

/-! ### Whole loads -/

/-- The result of a load and the spans it read. -/
structure Load where
  result : Except DataError Level
  reads : List Span

/-- Decodes a container, builds its level and plays its scripts until nothing is left to do at
once. -/
def loadLevel (settings : Settings) (placements : List Placement) (bytes : Bytes) : Load :=
  match Container.read.run bytes (.start 0) with
  | (.error error, c) => ⟨.error error, c.reads⟩
  | (.ok container, c) =>
    match Level.explore settings container bytes with
    | .error error => ⟨.error error, c.reads⟩
    | .ok (level, listed) =>
      match (Play.load settings placements).run ⟨level, listed ++ c.reads⟩ with
      | (.error error, session) => ⟨.error error, session.reads⟩
      | (.ok (), session) => ⟨.ok session.level, session.reads⟩

end LevelScript
