import LevelScript.Command

/-!
Running a script.

One invocation carries out instructions from where the actor's script stands until the script
waits, goes back, ends or fails.  A spawn runs the setup script of the new actor before it goes on;
how deep such runs nest is bounded, and so is the number of instructions of each of them.  What an
invocation can touch is its own actor, the variables of the level and of the arena, and the list of
actors it spawns; everything else it sees is in the `Stage` and stays as it is.
-/

namespace LevelScript

/-- What a running script sees and cannot change. -/
structure Stage where
  bytes : Bytes
  settings : Settings
  /-- The names of the level's arenas. -/
  arenas : List String
  /-- The index of the arena in which the script runs. -/
  arena : Nat
  /-- The setup scripts of that arena, by name of the actor they set up. -/
  setups : NamedTable UInt32
  /-- Whether spawns are only announced. -/
  rehearsal : Bool

/-- What scripts share: the variables of the level and of the arena, and which bytes were read. -/
structure World where
  levelVars : Vars
  arenaVars : Vars
  reads : List Span

/-- The state of an invocation. -/
structure Scene where
  actor : Actor
  world : World
  /-- The actors it has spawned so far, in order. -/
  spawned : Array Actor

/-- How a script goes on after an instruction. -/
inductive Verdict
  | goOn
  /-- The invocation is over; the actor's control says what comes next. -/
  | pause
  | stop (reason : Ending)
deriving DecidableEq, Repr, Inhabited

/-- The end of an invocation: the error that stops the whole load, if there is one, and the state. -/
abbrev Outcome := Option DataError × Scene

/-- How a new actor is settled in: given the actor, its script and the world, it runs the actor's
setup script and points it at its own script. -/
abbrev Settle := Actor → UInt32 → World → Outcome

namespace World

def view (world : World) (actor : Actor) : VarView :=
  ⟨world.levelVars, world.arenaVars, actor.vars⟩

end World

namespace Scene

def view (scene : Scene) : VarView :=
  scene.world.view scene.actor

/-- Takes over changed variables. -/
def withView (scene : Scene) (view : VarView) : Scene :=
  { scene with
    actor := { scene.actor with vars := view.actor }
    world := { scene.world with levelVars := view.level, arenaVars := view.arena } }

def withReads (scene : Scene) (reads : List Span) : Scene :=
  { scene with world := { scene.world with reads := reads } }

def push (scene : Scene) (line : TraceLine) : Scene :=
  { scene with actor := scene.actor.push line }

def endWith (scene : Scene) (reason : Ending) : Scene :=
  { scene with actor := scene.actor.endWith reason }

/-- Ends the script with an error; only a fatal one goes further than the actor. -/
def fail (scene : Scene) (error : ScriptFailure) : Outcome :=
  (error.fatal?, scene.endWith (.failed error))

/-- Takes over a new actor and the actors that its setup spawned in turn. -/
def adopt (scene : Scene) (child : Scene) : Scene :=
  { scene with world := child.world, spawned := scene.spawned.push child.actor ++ child.spawned }

end Scene

namespace SpawnOrder

/-- The actor that an order asks for. -/
def actor (order : SpawnOrder) (stage : Stage) : Actor :=
  let fresh :=
    match order.kind with
    | .plain => Actor.new stage.settings order.name order.id stage.arena .plain
    | .pickup => Actor.new stage.settings order.name order.id stage.arena .pickup
    | .door target => Actor.newDoor stage.settings order.name order.id stage.arena target
  { fresh with position := order.position, angle := order.angle }

/-- The arena that a spawned door leads to. -/
def destination (order : SpawnOrder) (stage : Stage) : String :=
  match order.kind with
  | .door target => " to " ++ stage.arenas.getD target ""
  | _ => ""

def detail (order : SpawnOrder) (stage : Stage) : String :=
  order.destination stage ++
    s!" {(order.actor stage).label} at {order.position.plain}, init {hexOffset order.init.toNat}"

end SpawnOrder

/-- What carrying out a command comes to: the state, the text for the trace, and how the script
goes on, or the error that stops the load. -/
structure Effect where
  scene : Scene
  detail : String
  verdict : Except DataError Verdict

namespace Command

/-- A command that changes the actor alone and lets the script go on. -/
def change (scene : Scene) (actor : Actor) (detail : String) : Effect :=
  ⟨{ scene with actor := actor }, detail, .ok .goOn⟩

/-- Writes a variable. -/
def write (scene : Scene) (target : Variable) (value : Single) : Effect :=
  ⟨scene.withView (scene.view.set target value), s!" {target.plain} = {value.plain}", .ok .goOn⟩

/-- Waits, unless the time is not above zero. -/
def wait (scene : Scene) (next : Nat) (time : Quantity) : Effect :=
  let value := scene.view.value time
  let detail :=
    match time with
    | .slot _ => s!" {time.plain} ({value.plain})"
    | .immediate _ => s!" {time.plain}"
  if value.le .zero then ⟨scene, detail, .ok .goOn⟩
  else ⟨{ scene with actor := { scene.actor with control := .blocked next value } }, detail, .ok .pause⟩

/-- Changes the door that the actor is; `detail` tells of the changed door. -/
def changeDoor (scene : Scene) (update : Door → Door) (detail : Door → String) : Effect :=
  match scene.actor.door? with
  | some door =>
    change scene { scene.actor with kind := .door (update door) } (detail (update door))
  | none => ⟨scene, "", .ok .goOn⟩

/-- Spawns an actor, or only says so. -/
def carryOutSpawn (stage : Stage) (settle : Settle) (scene : Scene) (order : SpawnOrder) : Effect :=
  let detail := order.detail stage
  if stage.rehearsal then ⟨scene, detail ++ " (spawn suppressed)", .ok .goOn⟩
  else
    match settle (order.actor stage) order.init scene.world with
    | (none, child) => ⟨scene.adopt child, detail, .ok .goOn⟩
    | (some fatal, child) => ⟨scene.adopt child, detail, .error fatal⟩

/-- Goes back to the anchor, or gives the script up if there is none. -/
def carryOutGoBack (scene : Scene) : Effect :=
  let actor := scene.actor
  if actor.anchor = 0 then ⟨{ scene with actor := { actor with control := .idle } }, "", .ok .pause⟩
  else
    ⟨{ scene with actor := { actor with control := .running actor.anchor } },
      s!" to {hexOffset actor.anchor}", .ok .pause⟩

/-- Carries out a command; `next` is where the instruction after it starts. -/
def apply (stage : Stage) (settle : Settle) (site : Site) (next : Nat) (scene : Scene)
    (command : Command) : Effect :=
  let actor := scene.actor
  match command with
  | anchor => change scene { actor with anchor := next } s!" anchor {hexOffset next}"
  | animate anim => change scene { actor with animation := some anim } s!" {anim.plain}"
  | turn yaw => change scene { actor with angle := .ofNat yaw } s!" yaw: {yaw}"
  | clear => ⟨scene, "", .ok (.stop .cleared)⟩
  | minOrderRange range => change scene { actor with minOrderRange := range } s!" {range}"
  | maxOrderRange range => change scene { actor with maxOrderRange := range } s!" {range}"
  | health points =>
    ⟨{ scene with actor := { actor with health := points } }, s!" health: {points}",
      .ok (if points = 0 then .stop .destroyed else .goOn)⟩
  | delay time => wait scene next time
  | assign target value => write scene target value
  | increase target value => write scene target (scene.view.get target + value)
  | move position => change scene { actor with position := position } s!" {position.plain}"
  | raiseFlags bits =>
    let flags := actor.flags ||| bits
    change scene { actor with flags := flags } s!" {hexMarked bits.toNat} -> {hexMarked flags.toNat}"
  | lowerFlags bits =>
    let flags := actor.flags &&& ~~~bits
    change scene { actor with flags := flags } s!" {hexMarked bits.toNat} -> {hexMarked flags.toNat}"
  | spawn order => carryOutSpawn stage settle scene order
  | doorAnimations animations =>
    changeDoor scene ({ · with animations := some animations }) fun _ =>
      s!" open: {animations.opening.plain}, close: {animations.closing.plain}"
  | doorSounds sounds =>
    changeDoor scene ({ · with sounds := some sounds }) fun _ => s!" {quoteList sounds.toList}"
  | doorFlags bits =>
    changeDoor scene
      (fun door => { door with flags := stage.settings.doorFlagPolicy.apply door.flags bits })
      fun door => s!" {door.flags.plain}"
  | doorDistance distance =>
    changeDoor scene ({ · with openDistance := distance }) fun _ => s!" {distance.plain}"
  | goBack => carryOutGoBack scene
  | note detail => ⟨scene, detail, .ok .goOn⟩
  | unmodeled => ⟨scene, "", .ok (.stop (.unmodeled site.opcode site.offset))⟩

end Command

/-- What one instruction comes to. -/
inductive Stepped
  /-- The script goes on at a position. -/
  | next (pos : Nat) (scene : Scene)
  | halt (outcome : Outcome)

/-- Carries out the instruction at a position. -/
def step (stage : Stage) (settle : Settle) (pos : Nat) (scene : Scene) : Stepped :=
  match Scan.u8.run stage.bytes ⟨pos, scene.world.reads, []⟩ with
  | (.error error, c) => .halt ((scene.withReads c.reads).fail (.format error))
  | (.ok opcode, c) =>
    if opcode = 0xff then .halt (none, (scene.withReads c.reads).endWith .finished)
    else
      let site := Site.at opcode pos
      match (Command.read stage.arenas scene.actor site).run stage.bytes c with
      | (.error error, c) =>
        .halt (((scene.withReads c.reads).push (.step pos opcode "")).fail error)
      | (.ok command, c) =>
        let effect := command.apply stage settle site c.pos (scene.withReads c.reads)
        let scene := effect.scene.push (.step pos opcode effect.detail)
        match effect.verdict with
        | .ok .goOn => .next c.pos scene
        | .ok .pause => .halt (none, scene)
        | .ok (.stop reason) => .halt (none, scene.endWith reason)
        | .error fatal => .halt (scene.fail (.format fatal))

/-- Carries out instructions from a position, at most `fuel` of them. -/
def execute (stage : Stage) (settle : Settle) : Nat → Nat → Scene → Outcome
  | 0, _, scene => scene.fail (.instructionLimit stage.settings.maxInstructions)
  | fuel + 1, pos, scene =>
    match step stage settle pos scene with
    | .next pos scene => execute stage settle fuel pos scene
    | .halt outcome => outcome

/-- One invocation of an actor; one that has nothing to run stays as it is. -/
def invoke (stage : Stage) (settle : Settle) (scene : Scene) : Outcome :=
  match scene.actor.start? with
  | some offset => execute stage settle stage.settings.maxInstructions offset scene
  | none => (none, scene)

/-- The setup script of an actor, if the arena has one for its name. -/
def Stage.setupOf? (stage : Stage) (actor : Actor) : Option UInt32 :=
  (stage.setups.get? actor.name).filter (· != 0)

/-- Points a new actor at its own script. -/
def Actor.enroll (actor : Actor) (init : UInt32) : Actor :=
  (if init = 0 then actor else actor.push (.init init)).startAt init

/-- Settles a new actor in; `room` is how many setup scripts may still nest. -/
def settle (stage : Stage) : Nat → Settle
  | 0 => fun child init world =>
    match stage.setupOf? child with
    | some _ =>
      (none, ⟨child.endWith (.failed (.depthLimit stage.settings.maxCallDepth)), world, #[]⟩)
    | none => (none, ⟨child.enroll init, world, #[]⟩)
  | room + 1 => fun child init world =>
    match stage.setupOf? child with
    | none => (none, ⟨child.enroll init, world, #[]⟩)
    | some offset =>
      match invoke stage (settle stage room)
          ⟨(child.push (.setup offset)).startAt offset, world, #[]⟩ with
      | (some fatal, scene) => (some fatal, scene)
      | (none, scene) =>
        if scene.actor.isGone then (none, scene)
        else (none, { scene with actor := scene.actor.enroll init })

/-- One invocation from outside any script. -/
def Stage.invoke (stage : Stage) (scene : Scene) : Outcome :=
  LevelScript.invoke stage (settle stage stage.settings.maxCallDepth) scene

/-- Counts a pending delay down by one round and invokes the actor if it can run. -/
def Stage.tick (stage : Stage) (scene : Scene) : Outcome :=
  match scene.actor.control with
  | .blocked resume delay =>
    let left := delay - stage.settings.tickDelta
    if Single.lt .zero left then
      (none, { scene with actor := { scene.actor with control := .blocked resume left } })
    else
      stage.invoke
        { scene with
          actor := ({ scene.actor with control := .running resume }).push (.resume resume) }
  | _ => stage.invoke scene

end LevelScript
