import LevelScript.Proofs.Growth
import Mathlib.Data.List.Forall2

/-!
What an actor has executed.

An actor keeps a log, but not the script that it was last pointed at, nor where its instructions
ended.  A history does.  The account of a run is computed beside the run from the same fetches: the
instructions that it executes, and the histories of the actors that it spawns.  `Stage.Lives` says
what can happen to an actor from its birth on, and every run keeps to it; so whatever holds of all
lives holds of all actors.
-/

namespace LevelScript

/-- An instruction that was executed, be it that it failed: where it starts, where its operands end,
or where reading them failed, and its opcode. -/
structure Executed where
  start : Nat
  stop : Nat
  opcode : UInt8
deriving DecidableEq, Repr, Inhabited

def Executed.site (executed : Executed) : Site :=
  Site.at executed.opcode executed.start

/-- A script that an actor was pointed at, zero for none, and what the actor has executed since. -/
structure Episode where
  script : UInt32
  ran : List Executed
deriving DecidableEq, Repr, Inhabited

/-- The episodes of an actor: those that are over, and the one since it was last pointed at a
script. -/
structure History where
  earlier : List Episode
  current : Episode
deriving DecidableEq, Repr, Inhabited

namespace History

/-- The history of an actor that was never pointed at a script. -/
def fresh : History :=
  ⟨[], ⟨0, []⟩⟩

/-- The actor is pointed at a script. -/
def begin (history : History) (script : UInt32) : History :=
  ⟨history.earlier ++ [history.current], ⟨script, []⟩⟩

/-- The actor goes on with its script. -/
def extend (history : History) (ran : List Executed) : History :=
  { history with current := ⟨history.current.script, history.current.ran ++ ran⟩ }

def episodes (history : History) : List Episode :=
  history.earlier ++ [history.current]

/-- All instructions that the actor has executed, whatever the script. -/
def executed (history : History) : List Executed :=
  history.episodes.flatMap Episode.ran

@[simp]
theorem extend_nil (history : History) : history.extend [] = history := by
  simp [extend]

@[simp]
theorem extend_extend (history : History) (ran more : List Executed) :
    (history.extend ran).extend more = history.extend (ran ++ more) := by
  simp [extend, List.append_assoc]

@[simp]
theorem executed_begin (history : History) (script : UInt32) :
    (history.begin script).executed = history.executed := by
  simp [executed, episodes, begin]

@[simp]
theorem executed_extend (history : History) (ran : List Executed) :
    (history.extend ran).executed = history.executed ++ ran := by
  simp [executed, episodes, extend]

end History

/-! ### Accounts of runs -/

/-- What is told of a run: the instructions that it executes, and the histories of the actors that
it spawns, in order. -/
structure Account where
  ran : List Executed
  births : List History

/-- What is told of settling in a new actor: its own history, and those of the actors that its setup
spawns in turn. -/
abbrev Tell := Actor → UInt32 → World → History × List History

namespace Fetched

/-- The instruction that a step executes, if it finds one. -/
def ran (pos : Nat) : Fetched → List Executed
  | instruction opcode stop _ => [⟨pos, stop, opcode⟩]
  | _ => []

/-- The histories that a step starts. -/
def births (stage : Stage) (tell : Tell) (world : World) : Fetched → List History
  | instruction _ _ (.ok (.spawn order)) =>
    if stage.rehearsal then []
    else
      (tell (order.actor stage) order.init world).1 ::
        (tell (order.actor stage) order.init world).2
  | _ => []

end Fetched

/-- The instruction that a step executes, if it finds one. -/
def stepRan (stage : Stage) (pos : Nat) (scene : Scene) : List Executed :=
  (fetch stage pos scene.actor scene.world.reads).1.ran pos

def stepAccount (stage : Stage) (tell : Tell) (pos : Nat) (scene : Scene) : Account :=
  let (fetched, reads) := fetch stage pos scene.actor scene.world.reads
  ⟨fetched.ran pos, fetched.births stage tell (scene.withReads reads).world⟩

def executeAccount (stage : Stage) (settle : Settle) (tell : Tell) : Nat → Nat → Scene → Account
  | 0, _, _ => ⟨[], []⟩
  | fuel + 1, pos, scene =>
    let now := stepAccount stage tell pos scene
    match step stage settle pos scene with
    | .next pos scene =>
      let later := executeAccount stage settle tell fuel pos scene
      ⟨now.ran ++ later.ran, now.births ++ later.births⟩
    | .halt _ => now

def invokeAccount (stage : Stage) (settle : Settle) (tell : Tell) (scene : Scene) : Account :=
  match scene.actor.start? with
  | some offset => executeAccount stage settle tell stage.settings.maxInstructions offset scene
  | none => ⟨[], []⟩

/-- The account of settling in: the setup script is one episode, the actor's own script the next. -/
def settleAccount (stage : Stage) : Nat → Tell
  | 0 => fun child init _ =>
    match stage.setupOf? child with
    | some _ => (.fresh, [])
    | none => (History.fresh.begin init, [])
  | room + 1 => fun child init world =>
    match stage.setupOf? child with
    | none => (History.fresh.begin init, [])
    | some offset =>
      let begun : Scene := ⟨(child.push (.setup offset)).startAt offset, world, #[]⟩
      let account := invokeAccount stage (settle stage room) (settleAccount stage room) begun
      let setUp := (History.fresh.begin offset).extend account.ran
      match invoke stage (settle stage room) begun with
      | (some _, _) => (setUp, account.births)
      | (none, scene) =>
        if scene.actor.isGone then (setUp, account.births)
        else (setUp.begin init, account.births)

namespace Stage

def invokeAccount (stage : Stage) (scene : Scene) : Account :=
  LevelScript.invokeAccount stage (settle stage stage.settings.maxCallDepth)
    (settleAccount stage stage.settings.maxCallDepth) scene

def tickAccount (stage : Stage) (scene : Scene) : Account :=
  match scene.actor.control with
  | .blocked resume delay =>
    if Single.lt .zero (delay - stage.settings.tickDelta) then ⟨[], []⟩
    else
      stage.invokeAccount
        { scene with
          actor := ({ scene.actor with control := .running resume }).push (.resume resume) }
  | _ => stage.invokeAccount scene

end Stage

/-! ### Lives -/

/-- What can happen to an actor, beside its history.  A position says that the actor is about to
execute the instruction there; a script is due while the actor is settling in.  Every actor starts
as a root, which nobody spawned, or by a spawn order of another actor. -/
inductive Stage.Lives (stage : Stage) (root : Actor → UInt32 → Prop) :
    Actor → History → Option Nat → Option UInt32 → Prop
  | root {actor : Actor} {init : UInt32} :
      root actor init → Lives stage root actor .fresh none (some init)
  | spawned {parent : Actor} {history : History} {pos : Nat} {due : Option UInt32}
      {reads reads' : List Span} {opcode : UInt8} {stop : Nat} {order : SpawnOrder} :
      Lives stage root parent history (some pos) due →
      fetch stage pos parent reads = (.instruction opcode stop (.ok (.spawn order)), reads') →
      Lives stage root (order.actor stage) .fresh none (some order.init)
  /-- Pointed at the script that is due, unless it is gone. -/
  | begun {actor : Actor} {history : History} {init : UInt32} :
      Lives stage root actor history none (some init) → actor.isGone = false →
      Lives stage root (actor.startAt init) (history.begin init) none none
  /-- The same, with a line in the log. -/
  | enrolled {actor : Actor} {history : History} {init : UInt32} :
      Lives stage root actor history none (some init) → actor.isGone = false →
      Lives stage root (actor.enroll init) (history.begin init) none none
  | setUp {actor : Actor} {history : History} {init offset : UInt32} :
      Lives stage root actor history none (some init) → actor.isGone = false →
      stage.setupOf? actor = some offset →
      Lives stage root ((actor.push (.setup offset)).startAt offset) (history.begin offset) none
        (some init)
  /-- The script that is due is never begun. -/
  | dropped {actor : Actor} {history : History} {due : Option UInt32} :
      Lives stage root actor history none due → Lives stage root actor history none none
  /-- Stopped by a limit: before its setup script, or in the midst of a script. -/
  | ended {actor : Actor} {history : History} {pos : Option Nat} {due : Option UInt32}
      (error : ScriptFailure) :
      Lives stage root actor history pos due → (pos = none → actor.isGone = false) →
      Lives stage root (actor.endWith (.failed error)) history none due
  /-- An invocation starts where the script stands. -/
  | started {actor : Actor} {history : History} {due : Option UInt32} {pos : Nat} :
      Lives stage root actor history none due → actor.start? = some pos →
      Lives stage root actor history (some pos) due
  | went {scene scene' : Scene} {history : History} {pos pos' : Nat} {due : Option UInt32}
      {settle : Settle} :
      Lives stage root scene.actor history (some pos) due →
      step stage settle pos scene = .next pos' scene' →
      Lives stage root scene'.actor (history.extend (stepRan stage pos scene)) (some pos') due
  | halted {scene : Scene} {history : History} {pos : Nat} {due : Option UInt32} {settle : Settle}
      {outcome : Outcome} :
      Lives stage root scene.actor history (some pos) due →
      step stage settle pos scene = .halt outcome →
      Lives stage root outcome.2.actor (history.extend (stepRan stage pos scene)) none due
  | waited {actor : Actor} {history : History} {resume : Nat} {delay : Single} (left : Single) :
      Lives stage root actor history none none → actor.control = .blocked resume delay →
      Lives stage root { actor with control := .blocked resume left } history none none
  | resumed {actor : Actor} {history : History} {resume : Nat} {delay : Single} :
      Lives stage root actor history none none → actor.control = .blocked resume delay →
      Lives stage root (({ actor with control := .running resume }).push (.resume resume)) history
        none none

/-- An actor between two invocations, with its history. -/
def Stage.Rests (stage : Stage) (root : Actor → UInt32 → Prop) (actor : Actor)
    (history : History) : Prop :=
  stage.Lives root actor history none none

/-! ### What a step does to its actor -/

/-- How an actor comes out of a step at a position, with what was executed and where its script goes
on within the invocation.  A command changes the actor as `Command.Changed` says, and then its line
is written. -/
inductive Stage.Steps (stage : Stage) (pos : Nat) (actor : Actor) :
    List Executed → Actor → Option Nat → Prop
  /-- There is no instruction. -/
  | stopped (reason : Ending) : Steps stage pos actor [] (actor.endWith reason) none
  /-- There is one, but its operands cannot be read. -/
  | failed {reads reads' : List Span} {opcode : UInt8} {stop : Nat} {error : ScriptFailure} :
      fetch stage pos actor reads = (.instruction opcode stop (.error error), reads') →
      Steps stage pos actor [⟨pos, stop, opcode⟩]
        ((actor.push (.step pos opcode "")).endWith (.failed error)) none
  | goesOn {reads reads' : List Span} {opcode : UInt8} {stop : Nat} {command : Command}
      {changed : Actor} (detail : String) :
      fetch stage pos actor reads = (.instruction opcode stop (.ok command), reads') →
      command.Changed stop actor changed → command ≠ .goBack → command ≠ .unmodeled →
      changed.control = actor.control →
      Steps stage pos actor [⟨pos, stop, opcode⟩] (changed.push (.step pos opcode detail))
        (some stop)
  | waits {reads reads' : List Span} {opcode : UInt8} {stop : Nat} {command : Command}
      {changed : Actor} {delay : Single} (detail : String) :
      fetch stage pos actor reads = (.instruction opcode stop (.ok command), reads') →
      command.Changed stop actor changed → command ≠ .goBack → command ≠ .unmodeled →
      changed.control = .blocked stop delay →
      Steps stage pos actor [⟨pos, stop, opcode⟩] (changed.push (.step pos opcode detail)) none
  | returns {reads reads' : List Span} {opcode : UInt8} {stop : Nat} {changed : Actor}
      (detail : String) :
      fetch stage pos actor reads = (.instruction opcode stop (.ok .goBack), reads') →
      Command.goBack.Changed stop actor changed →
      (changed.control = if actor.anchor = 0 then .idle else .running actor.anchor) →
      Steps stage pos actor [⟨pos, stop, opcode⟩] (changed.push (.step pos opcode detail)) none
  | ends {reads reads' : List Span} {opcode : UInt8} {stop : Nat} {command : Command}
      {changed : Actor} (detail : String) (reason : Ending) :
      fetch stage pos actor reads = (.instruction opcode stop (.ok command), reads') →
      command.Changed stop actor changed →
      Steps stage pos actor [⟨pos, stop, opcode⟩]
        ((changed.push (.step pos opcode detail)).endWith reason) none

theorem Effect.proceed_steps {stage : Stage} {settle : Settle} {pos : Nat} {scene : Scene}
    {reads reads' : List Span} {opcode : UInt8} {stop : Nat} {command : Command}
    (hfetch : fetch stage pos scene.actor reads =
      (.instruction opcode stop (.ok command), reads')) :
    match (command.apply stage settle (Site.at opcode pos) stop scene).proceed pos opcode stop with
    | .next pos' scene' =>
      stage.Steps pos scene.actor [⟨pos, stop, opcode⟩] scene'.actor (some pos')
    | .halt outcome => stage.Steps pos scene.actor [⟨pos, stop, opcode⟩] outcome.2.actor none := by
  have hchanged := Command.apply_changed stage settle (Site.at opcode pos) stop scene command
  generalize heffect : command.apply stage settle (Site.at opcode pos) stop scene = effect
    at hchanged
  obtain ⟨next, detail, verdict⟩ := effect
  have hverdict := congrArg Effect.verdict heffect
  cases verdict with
  | error fatal => exact .ends detail (.failed (.format fatal)) hfetch hchanged
  | ok verdict =>
      cases verdict with
      | goOn =>
          have hmodeled : command ≠ .unmodeled := by
            rintro rfl
            cases hverdict
          obtain ⟨hcontrol, hback⟩ := Command.apply_control_of_goOn hverdict
          rw [heffect] at hcontrol
          exact .goesOn detail hfetch hchanged hback hmodeled hcontrol
      | pause =>
          have hpause := Command.apply_control_of_pause hverdict
          rw [heffect] at hpause
          rcases hpause with ⟨hback, delay, hcontrol⟩ | ⟨rfl, hcontrol⟩
          · have hmodeled : command ≠ .unmodeled := by
              rintro rfl
              cases hverdict
            exact .waits detail hfetch hchanged hback hmodeled hcontrol
          · exact .returns detail hfetch hchanged hcontrol
      | stop reason => exact .ends detail reason hfetch hchanged

theorem step_steps (stage : Stage) (settle : Settle) (pos : Nat) (scene : Scene) :
    match step stage settle pos scene with
    | .next pos' scene' =>
      stage.Steps pos scene.actor (stepRan stage pos scene) scene'.actor (some pos')
    | .halt outcome =>
      stage.Steps pos scene.actor (stepRan stage pos scene) outcome.2.actor none := by
  rw [step_eq_proceed, stepRan]
  rcases hfetch : fetch stage pos scene.actor scene.world.reads with
    ⟨error | - | ⟨opcode, stop, error | command⟩, reads⟩
  · exact .stopped _
  · exact .stopped _
  · exact .failed hfetch
  · have hscene : fetch stage pos (scene.withReads reads).actor scene.world.reads =
        (.instruction opcode stop (.ok command), reads) := hfetch
    exact Effect.proceed_steps hscene

/-- Inversion of a step after which the script goes on. -/
theorem steps_of_next {stage : Stage} {settle : Settle} {pos pos' : Nat} {scene scene' : Scene}
    (h : step stage settle pos scene = .next pos' scene') :
    stage.Steps pos scene.actor (stepRan stage pos scene) scene'.actor (some pos') := by
  have hsteps := step_steps stage settle pos scene
  rwa [h] at hsteps

/-- A script goes on behind an instruction that was read, and leaves its actor as it runs. -/
theorem fetch_of_next {stage : Stage} {settle : Settle} {pos pos' : Nat} {scene scene' : Scene}
    (h : step stage settle pos scene = .next pos' scene') :
    (∃ opcode command reads reads', fetch stage pos scene.actor reads =
        (.instruction opcode pos' (.ok command), reads')) ∧
      scene'.actor.control = scene.actor.control := by
  have hsteps := steps_of_next h
  generalize stepRan stage pos scene = ran at hsteps
  generalize scene'.actor = actor' at hsteps
  cases hsteps with
  | goesOn detail hfetch _ _ _ hcontrol => exact ⟨⟨_, _, _, _, hfetch⟩, hcontrol⟩

/-- Inversion of a step that ends the invocation. -/
theorem steps_of_halt {stage : Stage} {settle : Settle} {pos : Nat} {scene : Scene}
    {outcome : Outcome} (h : step stage settle pos scene = .halt outcome) :
    stage.Steps pos scene.actor (stepRan stage pos scene) outcome.2.actor none := by
  have hsteps := step_steps stage settle pos scene
  rwa [h] at hsteps

/-! ### Every run is a life -/

section Runs

variable {stage : Stage} {root : Actor → UInt32 → Prop}

/-- What is told of settling in is what happens: the newcomer comes to rest with its history, and so
does every actor that its setup spawns. -/
structure Stage.Told (stage : Stage) (root : Actor → UInt32 → Prop) (settle : Settle)
    (tell : Tell) : Prop where
  own : ∀ (child : Actor) (init : UInt32) (world : World),
    stage.Lives root child .fresh none (some init) → child.isGone = false →
    stage.Rests root (settle child init world).2.actor (tell child init world).1
  spawned : ∀ (child : Actor) (init : UInt32) (world : World),
    stage.Lives root child .fresh none (some init) → child.isGone = false →
    List.Forall₂ (stage.Rests root) (settle child init world).2.spawned.toList
      (tell child init world).2

/-- Nobody is gone who was only just ordered. -/
theorem SpawnOrder.actor_isGone (order : SpawnOrder) (stage : Stage) :
    (order.actor stage).isGone = false := by
  unfold SpawnOrder.actor
  cases order.kind <;> rfl

/-- What holds of all whom a run has spawned, with their histories, still holds after one more
instruction, if it holds of those whom that instruction spawns. -/
theorem step_births {holds : Actor → History → Prop} {settle : Settle} {tell : Tell} {pos : Nat}
    {scene : Scene}
    (hspawn : ∀ (opcode : UInt8) (stop : Nat) (order : SpawnOrder) (reads : List Span),
      fetch stage pos scene.actor scene.world.reads =
        (.instruction opcode stop (.ok (.spawn order)), reads) → stage.rehearsal = false →
      let world := (scene.withReads reads).world
      holds (settle (order.actor stage) order.init world).2.actor
          (tell (order.actor stage) order.init world).1 ∧
        List.Forall₂ holds (settle (order.actor stage) order.init world).2.spawned.toList
          (tell (order.actor stage) order.init world).2)
    {told : List History} (hspawned : List.Forall₂ holds scene.spawned.toList told) :
    List.Forall₂ holds (step stage settle pos scene).scene.spawned.toList
      (told ++ (stepAccount stage tell pos scene).births) := by
  rw [step_eq_proceed]
  unfold stepAccount
  rcases hfetch : fetch stage pos scene.actor scene.world.reads with
    ⟨error | - | ⟨opcode, stop, error | command⟩, reads⟩
  all_goals
    have hnobody : List.Forall₂ holds (scene.withReads reads).spawned.toList (told ++ []) := by
      rw [List.append_nil]
      exact hspawned
  · exact hnobody
  · exact hnobody
  · exact hnobody
  · simp only [Fetched.proceed, Effect.proceed_scene_spawned]
    by_cases hspawns : ∃ order, command = .spawn order
    · obtain ⟨order, rfl⟩ := hspawns
      rw [Command.apply]
      cases hrehearsal : stage.rehearsal with
      | true =>
          rw [(Command.carryOutSpawn_of_rehearsal hrehearsal settle _ order).1]
          simpa only [Fetched.births, hrehearsal, ↓reduceIte] using hnobody
      | false =>
          obtain ⟨hown, hnested⟩ := hspawn opcode stop order reads hfetch hrehearsal
          rw [(Command.carryOutSpawn_of_not_rehearsal hrehearsal settle _ order).1]
          simp only [Fetched.births, hrehearsal, Scene.adopt, Array.toList_append,
            Array.toList_push, List.append_assoc, List.singleton_append]
          exact List.rel_append hspawned (.cons hown hnested)
    · have hnone : ∀ order, command ≠ .spawn order := by simpa using hspawns
      rw [Command.apply_spawned_eq stage settle _ stop _ hnone]
      have hbirths : (Fetched.instruction opcode stop (.ok command)).births stage tell
          (scene.withReads reads).world = [] := by
        cases command with
        | spawn order => exact absurd rfl (hnone order)
        | _ => rfl
      rw [hbirths]
      exact hnobody

theorem step_told {settle : Settle} {tell : Tell} (htold : stage.Told root settle tell) {pos : Nat}
    {scene : Scene} {history : History} {due : Option UInt32}
    (h : stage.Lives root scene.actor history (some pos) due) {told : List History}
    (hspawned : List.Forall₂ (stage.Rests root) scene.spawned.toList told) :
    List.Forall₂ (stage.Rests root) (step stage settle pos scene).scene.spawned.toList
      (told ++ (stepAccount stage tell pos scene).births) := by
  apply step_births _ hspawned
  intro opcode stop order reads hfetch _ world
  have hborn := Stage.Lives.spawned h hfetch
  have hthere := order.actor_isGone stage
  exact ⟨htold.own _ _ _ hborn hthere, htold.spawned _ _ _ hborn hthere⟩

theorem execute_told {settle : Settle} {tell : Tell} (htold : stage.Told root settle tell)
    (fuel : Nat) {pos : Nat} {scene : Scene} {history : History} {due : Option UInt32}
    (h : stage.Lives root scene.actor history (some pos) due) {told : List History}
    (hspawned : List.Forall₂ (stage.Rests root) scene.spawned.toList told) :
    stage.Lives root (execute stage settle fuel pos scene).2.actor
        (history.extend (executeAccount stage settle tell fuel pos scene).ran) none due ∧
      List.Forall₂ (stage.Rests root) (execute stage settle fuel pos scene).2.spawned.toList
        (told ++ (executeAccount stage settle tell fuel pos scene).births) := by
  induction fuel generalizing pos scene history told with
  | zero =>
      simp only [execute, executeAccount, History.extend_nil, List.append_nil]
      exact ⟨.ended _ h (by simp), hspawned⟩
  | succ fuel ih =>
      have hstep := step_told htold h hspawned
      have hran : (stepAccount stage tell pos scene).ran = stepRan stage pos scene := rfl
      rw [execute, executeAccount]
      cases hnext : step stage settle pos scene with
      | next pos' scene' =>
          rw [hnext] at hstep
          have hlater := ih (.went h hnext) hstep
          simpa [hran] using hlater
      | halt outcome =>
          rw [hnext] at hstep
          exact ⟨.halted h hnext, hstep⟩

theorem invoke_told {settle : Settle} {tell : Tell} (htold : stage.Told root settle tell)
    {scene : Scene} {history : History} {due : Option UInt32}
    (h : stage.Lives root scene.actor history none due) (hspawned : scene.spawned = #[]) :
    stage.Lives root (invoke stage settle scene).2.actor
        (history.extend (invokeAccount stage settle tell scene).ran) none due ∧
      List.Forall₂ (stage.Rests root) (invoke stage settle scene).2.spawned.toList
        (invokeAccount stage settle tell scene).births := by
  have hnobody : List.Forall₂ (stage.Rests root) scene.spawned.toList [] := by simp [hspawned]
  unfold invoke invokeAccount
  cases hstart : scene.actor.start? with
  | none => exact ⟨by simpa using h, hnobody⟩
  | some pos => exact execute_told htold _ (.started h hstart) hnobody

/-- What is told of settling in is true, however much room is left for nested setup scripts. -/
theorem settle_told (stage : Stage) (root : Actor → UInt32 → Prop) (room : Nat) :
    stage.Told root (settle stage room) (settleAccount stage room) := by
  induction room with
  | zero =>
      constructor
      · intro child init world h hthere
        unfold settle settleAccount
        cases stage.setupOf? child with
        | none => exact .enrolled h hthere
        | some offset => exact .dropped (.ended _ h fun _ => hthere)
      · intro child init world h _
        unfold settle settleAccount
        cases stage.setupOf? child with
        | none => exact .nil
        | some offset => exact .nil
  | succ room ih =>
      -- Both halves follow the one run of the setup script.
      have hrun : ∀ (child : Actor) (init : UInt32) (world : World),
          stage.Lives root child .fresh none (some init) → child.isGone = false →
          stage.Rests root (settle stage (room + 1) child init world).2.actor
              (settleAccount stage (room + 1) child init world).1 ∧
            List.Forall₂ (stage.Rests root)
              (settle stage (room + 1) child init world).2.spawned.toList
              (settleAccount stage (room + 1) child init world).2 := by
        intro child init world h hthere
        unfold settle settleAccount
        cases hsetup : stage.setupOf? child with
        | none => exact ⟨.enrolled h hthere, .nil⟩
        | some offset =>
            let begun : Scene := ⟨(child.push (.setup offset)).startAt offset, world, #[]⟩
            have hbegun : stage.Lives root begun.actor (History.fresh.begin offset) none
                (some init) := .setUp h hthere hsetup
            have hinvoke := invoke_told ih hbegun rfl
            dsimp only
            rcases hout : invoke stage (settle stage room) begun with ⟨_ | fatal, scene⟩
            · rw [hout] at hinvoke
              dsimp only
              cases hgone : scene.actor.isGone with
              | true => exact ⟨.dropped hinvoke.1, hinvoke.2⟩
              | false => exact ⟨.enrolled hinvoke.1 hgone, hinvoke.2⟩
            · rw [hout] at hinvoke
              exact ⟨.dropped hinvoke.1, hinvoke.2⟩
      exact ⟨fun child init world h hthere => (hrun child init world h hthere).1,
        fun child init world h hthere => (hrun child init world h hthere).2⟩

/-- An invocation from outside adds to the history of its actor what its account tells, and brings
the actors whose histories it tells. -/
theorem Stage.invoke_told {scene : Scene} {history : History} {due : Option UInt32}
    (h : stage.Lives root scene.actor history none due) (hspawned : scene.spawned = #[]) :
    stage.Lives root (stage.invoke scene).2.actor
        (history.extend (stage.invokeAccount scene).ran) none due ∧
      List.Forall₂ (stage.Rests root) (stage.invoke scene).2.spawned.toList
        (stage.invokeAccount scene).births :=
  LevelScript.invoke_told (settle_told stage root _) h hspawned

/-- So does a tick. -/
theorem Stage.tick_told {scene : Scene} {history : History}
    (h : stage.Rests root scene.actor history) (hspawned : scene.spawned = #[]) :
    stage.Rests root (stage.tick scene).2.actor
        (history.extend (stage.tickAccount scene).ran) ∧
      List.Forall₂ (stage.Rests root) (stage.tick scene).2.spawned.toList
        (stage.tickAccount scene).births := by
  unfold Stage.tick Stage.tickAccount
  cases hcontrol : scene.actor.control with
  | blocked resume delay =>
      dsimp only
      cases hleft : Single.lt .zero (delay - stage.settings.tickDelta) with
      | true =>
          refine ⟨?_, by simp [hspawned]⟩
          rw [if_pos rfl, if_pos rfl, History.extend_nil]
          exact .waited (delay - stage.settings.tickDelta) h hcontrol
      | false =>
          exact Stage.invoke_told (Stage.Lives.resumed h hcontrol) hspawned
  | idle => exact Stage.invoke_told h hspawned
  | running offset => exact Stage.invoke_told h hspawned
  | ended reason => exact Stage.invoke_told h hspawned

end Runs

end LevelScript
