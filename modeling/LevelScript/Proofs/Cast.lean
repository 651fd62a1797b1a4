import LevelScript.Proofs.Continuity

/-!
Who takes part in a run.

A run is played by the actor whose script it is, and by the newcomers who are settled in on the way.
Its cast is computed beside it from the same fetches: for each of them the spawns that lead to it,
what it executes, and what goes wrong with its own script.  What becomes of a failure is not part of
the cast but shown of it: a failure ends the actor whose script ran into it, a fatal one also every
actor on the way to that one, and nobody else.
-/

namespace LevelScript

theorem ScriptFailure.fatal?_eq_some {failure : ScriptFailure} {error : DataError} :
    failure.fatal? = some error ↔ failure = .format error ∧ error.isFatal = true := by
  cases failure with
  | format cause =>
      simp only [fatal?, Option.ite_none_right_eq_some, Option.some.injEq, format.injEq]
      constructor
      · rintro ⟨hfatal, rfl⟩
        exact ⟨rfl, hfatal⟩
      · rintro ⟨rfl, hfatal⟩
        exact ⟨hfatal, rfl⟩
  | _ => simp [fatal?]

/-- The part of an actor in a run. -/
structure Part where
  /-- Where the spawns stand that lead to it, from the actor whose run it is. -/
  path : List Nat
  /-- The actor as it comes into the run. -/
  first : Actor
  /-- The setup script that it runs, if it is a newcomer with one. -/
  setup : Option UInt32
  ran : List Executed
  /-- What goes wrong with its own script. -/
  raised : Option ScriptFailure

/-- The part of the actor whose run it is, and those of the newcomers in order. -/
structure Cast where
  own : Part
  others : List Part

/-- How the cast is found while a new actor is settled in. -/
abbrev Herald := Actor → UInt32 → World → Cast

def Cast.parts (cast : Cast) : List Part :=
  cast.own :: cast.others

/-- The part in the run of the actor who carries out the spawn at a position. -/
def Part.under (pos : Nat) (part : Part) : Part :=
  { part with path := pos :: part.path }

/-- What is told of a run from some position on. -/
structure Playbill where
  ran : List Executed
  raised : Option ScriptFailure
  others : List Part

def Playbill.cast (playbill : Playbill) (first : Actor) (setup : Option UInt32) : Cast :=
  ⟨⟨[], first, setup, playbill.ran, playbill.raised⟩, playbill.others⟩

namespace Fetched

/-- What goes wrong with a script that holds this. -/
def raised : Fetched → Option ScriptFailure
  | unreadable error => some (.format error)
  | instruction _ _ (.error error) => some error
  | _ => none

/-- The parts of the newcomer whom a spawn brings and of those who come with it. -/
def brings (stage : Stage) (herald : Herald) (pos : Nat) (world : World) : Fetched → List Part
  | instruction _ _ (.ok (.spawn order)) =>
    if stage.rehearsal then []
    else (herald (order.actor stage) order.init world).parts.map (Part.under pos)
  | _ => []

end Fetched

def stepPlaybill (stage : Stage) (herald : Herald) (pos : Nat) (scene : Scene) : Playbill :=
  let (fetched, reads) := fetch stage pos scene.actor scene.world.reads
  ⟨fetched.ran pos, fetched.raised,
    fetched.brings stage herald pos (scene.withReads reads).world⟩

def executePlaybill (stage : Stage) (settle : Settle) (herald : Herald) :
    Nat → Nat → Scene → Playbill
  | 0, _, _ => ⟨[], some (.instructionLimit stage.settings.maxInstructions), []⟩
  | fuel + 1, pos, scene =>
    let now := stepPlaybill stage herald pos scene
    match step stage settle pos scene with
    | .next pos scene =>
      let later := executePlaybill stage settle herald fuel pos scene
      ⟨now.ran ++ later.ran, later.raised, now.others ++ later.others⟩
    | .halt _ => now

def invokePlaybill (stage : Stage) (settle : Settle) (herald : Herald) (scene : Scene) : Playbill :=
  match scene.actor.start? with
  | some offset => executePlaybill stage settle herald stage.settings.maxInstructions offset scene
  | none => ⟨[], none, []⟩

/-- The cast of settling in; without room a setup script goes wrong before it starts. -/
def settleCast (stage : Stage) : Nat → Herald
  | 0 => fun child _ _ =>
    match stage.setupOf? child with
    | some _ => Playbill.cast ⟨[], some (.depthLimit stage.settings.maxCallDepth), []⟩ child none
    | none => Playbill.cast ⟨[], none, []⟩ child none
  | room + 1 => fun child _ world =>
    match stage.setupOf? child with
    | none => Playbill.cast ⟨[], none, []⟩ child none
    | some offset =>
      (invokePlaybill stage (settle stage room) (settleCast stage room)
        ⟨(child.push (.setup offset)).startAt offset, world, #[]⟩).cast child (some offset)

namespace Stage

def invokePlaybill (stage : Stage) (scene : Scene) : Playbill :=
  LevelScript.invokePlaybill stage (settle stage stage.settings.maxCallDepth)
    (settleCast stage stage.settings.maxCallDepth) scene

def invokeCast (stage : Stage) (scene : Scene) : Cast :=
  (stage.invokePlaybill scene).cast scene.actor none

def tickCast (stage : Stage) (scene : Scene) : Cast :=
  match scene.actor.control with
  | .blocked resume delay =>
    if Single.lt .zero (delay - stage.settings.tickDelta) then
      Playbill.cast ⟨[], none, []⟩ scene.actor none
    else
      (stage.invokePlaybill
        { scene with
          actor := ({ scene.actor with control := .running resume }).push (.resume resume)
        }).cast scene.actor none
  | _ => stage.invokeCast scene

end Stage

/-! ### What a cast tells -/

/-- A part fails with what its own script runs into, and with a fatal failure to which it leads. -/
def Part.Fails (parts : List Part) (part : Part) (failure : ScriptFailure) : Prop :=
  part.raised = some failure ∨
    failure.fatal?.isSome ∧ ∃ other ∈ parts, part.path <+: other.path ∧
      other.raised = some failure

/-- A part executes the spawn through which another one comes. -/
def Part.Spawns (part other : Part) : Prop :=
  ∃ executed ∈ part.ran, other.path = part.path ++ [executed.start]

/-- What a part tells of its actor at the end of the run. -/
structure Part.Tells (parts : List Part) (last : Actor) (part : Part) : Prop where
  sites_eq : last.sites = part.first.sites ++ part.ran.map Executed.site
  failed_iff : ∀ failure, last.ending? = some (.failed failure) ↔
    part.Fails parts failure ∨ part.first.ending? = some (.failed failure)

/-- What a cast tells of the outcome of its run, in which nobody was spawned before. -/
structure Cast.Tells (cast : Cast) (outcome : Outcome) : Prop where
  own_path : cast.own.path = []
  others_first : ∀ part ∈ cast.others, part.first.ending? = none
  parts : List.Forall₂ (Part.Tells cast.parts) (outcome.2.actor :: outcome.2.spawned.toList)
    cast.parts
  fatal_iff : ∀ error, outcome.1 = some error ↔
    ∃ part ∈ cast.parts, ∃ failure, part.raised = some failure ∧ failure.fatal? = some error
  others_by : ∀ part ∈ cast.others, ∃ other ∈ cast.parts, other.Spawns part

/-- A way of settling in and the cast of it. -/
def Heralds (settle : Settle) (herald : Herald) : Prop :=
  ∀ (child : Actor) (init : UInt32) (world : World), child.ending? = none →
    (herald child init world).own.first = child ∧
      (herald child init world).Tells (settle child init world)

/-- What a playbill tells of a run from a position on. -/
structure Playbill.Tells (playbill : Playbill) (pos : Nat) (scene : Scene) (outcome : Outcome) :
    Prop where
  heads : ∀ part ∈ playbill.others, ∃ head path, part.path = head :: path ∧ pos ≤ head
  first : ∀ part ∈ playbill.others, part.first.ending? = none
  spawned : ∃ born, outcome.2.spawned.toList = scene.spawned.toList ++ born ∧
    List.Forall₂ (Part.Tells playbill.others) born playbill.others
  sites_eq : outcome.2.actor.sites = scene.actor.sites ++ playbill.ran.map Executed.site
  failed_iff : ∀ failure, outcome.2.actor.ending? = some (.failed failure) ↔
    playbill.raised = some failure ∨
      failure.fatal?.isSome ∧ ∃ part ∈ playbill.others, part.raised = some failure
  fatal_iff : ∀ error, outcome.1 = some error ↔
    ∃ failure : ScriptFailure, failure.fatal? = some error ∧
      (playbill.raised = some failure ∨ ∃ part ∈ playbill.others, part.raised = some failure)
  others_by : ∀ part ∈ playbill.others, (∃ executed ∈ playbill.ran, part.path = [executed.start]) ∨
    ∃ other ∈ playbill.others, other.Spawns part

namespace Part

/-- Only the parts to which a part leads decide whether it fails. -/
theorem fails_congr {part : Part} {parts parts' : List Part}
    (h : ∀ other, part.path <+: other.path → (other ∈ parts ↔ other ∈ parts'))
    (failure : ScriptFailure) : part.Fails parts failure ↔ part.Fails parts' failure := by
  unfold Fails
  apply or_congr_right
  apply and_congr_right'
  constructor
  · rintro ⟨other, hmem, hpath, hraised⟩
    exact ⟨other, (h other hpath).mp hmem, hpath, hraised⟩
  · rintro ⟨other, hmem, hpath, hraised⟩
    exact ⟨other, (h other hpath).mpr hmem, hpath, hraised⟩

theorem fails_under (pos : Nat) (part : Part) (parts : List Part) (failure : ScriptFailure) :
    (part.under pos).Fails (parts.map (under pos)) failure ↔ part.Fails parts failure := by
  simp [Fails, under, List.cons_prefix_cons]

theorem Tells.congr {part : Part} {parts parts' : List Part} {last : Actor}
    (h : part.Tells parts last)
    (hparts : ∀ other, part.path <+: other.path → (other ∈ parts ↔ other ∈ parts')) :
    part.Tells parts' last := by
  refine ⟨h.sites_eq, fun failure => ?_⟩
  rw [h.failed_iff, fails_congr hparts]

theorem Tells.under {part : Part} {parts : List Part} {last : Actor} (h : part.Tells parts last)
    (pos : Nat) : (part.under pos).Tells (parts.map (Part.under pos)) last := by
  refine ⟨h.sites_eq, fun failure => ?_⟩
  rw [fails_under, h.failed_iff]
  rfl

end Part

/-! ### A step -/

/-- What a step comes to; an invocation that goes on has not failed. -/
def Stepped.outcome : Stepped → Outcome
  | next _ scene => (none, scene)
  | halt outcome => outcome

theorem Stepped.outcome_snd (stepped : Stepped) : stepped.outcome.2 = stepped.scene := by
  cases stepped <;> rfl

theorem Stage.Steps.sites {stage : Stage} {pos : Nat} {actor actor' : Actor} {ran : List Executed}
    {pos' : Option Nat} (h : stage.Steps pos actor ran actor' pos') :
    actor'.sites = actor.sites ++ ran.map Executed.site := by
  cases h with
  | stopped reason => simp
  | failed _ => simp [TraceLine.site?, Executed.site]
  | goesOn detail _ hchanged => exact hchanged.sites _ _ _
  | waits detail _ hchanged => exact hchanged.sites _ _ _
  | returns detail _ hchanged => exact hchanged.sites _ _ _
  | ends detail reason _ hchanged => simpa using hchanged.sites pos _ detail

theorem step_sites (stage : Stage) (settle : Settle) (pos : Nat) (scene : Scene) :
    (step stage settle pos scene).outcome.2.actor.sites =
      scene.actor.sites ++ (stepRan stage pos scene).map Executed.site := by
  have hsteps := step_steps stage settle pos scene
  cases hstep : step stage settle pos scene with
  | next pos' scene' =>
      rw [hstep] at hsteps
      exact hsteps.sites
  | halt outcome =>
      rw [hstep] at hsteps
      exact hsteps.sites

/-- A script that goes on has not ended, and goes on further down. -/
theorem step_next {stage : Stage} {settle : Settle} {pos pos' : Nat} {scene scene' : Scene}
    (h : step stage settle pos scene = .next pos' scene') (hending : scene.actor.ending? = none) :
    scene'.actor.ending? = none ∧ pos < pos' := by
  obtain ⟨⟨_, _, _, _, hfetch⟩, hcontrol⟩ := fetch_of_next h
  rw [← hending, Actor.ending?, Actor.ending?, hcontrol]
  exact ⟨rfl, fetch_lt hfetch⟩

/-- Only a spawn that is carried out brings somebody, and only such a spawn can stop the load. -/
theorem Command.apply_quiet {stage : Stage} {command : Command}
    (h : ∀ order, command = .spawn order → stage.rehearsal = true) (settle : Settle) (site : Site)
    (next : Nat) (scene : Scene) :
    (∃ verdict, (command.apply stage settle site next scene).verdict = .ok verdict) ∧
      (command.apply stage settle site next scene).scene.spawned = scene.spawned := by
  by_cases hspawn : ∃ order, command = .spawn order
  · obtain ⟨order, rfl⟩ := hspawn
    obtain ⟨hscene, hverdict⟩ := carryOutSpawn_of_rehearsal (h order rfl) settle scene order
    exact ⟨⟨.goOn, hverdict⟩, by rw [apply, hscene]⟩
  · refine ⟨?_, apply_spawned_eq stage settle site next scene (by simpa using hspawn)⟩
    cases command with
    | spawn order => exact absurd ⟨order, rfl⟩ hspawn
    | delay time =>
        simp only [apply, wait]
        split <;> exact ⟨_, rfl⟩
    | goBack =>
        simp only [apply, carryOutGoBack]
        split <;> exact ⟨_, rfl⟩
    | doorAnimations animations => exact ⟨_, (changeDoor_goesOn scene _ _).2⟩
    | doorSounds sounds => exact ⟨_, (changeDoor_goesOn scene _ _).2⟩
    | doorFlags bits => exact ⟨_, (changeDoor_goesOn scene _ _).2⟩
    | doorDistance distance => exact ⟨_, (changeDoor_goesOn scene _ _).2⟩
    | _ => exact ⟨_, rfl⟩

/-- A command that is carried out does not fail its actor. -/
theorem Command.proceed_of_ok {stage : Stage} {settle : Settle} {site : Site} {next : Nat}
    {scene : Scene} {command : Command} {verdict : Verdict}
    (h : (command.apply stage settle site next scene).verdict = .ok verdict)
    (hending : scene.actor.ending? = none) (pos : Nat) (opcode : UInt8) :
    ((command.apply stage settle site next scene).proceed pos opcode next).outcome.1 = none ∧
      ∀ failure, ((command.apply stage settle site next scene).proceed pos opcode
        next).outcome.2.actor.ending? ≠ some (.failed failure) := by
  unfold Effect.proceed
  rw [h]
  cases verdict with
  | goOn =>
      obtain ⟨hcontrol, _⟩ := apply_control_of_goOn h
      refine ⟨rfl, fun failure => ?_⟩
      change (command.apply stage settle site next scene).scene.actor.control.ending? ≠ _
      rw [hcontrol]
      exact ne_of_eq_of_ne hending (by simp)
  | pause =>
      refine ⟨rfl, fun failure => ?_⟩
      change (command.apply stage settle site next scene).scene.actor.control.ending? ≠ _
      rcases apply_control_of_pause h with ⟨_, delay, hcontrol⟩ | ⟨_, hcontrol⟩
      · simp [hcontrol, Control.ending?]
      · rw [hcontrol]
        split <;> simp [Control.ending?]
  | stop reason =>
      refine ⟨rfl, fun failure hfailed => ?_⟩
      have hreason : reason = .failed failure := Option.some.inj hfailed
      rcases eq_of_apply_stop h with ⟨_, rfl⟩ | ⟨_, rfl⟩ | ⟨_, rfl⟩
      · cases hreason
      · cases hreason
      · cases hreason

/-- The playbill of a run in which nobody comes. -/
theorem Playbill.Tells.alone {ran : List Executed} {raised : Option ScriptFailure} {pos : Nat}
    {scene : Scene} {outcome : Outcome} (hspawned : outcome.2.spawned = scene.spawned)
    (hsites : outcome.2.actor.sites = scene.actor.sites ++ ran.map Executed.site)
    (hfailed : ∀ failure, outcome.2.actor.ending? = some (.failed failure) ↔
      raised = some failure)
    (hfatal : outcome.1 = raised.bind ScriptFailure.fatal?) :
    (Playbill.mk ran raised []).Tells pos scene outcome where
  heads part hpart := absurd hpart List.not_mem_nil
  first part hpart := absurd hpart List.not_mem_nil
  spawned := ⟨[], by rw [hspawned, List.append_nil], .nil⟩
  sites_eq := hsites
  failed_iff failure := by simp [hfailed]
  fatal_iff error := by simp [hfatal, Option.bind_eq_some_iff, and_comm]
  others_by part hpart := absurd hpart List.not_mem_nil

theorem Playbill.Tells.fail {ran : List Executed} {pos : Nat} {scene scene' : Scene}
    {failure : ScriptFailure} (hspawned : scene'.spawned = scene.spawned)
    (hsites : (scene'.fail failure).2.actor.sites =
      scene.actor.sites ++ ran.map Executed.site) :
    (Playbill.mk ran (some failure) []).Tells pos scene (scene'.fail failure) := by
  refine .alone hspawned hsites ?_ rfl
  intro failure'
  simp [Scene.fail, Scene.endWith, Actor.endWith, Actor.ending?, Control.ending?]

theorem SpawnOrder.actor_ending? (order : SpawnOrder) (stage : Stage) :
    (order.actor stage).ending? = none := by
  unfold SpawnOrder.actor
  cases order.kind <;> rfl

/-- The playbill of a spawn, from the cast of settling the newcomer in. -/
theorem Cast.Tells.playbill {cast : Cast} {settled : Outcome} (h : cast.Tells settled)
    (hfirst : cast.own.first.ending? = none)
    {ran : List Executed} {pos : Nat} (hran : ∃ executed ∈ ran, executed.start = pos)
    {scene : Scene} {outcome : Outcome}
    (hspawned : outcome.2.spawned = scene.spawned.push settled.2.actor ++ settled.2.spawned)
    (hsites : outcome.2.actor.sites = scene.actor.sites ++ ran.map Executed.site)
    (hfailed : ∀ failure, outcome.2.actor.ending? = some (.failed failure) ↔
      ∃ error, settled.1 = some error ∧ failure = .format error)
    (hfatal : outcome.1 = settled.1.bind fun error => (ScriptFailure.format error).fatal?) :
    (Playbill.mk ran none (cast.parts.map (Part.under pos))).Tells pos scene outcome where
  heads part hpart := by
    obtain ⟨inner, _, rfl⟩ := List.mem_map.mp hpart
    exact ⟨pos, inner.path, rfl, Nat.le_refl pos⟩
  first part hpart := by
    obtain ⟨inner, hinner, rfl⟩ := List.mem_map.mp hpart
    rcases List.mem_cons.mp hinner with rfl | hinner
    · exact hfirst
    · exact h.others_first inner hinner
  spawned := by
    refine ⟨settled.2.actor :: settled.2.spawned.toList, by simp [hspawned], ?_⟩
    rw [List.forall₂_map_right_iff]
    exact h.parts.imp fun last part htells => htells.under pos
  sites_eq := hsites
  failed_iff failure := by
    rw [hfailed]
    constructor
    · rintro ⟨error, herror, rfl⟩
      obtain ⟨part, hpart, failure, hraised, hfatal⟩ := (h.fatal_iff error).mp herror
      obtain ⟨rfl, _⟩ := ScriptFailure.fatal?_eq_some.mp hfatal
      exact .inr ⟨by simp [hfatal], part.under pos, List.mem_map_of_mem hpart, hraised⟩
    · rintro (hnone | ⟨hsome, part, hpart, hraised⟩)
      · cases hnone
      · obtain ⟨error, hfatal⟩ := Option.isSome_iff_exists.mp hsome
        obtain ⟨inner, hinner, rfl⟩ := List.mem_map.mp hpart
        exact ⟨error, (h.fatal_iff error).mpr ⟨inner, hinner, failure, hraised, hfatal⟩,
          (ScriptFailure.fatal?_eq_some.mp hfatal).1⟩
  fatal_iff error := by
    -- Only a fatal error comes out of settling in, so it stays what it is.
    have hsame : outcome.1 = settled.1 := by
      cases hsettled : settled.1 with
      | none => simp [hfatal, hsettled]
      | some error =>
          obtain ⟨_, _, _, _, herror⟩ := (h.fatal_iff error).mp hsettled
          obtain ⟨rfl, _⟩ := ScriptFailure.fatal?_eq_some.mp herror
          simp [hfatal, hsettled, herror]
    rw [hsame, h.fatal_iff]
    constructor
    · rintro ⟨part, hpart, failure, hraised, hfatal⟩
      exact ⟨failure, hfatal, .inr ⟨part.under pos, List.mem_map_of_mem hpart, hraised⟩⟩
    · rintro ⟨failure, hfatal, hnone | ⟨part, hpart, hraised⟩⟩
      · cases hnone
      · obtain ⟨inner, hinner, rfl⟩ := List.mem_map.mp hpart
        exact ⟨inner, hinner, failure, hraised, hfatal⟩
  others_by part hpart := by
    obtain ⟨inner, hinner, rfl⟩ := List.mem_map.mp hpart
    rcases List.mem_cons.mp hinner with rfl | hothers
    · obtain ⟨executed, hexecuted, rfl⟩ := hran
      exact .inl ⟨executed, hexecuted, by simp [Part.under, h.own_path]⟩
    · obtain ⟨other, hother, executed, hexecuted, hpath⟩ := h.others_by inner hothers
      exact .inr ⟨other.under pos, List.mem_map_of_mem hother, executed, hexecuted,
        by simp [Part.under, hpath]⟩

/-- How a script goes on from a spawn that is carried out. -/
theorem Command.proceed_spawn {stage : Stage} (hrehearsal : stage.rehearsal = false)
    {settle : Settle} (scene : Scene) (hending : scene.actor.ending? = none) {order : SpawnOrder}
    {settled : Outcome} (hsettled : settle (order.actor stage) order.init scene.world = settled)
    (site : Site) (pos next : Nat) (opcode : UInt8) {outcome : Outcome}
    (houtcome : (((Command.spawn order).apply stage settle site next scene).proceed pos opcode
      next).outcome = outcome) :
    outcome.2.spawned = scene.spawned.push settled.2.actor ++ settled.2.spawned ∧
      (outcome.1 = settled.1.bind fun error => (ScriptFailure.format error).fatal?) ∧
      ∀ failure, outcome.2.actor.ending? = some (.failed failure) ↔
        ∃ error, settled.1 = some error ∧ failure = .format error := by
  obtain ⟨hscene, hverdict⟩ := carryOutSpawn_of_not_rehearsal hrehearsal settle scene order
  rw [hsettled] at hscene hverdict
  subst houtcome
  refine ⟨?_, ?_⟩
  · rw [Stepped.outcome_snd, Effect.proceed_scene_spawned, apply, hscene]
    rfl
  · rcases settled with ⟨_ | error, child⟩
    · have hgoOn : ((Command.spawn order).apply stage settle site next scene).verdict =
          .ok .goOn := hverdict
      obtain ⟨hnone, hunfailed⟩ := proceed_of_ok hgoOn hending pos opcode
      exact ⟨hnone, fun failure => by simp [hunfailed failure]⟩
    · rw [apply, Effect.proceed, hverdict]
      refine ⟨rfl, fun failure => ?_⟩
      simp [Stepped.outcome, Scene.fail, Scene.endWith, Actor.endWith, Actor.ending?,
        Control.ending?, eq_comm]

theorem step_tells (stage : Stage) {settle : Settle} {herald : Herald} (h : Heralds settle herald)
    {scene : Scene} (hending : scene.actor.ending? = none) (pos : Nat) :
    (stepPlaybill stage herald pos scene).Tells pos scene
      (step stage settle pos scene).outcome := by
  have hsites := step_sites stage settle pos scene
  rw [step_eq_proceed] at hsites ⊢
  unfold stepRan at hsites
  unfold stepPlaybill
  rcases hfetch : fetch stage pos scene.actor scene.world.reads with
    ⟨error | - | ⟨opcode, stop, error | command⟩, reads⟩
  all_goals rw [hfetch] at hsites
  · exact .fail rfl hsites
  · refine .alone rfl hsites ?_ rfl
    intro failure
    simp [Fetched.raised, Fetched.proceed, Stepped.outcome, Scene.endWith, Actor.endWith,
      Actor.ending?, Control.ending?]
  · exact .fail rfl hsites
  · by_cases hspawn : stage.rehearsal = false ∧ ∃ order, command = .spawn order
    · obtain ⟨hrehearsal, order, rfl⟩ := hspawn
      have hending' := order.actor_ending? stage
      obtain ⟨hfirst, hcast⟩ := h (order.actor stage) order.init (scene.withReads reads).world
        hending'
      obtain ⟨hspawned, hfatal, hfailed⟩ := Command.proceed_spawn hrehearsal
        (scene.withReads reads) hending rfl (Site.at opcode pos) pos stop opcode rfl
      simp only [Fetched.brings, hrehearsal, Bool.false_eq_true, ↓reduceIte]
      refine hcast.playbill ?_ ⟨_, List.mem_singleton_self _, rfl⟩ hspawned hsites hfailed hfatal
      rw [hfirst]
      exact hending'
    · have hannounced : ∀ order, command = .spawn order → stage.rehearsal = true := by
        intro order horder
        by_contra hrehearsal
        exact hspawn ⟨by simpa using hrehearsal, order, horder⟩
      have hbrings : (Fetched.instruction opcode stop (.ok command)).brings stage herald pos
          (scene.withReads reads).world = [] := by
        cases command with
        | spawn order => simp [Fetched.brings, hannounced order rfl]
        | _ => rfl
      obtain ⟨⟨verdict, hverdict⟩, hspawned⟩ := Command.apply_quiet hannounced settle
        (Site.at opcode pos) stop (scene.withReads reads)
      obtain ⟨hnone, hunfailed⟩ := Command.proceed_of_ok hverdict hending pos opcode
      simp only [hbrings]
      refine .alone ?_ hsites ?_ hnone
      · rw [Stepped.outcome_snd]
        exact (Effect.proceed_scene_spawned _ pos opcode stop).trans hspawned
      · exact fun failure => iff_of_false (hunfailed failure) (by simp [Fetched.raised])

/-! ### A run -/

theorem forall₂_imp_mem {α β : Type} {related related' : α → β → Prop} {xs : List α}
    {ys : List β} (h : List.Forall₂ related xs ys)
    (himp : ∀ x, ∀ y ∈ ys, related x y → related' x y) : List.Forall₂ related' xs ys := by
  induction h with
  | nil => exact .nil
  | cons hhead _ ih =>
      refine .cons (himp _ _ List.mem_cons_self hhead) (ih ?_)
      exact fun x y hy => himp x y (List.mem_cons_of_mem _ hy)

/-- A step and what comes after it. -/
theorem Playbill.Tells.append {now later : Playbill} {pos pos' : Nat} {scene scene' : Scene}
    {outcome : Outcome} (hnow : now.Tells pos scene (none, scene'))
    (hheads : ∀ part ∈ now.others, ∃ path, part.path = pos :: path) (hlt : pos < pos')
    (hlater : later.Tells pos' scene' outcome) :
    (Playbill.mk (now.ran ++ later.ran) later.raised (now.others ++ later.others)).Tells pos scene
      outcome := by
  -- Nothing fatal has happened so far, so a fatal failure comes later.
  have hfatal : ∀ failure : ScriptFailure, failure.fatal?.isSome →
      ((∃ part ∈ later.others, part.raised = some failure) ↔
        ∃ part ∈ now.others ++ later.others, part.raised = some failure) := by
    intro failure hsome
    constructor
    · rintro ⟨part, hpart, hraised⟩
      exact ⟨part, List.mem_append_right _ hpart, hraised⟩
    · rintro ⟨part, hpart, hraised⟩
      rcases List.mem_append.mp hpart with hpart | hpart
      · obtain ⟨error, herror⟩ := Option.isSome_iff_exists.mp hsome
        cases (hnow.fatal_iff error).mpr ⟨failure, herror, .inr ⟨part, hpart, hraised⟩⟩
      · exact ⟨part, hpart, hraised⟩
  -- No way leads through both.
  have hapart : ∀ part ∈ now.others, ∀ other ∈ later.others,
      ¬ part.path <+: other.path ∧ ¬ other.path <+: part.path := by
    intro part hpart other hother
    obtain ⟨path, hpath⟩ := hheads part hpart
    obtain ⟨head, path', hpath', hle⟩ := hlater.heads other hother
    rw [hpath, hpath', List.cons_prefix_cons, List.cons_prefix_cons]
    omega
  constructor
  case heads =>
    intro part hpart
    rcases List.mem_append.mp hpart with hpart | hpart
    · exact hnow.heads part hpart
    · obtain ⟨head, path, hpath, hle⟩ := hlater.heads part hpart
      exact ⟨head, path, hpath, by omega⟩
  case first =>
    intro part hpart
    rcases List.mem_append.mp hpart with hpart | hpart
    · exact hnow.first part hpart
    · exact hlater.first part hpart
  case spawned =>
    obtain ⟨born, hborn, htells⟩ := hnow.spawned
    obtain ⟨born', hborn', htells'⟩ := hlater.spawned
    refine ⟨born ++ born', by rw [hborn', hborn, List.append_assoc], ?_⟩
    apply List.rel_append
    · apply forall₂_imp_mem htells
      intro last part hpart hpartTells
      refine hpartTells.congr fun other hleads => ?_
      have hnot : other ∉ later.others := fun hother => (hapart part hpart other hother).1 hleads
      simp [hnot]
    · apply forall₂_imp_mem htells'
      intro last part hpart hpartTells
      refine hpartTells.congr fun other hleads => ?_
      have hnot : other ∉ now.others := fun hother => (hapart other hother part hpart).2 hleads
      simp [hnot]
  case sites_eq =>
    rw [hlater.sites_eq, hnow.sites_eq, List.map_append, List.append_assoc]
  case failed_iff =>
    intro failure
    rw [hlater.failed_iff]
    exact or_congr_right (and_congr_right (hfatal failure))
  case fatal_iff =>
    intro error
    rw [hlater.fatal_iff]
    apply exists_congr
    intro failure
    apply and_congr_right
    intro herror
    exact or_congr_right (hfatal failure (by simp [herror]))
  case others_by =>
    intro part hpart
    rcases List.mem_append.mp hpart with hpart | hpart
    · rcases hnow.others_by part hpart with ⟨executed, hexecuted, hpath⟩ | ⟨other, hother, hspawns⟩
      · exact .inl ⟨executed, List.mem_append_left _ hexecuted, hpath⟩
      · exact .inr ⟨other, List.mem_append_left _ hother, hspawns⟩
    · rcases hlater.others_by part hpart with
        ⟨executed, hexecuted, hpath⟩ | ⟨other, hother, hspawns⟩
      · exact .inl ⟨executed, List.mem_append_right _ hexecuted, hpath⟩
      · exact .inr ⟨other, List.mem_append_right _ hother, hspawns⟩

/-- The newcomers of a step come through its spawn. -/
theorem stepPlaybill_others (stage : Stage) (herald : Herald) (pos : Nat) (scene : Scene) :
    (stepPlaybill stage herald pos scene).others = [] ∨
      stage.rehearsal = false ∧ ∃ child init world,
        (stepPlaybill stage herald pos scene).others =
          (herald child init world).parts.map (Part.under pos) := by
  unfold stepPlaybill
  dsimp only
  unfold Fetched.brings
  split
  · split
    · exact .inl rfl
    · next hrehearsal => exact .inr ⟨by simpa using hrehearsal, _, _, _, rfl⟩
  · exact .inl rfl

theorem mem_stepPlaybill_others {stage : Stage} {herald : Herald} {pos : Nat} {scene : Scene}
    {part : Part} (h : part ∈ (stepPlaybill stage herald pos scene).others) :
    ∃ child init world, ∃ inner ∈ (herald child init world).parts, part = inner.under pos := by
  rcases stepPlaybill_others stage herald pos scene with
    hnone | ⟨_, child, init, world, hothers⟩
  · rw [hnone] at h
    exact absurd h List.not_mem_nil
  · rw [hothers] at h
    obtain ⟨inner, hinner, rfl⟩ := List.mem_map.mp h
    exact ⟨child, init, world, inner, hinner, rfl⟩

theorem execute_tells (stage : Stage) {settle : Settle} {herald : Herald}
    (h : Heralds settle herald) (fuel pos : Nat) {scene : Scene}
    (hending : scene.actor.ending? = none) :
    (executePlaybill stage settle herald fuel pos scene).Tells pos scene
      (execute stage settle fuel pos scene) := by
  induction fuel generalizing pos scene with
  | zero => exact .fail rfl (by simp [Scene.fail, Scene.endWith])
  | succ fuel ih =>
      have hnow := step_tells stage h hending pos
      rw [execute, executePlaybill]
      cases hstep : step stage settle pos scene with
      | next pos' scene' =>
          rw [hstep] at hnow
          obtain ⟨hending', hlt⟩ := step_next hstep hending
          refine hnow.append (fun part hpart => ?_) hlt (ih pos' hending')
          obtain ⟨_, _, _, inner, _, rfl⟩ := mem_stepPlaybill_others hpart
          exact ⟨inner.path, rfl⟩
      | halt outcome =>
          rw [hstep] at hnow
          exact hnow

/-- The playbill of a run that starts with nobody spawned, as a cast. -/
theorem Playbill.Tells.cast {playbill : Playbill} {pos : Nat} {scene : Scene} {outcome : Outcome}
    (h : playbill.Tells pos scene outcome) (hspawned : scene.spawned = #[]) {first : Actor}
    (hsites : first.sites = scene.actor.sites) (hending : ∀ failure,
      first.ending? ≠ some (.failed failure)) (setup : Option UInt32) :
    (playbill.cast first setup).Tells outcome := by
  have hothers : ∀ part ∈ playbill.others, part.path ≠ [] := by
    intro part hpart
    obtain ⟨head, path, hpath, _⟩ := h.heads part hpart
    simp [hpath]
  constructor
  case own_path => rfl
  case others_first => exact h.first
  case parts =>
    obtain ⟨born, hborn, htells⟩ := h.spawned
    rw [hborn, hspawned, List.nil_append]
    refine .cons ⟨?_, fun failure => ?_⟩ (forall₂_imp_mem htells ?_)
    · rw [h.sites_eq, ← hsites]
      rfl
    · rw [h.failed_iff]
      simp only [Part.Fails, Cast.parts, Playbill.cast, List.mem_cons, exists_eq_or_imp,
        List.nil_prefix, true_and, hending failure, or_false]
      tauto
    · intro last part hpart hpartTells
      refine hpartTells.congr fun other hleads => ?_
      have hnot : other ≠ (playbill.cast first setup).own := by
        rintro rfl
        exact hothers part hpart (List.prefix_nil.mp hleads)
      exact ⟨List.mem_cons_of_mem _, fun hmem => (List.mem_cons.mp hmem).resolve_left hnot⟩
  case fatal_iff =>
    intro error
    rw [h.fatal_iff]
    constructor
    · rintro ⟨failure, hfatal, hraised | ⟨part, hpart, hraised⟩⟩
      · exact ⟨_, List.mem_cons_self, failure, hraised, hfatal⟩
      · exact ⟨part, List.mem_cons_of_mem _ hpart, failure, hraised, hfatal⟩
    · rintro ⟨part, hpart, failure, hraised, hfatal⟩
      rcases List.mem_cons.mp hpart with rfl | hpart
      · exact ⟨failure, hfatal, .inl hraised⟩
      · exact ⟨failure, hfatal, .inr ⟨part, hpart, hraised⟩⟩
  case others_by =>
    intro part hpart
    rcases h.others_by part hpart with ⟨executed, hexecuted, hpath⟩ | ⟨other, hother, hspawns⟩
    · exact ⟨_, List.mem_cons_self, executed, hexecuted, hpath⟩
    · exact ⟨other, List.mem_cons_of_mem _ hother, hspawns⟩

/-- The cast of an actor that does nothing, or only waits. -/
theorem Cast.Tells.idle (first : Actor) (outcome : Outcome) (hspawned : outcome.2.spawned = #[])
    (hsites : outcome.2.actor.sites = first.sites)
    (hending : ∀ failure, outcome.2.actor.ending? = some (.failed failure) ↔
      first.ending? = some (.failed failure)) (hnone : outcome.1 = none) (setup : Option UInt32) :
    ((Playbill.mk [] none []).cast first setup).Tells outcome where
  own_path := rfl
  others_first part hpart := absurd hpart List.not_mem_nil
  parts := by
    rw [hspawned]
    refine .cons ⟨by simp [hsites, Playbill.cast], fun failure => ?_⟩ .nil
    rw [hending]
    simp [Part.Fails, Cast.parts, Playbill.cast]
  fatal_iff error := by simp [hnone, Cast.parts, Playbill.cast]
  others_by part hpart := absurd hpart List.not_mem_nil

theorem invoke_tells (stage : Stage) {settle : Settle} {herald : Herald}
    (h : Heralds settle herald) (scene : Scene) (hspawned : scene.spawned = #[]) (first : Actor)
    (hsites : first.sites = scene.actor.sites)
    (hending : ∀ failure, first.ending? = some (.failed failure) ↔
      scene.actor.ending? = some (.failed failure)) (setup : Option UInt32) :
    ((invokePlaybill stage settle herald scene).cast first setup).Tells
      (invoke stage settle scene) := by
  unfold invoke invokePlaybill
  cases hstart : scene.actor.start? with
  | none => exact .idle _ _ hspawned hsites.symm (fun failure => (hending failure).symm) rfl setup
  | some pos =>
      obtain ⟨hcontrol, _⟩ := Actor.start?_eq_some hstart
      have hnone : scene.actor.ending? = none := by rw [Actor.ending?, hcontrol]; rfl
      refine (execute_tells stage h _ pos hnone).cast hspawned hsites ?_ setup
      intro failure
      rw [ne_eq, hending, hnone]
      simp

/-- As many actors are spawned as the cast has newcomers. -/
theorem Cast.Tells.size_spawned {cast : Cast} {outcome : Outcome} (h : cast.Tells outcome) :
    outcome.2.spawned.size = cast.others.length := by
  have hlength := h.parts.length_eq
  simpa [Cast.parts] using hlength

/-- A newcomer who is not gone after its setup is pointed at its own script. -/
theorem Cast.Tells.enroll {cast : Cast} {scene : Scene} (h : cast.Tells (none, scene))
    (hhere : scene.actor.isGone = false) (init : UInt32) :
    cast.Tells (none, { scene with actor := scene.actor.enroll init }) := by
  have hunfailed : ∀ failure, scene.actor.ending? ≠ some (.failed failure) := by
    intro failure hfailed
    simp [Actor.isGone, hfailed] at hhere
  have henrolled : (scene.actor.enroll init).ending? = none := by
    unfold Actor.enroll Actor.startAt Actor.ending?
    by_cases hinit : init = 0
    · simp [hinit, Control.ending?]
    · simp [hinit, Control.ending?]
  obtain ⟨hown, hfirst, hparts, hfatal, hby⟩ := h
  refine ⟨hown, hfirst, ?_, hfatal, hby⟩
  rcases hparts with _ | ⟨hhead, htail⟩
  refine .cons ⟨?_, fun failure => ?_⟩ htail
  · rw [← hhead.sites_eq]
    unfold Actor.enroll
    split <;> simp [TraceLine.site?]
  · rw [← hhead.failed_iff]
    simp [henrolled, hunfailed]

/-- The cast of settling in is true, however much room is left for nested setup scripts. -/
theorem settle_heralds (stage : Stage) (room : Nat) :
    Heralds (settle stage room) (settleCast stage room) := by
  have hplain : ∀ (child : Actor) (init : UInt32) (world : World), child.ending? = none →
      ((Playbill.mk [] none []).cast child none).Tells (none, ⟨child.enroll init, world, #[]⟩) := by
    intro child init world hending
    have hidle := Cast.Tells.idle child (none, ⟨child, world, #[]⟩) rfl rfl (fun _ => Iff.rfl) rfl
      none
    exact hidle.enroll (by simp [Actor.isGone, hending]) init
  induction room with
  | zero =>
      intro child init world hending
      unfold settle settleCast
      cases stage.setupOf? child with
      | none => exact ⟨rfl, hplain child init world hending⟩
      | some offset =>
          have hfail : (Playbill.mk [] (some (.depthLimit stage.settings.maxCallDepth)) []).Tells 0
              ⟨child, world, #[]⟩ (Scene.fail ⟨child, world, #[]⟩
                (.depthLimit stage.settings.maxCallDepth)) :=
            .fail rfl (by simp [Scene.fail, Scene.endWith])
          exact ⟨rfl, hfail.cast rfl rfl (by simp [hending]) none⟩
  | succ room ih =>
      intro child init world hending
      unfold settle settleCast
      cases stage.setupOf? child with
      | none => exact ⟨rfl, hplain child init world hending⟩
      | some offset =>
          have hbegun : ((child.push (.setup offset)).startAt offset).ending? = none := by
            unfold Actor.startAt Actor.ending?
            by_cases hoffset : offset = 0
            · simp [hoffset, Control.ending?]
            · simp [hoffset, Control.ending?]
          have hrun := invoke_tells stage ih
            ⟨(child.push (.setup offset)).startAt offset, world, #[]⟩ rfl child
            (by simp [TraceLine.site?]) (by simp [hending, hbegun]) (some offset)
          refine ⟨rfl, ?_⟩
          dsimp only
          split
          · next hout => rwa [hout] at hrun
          · next hout =>
            rw [hout] at hrun
            split
            · exact hrun
            · next hhere => exact hrun.enroll (by simpa using hhere) init

/-- The cast of an invocation from outside is true. -/
theorem Stage.invoke_tells (stage : Stage) (scene : Scene) (hspawned : scene.spawned = #[]) :
    (stage.invokeCast scene).Tells (stage.invoke scene) :=
  LevelScript.invoke_tells stage (settle_heralds stage _) scene hspawned scene.actor rfl
    (fun _ => Iff.rfl) none

/-- So is the cast of a tick. -/
theorem Stage.tick_tells (stage : Stage) (scene : Scene) (hspawned : scene.spawned = #[]) :
    (stage.tickCast scene).Tells (stage.tick scene) := by
  unfold Stage.tick Stage.tickCast
  cases hcontrol : scene.actor.control with
  | blocked resume delay =>
      dsimp only
      have hending : ∀ failure, scene.actor.ending? ≠ some (.failed failure) := by
        simp [Actor.ending?, hcontrol, Control.ending?]
      split
      · refine .idle scene.actor _ hspawned rfl (fun failure => ?_) rfl none
        exact iff_of_false nofun (hending failure)
      · let resumed := ({ scene.actor with control := .running resume }).push (.resume resume)
        have hsites : scene.actor.sites = resumed.sites := by
          rw [Actor.sites_push]
          exact (List.append_nil _).symm
        exact LevelScript.invoke_tells stage (settle_heralds stage _)
          { scene with actor := resumed } hspawned scene.actor hsites
          (fun failure => iff_of_false (hending failure) nofun) none
  | idle => exact stage.invoke_tells scene hspawned
  | running offset => exact stage.invoke_tells scene hspawned
  | ended reason => exact stage.invoke_tells scene hspawned

/-! ### Rehearsals -/

/-- Nobody comes into a rehearsal. -/
theorem executePlaybill_others {stage : Stage} (hrehearsal : stage.rehearsal = true)
    (settle : Settle) (herald : Herald) (fuel pos : Nat) (scene : Scene) :
    (executePlaybill stage settle herald fuel pos scene).others = [] := by
  have hnow : ∀ pos scene, (stepPlaybill stage herald pos scene).others = [] := by
    intro pos scene
    rcases stepPlaybill_others stage herald pos scene with hnone | ⟨hplayed, _⟩
    · exact hnone
    · simp [hrehearsal] at hplayed
  induction fuel generalizing pos scene with
  | zero => rfl
  | succ fuel ih =>
      rw [executePlaybill]
      cases step stage settle pos scene with
      | next pos' scene' =>
          dsimp only
          rw [hnow, ih, List.append_nil]
      | halt outcome => exact hnow pos scene

theorem Stage.invokeCast_others {stage : Stage} (hrehearsal : stage.rehearsal = true)
    (scene : Scene) : (stage.invokeCast scene).others = [] := by
  unfold invokeCast invokePlaybill LevelScript.invokePlaybill
  split
  · exact executePlaybill_others hrehearsal _ _ _ _ scene
  · rfl

end LevelScript
