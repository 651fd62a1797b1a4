import LevelScript.Proofs.Coverage
import LevelScript.Proofs.Stillness

/-!
Guards that nobody runs into.

Two settings guard a load against scripts that run away: how many instructions an invocation may
carry out, and how deep setup scripts may nest.  Whoever runs into a guard is ended by it and never
runs again, so a guard that was hit shows in the loaded level.  A load in which none shows goes the
same way under guards that leave more room.
-/

namespace LevelScript

/-- The settings with other guards. -/
def Settings.withLimits (settings : Settings) (instructions depth : Nat) : Settings :=
  { settings with maxInstructions := instructions, maxCallDepth := depth }

def Stage.withLimits (stage : Stage) (instructions depth : Nat) : Stage :=
  { stage with settings := stage.settings.withLimits instructions depth }

/-- Whether a script was ended by a guard. -/
def Ending.isLimit : Ending → Bool
  | failed (.instructionLimit _) | failed (.depthLimit _) => true
  | _ => false

/-- Whether a log ends with running out of instructions. -/
def TraceLine.isOverrun : TraceLine → Bool
  | ended (.failed (.instructionLimit _)) => true
  | _ => false

/-- Whether the actor's script was ended by a guard. -/
def Actor.isCurbed (actor : Actor) : Bool :=
  actor.ending?.any Ending.isLimit

/-- Nobody who was spawned was ended by a guard, nor was the actor that ran. -/
structure Scene.Uncurbed (scene : Scene) : Prop where
  actor : scene.actor.isCurbed = false
  spawned : ∀ actor ∈ scene.spawned, actor.isCurbed = false

theorem Actor.isCurbed_endWith (actor : Actor) (reason : Ending) :
    (actor.endWith reason).isCurbed = reason.isLimit := rfl

/-- An actor that was ended by a guard is out of the game. -/
theorem Actor.isCurbed_eq_false {actor : Actor} (h : actor.isGone = false) :
    actor.isCurbed = false := by
  unfold isGone at h
  unfold isCurbed
  split at h
  · next hnone => rw [hnone, Option.any_none]
  · next hfinished =>
    rw [hfinished]
    rfl
  · cases h

/-! ### Runs -/

/-- A spawned actor stays with the scene. -/
theorem step_spawned_of_mem (stage : Stage) (settle : Settle) (pos : Nat) (scene : Scene)
    {actor : Actor} (h : actor ∈ scene.spawned) :
    actor ∈ (step stage settle pos scene).scene.spawned := by
  rw [step_eq_proceed]
  rcases fetch stage pos scene.actor scene.world.reads with
    ⟨error | - | ⟨opcode, stop, error | command⟩, reads⟩
  · exact h
  · exact h
  · exact h
  · rw [Fetched.proceed, Effect.proceed_scene_spawned]
    by_cases hspawn : ∃ order, command = .spawn order
    · obtain ⟨order, rfl⟩ := hspawn
      rw [Command.apply]
      cases hrehearsal : stage.rehearsal with
      | true => rwa [(Command.carryOutSpawn_of_rehearsal hrehearsal settle _ order).1]
      | false =>
          rw [(Command.carryOutSpawn_of_not_rehearsal hrehearsal settle _ order).1]
          simp only [Scene.adopt, Array.mem_append, Array.mem_push]
          exact .inl (.inl h)
    · rwa [Command.apply_spawned_eq stage settle _ stop _ (by simpa using hspawn)]

theorem execute_spawned_of_mem (stage : Stage) (settle : Settle) (fuel pos : Nat) (scene : Scene)
    {actor : Actor} (h : actor ∈ scene.spawned) :
    actor ∈ (execute stage settle fuel pos scene).2.spawned := by
  induction fuel generalizing pos scene with
  | zero => exact h
  | succ fuel ih =>
      have hstep := step_spawned_of_mem stage settle pos scene h
      rw [execute]
      cases hnext : step stage settle pos scene with
      | next pos' scene' =>
          rw [hnext] at hstep
          exact ih pos' scene' hstep
      | halt outcome =>
          rw [hnext] at hstep
          exact hstep

/-- A second way of settling in that goes like the first one wherever that ends nobody by a
guard. -/
def Settle.Follows (relaxed settle : Settle) : Prop :=
  ∀ (child : Actor) (init : UInt32) (world : World), (settle child init world).2.Uncurbed →
    relaxed child init world = settle child init world

section Runs

variable {stage : Stage} {instructions depth : Nat} {settle relaxed : Settle}

/-- Only a spawn that is carried out depends on how actors are settled in. -/
theorem Command.apply_withLimits {command : Command} {scene : Scene}
    (h : ∀ order, command = .spawn order → stage.rehearsal = false →
      relaxed (order.actor stage) order.init scene.world =
        settle (order.actor stage) order.init scene.world)
    (site : Site) (next : Nat) :
    command.apply (stage.withLimits instructions depth) relaxed site next scene =
      command.apply stage settle site next scene := by
  cases command with
  | spawn order =>
      have hactor : order.actor (stage.withLimits instructions depth) = order.actor stage := by
        unfold SpawnOrder.actor
        cases order.kind <;> rfl
      have hdetail : order.detail (stage.withLimits instructions depth) = order.detail stage := by
        rw [SpawnOrder.detail, SpawnOrder.detail, hactor]
        rfl
      simp only [apply, carryOutSpawn, hactor, hdetail]
      cases hrehearsal : stage.rehearsal with
      | true => simp [Stage.withLimits, hrehearsal]
      | false => simp [Stage.withLimits, hrehearsal, h order rfl hrehearsal]
  | _ => rfl

theorem step_withLimits (hfollows : relaxed.Follows settle) {pos : Nat} {scene : Scene}
    (hspawned : stage.rehearsal = false →
      ∀ actor ∈ (step stage settle pos scene).scene.spawned, actor.isCurbed = false) :
    step (stage.withLimits instructions depth) relaxed pos scene =
      step stage settle pos scene := by
  have hfetch : fetch (stage.withLimits instructions depth) pos scene.actor scene.world.reads =
      fetch stage pos scene.actor scene.world.reads := rfl
  rw [step_eq_proceed] at hspawned
  rw [step_eq_proceed, step_eq_proceed, hfetch]
  generalize fetch stage pos scene.actor scene.world.reads = fetched at hspawned ⊢
  rcases fetched with ⟨error | - | ⟨opcode, stop, error | command⟩, reads⟩
  · rfl
  · rfl
  · rfl
  · rw [Fetched.proceed, Fetched.proceed, Command.apply_withLimits]
    rintro order rfl hrehearsal
    apply hfollows
    -- The newcomer and those whom its setup spawned are among those whom the step spawned.
    have hall := hspawned hrehearsal
    rw [Fetched.proceed, Effect.proceed_scene_spawned, Command.apply,
      (Command.carryOutSpawn_of_not_rehearsal hrehearsal settle _ order).1] at hall
    simp only [Scene.adopt, Array.mem_append, Array.mem_push] at hall
    exact ⟨hall _ (.inl (.inr rfl)), fun actor hactor => hall actor (.inr hactor)⟩

/-- With more fuel, a run that nobody ended by a guard goes the same way.  What is known of its own
actor is that `free` holds of it, which rules out that its fuel ran out. -/
theorem execute_withLimits (hfollows : relaxed.Follows settle) (free : Actor → Prop)
    (hfree : ∀ actor : Actor,
      ¬ free (actor.endWith (.failed (.instructionLimit stage.settings.maxInstructions))))
    {fuel fuel' : Nat} (hfuel : fuel ≤ fuel') {pos : Nat} {scene : Scene}
    (hactor : free (execute stage settle fuel pos scene).2.actor)
    (hspawned : stage.rehearsal = false →
      ∀ actor ∈ (execute stage settle fuel pos scene).2.spawned, actor.isCurbed = false) :
    execute (stage.withLimits instructions depth) relaxed fuel' pos scene =
      execute stage settle fuel pos scene := by
  induction fuel generalizing fuel' pos scene with
  | zero => exact absurd hactor (hfree scene.actor)
  | succ fuel ih =>
      obtain ⟨more, rfl⟩ : ∃ more, fuel' = more + 1 := ⟨fuel' - 1, by omega⟩
      rw [execute] at hactor hspawned
      rw [execute, execute]
      cases hstep : step stage settle pos scene with
      | next pos' scene' =>
          rw [hstep] at hactor hspawned
          rw [step_withLimits hfollows ?_, hstep]
          · exact ih (by omega) hactor hspawned
          · intro hrehearsal actor hmem
            rw [hstep] at hmem
            exact hspawned hrehearsal actor
              (execute_spawned_of_mem stage settle fuel pos' scene' hmem)
      | halt outcome =>
          rw [hstep] at hspawned
          rw [step_withLimits hfollows ?_, hstep]
          rwa [hstep]

theorem invoke_withLimits (hfollows : relaxed.Follows settle) (free : Actor → Prop)
    (hfree : ∀ actor : Actor,
      ¬ free (actor.endWith (.failed (.instructionLimit stage.settings.maxInstructions))))
    (hinstructions : stage.settings.maxInstructions ≤ instructions) {scene : Scene}
    (hactor : free (invoke stage settle scene).2.actor)
    (hspawned : stage.rehearsal = false →
      ∀ actor ∈ (invoke stage settle scene).2.spawned, actor.isCurbed = false) :
    invoke (stage.withLimits instructions depth) relaxed scene = invoke stage settle scene := by
  unfold invoke at hactor hspawned ⊢
  cases hstart : scene.actor.start? with
  | none => rfl
  | some offset =>
      simp only [hstart] at hactor hspawned
      exact execute_withLimits hfollows free hfree hinstructions hactor hspawned

/-- The same for an invocation of which it is known that nobody was ended by a guard. -/
theorem Scene.Uncurbed.invoke_withLimits (hfollows : relaxed.Follows settle)
    (hinstructions : stage.settings.maxInstructions ≤ instructions) {scene : Scene}
    (huncurbed : (invoke stage settle scene).2.Uncurbed) :
    invoke (stage.withLimits instructions depth) relaxed scene = invoke stage settle scene := by
  refine LevelScript.invoke_withLimits hfollows (·.isCurbed = false) ?_ hinstructions
    huncurbed.actor fun _ => huncurbed.spawned
  intro actor
  simp [Actor.isCurbed_endWith, Ending.isLimit]

end Runs

/-- Settling in goes the same way with more room for nested setup scripts. -/
theorem settle_withLimits (stage : Stage) {instructions : Nat} (depth : Nat)
    (hinstructions : stage.settings.maxInstructions ≤ instructions) {room room' : Nat}
    (hroom : room ≤ room') :
    Settle.Follows (settle (stage.withLimits instructions depth) room') (settle stage room) := by
  induction room generalizing room' with
  | zero =>
      intro child init world huncurbed
      unfold settle at huncurbed
      cases hsetup : stage.setupOf? child with
      | some offset =>
          simp only [hsetup] at huncurbed
          cases huncurbed.actor
      | none =>
          have hsetup' : (stage.withLimits instructions depth).setupOf? child = none := hsetup
          cases room' with
          | zero => simp only [settle, hsetup, hsetup']
          | succ room' => simp only [settle, hsetup, hsetup']
  | succ room ih =>
      intro child init world huncurbed
      obtain ⟨more, rfl⟩ : ∃ more, room' = more + 1 := ⟨room' - 1, by omega⟩
      unfold settle at huncurbed ⊢
      rw [show (stage.withLimits instructions depth).setupOf? child = stage.setupOf? child from rfl]
      cases hsetup : stage.setupOf? child with
      | none => rfl
      | some offset =>
          simp only [hsetup] at huncurbed ⊢
          rw [Scene.Uncurbed.invoke_withLimits (ih (by omega)) hinstructions]
          -- Whoever was ended by a guard is gone, and is left as it is.
          rcases hrun : invoke stage (settle stage room)
            ⟨(child.push (.setup offset)).startAt offset, world, #[]⟩ with ⟨_ | fatal, scene⟩
          · rw [hrun] at huncurbed
            cases hgone : scene.actor.isGone with
            | true =>
                simp only [hgone] at huncurbed
                exact huncurbed
            | false =>
                simp only [hgone] at huncurbed
                exact ⟨Actor.isCurbed_eq_false hgone, huncurbed.spawned⟩
          · rw [hrun] at huncurbed
            exact huncurbed

/-! ### Turns and rehearsals -/

section Turns

variable (stage : Stage) {instructions depth : Nat}
  (hinstructions : stage.settings.maxInstructions ≤ instructions)
  (hdepth : stage.settings.maxCallDepth ≤ depth)

include hinstructions hdepth

theorem Stage.invoke_withLimits {scene : Scene} (h : (stage.invoke scene).2.Uncurbed) :
    (stage.withLimits instructions depth).invoke scene = stage.invoke scene :=
  Scene.Uncurbed.invoke_withLimits (settle_withLimits stage depth hinstructions hdepth)
    hinstructions h

theorem Stage.tick_withLimits {scene : Scene} (h : (stage.tick scene).2.Uncurbed) :
    (stage.withLimits instructions depth).tick scene = stage.tick scene := by
  unfold Stage.tick at h ⊢
  cases hcontrol : scene.actor.control with
  | blocked resume delay =>
      simp only [hcontrol] at h ⊢
      rw [show (stage.withLimits instructions depth).settings.tickDelta =
        stage.settings.tickDelta from rfl]
      by_cases hleft : Single.lt .zero (delay - stage.settings.tickDelta)
      · simp only [hleft, ↓reduceIte]
      · simp only [hleft] at h ⊢
        exact stage.invoke_withLimits hinstructions hdepth h
  | _ =>
      simp only [hcontrol] at h ⊢
      exact stage.invoke_withLimits hinstructions hdepth h

/-- A rehearsal spawns nobody, so that only its own log can tell of a guard. -/
theorem Stage.rehearsal_withLimits (hrehearsal : stage.rehearsal = true) {scene : Scene}
    (h : (stage.invoke scene).2.actor.log.back?.any TraceLine.isOverrun = false) :
    (stage.withLimits instructions depth).invoke scene = stage.invoke scene := by
  refine LevelScript.invoke_withLimits (settle_withLimits stage depth hinstructions hdepth)
    (·.log.back?.any TraceLine.isOverrun = false) ?_ hinstructions h ?_
  · intro actor
    simp [Actor.endWith, Actor.push, TraceLine.isOverrun]
  · intro hlive
    rw [hrehearsal] at hlive
    cases hlive

end Turns

/-- An actor that ran into a guard has ended, so nothing that happens to it changes it. -/
theorem Actor.atRest_of_isCurbed {actor : Actor} (h : actor.isCurbed = true) :
    actor.control.AtRest := by
  unfold isCurbed ending? at h
  cases hcontrol : actor.control with
  | ended reason => exact trivial
  | _ =>
      rw [hcontrol] at h
      cases h

theorem Stage.isCurbed_invoke (stage : Stage) (scene : Scene) (h : scene.actor.isCurbed = true) :
    (stage.invoke scene).2.actor.isCurbed = true := by
  rwa [stage.invoke_of_start? (Actor.start?_of_atRest (Actor.atRest_of_isCurbed h))]

theorem Stage.isCurbed_tick (stage : Stage) (scene : Scene) (h : scene.actor.isCurbed = true) :
    (stage.tick scene).2.actor.isCurbed = true := by
  rwa [stage.tick_of_atRest (Actor.atRest_of_isCurbed h)]

/-! ### Levels in which nobody ran into a guard -/

/-- No actor of the arena was ended by a guard, and no rehearsal was. -/
structure Arena.Unhampered (arena : Arena) : Prop where
  self : arena.self.isCurbed = false
  live : ∀ actor ∈ arena.live, actor.isCurbed = false
  logs : ∀ entry ∈ arena.setupLogs.entries, entry.2.back?.any TraceLine.isOverrun = false

instance : DecidablePred Arena.Unhampered := fun arena =>
  decidable_of_iff
    (arena.self.isCurbed = false ∧ (∀ actor ∈ arena.live, actor.isCurbed = false) ∧
      ∀ entry ∈ arena.setupLogs.entries, entry.2.back?.any TraceLine.isOverrun = false)
    ⟨fun ⟨self, live, logs⟩ => ⟨self, live, logs⟩, fun h => ⟨h.self, h.live, h.logs⟩⟩

/-- Nobody in the level was ended by a guard. -/
def Level.Unhampered (level : Level) : Prop :=
  ∀ arena ∈ level.arenas, arena.Unhampered

instance : DecidablePred Level.Unhampered := fun level =>
  inferInstanceAs (Decidable (∀ arena ∈ level.arenas, arena.Unhampered))

namespace Arena.Unhampered

variable {arena : Arena}

theorem of_withVars {vars : Vars} (h : (arena.withVars vars).Unhampered) : arena.Unhampered :=
  ⟨h.self, h.live, h.logs⟩

theorem of_append {actors : Array Actor} (h : (arena.append actors).Unhampered) :
    arena.Unhampered ∧ ∀ actor ∈ actors, actor.isCurbed = false :=
  ⟨⟨h.self, fun actor hactor => h.live actor (Array.mem_append_left _ hactor), h.logs⟩,
    fun actor hactor => h.live actor (Array.mem_append_right _ hactor)⟩

theorem of_keepLog {name : String} {log : Array TraceLine}
    (h : (arena.keepLog name log).Unhampered) :
    arena.Unhampered ∧ log.back?.any TraceLine.isOverrun = false := by
  refine ⟨⟨h.self, h.live, fun entry hentry => ?_⟩, ?_⟩
  · exact h.logs entry (List.mem_append_left _ hentry)
  · exact h.logs (name, log) (List.mem_append_right _ (List.mem_singleton_self _))

theorem isCurbed_eq_false_of_lasts {old actor : Actor}
    (hlasts : old.isCurbed = true → actor.isCurbed = true) (h : actor.isCurbed = false) :
    old.isCurbed = false := by
  cases hold : old.isCurbed with
  | false => rfl
  | true => rw [hlasts hold] at h; cases h

/-- An actor on its seat is in the place of one who was not ended by a guard either. -/
theorem of_setActor {seat : Seat} {old actor : Actor} (hseat : arena.actor? seat = some old)
    (hlasts : old.isCurbed = true → actor.isCurbed = true)
    (h : (arena.setActor seat actor).Unhampered) :
    arena.Unhampered ∧ actor.isCurbed = false := by
  cases seat with
  | self =>
      cases hseat
      have hactor : actor.isCurbed = false := h.self
      exact ⟨⟨isCurbed_eq_false_of_lasts hlasts hactor, h.live, h.logs⟩, hactor⟩
  | live i =>
      have hlt := (Array.getElem?_eq_some_iff.mp hseat).1
      have hset : ∀ (j : Nat) (other : Actor),
          (arena.live.setIfInBounds i actor)[j]? = some other → other.isCurbed = false :=
        fun j other hother => h.live other (Array.mem_of_getElem? hother)
      have hactor : actor.isCurbed = false := hset i actor (by simp [hlt])
      refine ⟨⟨h.self, fun other hother => ?_, h.logs⟩, hactor⟩
      obtain ⟨j, hj⟩ := Array.mem_iff_getElem?.mp hother
      by_cases hij : i = j
      · subst hij
        obtain rfl : old = other := Option.some.inj (hseat.symm.trans hj)
        exact isCurbed_eq_false_of_lasts hlasts hactor
      · exact hset j other (by rwa [Array.getElem?_setIfInBounds_ne hij])

end Arena.Unhampered

namespace Session

variable {session : Session} {settings : Settings}

theorem unhampered_updated {index : Nat} {update : Arena → Arena} {arena : Arena}
    (h : (session.updateArena index update).level.Unhampered)
    (harena : session.level.arenas[index]? = some arena) : (update arena).Unhampered :=
  h (update arena) <| Array.mem_of_getElem? (i := index) <| by
    rw [updateArena_getElem?, if_pos rfl, harena, Option.map_some]

theorem unhampered_of_updateArena {index : Nat} {update : Arena → Arena}
    (h : (session.updateArena index update).level.Unhampered)
    (hupdate : ∀ arena, session.level.arenas[index]? = some arena → (update arena).Unhampered →
      arena.Unhampered) : session.level.Unhampered := by
  intro arena harena
  obtain ⟨i, hi⟩ := Array.mem_iff_getElem?.mp harena
  by_cases hindex : index = i
  · subst hindex
    exact hupdate arena hi (unhampered_updated h hi)
  · exact h arena (Array.mem_of_getElem? (i := i) (by rwa [updateArena_getElem?, if_neg hindex]))

theorem unhampered_of_share {index : Nat} {world : World}
    (h : (session.share index world).level.Unhampered) : session.level.Unhampered := by
  have hshared : (session.updateArena index (·.withVars world.arenaVars)).level.Unhampered := h
  exact unhampered_of_updateArena hshared fun _ _ => Arena.Unhampered.of_withVars

/-- If nobody was ended by a guard after a turn, then nobody was before it, nor in it. -/
theorem unhampered_of_turn {index : Nat} {seat : Seat} {happen : Stage → Scene → Outcome}
    (hlasts : ∀ (stage : Stage) (scene : Scene), scene.actor.isCurbed = true →
      (happen stage scene).2.actor.isCurbed = true)
    (h : (session.turn settings index seat happen).level.Unhampered) :
    session.level.Unhampered ∧ ∀ actor home, session.actor? index seat = some actor →
      session.level.arenas[actor.arena]? = some home →
      (happen (session.stage settings home actor.arena false)
        ⟨actor, session.world home, #[]⟩).2.Uncurbed := by
  unfold turn at h
  cases hactor : session.actor? index seat with
  | none =>
      rw [hactor] at h
      exact ⟨h, by simp⟩
  | some actor =>
      cases hhome : session.level.arenas[actor.arena]? with
      | none =>
          simp only [hactor, hhome] at h
          refine ⟨h, ?_⟩
          rintro _ home ⟨⟩ hhome'
          rw [hhome] at hhome'
          cases hhome'
      | some home =>
          simp only [hactor, hhome] at h
          let scene := (happen (session.stage settings home actor.arena false)
            ⟨actor, session.world home, #[]⟩).2
          obtain ⟨arena, harena, hseat⟩ := actor?_eq_some hactor
          have hjoined := unhampered_of_share h
          have hseated :
              (session.updateArena index (·.setActor seat scene.actor)).level.Unhampered :=
            unhampered_of_updateArena hjoined fun _ _ hafter => hafter.of_append.1
          have hlast := hlasts (session.stage settings home actor.arena false)
            ⟨actor, session.world home, #[]⟩
          have hown := (unhampered_updated hseated harena).of_setActor hseat hlast
          refine ⟨unhampered_of_updateArena hseated ?_, ?_⟩
          · intro arena' harena' _
            obtain rfl := Option.some.inj (harena.symm.trans harena')
            exact hown.1
          · rintro _ home' ⟨⟩ hhome'
            obtain rfl := Option.some.inj (hhome.symm.trans hhome')
            refine ⟨hown.2, ?_⟩
            obtain ⟨changed, hchanged⟩ : ∃ changed,
                (session.updateArena index
                  (·.setActor seat scene.actor)).level.arenas[actor.arena]? = some changed := by
              rw [updateArena_getElem?, hhome]
              split
              · exact ⟨_, rfl⟩
              · exact ⟨_, rfl⟩
            exact (unhampered_updated hjoined hchanged).of_append.2

/-- If nobody was ended by a guard after a placement, then nobody was before it, nor in it. -/
theorem unhampered_of_placed {placement : Placement}
    (h : (session.placed settings placement).level.Unhampered) :
    session.level.Unhampered ∧ ∀ index arena,
      session.level.arenaIndex placement.arena = .ok index →
      session.level.arenas[index]? = some arena →
      (session.placing settings placement index arena).2.Uncurbed := by
  unfold placed at h
  cases hindex : session.level.arenaIndex placement.arena with
  | error error =>
      simp only [hindex] at h
      exact ⟨h, fun _ _ hfound => by cases hfound⟩
  | ok index =>
      cases harena : session.level.arenas[index]? with
      | none =>
          simp only [hindex, harena] at h
          refine ⟨h, ?_⟩
          rintro _ arena ⟨⟩ harena'
          rw [harena] at harena'
          cases harena'
      | some arena =>
          simp only [hindex, harena] at h
          have hjoined := unhampered_of_share h
          refine ⟨unhampered_of_updateArena hjoined fun _ _ hafter => hafter.of_append.1, ?_⟩
          rintro _ arena' ⟨⟩ harena'
          obtain rfl := Option.some.inj (harena.symm.trans harena')
          have hnew := (unhampered_updated hjoined harena).of_append.2
          exact ⟨hnew _ (by simp), fun actor hactor => hnew actor (by simp [hactor])⟩

/-- If no guard shows after a rehearsal that left its log, then none showed before it, nor in it. -/
theorem unhampered_of_rehearsed {index : Nat} {entry : OffsetEntry}
    (h : (session.rehearsed settings index entry).level.Unhampered) :
    session.level.Unhampered ∧ ∀ arena, session.level.arenas[index]? = some arena →
      (session.rehearsal settings index entry arena).1 = none →
      (session.rehearsal settings index entry arena).2.actor.log.back?.any
        TraceLine.isOverrun = false := by
  unfold rehearsed at h
  cases harena : session.level.arenas[index]? with
  | none =>
      simp only [harena] at h
      exact ⟨h, by simp⟩
  | some arena =>
      simp only [harena] at h
      rcases hrun : session.rehearsal settings index entry arena with ⟨_ | fatal, scene⟩
      · rw [hrun] at h
        have hkept := unhampered_of_share h
        refine ⟨unhampered_of_updateArena hkept fun _ _ hafter => hafter.of_keepLog.1, ?_⟩
        rintro _ ⟨⟩ -
        rw [hrun]
        exact (unhampered_updated hkept harena).of_keepLog.2
      · rw [hrun] at h
        refine ⟨unhampered_of_share h, ?_⟩
        rintro _ ⟨⟩ hnone
        rw [hrun] at hnone
        cases hnone

end Session

/-! ### Plays -/

/-- A second play that goes like the first one wherever that succeeds and leaves a level in which
nobody was ended by a guard; then nobody had been ended by one before. -/
def Play.Follows {α : Type} (relaxed play : Play α) : Prop :=
  ∀ (session session' : Session) (a : α), play.exec session = (.ok a, session') →
    session'.level.Unhampered →
    relaxed.exec session = (.ok a, session') ∧ session.level.Unhampered

namespace Play.Follows

variable {α β : Type}

/-- A play that only looks follows itself. -/
theorem of_look {play : Play α} (look : Session → α)
    (h : ∀ session, play.exec session = (.ok (look session), session)) : Follows play play := by
  intro session session' a hrun hafter
  refine ⟨hrun, ?_⟩
  rw [h session] at hrun
  cases hrun
  exact hafter

theorem bind {relaxed play : Play α} {relaxedNext next : α → Play β} (hplay : Follows relaxed play)
    (hnext : ∀ a, Follows (relaxedNext a) (next a)) :
    Follows (relaxed >>= relaxedNext) (play >>= next) := by
  intro session session' b hrun hafter
  rw [exec_bind] at hrun
  rcases hfirst : play.exec session with ⟨error | a, between⟩
  · rw [hfirst] at hrun
    cases hrun
  · rw [hfirst] at hrun
    obtain ⟨hsecond', hbetween⟩ := hnext a between session' b hrun hafter
    obtain ⟨hfirst', hbefore⟩ := hplay session between a hfirst hbetween
    rw [exec_bind, hfirst']
    exact ⟨hsecond', hbefore⟩

theorem pure (a : α) : Follows (pure a) (pure a) :=
  of_look (fun _ => a) fun _ => rfl

theorem forM {relaxed play : α → Play Unit} (h : ∀ item, Follows (relaxed item) (play item))
    (items : List α) : Follows (items.forM relaxed) (items.forM play) := by
  induction items with
  | nil => exact pure ()
  | cons item items ih => exact (h item).bind fun _ => ih

theorem repeated {relaxed play : Play Unit} (h : Follows relaxed play) (count : Nat) :
    Follows (Play.repeated relaxed count) (Play.repeated play count) := by
  induction count with
  | zero => exact pure ()
  | succ count ih => exact h.bind fun _ => ih

section Guards

variable (settings : Settings) {instructions depth : Nat}
  (hinstructions : settings.maxInstructions ≤ instructions)
  (hdepth : settings.maxCallDepth ≤ depth)

theorem of_move (move : Move)
    (h : ∀ session, (session.move settings move).level.Unhampered →
      session.level.Unhampered ∧ (move.play (settings.withLimits instructions depth)).exec session =
        (move.play settings).exec session) :
    Follows (move.play (settings.withLimits instructions depth)) (move.play settings) := by
  intro session session' a hrun hafter
  obtain ⟨hbefore, hsame⟩ := h session (by rwa [Session.move, hrun])
  exact ⟨hsame.trans hrun, hbefore⟩

/-- What happens to an actor goes the same way if it does so for every scene. -/
theorem exec_withActor_withLimits {index : Nat} {seat : Seat} {happen : Stage → Scene → Outcome}
    {session : Session}
    (h : ∀ actor home, session.actor? index seat = some actor →
      session.level.arenas[actor.arena]? = some home →
      happen ((session.stage settings home actor.arena false).withLimits instructions depth)
        ⟨actor, session.world home, #[]⟩ =
      happen (session.stage settings home actor.arena false) ⟨actor, session.world home, #[]⟩) :
    (Play.withActor (settings.withLimits instructions depth) index seat happen).exec session =
      (Play.withActor settings index seat happen).exec session := by
  rw [Play.withActor, Play.withActor, Play.exec_bind, Play.exec_bind, Play.exec_get]
  dsimp only
  cases hactor : session.actor? index seat with
  | none => rfl
  | some actor =>
      dsimp only
      cases hhome : session.level.arenas[actor.arena]? with
      | none => rfl
      | some home =>
          dsimp only
          rw [show session.stage (settings.withLimits instructions depth) home actor.arena false =
            (session.stage settings home actor.arena false).withLimits instructions depth from rfl,
            h actor home hactor hhome]

include hinstructions hdepth

theorem invoke (index : Nat) (seat : Seat) :
    Follows (Play.invoke (settings.withLimits instructions depth) index seat)
      (Play.invoke settings index seat) := by
  refine of_move settings (.invoke index seat) fun session hafter => ?_
  rw [Session.move_invoke] at hafter
  obtain ⟨hbefore, hscene⟩ := Session.unhampered_of_turn Stage.isCurbed_invoke hafter
  refine ⟨hbefore, ?_⟩
  rw [Move.play, Move.play, Play.invoke, Play.invoke]
  apply exec_withActor_withLimits
  intro actor home hactor hhome
  exact (session.stage settings home actor.arena false).invoke_withLimits hinstructions hdepth
    (hscene actor home hactor hhome)

theorem tick (index : Nat) (seat : Seat) :
    Follows (Play.tick (settings.withLimits instructions depth) index seat)
      (Play.tick settings index seat) := by
  refine of_move settings (.tick index seat) fun session hafter => ?_
  rw [Session.move_tick] at hafter
  obtain ⟨hbefore, hscene⟩ := Session.unhampered_of_turn Stage.isCurbed_tick hafter
  refine ⟨hbefore, ?_⟩
  rw [Move.play, Move.play, Play.tick, Play.tick]
  apply exec_withActor_withLimits
  intro actor home hactor hhome
  exact (session.stage settings home actor.arena false).tick_withLimits hinstructions hdepth
    (hscene actor home hactor hhome)

theorem place (placement : Placement) :
    Follows (Play.place (settings.withLimits instructions depth) placement)
      (Play.place settings placement) := by
  refine of_move settings (.place placement) fun session hafter => ?_
  rw [Session.move_place] at hafter
  obtain ⟨hbefore, hscene⟩ := Session.unhampered_of_placed hafter
  refine ⟨hbefore, ?_⟩
  rw [Move.play, Move.play, Play.place, Play.place, Play.exec_bind, Play.exec_bind, Play.exec_get]
  dsimp only
  cases hindex : session.level.arenaIndex placement.arena with
  | error error => rfl
  | ok index =>
      dsimp only
      cases harena : session.level.arenas[index]? with
      | none => rfl
      | some arena =>
          dsimp only
          have hsettle := settle_withLimits (session.stage settings arena index false) depth
            hinstructions hdepth _ _ _ (hscene index arena hindex harena)
          rw [show session.stage (settings.withLimits instructions depth) arena index false =
              (session.stage settings arena index false).withLimits instructions depth from rfl,
            show placedActor (settings.withLimits instructions depth) index placement =
              placedActor settings index placement from rfl,
            show (settings.withLimits instructions depth).maxCallDepth = depth from rfl, hsettle]

/-- A rehearsal that was fatal does not succeed, and one that was not left its log. -/
theorem rehearse (index : Nat) (entry : OffsetEntry) :
    Follows (Play.rehearse (settings.withLimits instructions depth) index entry)
      (Play.rehearse settings index entry) := by
  intro session session' a hrun hafter
  have hmoved : session.move settings (.rehearse index entry) = session' :=
    congrArg Prod.snd hrun
  rw [← hmoved, Session.move_rehearse] at hafter
  obtain ⟨hbefore, hlog⟩ := Session.unhampered_of_rehearsed hafter
  refine ⟨?_, hbefore⟩
  rw [Play.rehearse, exec_bind, exec_get] at hrun ⊢
  dsimp only at hrun ⊢
  cases harena : session.level.arenas[index]? with
  | none =>
      rw [harena] at hrun
      exact hrun
  | some arena =>
      rw [harena] at hrun
      dsimp only at hrun ⊢
      have hsame : (session.stage (settings.withLimits instructions depth) arena index true).invoke
          ⟨(understudy (settings.withLimits instructions depth) arena index entry.1).startAt
            entry.2, session.world arena, #[]⟩ = session.rehearsal settings index entry arena := by
        refine (session.stage settings arena index true).rehearsal_withLimits hinstructions hdepth
          rfl (hlog arena harena ?_)
        rcases hrehearsal : session.rehearsal settings index entry arena with ⟨_ | fatal, scene⟩
        · rfl
        · rw [Session.rehearsal] at hrehearsal
          rw [hrehearsal] at hrun
          cases hrun
      rw [hsame]
      exact hrun

theorem pass (index : Nat) :
    Follows (Play.pass (settings.withLimits instructions depth) index)
      (Play.pass settings index) :=
  (of_look _ (exec_liveCount index)).bind fun count =>
    forM (fun i => invoke settings hinstructions hdepth index (.live i)) (List.range count)

theorem rehearseAll (index : Nat) :
    Follows (Play.rehearseAll (settings.withLimits instructions depth) index)
      (Play.rehearseAll settings index) := by
  refine (of_look _ exec_get).bind fun session => ?_
  cases session.level.arenas[index]? with
  | none => exact pure ()
  | some arena => exact forM (rehearse settings hinstructions hdepth index) arena.setups.entries

theorem loadArena (index : Nat) :
    Follows (Play.loadArena (settings.withLimits instructions depth) index)
      (Play.loadArena settings index) :=
  (pass settings hinstructions hdepth index).bind fun _ =>
    (rehearseAll settings hinstructions hdepth index).bind fun _ =>
      (invoke settings hinstructions hdepth index .self).bind fun _ =>
        pass settings hinstructions hdepth index

theorem loadPasses :
    Follows (Play.loadPasses (settings.withLimits instructions depth))
      (Play.loadPasses settings) :=
  (of_look _ exec_arenaCount).bind fun count =>
    forM (loadArena settings hinstructions hdepth) (List.range count)

theorem tickArena (index : Nat) :
    Follows (Play.tickArena (settings.withLimits instructions depth) index)
      (Play.tickArena settings index) :=
  (tick settings hinstructions hdepth index .self).bind fun _ =>
    (of_look _ (exec_liveCount index)).bind fun count =>
      forM (fun i => tick settings hinstructions hdepth index (.live i)) (List.range count)

theorem tickAll :
    Follows (Play.tickAll (settings.withLimits instructions depth)) (Play.tickAll settings) :=
  (of_look _ exec_arenaCount).bind fun count =>
    forM (tickArena settings hinstructions hdepth) (List.range count)

theorem load (placements : List Placement) :
    Follows (Play.load (settings.withLimits instructions depth) placements)
      (Play.load settings placements) :=
  (forM (place settings hinstructions hdepth) placements).bind fun _ =>
    (loadPasses settings hinstructions hdepth).bind fun _ =>
      (tickAll settings hinstructions hdepth).repeated settings.tickIterations

end Guards

end Play.Follows

/-- A load that succeeds and leaves nobody ended by a guard is the same load, to the last log line
and the last byte read, under guards that leave more room. -/
theorem loadLevel_withLimits {settings : Settings} {instructions depth : Nat}
    (hinstructions : settings.maxInstructions ≤ instructions)
    (hdepth : settings.maxCallDepth ≤ depth) {placements : List Placement} {bytes : Bytes}
    {level : Level} (hload : (loadLevel settings placements bytes).result = .ok level)
    (hlevel : level.Unhampered) :
    (loadLevel (settings.withLimits instructions depth) placements bytes).result = .ok level ∧
      (loadLevel (settings.withLimits instructions depth) placements bytes).reads =
        (loadLevel settings placements bytes).reads := by
  obtain ⟨container, c, first, listed, session, hread, hexplore, hplay, rfl⟩ :=
    loadLevel_eq_ok hload
  have hexplore' : Level.explore (settings.withLimits instructions depth) container bytes =
      .ok (first, listed) := hexplore
  obtain ⟨hplay', -⟩ :=
    Play.Follows.load settings hinstructions hdepth placements _ _ _ hplay hlevel
  rw [Play.exec] at hplay hplay'
  simp only [loadLevel, hread, hexplore, hexplore', hplay, hplay', and_self]

/-- A `G` is placed, set up and sent back to its anchor round after round, and an `H` is
spawned. -/
theorem loadLevel_withLimits_spawning :
    ∃ level, (loadLevel .standard [⟨"A", "G", 1, .origin, 0⟩] .spawning).result = .ok level ∧
      level.Unhampered ∧
      (loadLevel (Settings.standard.withLimits 20000 32)
        [⟨"A", "G", 1, .origin, 0⟩] .spawning).result = .ok level := by
  have hcheck : (match (loadLevel .standard [⟨"A", "G", 1, .origin, 0⟩] .spawning).result with
      | .ok level => decide level.Unhampered
      | .error _ => false) = true := by
    decide +kernel
  cases hresult : (loadLevel .standard [⟨"A", "G", 1, .origin, 0⟩] .spawning).result with
  | error error =>
      rw [hresult] at hcheck
      cases hcheck
  | ok level =>
      rw [hresult] at hcheck
      have hlevel := of_decide_eq_true hcheck
      exact ⟨level, rfl, hlevel,
        (loadLevel_withLimits (by decide) (by decide) hresult hlevel).1⟩

end LevelScript
