import LevelScript.Proofs.Step

/-!
Growth of actors.

A script changes much about its actor, but never who the actor is: its name, its number, its arena,
what kind of actor it is and where it leads, if it is a door.  Its log only gets longer.  The actors
that a run spawns have all grown from newcomers that spawn orders ask for.
-/

namespace LevelScript

namespace Actor

/-- The second actor is the first one at a later time. -/
structure Grew (a b : Actor) : Prop where
  name_eq : b.name = a.name
  id_eq : b.id = a.id
  arena_eq : b.arena = a.arena
  isArena_eq : b.isArena = a.isArena
  role_eq : b.kind.role = a.kind.role
  log_prefix : a.log.toList <+: b.log.toList

theorem Grew.refl (a : Actor) : a.Grew a :=
  ⟨rfl, rfl, rfl, rfl, rfl, List.prefix_rfl⟩

theorem Grew.trans {a b c : Actor} (hab : a.Grew b) (hbc : b.Grew c) : a.Grew c where
  name_eq := hbc.name_eq.trans hab.name_eq
  id_eq := hbc.id_eq.trans hab.id_eq
  arena_eq := hbc.arena_eq.trans hab.arena_eq
  isArena_eq := hbc.isArena_eq.trans hab.isArena_eq
  role_eq := hbc.role_eq.trans hab.role_eq
  log_prefix := hab.log_prefix.trans hbc.log_prefix

theorem grew_control (actor : Actor) (control : Control) :
    actor.Grew { actor with control := control } :=
  ⟨rfl, rfl, rfl, rfl, rfl, List.prefix_rfl⟩

theorem grew_push (actor : Actor) (line : TraceLine) : actor.Grew (actor.push line) where
  name_eq := rfl
  id_eq := rfl
  arena_eq := rfl
  isArena_eq := rfl
  role_eq := rfl
  log_prefix := by simp [push]

theorem grew_endWith (actor : Actor) (reason : Ending) : actor.Grew (actor.endWith reason) :=
  (grew_push actor (.ended reason)).trans (grew_control _ _)

theorem grew_startAt (actor : Actor) (offset : UInt32) : actor.Grew (actor.startAt offset) :=
  ⟨rfl, rfl, rfl, rfl, rfl, List.prefix_rfl⟩

theorem grew_enroll (actor : Actor) (init : UInt32) : actor.Grew (actor.enroll init) := by
  unfold enroll
  by_cases hinit : init = 0
  · simpa [hinit] using grew_startAt actor 0
  · simpa [hinit] using (grew_push actor (.init init)).trans (grew_startAt _ init)

end Actor

/-! ### The actor of a run -/

theorem Command.Changed.grew {command : Command} {next : Nat} {a b : Actor}
    (h : command.Changed next a b) : a.Grew b :=
  ⟨h.name_eq, h.id_eq, h.arena_eq, h.isArena_eq, h.role_eq, h.log_eq ▸ List.prefix_rfl⟩

/-- The state that a step leaves behind. -/
def Stepped.scene : Stepped → Scene
  | next _ scene => scene
  | halt outcome => outcome.2

theorem Effect.proceed_scene_spawned (effect : Effect) (pos : Nat) (opcode : UInt8) (next : Nat) :
    (effect.proceed pos opcode next).scene.spawned = effect.scene.spawned := by
  unfold proceed
  split <;> rfl

theorem Effect.proceed_grew (effect : Effect) (pos : Nat) (opcode : UInt8) (next : Nat) :
    effect.scene.actor.Grew (effect.proceed pos opcode next).scene.actor := by
  have hpush := Actor.grew_push effect.scene.actor (.step pos opcode effect.detail)
  unfold proceed
  split
  · exact hpush
  · exact hpush
  · exact hpush.trans (Actor.grew_endWith _ _)
  · exact hpush.trans (Actor.grew_endWith _ _)

theorem step_grew (stage : Stage) (settle : Settle) (pos : Nat) (scene : Scene) :
    scene.actor.Grew (step stage settle pos scene).scene.actor := by
  rw [step_eq_proceed]
  generalize fetch stage pos scene.actor scene.world.reads = fetched
  rcases fetched with ⟨error | - | ⟨opcode, stop, error | command⟩, reads⟩
  · exact Actor.grew_endWith _ _
  · exact Actor.grew_endWith _ _
  · exact (Actor.grew_push _ _).trans (Actor.grew_endWith _ _)
  · exact (Command.apply_changed stage settle _ stop (scene.withReads reads) command).grew.trans
      (Effect.proceed_grew _ pos opcode stop)

theorem execute_grew (stage : Stage) (settle : Settle) (fuel pos : Nat) (scene : Scene) :
    scene.actor.Grew (execute stage settle fuel pos scene).2.actor := by
  induction fuel generalizing pos scene with
  | zero => exact Actor.grew_endWith _ _
  | succ fuel ih =>
      have hstep := step_grew stage settle pos scene
      rw [execute]
      cases hnext : step stage settle pos scene with
      | next pos' scene' =>
          rw [hnext] at hstep
          exact hstep.trans (ih pos' scene')
      | halt outcome =>
          rw [hnext] at hstep
          exact hstep

theorem invoke_grew (stage : Stage) (settle : Settle) (scene : Scene) :
    scene.actor.Grew (invoke stage settle scene).2.actor := by
  unfold invoke
  split
  · exact execute_grew _ _ _ _ _
  · exact .refl _

theorem Stage.invoke_grew (stage : Stage) (scene : Scene) :
    scene.actor.Grew (stage.invoke scene).2.actor :=
  LevelScript.invoke_grew stage _ scene

theorem Stage.tick_grew (stage : Stage) (scene : Scene) :
    scene.actor.Grew (stage.tick scene).2.actor := by
  unfold Stage.tick
  split
  · next resume delay _ =>
    dsimp only
    split
    · exact Actor.grew_control scene.actor _
    · have hwoken := (Actor.grew_control scene.actor (.running resume)).trans
        (Actor.grew_push _ (.resume resume))
      exact hwoken.trans (invoke_grew stage { scene with actor := _ })
  · exact invoke_grew stage scene

theorem settle_grew (stage : Stage) (room : Nat) (child : Actor) (init : UInt32) (world : World) :
    child.Grew (settle stage room child init world).2.actor := by
  cases room with
  | zero =>
      unfold settle
      split
      · exact Actor.grew_endWith _ _
      · exact Actor.grew_enroll _ _
  | succ room =>
      unfold settle
      split
      · exact Actor.grew_enroll _ _
      · next offset _ =>
        have hbegun : child.Grew ((child.push (.setup offset)).startAt offset) :=
          (Actor.grew_push _ _).trans (Actor.grew_startAt _ _)
        have hrun := hbegun.trans (invoke_grew stage (settle stage room)
          ⟨(child.push (.setup offset)).startAt offset, world, #[]⟩)
        split
        · next hout => rwa [hout] at hrun
        · next hout =>
          rw [hout] at hrun
          split
          · exact hrun
          · exact hrun.trans (Actor.grew_enroll _ _)

/-! ### The actors that a run spawns -/

/-- An actor that has grown from a newcomer whom some order of a script on this stage asks for. -/
def Stage.Offspring (stage : Stage) (actor : Actor) : Prop :=
  ∃ order : SpawnOrder, (∀ target, order.kind = .door target → target < stage.arenas.length) ∧
    (order.actor stage).Grew actor

/-- A way of settling in that keeps the newcomer who it is and brings offspring only. -/
structure Stage.Faithful (stage : Stage) (settle : Settle) : Prop where
  grew : ∀ (child : Actor) (init : UInt32) (world : World),
    child.Grew (settle child init world).2.actor
  spawned : ∀ (child : Actor) (init : UInt32) (world : World),
    ∀ actor ∈ (settle child init world).2.spawned, stage.Offspring actor

/-- A way of settling in the actors that scripts on this stage order, after which each of them has a
property, and so has every actor that its setup spawns in turn. -/
def Stage.Brings (stage : Stage) (settle : Settle) (holds : Actor → Prop) : Prop :=
  ∀ (order : SpawnOrder) (world : World),
    (∀ target, order.kind = .door target → target < stage.arenas.length) →
    holds (settle (order.actor stage) order.init world).2.actor ∧
      ∀ actor ∈ (settle (order.actor stage) order.init world).2.spawned, holds actor

theorem Stage.Faithful.brings {stage : Stage} {settle : Settle} (h : stage.Faithful settle) :
    stage.Brings settle stage.Offspring := by
  intro order world htarget
  exact ⟨⟨order, htarget, h.grew _ _ _⟩, h.spawned _ _ _⟩

section Brings

variable {stage : Stage} {settle : Settle} {holds : Actor → Prop}

theorem Command.apply_brings (hbrings : stage.Brings settle holds) (site : Site) (next : Nat)
    (scene : Scene) {command : Command}
    (horder : ∀ order target, command = .spawn order → order.kind = .door target →
      target < stage.arenas.length) :
    ∀ actor ∈ (command.apply stage settle site next scene).scene.spawned,
      actor ∈ scene.spawned ∨ holds actor := by
  intro actor hactor
  by_cases hspawn : ∃ order, command = .spawn order
  · obtain ⟨order, rfl⟩ := hspawn
    rw [apply] at hactor
    cases hrehearsal : stage.rehearsal with
    | true =>
        rw [(carryOutSpawn_of_rehearsal hrehearsal settle scene order).1] at hactor
        exact .inl hactor
    | false =>
        obtain ⟨hown, hnested⟩ := hbrings order scene.world fun target => horder order target rfl
        rw [(carryOutSpawn_of_not_rehearsal hrehearsal settle scene order).1] at hactor
        simp only [Scene.adopt, Array.mem_append, Array.mem_push] at hactor
        rcases hactor with (hold | rfl) | hactor
        · exact .inl hold
        · exact .inr hown
        · exact .inr (hnested actor hactor)
  · rw [apply_spawned_eq stage settle site next scene (by simpa using hspawn)] at hactor
    exact .inl hactor

theorem step_brings (hbrings : stage.Brings settle holds) (pos : Nat) (scene : Scene) :
    ∀ actor ∈ (step stage settle pos scene).scene.spawned, actor ∈ scene.spawned ∨ holds actor := by
  rw [step_eq_proceed]
  rcases hfetch : fetch stage pos scene.actor scene.world.reads with
    ⟨error | - | ⟨opcode, stop, error | command⟩, reads⟩
  · exact fun actor hactor => .inl hactor
  · exact fun actor hactor => .inl hactor
  · exact fun actor hactor => .inl hactor
  · obtain ⟨c, c', _, _, hread, _, _⟩ := fetch_instruction hfetch
    simp only [Fetched.proceed, Effect.proceed_scene_spawned]
    apply Command.apply_brings hbrings
    rintro order target rfl hkind
    exact (Command.reads_of_read hread).door_target_lt hkind

theorem execute_brings (hbrings : stage.Brings settle holds) (fuel pos : Nat) (scene : Scene) :
    ∀ actor ∈ (execute stage settle fuel pos scene).2.spawned,
      actor ∈ scene.spawned ∨ holds actor := by
  induction fuel generalizing pos scene with
  | zero => exact fun actor hactor => .inl hactor
  | succ fuel ih =>
      have hstep := step_brings hbrings pos scene
      rw [execute]
      cases hnext : step stage settle pos scene with
      | next pos' scene' =>
          rw [hnext] at hstep
          intro actor hactor
          rcases ih pos' scene' actor hactor with hold | hnew
          · exact hstep actor hold
          · exact .inr hnew
      | halt outcome =>
          rw [hnext] at hstep
          exact hstep

theorem invoke_brings (hbrings : stage.Brings settle holds) (scene : Scene) :
    ∀ actor ∈ (invoke stage settle scene).2.spawned, actor ∈ scene.spawned ∨ holds actor := by
  unfold invoke
  split
  · exact execute_brings hbrings _ _ _
  · exact fun actor hactor => .inl hactor

/-- What settling in brings, an invocation from outside brings. -/
theorem Stage.invoke_brings
    (hbrings : stage.Brings (LevelScript.settle stage stage.settings.maxCallDepth) holds)
    (scene : Scene) :
    ∀ actor ∈ (stage.invoke scene).2.spawned, actor ∈ scene.spawned ∨ holds actor :=
  LevelScript.invoke_brings hbrings scene

/-- So does a tick. -/
theorem Stage.tick_brings
    (hbrings : stage.Brings (LevelScript.settle stage stage.settings.maxCallDepth) holds)
    (scene : Scene) :
    ∀ actor ∈ (stage.tick scene).2.spawned, actor ∈ scene.spawned ∨ holds actor := by
  unfold Stage.tick
  split
  · dsimp only
    split
    · exact fun actor hactor => .inl hactor
    · exact stage.invoke_brings hbrings { scene with actor := _ }
  · exact stage.invoke_brings hbrings scene

end Brings

/-- What all newcomers have once they are settled in, the actors that a setup spawns have too,
however deep the setup scripts nest. -/
theorem settle_spawned {stage : Stage} {holds : Actor → Prop}
    (hown : ∀ (room : Nat) (order : SpawnOrder) (world : World),
      (∀ target, order.kind = .door target → target < stage.arenas.length) →
      holds (settle stage room (order.actor stage) order.init world).2.actor)
    (room : Nat) (child : Actor) (init : UInt32) (world : World) :
    ∀ actor ∈ (settle stage room child init world).2.spawned, holds actor := by
  induction room generalizing child init world with
  | zero =>
      intro actor hactor
      unfold settle at hactor
      split at hactor <;> simp at hactor
  | succ room ih =>
      have hbrings : stage.Brings (settle stage room) holds :=
        fun order world htarget => ⟨hown room order world htarget, ih _ _ _⟩
      intro actor hactor
      unfold settle at hactor
      split at hactor
      · simp at hactor
      · next offset _ =>
        have hrun := invoke_brings hbrings
          ⟨(child.push (.setup offset)).startAt offset, world, #[]⟩ actor
        simp only [Array.not_mem_empty, false_or] at hrun
        split at hactor
        · next hout => exact hrun (by rwa [hout])
        · next hout =>
          apply hrun
          rw [hout]
          split at hactor <;> exact hactor

/-- Settling in is faithful, however much room is left for nested setup scripts. -/
theorem settle_faithful (stage : Stage) (room : Nat) : stage.Faithful (settle stage room) := by
  refine ⟨settle_grew stage room, settle_spawned ?_ room⟩
  intro room order world htarget
  exact ⟨order, htarget, settle_grew stage room _ _ _⟩

theorem Stage.invoke_offspring (stage : Stage) (scene : Scene) :
    ∀ actor ∈ (stage.invoke scene).2.spawned, actor ∈ scene.spawned ∨ stage.Offspring actor :=
  stage.invoke_brings (settle_faithful stage _).brings scene

theorem Stage.tick_offspring (stage : Stage) (scene : Scene) :
    ∀ actor ∈ (stage.tick scene).2.spawned, actor ∈ scene.spawned ∨ stage.Offspring actor :=
  stage.tick_brings (settle_faithful stage _).brings scene

end LevelScript
