import LevelScript.Proofs.Command

/-!
One instruction of a script.

A step first fetches: it reads the opcode and the operands, which touches nothing but the cursor.
Only a fetched command changes anything, and of the actor's own state it changes what this module
says, field by field.  Everything that is said about whole runs starts from here.
-/

namespace LevelScript

/-- What a script holds at a position, for the actor that runs it. -/
inductive Fetched
  | unreadable (error : DataError)
  /-- The end of the script. -/
  | ending
  /-- An instruction; `stop` is the position after its operands, or where reading them failed. -/
  | instruction (opcode : UInt8) (stop : Nat) (result : Except ScriptFailure Command)

/-- Reads the instruction at a position, and tells which bytes have been read by then. -/
def fetch (stage : Stage) (pos : Nat) (actor : Actor) (reads : List Span) : Fetched × List Span :=
  match Scan.u8.run stage.bytes ⟨pos, reads, []⟩ with
  | (.error error, c) => (.unreadable error, c.reads)
  | (.ok opcode, c) =>
    if opcode = 0xff then (.ending, c.reads)
    else
      match (Command.read stage.arenas actor (Site.at opcode pos)).run stage.bytes c with
      | (result, c') => (.instruction opcode c'.pos result, c'.reads)

/-- Inversion of a fetch that found an instruction. -/
theorem fetch_instruction {stage : Stage} {pos : Nat} {actor : Actor} {reads reads' : List Span}
    {opcode : UInt8} {stop : Nat} {result : Except ScriptFailure Command}
    (h : fetch stage pos actor reads = (.instruction opcode stop result, reads')) :
    ∃ c c', Scan.u8.run stage.bytes ⟨pos, reads, []⟩ = (.ok opcode, c) ∧ opcode ≠ 0xff ∧
      (Command.read stage.arenas actor (Site.at opcode pos)).run stage.bytes c = (result, c') ∧
      c'.pos = stop ∧ c'.reads = reads' := by
  unfold fetch at h
  rcases hopcode : Scan.u8.run stage.bytes ⟨pos, reads, []⟩ with ⟨error | found, c⟩
  · simp [hopcode] at h
  · by_cases hend : found = 0xff
    · simp [hopcode, hend] at h
    · rcases hread : (Command.read stage.arenas actor (Site.at found pos)).run stage.bytes c with
        ⟨result', c'⟩
      simp only [hopcode, hend, ↓reduceIte, hread, Prod.mk.injEq, Fetched.instruction.injEq] at h
      obtain ⟨⟨rfl, rfl, rfl⟩, rfl⟩ := h
      exact ⟨c, c', rfl, hend, hread, rfl, rfl⟩

/-- How a script goes on from an effect: the trace line is written, and the verdict decides. -/
def Effect.proceed (effect : Effect) (pos : Nat) (opcode : UInt8) (next : Nat) : Stepped :=
  let scene := effect.scene.push (.step pos opcode effect.detail)
  match effect.verdict with
  | .ok .goOn => .next next scene
  | .ok .pause => .halt (none, scene)
  | .ok (.stop reason) => .halt (none, scene.endWith reason)
  | .error fatal => .halt (scene.fail (.format fatal))

/-- What a step makes of what was fetched. -/
def Fetched.proceed (stage : Stage) (settle : Settle) (pos : Nat) (scene : Scene) :
    Fetched → Stepped
  | .unreadable error => .halt (scene.fail (.format error))
  | .ending => .halt (none, scene.endWith .finished)
  | .instruction opcode _ (.error error) => .halt ((scene.push (.step pos opcode "")).fail error)
  | .instruction opcode stop (.ok command) =>
    (command.apply stage settle (Site.at opcode pos) stop scene).proceed pos opcode stop

/-- A step is a fetch and what is made of it. -/
theorem step_eq_proceed (stage : Stage) (settle : Settle) (pos : Nat) (scene : Scene) :
    step stage settle pos scene =
      (fetch stage pos scene.actor scene.world.reads).1.proceed stage settle pos
        (scene.withReads (fetch stage pos scene.actor scene.world.reads).2) := by
  unfold step fetch
  rcases Scan.u8.run stage.bytes ⟨pos, scene.world.reads, []⟩ with ⟨_ | opcode, c⟩
  · rfl
  · by_cases hend : opcode = 0xff
    · simp only [hend, ↓reduceIte, Fetched.proceed]
    · simp only [hend, ↓reduceIte]
      rcases (Command.read stage.arenas scene.actor (Site.at opcode pos)).run stage.bytes c with
        ⟨_ | command, c'⟩
      · rfl
      · rfl

/-! ### What a command changes about its actor -/

/-- What a kind says for good: only a door says more, the arena that it leads to. -/
def ActorKind.role : ActorKind → SpawnKind
  | plain => .plain
  | door d => .door d.target
  | pickup => .pickup

/-- The animations of a door. -/
def ActorKind.animations : ActorKind → List Animation
  | door d => d.animations.elim [] DoorAnimations.toList
  | _ => []

/-- The animations that an actor holds, as a door also those of the door. -/
def Actor.animations (actor : Actor) : List Animation :=
  actor.animation.toList ++ actor.kind.animations

/-- The animations that a command names. -/
def Command.animations : Command → List Animation
  | animate anim => [anim]
  | doorAnimations animations => animations.toList
  | _ => []

namespace Command

/-- How an actor that carries out a command changes, but for its control.  Who it is stays, and so
does its log; a new anchor and new animations come from the command. -/
structure Changed (command : Command) (next : Nat) (a b : Actor) : Prop where
  name_eq : b.name = a.name
  id_eq : b.id = a.id
  arena_eq : b.arena = a.arena
  isArena_eq : b.isArena = a.isArena
  role_eq : b.kind.role = a.kind.role
  log_eq : b.log = a.log
  anchor_eq : b.anchor = if command = .anchor then next else a.anchor
  animations : ∀ anim ∈ b.animations, anim ∈ a.animations ∨ anim ∈ command.animations

/-- Most commands leave alone all that is said of an actor here. -/
theorem changed_of_eq {command : Command} {next : Nat} {a b : Actor} (hname : b.name = a.name)
    (hid : b.id = a.id) (harena : b.arena = a.arena) (hisArena : b.isArena = a.isArena)
    (hkind : b.kind = a.kind) (hlog : b.log = a.log) (hanchor : b.anchor = a.anchor)
    (hanimation : b.animation = a.animation) (hcommand : command ≠ .anchor) :
    command.Changed next a b where
  name_eq := hname
  id_eq := hid
  arena_eq := harena
  isArena_eq := hisArena
  role_eq := by rw [hkind]
  log_eq := hlog
  anchor_eq := by rw [if_neg hcommand, hanchor]
  animations anim hanim := by
    rw [Actor.animations, hkind, hanimation] at hanim
    exact .inl hanim

theorem changed_refl {command : Command} (hcommand : command ≠ .anchor) (next : Nat)
    (actor : Actor) : command.Changed next actor actor :=
  changed_of_eq rfl rfl rfl rfl rfl rfl rfl rfl hcommand

theorem changeDoor_changed {command : Command} (hcommand : command ≠ .anchor) (next : Nat)
    (scene : Scene) {update : Door → Door} (detail : Door → String)
    (htarget : ∀ door, (update door).target = door.target)
    (hanimations : ∀ door, ∀ anim ∈ ActorKind.animations (.door (update door)),
      anim ∈ ActorKind.animations (.door door) ∨ anim ∈ command.animations) :
    command.Changed next scene.actor (changeDoor scene update detail).scene.actor := by
  unfold changeDoor
  cases hdoor : scene.actor.door? with
  | none => exact changed_refl hcommand next scene.actor
  | some door =>
      have hkind : scene.actor.kind = .door door := by
        unfold Actor.door? at hdoor
        split at hdoor <;> simp_all
      refine ⟨rfl, rfl, rfl, rfl, ?_, rfl, (if_neg hcommand).symm, ?_⟩
      · simp [change, hkind, ActorKind.role, htarget]
      · intro anim hanim
        simp only [change, Actor.animations, List.mem_append] at hanim ⊢
        rcases hanim with hown | hdoor
        · exact .inl (.inl hown)
        · rw [hkind]
          rcases hanimations door anim hdoor with hold | hnew
          · exact .inl (.inr hold)
          · exact .inr hnew

theorem apply_changed (stage : Stage) (settle : Settle) (site : Site) (next : Nat) (scene : Scene)
    (command : Command) :
    command.Changed next scene.actor (command.apply stage settle site next scene).scene.actor := by
  cases command with
  | anchor =>
      refine ⟨rfl, rfl, rfl, rfl, rfl, rfl, (if_pos rfl).symm, ?_⟩
      exact fun anim hanim => .inl hanim
  | animate anim =>
      refine ⟨rfl, rfl, rfl, rfl, rfl, rfl, rfl, ?_⟩
      intro other hother
      simp only [apply, change, Actor.animations, Option.toList_some, List.mem_append,
        List.mem_singleton] at hother
      rcases hother with rfl | hdoor
      · exact .inr (List.mem_singleton_self _)
      · exact .inl (List.mem_append_right _ hdoor)
  | delay time =>
      rw [apply]
      by_cases hover : (scene.view.value time).le .zero
      · rw [(wait_of_le scene next time hover).1]
        exact changed_refl (by simp) next scene.actor
      · rw [(wait_of_not_le scene next time hover).1]
        exact changed_of_eq rfl rfl rfl rfl rfl rfl rfl rfl (by simp)
  | spawn order =>
      simp only [apply, carryOutSpawn]
      split
      · exact changed_refl (by simp) next scene.actor
      · split <;> exact changed_refl (by simp) next scene.actor
  | goBack =>
      simp only [apply, carryOutGoBack]
      split <;> exact changed_of_eq rfl rfl rfl rfl rfl rfl rfl rfl (by simp)
  | doorAnimations animations =>
      refine changeDoor_changed (by simp) next scene _ (fun _ => rfl) ?_
      exact fun door anim hanim => .inr hanim
  | doorSounds sounds =>
      exact changeDoor_changed (by simp) next scene _ (fun _ => rfl) fun _ _ hanim => .inl hanim
  | doorFlags bits =>
      exact changeDoor_changed (by simp) next scene _ (fun _ => rfl) fun _ _ hanim => .inl hanim
  | doorDistance distance =>
      exact changeDoor_changed (by simp) next scene _ (fun _ => rfl) fun _ _ hanim => .inl hanim
  | _ => exact changed_of_eq rfl rfl rfl rfl rfl rfl rfl rfl (by simp)

theorem changeDoor_goesOn (scene : Scene) (update : Door → Door) (detail : Door → String) :
    (changeDoor scene update detail).scene.actor.control = scene.actor.control ∧
      (changeDoor scene update detail).verdict = .ok .goOn := by
  unfold changeDoor
  split <;> exact ⟨rfl, rfl⟩

/-- A command that lets its script go on leaves the actor's control alone. -/
theorem apply_control_of_goOn {stage : Stage} {settle : Settle} {site : Site} {next : Nat}
    {scene : Scene} {command : Command}
    (h : (command.apply stage settle site next scene).verdict = .ok .goOn) :
    (command.apply stage settle site next scene).scene.actor.control = scene.actor.control ∧
      command ≠ .goBack := by
  cases command with
  | delay time =>
      rw [apply] at h ⊢
      by_cases hover : (scene.view.value time).le .zero
      · rw [(wait_of_le scene next time hover).1]
        exact ⟨rfl, by simp⟩
      · rw [(wait_of_not_le scene next time hover).2] at h
        cases h
  | spawn order =>
      refine ⟨?_, by simp⟩
      simp only [apply, carryOutSpawn]
      split
      · rfl
      · split <;> rfl
  | goBack =>
      simp only [apply, carryOutGoBack] at h
      split at h <;> cases h
  | doorAnimations animations => exact ⟨(changeDoor_goesOn scene _ _).1, by simp⟩
  | doorSounds sounds => exact ⟨(changeDoor_goesOn scene _ _).1, by simp⟩
  | doorFlags bits => exact ⟨(changeDoor_goesOn scene _ _).1, by simp⟩
  | doorDistance distance => exact ⟨(changeDoor_goesOn scene _ _).1, by simp⟩
  | _ => exact ⟨rfl, by simp⟩

/-- Only a delay that is above zero and a return end the invocation. -/
theorem eq_of_apply_pause {stage : Stage} {settle : Settle} {site : Site} {next : Nat}
    {scene : Scene} {command : Command}
    (h : (command.apply stage settle site next scene).verdict = .ok .pause) :
    (∃ time, command = .delay time ∧ ¬ (scene.view.value time).le .zero) ∨ command = .goBack := by
  cases command with
  | delay time =>
      rw [apply] at h
      by_cases hover : (scene.view.value time).le .zero
      · rw [(wait_of_le scene next time hover).2] at h
        cases h
      · exact .inl ⟨time, rfl, hover⟩
  | spawn order =>
      simp only [apply, carryOutSpawn] at h
      split at h
      · cases h
      · split at h <;> cases h
  | goBack => exact .inr rfl
  | health points =>
      simp only [apply] at h
      split at h <;> cases h
  | doorAnimations animations => cases (changeDoor_goesOn scene _ _).2.symm.trans h
  | doorSounds sounds => cases (changeDoor_goesOn scene _ _).2.symm.trans h
  | doorFlags bits => cases (changeDoor_goesOn scene _ _).2.symm.trans h
  | doorDistance distance => cases (changeDoor_goesOn scene _ _).2.symm.trans h
  | _ => cases h

/-- Only a command that gives the script up, takes the last health or is not modeled ends the
script. -/
theorem eq_of_apply_stop {stage : Stage} {settle : Settle} {site : Site} {next : Nat}
    {scene : Scene} {command : Command} {reason : Ending}
    (h : (command.apply stage settle site next scene).verdict = .ok (.stop reason)) :
    (command = .clear ∧ reason = .cleared) ∨ (command = .health 0 ∧ reason = .destroyed) ∨
      (command = .unmodeled ∧ reason = .unmodeled site.opcode site.offset) := by
  cases command with
  | clear =>
      cases h
      exact .inl ⟨rfl, rfl⟩
  | health points =>
      simp only [apply] at h
      split at h
      · next hpoints =>
        cases h
        exact .inr (.inl ⟨by rw [hpoints], rfl⟩)
      · cases h
  | unmodeled =>
      cases h
      exact .inr (.inr ⟨rfl, rfl⟩)
  | delay time =>
      simp only [apply, wait] at h
      split at h <;> cases h
  | spawn order =>
      simp only [apply, carryOutSpawn] at h
      split at h
      · cases h
      · split at h <;> cases h
  | goBack =>
      simp only [apply, carryOutGoBack] at h
      split at h <;> cases h
  | doorAnimations animations => cases (changeDoor_goesOn scene _ _).2.symm.trans h
  | doorSounds sounds => cases (changeDoor_goesOn scene _ _).2.symm.trans h
  | doorFlags bits => cases (changeDoor_goesOn scene _ _).2.symm.trans h
  | doorDistance distance => cases (changeDoor_goesOn scene _ _).2.symm.trans h
  | _ => cases h

/-- A return leads to the anchor, if there is one. -/
theorem carryOutGoBack_control (scene : Scene) :
    (carryOutGoBack scene).scene.actor.control =
      if scene.actor.anchor = 0 then .idle else .running scene.actor.anchor := by
  unfold carryOutGoBack
  by_cases hanchor : scene.actor.anchor = 0
  · simp [hanchor]
  · simp [hanchor]

/-- A command that ends the invocation is a delay, after which the script goes on behind it, or a
return, after which it goes on at the anchor, if there is one. -/
theorem apply_control_of_pause {stage : Stage} {settle : Settle} {site : Site} {next : Nat}
    {scene : Scene} {command : Command}
    (h : (command.apply stage settle site next scene).verdict = .ok .pause) :
    (command ≠ .goBack ∧ ∃ delay,
        (command.apply stage settle site next scene).scene.actor.control = .blocked next delay) ∨
      (command = .goBack ∧ (command.apply stage settle site next scene).scene.actor.control =
        if scene.actor.anchor = 0 then .idle else .running scene.actor.anchor) := by
  rcases eq_of_apply_pause h with ⟨time, rfl, hover⟩ | rfl
  · refine .inl ⟨by simp, scene.view.value time, ?_⟩
    rw [apply, (wait_of_not_le scene next time hover).1]
  · exact .inr ⟨rfl, carryOutGoBack_control scene⟩

end Command

end LevelScript
