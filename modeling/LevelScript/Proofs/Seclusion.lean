import LevelScript.Proofs.Failures

/-!
What a script cannot see.

A run depends on the bytes of the level, the names of its arenas, the variables it can reach, the
setup scripts of its arena and its own actor.  It sees neither which bytes were read before nor
who else lives in the level.  So two sessions that agree in what a script can see let it run the
same way, whatever else is in them.
-/

namespace LevelScript

/-! ### Runs do not look at earlier reads -/

def World.withReads (world : World) (reads : List Span) : World :=
  { world with reads := reads }

def Outcome.withReads (outcome : Outcome) (reads : List Span) : Outcome :=
  (outcome.1, outcome.2.withReads reads)

def Effect.withReads (effect : Effect) (reads : List Span) : Effect :=
  { effect with scene := effect.scene.withReads reads }

def Stepped.withReads : Stepped → List Span → Stepped
  | next pos scene, reads => .next pos (scene.withReads reads)
  | halt outcome, reads => .halt (Outcome.withReads outcome reads)

@[simp]
theorem Scene.withReads_actor (scene : Scene) (reads : List Span) :
    (scene.withReads reads).actor = scene.actor := rfl

@[simp]
theorem Scene.withReads_world (scene : Scene) (reads : List Span) :
    (scene.withReads reads).world = scene.world.withReads reads := rfl

@[simp]
theorem Scene.withReads_view (scene : Scene) (reads : List Span) :
    (scene.withReads reads).view = scene.view := rfl

/-- A way of settling in that does not depend on which bytes were read before. -/
def Settle.Blind (settle : Settle) : Prop :=
  ∀ (child : Actor) (init : UInt32) (world : World) (reads : List Span), ∃ reads',
    settle child init (world.withReads reads) =
      Outcome.withReads (settle child init world) reads'

/-- What a script holds at a position does not depend on what was read before. -/
theorem fetch_fst_eq (stage : Stage) (pos : Nat) (actor : Actor) (reads reads' : List Span) :
    (fetch stage pos actor reads').1 = (fetch stage pos actor reads).1 := by
  unfold fetch
  rw [Scan.Regular.u8.run_eq ⟨pos, reads, []⟩, Scan.Regular.u8.run_eq ⟨pos, reads', []⟩]
  dsimp only
  rcases Scan.u8.run stage.bytes (.start pos) with ⟨error | opcode, c⟩
  · rfl
  · by_cases hend : opcode = 0xff
    · simp only [hend, ↓reduceIte]
    · have hregular : (Command.read stage.arenas actor (Site.at opcode pos)).Regular stage.bytes
          Scan.Any := Scan.Regular.command stage.arenas actor (Site.at opcode pos)
      have hpos : (Cursor.join ⟨pos, reads', []⟩ c).pos =
          (Cursor.join ⟨pos, reads, []⟩ c).pos := rfl
      obtain ⟨hresult, hstop⟩ := hregular.run_congr hpos
      simp only [hend, ↓reduceIte, hresult, hstop]

namespace Command

theorem wait_withReads (scene : Scene) (reads : List Span) (next : Nat) (time : Quantity) :
    wait (scene.withReads reads) next time = (wait scene next time).withReads reads := by
  simp only [wait, Scene.withReads_view]
  by_cases hover : (scene.view.value time).le .zero
  · simp only [hover, ↓reduceIte]
    rfl
  · simp only [hover]
    rfl

theorem changeDoor_withReads (scene : Scene) (reads : List Span) (update : Door → Door)
    (detail : Door → String) :
    changeDoor (scene.withReads reads) update detail =
      (changeDoor scene update detail).withReads reads := by
  simp only [changeDoor, Scene.withReads_actor]
  cases scene.actor.door? with
  | none => rfl
  | some door => rfl

theorem carryOutGoBack_withReads (scene : Scene) (reads : List Span) :
    carryOutGoBack (scene.withReads reads) = (carryOutGoBack scene).withReads reads := by
  simp only [carryOutGoBack, Scene.withReads_actor]
  by_cases hanchor : scene.actor.anchor = 0
  · simp only [hanchor, ↓reduceIte]
    rfl
  · simp only [hanchor]
    rfl

/-- How a command is carried out does not depend on what was read before. -/
theorem apply_withReads (stage : Stage) {settle : Settle} (hsettle : settle.Blind) (site : Site)
    (next : Nat) (scene : Scene) (reads : List Span) (command : Command) :
    ∃ reads', command.apply stage settle site next (scene.withReads reads) =
      (command.apply stage settle site next scene).withReads reads' := by
  cases command with
  | delay time => exact ⟨reads, wait_withReads scene reads next time⟩
  | spawn order =>
      obtain ⟨reads', hchild⟩ := hsettle (order.actor stage) order.init scene.world reads
      simp only [apply, carryOutSpawn, Scene.withReads_world, hchild]
      by_cases hrehearsal : stage.rehearsal
      · simp only [hrehearsal, ↓reduceIte]
        exact ⟨reads, rfl⟩
      · simp only [hrehearsal]
        rcases settle (order.actor stage) order.init scene.world with ⟨_ | fatal, child⟩
        · exact ⟨reads', rfl⟩
        · exact ⟨reads', rfl⟩
  | goBack => exact ⟨reads, carryOutGoBack_withReads scene reads⟩
  | doorAnimations animations =>
      rw [apply, apply]
      exact ⟨reads, changeDoor_withReads scene reads _ _⟩
  | doorSounds sounds =>
      rw [apply, apply]
      exact ⟨reads, changeDoor_withReads scene reads _ _⟩
  | doorFlags bits =>
      rw [apply, apply]
      exact ⟨reads, changeDoor_withReads scene reads _ _⟩
  | doorDistance distance =>
      rw [apply, apply]
      exact ⟨reads, changeDoor_withReads scene reads _ _⟩
  | _ => exact ⟨reads, rfl⟩

end Command

theorem Effect.proceed_withReads (effect : Effect) (reads : List Span) (pos : Nat) (opcode : UInt8)
    (next : Nat) :
    (effect.withReads reads).proceed pos opcode next =
      (effect.proceed pos opcode next).withReads reads := by
  obtain ⟨scene, detail, verdict⟩ := effect
  simp only [Effect.proceed, Effect.withReads]
  split <;> rfl

section Blind

variable (stage : Stage) {settle : Settle}

theorem step_withReads (hsettle : settle.Blind) (pos : Nat) (scene : Scene) (reads : List Span) :
    ∃ reads', step stage settle pos (scene.withReads reads) =
      (step stage settle pos scene).withReads reads' := by
  rw [step_eq_proceed, step_eq_proceed, Scene.withReads_actor,
    fetch_fst_eq stage pos scene.actor scene.world.reads]
  generalize (fetch stage pos scene.actor (scene.withReads reads).world.reads).2 = late
  rcases fetch stage pos scene.actor scene.world.reads with
    ⟨error | - | ⟨opcode, stop, error | command⟩, early⟩
  · exact ⟨late, rfl⟩
  · exact ⟨late, rfl⟩
  · exact ⟨late, rfl⟩
  · obtain ⟨reads', heffect⟩ := command.apply_withReads stage hsettle (Site.at opcode pos) stop
      (scene.withReads early) late
    refine ⟨reads', ?_⟩
    rw [Fetched.proceed, Fetched.proceed, ← Effect.proceed_withReads, ← heffect]
    rfl

theorem execute_withReads (hsettle : settle.Blind) (fuel pos : Nat) (scene : Scene)
    (reads : List Span) :
    ∃ reads', execute stage settle fuel pos (scene.withReads reads) =
      Outcome.withReads (execute stage settle fuel pos scene) reads' := by
  induction fuel generalizing pos scene reads with
  | zero => exact ⟨reads, rfl⟩
  | succ fuel ih =>
      obtain ⟨reads', hstep⟩ := step_withReads stage hsettle pos scene reads
      rw [execute, execute, hstep]
      cases step stage settle pos scene with
      | next pos' scene' => exact ih pos' scene' reads'
      | halt outcome => exact ⟨reads', rfl⟩

theorem invoke_withReads (hsettle : settle.Blind) (scene : Scene) (reads : List Span) :
    ∃ reads', invoke stage settle (scene.withReads reads) =
      Outcome.withReads (invoke stage settle scene) reads' := by
  unfold invoke
  rw [Scene.withReads_actor]
  cases scene.actor.start? with
  | none => exact ⟨reads, rfl⟩
  | some offset => exact execute_withReads stage hsettle _ offset scene reads

end Blind

/-- Settling in is blind, however much room is left for nested setup scripts. -/
theorem settle_blind (stage : Stage) (room : Nat) : (settle stage room).Blind := by
  induction room with
  | zero =>
      intro child init world reads
      refine ⟨reads, ?_⟩
      unfold settle
      cases stage.setupOf? child with
      | none => rfl
      | some offset => rfl
  | succ room ih =>
      intro child init world reads
      unfold settle
      cases stage.setupOf? child with
      | none => exact ⟨reads, rfl⟩
      | some offset =>
          obtain ⟨reads', hrun⟩ := invoke_withReads stage ih
            ⟨(child.push (.setup offset)).startAt offset, world, #[]⟩ reads
          simp only [Scene.withReads] at hrun
          refine ⟨reads', ?_⟩
          simp only [World.withReads, hrun]
          rcases invoke stage (settle stage room)
            ⟨(child.push (.setup offset)).startAt offset, world, #[]⟩ with ⟨_ | fatal, scene⟩
          · simp only [Outcome.withReads, Scene.withReads_actor]
            by_cases hgone : scene.actor.isGone
            · simp only [hgone, ↓reduceIte]
            · simp only [hgone]
              rfl
          · rfl

theorem Stage.invoke_withReads (stage : Stage) (scene : Scene) (reads : List Span) :
    ∃ reads', stage.invoke (scene.withReads reads) =
      Outcome.withReads (stage.invoke scene) reads' :=
  LevelScript.invoke_withReads stage (settle_blind stage _) scene reads

/-! ### How an invocation turns out -/

namespace Session

theorem actor_arena {session : Session} (h : session.level.WellOwned) {index : Nat} {arena : Arena}
    (harena : session.level.arenas[index]? = some arena) {seat : Seat} {actor : Actor}
    (hseat : arena.actor? seat = some actor) : actor.arena = index := by
  cases seat with
  | self =>
      cases hseat
      exact (h.self index arena harena).2.2
  | live k => exact (h.live index arena harena actor (Array.mem_of_getElem? hseat)).1

end Session

/-- The chief lives alone in the hall. -/
def Session.lonely (level : Level) : Session :=
  (Session.mk level []).afterAll .standard [.seed [⟨"HALL", "CHIEF", 1, .origin, 0⟩]]

end LevelScript
