import LevelScript.Proofs.Progress

/-!
Instructions that fail.

An instruction reads all its operands before it changes anything.  So one that fails leaves the
level, its arena and its actor as they were just before it: its actor is ended, and its log says at
which instruction and why.  Only an error that stops the whole load can come later, out of the setup
script of an actor that is spawned.
-/

namespace LevelScript

/-! ### What stops a load -/

section Stops

variable {stage : Stage} {settle : Settle} {scene : Scene} {error : DataError}

/-- An error stops a run: it is one that does so wherever it arises, and the actor of the run is out
of the game. -/
def Outcome.Stops (outcome : Outcome) (error : DataError) : Prop :=
  error.isFatal = true ∧ outcome.2.actor.isGone = true

theorem Scene.stops_of_fail {failure : ScriptFailure} (h : (scene.fail failure).1 = some error) :
    Outcome.Stops (scene.fail failure) error :=
  ⟨(ScriptFailure.fatal?_eq_some.mp h).2, rfl⟩

theorem Effect.stops_of_proceed {effect : Effect} {pos next : Nat} {opcode : UInt8}
    {outcome : Outcome} (h : effect.proceed pos opcode next = .halt outcome)
    (herror : outcome.1 = some error) : outcome.Stops error := by
  unfold proceed at h
  split at h
  · cases h
  · cases h
    cases herror
  · cases h
    cases herror
  · cases h
    exact Scene.stops_of_fail herror

theorem stops_of_step {pos : Nat} {outcome : Outcome}
    (h : step stage settle pos scene = .halt outcome) (herror : outcome.1 = some error) :
    outcome.Stops error := by
  rw [step_eq_proceed] at h
  generalize fetch stage pos scene.actor scene.world.reads = fetched at h
  rcases fetched with ⟨cause | - | ⟨opcode, stop, failure | command⟩, reads⟩
  · cases h
    exact Scene.stops_of_fail herror
  · cases h
    cases herror
  · cases h
    exact Scene.stops_of_fail herror
  · exact Effect.stops_of_proceed h herror

theorem stops_of_execute {fuel pos : Nat}
    (h : (execute stage settle fuel pos scene).1 = some error) :
    (execute stage settle fuel pos scene).Stops error := by
  induction fuel generalizing pos scene with
  | zero => exact Scene.stops_of_fail h
  | succ fuel ih =>
      rw [execute] at h ⊢
      cases hnext : step stage settle pos scene with
      | next pos' scene' =>
          rw [hnext] at h
          exact ih h
      | halt outcome =>
          rw [hnext] at h
          exact stops_of_step hnext h

theorem stops_of_invoke (h : (invoke stage settle scene).1 = some error) :
    (invoke stage settle scene).Stops error := by
  unfold invoke at h ⊢
  cases hstart : scene.actor.start? with
  | none =>
      rw [hstart] at h
      cases h
  | some pos =>
      rw [hstart] at h
      exact stops_of_execute h

end Stops

/-! ### One instruction -/

section Runs

variable {stage : Stage} {settle : Settle} {scene : Scene} {failure : ScriptFailure}

end Runs

/-! ### Invocations -/

section Stumbles

variable {stage : Stage} {settle : Settle} {scene current : Scene} {pos : Nat} {opcode : UInt8}
  {failure : ScriptFailure}

end Stumbles

/-! ### The level -/

namespace Session

variable {session : Session} {index : Nat} {seat : Seat} {actor : Actor}

end Session

end LevelScript
