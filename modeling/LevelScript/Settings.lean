import LevelScript.DoorFlags
import LevelScript.Number.Single

/-!
What a load can be told.
-/

namespace LevelScript

/-- The settings of a load. -/
structure Settings where
  /-- Rounds of countdown that follow the load passes. -/
  tickIterations : Nat
  /-- What every pending delay loses in one round. -/
  tickDelta : Single
  /-- Instructions that one invocation of a script may carry out. -/
  maxInstructions : Nat
  /-- How deep setup scripts may nest. -/
  maxCallDepth : Nat
  defaultHealth : UInt16
  doorOpenDistance : Single
  doorFlagPolicy : DoorFlagPolicy
deriving DecidableEq, Repr

namespace Settings

/-- The settings that hold unless said otherwise: four rounds of length one, doors that open at a
distance of 200. -/
def standard : Settings where
  tickIterations := 4
  tickDelta := ⟨0x3f800000⟩
  maxInstructions := 10000
  maxCallDepth := 16
  defaultHealth := 100
  doorOpenDistance := ⟨0x43480000⟩
  doorFlagPolicy := .preserveState

instance : Inhabited Settings := ⟨standard⟩

end Settings

end LevelScript
