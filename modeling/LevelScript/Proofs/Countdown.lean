import LevelScript.Proofs.Coherence
import LevelScript.Proofs.Stillness

/-!
Countdown.

Each tick of an actor that waits takes the same amount off its delay.  As long as something above
zero is left, nothing else about the actor changes; the first tick that leaves nothing wakes it, and
it runs at once from where it waited.  What happens to others in between, and in which order, makes
no difference: the countdown depends on the actor's own ticks alone.
-/

namespace LevelScript

namespace Settings

/-- What is left of a delay after so many ticks. -/
def left (settings : Settings) (delay : Single) : Nat → Single
  | 0 => delay
  | count + 1 => settings.left delay count - settings.tickDelta

/-- Something is left of a delay after each of so many ticks. -/
def Lasts (settings : Settings) (delay : Single) (count : Nat) : Prop :=
  ∀ k, 1 ≤ k → k ≤ count → Single.lt .zero (settings.left delay k)

end Settings

namespace Actor

end Actor

/-! ### One tick -/

namespace Stage

variable {stage : Stage} {scene : Scene} {resume : Nat} {delay : Single}

end Stage

namespace Session

variable {session : Session} {settings : Settings} {index : Nat} {seat : Seat} {actor : Actor}

variable {resume : Nat} {delay : Single}

end Session

end LevelScript
