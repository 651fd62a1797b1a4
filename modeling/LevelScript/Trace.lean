import LevelScript.Opcode

/-!
Traces: what an actor's log holds, line by line.
-/

namespace LevelScript

/-- Why a script has ended. -/
inductive Ending
  | finished
  | cleared
  | destroyed
  | unmodeled (opcode : UInt8) (offset : Nat)
  | failed (error : ScriptFailure)
deriving DecidableEq, Repr, Inhabited

def Ending.message : Ending → String
  | finished => "finished script"
  | cleared => "script cleared"
  | destroyed => "destroyed"
  | unmodeled opcode offset =>
    s!"stopped at unmodeled opcode {hexByte opcode} ({hexOffset offset})"
  | failed error => s!"error: {error.message}"

/-- One line of an actor's log. -/
inductive TraceLine
  /-- The actor was placed by the level's world data. -/
  | placed (position : Point) (value : Int32)
  /-- Its setup script begins. -/
  | setup (offset : UInt32)
  /-- It was pointed at its own script. -/
  | init (offset : UInt32)
  /-- Its delay has run out. -/
  | resume (offset : Nat)
  /-- An instruction was carried out, or failed. -/
  | step (offset : Nat) (opcode : UInt8) (detail : String)
  | ended (reason : Ending)
deriving DecidableEq, Repr, Inhabited

namespace TraceLine

def render : TraceLine → String
  | placed position value => s!"placed at {position.plain} (value {value})"
  | setup offset => s!"setup {hexOffset offset.toNat}"
  | init offset => s!"init {hexOffset offset.toNat}"
  | resume offset => s!"resume {hexOffset offset}"
  | step offset opcode detail => (Site.at opcode offset).header ++ detail
  | ended reason => reason.message

/-- A log as text, a line each. -/
def renderAll (log : Array TraceLine) : String :=
  String.join (log.toList.map fun line => line.render ++ "\n")

end TraceLine

end LevelScript
