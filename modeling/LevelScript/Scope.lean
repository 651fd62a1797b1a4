/-!
Scopes of script variables.
-/

namespace LevelScript

/-- Where a variable operand points to, as its scope byte says. -/
inductive Scope
  | level
  | arena
  | actor
  | immediate
  | dynamic
  | door
deriving DecidableEq, Repr, Inhabited

namespace Scope

def ofTag? (tag : UInt8) : Option Scope :=
  match tag.toNat with
  | 0 => some level
  | 1 => some arena
  | 2 => some actor
  | 3 => some immediate
  | 4 => some dynamic
  | 5 => some door
  | _ => none

def name : Scope → String
  | level => "Level"
  | arena => "Arena"
  | actor => "Entity"
  | immediate => "Immediate"
  | dynamic => "Dynamic"
  | door => "Door"

/-- The name behind a scope byte, for texts. -/
def nameOfTag (tag : UInt8) : String :=
  match ofTag? tag with
  | some scope => scope.name
  | none => "Unknown"

end Scope

/-- The text of the variable at an index of a scope. -/
def variableText (scope : String) (index : Nat) : String :=
  s!"{scope}_vars[{index}]"

end LevelScript
