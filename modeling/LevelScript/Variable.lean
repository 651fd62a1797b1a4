import LevelScript.Scan

/-!
Script variables.

The level, each arena and each actor own four number slots.  An operand names one of them by a
scope byte and an index byte, or carries a number itself.
-/

namespace LevelScript

/-- Four number slots. -/
abbrev Vars := Vector Single 4

/-- Four slots that hold zero. -/
def Vars.zero : Vars :=
  Vector.replicate 4 .zero

/-- Who owns a variable. -/
inductive Owner
  | level
  | arena
  | actor
deriving DecidableEq, Repr, Inhabited

/-- The scope that names the owner's variables. -/
def Owner.scope : Owner → Scope
  | level => .level
  | arena => .arena
  | actor => .actor

/-- One slot of one owner. -/
structure Variable where
  owner : Owner
  index : Fin 4
deriving DecidableEq, Repr, Inhabited

/-- The owner that a scope names; the other scopes cannot be resolved. -/
def Scope.owner? : Scope → Option Owner
  | level => some .level
  | arena => some .arena
  | actor => some .actor
  | _ => none

namespace Variable

def plain (v : Variable) : String :=
  variableText v.owner.scope.name v.index

/-- The variable of a scope and an index byte. -/
def resolve (scope : Scope) (index : UInt8) : Except ScriptFailure Variable :=
  match scope.owner? with
  | none => .error (.unsupportedScope scope)
  | some owner =>
    if h : index.toNat < 4 then .ok ⟨owner, ⟨index.toNat, h⟩⟩ else .error (.slotIndex index)

end Variable

/-- A number operand: a variable, or the number itself. -/
inductive Quantity
  | slot (v : Variable)
  | immediate (x : Single)
deriving DecidableEq, Repr, Inhabited

def Quantity.plain : Quantity → String
  | slot v => v.plain
  | immediate x => x.plain

/-- The variables that a script sees. -/
structure VarView where
  level : Vars
  arena : Vars
  actor : Vars
deriving DecidableEq, Repr

namespace VarView

def get (view : VarView) (v : Variable) : Single :=
  match v.owner with
  | .level => view.level.get v.index
  | .arena => view.arena.get v.index
  | .actor => view.actor.get v.index

def set (view : VarView) (v : Variable) (x : Single) : VarView :=
  match v.owner with
  | .level => { view with level := view.level.set v.index x }
  | .arena => { view with arena := view.arena.set v.index x }
  | .actor => { view with actor := view.actor.set v.index x }

def value (view : VarView) : Quantity → Single
  | .slot v => view.get v
  | .immediate x => x

end VarView

namespace Scan

/-- Lets a pure check decide. -/
def ofExcept {ε α : Type} : Except ε α → Scan ε α
  | .ok a => pure a
  | .error e => fail e

/-- A scope byte whose scope is known and is one of those that scripts can use. -/
def scope : Scan ScriptFailure Scope := do
  let tag ← u8
  match Scope.ofTag? tag with
  | none => fail (.unknownScope tag)
  | some .dynamic => fail (.unsupportedScope .dynamic)
  | some .door => fail (.unsupportedScope .door)
  | some known => return known

/-- The index byte of a variable of a known scope. -/
def variableOf (known : Scope) : Scan ScriptFailure Variable := do
  let index ← u8
  ofExcept (Variable.resolve known index)

/-- A number operand. -/
def quantity : Scan ScriptFailure Quantity := do
  let known ← scope
  if known = .immediate then
    let x ← single
    return .immediate x
  else
    let v ← variableOf known
    return .slot v

/-- A variable that the instruction `opcode` is about to write. -/
def variableTarget (opcode : UInt8) : Scan ScriptFailure Variable := do
  let known ← scope
  if known = .immediate then fail (.immediateTarget opcode)
  else variableOf known

end Scan

end LevelScript
