import LevelScript.Scope
import LevelScript.Text.Hex

/-!
What can go wrong.

A `DataError` is a fault of the data.  While a level is built it stops the whole load; inside a
script it stops the actor that runs it, as every `ScriptFailure` does.  Only a reference to an arena
that does not exist stops the load from inside a script too.
-/

namespace LevelScript

/-- A fault of the data. -/
inductive DataError
  /-- A read past the end of a buffer of `size` bytes. -/
  | outOfBounds (offset len size : Nat)
  | invalidString (offset : Nat)
  | invalidValue (offset : Nat) (value : String)
  | malformedKey (key : String)
  | unknownArena (name : String)
deriving DecidableEq, Repr, Inhabited

namespace DataError

def message : DataError → String
  | outOfBounds offset len size =>
    s!"read of {len} bytes at {hexOffset offset} is out of bounds (buffer size {size})"
  | invalidString offset => s!"invalid string at {hexOffset offset}"
  | invalidValue offset value => s!"invalid value '{value}' at {hexOffset offset}"
  | malformedKey key => s!"malformed table key \"{key}\""
  | unknownArena name => s!"no arena named \"{name}\""

/-- Whether the error stops the whole load wherever it arises. -/
def isFatal : DataError → Bool
  | unknownArena _ => true
  | _ => false

end DataError

/-- Why a script stopped before its end. -/
inductive ScriptFailure
  | format (cause : DataError)
  | unknownOpcode (opcode : UInt8) (offset : Nat)
  | badOperand (opcode : UInt8) (offset : Nat) (value : UInt32)
  | notADoor (opcode : UInt8) (actor : String)
  | unknownScope (tag : UInt8)
  | unsupportedScope (scope : Scope)
  | slotIndex (index : UInt8)
  | immediateTarget (opcode : UInt8)
  | instructionLimit (limit : Nat)
  | depthLimit (limit : Nat)
deriving DecidableEq, Repr, Inhabited

/-- The families of script errors. -/
inductive ErrorFamily
  | format
  | unknownOpcode
  | brokenRule
  | exhausted
deriving DecidableEq, Repr

namespace ScriptFailure

def message : ScriptFailure → String
  | format cause => cause.message
  | unknownOpcode opcode offset => s!"unknown opcode {hexByte opcode} at {hexOffset offset}"
  | badOperand opcode offset value =>
    s!"opcode {hexByte opcode} at {hexOffset offset} has unexpected operand value {value}"
  | notADoor opcode actor => s!"opcode {hexByte opcode} needs a door but \"{actor}\" is not one"
  | unknownScope tag => s!"unknown variable scope {tag}"
  | unsupportedScope scope => s!"variable scope {scope.name} cannot be resolved"
  | slotIndex index => s!"variable index {index} out of range"
  | immediateTarget opcode => s!"opcode {hexByte opcode} cannot write to an immediate value"
  | instructionLimit limit => s!"instruction limit of {limit} reached"
  | depthLimit limit => s!"setup nesting limit of {limit} reached"

def family : ScriptFailure → ErrorFamily
  | format _ | badOperand .. => .format
  | unknownOpcode .. => .unknownOpcode
  | notADoor .. | unknownScope _ | unsupportedScope _ | slotIndex _ | immediateTarget _ => .brokenRule
  | instructionLimit _ | depthLimit _ => .exhausted

/-- The cause, if it stops the whole load. -/
def fatal? : ScriptFailure → Option DataError
  | format cause => if cause.isFatal then some cause else none
  | _ => none

end ScriptFailure

end LevelScript
