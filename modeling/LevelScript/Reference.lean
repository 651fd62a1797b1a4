import LevelScript.Text.Hex

/-!
What an instruction can refer to outside its own operands.
-/

namespace LevelScript

/-- An animation: named in place, or the data at an offset. -/
inductive Animation
  | named (name : String)
  | offset (position : UInt32)
deriving DecidableEq, Repr, Inhabited

namespace Animation

def plain : Animation → String
  | named name => name
  | offset o => hexOffset o.toNat

/-- Named animations come first, by name; the others follow by offset. -/
def lt : Animation → Animation → Bool
  | named a, named b => a < b
  | named _, offset _ => true
  | offset _, named _ => false
  | offset a, offset b => a < b

end Animation

/-- Something an instruction refers to. -/
inductive Reference
  /-- Another block of the same script. -/
  | block (offset : UInt32)
  /-- A script that is started on the actor of that name. -/
  | script (name : String) (offset : UInt32) (reason : String)
  | animation (anim : Animation)
  | path (offset : UInt32)
deriving DecidableEq, Repr, Inhabited

end LevelScript
