import LevelScript.Opcode

/-!
Decoding of instructions for what they show, without regard to what they do.
-/

namespace LevelScript

namespace Scan

/-- An animation operand: an offset to animation data, which is named if the data start with a zero
word and a name. -/
def animation : Scan DataError Animation := do
  let offset ← u32
  visit offset.toNat do
    let word ← u32
    if word = 0 then
      orElse (do let name ← text 8; return .named name) (pure (.offset offset))
    else return .offset offset

end Scan

/-- The operands of an instruction. -/
inductive Decoded
  | operands (values : List Operand)
  /-- Operands that decide about each other, already as text. -/
  | described (text : String)
  /-- Operands of unknown extent. -/
  | unmodeled
deriving DecidableEq, Repr, Inhabited

/-- The text after an instruction's header, if its operands can be stepped over. -/
def Decoded.text? : Decoded → Option String
  | operands values => some (Operand.listText values)
  | described text => some text
  | unmodeled => none

/-- Decodes the operands of an instruction as the instruction set lays them out. -/
def Site.decode (site : Site) : Scan ScriptFailure Decoded :=
  match (Opcode.ofByte site.opcode).shape with
  | .dependent layout => do
    let text ← layout.read site
    return .described text
  | .invalid => Scan.fail (.unknownOpcode site.opcode site.offset)
  | shape => do
    let operands ← shape.read
    match operands with
    | some values => return .operands values
    | none => return .unmodeled

end LevelScript
