import LevelScript.OperandLayout

/-!
The instruction set: what each opcode is called and how its operands are laid out.
-/

namespace LevelScript

/-- How the operands of an opcode are laid out. -/
inductive Shape
  /-- So many bytes. -/
  | skip (width : UInt8)
  /-- Operands one after the other. -/
  | sequence (kinds : List OperandKind)
  /-- The end of a script. -/
  | ending
  /-- Operands that decide about each other. -/
  | dependent (layout : OperandLayout)
  /-- Operands of unknown extent. -/
  | unmodeled
  /-- No instruction. -/
  | invalid
deriving DecidableEq, Repr, Inhabited

namespace Shape

/-- The width of a sequence that is made of bytes only. -/
def bytesWidth? : List OperandKind → Option Nat
  | [] => some 0
  | .bytes count :: rest => (bytesWidth? rest).map (count.toNat + ·)
  | _ :: _ => none

/-- The width of the operands, if it does not depend on them. -/
def width? : Shape → Option Nat
  | skip width => some width.toNat
  | sequence kinds => bytesWidth? kinds
  | ending => some 0
  | dependent _ | unmodeled | invalid => none

/-- Reads operands whose layout the shape alone decides; gives nothing for the other shapes. -/
def read : Shape → Scan DataError (Option (List Operand))
  | skip width =>
    if width = 0 then pure (some [])
    else do
      let data ← Scan.slice width.toNat
      return some [.bytes data]
  | sequence kinds => do
    let operands ← OperandKind.readAll kinds
    return some operands
  | ending => pure (some [])
  | dependent _ | unmodeled | invalid => pure none

end Shape

/-- What is known about an opcode. -/
structure Opcode where
  name : String
  shape : Shape
deriving DecidableEq, Repr, Inhabited

namespace Opcode

set_option maxRecDepth 8192 in
/-- The instruction set, in the order of the opcodes. -/
def table : Vector Opcode 256 := #v[
  ⟨"Invalid", .invalid⟩, -- 00
  ⟨"Set resume point", .skip 0⟩, -- 01
  ⟨"Set path", .dependent .path⟩, -- 02
  ⟨"Set animation", .skip 4⟩, -- 03
  ⟨"Give order", .dependent .order⟩, -- 04
  ⟨"Set camera zoom", .skip 4⟩, -- 05
  ⟨"Set script mode 6", .skip 0⟩, -- 06
  ⟨"Invalid", .invalid⟩, -- 07
  ⟨"Set yaw", .skip 2⟩, -- 08
  ⟨"Clear function stack", .skip 0⟩, -- 09
  ⟨"Branch on named alien at index", .sequence [.text, .bytes 1, .branch]⟩, -- 0A
  ⟨"Set min order range", .skip 1⟩, -- 0B
  ⟨"Random jump", .dependent .jumps⟩, -- 0C
  ⟨"Branch on global field 3", .sequence [.branch]⟩, -- 0D
  ⟨"Branch on visible", .sequence [.bytes 3, .branch]⟩, -- 0E
  ⟨"Set script field", .skip 0⟩, -- 0F
  ⟨"Set health", .skip 2⟩, -- 10
  ⟨"Branch on anim field", .sequence [.branch]⟩, -- 11
  ⟨"Branch with value", .sequence [.bytes 4, .branch]⟩, -- 12
  ⟨"Clear anim field 3", .skip 0⟩, -- 13
  ⟨"Clear path", .skip 0⟩, -- 14
  ⟨"Set index", .skip 4⟩, -- 15
  ⟨"Branch on has parts", .sequence [.branch]⟩, -- 16
  ⟨"Set flag 1 and data", .skip 1⟩, -- 17
  ⟨"Set name 4", .sequence [.bytes 1, .text]⟩, -- 18
  ⟨"Set name", .sequence [.text]⟩, -- 19
  ⟨"Set name 3", .sequence [.text]⟩, -- 1A
  ⟨"Branch on global var", .sequence [.branch]⟩, -- 1B
  ⟨"Mortar path", .skip 4⟩, -- 1C
  ⟨"Create chain", .sequence [.bytes 1, .text, .bytes 4]⟩, -- 1D
  ⟨"Invalid", .invalid⟩, -- 1E
  ⟨"Hide parts", .dependent .parts⟩, -- 1F
  ⟨"Show parts", .dependent .parts⟩, -- 20
  ⟨"Branch on path value", .sequence [.bytes 4, .branch]⟩, -- 21
  ⟨"Branch on has alien", .sequence [.branch]⟩, -- 22
  ⟨"Set entity flag 4", .skip 1⟩, -- 23
  ⟨"Set entity flag 2", .skip 1⟩, -- 24
  ⟨"Branch on something", .sequence [.branch]⟩, -- 25
  ⟨"Branch on vertical velocity", .sequence [.compare, .branch]⟩, -- 26
  ⟨"Set anim facing value", .sequence [.quantity]⟩, -- 27
  ⟨"Set anim facing yaw", .sequence [.quantity]⟩, -- 28
  ⟨"Sniper index", .skip 1⟩, -- 29
  ⟨"Branch if part exists", .dependent .partBranch⟩, -- 2A
  ⟨"Move home", .skip 8⟩, -- 2B
  ⟨"Branch on script field", .sequence [.branch]⟩, -- 2C
  ⟨"Branch on distance to player", .sequence [.compare, .branch]⟩, -- 2D
  ⟨"Branch on hiding spot", .sequence [.branch]⟩, -- 2E
  ⟨"Weighted random call", .sequence [.bytes 4, .branch]⟩, -- 2F
  ⟨"Weighted random call (framerate adjusted)", .sequence [.bytes 4, .branch]⟩, -- 30
  ⟨"Branch on alien data", .sequence [.bytes 1, .branch]⟩, -- 31
  ⟨"Set data value", .sequence [.quantity]⟩, -- 32
  ⟨"Set data value", .sequence [.quantity]⟩, -- 33
  ⟨"Set data value", .sequence [.quantity]⟩, -- 34
  ⟨"Set data value", .sequence [.quantity]⟩, -- 35
  ⟨"Branch on distance to something", .sequence [.compare, .branch]⟩, -- 36
  ⟨"Set data value 5", .sequence [.quantity]⟩, -- 37
  ⟨"Add to script field 10", .skip 2⟩, -- 38
  ⟨"Branch if visible", .sequence [.bytes 3, .branch]⟩, -- 39
  ⟨"Set anim framerate", .sequence [.quantity]⟩, -- 3A
  ⟨"Set anim", .skip 4⟩, -- 3B
  ⟨"Face player 2", .skip 0⟩, -- 3C
  ⟨"Spawn badguy", .dependent .reinforcement⟩, -- 3D
  ⟨"Branch on angle to player", .sequence [.compare, .branch]⟩, -- 3E
  ⟨"Set flag 0x10", .skip 1⟩, -- 3F
  ⟨"Delay", .sequence [.quantity]⟩, -- 40
  ⟨"Set variable", .skip 6⟩, -- 41
  ⟨"Add to variable", .skip 6⟩, -- 42
  ⟨"Branch on variable compare", .sequence [.bytes 2, .compare, .branch]⟩, -- 43
  ⟨"Set flag var", .skip 2⟩, -- 44
  ⟨"Clear flag var", .skip 2⟩, -- 45
  ⟨"Toggle flag var", .skip 2⟩, -- 46
  ⟨"Branch on flag var set", .sequence [.bytes 2, .branch]⟩, -- 47
  ⟨"Branch on flag var clear", .sequence [.bytes 2, .branch]⟩, -- 48
  ⟨"Set max order range", .skip 1⟩, -- 49
  ⟨"Set alien", .sequence [.bytes 2, .text]⟩, -- 4A
  ⟨"Clear script field", .skip 0⟩, -- 4B
  ⟨"Set on killed function", .skip 4⟩, -- 4C
  ⟨"Assert", .sequence [.bytes 1, .text]⟩, -- 4D
  ⟨"Set home", .skip 12⟩, -- 4E
  ⟨"Set position", .skip 12⟩, -- 4F
  ⟨"Add velocity in facing direction", .skip 12⟩, -- 50
  ⟨"Move in facing direction", .sequence [.bytes 1, .quantity]⟩, -- 51
  ⟨"Set data 2", .sequence [.quantity]⟩, -- 52
  ⟨"Set radius", .dependent .radius⟩, -- 53
  ⟨"Set script field 11", .sequence [.quantity]⟩, -- 54
  ⟨"Set data flag 7", .skip 1⟩, -- 55
  ⟨"Spawn entity 3", .sequence [.bytes 12, .text, .bytes 4]⟩, -- 56
  ⟨"Branch if visible in range", .sequence [.bytes 5, .branch]⟩, -- 57
  ⟨"Set script fields", .skip 1⟩, -- 58
  ⟨"Play sound", .dependent .sound⟩, -- 59
  ⟨"Named value", .sequence [.text, .bytes 4]⟩, -- 5A
  ⟨"Set script field 4", .sequence [.quantity]⟩, -- 5B
  ⟨"Branch on anim field value", .sequence [.bytes 2, .branch]⟩, -- 5C
  ⟨"Move towards point", .skip 16⟩, -- 5D
  ⟨"Weighted random jump", .dependent .weightedJumps⟩, -- 5E
  ⟨"Weighted random call list", .dependent .weightedJumps⟩, -- 5F
  ⟨"Branch on player in square", .sequence [.bytes 16, .branch]⟩, -- 60
  ⟨"Set entity flag 0x80", .skip 1⟩, -- 61
  ⟨"Set triangle visibility", .skip 2⟩, -- 62
  ⟨"Set triangle damage trigger", .skip 6⟩, -- 63
  ⟨"Show arena", .sequence [.text]⟩, -- 64
  ⟨"Face player", .skip 0⟩, -- 65
  ⟨"Call if path exists", .sequence [.branch]⟩, -- 66
  ⟨"Branch on bounding box", .sequence [.bytes 24, .branch]⟩, -- 67
  ⟨"Look at target", .skip 4⟩, -- 68
  ⟨"Turn to face", .skip 20⟩, -- 69
  ⟨"Set arena float value", .skip 4⟩, -- 6A
  ⟨"Start sound", .sequence [.text]⟩, -- 6B
  ⟨"Branch on hit bounding box", .sequence [.branch]⟩, -- 6C
  ⟨"Hurt entity", .skip 1⟩, -- 6D
  ⟨"Destroy entity quietly", .skip 0⟩, -- 6E
  ⟨"Set entity id", .skip 4⟩, -- 6F
  ⟨"Teleport", .sequence [.text, .bytes 16]⟩, -- 70
  ⟨"Spawn alien", .sequence [.bytes 12, .text, .bytes 4]⟩, -- 71
  ⟨"Branch on alien", .sequence [.branch]⟩, -- 72
  ⟨"Branch on wall proximity", .sequence [.bytes 8, .branch]⟩, -- 73
  ⟨"Set flags", .skip 4⟩, -- 74
  ⟨"Clear flags", .skip 4⟩, -- 75
  ⟨"Set anim fields", .skip 4⟩, -- 76
  ⟨"Find entity and branch on comparison", .sequence [.text, .compare, .branch]⟩, -- 77
  ⟨"Set pitch", .skip 4⟩, -- 78
  ⟨"Branch on distance from floor", .sequence [.bytes 4, .branch]⟩, -- 79
  ⟨"Turn pitch", .skip 8⟩, -- 7A
  ⟨"Branch on arena", .sequence [.branch]⟩, -- 7B
  ⟨"Set angle", .skip 4⟩, -- 7C
  ⟨"Clear function stack 2", .skip 0⟩, -- 7D
  ⟨"Look at player pitch", .skip 0⟩, -- 7E
  ⟨"Branch on script field 10", .sequence [.compare, .branch]⟩, -- 7F
  ⟨"Set thing", .sequence [.text, .bytes 2]⟩, -- 80
  ⟨"Blow off parts", .dependent .blowParts⟩, -- 81
  ⟨"Create dent", .skip 0⟩, -- 82
  ⟨"Run music command", .skip 1⟩, -- 83
  ⟨"Create bubble", .dependent .bubble⟩, -- 84
  ⟨"Set material effect", .sequence [.text, .bytes 5]⟩, -- 85
  ⟨"Add angle", .sequence [.quantity]⟩, -- 86
  ⟨"Screenshake", .skip 4⟩, -- 87
  ⟨"Create slimes", .skip 34⟩, -- 88
  ⟨"Shatter triangle 1", .skip 13⟩, -- 89
  ⟨"Shatter triangle 2", .skip 37⟩, -- 8A
  ⟨"Shatter triangle 3", .skip 25⟩, -- 8B
  ⟨"Set triangle colour", .skip 3⟩, -- 8C
  ⟨"Transparency fade", .skip 9⟩, -- 8D
  ⟨"Activate fan", .sequence [.bytes 1, .text, .bytes 6]⟩, -- 8E
  ⟨"Deactivate fan", .sequence [.text]⟩, -- 8F
  ⟨"Create fan", .sequence [.text, .bytes 30]⟩, -- 90
  ⟨"Set fan speed", .sequence [.text, .bytes 8]⟩, -- 91
  ⟨"Activate conveyor", .sequence [.bytes 1, .text, .bytes 24]⟩, -- 92
  ⟨"Deactivate conveyor", .sequence [.text]⟩, -- 93
  ⟨"Set conveyor speed", .sequence [.text, .bytes 8]⟩, -- 94
  ⟨"Spawn door", .sequence [.bytes 20, .text, .text, .bytes 4]⟩, -- 95
  ⟨"Set door animations", .skip 8⟩, -- 96
  ⟨"Set door sounds", .sequence [.text, .text, .text, .text]⟩, -- 97
  ⟨"Set door flags", .skip 4⟩, -- 98
  ⟨"Set door open distance", .skip 4⟩, -- 99
  ⟨"Wait for anim progress", .skip 2⟩, -- 9A
  ⟨"Branch on stack value", .sequence [.quantity, .branch]⟩, -- 9B
  ⟨"Spawn alien at point", .sequence [.bytes 1, .text, .bytes 4]⟩, -- 9C
  ⟨"Move to data point", .sequence [.text, .bytes 8]⟩, -- 9D
  ⟨"Check touch damage", .dependent .touchDamage⟩, -- 9E
  ⟨"Spawn blit alien", .dependent .projectile⟩, -- 9F
  ⟨"Branch on yaw", .sequence [.compare, .branch]⟩, -- A0
  ⟨"Spawn pickup", .sequence [.bytes 12, .text, .bytes 4]⟩, -- A1
  ⟨"Write arena thing index", .skip 3⟩, -- A2
  ⟨"Branch on arena thing index", .sequence [.bytes 1, .compare, .branch]⟩, -- A3
  ⟨"Set entity data fields", .dependent .dataFields⟩, -- A4
  ⟨"Branch on has target position", .sequence [.branch]⟩, -- A5
  ⟨"Branch on can see target", .sequence [.branch]⟩, -- A6
  ⟨"Move towards target", .skip 4⟩, -- A7
  ⟨"Set triangle visibility 2", .skip 2⟩, -- A8
  ⟨"Set data 3", .sequence [.quantity]⟩, -- A9
  ⟨"Move towards player", .skip 4⟩, -- AA
  ⟨"Branch on alien 2", .sequence [.branch]⟩, -- AB
  ⟨"Explosion", .dependent .explosion⟩, -- AC
  ⟨"Set arena teleport", .dependent .teleport⟩, -- AD
  ⟨"Branch on pickup index", .sequence [.bytes 1, .compare, .branch]⟩, -- AE
  ⟨"Branch on pickup type", .sequence [.bytes 1, .compare, .branch]⟩, -- AF
  ⟨"Branch on flags 0x40000", .sequence [.branch]⟩, -- B0
  ⟨"Set damage radius", .sequence [.quantity]⟩, -- B1
  ⟨"Explosion with radius", .dependent .blast⟩, -- B2
  ⟨"Spawn alien by name", .sequence [.text, .bytes 4]⟩, -- B3
  ⟨"Teleport to dynamic target", .dependent .teleportOffset⟩, -- B4
  ⟨"Set arena state", .dependent .arenaState⟩, -- B5
  ⟨"Unfinished B6", .unmodeled⟩, -- B6
  ⟨"Call by variable index", .dependent .callByVariable⟩, -- B7
  ⟨"Destroy alien and damage area", .skip 12⟩, -- B8
  ⟨"Branch on data value 0", .sequence [.compare, .branch]⟩, -- B9
  ⟨"Set script field 3", .skip 5⟩, -- BA
  ⟨"Add random velocity", .skip 8⟩, -- BB
  ⟨"Branch on distance to player 2", .sequence [.compare, .branch]⟩, -- BC
  ⟨"Move towards player capped", .dependent .chase⟩, -- BD
  ⟨"Set fan affects damp", .sequence [.bytes 1, .text]⟩, -- BE
  ⟨"Branch on axis distance to player", .sequence [.bytes 1, .compare, .branch]⟩, -- BF
  ⟨"Branch on can move to", .sequence [.bytes 16, .branch]⟩, -- C0
  ⟨"Face", .dependent .facing⟩, -- C1
  ⟨"Set bsp visibility", .skip 5⟩, -- C2
  ⟨"Branch on alien value", .sequence [.bytes 1, .branch]⟩, -- C3
  ⟨"Set dti arena number", .unmodeled⟩, -- C4
  ⟨"Branch on hide", .sequence [.branch]⟩, -- C5
  ⟨"Set data", .sequence [.text, .bytes 9]⟩, -- C6
  ⟨"Set script data", .sequence [.quantity]⟩, -- C7
  ⟨"Set anim vector, branch if done", .sequence [.bytes 16, .branch]⟩, -- C8
  ⟨"Add anim facing", .skip 8⟩, -- C9
  ⟨"Set background visibility", .skip 1⟩, -- CA
  ⟨"Angle camera to alien", .dependent .camera⟩, -- CB
  ⟨"Bounce", .skip 0⟩, -- CC
  ⟨"Set script field 12", .skip 1⟩, -- CD
  ⟨"Spawn aliens on path", .sequence [.bytes 8, .text, .bytes 4]⟩, -- CE
  ⟨"Turn to angle", .sequence [.bytes 8, .branch]⟩, -- CF
  ⟨"Branch on has part", .sequence [.text, .branch]⟩, -- D0
  ⟨"Branch on alien state", .sequence [.branch]⟩, -- D1
  ⟨"Set scale", .sequence [.quantity]⟩, -- D2
  ⟨"Zero velocity", .skip 0⟩, -- D3
  ⟨"Branch on field", .sequence [.branch]⟩, -- D4
  ⟨"Branch on distance to thing", .sequence [.compare, .branch]⟩, -- D5
  ⟨"Branch on angle to thing", .sequence [.compare, .branch]⟩, -- D6
  ⟨"Increase global field", .sequence [.quantity]⟩, -- D7
  ⟨"Add to variable over time", .skip 6⟩, -- D8
  ⟨"Set travel offset", .skip 5⟩, -- D9
  ⟨"Set pitch 2", .skip 4⟩, -- DA
  ⟨"Target fire", .sequence [.bytes 8, .branch]⟩, -- DB
  ⟨"Set target", .skip 12⟩, -- DC
  ⟨"Try jumping", .sequence [.bytes 1, .branch]⟩, -- DD
  ⟨"Branch on instruction count", .sequence [.compare, .branch]⟩, -- DE
  ⟨"Load arena", .sequence [.text]⟩, -- DF
  ⟨"Update sliding", .dependent .sliding⟩, -- E0
  ⟨"Branch on pointer", .sequence [.branch]⟩, -- E1
  ⟨"Set position and values", .skip 20⟩, -- E2
  ⟨"Unfinished E3", .unmodeled⟩, -- E3
  ⟨"Set dynamic target", .sequence [.text]⟩, -- E4
  ⟨"Turn towards home", .sequence [.bytes 4, .branch]⟩, -- E5
  ⟨"Spawn entity", .sequence [.bytes 20, .text, .bytes 4]⟩, -- E6
  ⟨"Branch on script field and state", .sequence [.branch]⟩, -- E7
  ⟨"Fixed branch", .sequence [.bytes 1, .branch]⟩, -- E8
  ⟨"Branch on sound playing", .sequence [.text, .branch]⟩, -- E9
  ⟨"Branch on angle to player 2", .sequence [.compare, .branch]⟩, -- EA
  ⟨"Turn params", .skip 16⟩, -- EB
  ⟨"Branch on floor", .sequence [.bytes 12, .branch]⟩, -- EC
  ⟨"Branch on inside box", .sequence [.bytes 24, .branch]⟩, -- ED
  ⟨"Branch on position component", .sequence [.bytes 1, .compare, .branch]⟩, -- EE
  ⟨"Set bounding box", .skip 24⟩, -- EF
  ⟨"Set global script field", .skip 1⟩, -- F0
  ⟨"Branch on global pickup data", .sequence [.compare, .branch]⟩, -- F1
  ⟨"Set transform matrix", .dependent .matrix⟩, -- F2
  ⟨"Branch on point visible", .sequence [.bytes 3, .branch]⟩, -- F3
  ⟨"Set global field 1", .skip 5⟩, -- F4
  ⟨"Get buddy", .dependent .buddy⟩, -- F5
  ⟨"Turn to thing", .skip 5⟩, -- F6
  ⟨"Display message", .sequence [.bytes 1, .text, .bytes 4]⟩, -- F7
  ⟨"Set sliding vars", .dependent .slidingRates⟩, -- F8
  ⟨"Branch on sound", .dependent .soundBranch⟩, -- F9
  ⟨"Branch on part in box", .dependent .partBox⟩, -- FA
  ⟨"Set player position flag", .skip 1⟩, -- FB
  ⟨"Random call", .dependent .jumps⟩, -- FC
  ⟨"Return", .skip 0⟩, -- FD
  ⟨"Invalid", .invalid⟩, -- FE
  ⟨"End of script", .ending⟩] -- FF

/-- The opcode of a byte. -/
def ofByte (byte : UInt8) : Opcode :=
  table.get byte.toFin

end Opcode

/-- The instruction with a given opcode at an offset. -/
def Site.at (opcode : UInt8) (offset : Nat) : Site :=
  ⟨opcode, offset, (Opcode.ofByte opcode).name⟩

/-- What an instruction starts with in traces and listings. -/
def Site.header (site : Site) : String :=
  s!"[{hexOffset site.offset}: {hexByte site.opcode} {site.name}]"

end LevelScript
