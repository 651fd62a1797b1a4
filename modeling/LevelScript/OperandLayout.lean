import LevelScript.Operand
import LevelScript.Text.Quoted

/-!
Operand layouts that depend on their own operands.

For some instructions an early operand decides what follows.  Reading such a layout gives the text
for traces and listings, and notes the blocks, scripts and paths that the operands refer to; what
was noted before a failure stays noted.
-/

namespace LevelScript

/-- The layouts whose first operands decide about the others. -/
inductive OperandLayout
  | path
  | order
  | jumps
  | parts
  | partBranch
  | reinforcement
  | radius
  | sound
  | weightedJumps
  | blowParts
  | bubble
  | touchDamage
  | projectile
  | dataFields
  | explosion
  | teleport
  | blast
  | teleportOffset
  | arenaState
  | callByVariable
  | chase
  | facing
  | camera
  | sliding
  | matrix
  | buddy
  | slidingRates
  | soundBranch
  | partBox
deriving DecidableEq, Repr, Inhabited

/-- An instruction in its place: its opcode, where it starts, and what the opcode is called. -/
structure Site where
  opcode : UInt8
  offset : Nat
  name : String
deriving DecidableEq, Repr, Inhabited

namespace Site

/-- Refuses an operand value. -/
def refuse {α : Type} (site : Site) (value : UInt8) : Scan ScriptFailure α :=
  Scan.fail (.badOperand site.opcode site.offset value.toUInt32)

end Site

namespace Scan

/-- A block offset, noted as such. -/
def blockTarget : Scan DataError UInt32 := do
  let target ← u32
  find (.block target)
  return target

/-- A branch operand, its blocks noted. -/
def branchOperand : Scan DataError Operand := do
  let branch ← OperandKind.branch.read
  findBlocks branch.blocks
  return branch
where
  findBlocks : List UInt32 → Scan DataError Unit
    | [] => pure ()
    | block :: rest => do
      find (.block block)
      findBlocks rest

/-- So many block offsets in brackets. -/
def blockTargets (count : Nat) : Scan DataError String := do
  let targets ← times blockTarget count
  return "[" ++ ", ".intercalate (targets.map fun t => hexOffset t.toNat) ++ "]"

/-- A text in plain quotes. -/
def quotedText : Scan DataError String := do
  let s ← countedText
  return s!"\"{s}\""

/-- A place: for tag 3 a numbered point, otherwise a position. -/
def place : Scan DataError String := do
  let tag ← u8
  if tag = 3 then
    let index ← u8
    return s!" at point {index}"
  else
    let position ← point
    return s!" at {position.plain}"

/-- So many numbers in brackets. -/
def singles (count : Nat) : Scan DataError String := do
  let xs ← times single count
  return " " ++ exactList xs

end Scan

namespace OperandLayout

open Scan

/-- Whom an order is for. -/
def audience (target : UInt8) : String :=
  match target.toNat with
  | 2 => "Normal"
  | 3 => "Everyone"
  | 4 => "Single"
  | 5 => "Id"
  | 6 => "Visible"
  | 7 => "Children"
  | 9 => "Buddy"
  | 10 => "Height"
  | _ => "Unknown"

/-- Whether an order names its audience. -/
def isNamedAudience (target : UInt8) : Bool :=
  [2, 4, 5, 6, 7, 10].contains target

/-- What is ordered, and the script it starts if it starts one. -/
def readOrdered (site : Site) : Scan ScriptFailure (String × Option UInt32) := do
  let order ← u8
  match order.toNat with
  | 7 =>
    let code ← u8
    if code = 0xfc ∨ code = 0x0c then
      let script ← u32
      return (s!" run script {hexOffset script.toNat}", some script)
    else site.refuse code
  | 0x2b =>
    let x ← single
    let y ← single
    return (s!" set home {x.plain}, {y.plain}", none)
  | 1 => return (" set home state", none)
  | n => return (s!" order {n}", none)

/-- Whom it is ordered, with the name that the order gives. -/
def readAudience : Scan DataError (String × Option String) := do
  let target ← u8
  let range ←
    if target = 6 ∨ target = 10 then
      let distance ← single
      pure s!" {distance.plain}"
    else pure ""
  let name ←
    if isNamedAudience target then
      let s ← countedText
      pure (some s)
    else pure none
  let named := match name with
    | some s => s!" \"{s}\""
    | none => ""
  let id ←
    if target = 5 then
      let n ← u32
      pure s!" id {n}"
    else pure ""
  return (s!", target: {audience target}" ++ range ++ named ++ id, name)

def readOrder (site : Site) : Scan ScriptFailure String := do
  let (ordered, script) ← readOrdered site
  let (toWhom, name) ← readAudience
  match script with
  | some offset => Scan.find (.script (name.getD "Unknown") offset "Order")
  | none => pure ()
  return ordered ++ toWhom

def readPath (site : Site) : Scan ScriptFailure String := do
  let path ← u32
  Scan.find (.path path)
  let a ← u8
  let b ← u8
  let c ← u16
  let head := s!" path: {hexOffset path.toNat}, values: {a}, {b}, {c}"
  let tag ← u8
  match tag.toNat with
  | 0 =>
    let position ← point
    return head ++ s!", point: {position.plain}"
  | 1 => return head
  | _ => site.refuse tag

def readPartBranch : Scan DataError String := do
  let first ← countedText
  let name ← if first.isEmpty then countedText else pure first
  let branch ← branchOperand
  return s!" \"{name}\" {branch.plain}"

def readReinforcement (site : Site) : Scan DataError String := do
  let tag ← u8
  let whereTo ←
    if tag = 0 then
      let index ← u8
      pure s!" point {index}"
    else
      let s ← quotedText
      pure s!" {s}"
  let name ← countedText
  let init ← u32
  find (.script name init site.name)
  return whereTo ++ s!", \"{name}\", init {hexOffset init.toNat}"

def readRadius : Scan DataError String := do
  let tag ← peek u8
  if tag = 0xff then
    skip 1
    let target ← single
    let speed ← single
    return s!" {target.plain} at speed {speed.plain}"
  else
    let operand ← OperandKind.quantity.read
    return s!" {operand.plain}"

def readSound : Scan DataError String := do
  let kind ← u8
  let origin ←
    if kind &&& 0x10 ≠ 0 then
      let position ← point
      pure s!" at {position.plain}"
    else if kind &&& 0x20 ≠ 0 then
      let index ← u8
      pure s!" at point {index}"
    else if kind &&& 0x40 ≠ 0 then
      let delta ← point
      pure s!" offset {delta.plain}"
    else pure ""
  let name ← quotedText
  return origin ++ s!" {name}"

/-- One target of a weighted list. -/
def readWeighted : Scan DataError String := do
  let weight ← u8
  let target ← blockTarget
  return s!"{weight}: {hexOffset target.toNat}"

def readWeightedJumps : Scan DataError String := do
  let count ← u8
  let targets ← times readWeighted count.toNat
  return if targets.isEmpty then "" else " " ++ ", ".intercalate targets

def readTouchDamage : Scan DataError String := do
  let kind ← u8
  let damage ← u16
  let flags ← u8
  let rest ← slice 3
  let bytes := "[" ++ ", ".intercalate (rest.toList.map hexByte) ++ "]"
  let head := s!" {kind}, damage {damage}, flags {hexMarked flags.toNat}, {bytes}"
  if flags &&& 2 ≠ 0 then
    let target ← blockTarget
    return head ++ s!", target {hexOffset target.toNat}"
  else return head

def readProjectile (site : Site) : Scan ScriptFailure String := do
  let kind ← u8
  let origin ← match kind.toNat with
    | 0 => pure ""
    | 1 | 2 => do
      let position ← point
      pure s!" from {position.plain}"
    | _ => site.refuse kind
  let velocity ← point
  let name ← countedText
  let init ← u32
  Scan.find (.script name init site.name)
  return origin ++ s!" velocity {velocity.plain}, \"{name}\", init {hexOffset init.toNat}"

def readTeleport : Scan DataError String := do
  let first ← countedText
  if first.isEmpty then
    let name ← countedText
    let delta ← point
    let angle ← single
    return s!" \"{name}\" offset {delta.plain}, angle {angle.plain}"
  else return s!" \"{first}\""

def readBlast : Scan DataError String := do
  let whereTo ← place
  let radius ← single
  let damage ← single
  let force ← single
  let extra ← u8
  return whereTo ++
    s!", radius {radius.plain}, damage {damage.plain}, force {force.plain}, {extra}"

def readArenaState : Scan DataError String := do
  let kind ← u8
  match kind.toNat with
  | 1 =>
    let index ← u8
    let a ← single
    let b ← single
    let n ← i32
    return s!" {index}: {a.plain}, {b.plain}, {n}"
  | 0 =>
    let index ← u8
    let word ← u32
    return s!" {index}: {hexOffset word.toNat}"
  | n => return s!" kind {n}"

def readBuddy : Scan DataError String := do
  let width ← u8
  if width = 0 then
    let index ← u8
    let laterWidth ← u8
    let name ← text laterWidth.toNat
    return s!" index {index} \"{name}\""
  else
    let name ← text width.toNat
    return s!" \"{name}\""

def readPartBox : Scan DataError String := do
  let index ← u8
  let part ←
    if index = 0xff then
      let name ← quotedText
      pure s!" {name}"
    else pure s!" part {index}"
  let tag ← u8
  let bounds ← if tag = 2 then singles 4 else singles 6
  let branch ← branchOperand
  return part ++ bounds ++ s!" {branch.plain}"

/-- Reads the operands of a layout and gives their text. -/
def read (site : Site) : OperandLayout → Scan ScriptFailure String
  | path => readPath site
  | order => readOrder site
  | jumps => do
    let count ← u8
    let targets ← blockTargets count.toNat
    return s!" {targets}"
  | parts => do
    let count ← u8
    let names ← times countedText count.toNat
    return s!" {quoteList names}"
  | partBranch => readPartBranch
  | reinforcement => readReinforcement site
  | radius => readRadius
  | sound => readSound
  | weightedJumps => readWeightedJumps
  | blowParts => do
    let kind ← u8
    let count ← u8
    let names ← times countedText count.toNat
    return s!" {kind} {quoteList names}"
  | bubble => do
    let chance ← u8
    let index ← u8
    if index = 0xff then
      let position ← point
      return s!" {chance} at {position.plain}"
    else return s!" {chance} at point {index}"
  | touchDamage => readTouchDamage
  | projectile => readProjectile site
  | dataFields => do
    let code ← u8
    if code = 0 then return s!" {code}"
    else
      let fields ← singles 4
      return s!" {code}{fields}"
  | explosion => do
    let whereTo ← place
    let size ← single
    return whereTo ++ s!", size {size.plain}"
  | teleport => readTeleport
  | blast => readBlast
  | teleportOffset => do
    let tag ← u8
    if tag = 0 then return ""
    else
      let delta ← point
      return s!" offset {delta.plain}"
  | arenaState => readArenaState
  | callByVariable => do
    let scope ← u8
    let index ← u8
    let count ← u8
    let targets ← blockTargets count.toNat
    return s!" {variableText (Scope.nameOfTag scope) index.toNat} {targets}"
  | chase => do
    let kind ← u8
    if kind = 0 then
      let speed ← single
      let cap ← single
      return s!" speed {speed.plain}, cap {cap.plain}"
    else if kind = 1 then
      let speed ← single
      return s!" speed {speed.plain}"
    else return ""
  | facing => do
    let code ← u8
    if code = 3 then
      let name ← quotedText
      return s!" {code} {name}"
    else return s!" {code}"
  | camera => do
    let tag ← u8
    if tag = 1 then
      let x ← single
      return s!" {x.plain}"
    else return ""
  | sliding => do
    let tag ← u8
    if tag = 0 then return "" else singles 2
  | matrix => do
    let tag ← u8
    if tag = 0 then return "" else singles 12
  | buddy => readBuddy
  | slidingRates => do
    let kind ← u8
    let a ← single
    let b ← single
    if kind = 0 then
      let c ← single
      return s!" {kind}: {a.plain}, {b.plain}, {c.plain}"
    else return s!" {kind}: {a.plain}, {b.plain}"
  | soundBranch => do
    let named ← u8
    let branch ← branchOperand
    if named = 1 then
      let name ← quotedText
      return s!" {name} {branch.plain}"
    else return s!" {branch.plain}"
  | partBox => readPartBox

end OperandLayout

end LevelScript
