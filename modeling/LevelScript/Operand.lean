import LevelScript.Scan

/-!
Operands of instructions that are only decoded.

An operand has a kind, which fixes how it is laid out; reading one of that kind gives a value that
traces and listings write.
-/

namespace LevelScript

/-- How an operand is laid out. -/
inductive OperandKind
  /-- So many bytes without further meaning. -/
  | bytes (count : UInt8)
  /-- A byte that gives a width, and a text of that width. -/
  | text
  /-- A comparison byte and one number, or two for the range comparisons 7 and 8. -/
  | compare
  /-- A branch byte and two, one or no block offsets. -/
  | branch
  /-- A scope byte and a slot index, or for scope 3 a number. -/
  | quantity
deriving DecidableEq, Repr, Inhabited

/-- An operand that was read. -/
inductive Operand
  | bytes (data : Bytes)
  | text (s : String)
  | compare (kind : UInt8) (low high : Single)
  | branch (code : UInt8) (first second : UInt32)
  | slot (scope index : UInt8)
  | immediate (x : Single)
deriving DecidableEq, Repr, Inhabited

/-- Whether a comparison has a second number. -/
def isRangeComparison (kind : UInt8) : Bool :=
  kind == 7 || kind == 8

/-- How many block offsets follow a branch byte. -/
def branchWidth (code : UInt8) : Nat :=
  if code = 0xfe then 2 else if code = 0xfc ∨ code = 0x0c then 1 else 0

namespace OperandKind

def read : OperandKind → Scan DataError Operand
  | bytes count => do
    let data ← Scan.slice count.toNat
    return .bytes data
  | text => do
    let s ← Scan.countedText
    return .text s
  | compare => do
    let kind ← Scan.u8
    let low ← Scan.rawSingle
    if isRangeComparison kind then
      let high ← Scan.rawSingle
      return .compare kind low high
    else return .compare kind low .zero
  | branch => do
    let code ← Scan.u8
    match branchWidth code with
    | 0 => return .branch code 0 0
    | 1 =>
      let first ← Scan.u32
      return .branch code first 0
    | _ =>
      let first ← Scan.u32
      let second ← Scan.u32
      return .branch code first second
  | quantity => do
    let scope ← Scan.u8
    if scope = 3 then
      let x ← Scan.rawSingle
      return .immediate x
    else
      let index ← Scan.u8
      return .slot scope index

/-- Reads operands of the given kinds one after the other. -/
def readAll : List OperandKind → Scan DataError (List Operand)
  | [] => pure []
  | kind :: rest => do
    let first ← kind.read
    let others ← readAll rest
    return first :: others

end OperandKind

namespace Operand

/-- A text in braces. -/
def braced (s : String) : String :=
  "\x7b " ++ s ++ " \x7d"

def plain : Operand → String
  | bytes data => "[" ++ " ".intercalate (data.toList.map hexByte) ++ "]"
  | text s => s!"\"{s}\""
  | compare kind low high =>
    match kind.toNat with
    | 1 | 3 => s!"(value < {low.plain})"
    | 2 | 4 => s!"({low.plain} < value)"
    | 5 | 6 => s!"(value == {low.plain})"
    | 7 => s!"({low.plain} <= value <= {high.plain})"
    | 8 => s!"({low.plain} </= value </= {high.plain})"
    | n => s!"(unknown comparison {n}, {low.plain})"
  | branch code first second =>
    match code.toNat with
    | 0 => "(none)"
    | 0xfe =>
      braced s!"call {hexOffset first.toNat}" ++ " else " ++ braced s!"call {hexOffset second.toNat}"
    | 0xfc => braced s!"call {hexOffset first.toNat}"
    | 0xfd => braced "return"
    | 0x0c => braced s!"goto {hexOffset first.toNat}"
    | _ => braced s!"unknown (code: {hexByte code})"
  | slot scope index => variableText (Scope.nameOfTag scope) index.toNat
  | immediate x => x.plain

/-- The blocks at which a branch can go on. -/
def blocks : Operand → List UInt32
  | branch code first second => [first, second].take (branchWidth code)
  | _ => []

/-- Operands after an instruction's header. -/
def listText (operands : List Operand) : String :=
  if operands.isEmpty then "" else " " ++ ", ".intercalate (operands.map plain)

end Operand

end LevelScript
