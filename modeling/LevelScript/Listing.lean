import LevelScript.Instruction
import LevelScript.SortedList

/-!
Listings of scripts.

Running a script visits only the path that it takes.  A listing instead walks every block that a
script can branch to, block by block in the order in which they turn up, and collects the scripts,
animations and paths that its instructions refer to.
-/

namespace LevelScript

/-- A script that an instruction starts on an actor. -/
structure Call where
  offset : UInt32
  /-- The actor on which the called script runs. -/
  name : String
  reason : String
deriving DecidableEq, Repr, Inhabited

/-- Calls are ordered by offset, name and reason. -/
def Call.lt (a b : Call) : Bool :=
  lexLt offsetLt a.offset b.offset (lexLt textLt a.name b.name (textLt a.reason b.reason))

/-- One script with every block that it can reach. -/
structure Listing where
  offset : UInt32
  text : String
  /-- The entry first, then the other blocks as they were discovered. -/
  blocks : Array UInt32
  calls : List Call
  animations : List Animation
  paths : List UInt32
deriving DecidableEq, Repr, Inhabited

namespace Scan

/-- Notes several things. -/
def findAll {ε : Type} : List Reference → Scan ε Unit
  | [] => pure ()
  | reference :: rest => do
    find reference
    findAll rest

end Scan

/-! ### Instructions -/

/-- The data of the first operand that is made of bytes. -/
def firstBytes? (operands : List Operand) : Option Bytes :=
  operands.findSome? fun
    | .bytes data => some data
    | _ => none

/-- The first text among operands. -/
def firstText? (operands : List Operand) : Option String :=
  operands.findSome? fun
    | .text s => some s
    | _ => none

/-- The word at the start of the last operand. -/
def lastWord? (operands : List Operand) : Option UInt32 :=
  match operands.getLast? with
  | some (.bytes data) => wordAt? data 0
  | _ => none

/-- The opcodes that start a script on an actor they spawn: the first text names the actor, the
last word is its script. -/
def spawnOpcodes : List UInt8 :=
  [0x1d, 0x56, 0x71, 0x95, 0x9c, 0xa1, 0xb3, 0xce, 0xe6]

/-- The script that a spawn starts. -/
def spawnReference? (site : Site) (operands : List Operand) : Option Reference :=
  if spawnOpcodes.contains site.opcode then
    match firstText? operands, lastWord? operands with
    | some name, some offset => some (.script name offset site.name)
    | _, _ => none
  else none

/-- The path or block that the first bytes of an operand point to. -/
def wordReference? (site : Site) (operands : List Operand) : Option Reference := do
  let data ← firstBytes? operands
  match site.opcode.toNat with
  | 0x1c | 0xce => (wordAt? data 0).map .path
  | 0x4c => (wordAt? data 0).map .block
  | 0x63 => (wordAt? data 2).map .block
  | _ => none

/-- What the operands of an instruction refer to. -/
def operandReferences (site : Site) (operands : List Operand) : List Reference :=
  operands.flatMap (fun operand => operand.blocks.map .block) ++
    (wordReference? site operands).toList ++ (spawnReference? site operands).toList

/-- Lists one instruction; gives nothing if its operands cannot be stepped over. -/
def Site.list (site : Site) : Scan ScriptFailure (Option String) :=
  match site.opcode.toNat with
  | 0x03 | 0x3b => do
    let anim ← Scan.animation
    Scan.find (.animation anim)
    return some s!" {anim.plain}"
  | 0x96 => do
    let opening ← Scan.animation
    let closing ← Scan.animation
    Scan.find (.animation opening)
    Scan.find (.animation closing)
    return some s!" open: {opening.plain}, close: {closing.plain}"
  | _ => do
    let decoded ← site.decode
    match decoded with
    | .operands values => Scan.findAll (operandReferences site values)
    | _ => pure ()
    return decoded.text?

/-! ### Blocks -/

namespace Listing

/-- A listing of which nothing is written yet. -/
def start (offset : UInt32) : Listing :=
  ⟨offset, "", #[offset], [], [], []⟩

def write (listing : Listing) (text : String) : Listing :=
  { listing with text := listing.text ++ text }

/-- Takes a reference over; offset zero stands for no block and no script. -/
def note (listing : Listing) : Reference → Listing
  | .block offset =>
    if offset = 0 ∨ listing.blocks.contains offset then listing
    else { listing with blocks := listing.blocks.push offset }
  | .script name offset reason =>
    if offset = 0 then listing
    else { listing with calls := sortedInsert Call.lt ⟨offset, name, reason⟩ listing.calls }
  | .animation anim =>
    { listing with animations := sortedInsert Animation.lt anim listing.animations }
  | .path offset => { listing with paths := sortedInsert offsetLt offset listing.paths }

/-- Lists instructions from the cursor to the end of the block, at most `fuel` of them.  Every
instruction takes at least a byte, so as much fuel as there are bytes is always enough. -/
def block (bytes : Bytes) : Nat → Cursor → Listing → Listing × Cursor
  | 0, c, listing => (listing, c)
  | fuel + 1, c, listing =>
    match Scan.u8.run bytes c with
    | (.error error, c') => (listing.write (error.message ++ "\n"), c')
    | (.ok opcode, c') =>
      if opcode = 0xff then (listing, c')
      else
        let site := Site.at opcode c.pos
        match site.list.run bytes { c' with finds := [] } with
        | (.ok (some text), c'') =>
          block bytes fuel c''
            ((c''.finds.foldl note listing).write (site.header ++ text ++ "\n"))
        | (.ok none, c'') =>
          ((c''.finds.foldl note listing).write
            (site.header ++ " not modeled, listing stops here\n"), c'')
        | (.error error, c'') =>
          ((c''.finds.foldl note listing).write (site.header ++ " " ++ error.message ++ "\n"), c'')

/-- What a block is called, by its place in the order of discovery. -/
def blockName (index : Nat) : String :=
  if index = 0 then "main" else s!"block_{index}"

/-- Lists the blocks from an index on, also those that turn up on the way, at most `fuel` of them.
Each block but the entry is a word of the buffer, which bounds their number. -/
def walk (bytes : Bytes) : Nat → Nat → Listing → List Span → Listing × List Span
  | 0, _, listing, reads => (listing, reads)
  | fuel + 1, index, listing, reads =>
    match listing.blocks[index]? with
    | none => (listing, reads)
    | some offset =>
      let opened := listing.write s!"{blockName index} (offset {hexOffset offset.toNat})\n"
      let (listed, c) := block bytes (bytes.size + 1) ⟨offset.toNat, reads, []⟩ opened
      walk bytes fuel (index + 1) (listed.write s!"(end offset {hexOffset c.pos})\n\n") c.reads

/-- Lists the script at an offset, and which bytes that read. -/
def explore (bytes : Bytes) (offset : UInt32) : Listing × List Span :=
  walk bytes (bytes.size + 2) 0 (start offset) []

/-- Lists the script at an offset. -/
def parse (bytes : Bytes) (offset : UInt32) : Listing :=
  (explore bytes offset).1

end Listing

end LevelScript
