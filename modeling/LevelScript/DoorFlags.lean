import LevelScript.Text.Hex

/-!
Door flags: a word whose lowest four bits tell how far a door is open.
-/

namespace LevelScript

/-- The flag word of a door. -/
structure DoorFlags where
  bits : UInt32
deriving DecidableEq, Repr, Inhabited

namespace DoorFlags

/-- A door that is shut, as every door is at first. -/
def closed : DoorFlags :=
  ⟨0x8⟩

/-- The bits that tell how far the door is open. -/
def stateMask : UInt32 := 0xf

/-- The flags that have a name, from the lowest bit on. -/
def names : List (UInt32 × String) :=
  [(0x1, "OPEN"), (0x2, "OPENING"), (0x4, "CLOSING"), (0x8, "CLOSED"), (0x10, "HIDE_WHEN_OPEN"),
    (0x20, "STAY_OPEN"), (0x40, "LOCKED"), (0x80, "JUST_NUKED"), (0x100, "HIDE_LOCK")]

/-- The bits that have no name. -/
def nameless (flags : DoorFlags) : UInt32 :=
  names.foldl (fun rest flag => rest &&& ~~~flag.1) flags.bits

/-- The names of the flags that are set, what is left over, and the whole word. -/
def plain (flags : DoorFlags) : String :=
  let known := (names.filter fun flag => flags.bits &&& flag.1 == flag.1).map (·.2)
  let rest := flags.nameless
  let parts := if rest = 0 then known else known ++ [hexMarked rest.toNat]
  "|".intercalate parts ++ s!" ({hexMarked flags.bits.toNat})"

end DoorFlags

/-- How an instruction that sets door flags treats the flags the door has. -/
inductive DoorFlagPolicy
  /-- Overwrite every bit. -/
  | replace
  /-- Keep how far the door is open and replace the rest. -/
  | preserveState
deriving DecidableEq, Repr, Inhabited

namespace DoorFlagPolicy

def apply (policy : DoorFlagPolicy) (current : DoorFlags) (bits : UInt32) : DoorFlags :=
  match policy with
  | replace => ⟨bits⟩
  | preserveState =>
    ⟨(current.bits &&& DoorFlags.stateMask) ||| (bits &&& ~~~DoorFlags.stateMask)⟩

end DoorFlagPolicy

end LevelScript
