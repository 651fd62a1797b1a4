/-!
Byte buffers, spans of them, and little-endian words.
-/

namespace LevelScript

/-- A buffer. -/
abbrev Bytes := Array UInt8

/-- The positions from `start` up to but not including `stop`. -/
structure Span where
  start : Nat
  stop : Nat
deriving DecidableEq, Repr, Inhabited

/-- The number that bytes stand for, the lowest byte first. -/
def littleEndian : List UInt8 → Nat
  | [] => 0
  | b :: rest => b.toNat + 256 * littleEndian rest

/-- The lowest `count` bytes of a number, the lowest first. -/
def littleBytes : Nat → Nat → List UInt8
  | 0, _ => []
  | count + 1, n => UInt8.ofNat n :: littleBytes count (n / 256)

/-- A word as four bytes. -/
def wordBytes (w : UInt32) : List UInt8 :=
  littleBytes 4 w.toNat

/-- The four-byte word at a position, if the bytes reach that far. -/
def wordAt? (bytes : Bytes) (pos : Nat) : Option UInt32 :=
  if pos + 4 ≤ bytes.size then
    some (UInt32.ofNat (littleEndian (bytes.extract pos (pos + 4)).toList))
  else none

/-- The bytes that texts are made of: the printable ones of ASCII. -/
def isTextByte (b : UInt8) : Bool :=
  0x20 ≤ b && b ≤ 0x7e

/-- The text of a field that is padded with zero bytes: text bytes first, then only padding. -/
def paddedText? (field : List UInt8) : Option String :=
  let body := field.takeWhile (· != 0)
  let padding := field.dropWhile (· != 0)
  if padding.all (· == 0) && body.all isTextByte then
    some (String.ofList (body.map fun b => Char.ofNat b.toNat))
  else none

end LevelScript
