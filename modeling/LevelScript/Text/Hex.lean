/-!
Hexadecimal texts: offsets and opcodes are written in upper case, padded on the left with zeros.
-/

namespace LevelScript

/-- A number in upper-case hexadecimal, at least `width` digits wide. -/
def hex (width : Nat) (n : Nat) : String :=
  let digits := (Nat.toDigits 16 n).map Char.toUpper
  String.ofList (List.replicate (width - digits.length) '0' ++ digits)

/-- An offset: at least six digits. -/
def hexOffset (n : Nat) : String :=
  hex 6 n

/-- One byte: two digits. -/
def hexByte (b : UInt8) : String :=
  hex 2 b.toNat

/-- A word of flags, marked as hexadecimal. -/
def hexMarked (n : Nat) : String :=
  "0x" ++ hex 1 n

end LevelScript
