import LevelScript.Bytes
import LevelScript.Error
import LevelScript.Number.Layout
import LevelScript.Point
import LevelScript.Reference

/-!
Reading a buffer.

A scan reads a buffer from a cursor.  The cursor outlives a failure: where the scan stopped, which
bytes it touched and what it came across stay known.  A read that reaches past the end of the
buffer fails, moves nothing and touches nothing; a read whose bytes are there but mean nothing has
moved the cursor and touched them.
-/

namespace LevelScript

/-- Where a scan stands and what it leaves behind. -/
structure Cursor where
  pos : Nat
  /-- The spans that were read, the latest first. -/
  reads : List Span
  /-- What the instruction under the cursor referred to, in order. -/
  finds : List Reference
deriving Inhabited

namespace Cursor

/-- A cursor that has read nothing yet. -/
def start (pos : Nat) : Cursor :=
  ⟨pos, [], []⟩

/-- Steps over `count` bytes, which counts as reading them. -/
def advance (c : Cursor) (count : Nat) : Cursor :=
  { c with pos := c.pos + count, reads := ⟨c.pos, c.pos + count⟩ :: c.reads }

def remaining (c : Cursor) (bytes : Bytes) : Nat :=
  bytes.size - c.pos

end Cursor

/-- A reading of a buffer that gives an `α` or fails with an `ε`, and moves a cursor either way. -/
def Scan (ε α : Type) : Type :=
  Bytes → Cursor → Except ε α × Cursor

namespace Scan

variable {ε α β : Type}

def run (scan : Scan ε α) (bytes : Bytes) (c : Cursor) : Except ε α × Cursor :=
  scan bytes c

/-- Runs a scan from a position with a fresh cursor and keeps only its result. -/
def eval (scan : Scan ε α) (bytes : Bytes) (pos : Nat) : Except ε α :=
  (scan bytes (.start pos)).1

protected def pure (a : α) : Scan ε α :=
  fun _ c => (.ok a, c)

protected def bind (scan : Scan ε α) (next : α → Scan ε β) : Scan ε β :=
  fun bytes c =>
    match scan bytes c with
    | (.ok a, c') => next a bytes c'
    | (.error e, c') => (.error e, c')

instance : Monad (Scan ε) where
  pure := Scan.pure
  bind := Scan.bind

def fail (e : ε) : Scan ε α :=
  fun _ c => (.error e, c)

/-- Goes on with another scan after a failure, from where the failure left the cursor. -/
def orElse (scan : Scan ε α) (other : Scan ε α) : Scan ε α :=
  fun bytes c =>
    match scan bytes c with
    | (.ok a, c') => (.ok a, c')
    | (.error _, c') => other bytes c'

/-- Failures of the data as failures of the script. -/
def forScript (scan : Scan DataError α) : Scan ScriptFailure α :=
  fun bytes c =>
    match scan bytes c with
    | (.ok a, c') => (.ok a, c')
    | (.error e, c') => (.error (.format e), c')

instance : MonadLift (Scan DataError) (Scan ScriptFailure) := ⟨forScript⟩

/-! ### The cursor -/

def pos : Scan ε Nat :=
  fun _ c => (.ok c.pos, c)

def seek (target : Nat) : Scan ε Unit :=
  fun _ c => (.ok (), { c with pos := target })

/-- Reads elsewhere and comes back, also after a failure. -/
def visit (target : Nat) (scan : Scan ε α) : Scan ε α :=
  fun bytes c =>
    let (result, c') := scan bytes { c with pos := target }
    (result, { c' with pos := c.pos })

/-- Reads without moving. -/
def peek (scan : Scan ε α) : Scan ε α :=
  fun bytes c => visit c.pos scan bytes c

/-- Notes something that the instruction refers to. -/
def find (reference : Reference) : Scan ε Unit :=
  fun _ c => (.ok (), { c with finds := c.finds ++ [reference] })

/-- Runs a scan a number of times. -/
def times (scan : Scan ε α) : Nat → Scan ε (List α)
  | 0 => pure []
  | count + 1 => do
    let first ← scan
    let rest ← times scan count
    return first :: rest

/-! ### Bytes and numbers -/

/-- The next `count` bytes. -/
def slice (count : Nat) : Scan DataError Bytes :=
  fun bytes c =>
    if c.pos + count ≤ bytes.size then
      (.ok (bytes.extract c.pos (c.pos + count)), c.advance count)
    else
      (.error (.outOfBounds c.pos count bytes.size), c)

def skip (count : Nat) : Scan DataError Unit := do
  let _ ← slice count

/-- An unsigned number of `count` bytes. -/
def unsigned (count : Nat) : Scan DataError Nat := do
  return littleEndian (← slice count).toList

def u8 : Scan DataError UInt8 := do
  return UInt8.ofNat (← unsigned 1)

def u16 : Scan DataError UInt16 := do
  return UInt16.ofNat (← unsigned 2)

def u32 : Scan DataError UInt32 := do
  return UInt32.ofNat (← unsigned 4)

def i8 : Scan DataError Int8 := do
  return (← u8).toInt8

def i16 : Scan DataError Int16 := do
  return (← u16).toInt16

def i32 : Scan DataError Int32 := do
  return (← u32).toInt32

/-- A float of any bit pattern. -/
def rawSingle : Scan DataError Single := do
  return ⟨← u32⟩

/-- A float that level data may hold. -/
def single : Scan DataError Single := do
  let offset ← pos
  let x ← rawSingle
  if x.isPlausible then return x
  else fail (.invalidValue offset x.exact)

def point : Scan DataError Point := do
  let x ← single
  let y ← single
  let z ← single
  return ⟨x, y, z⟩

/-! ### Texts -/

/-- The longest text that level data may hold. -/
def textLimit : Nat := 100

/-- A text in a field of `count` bytes. -/
def text (count : Nat) : Scan DataError String := do
  let offset ← pos
  if count > textLimit then fail (.invalidString offset)
  else
    let field ← slice count
    match paddedText? field.toList with
    | some s => return s
    | none => fail (.invalidString offset)

/-- A text after a byte that gives the width of its field. -/
def countedText : Scan DataError String := do
  text (← u8).toNat

end Scan

end LevelScript
