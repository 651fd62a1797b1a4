/-!
Single-precision numbers.

Level files carry 32-bit floats, and a level may hold any bit pattern, also one that is no number.
A `Single` therefore is its bit pattern; equality of `Single`s is equality of patterns.  Arithmetic
and comparison are the IEEE-754 ones and go through `Float32`.
-/

namespace LevelScript

/-- A 32-bit float, held as its bit pattern. -/
structure Single where
  bits : UInt32
deriving DecidableEq, Repr, Inhabited

namespace Single

/-- The number that a pattern stands for. -/
def value (x : Single) : Float32 :=
  Float32.ofBits x.bits

def ofFloat32 (v : Float32) : Single :=
  ⟨v.toBits⟩

/-- Positive zero. -/
def zero : Single :=
  ⟨0⟩

def add (x y : Single) : Single :=
  ofFloat32 (x.value + y.value)

def sub (x y : Single) : Single :=
  ofFloat32 (x.value - y.value)

instance : Add Single := ⟨add⟩
instance : Sub Single := ⟨sub⟩

/-- The IEEE-754 order: false as soon as one side is no number. -/
def lt (x y : Single) : Bool :=
  x.value < y.value

def le (x y : Single) : Bool :=
  x.value ≤ y.value

/-- Equality of numbers: the two zeros are equal, and what is no number differs from everything. -/
def sameNumber (x y : Single) : Bool :=
  x.value == y.value

/-- The sign bit, which the negative zero has too. -/
def negative (x : Single) : Bool :=
  x.bits ≥ 0x80000000

/-- The pattern without its sign bit. -/
def magnitude (x : Single) : Nat :=
  (x.bits &&& 0x7fffffff).toNat

def isFinite (x : Single) : Bool :=
  x.magnitude < 0x7f800000

def isNaN (x : Single) : Bool :=
  x.magnitude > 0x7f800000

/-- The bit pattern of ten million. -/
def plausibleBound : Nat :=
  0x4b189680

/-- Level data hold moderate numbers only: finite, and at most ten million either way.  Patterns
without their sign bit are ordered as the numbers they stand for. -/
def isPlausible (x : Single) : Bool :=
  x.magnitude ≤ plausibleBound

/-- The single nearest to an integer. -/
def ofInt64 (n : Int64) : Single :=
  ofFloat32 n.toFloat32

/-- The single nearest to a double. -/
def ofDouble (v : Float) : Single :=
  ofFloat32 v.toFloat32

/-- The single of a small natural number. -/
def ofNat (n : Nat) : Single :=
  ofFloat32 (Float32.ofNat n)

end Single

end LevelScript
