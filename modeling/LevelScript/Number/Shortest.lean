import LevelScript.Number.Single

/-!
The shortest decimal of a single.

A finite single is `m · 2^q`.  The reals that round to it form an interval around it; its ends
belong to it exactly when `m` is even.  Of the decimals in that interval the ones with the fewest
digits are taken, of those the nearest to the number, and a tie between two of them goes as the
caller says.  Everything is exact arithmetic on natural numbers.
-/

namespace LevelScript

/-- A positive decimal `digits · 10^exponent`. -/
structure Decimal where
  digits : Nat
  exponent : Int
deriving DecidableEq, Repr, Inhabited

/-- Which of two equally near decimals is written. -/
inductive Tie
  | up
  | toEven
deriving DecidableEq, Repr

namespace Single

/-- The leading bit of a mantissa, which patterns leave out. -/
def leadingBit : Nat := 0x800000

/-- Mantissa and exponent of a finite single without its sign: the number is `m · 2^q`. -/
def binary (x : Single) : Nat × Int :=
  let fraction : Nat := x.magnitude % leadingBit
  let exponent : Nat := x.magnitude / leadingBit
  if exponent = 0 then (fraction, -149) else (fraction + leadingBit, (exponent : Int) - 150)

/-- The interval of reals that round to a single, in quarters of `2^q`: its lower end, its upper
end, and whether the ends belong to it.  Below a power of two the neighbour is only half as far. -/
def roundingInterval (x : Single) : Nat × Nat × Bool :=
  let (m, q) := x.binary
  let below := if m = leadingBit ∧ q > -149 then 1 else 2
  (4 * m - below, 4 * m + 2, m % 2 = 0)

end Single

namespace Decimal

/-- A power of ten whose exponent is not negative; one for the others. -/
def tens (p : Int) : Nat :=
  Nat.pow 10 p.toNat

/-- A power of two whose exponent is not negative; one for the others. -/
def twos (e : Int) : Nat :=
  Nat.pow 2 e.toNat

/-- Compares `a · 10^p` with `b · 2^e`, each side cleared of negative exponents. -/
def compareBinary (a : Nat) (p : Int) (b : Nat) (e : Int) : Ordering :=
  compare (a * tens p * twos (-e)) (b * twos e * tens (-p))

/-- Whether `a · 10^p` rounds to the single. -/
def reads (x : Single) (a : Nat) (p : Int) : Bool :=
  let (low, high, closed) := x.roundingInterval
  let e := x.binary.2 - 2
  let aboveLow := compareBinary a p low e
  let belowHigh := compareBinary a p high e
  (aboveLow == .gt || (closed && aboveLow == .eq)) &&
    (belowHigh == .lt || (closed && belowHigh == .eq))

/-- The largest multiple of `10^p` that is at most the single, in units of `10^p`. -/
def floorOn (x : Single) (p : Int) : Nat :=
  let (m, q) := x.binary
  (m * twos q * tens (-p)) / (twos (-q) * tens p)

/-- Of the two grid points `a` and `a + 1` around the single, the one that is written: the only one
that reads back, the nearer one, or on a tie the one that the rule picks. -/
def pick (tie : Tie) (x : Single) (a : Nat) (p : Int) : Option Nat :=
  match reads x a p, reads x (a + 1) p with
  | false, false => none
  | true, false => some a
  | false, true => some (a + 1)
  | true, true =>
    let (m, q) := x.binary
    match compareBinary (2 * a + 1) p (2 * m) q with
    | .gt => some a
    | .lt => some (a + 1)
    | .eq =>
      match tie with
      | .up => some (a + 1)
      | .toEven => some (if a % 2 = 0 then a else a + 1)

/-- Searches finer and finer grids, `fuel` of them, for the first that has a point. -/
def searchFrom (tie : Tie) (x : Single) : Nat → Int → Decimal
  | 0, p => ⟨floorOn x p, p⟩
  | fuel + 1, p =>
    match pick tie x (floorOn x p) p with
    | some a => ⟨a, p⟩
    | none => searchFrom tie x fuel (p - 1)

/-- The shortest decimal of a positive finite single.  No single reaches `10^39`, and the finest
grid that is ever needed is `10^-53`. -/
def shortest (tie : Tie) (x : Single) : Decimal :=
  searchFrom tie x 100 39

end Decimal

end LevelScript
