import LevelScript.Json

/-!
Points of the level's space.
-/

namespace LevelScript

/-- A point or direction. -/
structure Point where
  x : Single
  y : Single
  z : Single
deriving DecidableEq, Repr, Inhabited

namespace Point

/-- The origin. -/
def origin : Point :=
  ⟨.zero, .zero, .zero⟩

def toList (p : Point) : List Single :=
  [p.x, p.y, p.z]

/-- Equality of coordinates as numbers. -/
def sameNumbers (p q : Point) : Bool :=
  p.x.sameNumber q.x && p.y.sameNumber q.y && p.z.sameNumber q.z

/-- Whether every coordinate is a zero of either sign. -/
def isZero (p : Point) : Bool :=
  p.sameNumbers origin

/-- The text that traces show. -/
def plain (p : Point) : String :=
  "(" ++ ", ".intercalate (p.toList.map Single.plain) ++ ")"

def json (p : Point) : Json :=
  .list (p.toList.map Json.single)

end Point

end LevelScript
