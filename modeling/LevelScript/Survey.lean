import LevelScript.Scan
import LevelScript.Text.Quoted

/-!
The survey of a level's world (DTI): where the player starts, and for each arena its zones, placed
actors and teleports.
-/

namespace LevelScript

/-- An actor that the world data place. -/
structure Placement where
  arena : String
  name : String
  id : Int32
  position : Point
  value : Int32
deriving DecidableEq, Repr, Inhabited

namespace Placement

/-- What the container's table calls the placed actor within its arena. -/
def localKey (p : Placement) : String :=
  s!"{p.name}_{p.id}"

/-- The key of the placed actor's script in the container's table. -/
def tableKey (p : Placement) : String :=
  s!"{p.arena}${p.localKey}"

end Placement

/-- What a survey record marks. -/
inductive Feature
  | showZone
  | generator (name : String) (value : Int32)
  | activateZone
  | pickup (name : String)
  | hidingSpot
  | connectZone (value : Int32)
  | fan
  | jumpPoint
  | slide
deriving DecidableEq, Repr, Inhabited

def Feature.plain : Feature → String
  | showZone => "ArenaShowZone"
  | generator name value => s!"Hotgen \x7b name: {quote name}, value: {value} \x7d"
  | activateZone => "ArenaActivateZone"
  | pickup name => s!"Hotpick({quote name})"
  | hidingSpot => "HidingSpot"
  | connectZone value => s!"ArenaConnectZone({value})"
  | fan => "Fan"
  | jumpPoint => "JumpPoint"
  | slide => "Slidething"

/-- A record of the survey: a feature and the box that it fills. -/
structure SurveyRecord where
  id : Int32
  low : Point
  high : Point
  feature : Feature
deriving DecidableEq, Repr, Inhabited

structure Teleport where
  index : Int32
  position : Point
  angle : Single
deriving DecidableEq, Repr, Inhabited

structure SurveyArena where
  name : String
  number : Single
  records : List SurveyRecord
  teleports : List Teleport
deriving DecidableEq, Repr, Inhabited

/-- A decoded survey. -/
structure Survey where
  filename : String
  start : Point
  startAngle : Single
  arenas : List SurveyArena
deriving DecidableEq, Repr, Inhabited

namespace Survey

open Scan

/-- The feature of a record that has a box, by its kind. -/
def boxFeature? (kind value : Int32) : Option Feature :=
  match kind.toInt with
  | 1 => some .showZone
  | 3 => some .activateZone
  | 5 => some .hidingSpot
  | 6 => some (.connectZone value)
  | 7 => some .fan
  | 8 => some .jumpPoint
  | 9 => some .slide
  | _ => none

def readRecord : Scan DataError SurveyRecord := do
  let offset ← pos
  let kind ← i32
  let id ← i32
  let value ← i32
  let low ← point
  if kind = 2 then
    let name ← text 12
    return ⟨id, low, low, .generator name value⟩
  else if kind = 4 then
    let name ← text 12
    return ⟨id, low, low, .pickup name⟩
  else
    let high ← point
    match boxFeature? kind value with
    | some feature => return ⟨id, low, if high.isZero then low else high, feature⟩
    | none => fail (.invalidValue offset (toString kind))

/-- A count and so many records. -/
def readRecords : Scan DataError (List SurveyRecord) := do
  let count ← u32
  times readRecord count.toNat

/-- An arena without its teleports, which stand in a table of their own. -/
def readArena : Scan DataError SurveyArena := do
  let name ← text 8
  let offset ← u32
  let number ← single
  let records ← visit offset.toNat readRecords
  return ⟨name, number, records, []⟩

/-- A teleport and the index of its arena, which must be below `arenas`. -/
def readTeleport (arenas : Nat) : Scan DataError (Nat × Teleport) := do
  let index ← i32
  let offset ← pos
  let arena ← i32
  let position ← point
  let angle ← single
  if 0 ≤ arena.toInt ∧ arena.toInt < arenas then
    return (arena.toInt.toNat, ⟨index, position, angle⟩)
  else fail (.invalidValue offset (toString arena))

/-- Gives each arena the teleports that name it, in order. -/
def assign (arenas : List SurveyArena) (teleports : List (Nat × Teleport)) : List SurveyArena :=
  arenas.mapIdx fun index arena =>
    { arena with teleports := (teleports.filter (·.1 == index)).map (·.2) }

/-- The body of a survey file of `size` bytes. -/
def readBody (size : Nat) : Scan DataError Survey := do
  let filename ← text 12
  let fileSize ← u32
  if fileSize.toNat + 12 ≠ size then fail (.invalidValue 12 (toString fileSize))
  else
    let startOffset ← u32
    let teleportOffset ← u32
    let arenaOffset ← u32
    seek startOffset.toNat
    let startArena ← u32
    if startArena ≠ 0 then fail (.invalidValue startOffset.toNat (toString startArena))
    else
      let start ← point
      let startAngle ← single
      seek arenaOffset.toNat
      let arenaCount ← u32
      let arenas ← times readArena arenaCount.toNat
      seek teleportOffset.toNat
      let teleportCount ← u32
      let teleports ← times (readTeleport arenas.length) teleportCount.toNat
      return ⟨filename, start, startAngle, assign arenas teleports⟩

/-- Decodes a survey file.  Its offsets count from after the length field at its start. -/
def parse (bytes : Bytes) : Except DataError Survey :=
  if bytes.size < 4 then .error (.outOfBounds 0 4 bytes.size)
  else (readBody bytes.size).eval (bytes.extract 4 bytes.size) 0

/-- The placement of a record that marks an actor. -/
def placement? (arena : SurveyArena) (record : SurveyRecord) : Option Placement :=
  match record.feature with
  | .generator name value => some ⟨arena.name, name, record.id, record.low, value⟩
  | .pickup name => some ⟨arena.name, name, record.id, record.low, 0⟩
  | _ => none

/-- The actors that the survey places: generators and pickups, at the low end of their box. -/
def placements (survey : Survey) : List Placement :=
  survey.arenas.flatMap fun arena => arena.records.filterMap (placement? arena)

/-! ### Overview -/

/-- A text brought to a width by blanks in front. -/
def padLeft (width : Nat) (s : String) : String :=
  String.ofList (List.replicate (width - s.length) ' ') ++ s

def teleportLine (t : Teleport) : String :=
  s!"\t\tTeleport \x7b index: {t.index}, pos: {t.position.plain}, angle: {t.angle.exact} \x7d\n"

def recordLine (index : Nat) (record : SurveyRecord) : String :=
  let extent :=
    if record.low.sameNumbers record.high then s!"position: {record.low.plain}"
    else s!"bbox: [{record.low.plain}, {record.high.plain}]"
  s!"\t\t\t[{padLeft 3 (toString index)}] id: {padLeft 4 (toString record.id)}, " ++
    s!"kind: {record.feature.plain}, {extent}\n"

def arenaLines (index : Nat) (arena : SurveyArena) : String :=
  s!"\t[{index}] {arena.name}\n\t\tnum: {arena.number.plain}\n" ++
    String.join (arena.teleports.map teleportLine) ++
    s!"\t\tentities ({arena.records.length}):\n" ++
    String.join (arena.records.mapIdx recordLine)

/-- The survey as text. -/
def overview (survey : Survey) : String :=
  s!"name: {survey.filename}\nplayer start pos: {survey.start.plain}, " ++
    s!"angle: {survey.startAngle.plain}\n\narenas ({survey.arenas.length}):\n" ++
    String.join (survey.arenas.mapIdx arenaLines)

end Survey

end LevelScript
