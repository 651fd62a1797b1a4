import LevelScript.Proofs.Encoding
import LevelScript.Proofs.Singles
import LevelScript.Survey
import Mathlib.Data.List.Forall2

/-!
Surveys as bytes.

The header of a survey file says where the start of the player, the table of the arenas and the
table of the teleports stand, and the table of the arenas says where the records of each arena
stand.  What a file says is written down as a draft, and reading inverts the layout of drafts:
wherever the sections stand, the file is read as the survey that its draft means, with the
teleports sorted out among the arenas.
-/

namespace LevelScript

/-! ### Drafts -/

namespace Survey

/-- What records that fill a box mark. -/
inductive BoxKind
  | showZone
  | activateZone
  | hidingSpot
  | connectZone
  | fan
  | jumpPoint
  | slide
deriving DecidableEq, Repr, Inhabited

/-- What a record marks, with what the file has behind the low point for it. -/
inductive Mark
  | generator (name : String)
  | pickup (name : String)
  | box (kind : BoxKind) (high : Point)
deriving DecidableEq, Repr, Inhabited

/-- A record as the file has it. -/
structure DraftRecord where
  id : Int32
  value : Int32
  low : Point
  mark : Mark
deriving DecidableEq, Repr, Inhabited

/-- An arena as the file has it. -/
structure DraftArena where
  name : String
  number : Single
  records : List DraftRecord
deriving DecidableEq, Repr, Inhabited

/-- What a survey file says, the teleports with the indexes of their arenas. -/
structure Draft where
  filename : String
  start : Point
  startAngle : Single
  arenas : List DraftArena
  teleports : List (Nat × Teleport)
deriving DecidableEq, Repr, Inhabited

/-- Where the sections of a file stand, the records of each arena by themselves. -/
structure Places where
  start : UInt32
  teleports : UInt32
  arenas : UInt32
  records : List UInt32
deriving DecidableEq, Repr, Inhabited

/-! ### What drafts mean -/

def BoxKind.feature (value : Int32) : BoxKind → Feature
  | showZone => .showZone
  | activateZone => .activateZone
  | hidingSpot => .hidingSpot
  | connectZone => .connectZone value
  | fan => .fan
  | jumpPoint => .jumpPoint
  | slide => .slide

/-- A record marks a point, or a box whose high point may be left out. -/
def DraftRecord.record (draft : DraftRecord) : SurveyRecord :=
  match draft.mark with
  | .generator name => ⟨draft.id, draft.low, draft.low, .generator name draft.value⟩
  | .pickup name => ⟨draft.id, draft.low, draft.low, .pickup name⟩
  | .box kind high =>
    ⟨draft.id, draft.low, if high.isZero then draft.low else high, kind.feature draft.value⟩

/-- The teleports that name an arena. -/
def Draft.teleportsOf (draft : Draft) (index : Nat) : List Teleport :=
  (draft.teleports.filter (·.1 == index)).map (·.2)

def Draft.survey (draft : Draft) : Survey where
  filename := draft.filename
  start := draft.start
  startAngle := draft.startAngle
  arenas := draft.arenas.mapIdx fun index arena =>
    ⟨arena.name, arena.number, arena.records.map DraftRecord.record, draft.teleportsOf index⟩

/-- The actor that a record places in an arena: a generator with its value, a pickup without. -/
def DraftRecord.placement? (arena : String) (draft : DraftRecord) : Option Placement :=
  match draft.mark with
  | .generator name => some ⟨arena, name, draft.id, draft.low, draft.value⟩
  | .pickup name => some ⟨arena, name, draft.id, draft.low, 0⟩
  | .box .. => none

def Draft.placements (draft : Draft) : List Placement :=
  draft.arenas.flatMap fun arena => arena.records.filterMap (DraftRecord.placement? arena.name)

/-! ### The layout -/

def signedBytes (n : Int32) : List UInt8 :=
  wordBytes n.toUInt32

def pointBytes (p : Point) : List UInt8 :=
  wordBytes p.x.bits ++ (wordBytes p.y.bits ++ wordBytes p.z.bits)

def BoxKind.code : BoxKind → Int32
  | showZone => 1
  | activateZone => 3
  | hidingSpot => 5
  | connectZone => 6
  | fan => 7
  | jumpPoint => 8
  | slide => 9

def Mark.code : Mark → Int32
  | generator _ => 2
  | pickup _ => 4
  | box kind _ => kind.code

def Mark.bytes : Mark → List UInt8
  | generator name => paddedBytes 12 name
  | pickup name => paddedBytes 12 name
  | box _ high => pointBytes high

def DraftRecord.bytes (draft : DraftRecord) : List UInt8 :=
  signedBytes draft.mark.code ++ (signedBytes draft.id ++ (signedBytes draft.value ++
    (pointBytes draft.low ++ draft.mark.bytes)))

def DraftArena.recordsBytes (arena : DraftArena) : List UInt8 :=
  wordBytes (.ofNat arena.records.length) ++ arena.records.flatMap DraftRecord.bytes

/-- The table entry of an arena whose records stand at an offset. -/
def DraftArena.bytes (entry : DraftArena × UInt32) : List UInt8 :=
  paddedBytes 8 entry.1.name ++ (wordBytes entry.2 ++ wordBytes entry.1.number.bits)

def teleportBytes (teleport : Nat × Teleport) : List UInt8 :=
  signedBytes teleport.2.index ++ (signedBytes (.ofNat teleport.1) ++
    (pointBytes teleport.2.position ++ wordBytes teleport.2.angle.bits))

namespace Draft

def headBytes (draft : Draft) (fileSize : UInt32) (places : Places) : List UInt8 :=
  paddedBytes 12 draft.filename ++ (wordBytes fileSize ++
    (wordBytes places.start ++ (wordBytes places.teleports ++ wordBytes places.arenas)))

/-- The player starts in the first arena. -/
def startBytes (draft : Draft) : List UInt8 :=
  wordBytes 0 ++ (pointBytes draft.start ++ wordBytes draft.startAngle.bits)

def arenasBytes (draft : Draft) (offsets : List UInt32) : List UInt8 :=
  wordBytes (.ofNat draft.arenas.length) ++ (draft.arenas.zip offsets).flatMap DraftArena.bytes

def teleportsBytes (draft : Draft) : List UInt8 :=
  wordBytes (.ofNat draft.teleports.length) ++ draft.teleports.flatMap teleportBytes

/-- A file that holds the sections of a draft where it says they stand.  All offsets count from
behind the length field in front, and twelve bytes are not counted in the size. -/
structure LaidOut (draft : Draft) (places : Places) (bytes : Bytes) : Prop where
  head : ∃ fileSize : UInt32, fileSize.toNat + 12 = bytes.size ∧
    Holds bytes 4 (draft.headBytes fileSize places)
  start : Holds bytes (4 + places.start.toNat) draft.startBytes
  arenas : Holds bytes (4 + places.arenas.toNat) (draft.arenasBytes places.records)
  records : List.Forall₂
    (fun arena offset => Holds bytes (4 + offset.toNat) arena.recordsBytes)
    draft.arenas places.records
  teleports : Holds bytes (4 + places.teleports.toNat) draft.teleportsBytes

end Draft

end Survey

def Point.IsModerate (p : Point) : Prop :=
  p.x.IsModerate ∧ p.y.IsModerate ∧ p.z.IsModerate

instance : DecidablePred Point.IsModerate := fun p =>
  inferInstanceAs (Decidable (p.x.IsModerate ∧ p.y.IsModerate ∧ p.z.IsModerate))

namespace Survey

def Mark.Plain : Mark → Prop
  | generator name => IsPlain 12 name
  | pickup name => IsPlain 12 name
  | box _ high => high.IsModerate

/-- The texts of a draft fit into their fields, its numbers are moderate, and its teleports
name arenas. -/
structure Draft.Plain (draft : Draft) : Prop where
  filename : IsPlain 12 draft.filename
  start : draft.start.IsModerate
  startAngle : draft.startAngle.IsModerate
  arenas : ∀ arena ∈ draft.arenas, IsPlain 8 arena.name ∧ arena.number.IsModerate ∧
    ∀ record ∈ arena.records, record.low.IsModerate ∧ record.mark.Plain
  teleports : ∀ teleport ∈ draft.teleports, teleport.1 < draft.arenas.length ∧
    teleport.2.position.IsModerate ∧ teleport.2.angle.IsModerate

instance : DecidablePred Mark.Plain
  | .generator name => inferInstanceAs (Decidable (IsPlain 12 name))
  | .pickup name => inferInstanceAs (Decidable (IsPlain 12 name))
  | .box _ high => inferInstanceAs (Decidable high.IsModerate)

instance : DecidablePred Draft.Plain := fun draft =>
  decidable_of_iff
    ((IsPlain 12 draft.filename ∧ draft.start.IsModerate ∧ draft.startAngle.IsModerate) ∧
      (∀ arena ∈ draft.arenas, IsPlain 8 arena.name ∧ arena.number.IsModerate ∧
        ∀ record ∈ arena.records, record.low.IsModerate ∧ record.mark.Plain) ∧
      ∀ teleport ∈ draft.teleports, teleport.1 < draft.arenas.length ∧
        teleport.2.position.IsModerate ∧ teleport.2.angle.IsModerate)
    ⟨fun h => ⟨h.1.1, h.1.2.1, h.1.2.2, h.2.1, h.2.2⟩,
      fun h => ⟨⟨h.filename, h.start, h.startAngle⟩, h.arenas, h.teleports⟩⟩

end Survey

/-! ### Reading fields -/

/-- What stands behind the first bytes of a buffer stands in the rest of it. -/
theorem Holds.extract {bytes : Bytes} {count pos : Nat} {field : List UInt8}
    (h : Holds bytes (count + pos) field) : Holds (bytes.extract count bytes.size) pos field := by
  obtain ⟨before, after, hbytes, hpos⟩ := h
  refine ⟨before.drop count, after, ?_, by rw [List.length_drop]; omega⟩
  rw [Array.toList_extract, List.extract_eq_take_drop, ← Array.length_toList,
    ← List.length_drop, List.take_length, hbytes, List.drop_append_of_le_length (by omega)]

theorem Scan.Gives.seek {ε : Type} {bytes : Bytes} (pos target : Nat) :
    (Scan.seek target : Scan ε Unit).Gives bytes pos () target :=
  fun c _ => ⟨{ c with pos := target }, rfl, rfl⟩

namespace Scan.Decodes

variable {bytes : Bytes}

theorem i32 (n : Int32) : Scan.i32.Decodes bytes (Survey.signedBytes n) n := by
  have hword : Scan.i32.Decodes bytes (Survey.signedBytes n) n.toUInt32.toInt32 :=
    (u32 n.toUInt32).map UInt32.toInt32
  rwa [Int32.toInt32_toUInt32] at hword

theorem single {x : Single} (h : x.IsModerate) :
    Scan.single.Decodes bytes (wordBytes x.bits) x := by
  refine fromPos fun offset => ?_
  rw [← List.append_nil (wordBytes x.bits)]
  refine (rawSingle x).bind ?_
  rw [if_pos ((Single.isPlausible_iff x).mpr h)]
  exact pure x

theorem point {p : Point} (h : p.IsModerate) : Scan.point.Decodes bytes (Survey.pointBytes p) p :=
  (single h.1).bind ((single h.2.1).bind ((single h.2.2).map (Point.mk p.x p.y)))

end Scan.Decodes

/-- A table of items of eight bytes or more has fewer than a buffer of words' size could count. -/
theorem Holds.length_lt {ι : Type} {encode : ι → List UInt8} {items : List ι} {bytes : Bytes}
    {pos : Nat} {count : List UInt8} (h : Holds bytes pos (count ++ items.flatMap encode))
    (hwidth : ∀ item ∈ items, 8 ≤ (encode item).length) (hsize : bytes.size < 2 ^ 32 + 8) :
    items.length < 2 ^ 31 := by
  have hroom : 8 * items.length ≤ (items.flatMap encode).length := by
    clear h
    induction items with
    | nil => exact Nat.le_refl 0
    | cons item items ih =>
        have hitem := hwidth item List.mem_cons_self
        have hitems := ih fun other hother => hwidth other (List.mem_cons_of_mem item hother)
        rw [List.flatMap_cons, List.length_append, List.length_cons, Nat.mul_succ]
        omega
  have hfit := h.le_size
  rw [List.length_append] at hfit
  omega

@[simp]
theorem length_wordBytes (word : UInt32) : (wordBytes word).length = 4 :=
  length_littleBytes 4 word.toNat

namespace Survey

open Scan

variable {bytes : Bytes}

@[simp]
theorem length_signedBytes (n : Int32) : (signedBytes n).length = 4 :=
  length_wordBytes n.toUInt32

/-! ### Reading sections -/

theorem boxFeature?_code (kind : BoxKind) (value : Int32) :
    boxFeature? kind.code value = some (kind.feature value) := by
  cases kind <;> rfl

theorem BoxKind.code_ne (kind : BoxKind) : kind.code ≠ 2 ∧ kind.code ≠ 4 := by
  cases kind <;> decide

theorem decodes_readRecord {record : DraftRecord} (hlow : record.low.IsModerate)
    (hmark : record.mark.Plain) : readRecord.Decodes bytes record.bytes record.record := by
  refine Decodes.fromPos fun offset => ?_
  refine (Decodes.i32 record.mark.code).bind ((Decodes.i32 record.id).bind ?_)
  refine (Decodes.i32 record.value).bind ((Decodes.point hlow).bind ?_)
  obtain ⟨id, value, low, mark⟩ := record
  cases mark with
  | generator name =>
      exact (Decodes.text (by decide) hmark).map fun name =>
        SurveyRecord.mk id low low (.generator name value)
  | pickup name =>
      exact (Decodes.text (by decide) hmark).map fun name =>
        SurveyRecord.mk id low low (.pickup name)
  | box kind high =>
      obtain ⟨htwo, hfour⟩ := kind.code_ne
      simp only [Mark.code, htwo, hfour, ↓reduceIte, boxFeature?_code]
      exact (Decodes.point hmark).map fun high =>
        SurveyRecord.mk id low (if high.isZero then low else high) (kind.feature value)

theorem decodes_readRecords {arena : DraftArena}
    (hplain : ∀ record ∈ arena.records, record.low.IsModerate ∧ record.mark.Plain)
    (hlength : arena.records.length < 2 ^ 32) :
    readRecords.Decodes bytes arena.recordsBytes (arena.records.map DraftRecord.record) := by
  refine (Decodes.u32 (.ofNat arena.records.length)).bind ?_
  rw [UInt32.toNat_ofNat', Nat.mod_eq_of_lt hlength]
  exact Decodes.times DraftRecord.bytes DraftRecord.record arena.records fun record hrecord =>
    decodes_readRecord (hplain record hrecord).1 (hplain record hrecord).2

/-- An arena before the teleports are sorted out. -/
def DraftArena.bare (arena : DraftArena) : SurveyArena :=
  ⟨arena.name, arena.number, arena.records.map DraftRecord.record, []⟩

theorem decodes_readArena {arena : DraftArena} {offset : UInt32} (hname : IsPlain 8 arena.name)
    (hnumber : arena.number.IsModerate)
    (hplain : ∀ record ∈ arena.records, record.low.IsModerate ∧ record.mark.Plain)
    (hlength : arena.records.length < 2 ^ 32)
    (hrecords : Holds bytes offset.toNat arena.recordsBytes) :
    readArena.Decodes bytes (DraftArena.bytes (arena, offset)) arena.bare := by
  refine (Decodes.text (by decide) hname).bind ((Decodes.u32 offset).bind ?_)
  rw [← List.append_nil (wordBytes arena.number.bits)]
  refine (Decodes.single hnumber).bind ?_
  exact (Decodes.visit hrecords (decodes_readRecords hplain hlength)).map fun records =>
    SurveyArena.mk arena.name arena.number records []

theorem decodes_readTeleport {count : Nat} {teleport : Nat × Teleport}
    (hindex : teleport.1 < count) (hcount : count < 2 ^ 31)
    (hposition : teleport.2.position.IsModerate) (hangle : teleport.2.angle.IsModerate) :
    (readTeleport count).Decodes bytes (teleportBytes teleport) teleport := by
  have hint : (Int32.ofNat teleport.1).toInt = teleport.1 :=
    Int32.toInt_ofNat_of_lt (Nat.lt_trans hindex hcount)
  refine (Decodes.i32 teleport.2.index).bind (Decodes.fromPos fun offset => ?_)
  refine (Decodes.i32 (.ofNat teleport.1)).bind ((Decodes.point hposition).bind ?_)
  rw [← List.append_nil (wordBytes teleport.2.angle.bits)]
  refine (Decodes.single hangle).bind ?_
  rw [if_pos (by omega), hint]
  exact .pure _

theorem le_length_recordBytes (record : DraftRecord) : 8 ≤ record.bytes.length := by
  rw [DraftRecord.bytes, List.length_append, List.length_append, length_signedBytes,
    length_signedBytes]
  omega

theorem le_length_arenaBytes (entry : DraftArena × UInt32) :
    8 ≤ (DraftArena.bytes entry).length := by
  rw [DraftArena.bytes, List.length_append, List.length_append, length_wordBytes, length_wordBytes]
  omega

theorem le_length_teleportBytes (teleport : Nat × Teleport) :
    8 ≤ (teleportBytes teleport).length := by
  rw [teleportBytes, List.length_append, List.length_append, length_signedBytes,
    length_signedBytes]
  omega

/-- The table of the arenas, with their records, which it says where to find. -/
theorem decodes_readArenas {arenas : List DraftArena} {offsets : List UInt32}
    (hplain : ∀ arena ∈ arenas, IsPlain 8 arena.name ∧ arena.number.IsModerate ∧
      ∀ record ∈ arena.records, record.low.IsModerate ∧ record.mark.Plain)
    (hrecords : List.Forall₂ (fun arena offset => Holds bytes offset.toNat arena.recordsBytes)
      arenas offsets) (hsize : bytes.size < 2 ^ 32 + 8) :
    (times readArena arenas.length).Decodes bytes ((arenas.zip offsets).flatMap DraftArena.bytes)
      (arenas.map DraftArena.bare) := by
  obtain ⟨hlength, hzip⟩ := List.forall₂_iff_zip.mp hrecords
  have harenas : (times readArena (arenas.zip offsets).length).Decodes bytes
      ((arenas.zip offsets).flatMap DraftArena.bytes)
      ((arenas.zip offsets).map (DraftArena.bare ∘ Prod.fst)) := by
    refine Decodes.times DraftArena.bytes _ (arenas.zip offsets) ?_
    rintro ⟨arena, offset⟩ hentry
    obtain ⟨hname, hnumber, hmarks⟩ := hplain arena (List.of_mem_zip hentry).1
    have hcount := (hzip hentry).length_lt (fun record _ => le_length_recordBytes record) hsize
    exact decodes_readArena hname hnumber hmarks (by omega) (hzip hentry)
  rw [List.length_zip, ← hlength, Nat.min_self, ← List.map_map,
    List.map_fst_zip (Nat.le_of_eq hlength)] at harenas
  exact harenas

theorem decodes_readTeleports {teleports : List (Nat × Teleport)} {count : Nat}
    (hplain : ∀ teleport ∈ teleports, teleport.1 < count ∧
      teleport.2.position.IsModerate ∧ teleport.2.angle.IsModerate) (hcount : count < 2 ^ 31) :
    (times (readTeleport count) teleports.length).Decodes bytes
      (teleports.flatMap teleportBytes) teleports := by
  have hteleports : (times (readTeleport count) teleports.length).Decodes bytes
      (teleports.flatMap teleportBytes) (teleports.map id) := by
    refine Decodes.times teleportBytes id teleports fun teleport hteleport => ?_
    obtain ⟨hindex, hposition, hangle⟩ := hplain teleport hteleport
    exact decodes_readTeleport hindex hcount hposition hangle
  rwa [List.map_id] at hteleports

/-! ### Reading surveys -/

/-- Every arena gets the teleports that name it. -/
theorem assign_bare (draft : Draft) :
    assign (draft.arenas.map DraftArena.bare) draft.teleports = draft.survey.arenas := by
  apply List.ext_getElem?
  intro i
  simp [assign, Draft.survey, DraftArena.bare, Draft.teleportsOf, Function.comp_def]

theorem placement?_record (arena : SurveyArena) (draft : DraftRecord) :
    placement? arena draft.record = draft.placement? arena.name := by
  obtain ⟨id, value, low, mark⟩ := draft
  cases mark with
  | generator name => rfl
  | pickup name => rfl
  | box kind high => cases kind <;> rfl

theorem placements_survey (draft : Draft) : draft.survey.placements = draft.placements := by
  have hfst : draft.arenas = draft.arenas.zipIdx.map Prod.fst := by simp
  rw [Draft.placements, hfst, List.flatMap_map, placements, Draft.survey, List.mapIdx_eq_zipIdx_map,
    List.flatMap_map]
  apply List.flatMap_congr
  rintro ⟨arena, index⟩ -
  simp only [List.filterMap_map, Function.comp_def, placement?_record]

namespace Draft

variable {draft : Draft} {places : Places}

theorem LaidOut.gives_readBody (h : draft.LaidOut places bytes) (hplain : draft.Plain) :
    (readBody bytes.size).Gives (bytes.extract 4 bytes.size) 0 draft.survey
      (places.teleports.toNat + draft.teleportsBytes.length) := by
  obtain ⟨fileSize, hsize, hhead⟩ := h.head
  have hsmall : (bytes.extract 4 bytes.size).size < 2 ^ 32 + 8 := by
    have hlt := fileSize.toNat_lt
    rw [Array.size_extract]
    omega
  -- All offsets count from behind the length field, so all that is read is the rest.
  have hhead : Holds (bytes.extract 4 bytes.size) 0 _ := Holds.extract hhead
  have hstart := h.start.extract
  have harenas := h.arenas.extract
  have hteleports := h.teleports.extract
  have hrecords := h.records.imp fun _ _ hheld => hheld.extract
  have hcount : draft.arenas.length < 2 ^ 31 := by
    have hlt := harenas.length_lt (fun entry _ => le_length_arenaBytes entry) hsmall
    rwa [List.length_zip, ← hrecords.length_eq, Nat.min_self] at hlt
  have hcalls := hteleports.length_lt (fun teleport _ => le_length_teleportBytes teleport) hsmall
  refine (Decodes.text (by decide) hplain.filename 0 hhead.left).bind ?_
  refine (Decodes.u32 fileSize _ hhead.right.left).bind ?_
  rw [if_neg (not_not.mpr hsize)]
  refine (Decodes.u32 places.start _ hhead.right.right.left).bind ?_
  refine (Decodes.u32 places.teleports _ hhead.right.right.right.left).bind ?_
  refine (Decodes.u32 places.arenas _ hhead.right.right.right.right).bind ?_
  refine (Gives.seek _ _).bind ((Decodes.u32 0 _ hstart.left).bind ?_)
  rw [if_neg (not_not.mpr rfl)]
  refine (Decodes.point hplain.start _ hstart.right.left).bind ?_
  refine (Decodes.single hplain.startAngle _ hstart.right.right).bind ?_
  refine (Gives.seek _ _).bind ((Decodes.u32 _ _ harenas.left).bind ?_)
  rw [UInt32.toNat_ofNat', Nat.mod_eq_of_lt (by omega)]
  refine (decodes_readArenas hplain.arenas hrecords hsmall _ harenas.right).bind ?_
  rw [List.length_map, teleportsBytes, List.length_append, ← Nat.add_assoc]
  refine (Gives.seek _ _).bind ((Decodes.u32 _ _ hteleports.left).bind ?_)
  rw [UInt32.toNat_ofNat', Nat.mod_eq_of_lt (by omega)]
  refine (decodes_readTeleports hplain.teleports hcount _ hteleports.right).bind ?_
  rw [assign_bare]
  exact .pure _ _

/-- Reading inverts the layout: a file that holds the sections of a draft where it says they stand
is read as the survey that the draft means, wherever they stand and whatever else the file holds.
The actors that the survey places are those of its generators and pickups, arena by arena. -/
theorem parse_laidOut (hplain : draft.Plain) (h : draft.LaidOut places bytes) :
    parse bytes = .ok draft.survey ∧ draft.survey.placements = draft.placements := by
  refine ⟨?_, placements_survey draft⟩
  obtain ⟨fileSize, hsize, -⟩ := h.head
  obtain ⟨c, hrun, -⟩ := h.gives_readBody hplain (.start 0) rfl
  rw [parse, if_neg (by omega), eval]
  exact congrArg Prod.fst hrun

/-- Two arenas, each with a teleport, the later arena's first, and a box without a high point. -/
def twoArenas : Draft where
  filename := "KEEP"
  start := .origin
  startAngle := ⟨0x42b40000⟩
  arenas :=
    [⟨"HALL", ⟨0x3f800000⟩,
        [⟨-1, 7, .origin, .generator "GUARD"⟩, ⟨4, 0, .origin, .box .fan .origin⟩]⟩,
      ⟨"YARD", ⟨0xbf800000⟩, [⟨3, 9, ⟨⟨0x4b189680⟩, .zero, .zero⟩, .pickup "KEY"⟩]⟩]
  teleports := [(1, ⟨5, .origin, .zero⟩), (0, ⟨6, .origin, .zero⟩)]

def twoArenasPlaces : Places where
  start := 232
  teleports := 28
  arenas := 120
  records := [156, 80]

/-- The sections in an order of their own, the start of the player last. -/
def twoArenasSections : List (List UInt8) :=
  [[0, 1, 2, 3], twoArenas.headBytes 244 twoArenasPlaces, twoArenas.teleportsBytes,
    DraftArena.recordsBytes (twoArenas.arenas.getD 1 default),
    twoArenas.arenasBytes twoArenasPlaces.records,
    DraftArena.recordsBytes (twoArenas.arenas.getD 0 default), twoArenas.startBytes]

theorem parse_laidOut_twoArenas :
    parse twoArenasSections.flatten.toArray = .ok twoArenas.survey ∧
      twoArenas.survey.placements =
        [⟨"HALL", "GUARD", -1, .origin, 7⟩,
          ⟨"YARD", "KEY", 3, ⟨⟨0x4b189680⟩, .zero, .zero⟩, 0⟩] := by
  have hlaid : twoArenas.LaidOut twoArenasPlaces twoArenasSections.flatten.toArray := by
    refine ⟨⟨244, by decide +kernel, ?_⟩, ?_, ?_, .cons ?_ (.cons ?_ .nil), ?_⟩
    · exact ⟨[0, 1, 2, 3], (twoArenasSections.drop 2).flatten, rfl, rfl⟩
    · exact ⟨(twoArenasSections.take 6).flatten, [], by decide +kernel, by decide +kernel⟩
    · exact ⟨(twoArenasSections.take 4).flatten, (twoArenasSections.drop 5).flatten, rfl,
        by decide +kernel⟩
    · exact ⟨(twoArenasSections.take 5).flatten, (twoArenasSections.drop 6).flatten, rfl,
        by decide +kernel⟩
    · exact ⟨(twoArenasSections.take 3).flatten, (twoArenasSections.drop 4).flatten, rfl,
        by decide +kernel⟩
    · exact ⟨(twoArenasSections.take 2).flatten, (twoArenasSections.drop 3).flatten, rfl,
        by decide +kernel⟩
  exact parse_laidOut (by decide +kernel) hlaid

end Draft

end Survey

end LevelScript
