import LevelScript.Container
import LevelScript.Proofs.Scan
import Mathlib.Algebra.Group.Nat.Defs
import Mathlib.Data.List.Forall2

/-!
Containers as bytes.

The layout of a container is written down field by field, and reading inverts it: wherever the bytes
of a field stand in a buffer, the scan of that field gives what they encode and ends behind them.
The tables follow one another without a gap, so that each scan starts where the one before it ended;
the records of the arenas may stand anywhere, in any order.
-/

namespace LevelScript

/-! ### The layout -/

/-- A text that fits into a field of that width: printable, and not too long. -/
structure IsPlain (width : Nat) (text : String) : Prop where
  length_le : text.toList.length ≤ width
  printable : ∀ c ∈ text.toList, 0x20 ≤ c.toNat ∧ c.toNat ≤ 0x7e

instance (width : Nat) : DecidablePred (IsPlain width) := fun text =>
  decidable_of_iff
    (text.toList.length ≤ width ∧
      text.toList.all (fun c => 0x20 ≤ c.toNat ∧ c.toNat ≤ 0x7e) = true)
    ⟨fun h => ⟨h.1, by simpa using h.2⟩, fun h => ⟨h.length_le, by simpa using h.printable⟩⟩

/-- A text, a byte for each character. -/
def textBytes (text : String) : List UInt8 :=
  text.toList.map fun c => UInt8.ofNat c.toNat

/-- A text in a field of that width, padded with zero bytes. -/
def paddedBytes (width : Nat) (text : String) : List UInt8 :=
  textBytes text ++ List.replicate (width - text.toList.length) 0

/-- A text after a byte that gives its length. -/
def countedBytes (text : String) : List UInt8 :=
  UInt8.ofNat text.toList.length :: textBytes text

def entryBytes (entry : OffsetEntry) : List UInt8 :=
  countedBytes entry.1 ++ wordBytes entry.2

/-- The number of entries, and then the entries. -/
def tableBytes (entries : List OffsetEntry) : List UInt8 :=
  wordBytes (.ofNat entries.length) ++ entries.flatMap entryBytes

/-- The record to which the table entry of an arena points. -/
def ArenaRecord.bytes (record : ArenaRecord) : List UInt8 :=
  countedBytes record.music.1 ++ (countedBytes record.music.2 ++ wordBytes record.script)

namespace Container

/-- The table of the arenas whose records stand at these offsets. -/
def arenaTable (container : Container) (offsets : List UInt32) : List OffsetEntry :=
  (container.arenas.map ArenaRecord.name).zip offsets

/-- Everything in front of the records. -/
def headBytes (container : Container) (offsets : List UInt32) : List UInt8 :=
  paddedBytes 12 container.name ++ (wordBytes container.fileSize ++
    (tableBytes container.inits ++ (tableBytes container.meshes ++
      (tableBytes container.setups ++ tableBytes (container.arenaTable offsets)))))

/-- All texts of the container fit into their fields. -/
structure Plain (container : Container) : Prop where
  name : IsPlain 12 container.name
  inits : ∀ entry ∈ container.inits, IsPlain 100 entry.1
  meshes : ∀ entry ∈ container.meshes, IsPlain 100 entry.1
  setups : ∀ entry ∈ container.setups, IsPlain 100 entry.1
  arenas : ∀ record ∈ container.arenas,
    IsPlain 100 record.name ∧ IsPlain 100 record.music.1 ∧ IsPlain 100 record.music.2

end Container

/-- Somewhere in a buffer stand the bytes of a field. -/
def Holds (bytes : Bytes) (pos : Nat) (field : List UInt8) : Prop :=
  ∃ before after, bytes.toList = before ++ (field ++ after) ∧ before.length = pos

namespace Holds

variable {bytes : Bytes} {pos : Nat} {field rest : List UInt8}

theorem left (h : Holds bytes pos (field ++ rest)) : Holds bytes pos field := by
  obtain ⟨before, after, hbytes, hpos⟩ := h
  exact ⟨before, rest ++ after, by rw [hbytes, List.append_assoc], hpos⟩

theorem right (h : Holds bytes pos (field ++ rest)) : Holds bytes (pos + field.length) rest := by
  obtain ⟨before, after, hbytes, rfl⟩ := h
  exact ⟨before ++ field, after, by simp [hbytes], List.length_append⟩

theorem le_size (h : Holds bytes pos field) : pos + field.length ≤ bytes.size := by
  obtain ⟨before, after, hbytes, rfl⟩ := h
  have hlength := congrArg List.length hbytes
  simp only [Array.length_toList, List.length_append] at hlength
  omega

theorem extract_eq (h : Holds bytes pos field) :
    bytes.extract pos (pos + field.length) = field.toArray := by
  obtain ⟨before, after, hbytes, rfl⟩ := h
  apply Array.toList_inj.mp
  rw [Array.toList_extract, hbytes, List.extract_eq_take_drop]
  simp

end Holds

/-! ### Reading fields -/

theorem length_littleBytes (count n : Nat) : (littleBytes count n).length = count := by
  induction count generalizing n with
  | zero => rfl
  | succ count ih => rw [littleBytes, List.length_cons, ih]

theorem littleEndian_littleBytes (count n : Nat) :
    littleEndian (littleBytes count n) = n % 256 ^ count := by
  induction count generalizing n with
  | zero => simp [littleBytes, littleEndian, Nat.mod_one]
  | succ count ih =>
      rw [littleBytes, littleEndian, ih, Nat.pow_succ', Nat.mod_mul, UInt8.toNat_ofNat']

theorem length_textBytes (text : String) : (textBytes text).length = text.toList.length :=
  List.length_map _

theorem length_paddedBytes {width : Nat} {text : String} (h : IsPlain width text) :
    (paddedBytes width text).length = width := by
  have hle := h.length_le
  rw [paddedBytes, List.length_append, length_textBytes, List.length_replicate]
  omega

/-- The character of a text byte is the one that the byte was made from. -/
theorem IsPlain.ofNat_toNat {width : Nat} {text : String} (h : IsPlain width text) {c : Char}
    (hc : c ∈ text.toList) : (UInt8.ofNat c.toNat).toNat = c.toNat := by
  have hprintable := h.printable c hc
  rw [UInt8.toNat_ofNat']
  omega

theorem IsPlain.isTextByte {width : Nat} {text : String} (h : IsPlain width text) :
    ∀ b ∈ textBytes text, isTextByte b = true := by
  intro b hb
  obtain ⟨c, hc, rfl⟩ := List.mem_map.mp hb
  have hprintable := h.printable c hc
  have hnat := h.ofNat_toNat hc
  simp only [LevelScript.isTextByte, Bool.and_eq_true, decide_eq_true_eq, UInt8.le_iff_toNat_le,
    hnat]
  exact hprintable

/-- The padding is taken off again. -/
theorem paddedText?_paddedBytes {width : Nat} {text : String} (h : IsPlain width text) :
    paddedText? (paddedBytes width text) = some text := by
  have hnonzero : ∀ b ∈ textBytes text, (b != 0) = true := by
    intro b hb
    have htext := h.isTextByte b hb
    rw [bne_iff_ne]
    rintro rfl
    cases htext
  have hpadding (count : Nat) : (List.replicate count (0 : UInt8)).takeWhile (· != 0) = [] ∧
      (List.replicate count (0 : UInt8)).dropWhile (· != 0) = List.replicate count 0 := by
    cases count with
    | zero => exact ⟨rfl, rfl⟩
    | succ count => exact ⟨rfl, rfl⟩
  have hchars : (textBytes text).map (fun b => Char.ofNat b.toNat) = text.toList := by
    rw [textBytes, List.map_map]
    refine (List.map_congr_left fun c hc => ?_).trans (List.map_id _)
    rw [Function.comp_apply, h.ofNat_toNat hc, Char.ofNat_toNat, id_eq]
  simp only [paddedText?, paddedBytes, List.takeWhile_append_of_pos hnonzero,
    List.dropWhile_append_of_pos hnonzero, hpadding, List.append_nil, List.all_replicate]
  have hall : (textBytes text).all LevelScript.isTextByte = true :=
    List.all_eq_true.mpr h.isTextByte
  simp [hall, hchars]

namespace Scan

variable {ε α β : Type} {bytes : Bytes}

/-- Wherever the field stands, the scan gives what it encodes and ends behind it. -/
def Decodes (bytes : Bytes) (scan : Scan ε α) (field : List UInt8) (a : α) : Prop :=
  ∀ pos, Holds bytes pos field → scan.Gives bytes pos a (pos + field.length)

namespace Decodes

variable {field rest : List UInt8}

theorem pure (a : α) : (Pure.pure a : Scan ε α).Decodes bytes [] a :=
  fun pos _ => Gives.pure a pos

/-- What is read behind a field is read where the field ends. -/
theorem bind {scan : Scan ε α} {next : α → Scan ε β} {a : α} {b : β}
    (h : scan.Decodes bytes field a) (hnext : (next a).Decodes bytes rest b) :
    (scan >>= next).Decodes bytes (field ++ rest) b := by
  intro pos hholds
  rw [List.length_append, ← Nat.add_assoc]
  exact (h pos hholds.left).bind (hnext (pos + field.length) hholds.right)

theorem map {scan : Scan ε α} {a : α} (h : scan.Decodes bytes field a) (f : α → β) :
    (scan >>= fun a => Pure.pure (f a)).Decodes bytes field (f a) := by
  have hboth : (scan >>= fun a => Pure.pure (f a)).Decodes bytes (field ++ []) (f a) :=
    h.bind (pure (f a))
  rwa [List.append_nil] at hboth

/-- A visit takes nothing from where it starts. -/
theorem visit {scan : Scan ε α} {target : Nat} {a : α} (hholds : Holds bytes target field)
    (h : scan.Decodes bytes field a) : (scan.visit target).Decodes bytes [] a := by
  rintro _ - c rfl
  obtain ⟨c', hrun, -⟩ := h target hholds { c with pos := target } rfl
  exact ⟨{ c' with pos := c.pos }, by rw [run_visit, hrun], rfl⟩

theorem slice (field : List UInt8) :
    (Scan.slice field.length).Decodes bytes field field.toArray := by
  intro pos hholds
  have hgives := Gives.slice hholds.le_size
  rwa [hholds.extract_eq] at hgives

theorem unsigned (field : List UInt8) :
    (Scan.unsigned field.length).Decodes bytes field (littleEndian field) :=
  (slice field).map fun data => littleEndian data.toList

theorem u8 (b : UInt8) : Scan.u8.Decodes bytes [b] b := by
  have hbyte : Scan.u8.Decodes bytes [b] (.ofNat (littleEndian [b])) :=
    (unsigned [b]).map UInt8.ofNat
  rwa [show UInt8.ofNat (littleEndian [b]) = b by simp [littleEndian]] at hbyte

theorem u32 (word : UInt32) : Scan.u32.Decodes bytes (wordBytes word) word := by
  have hnat : littleEndian (wordBytes word) = word.toNat := by
    rw [wordBytes, littleEndian_littleBytes]
    exact Nat.mod_eq_of_lt word.toNat_lt
  have hword : Scan.u32.Decodes bytes (wordBytes word) (.ofNat (littleEndian (wordBytes word))) :=
    (unsigned (wordBytes word)).map UInt32.ofNat
  rwa [hnat, UInt32.ofNat_toNat] at hword

theorem rawSingle (x : Single) : Scan.rawSingle.Decodes bytes (wordBytes x.bits) x :=
  (u32 x.bits).map Single.mk

/-- A scan that asks where it stands, and gives the same wherever that is. -/
theorem fromPos {next : Nat → Scan ε α} {a : α} (h : ∀ offset, (next offset).Decodes bytes field a) :
    (Scan.pos >>= next).Decodes bytes field a := by
  rintro _ hholds c rfl
  exact h c.pos c.pos hholds c rfl

theorem text {width : Nat} (hwidth : width ≤ textLimit) {text : String} (h : IsPlain width text) :
    (Scan.text width).Decodes bytes (paddedBytes width text) text := by
  have hslice : (Scan.slice (paddedBytes width text).length).Decodes bytes _ _ :=
    slice (paddedBytes width text)
  rw [length_paddedBytes h] at hslice
  refine fromPos fun offset => ?_
  rw [if_neg (Nat.not_lt.mpr hwidth), ← List.append_nil (paddedBytes width text)]
  refine hslice.bind ?_
  rw [paddedText?_paddedBytes h]
  exact pure text

/-- The byte in front gives the width of the field, which may be more than the text fills. -/
theorem countedText_padded {width : UInt8} (hwidth : width.toNat ≤ textLimit) {text : String}
    (h : IsPlain width.toNat text) :
    Scan.countedText.Decodes bytes (width :: paddedBytes width.toNat text) text :=
  (u8 width).bind (Decodes.text hwidth h)

/-- The width of the field is the length of the text, so nothing is padded. -/
theorem countedText {text : String} (h : IsPlain textLimit text) :
    Scan.countedText.Decodes bytes (countedBytes text) text := by
  have hle := h.length_le
  have hwidth : (UInt8.ofNat text.toList.length).toNat = text.toList.length := by
    rw [UInt8.toNat_ofNat']
    exact Nat.mod_eq_of_lt (Nat.lt_of_le_of_lt hle (by decide))
  have hbody : paddedBytes text.toList.length text = textBytes text := by
    rw [paddedBytes, Nat.sub_self, List.replicate_zero, List.append_nil]
  have hpadded : Scan.countedText.Decodes bytes
      (.ofNat text.toList.length :: paddedBytes (UInt8.ofNat text.toList.length).toNat text) text :=
    countedText_padded (by rwa [hwidth]) ⟨Nat.le_of_eq hwidth.symm, h.printable⟩
  rwa [hwidth, hbody] at hpadded

/-- Items that stand one behind the other are read one after the other, each as what it means. -/
theorem times {ι : Type} {scan : Scan ε α} (encode : ι → List UInt8) (meaning : ι → α)
    (items : List ι) (h : ∀ item ∈ items, scan.Decodes bytes (encode item) (meaning item)) :
    (scan.times items.length).Decodes bytes (items.flatMap encode) (items.map meaning) := by
  induction items with
  | nil => exact pure []
  | cons item items ih =>
      have hitem := h item List.mem_cons_self
      have hitems := ih fun other hother => h other (List.mem_cons_of_mem item hother)
      exact hitem.bind (hitems.map (meaning item :: ·))

end Decodes

end Scan

/-! ### Reading containers -/

namespace Container

open Scan

variable {bytes : Bytes}

theorem decodes_readEntry {entry : OffsetEntry} (h : IsPlain textLimit entry.1) :
    readEntry.Decodes bytes (entryBytes entry) entry :=
  (Decodes.countedText h).bind ((Decodes.u32 entry.2).map fun offset => (entry.1, offset))

theorem decodes_readTable {entries : List OffsetEntry} (hlength : entries.length < 2 ^ 32)
    (h : ∀ entry ∈ entries, IsPlain textLimit entry.1) :
    readTable.Decodes bytes (tableBytes entries) entries := by
  refine (Decodes.u32 (.ofNat entries.length)).bind ?_
  rw [UInt32.toNat_ofNat', Nat.mod_eq_of_lt hlength]
  have hentries : (Scan.times readEntry entries.length).Decodes bytes
      (entries.flatMap entryBytes) (entries.map id) :=
    Decodes.times entryBytes id entries fun entry hentry => decodes_readEntry (h entry hentry)
  rwa [List.map_id] at hentries

/-- An arena is read from where its table entry points. -/
theorem decodes_readArena {record : ArenaRecord} {offset : UInt32}
    (hfirst : IsPlain textLimit record.music.1) (hsecond : IsPlain textLimit record.music.2)
    (h : Holds bytes offset.toNat record.bytes) :
    (readArena (record.name, offset)).Decodes bytes [] record := by
  refine Decodes.visit h ?_
  refine (Decodes.countedText hfirst).bind ((Decodes.countedText hsecond).bind ?_)
  exact (Decodes.u32 record.script).map (ArenaRecord.mk record.name record.music)

theorem decodes_readArenas {records : List ArenaRecord} {offsets : List UInt32}
    (hplain : ∀ record ∈ records,
      IsPlain textLimit record.music.1 ∧ IsPlain textLimit record.music.2)
    (h : List.Forall₂ (fun record offset => Holds bytes offset.toNat record.bytes)
      records offsets) :
    (readArenas ((records.map ArenaRecord.name).zip offsets)).Decodes bytes [] records := by
  induction h with
  | nil => exact Decodes.pure []
  | @cons record offset records offsets hrecord hrecords ih =>
      obtain ⟨hfirst, hsecond⟩ := hplain record List.mem_cons_self
      have hrest := ih fun other hother => hplain other (List.mem_cons_of_mem record hother)
      exact (decodes_readArena hfirst hsecond hrecord).bind (hrest.map (record :: ·))

theorem length_le_tableBytes (entries : List OffsetEntry) :
    entries.length ≤ (tableBytes entries).length := by
  rw [tableBytes, List.length_append]
  induction entries with
  | nil => exact Nat.zero_le _
  | cons entry entries ih =>
      simp only [List.flatMap_cons, List.length_append, List.length_cons, entryBytes, countedBytes,
        wordBytes, length_littleBytes] at ih ⊢
      omega

/-- Where the head of a container stands and its records stand where the head says, the container
is read. -/
theorem decodes_read {container : Container} (hplain : container.Plain) {offsets : List UInt32}
    (hlength : (container.headBytes offsets).length < 2 ^ 32)
    (hrecords : List.Forall₂ (fun record offset => Holds bytes offset.toNat record.bytes)
      container.arenas offsets) :
    Container.read.Decodes bytes (container.headBytes offsets) container := by
  have hinits := length_le_tableBytes container.inits
  have hmeshes := length_le_tableBytes container.meshes
  have hsetups := length_le_tableBytes container.setups
  have harenas := length_le_tableBytes (container.arenaTable offsets)
  simp only [headBytes, List.length_append] at hlength
  have hnames : ∀ entry ∈ container.arenaTable offsets, IsPlain textLimit entry.1 := by
    intro entry hentry
    obtain ⟨record, hrecord, hname⟩ := List.mem_map.mp (List.of_mem_zip hentry).1
    rw [← hname]
    exact (hplain.arenas record hrecord).1
  refine (Decodes.text (by decide) hplain.name).bind ?_
  refine (Decodes.u32 container.fileSize).bind ?_
  refine (decodes_readTable (by omega) hplain.inits).bind ?_
  refine (decodes_readTable (by omega) hplain.meshes).bind ?_
  refine (decodes_readTable (by omega) hplain.setups).bind ?_
  rw [← List.append_nil (tableBytes _)]
  refine (decodes_readTable (by omega) hnames).bind ?_
  have hmusic : ∀ record ∈ container.arenas,
      IsPlain textLimit record.music.1 ∧ IsPlain textLimit record.music.2 :=
    fun record hrecord => (hplain.arenas record hrecord).2
  exact (decodes_readArenas hmusic hrecords).map
    (Container.mk container.name container.fileSize container.inits container.meshes
      container.setups)

/-- Reading inverts the layout: a buffer that starts with the head of a container, and holds the
record of each arena where the head says, is read as just that container, whatever else the buffer
holds. -/
theorem parse_headBytes {container : Container} (hplain : container.Plain) {offsets : List UInt32}
    {rest : List UInt8}
    (hrecords : List.Forall₂
      (fun record offset =>
        Holds (container.headBytes offsets ++ rest).toArray offset.toNat record.bytes)
      container.arenas offsets)
    (hsize : (container.headBytes offsets ++ rest).length < 2 ^ 32) :
    parse (container.headBytes offsets ++ rest).toArray = .ok container := by
  have hlength : (container.headBytes offsets).length < 2 ^ 32 := by
    rw [List.length_append] at hsize
    omega
  have hhead : Holds (container.headBytes offsets ++ rest).toArray 0
      (container.headBytes offsets) := ⟨[], rest, rfl, rfl⟩
  obtain ⟨c, hrun, -⟩ := decodes_read hplain hlength hrecords 0 hhead (.start 0) rfl
  rw [run] at hrun
  rw [parse, eval, hrun]

/-- Two arenas whose records stand in the other order, and a name that is given twice. -/
def paired : Container where
  name := "LEVEL4"
  fileSize := 7
  inits := [("A$G_1", 5), ("A$G_1", 6)]
  meshes := [("", 0)]
  setups := []
  arenas := [⟨"A", ("", "S"), 9⟩, ⟨"B", ("NONE", "S"), 10⟩]

theorem parse_headBytes_paired :
    paired.Plain ∧ parse (paired.headBytes [81, 70] ++
      ([0xff] ++ (countedBytes "NONE" ++ (countedBytes "S" ++ (wordBytes 10 ++
        (countedBytes "" ++ (countedBytes "S" ++ wordBytes 9))))))).toArray = .ok paired := by
  have hplain : paired.Plain := by
    constructor <;> decide
  refine ⟨hplain, parse_headBytes hplain (.cons ?_ (.cons ?_ .nil)) (by decide)⟩
  · exact ⟨paired.headBytes [81, 70] ++
      ([0xff] ++ (countedBytes "NONE" ++ (countedBytes "S" ++ wordBytes 10))), [], rfl, rfl⟩
  · exact ⟨paired.headBytes [81, 70] ++ [0xff],
      countedBytes "" ++ (countedBytes "S" ++ wordBytes 9), rfl, rfl⟩

end Container

end LevelScript
