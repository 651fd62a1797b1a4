import LevelScript.Opcode
import LevelScript.Proofs.Encoding

/-!
Operands as bytes.

How an operand is laid out depends on its kind and, within a kind, on a byte of the data: the width
of a text, the comparison, the branch code, the scope.  Reading operands is faithful to that layout:
the bytes that were read are those of the operands, one behind the other, and wherever operands are
laid out they are read.
-/

namespace LevelScript

/-! ### The layout -/

/-- The bytes that an operand of a kind is laid out as. -/
inductive OperandKind.Lays : OperandKind → Operand → List UInt8 → Prop
  | bytes {count : UInt8} {data : Bytes} :
      data.size = count.toNat → Lays (.bytes count) (.bytes data) data.toList
  | text {width : UInt8} {s : String} :
      width.toNat ≤ Scan.textLimit → IsPlain width.toNat s →
        Lays .text (.text s) (width :: paddedBytes width.toNat s)
  | comparison {kind : UInt8} (low : Single) :
      kind ≠ 7 → kind ≠ 8 →
        Lays .compare (.compare kind low .zero) (kind :: wordBytes low.bits)
  | rangeComparison {kind : UInt8} (low high : Single) :
      kind = 7 ∨ kind = 8 →
        Lays .compare (.compare kind low high) (kind :: (wordBytes low.bits ++ wordBytes high.bits))
  | choice (first second : UInt32) :
      Lays .branch (.branch 0xfe first second) (0xfe :: (wordBytes first ++ wordBytes second))
  | jump {code : UInt8} (first : UInt32) :
      code = 0xfc ∨ code = 0x0c → Lays .branch (.branch code first 0) (code :: wordBytes first)
  | noBlock {code : UInt8} :
      code ≠ 0xfe → code ≠ 0xfc → code ≠ 0x0c → Lays .branch (.branch code 0 0) [code]
  | immediate (x : Single) : Lays .quantity (.immediate x) (3 :: wordBytes x.bits)
  | slot {scope : UInt8} (index : UInt8) :
      scope ≠ 3 → Lays .quantity (.slot scope index) [scope, index]

/-- Operands of the given kinds, laid out one behind the other. -/
inductive OperandKind.LaysAll : List OperandKind → List Operand → List UInt8 → Prop
  | nil : LaysAll [] [] []
  | cons {kind : OperandKind} {kinds : List OperandKind} {operand : Operand}
      {operands : List Operand} {field rest : List UInt8} :
      kind.Lays operand field → LaysAll kinds operands rest →
        LaysAll (kind :: kinds) (operand :: operands) (field ++ rest)

/-- The kinds of the operands, for a shape that decides about them; no bytes are no operand. -/
def Shape.kinds? : Shape → Option (List OperandKind)
  | skip width => some (if width = 0 then [] else [.bytes width])
  | sequence kinds => some kinds
  | ending => some []
  | dependent _ | unmodeled | invalid => none

theorem OperandKind.LaysAll.length_eq {kinds : List OperandKind} {operands : List Operand}
    {field : List UInt8} (h : LaysAll kinds operands field) : operands.length = kinds.length := by
  induction h with
  | nil => rfl
  | cons _ _ ih => rw [List.length_cons, List.length_cons, ih]

/-- Bytes without further meaning have the width that their kinds say. -/
theorem OperandKind.LaysAll.length_of_bytesWidth? {kinds : List OperandKind}
    {operands : List Operand} {field : List UInt8} (h : LaysAll kinds operands field) {width : Nat}
    (hwidth : Shape.bytesWidth? kinds = some width) : field.length = width := by
  induction h generalizing width with
  | nil => exact Option.some.inj hwidth
  | cons hfirst _ ih =>
      cases hfirst with
      | bytes hsize =>
          obtain ⟨others, hothers, rfl⟩ := Option.map_eq_some_iff.mp hwidth
          rw [List.length_append, Array.length_toList, hsize, ih hothers]
      | _ => cases hwidth

/-- The width that a shape has by itself is that of its kinds. -/
theorem Shape.bytesWidth?_of_width? {shape : Shape} {kinds : List OperandKind} {width : Nat}
    (hkinds : shape.kinds? = some kinds) (hwidth : shape.width? = some width) :
    bytesWidth? kinds = some width := by
  cases shape with
  | skip count =>
      obtain rfl := Option.some.inj hkinds
      by_cases hzero : count = 0
      · simpa [hzero, width?, bytesWidth?] using hwidth
      · simpa [hzero, width?, bytesWidth?] using hwidth
  | sequence kinds' =>
      obtain rfl := Option.some.inj hkinds
      exact hwidth
  | ending =>
      obtain rfl := Option.some.inj hkinds
      exact hwidth
  | _ => cases hkinds

/-! ### What was read -/

/-- The bytes between two positions of a buffer. -/
structure Between (bytes : Bytes) (start stop : Nat) (field : List UInt8) : Prop where
  extract_eq : (bytes.extract start stop).toList = field
  stop_eq : stop = start + field.length

theorem Between.nil (bytes : Bytes) (pos : Nat) : Between bytes pos pos [] :=
  ⟨by simp, rfl⟩

theorem Between.append {bytes : Bytes} {p q r : Nat} {field rest : List UInt8}
    (h : Between bytes p q field) (hrest : Between bytes q r rest) :
    Between bytes p r (field ++ rest) := by
  obtain ⟨hfield, rfl⟩ := h
  obtain ⟨hmore, rfl⟩ := hrest
  refine ⟨?_, by rw [List.length_append, Nat.add_assoc]⟩
  have hjoin : bytes.extract p (p + field.length) ++
      bytes.extract (p + field.length) (p + field.length + rest.length) =
        bytes.extract p (p + field.length + rest.length) := by
    rw [Array.extract_append_extract, Nat.min_eq_left (Nat.le_add_right _ _),
      Nat.max_eq_right (Nat.le_add_right _ _)]
  rw [← hjoin, Array.toList_append, hfield, hmore]

theorem littleBytes_littleEndian (field : List UInt8) :
    littleBytes field.length (littleEndian field) = field := by
  induction field with
  | nil => rfl
  | cons b rest ih =>
      have hb := b.toNat_lt
      have hlow : UInt8.ofNat (b.toNat + 256 * littleEndian rest) = b := by
        apply UInt8.toNat_inj.mp
        rw [UInt8.toNat_ofNat']
        omega
      have hhigh : (b.toNat + 256 * littleEndian rest) / 256 = littleEndian rest := by omega
      rw [List.length_cons, littleBytes, littleEndian, hlow, hhigh, ih]

theorem littleEndian_lt (field : List UInt8) : littleEndian field < 256 ^ field.length := by
  induction field with
  | nil => exact Nat.one_pos
  | cons b rest ih =>
      have hb := b.toNat_lt
      rw [littleEndian, List.length_cons, Nat.pow_succ]
      omega

theorem toNat_ofNat_byte (b : UInt8) : (Char.ofNat b.toNat).toNat = b.toNat := by
  have hb := b.toNat_lt
  rw [Char.ofNat, dif_pos (Or.inl (by omega))]
  rfl

theorem textBytes_ofList_bytes (body : List UInt8) :
    textBytes (String.ofList (body.map fun b => Char.ofNat b.toNat)) = body := by
  rw [textBytes, String.toList_ofList, List.map_map]
  refine (List.map_congr_left fun b _ => ?_).trans (List.map_id _)
  rw [Function.comp_apply, toNat_ofNat_byte, UInt8.ofNat_toNat, id_eq]

/-- A field that holds a text is the text and its padding. -/
theorem paddedText?_eq_some {field : List UInt8} {s : String} (h : paddedText? field = some s) :
    IsPlain field.length s ∧ field = paddedBytes field.length s := by
  have hparts := List.takeWhile_append_dropWhile (p := (· != 0)) (l := field)
  have hlength := congrArg List.length hparts
  rw [List.length_append] at hlength
  unfold paddedText? at h
  dsimp only at h
  split at h
  · next hvalid =>
    simp only [Bool.and_eq_true, List.all_eq_true, beq_iff_eq] at hvalid
    obtain ⟨hpadding, hbody⟩ := hvalid
    obtain rfl := Option.some.inj h
    refine ⟨⟨?_, ?_⟩, ?_⟩
    · rw [String.toList_ofList, List.length_map]
      omega
    · intro c hc
      rw [String.toList_ofList] at hc
      obtain ⟨b, hb, rfl⟩ := List.mem_map.mp hc
      have htext := hbody b hb
      simp only [isTextByte, Bool.and_eq_true, decide_eq_true_eq, UInt8.le_iff_toNat_le] at htext
      rw [toNat_ofNat_byte]
      exact htext
    · have hzeros : field.dropWhile (· != 0) =
          List.replicate (field.length - (field.takeWhile (· != 0)).length) 0 :=
        List.eq_replicate_iff.mpr ⟨by omega, hpadding⟩
      rw [paddedBytes, textBytes_ofList_bytes, String.toList_ofList, List.length_map, ← hzeros,
        hparts]
  · cases h

namespace Scan

variable {ε α β : Type}

/-- Where the scan gives something, it has read the bytes that this is laid out as. -/
def Spells (scan : Scan ε α) (lays : α → List UInt8 → Prop) : Prop :=
  ∀ (bytes : Bytes) (c c' : Cursor) (a : α), scan.run bytes c = (.ok a, c') →
    ∃ field, lays a field ∧ Between bytes c.pos c'.pos field

namespace Spells

theorem pure {a : α} {lays : α → List UInt8 → Prop} (h : lays a []) :
    (Pure.pure a : Scan ε α).Spells lays := by
  intro bytes c c' b hrun
  obtain ⟨rfl, rfl⟩ := run_pure_eq_ok.mp hrun
  exact ⟨[], h, .nil bytes c.pos⟩

theorem fail (e : ε) {lays : α → List UInt8 → Prop} : (Scan.fail e : Scan ε α).Spells lays :=
  fun _ _ _ _ hrun => absurd hrun (by simp)

theorem imp {scan : Scan ε α} {lays lays' : α → List UInt8 → Prop} (h : scan.Spells lays)
    (himp : ∀ a field, lays a field → lays' a field) : scan.Spells lays' := by
  intro bytes c c' a hrun
  obtain ⟨field, hlays, hfield⟩ := h bytes c c' a hrun
  exact ⟨field, himp a field hlays, hfield⟩

/-- What the second scan reads stands behind what the first one read. -/
theorem bind {x : Scan ε α} {f : α → Scan ε β} {lays : α → List UInt8 → Prop}
    {lays' : β → List UInt8 → Prop} (hx : x.Spells lays)
    (hf : ∀ a field, lays a field → (f a).Spells fun b rest => lays' b (field ++ rest)) :
    (x >>= f).Spells lays' := by
  intro bytes c c' b hrun
  obtain ⟨a, d, hd, hc'⟩ := run_bind_eq_ok.mp hrun
  obtain ⟨field, hlays, hfield⟩ := hx bytes c d a hd
  obtain ⟨rest, hlays', hrest⟩ := hf a field hlays bytes d c' b hc'
  exact ⟨field ++ rest, hlays', hfield.append hrest⟩

theorem map {x : Scan ε α} {lays : α → List UInt8 → Prop} {lays' : β → List UInt8 → Prop}
    (hx : x.Spells lays) (f : α → β) (hf : ∀ a field, lays a field → lays' (f a) field) :
    (x >>= fun a => Pure.pure (f a)).Spells lays' := by
  refine hx.bind fun a field hlays => pure ?_
  rw [List.append_nil]
  exact hf a field hlays

theorem slice (count : Nat) :
    (Scan.slice count).Spells fun data field => data.size = count ∧ field = data.toList := by
  intro bytes c c' data hrun
  obtain ⟨hfit, rfl, rfl⟩ := run_slice_eq_ok.mp hrun
  have hsize : (bytes.extract c.pos (c.pos + count)).size = count := by
    rw [Array.size_extract, Nat.min_eq_left hfit, Nat.add_sub_cancel_left]
  refine ⟨_, ⟨hsize, rfl⟩, rfl, ?_⟩
  rw [Array.length_toList, hsize, Cursor.advance_pos]

theorem unsigned (count : Nat) :
    (Scan.unsigned count).Spells fun n field => field.length = count ∧ n = littleEndian field := by
  refine (slice count).map _ ?_
  rintro data _ ⟨hsize, rfl⟩
  exact ⟨by rwa [Array.length_toList], rfl⟩

theorem u8 : Scan.u8.Spells fun b field => field = [b] := by
  refine (unsigned 1).map _ ?_
  rintro _ field ⟨hlength, rfl⟩
  obtain ⟨b, rfl⟩ := List.length_eq_one_iff.mp hlength
  simp [littleEndian]

theorem u32 : Scan.u32.Spells fun word field => field = wordBytes word := by
  refine (unsigned 4).map _ ?_
  rintro _ field ⟨hlength, rfl⟩
  have hlt : littleEndian field < 2 ^ 32 := by
    simpa [hlength] using littleEndian_lt field
  rw [wordBytes, UInt32.toNat_ofNat', Nat.mod_eq_of_lt hlt, ← hlength, littleBytes_littleEndian]

theorem rawSingle : Scan.rawSingle.Spells fun x field => field = wordBytes x.bits :=
  u32.map _ fun _ _ hfield => hfield

theorem text (width : Nat) :
    (Scan.text width).Spells fun s field =>
      width ≤ textLimit ∧ IsPlain width s ∧ field = paddedBytes width s := by
  have hpos : (Scan.pos : Scan DataError Nat).Spells fun _ field => field = [] := by
    rintro bytes c c' a ⟨⟩
    exact ⟨[], rfl, .nil bytes c.pos⟩
  refine hpos.bind ?_
  rintro offset _ rfl
  split
  · exact fail _
  · next hwidth =>
    refine (slice width).bind ?_
    rintro data _ ⟨hsize, rfl⟩
    cases hpadded : paddedText? data.toList with
    | none => exact fail _
    | some s =>
        have hfield := paddedText?_eq_some hpadded
        rw [Array.length_toList, hsize] at hfield
        refine pure ⟨Nat.not_lt.mp hwidth, ?_⟩
        simpa using hfield

theorem countedText :
    Scan.countedText.Spells fun s field => ∃ width : UInt8, width.toNat ≤ textLimit ∧
      IsPlain width.toNat s ∧ field = width :: paddedBytes width.toNat s := by
  refine u8.bind ?_
  rintro width _ rfl
  refine (text width.toNat).imp ?_
  rintro s _ ⟨hwidth, hplain, rfl⟩
  exact ⟨width, hwidth, hplain, rfl⟩

end Spells

end Scan

theorem branchWidth_of_jump {code : UInt8} (h : code = 0xfc ∨ code = 0x0c) :
    branchWidth code = 1 := by
  rcases h with rfl | rfl <;> rfl

theorem branchWidth_of_ne {code : UInt8} (hchoice : code ≠ 0xfe) (hcall : code ≠ 0xfc)
    (hgoto : code ≠ 0x0c) : branchWidth code = 0 := by
  simp [branchWidth, hchoice, hcall, hgoto]

namespace OperandKind

open Scan

theorem spells_read (kind : OperandKind) : kind.read.Spells kind.Lays := by
  cases kind with
  | bytes count =>
      refine (Spells.slice count.toNat).map _ ?_
      rintro data _ ⟨hsize, rfl⟩
      exact .bytes hsize
  | text =>
      refine Spells.countedText.map _ ?_
      rintro s _ ⟨width, hwidth, hplain, rfl⟩
      exact .text hwidth hplain
  | compare =>
      refine Spells.u8.bind ?_
      rintro kind _ rfl
      refine Spells.rawSingle.bind ?_
      rintro low _ rfl
      by_cases hrange : kind = 7 ∨ kind = 8
      · rw [if_pos (by simpa [isRangeComparison] using hrange)]
        refine Spells.rawSingle.map _ ?_
        rintro high _ rfl
        exact .rangeComparison low high hrange
      · rw [if_neg (by simpa [isRangeComparison] using hrange)]
        rw [not_or] at hrange
        exact .pure (.comparison low hrange.1 hrange.2)
  | branch =>
      refine Spells.u8.bind ?_
      rintro code _ rfl
      by_cases hchoice : code = 0xfe
      · subst hchoice
        refine Spells.u32.bind ?_
        rintro first _ rfl
        refine Spells.u32.map _ ?_
        rintro second _ rfl
        exact .choice first second
      · by_cases hjump : code = 0xfc ∨ code = 0x0c
        · rw [branchWidth_of_jump hjump]
          refine Spells.u32.map _ ?_
          rintro first _ rfl
          exact .jump first hjump
        · rw [not_or] at hjump
          rw [branchWidth_of_ne hchoice hjump.1 hjump.2]
          exact .pure (.noBlock hchoice hjump.1 hjump.2)
  | quantity =>
      refine Spells.u8.bind ?_
      rintro scope _ rfl
      split
      · next hscope =>
        refine Spells.rawSingle.map _ ?_
        rintro x _ rfl
        rw [hscope]
        exact .immediate x
      · next hscope =>
        refine Spells.u8.map _ ?_
        rintro index _ rfl
        exact .slot index hscope

theorem spells_readAll (kinds : List OperandKind) : (readAll kinds).Spells (LaysAll kinds) := by
  induction kinds with
  | nil => exact .pure .nil
  | cons kind kinds ih =>
      refine (spells_read kind).bind fun first field hfirst => ?_
      refine ih.map _ fun others rest hothers => ?_
      exact .cons hfirst hothers

/-! ### What is read -/

variable {bytes : Bytes}

theorem Lays.decodes {kind : OperandKind} {operand : Operand} {field : List UInt8}
    (h : kind.Lays operand field) : kind.read.Decodes bytes field operand := by
  cases h with
  | @bytes count data hsize =>
      have hslice : (Scan.slice data.toList.length).Decodes bytes data.toList data :=
        Decodes.slice data.toList
      rw [Array.length_toList, hsize] at hslice
      exact hslice.map Operand.bytes
  | text hwidth hplain => exact (Decodes.countedText_padded hwidth hplain).map Operand.text
  | @comparison kind low hseven height =>
      have hrange : isRangeComparison kind = false := by simp [isRangeComparison, hseven, height]
      refine (Decodes.u8 kind).bind ?_
      simp only [hrange, Bool.false_eq_true, ↓reduceIte]
      exact (Decodes.rawSingle low).map (Operand.compare kind · .zero)
  | @rangeComparison kind low high hrange =>
      have hrange : isRangeComparison kind = true := by simpa [isRangeComparison] using hrange
      refine (Decodes.u8 kind).bind ((Decodes.rawSingle low).bind ?_)
      rw [if_pos hrange]
      exact (Decodes.rawSingle high).map (Operand.compare kind low)
  | choice first second =>
      refine (Decodes.u8 0xfe).bind ((Decodes.u32 first).bind ?_)
      exact (Decodes.u32 second).map (Operand.branch 0xfe first)
  | @jump code first hjump =>
      refine (Decodes.u8 code).bind ?_
      rw [branchWidth_of_jump hjump]
      exact (Decodes.u32 first).map (Operand.branch code · 0)
  | @noBlock code hchoice hcall hgoto =>
      refine (Decodes.u8 code).bind ?_
      rw [branchWidth_of_ne hchoice hcall hgoto]
      exact .pure _
  | immediate x =>
      refine (Decodes.u8 3).bind ?_
      exact (Decodes.rawSingle x).map Operand.immediate
  | @slot scope index hscope =>
      refine (Decodes.u8 scope).bind ?_
      rw [if_neg hscope]
      exact (Decodes.u8 index).map (Operand.slot scope)

theorem LaysAll.decodes {kinds : List OperandKind} {operands : List Operand} {field : List UInt8}
    (h : LaysAll kinds operands field) : (readAll kinds).Decodes bytes field operands := by
  induction h with
  | nil => exact .pure []
  | cons hfirst _ ih => exact hfirst.decodes.bind (ih.map _)

end OperandKind

namespace Shape

open OperandKind

/-- Reading by a shape is reading operands of its kinds. -/
theorem read_eq {shape : Shape} {kinds : List OperandKind} (h : shape.kinds? = some kinds) :
    shape.read = (do let operands ← readAll kinds; return some operands) := by
  cases shape with
  | skip width =>
      obtain rfl := Option.some.inj h
      by_cases hzero : width = 0
      · rw [Shape.read, if_pos hzero, if_pos hzero]
        rfl
      · rw [Shape.read, if_neg hzero, if_neg hzero]
        funext bytes c
        simp only [readAll, OperandKind.read, bind, Scan.bind, pure, Scan.pure]
        rcases Scan.slice width.toNat bytes c with ⟨e | data, c'⟩ <;> rfl
  | sequence kinds' =>
      obtain rfl := Option.some.inj h
      rfl
  | ending =>
      obtain rfl := Option.some.inj h
      rfl
  | _ => cases h

theorem read_eq_none {shape : Shape} (h : shape.kinds? = none) : shape.read = pure none := by
  cases shape with
  | dependent layout => rfl
  | unmodeled => rfl
  | invalid => rfl
  | _ => cases h

theorem spells_read {shape : Shape} {kinds : List OperandKind} (h : shape.kinds? = some kinds) :
    shape.read.Spells fun operands? field =>
      ∃ operands, operands? = some operands ∧ LaysAll kinds operands field := by
  rw [read_eq h]
  exact (spells_readAll kinds).map _ fun operands field hlays => ⟨operands, rfl, hlays⟩

/-- Reading operands is faithful to their layout, for every shape that decides about them, be it of
an opcode or not.  Where it gives operands, there are as many as the shape has kinds, the bytes that
it has read are just theirs, and a width that the shape has by itself is the one that it has read.
And where bytes are those of operands, it gives these operands. -/
theorem read_faithful (shape : Shape) (bytes : Bytes) :
    (∀ (c c' : Cursor) (operands : List Operand),
      shape.read.run bytes c = (.ok (some operands), c') →
        ∃ kinds field, shape.kinds? = some kinds ∧ operands.length = kinds.length ∧
          LaysAll kinds operands field ∧ Between bytes c.pos c'.pos field ∧
          ∀ width, shape.width? = some width → c'.pos = c.pos + width) ∧
      ∀ (kinds : List OperandKind) (operands : List Operand) (field : List UInt8) (pos : Nat),
        shape.kinds? = some kinds → LaysAll kinds operands field → Holds bytes pos field →
          shape.read.Gives bytes pos (some operands) (pos + field.length) := by
  constructor
  · intro c c' operands hrun
    cases hkinds : shape.kinds? with
    | none =>
        rw [read_eq_none hkinds] at hrun
        cases hrun
    | some kinds =>
        obtain ⟨field, ⟨_, heq, hlays⟩, hfield⟩ := spells_read hkinds bytes c c' _ hrun
        obtain rfl := Option.some.inj heq
        refine ⟨kinds, field, rfl, hlays.length_eq, hlays, hfield, fun width hwidth => ?_⟩
        rw [hfield.stop_eq, hlays.length_of_bytesWidth? (bytesWidth?_of_width? hkinds hwidth)]
  · intro kinds operands field pos hkinds hlays hholds
    have hdecodes : shape.read.Decodes bytes field (some operands) := by
      rw [read_eq hkinds]
      exact hlays.decodes.map some
    exact hdecodes pos hholds

/-- A padded text, a branch to two blocks, a range and a number that is none, between other
bytes. -/
def mixedBytes : Bytes :=
  #[0xff, 3, 71, 0, 0, 0xfe, 1, 0, 0, 0, 2, 0, 0, 0, 7, 0, 0, 128, 63, 0, 0, 0, 64, 3, 0, 0, 192,
    127, 0xff]

def mixedOperands : List Operand :=
  [.text "G", .branch 0xfe 1 2, .compare 7 ⟨0x3f800000⟩ ⟨0x40000000⟩, .immediate ⟨0x7fc00000⟩]

theorem read_faithful_mixed :
    ∃ c' field,
      (sequence [.text, .branch, .compare, .quantity]).read.run mixedBytes (.start 1) =
        (.ok (some mixedOperands), c') ∧
      LaysAll [.text, .branch, .compare, .quantity] mixedOperands field ∧
      Between mixedBytes 1 28 field := by
  have hread : ∃ c', (sequence [.text, .branch, .compare, .quantity]).read.run mixedBytes
      (.start 1) = (.ok (some mixedOperands), c') ∧ c'.pos = 28 :=
    ⟨_, Prod.ext (by decide +kernel) rfl, by decide +kernel⟩
  obtain ⟨c', hrun, hpos⟩ := hread
  obtain ⟨kinds, field, hkinds, -, hlays, hfield, -⟩ := (read_faithful _ mixedBytes).1 _ _ _ hrun
  obtain rfl := Option.some.inj hkinds
  rw [hpos] at hfield
  exact ⟨c', field, hrun, hlays, hfield⟩

end Shape

end LevelScript
