import LevelScript.Proofs.Agreement
import LevelScript.Proofs.SortedList
import Mathlib.Logic.Relation

/-!
The main block of a listing.

A listing walks a block without regard to what its instructions do.  Every place that running can
get to without a branch is on the path from the start of the script, and every instruction on that
path has its line in the main block; what it refers to is taken over into the listing.
-/

namespace LevelScript

namespace Listing

/-! ### What a listing has taken over -/

/-- A reference that was taken over; offset zero stands for no block and no script. -/
def Has (listing : Listing) : Reference → Prop
  | .block offset => offset = 0 ∨ offset ∈ listing.blocks
  | .script name offset reason => offset = 0 ∨ ⟨offset, name, reason⟩ ∈ listing.calls
  | .animation anim => anim ∈ listing.animations
  | .path offset => offset ∈ listing.paths

theorem has_script {listing : Listing} {name reason : String} {offset : UInt32} :
    listing.Has (.script name offset reason) ↔
      offset = 0 ∨ ⟨offset, name, reason⟩ ∈ listing.calls :=
  Iff.rfl

theorem has_animation {listing : Listing} {anim : Animation} :
    listing.Has (.animation anim) ↔ anim ∈ listing.animations :=
  Iff.rfl

/-- A listing that was gone on with: text is added at the end, and nothing gets lost. -/
structure Extends (a b : Listing) : Prop where
  offset_eq : b.offset = a.offset
  text : ∃ rest, b.text = a.text ++ rest
  has : ∀ reference, a.Has reference → b.Has reference

namespace Extends

theorem refl (a : Listing) : a.Extends a :=
  ⟨rfl, ⟨"", by simp⟩, fun _ h => h⟩

theorem trans {a b c : Listing} (hab : a.Extends b) (hbc : b.Extends c) : a.Extends c := by
  obtain ⟨rest, hrest⟩ := hab.text
  obtain ⟨more, hmore⟩ := hbc.text
  refine ⟨hbc.offset_eq.trans hab.offset_eq, ⟨rest ++ more, ?_⟩, ?_⟩
  · rw [hmore, hrest, String.append_assoc]
  · exact fun reference h => hbc.has reference (hab.has reference h)

theorem write (a : Listing) (text : String) : a.Extends (a.write text) := by
  refine ⟨rfl, ⟨text, rfl⟩, ?_⟩
  intro reference h
  cases reference <;> exact h

theorem note (a : Listing) (reference : Reference) : a.Extends (a.note reference) := by
  cases reference with
  | block offset =>
      simp only [Listing.note]
      split
      · exact refl a
      · refine ⟨rfl, ⟨"", by simp⟩, ?_⟩
        intro other h
        cases other with
        | block other => exact h.imp_right fun hmem => Array.mem_push.mpr (.inl hmem)
        | _ => exact h
  | script name offset reason =>
      simp only [Listing.note]
      split
      · exact refl a
      · refine ⟨rfl, ⟨"", by simp⟩, ?_⟩
        intro other h
        cases other with
        | script _ _ _ => exact h.imp_right mem_sortedInsert_of_mem
        | _ => exact h
  | animation anim =>
      refine ⟨rfl, ⟨"", by simp [Listing.note]⟩, ?_⟩
      intro other h
      cases other with
      | animation _ => exact mem_sortedInsert_of_mem h
      | _ => exact h
  | path offset =>
      refine ⟨rfl, ⟨"", by simp [Listing.note]⟩, ?_⟩
      intro other h
      cases other with
      | path _ => exact mem_sortedInsert_of_mem h
      | _ => exact h

end Extends

/-- What is noted is there. -/
theorem has_note (listing : Listing) (reference : Reference) :
    (listing.note reference).Has reference := by
  cases reference with
  | block offset =>
      simp only [note]
      split
      · next h => exact h.imp_right fun hmem => by simpa using hmem
      · exact .inr (by simp)
  | script name offset reason =>
      simp only [note]
      split
      · next hzero => exact .inl hzero
      · exact .inr (mem_sortedInsert_self separates_callLt _ _)
  | animation anim => exact mem_sortedInsert_self separates_animationLt _ _
  | path offset => exact mem_sortedInsert_self separates_offsetLt _ _

theorem foldl_note_preserves {bytes : Bytes} {holds : Listing → Prop}
    (hnote : ∀ (l : Listing) (reference : Reference), reference.Grounded bytes → holds l →
      holds (l.note reference)) {references : List Reference}
    (hgrounded : ∀ reference ∈ references, reference.Grounded bytes) {listing : Listing}
    (h : holds listing) : holds (references.foldl note listing) := by
  induction references generalizing listing with
  | nil => exact h
  | cons head rest ih =>
      apply ih fun reference hmem => hgrounded reference (List.mem_cons_of_mem head hmem)
      exact hnote listing head (hgrounded head List.mem_cons_self) h

theorem foldl_note_extends (references : List Reference) (listing : Listing) :
    listing.Extends (references.foldl note listing) := by
  induction references generalizing listing with
  | nil => exact .refl listing
  | cons head rest ih => exact (Extends.note listing head).trans (ih _)

/-- What is noted on the way is there in the end. -/
theorem has_foldl_note {references : List Reference} (listing : Listing) {reference : Reference}
    (h : reference ∈ references) : (references.foldl note listing).Has reference := by
  induction references generalizing listing with
  | nil => exact absurd h List.not_mem_nil
  | cons head rest ih =>
      rcases List.mem_cons.mp h with rfl | hrest
      · exact (foldl_note_extends rest _).has _ (has_note listing reference)
      · exact ih _ hrest

/-! ### What blocks and walks keep -/

/-- What writing and noting keep, listing a block keeps. -/
theorem block_preserves {bytes : Bytes} {holds : Listing → Prop}
    (hwrite : ∀ (l : Listing) (text : String), holds l → holds (l.write text))
    (hnote : ∀ (l : Listing) (reference : Reference), reference.Grounded bytes → holds l →
      holds (l.note reference)) (fuel : Nat) (c : Cursor) {listing : Listing}
    (h : holds listing) : holds (block bytes fuel c listing).1 := by
  induction fuel generalizing c listing with
  | zero => exact h
  | succ fuel ih =>
      rw [block]
      rcases Scan.u8.run bytes c with ⟨error | opcode, c'⟩
      · exact hwrite _ _ h
      · dsimp only
        split
        · exact h
        · have hregular : (Site.at opcode c.pos).list.Regular bytes Scan.Any := .list _
          have hfound := hregular.run_finds (c := { c' with finds := [] }) (by simp)
          rcases hlist : (Site.at opcode c.pos).list.run bytes { c' with finds := [] } with
            ⟨error | text, c''⟩
          all_goals
            rw [hlist] at hfound
            have hnoted := foldl_note_preserves hnote hfound h
          · exact hwrite _ _ hnoted
          · cases text with
            | none => exact hwrite _ _ hnoted
            | some text => exact ih c'' (hwrite _ _ hnoted)

/-- The heading of a block. -/
def heading (index : Nat) (offset : UInt32) : String :=
  s!"{blockName index} (offset {hexOffset offset.toNat})\n"

theorem heading_eq (index : Nat) (offset : UInt32) :
    heading index offset = s!"{blockName index} (offset {hexOffset offset.toNat})" ++ "\n" := by
  have hend : toString ")\n" = toString ")" ++ "\n" := rfl
  simp only [heading, hend, String.append_assoc]

/-- The last line of a block, and the blank line behind it. -/
def footing (stop : Nat) : String :=
  s!"(end offset {hexOffset stop})\n\n"

/-- A walk lists one block and goes on with the next. -/
theorem walk_succ {bytes : Bytes} {index : Nat} {listing : Listing} {offset : UInt32}
    (h : listing.blocks[index]? = some offset) (fuel : Nat) (reads : List Span) :
    walk bytes (fuel + 1) index listing reads =
      let listed := block bytes (bytes.size + 1) ⟨offset.toNat, reads, []⟩
        (listing.write (heading index offset))
      walk bytes fuel (index + 1) (listed.1.write (footing listed.2.pos)) listed.2.reads := by
  rw [walk, h]
  rfl

/-- So does the walk over all blocks. -/
theorem walk_preserves {bytes : Bytes} {holds : Listing → Prop}
    (hwrite : ∀ (l : Listing) (text : String), holds l → holds (l.write text))
    (hnote : ∀ (l : Listing) (reference : Reference), reference.Grounded bytes → holds l →
      holds (l.note reference)) (fuel index : Nat) (reads : List Span) {listing : Listing}
    (h : holds listing) : holds (walk bytes fuel index listing reads).1 := by
  induction fuel generalizing index reads listing with
  | zero => exact h
  | succ fuel ih =>
      cases hoffset : listing.blocks[index]? with
      | none =>
          rw [walk, hoffset]
          exact h
      | some offset =>
          rw [walk_succ hoffset]
          have hlisted := block_preserves hwrite hnote (bytes.size + 1) ⟨offset.toNat, reads, []⟩
            (hwrite listing (heading index offset) h)
          exact ih _ _ (hwrite _ _ hlisted)

theorem block_extends (bytes : Bytes) (fuel : Nat) (c : Cursor) (listing : Listing) :
    listing.Extends (block bytes fuel c listing).1 :=
  block_preserves (fun _ text h => h.trans (.write _ text))
    (fun _ reference _ h => h.trans (.note _ reference)) fuel c (.refl listing)

theorem walk_extends (bytes : Bytes) (fuel index : Nat) (listing : Listing) (reads : List Span) :
    listing.Extends (walk bytes fuel index listing reads).1 :=
  walk_preserves (fun _ text h => h.trans (.write _ text))
    (fun _ reference _ h => h.trans (.note _ reference)) fuel index reads (.refl listing)

end Listing

/-! ### The path of a script -/

/-- The opcode of the instruction at a position; 0xff ends a block and is none. -/
structure OpcodeAt (bytes : Bytes) (p : Nat) (opcode : UInt8) : Prop where
  gives : Scan.u8.Gives bytes p opcode (p + 1)
  ne_end : opcode ≠ 0xff

/-- The instruction at `p` can be stepped over, and the next one stands at `q`. -/
def Follows (bytes : Bytes) (p q : Nat) : Prop :=
  ∃ opcode references, OpcodeAt bytes p opcode ∧
    (Site.at opcode p).Lists bytes (p + 1) q references

/-- The positions that a script gets to without a branch. -/
def OnPath (bytes : Bytes) (start p : Nat) : Prop :=
  Relation.ReflTransGen (Follows bytes) start p

theorem OpcodeAt.lt_size {bytes : Bytes} {p : Nat} {opcode : UInt8} (h : OpcodeAt bytes p opcode) :
    p < bytes.size := by
  obtain ⟨c', hrun, _⟩ := h.gives (.start p) rfl
  exact (Scan.Takes.u8 _ _ _ _ hrun).2 (by decide)

theorem Site.Lists.le {bytes : Bytes} {site : Site} {p q : Nat} {references : List Reference}
    (h : site.Lists bytes p q references) : p ≤ q := by
  obtain ⟨text, c', hlist, rfl, _⟩ := h (.start p) rfl
  have hregular : site.list.Regular bytes Scan.Any := .list site
  have hle := hregular.run_le_pos (.start p)
  rwa [hlist] at hle

namespace Listing

variable {bytes : Bytes}

/-- A listing whose text ends with a full line. -/
def EndsLine (listing : Listing) : Prop :=
  ∃ lines, listing.text = lines ++ "\n"

theorem endsLine_write (listing : Listing) (line : String) :
    (listing.write (line ++ "\n")).EndsLine :=
  ⟨listing.text ++ line, by simp [write, String.append_assoc]⟩

/-- An instruction that has a line of the listing. -/
def Shows (listing : Listing) (site : Site) : Prop :=
  ∃ before after, listing.text = before ++ "\n" ++ site.header ++ after

theorem Shows.of_extends {a b : Listing} {site : Site} (h : a.Shows site) (hext : a.Extends b) :
    b.Shows site := by
  obtain ⟨before, after, htext⟩ := h
  obtain ⟨rest, hrest⟩ := hext.text
  exact ⟨before, after ++ rest, by rw [hrest, htext, String.append_assoc]⟩

theorem foldl_note_text (references : List Reference) (listing : Listing) :
    (references.foldl note listing).text = listing.text := by
  induction references generalizing listing with
  | nil => rfl
  | cons head rest ih =>
      have hnote : (listing.note head).text = listing.text := by
        cases head <;> simp only [note] <;> split <;> rfl
      exact (ih _).trans hnote

/-- A line that is written after full lines. -/
theorem EndsLine.shows {listing : Listing} (h : listing.EndsLine) (references : List Reference)
    (site : Site) (rest : String) :
    ((references.foldl note listing).write (site.header ++ rest)).Shows site := by
  obtain ⟨lines, hlines⟩ := h
  refine ⟨lines, rest, ?_⟩
  simp only [write, foldl_note_text, hlines, String.append_assoc]

/-- Listing a block steps over an instruction, with a line for it and with what it refers to. -/
theorem block_step (fuel : Nat) {c : Cursor} {opcode : UInt8} {q : Nat}
    {references : List Reference} (hopcode : OpcodeAt bytes c.pos opcode)
    (hlists : (Site.at opcode c.pos).Lists bytes (c.pos + 1) q references) (listing : Listing) :
    ∃ (c' : Cursor) (listing' : Listing),
      block bytes (fuel + 1) c listing = block bytes fuel c' listing' ∧ c'.pos = q ∧
        listing'.EndsLine ∧ ∀ reference ∈ references, listing'.Has reference := by
  obtain ⟨d, hd, hdpos⟩ := hopcode.gives c rfl
  obtain ⟨text, c', hlist, hpos, hfinds⟩ := hlists { d with finds := [] } hdpos
  refine ⟨c', (c'.finds.foldl note listing).write ((Site.at opcode c.pos).header ++ text ++ "\n"),
    ?_, hpos, endsLine_write _ _, ?_⟩
  · rw [block, hd]
    simp only [hopcode.ne_end, ↓reduceIte, hlist]
  · intro reference hreference
    exact (Extends.write _ _).has _ (has_foldl_note listing (hfinds reference hreference))

/-- Listing a block gets to every position on its path, before the fuel is spent. -/
theorem block_gets_to {start p : Nat} (hpath : OnPath bytes start p) {fuel : Nat} {c : Cursor}
    {listing : Listing} (hc : c.pos = start) (hfuel : bytes.size < fuel + start)
    (hline : listing.EndsLine) :
    ∃ (fuel' : Nat) (c' : Cursor) (listing' : Listing),
      block bytes fuel c listing = block bytes fuel' c' listing' ∧ c'.pos = p ∧
        bytes.size < fuel' + p ∧ listing'.EndsLine := by
  induction hpath using Relation.ReflTransGen.head_induction_on generalizing fuel c listing with
  | refl => exact ⟨fuel, c, listing, rfl, hc, hfuel, hline⟩
  | @head a b hfollows _ ih =>
      obtain ⟨opcode, references, hopcode, hlists⟩ := hfollows
      have hlt := hopcode.lt_size
      obtain ⟨fuel, rfl⟩ : ∃ rest, fuel = rest + 1 := ⟨fuel - 1, by omega⟩
      have hle : a + 1 ≤ b := hlists.le
      subst hc
      obtain ⟨c', listing', hblock, hpos, hline', _⟩ := block_step fuel hopcode hlists listing
      rw [hblock]
      exact ih hpos (by omega) hline'

/-- The first instruction of a block has a line, also if it cannot be stepped over. -/
theorem block_shows_first {fuel : Nat} {c : Cursor} {opcode : UInt8}
    (hopcode : OpcodeAt bytes c.pos opcode) {listing : Listing} (hline : listing.EndsLine) :
    (block bytes (fuel + 1) c listing).1.Shows (Site.at opcode c.pos) := by
  obtain ⟨d, hd, _⟩ := hopcode.gives c rfl
  rw [block, hd]
  simp only [hopcode.ne_end, ↓reduceIte]
  rcases (Site.at opcode c.pos).list.run bytes { d with finds := [] } with ⟨error | text, c'⟩
  · simp only [String.append_assoc]
    exact hline.shows _ _ _
  · cases text with
    | none => exact hline.shows _ _ _
    | some text =>
        refine Shows.of_extends ?_ (block_extends bytes fuel c' _)
        rw [String.append_assoc]
        exact hline.shows _ _ _

/-! ### The main block -/

/-- The listing of a script when its main block is done, and where that ends. -/
def mainBlock (bytes : Bytes) (offset : UInt32) : Listing × Cursor :=
  block bytes (bytes.size + 1) (.start offset.toNat) ((start offset).write (heading 0 offset))

/-- A script's listing goes on behind its main block. -/
theorem mainBlock_extends (bytes : Bytes) (offset : UInt32) :
    ((mainBlock bytes offset).1.write (footing (mainBlock bytes offset).2.pos)).Extends
      (parse bytes offset) := by
  have hentry : (start offset).blocks[0]? = some offset := rfl
  rw [parse, explore, walk_succ hentry]
  exact walk_extends bytes (bytes.size + 1) 1 _ _

theorem parse_offset (bytes : Bytes) (offset : UInt32) : (parse bytes offset).offset = offset :=
  (walk_extends bytes (bytes.size + 2) 0 (start offset) []).offset_eq

/-- The text of a listing that has the line of an instruction in its main block. -/
def ShowsInMain (bytes : Bytes) (listing : Listing) (site : Site) : Prop :=
  (mainBlock bytes listing.offset).1.Shows site ∧
    ∃ rest, listing.text = (mainBlock bytes listing.offset).1.text ++
      footing (mainBlock bytes listing.offset).2.pos ++ rest

variable {offset : UInt32} {p : Nat} {opcode : UInt8}

/-- Listing the main block gets to every position on the path of the script. -/
theorem mainBlock_gets_to (hpath : OnPath bytes offset.toNat p)
    (hopcode : OpcodeAt bytes p opcode) :
    ∃ (fuel : Nat) (c : Cursor) (listing : Listing),
      mainBlock bytes offset = block bytes (fuel + 1) c listing ∧ c.pos = p ∧ listing.EndsLine := by
  have hline : ((start offset).write (heading 0 offset)).EndsLine := by
    rw [heading_eq]
    exact endsLine_write _ _
  have henough : bytes.size < (bytes.size + 1) + offset.toNat := by omega
  obtain ⟨fuel, c, listing, hblock, hpos, hfuel, hends⟩ :=
    block_gets_to hpath (c := .start offset.toNat) rfl henough hline
  have hlt := hopcode.lt_size
  obtain ⟨fuel, rfl⟩ : ∃ rest, fuel = rest + 1 := ⟨fuel - 1, by omega⟩
  exact ⟨fuel, c, listing, hblock, hpos, hends⟩

/-- Every instruction on the path of a script has a line in the main block. -/
theorem parse_shows (hpath : OnPath bytes offset.toNat p) (hopcode : OpcodeAt bytes p opcode) :
    (parse bytes offset).ShowsInMain bytes (Site.at opcode p) := by
  obtain ⟨fuel, c, listing, hblock, rfl, hends⟩ := mainBlock_gets_to hpath hopcode
  rw [ShowsInMain, parse_offset]
  refine ⟨?_, (mainBlock_extends bytes offset).text⟩
  rw [hblock]
  exact block_shows_first hopcode hends

/-- What an instruction on the path refers to is taken over. -/
theorem parse_has (hpath : OnPath bytes offset.toNat p) (hopcode : OpcodeAt bytes p opcode)
    {q : Nat} {references : List Reference}
    (hlists : (Site.at opcode p).Lists bytes (p + 1) q references) :
    ∀ reference ∈ references, (parse bytes offset).Has reference := by
  intro reference hreference
  obtain ⟨fuel, c, listing, hblock, rfl, _⟩ := mainBlock_gets_to hpath hopcode
  obtain ⟨c', listing', hstep, _, _, hhas⟩ := block_step fuel hopcode hlists listing
  have hmain : (mainBlock bytes offset).1.Has reference := by
    rw [hblock, hstep]
    exact (block_extends bytes fuel c' listing').has _ (hhas reference hreference)
  exact (mainBlock_extends bytes offset).has _ ((Extends.write _ _).has _ hmain)

/-- Every script that a listing calls stands in the buffer as a word, and that word is not zero. -/
def CallsGrounded (bytes : Bytes) (listing : Listing) : Prop :=
  ∀ call ∈ listing.calls, IsWord bytes call.offset ∧ call.offset ≠ 0

theorem CallsGrounded.note {listing : Listing} (h : listing.CallsGrounded bytes)
    {reference : Reference} (hreference : reference.Grounded bytes) :
    (listing.note reference).CallsGrounded bytes := by
  cases reference with
  | script name offset reason =>
      simp only [Listing.note]
      split
      · exact h
      · next hne =>
        intro call hcall
        rcases eq_or_mem_of_mem_sortedInsert hcall with rfl | hold
        · exact ⟨hreference, hne⟩
        · exact h call hold
  | block offset =>
      simp only [Listing.note]
      split
      · exact h
      · exact h
  | animation anim => exact h
  | path offset => exact h

theorem parse_callsGrounded (bytes : Bytes) (offset : UInt32) :
    (parse bytes offset).CallsGrounded bytes := by
  have hstart : (start offset).CallsGrounded bytes :=
    fun call hcall => absurd hcall List.not_mem_nil
  exact walk_preserves (fun _ _ h => h) (fun _ _ hreference h => h.note hreference) _ _ _ hstart

end Listing

end LevelScript
