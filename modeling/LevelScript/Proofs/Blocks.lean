import LevelScript.Proofs.MainBlock
import LevelScript.Proofs.Targets
import Mathlib.Data.List.Induction
import Mathlib.Data.List.Nodup

/-!
The blocks of a listing.

A listing goes over its blocks while the list of them still grows.  Its two loops, over blocks and
over the instructions of a block, stand here as relations that bound neither: whatever the buffer
holds, the listing of a script is where they end.  The blocks of that listing are those to which
the entry leads, in the order in which they turn up.
-/

namespace LevelScript

variable {bytes : Bytes}

/-! ### What a block refers to -/

/-- An instruction of the block at a position refers to something. -/
def Refers (bytes : Bytes) (start : Nat) (reference : Reference) : Prop :=
  ∃ p opcode, OnPath bytes start p ∧ OpcodeAt bytes p opcode ∧
    reference ∈ (Site.at opcode p).finds bytes (p + 1)

theorem OpcodeAt.run_start {p : Nat} {opcode : UInt8} (h : OpcodeAt bytes p opcode) :
    (Scan.u8.run bytes (.start p)).1 = .ok opcode := by
  obtain ⟨c, hrun, _⟩ := h.gives (.start p) rfl
  rw [hrun]

theorem OpcodeAt.unique {p : Nat} {opcode opcode' : UInt8} (h : OpcodeAt bytes p opcode)
    (h' : OpcodeAt bytes p opcode') : opcode = opcode' :=
  Except.ok.inj (h.run_start.symm.trans h'.run_start)

theorem opcodeAt_of_run {c d : Cursor} {opcode : UInt8}
    (h : Scan.u8.run bytes c = (.ok opcode, d)) (hne : opcode ≠ 0xff) :
    OpcodeAt bytes c.pos opcode := by
  have hgives := Scan.Gives.of_run .u8 h
  rw [(Scan.Takes.u8 _ _ _ _ h).1] at hgives
  exact ⟨hgives, hne⟩

theorem follows_of_run {p : Nat} {opcode : UInt8} (hopcode : OpcodeAt bytes p opcode)
    {text : String} {c : Cursor}
    (h : (Site.at opcode p).list.run bytes (.start (p + 1)) = (.ok (some text), c)) :
    Follows bytes p c.pos := by
  refine ⟨opcode, [], hopcode, ?_⟩
  intro d hd
  obtain ⟨d', hrun, hpos⟩ := Scan.Gives.of_run (.list _) h d hd
  exact ⟨text, d', hrun, hpos, by simp⟩

/-- An instruction has a successor only if all its operands can be read. -/
theorem Follows.run {p q : Nat} {opcode : UInt8} (h : Follows bytes p q)
    (hopcode : OpcodeAt bytes p opcode) :
    ∃ text c, (Site.at opcode p).list.run bytes (.start (p + 1)) = (.ok (some text), c) ∧
      c.pos = q := by
  obtain ⟨opcode', references, hopcode', hlists⟩ := h
  obtain rfl := hopcode.unique hopcode'
  obtain ⟨text, c, hrun, hpos, _⟩ := hlists (.start (p + 1)) rfl
  exact ⟨text, c, hrun, hpos⟩

/-- What a block refers to, its first instruction does or the rest of it. -/
theorem refers_iff {p : Nat} {opcode : UInt8} (hopcode : OpcodeAt bytes p opcode)
    {reference : Reference} :
    Refers bytes p reference ↔ reference ∈ (Site.at opcode p).finds bytes (p + 1) ∨
      ∃ q, Follows bytes p q ∧ Refers bytes q reference := by
  constructor
  · rintro ⟨p', opcode', hpath, hopcode', hmem⟩
    rcases hpath.cases_head with rfl | ⟨q, hfollows, hrest⟩
    · obtain rfl := hopcode.unique hopcode'
      exact .inl hmem
    · exact .inr ⟨q, hfollows, p', opcode', hrest, hopcode', hmem⟩
  · rintro (hmem | ⟨q, hfollows, p', opcode', hrest, hopcode', hmem⟩)
    · exact ⟨p, opcode, .refl, hopcode, hmem⟩
    · exact ⟨p', opcode', .head hfollows hrest, hopcode', hmem⟩

/-- An instruction that is not stepped over is the last one of its block. -/
theorem refers_iff_of_last {p : Nat} {opcode : UInt8} (hopcode : OpcodeAt bytes p opcode)
    (hlast : ∀ text, ((Site.at opcode p).list.run bytes (.start (p + 1))).1 ≠ .ok (some text))
    {reference : Reference} :
    Refers bytes p reference ↔ reference ∈ (Site.at opcode p).finds bytes (p + 1) := by
  rw [refers_iff hopcode, or_iff_left]
  rintro ⟨q, hfollows, _⟩
  obtain ⟨text, c, hrun, _⟩ := hfollows.run hopcode
  exact hlast text (congrArg Prod.fst hrun)

/-- Where no instruction starts, there is nothing to refer to. -/
theorem not_refers {p : Nat} (h : ∀ opcode, ¬ OpcodeAt bytes p opcode) (reference : Reference) :
    ¬ Refers bytes p reference := by
  rintro ⟨p', opcode, hpath, hopcode, _⟩
  rcases hpath.cases_head with rfl | ⟨q, ⟨first, _, hfirst, _⟩, _⟩
  · exact h opcode hopcode
  · exact h first hfirst

/-- The block that a reference leads to; offset zero stands for no block. -/
def Reference.target? : Reference → Option UInt32
  | block offset => if offset = 0 then none else some offset
  | _ => none

theorem Reference.target?_eq_some {reference : Reference} {target : UInt32} :
    reference.target? = some target ↔ target ≠ 0 ∧ reference = .block target := by
  cases reference <;> grind [Reference.target?]

/-- An instruction of one block leads to another block. -/
def LeadsTo (bytes : Bytes) (block target : UInt32) : Prop :=
  target ≠ 0 ∧ Refers bytes block.toNat (.block target)

theorem Refers.grounded {p : Nat} {reference : Reference} (h : Refers bytes p reference) :
    reference.Grounded bytes := by
  obtain ⟨p', opcode, _, _, hmem⟩ := h
  exact (Scan.Regular.list (Site.at opcode p')).finds (p' + 1) reference hmem

namespace Listing

/-! ### The loops of a listing -/

/-- Lists the instructions of the block at a position, however many these are: the listing before,
what they refer to, where the block ends, and the listing after. -/
inductive ListsBlock (bytes : Bytes) : Nat → Listing → List Reference → Nat → Listing → Prop
  | unreadable {p listing error c} (hread : Scan.u8.run bytes (.start p) = (.error error, c)) :
      ListsBlock bytes p listing [] c.pos (listing.write (error.message ++ "\n"))
  | ends {p listing c} (hread : Scan.u8.run bytes (.start p) = (.ok 0xff, c)) :
      ListsBlock bytes p listing [] c.pos listing
  | stepsOver {p listing opcode text c references q listed} (hopcode : OpcodeAt bytes p opcode)
      (hlist : (Site.at opcode p).list.run bytes (.start (p + 1)) = (.ok (some text), c))
      (hrest : ListsBlock bytes c.pos
        ((c.finds.foldl note listing).write ((Site.at opcode p).header ++ text ++ "\n"))
        references q listed) :
      ListsBlock bytes p listing (c.finds ++ references) q listed
  | notModeled {p listing opcode c} (hopcode : OpcodeAt bytes p opcode)
      (hlist : (Site.at opcode p).list.run bytes (.start (p + 1)) = (.ok none, c)) :
      ListsBlock bytes p listing c.finds c.pos ((c.finds.foldl note listing).write
        ((Site.at opcode p).header ++ " not modeled, listing stops here\n"))
  | fails {p listing opcode error c} (hopcode : OpcodeAt bytes p opcode)
      (hlist : (Site.at opcode p).list.run bytes (.start (p + 1)) = (.error error, c)) :
      ListsBlock bytes p listing c.finds c.pos ((c.finds.foldl note listing).write
        ((Site.at opcode p).header ++ " " ++ error.message ++ "\n"))

/-- Lists the blocks from an index on, however many turn up: what each of them refers to, and the
listing when there is no further block. -/
inductive Walks (bytes : Bytes) : Nat → Listing → List (List Reference) → Listing → Prop
  | done {index listing} (hlast : listing.blocks[index]? = none) :
      Walks bytes index listing [] listing
  | block {index listing offset references q listed reports final}
      (hblock : listing.blocks[index]? = some offset)
      (hlisted : ListsBlock bytes offset.toNat (listing.write (heading index offset))
        references q listed)
      (hrest : Walks bytes (index + 1) (listed.write (footing q)) reports final) :
      Walks bytes index listing (references :: reports) final

/-- Every instruction takes a byte, so the fuel for a block never gives out. -/
theorem listsBlock_block {fuel : Nat} {c : Cursor} (hsome : 0 < fuel)
    (hfuel : bytes.size < fuel + c.pos) (listing : Listing) :
    ∃ references, ListsBlock bytes c.pos listing references (block bytes fuel c listing).2.pos
      (block bytes fuel c listing).1 := by
  induction fuel generalizing c listing with
  | zero => omega
  | succ fuel ih =>
      have hbyte : Scan.u8.Regular bytes Scan.Any := .u8
      rw [block, hbyte.run_eq]
      rcases hstart : Scan.u8.run bytes (.start c.pos) with ⟨error | opcode, d⟩
      · exact ⟨[], .unreadable (c := d) hstart⟩
      · dsimp only
        split
        · next hend => exact ⟨[], .ends (c := d) (hend ▸ hstart)⟩
        · next hne =>
          have hopcode : OpcodeAt bytes c.pos opcode :=
            opcodeAt_of_run (c := .start c.pos) hstart hne
          have hdpos : d.pos = c.pos + 1 := (Scan.Takes.u8 _ _ _ _ hstart).1
          have hregular : (Site.at opcode c.pos).list.Regular bytes Scan.Any := .list _
          rw [hregular.run_eq, Cursor.join_pos, hdpos]
          rcases hlist : (Site.at opcode c.pos).list.run bytes (.start (c.pos + 1)) with
            ⟨error | text, e⟩
          · exact ⟨e.finds, .fails hopcode hlist⟩
          · cases text with
            | none => exact ⟨e.finds, .notModeled hopcode hlist⟩
            | some text =>
                have hle : c.pos + 1 ≤ e.pos := by simpa [hlist] using hregular.le_pos (c.pos + 1)
                have hlt := hopcode.lt_size
                obtain ⟨references, hrest⟩ := ih (c := .join { c.join d with finds := [] } e)
                  (by omega) (by rw [Cursor.join_pos]; omega)
                  ((e.finds.foldl note listing).write
                    ((Site.at opcode c.pos).header ++ text ++ "\n"))
                exact ⟨e.finds ++ references, .stepsOver hopcode hlist hrest⟩

/-- A listed block gives just what it refers to. -/
theorem ListsBlock.mem_iff {p q : Nat} {listing listed : Listing} {references : List Reference}
    (h : ListsBlock bytes p listing references q listed) (reference : Reference) :
    reference ∈ references ↔ Refers bytes p reference := by
  induction h with
  | unreadable hread =>
      refine iff_of_false List.not_mem_nil (not_refers ?_ reference)
      intro opcode hopcode
      have hok := hopcode.run_start
      rw [hread] at hok
      cases hok
  | ends hread =>
      refine iff_of_false List.not_mem_nil (not_refers ?_ reference)
      intro opcode hopcode
      have hok := hopcode.run_start
      rw [hread] at hok
      exact hopcode.ne_end (Except.ok.inj hok).symm
  | stepsOver hopcode hlist _ ih =>
      rw [List.mem_append, ih, refers_iff hopcode, Site.finds, hlist]
      refine or_congr_right ⟨fun hrest => ⟨_, follows_of_run hopcode hlist, hrest⟩, ?_⟩
      rintro ⟨q, hfollows, hrest⟩
      obtain ⟨text, c, hrun, rfl⟩ := hfollows.run hopcode
      rw [hlist] at hrun
      cases hrun
      exact hrest
  | notModeled hopcode hlist =>
      rw [refers_iff_of_last hopcode (by simp [hlist]), Site.finds, hlist]
  | fails hopcode hlist =>
      rw [refers_iff_of_last hopcode (by simp [hlist]), Site.finds, hlist]

theorem ListsBlock.mem_targets {block target : UInt32} {q : Nat} {listing listed : Listing}
    {references : List Reference}
    (h : ListsBlock bytes block.toNat listing references q listed) :
    target ∈ references.filterMap Reference.target? ↔ LeadsTo bytes block target := by
  rw [List.mem_filterMap, LeadsTo, ← h.mem_iff]
  constructor
  · rintro ⟨reference, hreference, heq⟩
    obtain ⟨hne, rfl⟩ := Reference.target?_eq_some.mp heq
    exact ⟨hne, hreference⟩
  · rintro ⟨hne, hreference⟩
    exact ⟨_, hreference, Reference.target?_eq_some.mpr ⟨hne, rfl⟩⟩

/-! ### The order of discovery -/

theorem eraseDups_concat (xs : List UInt32) (b : UInt32) :
    (xs ++ [b]).eraseDups = if b ∈ xs then xs.eraseDups else xs.eraseDups ++ [b] := by
  rw [List.eraseDups_append]
  split
  · next h => simp [List.removeAll, h]
  · next h => simp [List.removeAll, h, List.eraseDups_cons]

theorem nodup_eraseDups (xs : List UInt32) : xs.eraseDups.Nodup := by
  induction xs using List.reverseRecOn with
  | nil => exact List.nodup_nil
  | append_singleton xs b ih =>
      rw [eraseDups_concat]
      split
      · exact ih
      · next h =>
        refine List.nodup_append.mpr ⟨ih, List.nodup_singleton b, ?_⟩
        intro x hx y hy
        rw [List.mem_singleton.mp hy]
        rintro rfl
        exact h (List.mem_eraseDups.mp hx)

@[simp]
theorem blocks_write (listing : Listing) (text : String) :
    (listing.write text).blocks = listing.blocks := rfl

/-- Blocks turn up where a reference first leads to them. -/
theorem blocks_note {listing : Listing} {trail : List UInt32}
    (h : listing.blocks.toList = trail.eraseDups) (reference : Reference) :
    (listing.note reference).blocks.toList = (trail ++ reference.target?.toList).eraseDups := by
  cases reference with
  | block target =>
      have hmem : target ∈ listing.blocks ↔ target ∈ trail := by
        rw [Array.mem_def, h, List.mem_eraseDups]
      by_cases hzero : target = 0
      · simp [note, Reference.target?, hzero, h]
      · by_cases hold : target ∈ trail
        · simp [note, Reference.target?, hzero, h, hmem, hold, eraseDups_concat]
        · simp [note, Reference.target?, hzero, h, hmem, hold, eraseDups_concat]
  | script name target reason =>
      simp only [note]
      split
      · simpa [Reference.target?] using h
      · simpa [Reference.target?] using h
  | animation anim => simpa [note, Reference.target?] using h
  | path target => simpa [note, Reference.target?] using h

theorem blocks_foldl_note {listing : Listing} {trail : List UInt32}
    (h : listing.blocks.toList = trail.eraseDups) (references : List Reference) :
    (references.foldl note listing).blocks.toList =
      (trail ++ references.filterMap Reference.target?).eraseDups := by
  induction references generalizing listing trail with
  | nil => simpa using h
  | cons reference references ih =>
      rw [List.foldl_cons, ih (blocks_note h reference), List.filterMap_cons]
      cases reference.target? <;> simp

theorem ListsBlock.blocks {p q : Nat} {listing listed : Listing} {references : List Reference}
    (h : ListsBlock bytes p listing references q listed) {trail : List UInt32}
    (hlisting : listing.blocks.toList = trail.eraseDups) :
    listed.blocks.toList = (trail ++ references.filterMap Reference.target?).eraseDups := by
  induction h generalizing trail with
  | unreadable _ => simpa using hlisting
  | ends _ => simpa using hlisting
  | stepsOver _ _ _ ih =>
      rw [ih (blocks_foldl_note hlisting _), List.append_assoc, List.filterMap_append]
  | notModeled _ _ => exact blocks_foldl_note hlisting _
  | fails _ _ => exact blocks_foldl_note hlisting _

/-- A listing whose blocks are the entry and those to which references have led so far, each where
it first turned up; but for the entry these are words of the buffer. -/
structure Found (bytes : Bytes) (offset : UInt32) (trail : List UInt32) (listing : Listing) :
    Prop where
  blocks_eq : listing.blocks.toList = (offset :: trail).eraseDups
  isWord : ∀ target ∈ trail, IsWord bytes target

namespace Found

variable {offset : UInt32} {trail : List UInt32} {listing listed : Listing} {q : Nat}
  {references : List Reference}

theorem write (h : listing.Found bytes offset trail) (text : String) :
    (listing.write text).Found bytes offset trail :=
  ⟨h.blocks_eq, h.isWord⟩

theorem entry (h : listing.Found bytes offset trail) : listing.blocks[0]? = some offset := by
  rw [← Array.getElem?_toList, h.blocks_eq, List.eraseDups_cons, List.getElem?_cons_zero]

theorem nodup (h : listing.Found bytes offset trail) : listing.blocks.toList.Nodup := by
  rw [h.blocks_eq]
  exact nodup_eraseDups _

/-- There are no more blocks than the entry and the words of the buffer. -/
theorem size_le (h : listing.Found bytes offset trail) :
    listing.blocks.size ≤ 1 + (bytes.size - 3) := by
  have hsub : listing.blocks.toList ⊆ offset :: words bytes := by
    intro block hblock
    rw [h.blocks_eq, List.mem_eraseDups] at hblock
    rcases List.mem_cons.mp hblock with rfl | hmem
    · exact List.mem_cons_self
    · exact List.mem_cons_of_mem _ (mem_words (h.isWord block hmem))
  have hle := h.nodup.length_le_of_subset hsub
  have hwords := length_words_le bytes
  rw [Array.length_toList, List.length_cons] at hle
  omega

theorem block (h : listing.Found bytes offset trail) {block : UInt32}
    (hlisted : ListsBlock bytes block.toNat listing references q listed) :
    listed.Found bytes offset (trail ++ references.filterMap Reference.target?) where
  blocks_eq := hlisted.blocks h.blocks_eq
  isWord := by
    intro target htarget
    rcases List.mem_append.mp htarget with hold | hnew
    · exact h.isWord target hold
    · exact (hlisted.mem_targets.mp hnew).2.grounded

/-- Listing a block leaves the blocks in their places, and puts those behind them to which the
block leads. -/
theorem grows (h : listing.Found bytes offset trail) {block : UInt32}
    (hlisted : ListsBlock bytes block.toNat listing references q listed) :
    ∃ more, listed.blocks.toList = listing.blocks.toList ++ more ∧
      ∀ target ∈ more, LeadsTo bytes block target := by
  -- Erasing duplicates from a longer trail keeps what the trail had before.
  refine ⟨((references.filterMap Reference.target?).removeAll (offset :: trail)).eraseDups, ?_, ?_⟩
  · rw [hlisted.blocks h.blocks_eq, List.eraseDups_append, h.blocks_eq]
  · intro target htarget
    exact hlisted.mem_targets.mp (List.mem_of_mem_filter (List.mem_eraseDups.mp htarget))

end Found

/-- Every block is a new one, so the fuel for the blocks never gives out either. -/
theorem walks_walk {offset : UInt32} {trail : List UInt32} {fuel index : Nat} {listing : Listing}
    (hfound : listing.Found bytes offset trail) (hindex : index ≤ listing.blocks.size)
    (hfuel : bytes.size + 2 ≤ fuel + index) (reads : List Span) :
    ∃ reports, Walks bytes index listing reports (walk bytes fuel index listing reads).1 := by
  induction fuel generalizing index listing trail reads with
  | zero =>
      have hle := hfound.size_le
      omega
  | succ fuel ih =>
      cases hblock : listing.blocks[index]? with
      | none =>
          rw [walk, hblock]
          exact ⟨[], .done hblock⟩
      | some block =>
          have henough : bytes.size < (bytes.size + 1) + block.toNat := by omega
          obtain ⟨references, hlisted⟩ := listsBlock_block (c := ⟨block.toNat, reads, []⟩)
            (Nat.zero_lt_succ _) henough (listing.write (heading index block))
          rw [walk_succ hblock]
          generalize Listing.block bytes (bytes.size + 1) ⟨block.toNat, reads, []⟩
            (listing.write (heading index block)) = result at hlisted ⊢
          obtain ⟨listed, c⟩ := result
          dsimp only at hlisted ⊢
          -- The list of blocks grows behind the index, so that stays within it.
          obtain ⟨more, hmore, _⟩ := (hfound.write _).grows hlisted
          have hsize := congrArg List.length hmore
          rw [List.length_append, Array.length_toList, Array.length_toList, blocks_write] at hsize
          obtain ⟨hlt, _⟩ := Array.getElem?_eq_some_iff.mp hblock
          have hindex' : index + 1 ≤ (listed.write (footing c.pos)).blocks.size := by
            rw [blocks_write]
            omega
          obtain ⟨reports, hrest⟩ := ih (((hfound.write _).block hlisted).write _) hindex'
            (by omega) c.reads
          exact ⟨references :: reports, .block hblock hlisted hrest⟩

/-- The blocks before an index are gone over: to what they lead has been found, and what has been
found is the entry or a place to which one of them leads that stands before it. -/
structure Charted (bytes : Bytes) (offset : UInt32) (index : Nat) (trail : List UInt32)
    (listing : Listing) : Prop extends listing.Found bytes offset trail where
  closed : ∀ (earlier : Nat) (block target : UInt32), earlier < index →
    listing.blocks[earlier]? = some block → LeadsTo bytes block target → target ∈ listing.blocks
  discovered : ∀ (later : Nat) (target : UInt32), 0 < later →
    listing.blocks[later]? = some target → ∃ (earlier : Nat) (block : UInt32), earlier < later ∧
      listing.blocks[earlier]? = some block ∧ LeadsTo bytes block target

namespace Charted

variable {offset : UInt32} {index : Nat} {trail : List UInt32} {listing : Listing}

theorem start (bytes : Bytes) (offset : UInt32) :
    (Listing.start offset).Charted bytes offset 0 [] where
  blocks_eq := rfl
  isWord := by simp
  closed := by simp
  discovered := by
    intro later target hlater hblock
    have hone : (Listing.start offset).blocks.size = 1 := rfl
    obtain ⟨hlt, _⟩ := Array.getElem?_eq_some_iff.mp hblock
    omega

theorem write (h : listing.Charted bytes offset index trail) (text : String) :
    (listing.write text).Charted bytes offset index trail :=
  ⟨h.toFound.write text, h.closed, h.discovered⟩

/-- One block is gone over. -/
theorem block (h : listing.Charted bytes offset index trail) {block : UInt32}
    (hblock : listing.blocks[index]? = some block) {references : List Reference} {q : Nat}
    {listed : Listing} (hlisted : ListsBlock bytes block.toNat listing references q listed) :
    listed.Charted bytes offset (index + 1)
      (trail ++ references.filterMap Reference.target?) := by
  obtain ⟨hlt, _⟩ := Array.getElem?_eq_some_iff.mp hblock
  obtain ⟨more, hmore, hleads⟩ := h.toFound.grows hlisted
  have hold : ∀ i < listing.blocks.size, listed.blocks[i]? = listing.blocks[i]? := by
    intro i hi
    rw [← Array.getElem?_toList, hmore, List.getElem?_append_left (by simpa using hi),
      Array.getElem?_toList]
  have hmem : ∀ target ∈ listing.blocks, target ∈ listed.blocks := by
    intro target htarget
    rw [Array.mem_def, hmore]
    exact List.mem_append_left _ (Array.mem_def.mp htarget)
  refine ⟨h.toFound.block hlisted, ?_, ?_⟩
  · intro earlier other target hearlier hother hleadsTo
    rw [hold earlier (by omega)] at hother
    by_cases hlast : earlier = index
    · subst hlast
      obtain rfl : block = other := by simpa [hblock] using hother
      rw [Array.mem_def, hlisted.blocks h.blocks_eq, List.mem_eraseDups]
      exact List.mem_append_right _ (hlisted.mem_targets.mpr hleadsTo)
    · exact hmem target (h.closed earlier other target (by omega) hother hleadsTo)
  · intro later target hlater htarget
    by_cases hknown : later < listing.blocks.size
    · rw [hold later hknown] at htarget
      obtain ⟨earlier, other, hearlier, hother, hleadsTo⟩ :=
        h.discovered later target hlater htarget
      exact ⟨earlier, other, hearlier, by rwa [hold earlier (by omega)], hleadsTo⟩
    · -- A block that was not there before comes from the block at the index.
      refine ⟨index, block, by omega, by rwa [hold index hlt], hleads target ?_⟩
      rw [← Array.getElem?_toList, hmore, List.getElem?_append_right (by simpa using hknown)]
        at htarget
      exact List.mem_of_getElem? htarget

end Charted

/-- In the end all blocks are gone over. -/
theorem Walks.charted {offset : UInt32} {index : Nat} {trail : List UInt32}
    {listing final : Listing} {reports : List (List Reference)}
    (hwalks : Walks bytes index listing reports final)
    (h : listing.Charted bytes offset index trail) :
    ∃ stop, final.blocks.size ≤ stop ∧
      final.Charted bytes offset stop (trail ++ reports.flatten.filterMap Reference.target?) := by
  induction hwalks generalizing trail with
  | @done index listing hlast =>
      exact ⟨index, Array.getElem?_eq_none_iff.mp hlast, by simpa using h⟩
  | block hblock hlisted _ ih =>
      obtain ⟨stop, hstop, hfinal⟩ := ih (((h.write _).block hblock hlisted).write _)
      refine ⟨stop, hstop, ?_⟩
      rwa [List.flatten_cons, List.filterMap_append, ← List.append_assoc]

/-! ### The blocks of a script -/

theorem walks_parse (bytes : Bytes) (offset : UInt32) :
    ∃ reports, Walks bytes 0 (start offset) reports (parse bytes offset) :=
  walks_walk (Charted.start bytes offset).toFound (Nat.zero_le _) (Nat.le_refl _) []

namespace Charted

variable {offset : UInt32} {stop : Nat} {trail : List UInt32} {final : Listing}

theorem mem_of_leadsTo (h : final.Charted bytes offset stop trail)
    (hstop : final.blocks.size ≤ stop) {block target : UInt32} (hblock : block ∈ final.blocks)
    (hleads : LeadsTo bytes block target) : target ∈ final.blocks := by
  obtain ⟨earlier, hearlier⟩ := Array.mem_iff_getElem?.mp hblock
  obtain ⟨hlt, _⟩ := Array.getElem?_eq_some_iff.mp hearlier
  exact h.closed earlier block target (by omega) hearlier hleads

/-- Every block is led to from the entry, by way of blocks before it. -/
theorem reachable (h : final.Charted bytes offset stop trail) (later : Nat) {target : UInt32}
    (htarget : final.blocks[later]? = some target) :
    Relation.ReflTransGen (LeadsTo bytes) offset target := by
  induction later using Nat.strongRecOn generalizing target with
  | ind later ih =>
      rcases Nat.eq_zero_or_pos later with rfl | hlater
      · obtain rfl : offset = target := by simpa [h.entry] using htarget
        exact .refl
      · obtain ⟨earlier, block, hearlier, hblock, hleads⟩ :=
          h.discovered later target hlater htarget
        exact (ih earlier hearlier hblock).tail hleads

theorem mem_iff (h : final.Charted bytes offset stop trail) (hstop : final.blocks.size ≤ stop)
    (block : UInt32) :
    block ∈ final.blocks ↔ Relation.ReflTransGen (LeadsTo bytes) offset block := by
  constructor
  · intro hblock
    obtain ⟨later, hlater⟩ := Array.mem_iff_getElem?.mp hblock
    exact h.reachable later hlater
  · intro hreach
    induction hreach with
    | refl => exact Array.mem_of_getElem? h.entry
    | tail _ hleads ih => exact h.mem_of_leadsTo hstop ih hleads

end Charted

/-- Both loops of a listing end, on every buffer and from every offset.  The blocks are then just
those to which the entry leads, in the order in which references lead to them: the entry is the
first, every other one is not zero and is named by an instruction of a block before it, and every
block that an instruction of theirs names, also if that instruction fails, is among them.  But for
the entry each is a word of the buffer at some position, which bounds their number. -/
theorem parse_blocks (bytes : Bytes) (offset : UInt32) :
    ∃ reports, Walks bytes 0 (start offset) reports (parse bytes offset) ∧
      (parse bytes offset).blocks.toList =
        (offset :: reports.flatten.filterMap Reference.target?).eraseDups ∧
      (parse bytes offset).blocks[0]? = some offset ∧
      (parse bytes offset).blocks.toList.Nodup ∧
      (∀ (later : Nat) (target : UInt32), 0 < later →
        (parse bytes offset).blocks[later]? = some target →
        target ≠ 0 ∧ ∃ (earlier : Nat) (block : UInt32), earlier < later ∧
          (parse bytes offset).blocks[earlier]? = some block ∧
          Refers bytes block.toNat (.block target)) ∧
      (∀ block ∈ (parse bytes offset).blocks, ∀ target ≠ 0,
        Refers bytes block.toNat (.block target) → target ∈ (parse bytes offset).blocks) ∧
      (∀ block, block ∈ (parse bytes offset).blocks ↔
        Relation.ReflTransGen (LeadsTo bytes) offset block) ∧
      (parse bytes offset).blocks.size ≤ 1 + (bytes.size - 3) ∧
      ∀ (p : Nat) (opcode : UInt8) (target : UInt32),
        .block target ∈ (Site.at opcode p).finds bytes (p + 1) →
        (Site.at opcode p).NamesBlocks bytes (p + 1) := by
  have hstart := Charted.start bytes offset
  obtain ⟨reports, hwalks⟩ := walks_parse bytes offset
  obtain ⟨stop, hstop, hfinal⟩ := hwalks.charted hstart
  rw [List.nil_append] at hfinal
  refine ⟨reports, hwalks, hfinal.blocks_eq, hfinal.entry, hfinal.nodup, ?_, ?_,
    hfinal.mem_iff hstop, hfinal.size_le, fun _ _ _ => Site.namesBlocks_of_mem_finds⟩
  · intro later target hlater htarget
    obtain ⟨earlier, block, hearlier, hblock, hne, hrefers⟩ :=
      hfinal.discovered later target hlater htarget
    exact ⟨hne, earlier, block, hearlier, hblock, hrefers⟩
  · exact fun block hblock target hne hrefers => hfinal.mem_of_leadsTo hstop hblock ⟨hne, hrefers⟩

/-- A script that branches to a list of jumps and into its own operands.  The list breaks off, after
it named one more block within these operands. -/
def overlapping : Bytes :=
  #[0x0d, 0xfe, 0x0b, 0x00, 0x00, 0x00, 0x01, 0x00, 0x00, 0x00, 0xff,
    0x0c, 0x03, 0x02, 0x00, 0x00, 0x00, 0x00, 0x00, 0x00, 0x00]

theorem parse_blocks_overlapping :
    (parse overlapping 0).blocks = #[0, 11, 1, 2] ∧
      ∃ (earlier : Nat) (block : UInt32), earlier < 3 ∧
        (parse overlapping 0).blocks[earlier]? = some block ∧
        Refers overlapping block.toNat (.block 2) := by
  have hblocks : (parse overlapping 0).blocks = #[0, 11, 1, 2] := by decide +kernel
  obtain ⟨_, _, _, _, _, hdiscovered, _⟩ := parse_blocks overlapping 0
  exact ⟨hblocks, (hdiscovered 3 2 (by decide) (by rw [hblocks]; rfl)).2⟩

end Listing

end LevelScript
