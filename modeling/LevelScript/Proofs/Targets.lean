import LevelScript.Proofs.Agreement

/-!
Which instructions lead to blocks.

Most scans come across no block at all; that is kept by each way of putting scans together.  What
remains are the instructions with a branch among their operands, those with a list of blocks, two
that hold a block in their first bytes, and touches, if their flags say that a block follows.
-/

namespace LevelScript

namespace Scan

variable {ε α β : Type}

/-- Whatever it reads, the scan comes across no block. -/
def Blockless (scan : Scan ε α) : Prop :=
  ∀ (bytes : Bytes) (c : Cursor) (target : UInt32),
    .block target ∈ (scan.run bytes c).2.finds → .block target ∈ c.finds

namespace Blockless

theorem not_mem {x : Scan ε α} (hx : x.Blockless) (bytes : Bytes) (pos : Nat) (target : UInt32) :
    .block target ∉ (x.run bytes (.start pos)).2.finds :=
  fun h => absurd (hx bytes (.start pos) target h) List.not_mem_nil

/-! ### Putting scans together -/

@[grind ←]
theorem pure (a : α) : (Pure.pure a : Scan ε α).Blockless :=
  fun _ _ _ h => h

@[grind ←]
theorem fail (e : ε) : (Scan.fail e : Scan ε α).Blockless :=
  fun _ _ _ h => h

@[grind ←]
theorem bind {x : Scan ε α} {f : α → Scan ε β} (hx : x.Blockless) (hf : ∀ a, (f a).Blockless) :
    (x >>= f).Blockless := by
  intro bytes c target h
  rw [run_bind] at h
  apply hx bytes c target
  rcases hrun : x.run bytes c with ⟨e | a, d⟩
  · rwa [hrun] at h
  · rw [hrun] at h
    exact hf a bytes d target h

theorem find {reference : Reference} (hreference : ∀ target, reference ≠ .block target) :
    (Scan.find reference : Scan ε Unit).Blockless := by
  intro bytes c target h
  rcases List.mem_append.mp h with hold | hnew
  · exact hold
  · exact absurd (List.mem_singleton.mp hnew).symm (hreference target)

/-- A block that turns up behind a scan without blocks comes from what follows. -/
theorem of_bind {x : Scan ε α} {f : α → Scan ε β} (hx : x.Blockless) {bytes : Bytes} {c : Cursor}
    {target : UInt32} (hc : .block target ∉ c.finds)
    (h : .block target ∈ ((x >>= f).run bytes c).2.finds) :
    ∃ a d, x.run bytes c = (.ok a, d) ∧ .block target ∉ d.finds ∧
      .block target ∈ ((f a).run bytes d).2.finds := by
  have hd := mt (hx bytes c target) hc
  rw [run_bind] at h
  rcases hrun : x.run bytes c with ⟨e | a, d⟩
  · rw [hrun] at h hd
    exact absurd h hd
  · rw [hrun] at h hd
    exact ⟨a, d, rfl, hd, h⟩

@[grind ←]
theorem find_script (name : String) (offset : UInt32) (reason : String) :
    (Scan.find (.script name offset reason) : Scan ε Unit).Blockless :=
  find nofun

theorem find_animation (anim : Animation) :
    (Scan.find (.animation anim) : Scan ε Unit).Blockless :=
  find nofun

@[grind ←]
theorem find_path (offset : UInt32) : (Scan.find (.path offset) : Scan ε Unit).Blockless :=
  find nofun

theorem pos : (Scan.pos : Scan ε Nat).Blockless :=
  fun _ _ _ h => h

theorem visit (place : Nat) {x : Scan ε α} (hx : x.Blockless) : (x.visit place).Blockless :=
  fun bytes c target h => hx bytes { c with pos := place } target h

@[grind ←]
theorem peek {x : Scan ε α} (hx : x.Blockless) : (Scan.peek x).Blockless :=
  fun bytes c => visit c.pos hx bytes c

theorem orElse {x y : Scan ε α} (hx : x.Blockless) (hy : y.Blockless) :
    (x.orElse y).Blockless := by
  intro bytes c target h
  rw [run_orElse] at h
  apply hx bytes c target
  rcases hrun : x.run bytes c with ⟨e | a, d⟩
  · rw [hrun] at h
    exact hy bytes d target h
  · rwa [hrun] at h

@[grind ←]
theorem times {x : Scan ε α} (hx : x.Blockless) (count : Nat) : (x.times count).Blockless := by
  induction count with
  | zero => exact pure []
  | succ count ih => exact bind hx fun _ => bind ih fun _ => pure _

theorem ite {p : Prop} [Decidable p] {x y : Scan ε α} (hx : x.Blockless) (hy : y.Blockless) :
    (if p then x else y).Blockless := by
  by_cases hp : p
  · simpa [hp] using hx
  · simpa [hp] using hy

@[grind ←]
theorem forScript {x : Scan DataError α} (hx : x.Blockless) : (Scan.forScript x).Blockless := by
  intro bytes c target h
  rw [run_forScript_snd] at h
  exact hx bytes c target h

/-! ### Numbers, texts and operands -/

@[grind ←]
theorem slice (count : Nat) : (Scan.slice count).Blockless := by
  intro bytes c target h
  unfold run Scan.slice at h
  split at h <;> exact h

@[grind ←]
theorem skip (count : Nat) : (Scan.skip count).Blockless :=
  bind (slice count) fun _ => pure _

theorem unsigned (count : Nat) : (Scan.unsigned count).Blockless :=
  bind (slice count) fun _ => pure _

@[grind ←]
theorem u8 : Scan.u8.Blockless :=
  bind (unsigned 1) fun _ => pure _

@[grind ←]
theorem u16 : Scan.u16.Blockless :=
  bind (unsigned 2) fun _ => pure _

@[grind ←]
theorem u32 : Scan.u32.Blockless :=
  bind (unsigned 4) fun _ => pure _

@[grind ←]
theorem i32 : Scan.i32.Blockless :=
  bind u32 fun _ => pure _

@[grind ←]
theorem rawSingle : Scan.rawSingle.Blockless :=
  bind u32 fun _ => pure _

@[grind ←]
theorem single : Scan.single.Blockless :=
  bind pos fun _ => bind rawSingle fun _ => ite (pure _) (fail _)

@[grind ←]
theorem point : Scan.point.Blockless :=
  bind single fun _ => bind single fun _ => bind single fun _ => pure _

@[grind ←]
theorem text (count : Nat) : (Scan.text count).Blockless := by
  refine bind pos fun offset => ite (fail _) (bind (slice count) fun field => ?_)
  cases paddedText? field.toList with
  | none => exact fail _
  | some s => exact pure s

@[grind ←]
theorem countedText : Scan.countedText.Blockless :=
  bind u8 fun _ => text _

theorem animation : Scan.animation.Blockless :=
  bind u32 fun _ => visit _ <| bind u32 fun _ =>
    ite (orElse (bind (text 8) fun _ => pure _) (pure _)) (pure _)

@[grind ←]
theorem operandKind (kind : OperandKind) : kind.read.Blockless := by
  cases kind with
  | bytes count => exact bind (slice _) fun _ => pure _
  | text => exact bind countedText fun _ => pure _
  | compare =>
      exact bind u8 fun _ => bind rawSingle fun _ =>
        ite (bind rawSingle fun _ => pure _) (pure _)
  | branch =>
      refine bind u8 fun code => ?_
      split
      · exact pure _
      · exact bind u32 fun _ => pure _
      · exact bind u32 fun _ => bind u32 fun _ => pure _
  | quantity =>
      exact bind u8 fun _ => ite (bind rawSingle fun _ => pure _) (bind u8 fun _ => pure _)

theorem operandKinds (kinds : List OperandKind) : (OperandKind.readAll kinds).Blockless := by
  induction kinds with
  | nil => exact pure []
  | cons kind kinds ih => exact bind (operandKind kind) fun _ => bind ih fun _ => pure _

/-- Operands in a row are noted only after all of them were read. -/
theorem shape (shape : Shape) : shape.read.Blockless := by
  cases shape with
  | skip width => exact ite (pure _) (bind (slice _) fun _ => pure _)
  | sequence kinds => exact bind (operandKinds kinds) fun _ => pure _
  | ending => exact pure _
  | dependent layout => exact pure _
  | unmodeled => exact pure _
  | invalid => exact pure _

@[grind ←]
theorem quotedText : Scan.quotedText.Blockless :=
  bind countedText fun _ => pure _

@[grind ←]
theorem place : Scan.place.Blockless :=
  bind u8 fun _ => ite (bind u8 fun _ => pure _) (bind point fun _ => pure _)

@[grind ←]
theorem singles (count : Nat) : (Scan.singles count).Blockless :=
  bind (times single count) fun _ => pure _

@[grind ←]
theorem refuse (site : Site) (value : UInt8) :
    (site.refuse value : Scan ScriptFailure α).Blockless :=
  fail _

/-! ### Layouts -/

@[grind ←]
theorem ordered (site : Site) : (OperandLayout.readOrdered site).Blockless := by
  simp only [OperandLayout.readOrdered, liftM_eq_forScript]
  grind

@[grind ←]
theorem audience : OperandLayout.readAudience.Blockless := by
  simp only [OperandLayout.readAudience]
  grind

theorem order (site : Site) : (OperandLayout.readOrder site).Blockless := by
  simp only [OperandLayout.readOrder, liftM_eq_forScript]
  grind

theorem path (site : Site) : (OperandLayout.readPath site).Blockless := by
  refine bind (forScript u32) fun path => bind (find_path path) fun _ => ?_
  refine bind (forScript u8) fun _ => ?_
  simp only [liftM_eq_forScript]
  grind

theorem reinforcement (site : Site) : (OperandLayout.readReinforcement site).Blockless := by
  refine bind u8 fun tag => ?_
  grind

theorem projectile (site : Site) : (OperandLayout.readProjectile site).Blockless := by
  refine bind (forScript u8) fun kind => ?_
  simp only [liftM_eq_forScript]
  grind

end Blockless

end Scan

/-- The layouts that hold blocks whatever their operands are. -/
def OperandLayout.leading : List OperandLayout :=
  [jumps, callByVariable, weightedJumps, partBranch, soundBranch, partBox]

theorem Scan.Blockless.layout (site : Site) {layout : OperandLayout}
    (hleading : layout ∉ OperandLayout.leading) (htouch : layout ≠ .touchDamage) :
    (layout.read site).Blockless := by
  cases layout with
  | jumps => exact absurd (by decide) hleading
  | callByVariable => exact absurd (by decide) hleading
  | weightedJumps => exact absurd (by decide) hleading
  | partBranch => exact absurd (by decide) hleading
  | soundBranch => exact absurd (by decide) hleading
  | partBox => exact absurd (by decide) hleading
  | touchDamage => exact absurd rfl htouch
  | path => exact path site
  | order => exact order site
  | projectile => exact projectile site
  | reinforcement => exact forScript (reinforcement site)
  | _ =>
      simp only [OperandLayout.read, OperandLayout.readRadius,
        OperandLayout.readSound, OperandLayout.readTeleport, OperandLayout.readBlast,
        OperandLayout.readArenaState, OperandLayout.readBuddy, liftM_eq_forScript]
      grind

/-! ### Operands in a row -/

namespace Scan.Regular

variable {bytes : Bytes}

/-- Only branches have blocks. -/
theorem operandKind_blocks (kind : OperandKind) :
    kind.read.Regular bytes fun operand => operand.blocks ≠ [] → kind = .branch := by
  cases kind with
  | bytes count => exact bind (slice _) fun _ _ => pure (absurd rfl)
  | text => exact bind countedText fun _ _ => pure (absurd rfl)
  | compare =>
      exact bind u8 fun _ _ => bind rawSingle fun _ _ =>
        ite (bind rawSingle fun _ _ => pure (absurd rfl)) (pure (absurd rfl))
  | branch => exact (operandKind .branch).imp fun _ _ _ => rfl
  | quantity =>
      exact bind u8 fun _ _ =>
        ite (bind rawSingle fun _ _ => pure (absurd rfl)) (bind u8 fun _ _ => pure (absurd rfl))

theorem operandKinds_blocks (kinds : List OperandKind) :
    (OperandKind.readAll kinds).Regular bytes fun operands =>
      ∀ operand ∈ operands, operand.blocks ≠ [] → .branch ∈ kinds := by
  induction kinds with
  | nil => exact pure fun operand hoperand => absurd hoperand List.not_mem_nil
  | cons kind kinds ih =>
      refine bind (operandKind_blocks kind) fun first hfirst => ?_
      refine bind ih fun others hothers => pure ?_
      intro operand hoperand hblocks
      rcases List.mem_cons.mp hoperand with rfl | hrest
      · rw [hfirst hblocks]
        exact List.mem_cons_self
      · exact List.mem_cons_of_mem kind (hothers operand hrest hblocks)

/-- Operands whose layout the shape decides have blocks only if one of them is a branch. -/
theorem shape_blocks (shape : Shape) :
    shape.read.Regular bytes fun operands? =>
      ∀ operands ∈ operands?, ∀ operand ∈ operands, operand.blocks ≠ [] →
        ∃ kinds, shape = .sequence kinds ∧ .branch ∈ kinds := by
  cases shape with
  | skip width =>
      refine ite (pure (by simp)) (bind (slice _) fun data _ => pure ?_)
      simp [Operand.blocks]
  | sequence kinds =>
      refine bind (operandKinds_blocks kinds) fun operands hoperands => pure ?_
      rintro _ ⟨⟩ operand hoperand hblocks
      exact ⟨kinds, rfl, hoperands operand hoperand hblocks⟩
  | ending => exact pure (by simp)
  | dependent layout => exact pure (by simp)
  | unmodeled => exact pure (by simp)
  | invalid => exact pure (by simp)

theorem decode_blocks (site : Site) :
    site.decode.Regular bytes fun decoded =>
      ∀ operands, decoded = .operands operands → ∀ operand ∈ operands, operand.blocks ≠ [] →
        ∃ kinds, (Opcode.ofByte site.opcode).shape = .sequence kinds ∧ .branch ∈ kinds := by
  unfold Site.decode
  split
  · exact bind (layout site _) fun _ _ => pure nofun
  · exact fail _
  · refine bind (forScript (shape_blocks _)) fun operands? hoperands => ?_
    cases operands? with
    | none => exact pure nofun
    | some operands =>
        refine pure ?_
        rintro _ ⟨⟩
        exact hoperands operands rfl

end Scan.Regular

/-! ### Instructions -/

namespace Site

/-- What the operands from a position on refer to, also if not all of them can be read. -/
def finds (bytes : Bytes) (site : Site) (pos : Nat) : List Reference :=
  (site.list.run bytes (.start pos)).2.finds

/-- An instruction whose operands, from a position on, can name a block. -/
inductive NamesBlocks (bytes : Bytes) (site : Site) (pos : Nat) : Prop
  /-- One of the operands is a branch. -/
  | branch {kinds : List OperandKind} (hshape : (Opcode.ofByte site.opcode).shape = .sequence kinds)
      (hbranch : .branch ∈ kinds)
  /-- The layout has a list of blocks, or a branch behind other operands. -/
  | leading {layout : OperandLayout}
      (hshape : (Opcode.ofByte site.opcode).shape = .dependent layout)
      (hlayout : layout ∈ OperandLayout.leading)
  /-- The first bytes hold the block that a kill or a trigger starts. -/
  | word (hopcode : site.opcode = 0x4c ∨ site.opcode = 0x63)
  /-- A touch whose flags say that a block follows. -/
  | touch {flags : UInt8} (hopcode : site.opcode = 0x9e)
      (hflags : Scan.u8.Gives bytes (pos + 3) flags (pos + 4)) (hset : flags &&& 2 ≠ 0)

variable {site : Site} {bytes : Bytes}

theorem opcode_of_touchDamage {opcode : UInt8}
    (h : (Opcode.ofByte opcode).shape = .dependent .touchDamage) : opcode = 0x9e := by
  have hall : ∀ entry ∈ Opcode.table.toList.zipIdx,
      entry.1.shape = .dependent .touchDamage → entry.2 = 0x9e := by decide +kernel
  have hentry : (Opcode.ofByte opcode, opcode.toNat) ∈ Opcode.table.toList.zipIdx := by
    rw [List.mem_zipIdx_iff_getElem?, Vector.getElem?_toList]
    exact Vector.getElem?_eq_getElem opcode.toFin.isLt
  exact UInt8.toNat_inj.mp (hall _ hentry h)

theorem flags_of_touchDamage {pos : Nat} {target : UInt32}
    (h : .block target ∈
      ((OperandLayout.touchDamage.read site).run bytes (.start pos)).2.finds) :
    ∃ flags, Scan.u8.Gives bytes (pos + 3) flags (pos + 4) ∧ flags &&& 2 ≠ 0 := by
  rw [OperandLayout.read, Scan.liftM_eq_forScript, Scan.run_forScript_snd,
    OperandLayout.readTouchDamage] at h
  obtain ⟨_, c, hkind, hc, h⟩ := Scan.Blockless.u8.of_bind List.not_mem_nil h
  obtain ⟨_, d, hdamage, hd, h⟩ := Scan.Blockless.u16.of_bind hc h
  obtain ⟨flags, e, hflags, he, h⟩ := Scan.Blockless.u8.of_bind hd h
  obtain ⟨_, f, _, hf, h⟩ := (Scan.Blockless.slice 3).of_bind he h
  refine ⟨flags, ?_, ?_⟩
  · have hgives := Scan.Gives.of_run .u8 hflags
    rwa [(Scan.Takes.u8 _ _ _ _ hflags).1, (Scan.Takes.u16 _ _ _ _ hdamage).1,
      (Scan.Takes.u8 _ _ _ _ hkind).1] at hgives
  · intro hclear
    rw [if_neg (not_not_intro hclear)] at h
    exact hf h

theorem namesBlocks_of_mem_decode {pos : Nat} {target : UInt32}
    (h : .block target ∈ (site.decode.run bytes (.start pos)).2.finds) :
    site.NamesBlocks bytes pos := by
  unfold decode at h
  split at h
  · next layout hshape =>
    by_cases hleading : layout ∈ OperandLayout.leading
    · exact .leading hshape hleading
    · by_cases htouch : layout = .touchDamage
      · subst htouch
        have hread : .block target ∈
            ((OperandLayout.touchDamage.read site).run bytes (.start pos)).2.finds := by
          rw [Scan.run_bind] at h
          rcases hrun : (OperandLayout.touchDamage.read site).run bytes (.start pos) with
            ⟨e | text, d⟩
          · rwa [hrun] at h
          · rwa [hrun] at h
        obtain ⟨flags, hflags, hset⟩ := flags_of_touchDamage hread
        exact .touch (opcode_of_touchDamage hshape) hflags hset
      · have hblockless := (Scan.Blockless.layout site hleading htouch).bind fun text =>
          .pure (Decoded.described text)
        exact absurd h (hblockless.not_mem bytes pos target)
  · exact absurd h List.not_mem_nil
  · have hblockless := (Scan.Blockless.shape (Opcode.ofByte site.opcode).shape).forScript
    obtain ⟨operands?, d, _, hd, h⟩ := hblockless.of_bind List.not_mem_nil h
    cases operands? with
    | none => exact absurd h hd
    | some operands => exact absurd h hd

/-- Operands in a row name a block by a branch, or at the place that the opcode has for it. -/
theorem mem_operandReferences_block {operands : List Operand} {target : UInt32}
    (h : .block target ∈ operandReferences site operands) :
    (∃ operand ∈ operands, target ∈ operand.blocks) ∨ site.opcode = 0x4c ∨ site.opcode = 0x63 := by
  simp only [operandReferences, List.mem_append, List.mem_flatMap, List.mem_map,
    Reference.block.injEq, exists_eq_right, Option.mem_toList] at h
  rcases h with (hbranch | hword) | hspawn
  · exact .inl hbranch
  · obtain ⟨data, _, hword⟩ := Option.bind_eq_some_iff.mp hword
    refine .inr ?_
    split at hword
    · simp at hword
    · simp at hword
    · next hop => exact .inl (UInt8.toNat_inj.mp hop)
    · next hop => exact .inr (UInt8.toNat_inj.mp hop)
    · cases hword
  · unfold spawnReference? at hspawn
    split at hspawn
    · split at hspawn <;> cases hspawn
    · cases hspawn

/-- What is decoded names a block by its layout, or by the operands that it gives. -/
theorem namesBlocks_of_mem_listed {pos : Nat} {target : UInt32}
    (h : .block target ∈ ((do
      let decoded ← site.decode
      match decoded with
      | .operands values => Scan.findAll (operandReferences site values)
      | _ => pure ()
      return decoded.text?).run bytes (.start pos)).2.finds) : site.NamesBlocks bytes pos := by
  by_cases hdecode : .block target ∈ (site.decode.run bytes (.start pos)).2.finds
  · exact namesBlocks_of_mem_decode hdecode
  · rw [Scan.run_bind] at h
    rcases hrun : site.decode.run bytes (.start pos) with ⟨e | decoded, d⟩
    all_goals rw [hrun] at h hdecode
    · exact absurd h hdecode
    · cases decoded with
      | operands operands =>
          simp only [Scan.run_bind, Scan.run_findAll, Scan.run_pure] at h
          have hmem := (List.mem_append.mp h).resolve_left hdecode
          rcases mem_operandReferences_block hmem with ⟨operand, hoperand, hblock⟩ | hop
          · obtain ⟨kinds, hshape, hbranch⟩ := (Scan.Regular.decode_blocks site).run_result hrun
              operands rfl operand hoperand (List.ne_nil_of_mem hblock)
            exact .branch hshape hbranch
          · exact .word hop
      | described text => exact absurd h hdecode
      | unmodeled => exact absurd h hdecode

/-- An instruction comes across a block only in one of the ways to name one. -/
theorem namesBlocks_of_mem_finds {pos : Nat} {target : UInt32}
    (h : .block target ∈ site.finds bytes pos) : site.NamesBlocks bytes pos := by
  unfold finds list at h
  split at h
  · refine absurd h (Scan.Blockless.not_mem ?_ bytes pos target)
    exact .bind (.forScript .animation) fun anim => .bind (.find_animation anim) fun _ => .pure _
  · refine absurd h (Scan.Blockless.not_mem ?_ bytes pos target)
    exact .bind (.forScript .animation) fun anim => .bind (.find_animation anim) fun _ => .pure _
  · refine absurd h (Scan.Blockless.not_mem ?_ bytes pos target)
    exact .bind (.forScript .animation) fun opening => .bind (.forScript .animation) fun closing =>
      .bind (.find_animation opening) fun _ => .bind (.find_animation closing) fun _ => .pure _
  · exact namesBlocks_of_mem_listed h

end Site

end LevelScript
