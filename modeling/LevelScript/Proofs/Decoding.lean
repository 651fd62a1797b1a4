import LevelScript.Command
import LevelScript.Listing
import LevelScript.Proofs.Scan

/-!
Reading instructions is regular: what an instruction at a position is, where it ends and what it
refers to depends on the buffer alone, and every script or block that it refers to stands in the
buffer as a word.  So a script that runs and a script that is listed see the same instructions.
-/

namespace LevelScript

/-- Every word of an operand that is made of bytes is a word of the buffer, and so is every block of
a branch. -/
def Operand.Grounded (bytes : Bytes) : Operand → Prop
  | Operand.bytes data => ∀ pos word, wordAt? data pos = some word → IsWord bytes word
  | Operand.branch code first second =>
    ∀ block ∈ (Operand.branch code first second).blocks, IsWord bytes block
  | _ => True

theorem Operand.Grounded.blocks {bytes : Bytes} {operand : Operand} (h : operand.Grounded bytes) :
    ∀ block ∈ operand.blocks, IsWord bytes block := by
  cases operand with
  | branch code first second => exact h
  | _ => exact fun block hblock => absurd hblock List.not_mem_nil

theorem wordAt?_extract {bytes : Bytes} {start count : Nat} (hfit : start + count ≤ bytes.size)
    {pos : Nat} {word : UInt32}
    (h : wordAt? (bytes.extract start (start + count)) pos = some word) :
    wordAt? bytes (start + pos) = some word := by
  have hsize : (bytes.extract start (start + count)).size = count := by
    simp
    omega
  unfold wordAt? at h ⊢
  rw [hsize] at h
  by_cases hpos : pos + 4 ≤ count
  · rw [if_pos hpos, Array.extract_extract] at h
    rw [if_pos (by omega), ← h, Nat.min_eq_left (by omega), Nat.add_assoc]
  · simp [hpos] at h

theorem lastWord?_isWord {bytes : Bytes} {operands : List Operand} {word : UInt32}
    (hoperands : ∀ operand ∈ operands, operand.Grounded bytes)
    (h : lastWord? operands = some word) : IsWord bytes word := by
  unfold lastWord? at h
  split at h
  · next data hlast => exact hoperands _ (List.mem_of_getLast? hlast) 0 word h
  · cases h

theorem wordReference?_ne_script (site : Site) (operands : List Operand) {name : String}
    {offset : UInt32} {reason : String} :
    wordReference? site operands ≠ some (.script name offset reason) := by
  unfold wordReference?
  cases firstBytes? operands with
  | none => nofun
  | some data =>
      simp only [Option.bind_eq_bind, Option.bind_some]
      split <;> simp

theorem mem_of_firstBytes? {operands : List Operand} {data : Bytes}
    (h : firstBytes? operands = some data) : .bytes data ∈ operands := by
  obtain ⟨operand, hoperand, hdata⟩ := List.exists_of_findSome?_eq_some h
  cases operand with
  | bytes data' =>
      cases hdata
      exact hoperand
  | _ => cases hdata

/-- A block that is given as a word among bytes stands in the buffer. -/
theorem wordReference?_isWord {bytes : Bytes} {site : Site} {operands : List Operand}
    (hoperands : ∀ operand ∈ operands, operand.Grounded bytes) {offset : UInt32}
    (h : wordReference? site operands = some (.block offset)) : IsWord bytes offset := by
  obtain ⟨data, hdata, hword⟩ := Option.bind_eq_some_iff.mp h
  have hgrounded := hoperands _ (mem_of_firstBytes? hdata)
  split at hword
  · simp at hword
  · simp at hword
  · exact hgrounded 0 offset (by simpa using hword)
  · exact hgrounded 2 offset (by simpa using hword)
  · cases hword

/-- The operands of an instruction refer to words of the buffer only. -/
theorem operandReferences_grounded {bytes : Bytes} {site : Site} {operands : List Operand}
    (hoperands : ∀ operand ∈ operands, operand.Grounded bytes) :
    ∀ reference ∈ operandReferences site operands, reference.Grounded bytes := by
  intro reference hreference
  cases reference with
  | script name offset reason =>
      have hspawn : spawnReference? site operands = some (.script name offset reason) := by
        simp only [operandReferences, List.mem_append, List.mem_flatMap, List.mem_map, reduceCtorEq,
          and_false, exists_false, false_or, Option.mem_toList] at hreference
        rcases hreference with hword | hspawn
        · exact absurd hword (wordReference?_ne_script site operands)
        · exact hspawn
      unfold spawnReference? at hspawn
      split at hspawn
      · split at hspawn
        · next hlast =>
          cases hspawn
          exact lastWord?_isWord hoperands hlast
        · cases hspawn
      · cases hspawn
  | block offset =>
      simp only [operandReferences, List.mem_append, List.mem_flatMap, List.mem_map,
        Reference.block.injEq, exists_eq_right, Option.mem_toList] at hreference
      rcases hreference with (⟨operand, hoperand, hblock⟩ | hword) | hspawn
      · exact (hoperands operand hoperand).blocks offset hblock
      · exact wordReference?_isWord hoperands hword
      · unfold spawnReference? at hspawn
        split at hspawn
        · split at hspawn
          · cases hspawn
          · cases hspawn
        · cases hspawn
  | animation anim => trivial
  | path offset => trivial

namespace Scan.Regular

variable {bytes : Bytes}

theorem animation : Scan.animation.Regular bytes Any :=
  bind u32 fun _ _ => visit _ <| bind u32 fun _ _ =>
    ite (orElse (bind (text 8) fun _ _ => done) (done)) (done)

/-! ### Operands in a row -/

/-- The words of the next bytes are words of the buffer. -/
theorem sliceWords (count : Nat) :
    (Scan.slice count).Regular bytes fun data => (Operand.bytes data).Grounded bytes := by
  apply (slice count).imp
  rintro data ⟨start, hfit, rfl⟩ pos word hword
  exact ⟨start + pos, wordAt?_extract hfit hword⟩

theorem operandKind (kind : OperandKind) : kind.read.Regular bytes (Operand.Grounded bytes) := by
  cases kind with
  | bytes count => exact bind (sliceWords _) fun _ hdata => pure hdata
  | text => exact bind countedText fun _ _ => pure trivial
  | compare =>
      exact bind u8 fun _ _ => bind rawSingle fun _ _ =>
        ite (bind rawSingle fun _ _ => pure trivial) (pure trivial)
  | branch =>
      refine bind u8 fun code _ => ?_
      split
      · next hwidth => exact pure (by simp [Operand.Grounded, Operand.blocks, hwidth])
      · next hwidth =>
        refine bind u32 fun first hfirst => pure ?_
        simpa [Operand.Grounded, Operand.blocks, hwidth] using hfirst
      · refine bind u32 fun first hfirst => bind u32 fun second hsecond => pure ?_
        intro block hblock
        have hpair : block = first ∨ block = second := by simpa using List.mem_of_mem_take hblock
        rcases hpair with rfl | rfl
        · exact hfirst
        · exact hsecond
  | quantity =>
      exact bind u8 fun _ _ =>
        ite (bind rawSingle fun _ _ => pure trivial) (bind u8 fun _ _ => pure trivial)

theorem operandKinds (kinds : List OperandKind) :
    (OperandKind.readAll kinds).Regular bytes fun operands =>
      ∀ operand ∈ operands, operand.Grounded bytes := by
  induction kinds with
  | nil => exact pure fun operand hoperand => absurd hoperand List.not_mem_nil
  | cons kind kinds ih =>
      refine bind (operandKind kind) fun first hfirst => bind ih fun others hothers => pure ?_
      intro operand hoperand
      rcases List.mem_cons.mp hoperand with rfl | hoperand
      · exact hfirst
      · exact hothers operand hoperand

theorem shape (shape : Shape) :
    shape.read.Regular bytes fun operands? =>
      ∀ operands ∈ operands?, ∀ operand ∈ operands, operand.Grounded bytes := by
  cases shape with
  | skip width =>
      refine ite (pure ?_) (bind (sliceWords _) fun data hdata => pure ?_)
      · simp
      · simpa using hdata
  | sequence kinds =>
      refine bind (operandKinds kinds) fun operands hoperands => pure ?_
      simpa using hoperands
  | ending => exact pure (by simp)
  | dependent layout => exact pure (by simp)
  | unmodeled => exact pure (by simp)
  | invalid => exact pure (by simp)

/-! ### Operands that decide about each other -/

theorem blockTarget : Scan.blockTarget.Regular bytes Any :=
  bind u32 fun _ hword => bind (find hword) fun _ _ => done

theorem findBlocks {blocks : List UInt32} (h : ∀ block ∈ blocks, IsWord bytes block) :
    (Scan.branchOperand.findBlocks blocks).Regular bytes Any := by
  induction blocks with
  | nil => exact done
  | cons block blocks ih =>
      refine bind (find (h block List.mem_cons_self)) fun _ _ => ih ?_
      exact fun other hother => h other (List.mem_cons_of_mem block hother)

theorem branchOperand : Scan.branchOperand.Regular bytes Any :=
  bind (operandKind _) fun _ hbranch => bind (findBlocks hbranch.blocks) fun _ _ => done

theorem blockTargets (count : Nat) : (Scan.blockTargets count).Regular bytes Any :=
  bind (times blockTarget count) fun _ _ => done

theorem quotedText : Scan.quotedText.Regular bytes Any :=
  bind countedText fun _ _ => done

theorem place : Scan.place.Regular bytes Any :=
  bind u8 fun _ _ => ite (bind u8 fun _ _ => done) (bind point fun _ _ => done)

theorem singles (count : Nat) : (Scan.singles count).Regular bytes Any :=
  bind (times single count) fun _ _ => done

theorem refuse {α : Type} {holds : α → Prop} (site : Site) (value : UInt8) :
    (site.refuse value : Scan ScriptFailure α).Regular bytes holds :=
  fail _

theorem ordered (site : Site) :
    (OperandLayout.readOrdered site).Regular bytes fun ordered =>
      ∀ script ∈ ordered.2, IsWord bytes script := by
  refine bind (forScript u8) fun order _ => ?_
  split
  · refine bind (forScript u8) fun code _ => ite ?_ (refuse site code)
    refine bind (forScript u32) fun script hscript => pure ?_
    simpa using hscript
  · exact bind (forScript single) fun _ _ => bind (forScript single) fun _ _ => pure (by simp)
  · exact pure (by simp)
  · exact pure (by simp)

theorem audience : OperandLayout.readAudience.Regular bytes Any := by
  refine bind u8 fun target _ => ?_
  extract_lets afterRange
  have hafterRange : ∀ range, (afterRange range).Regular bytes Any := by
    intro range
    unfold afterRange
    extract_lets afterName
    have hafterName : ∀ name, (afterName name).Regular bytes Any := by
      intro name
      unfold afterName
      exact ite (bind u32 fun _ _ => bind done fun _ _ => done) (bind done fun _ _ => done)
    exact ite (bind countedText fun _ _ => bind done fun name _ => hafterName name)
      (bind done fun name _ => hafterName name)
  exact ite (bind single fun _ _ => bind done fun range _ => hafterRange range)
    (bind done fun range _ => hafterRange range)

theorem order (site : Site) : (OperandLayout.readOrder site).Regular bytes Any := by
  refine bind (ordered site) fun given hgiven => ?_
  refine bind (forScript audience) fun whom _ => ?_
  obtain ⟨text, script⟩ := given
  cases script with
  | none => exact bind done fun _ _ => done
  | some script => exact bind (find (hgiven script rfl)) fun _ _ => done

theorem path (site : Site) : (OperandLayout.readPath site).Regular bytes Any := by
  refine bind (forScript u32) fun path _ => bind (find trivial) fun _ _ => ?_
  refine bind (forScript u8) fun _ _ => bind (forScript u8) fun _ _ => ?_
  refine bind (forScript u16) fun _ _ => bind (forScript u8) fun tag _ => ?_
  split
  · exact bind (forScript point) fun _ _ => done
  · exact done
  · exact refuse site tag

theorem partBranch : OperandLayout.readPartBranch.Regular bytes Any := by
  refine bind countedText fun first _ => ?_
  extract_lets afterName
  have hafterName : ∀ name, (afterName name).Regular bytes Any :=
    fun _ => bind branchOperand fun _ _ => done
  exact ite (bind countedText fun name _ => hafterName name)
    (bind done fun name _ => hafterName name)

theorem reinforcement (site : Site) : (OperandLayout.readReinforcement site).Regular bytes Any := by
  refine bind u8 fun tag _ => ?_
  extract_lets afterPlace
  have hafterPlace : ∀ place, (afterPlace place).Regular bytes Any := by
    intro place
    refine bind countedText fun name _ => bind u32 fun init hinit => ?_
    exact bind (find hinit) fun _ _ => done
  exact ite (bind u8 fun _ _ => bind done fun place _ => hafterPlace place)
    (bind quotedText fun _ _ => bind done fun place _ => hafterPlace place)

theorem radius : OperandLayout.readRadius.Regular bytes Any :=
  bind (peek u8) fun _ _ => ite
    (bind (skip 1) fun _ _ => bind single fun _ _ => bind single fun _ _ => done)
    (bind (operandKind _) fun _ _ => done)

theorem sound : OperandLayout.readSound.Regular bytes Any := by
  refine bind u8 fun kind _ => ?_
  extract_lets afterOrigin
  have hafterOrigin : ∀ origin, (afterOrigin origin).Regular bytes Any :=
    fun _ => bind quotedText fun _ _ => done
  exact ite (bind point fun _ _ => bind done fun origin _ => hafterOrigin origin) <|
    ite (bind u8 fun _ _ => bind done fun origin _ => hafterOrigin origin) <|
      ite (bind point fun _ _ => bind done fun origin _ => hafterOrigin origin)
        (bind done fun origin _ => hafterOrigin origin)

theorem weighted : OperandLayout.readWeighted.Regular bytes Any :=
  bind u8 fun _ _ => bind blockTarget fun _ _ => done

theorem weightedJumps : OperandLayout.readWeightedJumps.Regular bytes Any :=
  bind u8 fun _ _ => bind (times weighted _) fun _ _ => done

theorem touchDamage : OperandLayout.readTouchDamage.Regular bytes Any :=
  bind u8 fun _ _ => bind u16 fun _ _ => bind u8 fun _ _ => bind (slice 3) fun _ _ =>
    ite (bind blockTarget fun _ _ => done) done

theorem projectile (site : Site) : (OperandLayout.readProjectile site).Regular bytes Any := by
  refine bind (forScript u8) fun kind _ => ?_
  extract_lets afterOrigin
  have hafterOrigin : ∀ origin, (afterOrigin origin).Regular bytes Any := by
    intro origin
    refine bind (forScript point) fun velocity _ => bind (forScript countedText) fun name _ => ?_
    exact bind (forScript u32) fun init hinit => bind (find hinit) fun _ _ => done
  split
  · exact bind done fun origin _ => hafterOrigin origin
  · exact bind (forScript point) fun _ _ => bind done fun origin _ => hafterOrigin origin
  · exact bind (forScript point) fun _ _ => bind done fun origin _ => hafterOrigin origin
  · exact bind (refuse site kind) fun origin (_ : Any origin) => hafterOrigin origin

theorem teleport : OperandLayout.readTeleport.Regular bytes Any :=
  bind countedText fun _ _ => ite
    (bind countedText fun _ _ => bind point fun _ _ => bind single fun _ _ => done) done

theorem blast : OperandLayout.readBlast.Regular bytes Any :=
  bind place fun _ _ => bind single fun _ _ => bind single fun _ _ => bind single fun _ _ =>
    bind u8 fun _ _ => done

theorem arenaState : OperandLayout.readArenaState.Regular bytes Any := by
  refine bind u8 fun kind _ => ?_
  split
  · exact bind u8 fun _ _ => bind single fun _ _ => bind single fun _ _ => bind i32 fun _ _ => done
  · exact bind u8 fun _ _ => bind u32 fun _ _ => done
  · exact done

theorem buddy : OperandLayout.readBuddy.Regular bytes Any :=
  bind u8 fun _ _ => ite
    (bind u8 fun _ _ => bind u8 fun _ _ => bind (text _) fun _ _ => done)
    (bind (text _) fun _ _ => done)

theorem partBox : OperandLayout.readPartBox.Regular bytes Any := by
  refine bind u8 fun index _ => ?_
  extract_lets afterPart
  have hafterPart : ∀ part, (afterPart part).Regular bytes Any := by
    intro part
    refine bind u8 fun tag _ => ?_
    extract_lets afterBounds
    have hafterBounds : ∀ bounds, (afterBounds bounds).Regular bytes Any :=
      fun _ => bind branchOperand fun _ _ => done
    exact ite (bind (singles 4) fun bounds _ => hafterBounds bounds)
      (bind (singles 6) fun bounds _ => hafterBounds bounds)
  exact ite (bind quotedText fun _ _ => bind done fun part _ => hafterPart part)
    (bind done fun part _ => hafterPart part)

theorem layout (site : Site) (layout : OperandLayout) : (layout.read site).Regular bytes Any := by
  cases layout with
  | path => exact path site
  | order => exact order site
  | jumps => exact bind (forScript u8) fun _ _ => bind (forScript (blockTargets _)) fun _ _ => done
  | parts =>
      exact bind (forScript u8) fun _ _ =>
        bind (times (forScript countedText) _) fun _ _ => done
  | partBranch => exact forScript partBranch
  | reinforcement => exact forScript (reinforcement site)
  | radius => exact forScript radius
  | sound => exact forScript sound
  | weightedJumps => exact forScript weightedJumps
  | blowParts =>
      exact bind (forScript u8) fun _ _ => bind (forScript u8) fun _ _ =>
        bind (times (forScript countedText) _) fun _ _ => done
  | bubble =>
      exact bind (forScript u8) fun _ _ => bind (forScript u8) fun _ _ =>
        ite (bind (forScript point) fun _ _ => done) done
  | touchDamage => exact forScript touchDamage
  | projectile => exact projectile site
  | dataFields =>
      exact bind (forScript u8) fun _ _ =>
        ite done (bind (forScript (singles 4)) fun _ _ => done)
  | explosion =>
      exact bind (forScript place) fun _ _ => bind (forScript single) fun _ _ => done
  | teleport => exact forScript teleport
  | blast => exact forScript blast
  | teleportOffset =>
      exact bind (forScript u8) fun _ _ => ite done (bind (forScript point) fun _ _ => done)
  | arenaState => exact forScript arenaState
  | callByVariable =>
      exact bind (forScript u8) fun _ _ => bind (forScript u8) fun _ _ =>
        bind (forScript u8) fun _ _ => bind (forScript (blockTargets _)) fun _ _ => done
  | chase =>
      exact bind (forScript u8) fun _ _ => ite
        (bind (forScript single) fun _ _ => bind (forScript single) fun _ _ => done)
        (ite (bind (forScript single) fun _ _ => done) done)
  | facing =>
      exact bind (forScript u8) fun _ _ => ite (bind (forScript quotedText) fun _ _ => done) done
  | camera =>
      exact bind (forScript u8) fun _ _ => ite (bind (forScript single) fun _ _ => done) done
  | sliding => exact bind (forScript u8) fun _ _ => ite done (forScript (singles 2))
  | matrix => exact bind (forScript u8) fun _ _ => ite done (forScript (singles 12))
  | buddy => exact forScript buddy
  | slidingRates =>
      exact bind (forScript u8) fun _ _ => bind (forScript single) fun _ _ =>
        bind (forScript single) fun _ _ =>
          ite (bind (forScript single) fun _ _ => done) done
  | soundBranch =>
      exact bind (forScript u8) fun _ _ => bind (forScript branchOperand) fun _ _ =>
        ite (bind (forScript quotedText) fun _ _ => done) done
  | partBox => exact forScript partBox

/-! ### Instructions -/

theorem decode (site : Site) :
    site.decode.Regular bytes fun decoded =>
      ∀ operands, decoded = .operands operands → ∀ operand ∈ operands, operand.Grounded bytes := by
  unfold Site.decode
  split
  · exact bind (layout site _) fun _ _ => pure nofun
  · exact fail _
  · refine bind (forScript (shape _)) fun operands? hoperands => ?_
    cases operands? with
    | none => exact pure nofun
    | some operands =>
        refine pure ?_
        rintro _ ⟨⟩
        exact hoperands operands rfl

theorem findAll {references : List Reference}
    (hreferences : ∀ reference ∈ references, reference.Grounded bytes) :
    (Scan.findAll references : Scan ScriptFailure Unit).Regular bytes Any := by
  induction references with
  | nil => exact done
  | cons reference references ih =>
      refine bind (find (hreferences reference List.mem_cons_self)) fun _ _ => ih ?_
      exact fun other hother => hreferences other (List.mem_cons_of_mem reference hother)

theorem list (site : Site) : site.list.Regular bytes Any := by
  unfold Site.list
  split
  · exact bind (forScript animation) fun _ _ => bind (find trivial) fun _ _ => done
  · exact bind (forScript animation) fun _ _ => bind (find trivial) fun _ _ => done
  · exact bind (forScript animation) fun _ _ => bind (forScript animation) fun _ _ =>
      bind (find trivial) fun _ _ => bind (find trivial) fun _ _ => done
  · refine bind (decode site) fun decoded hdecoded => ?_
    cases decoded with
    | operands values =>
        refine bind (findAll ?_) fun _ _ => done
        exact operandReferences_grounded (hdecoded values rfl)
    | described text => exact done
    | unmodeled => exact done

/-! ### Commands -/

theorem scope : Scan.scope.Regular bytes Any := by
  refine bind (forScript u8) fun tag _ => ?_
  split
  · exact fail _
  · exact fail _
  · exact fail _
  · exact done

theorem ofExcept {ε α : Type} (x : Except ε α) : (Scan.ofExcept x).Regular bytes Any := by
  cases x with
  | error e => exact fail e
  | ok a => exact done

theorem variableOf (known : Scope) : (Scan.variableOf known).Regular bytes Any :=
  bind (forScript u8) fun _ _ => ofExcept _

theorem quantity : Scan.quantity.Regular bytes Any :=
  bind scope fun _ _ => ite (bind (forScript single) fun _ _ => done)
    (bind (variableOf _) fun _ _ => done)

theorem variableTarget (opcode : UInt8) : (Scan.variableTarget opcode).Regular bytes Any :=
  bind scope fun _ _ => ite (fail _) (variableOf _)

theorem spawn (kind : SpawnKind) : (Command.readSpawn kind).Regular bytes Any :=
  bind point fun _ _ => bind countedText fun _ _ => bind u32 fun _ _ => done

theorem posedSpawn : Command.readPosedSpawn.Regular bytes Any :=
  bind point fun _ _ => bind single fun _ _ => bind i32 fun _ _ => bind countedText fun _ _ =>
    bind u32 fun _ _ => done

theorem doorSpawn (arenas : List String) : (Command.readDoorSpawn arenas).Regular bytes Any :=
  bind point fun _ _ => bind single fun _ _ => bind i32 fun _ _ => bind countedText fun _ _ =>
    bind countedText fun _ _ => bind u32 fun _ _ => bind (ofExcept _) fun _ _ => done

theorem door (opcode : UInt8) : (Command.readDoor opcode).Regular bytes Any := by
  unfold Command.readDoor
  split
  · exact bind animation fun _ _ => bind animation fun _ _ => done
  · exact bind countedText fun _ _ => bind countedText fun _ _ => bind countedText fun _ _ =>
      bind countedText fun _ _ => done
  · exact bind u32 fun _ _ => done
  · exact bind single fun _ _ => done

theorem write (opcode : UInt8) (make : Variable → Single → Command) :
    (Command.readWrite opcode make).Regular bytes Any :=
  bind (variableTarget opcode) fun _ _ => bind (forScript single) fun _ _ => done

theorem note (site : Site) : (Command.readNote site).Regular bytes Any := by
  refine bind (decode site) fun decoded _ => ?_
  cases decoded.text? with
  | none => exact done
  | some detail => exact done

/-- Reading a command is regular, whoever the actor is. -/
theorem command (arenas : List String) (actor : Actor) (site : Site) :
    (Command.read arenas actor site).Regular bytes Any := by
  have hanimate : (Scan.forScript Command.readAnimate).Regular bytes Any :=
    forScript (bind animation fun _ _ => done)
  unfold Command.read
  split
  · exact done
  · exact hanimate
  · exact hanimate
  · exact forScript (bind i16 fun _ _ => done)
  · exact done
  · exact done
  · exact bind (forScript u8) fun _ _ => done
  · exact bind (forScript u8) fun _ _ => done
  · exact bind (forScript u16) fun _ _ => done
  · exact bind quantity fun _ _ => done
  · exact write _ _
  · exact write _ _
  · exact bind (forScript point) fun _ _ => done
  · exact bind (forScript u32) fun _ _ => done
  · exact bind (forScript u32) fun _ _ => done
  · exact forScript (spawn _)
  · exact forScript (spawn _)
  · exact forScript (spawn _)
  · exact forScript posedSpawn
  · exact forScript (doorSpawn arenas)
  -- The four opcodes of doors are read alike.
  iterate 4
    · cases actor.door? with
      | none => exact fail _
      | some _ => exact forScript (door _)
  · exact done
  · exact note site

end Scan.Regular

end LevelScript
