import LevelScript.Proofs.Cast
import LevelScript.Proofs.Decoding

/-!
Which failures are fatal.

Of all that can go wrong while an instruction is read, only one thing stops a whole load: a door
that is spawned and leads to an arena that does not exist.  Everything else stays with the actor.
That is a property of scans: it holds of each primitive and is kept by each way of putting scans
together, so it holds of every layout of operands, and with it of every script of a run.
-/

namespace LevelScript

/-- An error of the data that stays with the actor whose script runs into it. -/
def DataError.Mild (error : DataError) : Prop :=
  error.isFatal = false

def ScriptFailure.Mild (failure : ScriptFailure) : Prop :=
  failure.fatal? = none

/-- A failure that comes from what the script holds: it is mild, and no guard against scripts that
run away was hit. -/
structure ScriptFailure.OfScript (failure : ScriptFailure) : Prop where
  mild : failure.Mild
  family_ne : failure.family ≠ .exhausted

/-- A part fails mildly with what its own script runs into, and with nothing else. -/
theorem Part.fails_of_mild {failure : ScriptFailure} (h : failure.Mild) (parts : List Part)
    (part : Part) : part.Fails parts failure ↔ part.raised = some failure := by
  have hnone : failure.fatal? = none := h
  simp [Part.Fails, hnone]

namespace Scan

variable {ε α β : Type} {allowed : ε → Prop}

/-- Whatever it reads, the scan fails only in ways that are allowed. -/
def Blames (allowed : ε → Prop) (scan : Scan ε α) : Prop :=
  ∀ (bytes : Bytes) (c c' : Cursor) (e : ε), scan.run bytes c = (.error e, c') → allowed e

namespace Blames

/-! ### Putting scans together -/

@[grind ←]
theorem pure (a : α) : (Pure.pure a : Scan ε α).Blames allowed := by
  intro bytes c c' e hrun
  cases hrun

@[grind ←]
theorem fail {e : ε} (he : allowed e) : (Scan.fail e : Scan ε α).Blames allowed := by
  intro bytes c c' e' hrun
  cases hrun
  exact he

@[grind ←]
theorem bind {x : Scan ε α} {f : α → Scan ε β} (hx : x.Blames allowed)
    (hf : ∀ a, (f a).Blames allowed) : (x >>= f).Blames allowed := by
  intro bytes c c' e hrun
  rw [run_bind] at hrun
  rcases hfirst : x.run bytes c with ⟨e' | a, d⟩
  · rw [hfirst] at hrun
    cases hrun
    exact hx bytes c _ _ hfirst
  · rw [hfirst] at hrun
    exact hf a bytes d c' e hrun

@[grind ←]
theorem find (reference : Reference) : (Scan.find reference : Scan ε Unit).Blames allowed := by
  intro bytes c c' e hrun
  cases hrun

@[grind ←]
theorem pos : (Scan.pos : Scan ε Nat).Blames allowed := by
  intro bytes c c' e hrun
  cases hrun

@[grind ←]
theorem visit (target : Nat) {x : Scan ε α} (hx : x.Blames allowed) :
    (x.visit target).Blames allowed := by
  intro bytes c c' e hrun
  rw [run_visit] at hrun
  obtain ⟨he, _⟩ := Prod.mk.inj hrun
  exact hx bytes _ _ e (Prod.ext he rfl)

@[grind ←]
theorem peek {x : Scan ε α} (hx : x.Blames allowed) : (Scan.peek x).Blames allowed :=
  fun bytes c => visit c.pos hx bytes c

/-- The first failure is forgotten. -/
@[grind ←]
theorem orElse {x y : Scan ε α} (hy : y.Blames allowed) : (x.orElse y).Blames allowed := by
  intro bytes c c' e hrun
  rw [run_orElse] at hrun
  rcases hfirst : x.run bytes c with ⟨e' | a, d⟩
  · rw [hfirst] at hrun
    exact hy bytes d c' e hrun
  · rw [hfirst] at hrun
    cases hrun

@[grind ←]
theorem times {x : Scan ε α} (hx : x.Blames allowed) (count : Nat) :
    (x.times count).Blames allowed := by
  induction count with
  | zero => exact pure []
  | succ count ih => exact bind hx fun _ => bind ih fun _ => pure _

@[grind ←]
theorem forScript {x : Scan DataError α} (hx : x.Blames DataError.Mild) :
    (Scan.forScript x).Blames ScriptFailure.OfScript := by
  intro bytes c c' e hrun
  rw [run_forScript] at hrun
  rcases hfirst : x.run bytes c with ⟨cause | a, d⟩
  · have hmild : cause.isFatal = false := hx bytes c d cause hfirst
    rw [hfirst] at hrun
    cases hrun
    exact ⟨by simp [ScriptFailure.Mild, ScriptFailure.fatal?, hmild], nofun⟩
  · rw [hfirst] at hrun
    cases hrun

/-! ### Numbers, texts and operands -/

@[grind ←]
theorem slice (count : Nat) : (Scan.slice count).Blames DataError.Mild := by
  intro bytes c c' e hrun
  unfold Scan.run Scan.slice at hrun
  split at hrun
  · cases hrun
  · cases hrun
    rfl

@[grind ←]
theorem skip (count : Nat) : (Scan.skip count).Blames DataError.Mild := by
  grind [Scan.skip]

@[grind ←]
theorem u8 : Scan.u8.Blames DataError.Mild := by
  grind [Scan.u8, Scan.unsigned]

@[grind ←]
theorem u16 : Scan.u16.Blames DataError.Mild := by
  grind [Scan.u16, Scan.unsigned]

@[grind ←]
theorem u32 : Scan.u32.Blames DataError.Mild := by
  grind [Scan.u32, Scan.unsigned]

@[grind ←]
theorem i16 : Scan.i16.Blames DataError.Mild := by
  grind [Scan.i16]

@[grind ←]
theorem i32 : Scan.i32.Blames DataError.Mild := by
  grind [Scan.i32]

@[grind ←]
theorem rawSingle : Scan.rawSingle.Blames DataError.Mild := by
  grind [Scan.rawSingle]

@[grind ←]
theorem single : Scan.single.Blames DataError.Mild := by
  grind [Scan.single, DataError.Mild, DataError.isFatal]

@[grind ←]
theorem point : Scan.point.Blames DataError.Mild := by
  grind [Scan.point]

@[grind ←]
theorem text (count : Nat) : (Scan.text count).Blames DataError.Mild := by
  grind [Scan.text, DataError.Mild, DataError.isFatal]

@[grind ←]
theorem countedText : Scan.countedText.Blames DataError.Mild := by
  grind [Scan.countedText]

@[grind ←]
theorem animation : Scan.animation.Blames DataError.Mild := by
  grind [Scan.animation]

@[grind ←]
theorem operandKind (kind : OperandKind) : kind.read.Blames DataError.Mild := by
  cases kind <;> simp only [OperandKind.read] <;> grind

@[grind ←]
theorem operandKinds (kinds : List OperandKind) :
    (OperandKind.readAll kinds).Blames DataError.Mild := by
  induction kinds with
  | nil => exact pure []
  | cons kind kinds ih => exact bind (operandKind kind) fun _ => bind ih fun _ => pure _

@[grind ←]
theorem shape (shape : Shape) : shape.read.Blames DataError.Mild := by
  cases shape <;> simp only [Shape.read] <;> grind

@[grind ←]
theorem blockTarget : Scan.blockTarget.Blames DataError.Mild := by
  grind [Scan.blockTarget]

@[grind ←]
theorem findBlocks (blocks : List UInt32) :
    (Scan.branchOperand.findBlocks blocks).Blames DataError.Mild := by
  induction blocks with
  | nil => exact pure ()
  | cons block blocks ih => exact bind (find _) fun _ => ih

@[grind ←]
theorem branchOperand : Scan.branchOperand.Blames DataError.Mild := by
  grind [Scan.branchOperand]

@[grind ←]
theorem blockTargets (count : Nat) : (Scan.blockTargets count).Blames DataError.Mild := by
  grind [Scan.blockTargets]

@[grind ←]
theorem quotedText : Scan.quotedText.Blames DataError.Mild := by
  grind [Scan.quotedText]

@[grind ←]
theorem place : Scan.place.Blames DataError.Mild := by
  grind [Scan.place]

@[grind ←]
theorem singles (count : Nat) : (Scan.singles count).Blames DataError.Mild := by
  grind [Scan.singles]

@[grind ←]
theorem refuse (site : Site) (value : UInt8) :
    (site.refuse value : Scan ScriptFailure α).Blames ScriptFailure.OfScript :=
  fail ⟨rfl, nofun⟩

/-! ### Layouts -/

@[grind ←]
theorem ordered (site : Site) : (OperandLayout.readOrdered site).Blames ScriptFailure.OfScript := by
  simp only [OperandLayout.readOrdered, liftM_eq_forScript]
  grind

@[grind ←]
theorem audience : OperandLayout.readAudience.Blames DataError.Mild := by
  simp only [OperandLayout.readAudience]
  grind

theorem order (site : Site) : (OperandLayout.readOrder site).Blames ScriptFailure.OfScript := by
  simp only [OperandLayout.readOrder, liftM_eq_forScript]
  grind

theorem path (site : Site) : (OperandLayout.readPath site).Blames ScriptFailure.OfScript := by
  refine bind (forScript u32) fun path => bind (find _) fun _ => bind (forScript u8) fun a => ?_
  simp only [liftM_eq_forScript]
  grind

theorem projectile (site : Site) :
    (OperandLayout.readProjectile site).Blames ScriptFailure.OfScript := by
  refine bind (forScript u8) fun kind => ?_
  simp only [liftM_eq_forScript]
  grind

/-- However operands decide about each other, reading them fails mildly. -/
@[grind ←]
theorem layout (site : Site) (layout : OperandLayout) :
    (layout.read site).Blames ScriptFailure.OfScript := by
  cases layout with
  | path => exact path site
  | order => exact order site
  | projectile => exact projectile site
  | _ =>
      simp only [OperandLayout.read, OperandLayout.readPartBranch, OperandLayout.readReinforcement,
        OperandLayout.readRadius, OperandLayout.readSound, OperandLayout.readWeightedJumps,
        OperandLayout.readWeighted, OperandLayout.readTouchDamage, OperandLayout.readTeleport,
        OperandLayout.readBlast, OperandLayout.readArenaState, OperandLayout.readBuddy,
        OperandLayout.readPartBox, liftM_eq_forScript]
      grind

/-! ### Commands -/

theorem decode (site : Site) : site.decode.Blames ScriptFailure.OfScript := by
  unfold Site.decode
  split
  · exact bind (layout site _) fun _ => pure _
  · exact fail ⟨rfl, nofun⟩
  · refine bind (forScript (shape _)) fun operands? => ?_
    split <;> exact pure _

@[grind ←]
theorem scope : Scan.scope.Blames ScriptFailure.OfScript := by
  refine bind (forScript u8) fun tag => ?_
  split
  · exact fail ⟨rfl, nofun⟩
  · exact fail ⟨rfl, nofun⟩
  · exact fail ⟨rfl, nofun⟩
  · exact pure _

theorem ofExcept {x : Except ε α} (h : ∀ e, x = .error e → allowed e) :
    (Scan.ofExcept x).Blames allowed := by
  cases x with
  | error e => exact fail (h e rfl)
  | ok a => exact pure a

@[grind ←]
theorem variableOf (known : Scope) : (Scan.variableOf known).Blames ScriptFailure.OfScript := by
  refine bind (forScript u8) fun index => ofExcept fun e he => ?_
  unfold Variable.resolve at he
  split at he
  · cases he
    exact ⟨rfl, nofun⟩
  · split at he <;> cases he
    exact ⟨rfl, nofun⟩

theorem quantity : Scan.quantity.Blames ScriptFailure.OfScript := by
  simp only [Scan.quantity, liftM_eq_forScript]
  grind

theorem variableTarget (opcode : UInt8) :
    (Scan.variableTarget opcode).Blames ScriptFailure.OfScript := by
  refine bind scope fun known => ?_
  split
  · exact fail ⟨rfl, nofun⟩
  · exact variableOf known

theorem write (opcode : UInt8) (make : Variable → Single → Command) :
    (Command.readWrite opcode make).Blames ScriptFailure.OfScript :=
  bind (variableTarget opcode) fun _ => bind (forScript single) fun _ => pure _

theorem note (site : Site) : (Command.readNote site).Blames ScriptFailure.OfScript := by
  refine bind (decode site) fun decoded => ?_
  split <;> exact pure _

theorem door (opcode : UInt8) : (Command.readDoor opcode).Blames DataError.Mild := by
  unfold Command.readDoor
  split <;> grind

theorem spawn (kind : SpawnKind) : (Command.readSpawn kind).Blames DataError.Mild := by
  grind [Command.readSpawn]

theorem posedSpawn : Command.readPosedSpawn.Blames DataError.Mild := by
  grind [Command.readPosedSpawn]

/-- Whatever is read but a door that is spawned fails mildly. -/
theorem command (arenas : List String) (actor : Actor) {site : Site} (hop : site.opcode ≠ 0x95) :
    (Command.read arenas actor site).Blames ScriptFailure.OfScript := by
  have hanimate : (Scan.forScript Command.readAnimate).Blames ScriptFailure.OfScript :=
    forScript (bind animation fun _ => pure _)
  unfold Command.read
  split
  · exact pure _
  · exact hanimate
  · exact hanimate
  · exact forScript (bind i16 fun _ => pure _)
  · exact pure _
  · exact pure _
  · exact bind (forScript u8) fun _ => pure _
  · exact bind (forScript u8) fun _ => pure _
  · exact bind (forScript u16) fun _ => pure _
  · exact bind quantity fun _ => pure _
  · exact write _ _
  · exact write _ _
  · exact bind (forScript point) fun _ => pure _
  · exact bind (forScript u32) fun _ => pure _
  · exact bind (forScript u32) fun _ => pure _
  · exact forScript (spawn _)
  · exact forScript (spawn _)
  · exact forScript (spawn _)
  · exact forScript posedSpawn
  · next hdoor => exact absurd (UInt8.toNat_inj.mp hdoor) hop
  iterate 4
    · cases actor.door? with
      | none => exact fail ⟨rfl, nofun⟩
      | some _ => exact forScript (door _)
  · exact pure _
  · exact note site

end Blames

end Scan

/-! ### Doors to nowhere -/

namespace Command

theorem findArena_eq_error {arenas : List String} {name : String} {error : DataError} :
    findArena arenas name = .error error ↔ name ∉ arenas ∧ error = .unknownArena name := by
  unfold findArena
  cases hfind : arenas.findIdx? (· == name) with
  | some index =>
      have hmem : name ∈ arenas := by
        obtain ⟨hlt, heq, _⟩ := List.findIdx?_eq_some_iff_getElem.mp hfind
        rw [beq_iff_eq] at heq
        exact heq ▸ List.getElem_mem hlt
      simp [hmem]
  | none =>
      have hnot : name ∉ arenas := by
        intro hmem
        simpa using List.findIdx?_eq_none_iff.mp hfind name hmem
      simp [hnot, eq_comm]

/-- The arena that a door is to lead to, as its spawn gives it. -/
def doorArena : Scan DataError String := do
  let _ ← Scan.point
  let _ ← Scan.single
  let _ ← Scan.i32
  let _ ← Scan.countedText
  let arena ← Scan.countedText
  let _ ← Scan.u32
  return arena

theorem doorArena_regular (bytes : Bytes) : doorArena.Regular bytes Scan.Any :=
  .bind .point fun _ _ => .bind .single fun _ _ => .bind .i32 fun _ _ =>
    .bind .countedText fun _ _ => .bind .countedText fun _ _ => .bind .u32 fun _ _ => .done

theorem doorArena_blames : doorArena.Blames DataError.Mild :=
  .bind .point fun _ => .bind .single fun _ => .bind .i32 fun _ => .bind .countedText fun _ =>
    .bind .countedText fun _ => .bind .u32 fun _ => .pure _

/-- Once its arena is read, only that arena can be wrong with a door that is spawned. -/
theorem run_readDoorSpawn (arenas : List String) (bytes : Bytes) (c : Cursor) :
    match doorArena.run bytes c with
    | (.error error, c') => (readDoorSpawn arenas).run bytes c = (.error error, c')
    | (.ok name, c') =>
      if name ∈ arenas then ∃ command, (readDoorSpawn arenas).run bytes c = (.ok command, c')
      else (readDoorSpawn arenas).run bytes c = (.error (.unknownArena name), c') := by
  simp only [doorArena, readDoorSpawn, Scan.run_bind]
  rcases Scan.point.run bytes c with ⟨_ | _, c⟩
  · rfl
  dsimp only
  rcases Scan.single.run bytes c with ⟨_ | _, c⟩
  · rfl
  dsimp only
  rcases Scan.i32.run bytes c with ⟨_ | _, c⟩
  · rfl
  dsimp only
  rcases Scan.countedText.run bytes c with ⟨_ | _, c⟩
  · rfl
  dsimp only
  rcases Scan.countedText.run bytes c with ⟨_ | arena, c⟩
  · rfl
  dsimp only
  rcases Scan.u32.run bytes c with ⟨_ | _, c⟩
  · rfl
  dsimp only [Scan.run_pure]
  by_cases hmem : arena ∈ arenas
  · rw [if_pos hmem]
    cases hfind : findArena arenas arena with
    | error error => exact absurd hmem (findArena_eq_error.mp hfind).1
    | ok target => exact ⟨_, rfl⟩
  · rw [if_neg hmem, findArena_eq_error.mpr ⟨hmem, rfl⟩]
    rfl

/-- A door that is spawned fails fatally if, and only if, its arena is read and does not exist. -/
theorem fatal_readDoorSpawn {arenas : List String} {bytes : Bytes} {c c' : Cursor}
    {result : Except DataError Command}
    (hrun : (readDoorSpawn arenas).run bytes c = (result, c')) (error : DataError) :
    (result = .error error ∧ error.isFatal = true) ↔
      ∃ name, error = .unknownArena name ∧ name ∉ arenas ∧
        (doorArena.run bytes c).1 = .ok name := by
  have hdoor := run_readDoorSpawn arenas bytes c
  rcases harena : doorArena.run bytes c with ⟨cause | name, d⟩
  · have hmild : cause.isFatal = false := doorArena_blames bytes c d cause harena
    rw [harena, hrun] at hdoor
    cases hdoor
    constructor
    · rintro ⟨hcause, hfatal⟩
      cases hcause
      simp [hmild] at hfatal
    · rintro ⟨name, _, _, hname⟩
      cases hname
  · rw [harena, hrun] at hdoor
    dsimp only at hdoor ⊢
    split at hdoor
    · next hmem =>
      obtain ⟨command, hcommand⟩ := hdoor
      cases hcommand
      constructor
      · rintro ⟨hcause, _⟩
        cases hcause
      · rintro ⟨name', _, hnot, hname⟩
        cases hname
        exact absurd hmem hnot
    · next hnot =>
      cases hdoor
      constructor
      · rintro ⟨hcause, _⟩
        cases hcause
        exact ⟨name, rfl, hnot, rfl⟩
      · rintro ⟨name', rfl, _, hname⟩
        cases hname
        exact ⟨rfl, rfl⟩

theorem read_doorSpawn {site : Site} (hop : site.opcode = 0x95) (arenas : List String)
    (actor : Actor) :
    Command.read arenas actor site = Scan.forScript (readDoorSpawn arenas) := by
  unfold Command.read
  rw [hop]
  rfl

/-- The guards against scripts that run away are not hit while an instruction is read. -/
theorem family_of_read {arenas : List String} {actor : Actor} {site : Site} {bytes : Bytes}
    {c c' : Cursor} {failure : ScriptFailure}
    (hrun : (Command.read arenas actor site).run bytes c = (.error failure, c')) :
    failure.family ≠ .exhausted := by
  by_cases hop : site.opcode = 0x95
  · rw [read_doorSpawn hop, Scan.run_forScript] at hrun
    split at hrun
    · cases hrun
    · cases hrun
      exact nofun
  · exact (Scan.Blames.command arenas actor hop bytes c c' failure hrun).family_ne

/-- Of all instructions only the spawn of a door to nowhere is fatal. -/
theorem fatal_read {arenas : List String} {actor : Actor} {site : Site} {bytes : Bytes}
    {c c' : Cursor} {result : Except ScriptFailure Command}
    (hrun : (Command.read arenas actor site).run bytes c = (result, c')) (error : DataError) :
    (∃ failure : ScriptFailure, result = .error failure ∧ failure.fatal? = some error) ↔
      site.opcode = 0x95 ∧ ∃ name, error = .unknownArena name ∧ name ∉ arenas ∧
        (doorArena.run bytes c).1 = .ok name := by
  by_cases hop : site.opcode = 0x95
  · rw [read_doorSpawn hop, Scan.run_forScript] at hrun
    rcases hdoor : (readDoorSpawn arenas).run bytes c with ⟨cause | command, d⟩
    · rw [hdoor] at hrun
      cases hrun
      rw [← fatal_readDoorSpawn hdoor error]
      simp [ScriptFailure.fatal?_eq_some, hop]
    · rw [hdoor] at hrun
      cases hrun
      rw [← fatal_readDoorSpawn hdoor error]
      simp
  · constructor
    · rintro ⟨failure, rfl, hfatal⟩
      have hmild : failure.fatal? = none :=
        (Scan.Blames.command arenas actor hop bytes c c' _ hrun).mild
      rw [hmild] at hfatal
      cases hfatal
    · rintro ⟨hdoor, _⟩
      exact absurd hdoor hop

end Command

/-- An instruction that spawns a door to an arena which does not exist. -/
structure Executed.Dangles (bytes : Bytes) (arenas : List String) (name : String)
    (executed : Executed) : Prop where
  opcode_eq : executed.opcode = 0x95
  arena_eq : Command.doorArena.eval bytes (executed.start + 1) = .ok name
  not_mem : name ∉ arenas

/-! ### Parts -/

/-- A position without an opcode is no fatal failure. -/
theorem fetch_unreadable {stage : Stage} {pos : Nat} {actor : Actor} {reads reads' : List Span}
    {cause : DataError} (h : fetch stage pos actor reads = (.unreadable cause, reads')) :
    cause.Mild := by
  unfold fetch at h
  split at h
  · next error c hopcode =>
    cases h
    exact Scan.Blames.u8 _ _ _ _ hopcode
  · split at h <;> cases h

/-- What goes wrong with a script is fatal exactly if one of its instructions is a door to
nowhere. -/
def Stage.FatalByDoor (stage : Stage) (ran : List Executed) (raised : Option ScriptFailure) :
    Prop :=
  ∀ error, raised.bind ScriptFailure.fatal? = some error ↔
    ∃ name, error = .unknownArena name ∧
      ∃ executed ∈ ran, executed.Dangles stage.bytes stage.arenas name

/-- The whole cast of a run has this property. -/
def Cast.FatalByDoor (stage : Stage) (cast : Cast) : Prop :=
  ∀ part ∈ cast.parts, stage.FatalByDoor part.ran part.raised

namespace Stage.FatalByDoor

variable {stage : Stage}

theorem nil {raised : Option ScriptFailure} (h : raised.bind ScriptFailure.fatal? = none) :
    stage.FatalByDoor [] raised := by
  intro error
  simp [h]

theorem append {ran ran' : List Executed} {raised : Option ScriptFailure}
    (h : stage.FatalByDoor ran none) (h' : stage.FatalByDoor ran' raised) :
    stage.FatalByDoor (ran ++ ran') raised := by
  intro error
  rw [h' error]
  constructor
  · rintro ⟨name, rfl, executed, hmem, hdangles⟩
    exact ⟨name, rfl, executed, List.mem_append_right _ hmem, hdangles⟩
  · rintro ⟨name, rfl, executed, hmem, hdangles⟩
    rcases List.mem_append.mp hmem with hmem | hmem
    · cases (h (.unknownArena name)).mpr ⟨name, rfl, executed, hmem, hdangles⟩
    · exact ⟨name, rfl, executed, hmem, hdangles⟩

theorem fetch (pos : Nat) (actor : Actor) (reads : List Span) :
    stage.FatalByDoor ((fetch stage pos actor reads).1.ran pos)
      (fetch stage pos actor reads).1.raised := by
  rcases hfetch : LevelScript.fetch stage pos actor reads with
    ⟨cause | _ | ⟨opcode, stop, result⟩, reads'⟩
  case unreadable =>
    have hmild : cause.isFatal = false := fetch_unreadable hfetch
    refine nil ?_
    simp [Fetched.raised, ScriptFailure.fatal?, hmild]
  case ending => exact nil rfl
  case instruction =>
    obtain ⟨c, c', hopcode, _, hread, _, _⟩ := fetch_instruction hfetch
    have hpos : c.pos = pos + 1 := (Scan.Takes.u8 _ _ _ _ hopcode).1
    have harena : Command.doorArena.eval stage.bytes (pos + 1) =
        (Command.doorArena.run stage.bytes c).1 :=
      ((Command.doorArena_regular stage.bytes).run_congr hpos.symm).1
    intro error
    have hraised : (Fetched.instruction opcode stop result).raised.bind ScriptFailure.fatal? =
        some error ↔ ∃ failure : ScriptFailure, result = .error failure ∧
          failure.fatal? = some error := by
      cases result <;> simp [Fetched.raised]
    rw [hraised, Command.fatal_read hread error]
    constructor
    · rintro ⟨hop, name, rfl, hnot, hname⟩
      exact ⟨name, rfl, _, List.mem_singleton_self _, hop, harena.trans hname, hnot⟩
    · rintro ⟨name, rfl, executed, hmem, hop, hname, hnot⟩
      obtain rfl := List.mem_singleton.mp hmem
      exact ⟨hop, name, rfl, hnot, harena.symm.trans hname⟩

end Stage.FatalByDoor

/-- So far nothing has gone wrong with a script that goes on. -/
theorem stepPlaybill_raised_of_next {stage : Stage} {settle : Settle} {pos pos' : Nat}
    {scene scene' : Scene} (h : step stage settle pos scene = .next pos' scene') (herald : Herald) :
    (stepPlaybill stage herald pos scene).raised = none := by
  rw [step_eq_proceed] at h
  unfold stepPlaybill
  rcases hfetch : fetch stage pos scene.actor scene.world.reads with
    ⟨cause | _ | ⟨opcode, stop, _ | command⟩, reads⟩
  · rw [hfetch] at h
    cases h
  · rfl
  · rw [hfetch] at h
    cases h
  · rfl

/-- A herald whose casts have this property. -/
def Herald.FatalByDoor (stage : Stage) (herald : Herald) : Prop :=
  ∀ (child : Actor) (init : UInt32) (world : World),
    (herald child init world).FatalByDoor stage

variable {stage : Stage} {herald : Herald}

/-- A playbill in which everybody has this property. -/
structure Playbill.FatalByDoor (stage : Stage) (playbill : Playbill) : Prop where
  own : stage.FatalByDoor playbill.ran playbill.raised
  others : ∀ part ∈ playbill.others, stage.FatalByDoor part.ran part.raised

theorem Playbill.FatalByDoor.cast {playbill : Playbill} (h : playbill.FatalByDoor stage)
    (first : Actor) (setup : Option UInt32) : (playbill.cast first setup).FatalByDoor stage := by
  intro part hpart
  rcases List.mem_cons.mp hpart with rfl | hpart
  · exact h.own
  · exact h.others part hpart

/-- The playbill of a script of which nothing is executed. -/
theorem Playbill.fatalByDoor_idle {raised : Option ScriptFailure}
    (h : raised.bind ScriptFailure.fatal? = none) :
    (Playbill.mk [] raised []).FatalByDoor stage :=
  ⟨.nil h, fun _ hpart => absurd hpart List.not_mem_nil⟩

theorem stepPlaybill_fatalByDoor (h : herald.FatalByDoor stage) (pos : Nat) (scene : Scene) :
    (stepPlaybill stage herald pos scene).FatalByDoor stage := by
  refine ⟨.fetch pos scene.actor scene.world.reads, fun part hpart => ?_⟩
  obtain ⟨child, init, world, inner, hinner, rfl⟩ := mem_stepPlaybill_others hpart
  exact h child init world inner hinner

theorem executePlaybill_fatalByDoor (h : herald.FatalByDoor stage) (settle : Settle)
    (fuel pos : Nat) (scene : Scene) :
    (executePlaybill stage settle herald fuel pos scene).FatalByDoor stage := by
  induction fuel generalizing pos scene with
  | zero => exact Playbill.fatalByDoor_idle rfl
  | succ fuel ih =>
      have hnow := stepPlaybill_fatalByDoor h pos scene
      rw [executePlaybill]
      cases hstep : step stage settle pos scene with
      | next pos' scene' =>
          have hown := hnow.own
          rw [stepPlaybill_raised_of_next hstep herald] at hown
          refine ⟨hown.append (ih pos' scene').own, fun part hpart => ?_⟩
          rcases List.mem_append.mp hpart with hpart | hpart
          · exact hnow.others part hpart
          · exact (ih pos' scene').others part hpart
      | halt outcome => exact hnow

theorem invokePlaybill_fatalByDoor (h : herald.FatalByDoor stage) (settle : Settle)
    (scene : Scene) : (invokePlaybill stage settle herald scene).FatalByDoor stage := by
  unfold invokePlaybill
  split
  · exact executePlaybill_fatalByDoor h settle _ _ scene
  · exact Playbill.fatalByDoor_idle rfl

theorem settleCast_fatalByDoor (stage : Stage) (room : Nat) :
    (settleCast stage room).FatalByDoor stage := by
  induction room with
  | zero =>
      intro child init world
      unfold settleCast
      split
      · exact (Playbill.fatalByDoor_idle rfl).cast child none
      · exact (Playbill.fatalByDoor_idle rfl).cast child none
  | succ room ih =>
      intro child init world
      unfold settleCast
      split
      · exact (Playbill.fatalByDoor_idle rfl).cast child none
      · exact (invokePlaybill_fatalByDoor ih _ _).cast child _

theorem Stage.invokePlaybill_fatalByDoor (stage : Stage) (scene : Scene) :
    (stage.invokePlaybill scene).FatalByDoor stage :=
  LevelScript.invokePlaybill_fatalByDoor (settleCast_fatalByDoor stage _) _ scene

/-- In an invocation from outside only doors to nowhere are fatal. -/
theorem Stage.invokeCast_fatalByDoor (stage : Stage) (scene : Scene) :
    (stage.invokeCast scene).FatalByDoor stage :=
  (stage.invokePlaybill_fatalByDoor scene).cast scene.actor none

/-- So it is in a tick. -/
theorem Stage.tickCast_fatalByDoor (stage : Stage) (scene : Scene) :
    (stage.tickCast scene).FatalByDoor stage := by
  unfold Stage.tickCast
  split
  · split
    · exact (Playbill.fatalByDoor_idle rfl).cast scene.actor none
    · exact (stage.invokePlaybill_fatalByDoor _).cast scene.actor none
  · exact stage.invokeCast_fatalByDoor scene

end LevelScript
