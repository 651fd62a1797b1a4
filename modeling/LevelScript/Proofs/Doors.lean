import LevelScript.Proofs.Company
import LevelScript.Proofs.Continuity

/-!
The flags of doors.

A door starts out shut, and only one instruction changes its flags.  So the flags of a door at play
are what the policy makes of the operands of these instructions, in the order in which the door
itself has executed them.  A policy that keeps the state of a door therefore keeps it shut for good.
Rehearsals run on understudies and leave every door alone.
-/

namespace LevelScript

/-- The operand of an instruction that sets door flags, if there is one and it can be read. -/
def Executed.doorBits? (bytes : Bytes) (executed : Executed) : Option UInt32 :=
  if executed.opcode = 0x98 then wordAt? bytes (executed.start + 1) else none

/-- The flags that a command sets. -/
def Command.doorBits? : Command → Option UInt32
  | .doorFlags bits => some bits
  | _ => none

/-- The flags of a kind that has flags. -/
def ActorKind.flags? : ActorKind → Option DoorFlags
  | .door d => some d.flags
  | _ => none

/-! ### Reading the instruction -/

theorem Scan.run_u32_eq_ok {bytes : Bytes} {c c' : Cursor} {word : UInt32} :
    Scan.u32.run bytes c = (.ok word, c') ↔
      wordAt? bytes c.pos = some word ∧ c' = c.advance 4 := by
  simp only [Scan.u32, Scan.unsigned, Scan.run_bind_eq_ok, Scan.run_pure_eq_ok,
    Scan.run_slice_eq_ok, wordAt?]
  constructor
  · rintro ⟨_, _, ⟨_, _, ⟨hfit, rfl, rfl⟩, rfl, rfl⟩, rfl, rfl⟩
    exact ⟨if_pos hfit, rfl⟩
  · rintro ⟨hword, rfl⟩
    split at hword
    · next hfit =>
      cases hword
      exact ⟨_, _, ⟨_, _, ⟨hfit, rfl, rfl⟩, rfl, rfl⟩, rfl, rfl⟩
    · cases hword

theorem Command.read_doorFlags {arenas : List String} {actor : Actor} {site : Site} {door : Door}
    (hkind : actor.kind = .door door) (hop : site.opcode = 0x98) :
    read arenas actor site =
      Scan.forScript (do let bits ← Scan.u32; return .doorFlags bits) := by
  have hdoor : actor.door? = some door := by rw [Actor.door?, hkind]
  unfold read
  rw [hop]
  simp only [hdoor]
  rfl

/-- The operand of an instruction that a door executes is what the door sets its flags to. -/
theorem doorBits?_of_fetch {stage : Stage} {pos : Nat} {actor : Actor} {door : Door}
    {reads reads' : List Span} {opcode : UInt8} {stop : Nat}
    {result : Except ScriptFailure Command}
    (h : fetch stage pos actor reads = (.instruction opcode stop result, reads'))
    (hkind : actor.kind = .door door) :
    (Executed.mk pos stop opcode).doorBits? stage.bytes =
      result.toOption.bind Command.doorBits? := by
  obtain ⟨c, c', hopcode, _, hread, _, _⟩ := fetch_instruction h
  have hc : c.pos = pos + 1 := (Scan.Takes.u8 _ _ _ _ hopcode).1
  unfold Executed.doorBits?
  by_cases hop : opcode = 0x98
  · rw [if_pos hop, ← hc]
    rw [Command.read_doorFlags hkind hop] at hread
    cases hword : wordAt? stage.bytes c.pos with
    | some word =>
        have hrun : (Scan.forScript (do let bits ← Scan.u32; return Command.doorFlags bits)).run
            stage.bytes c = (.ok (.doorFlags word), c.advance 4) := by
          simp only [Scan.run_forScript_eq_ok, Scan.run_bind_eq_ok, Scan.run_pure_eq_ok]
          exact ⟨word, _, Scan.run_u32_eq_ok.mpr ⟨hword, rfl⟩, rfl, rfl⟩
        cases hrun.symm.trans hread
        rfl
    | none =>
        cases result with
        | error error => rfl
        | ok command =>
            simp only [Scan.run_forScript_eq_ok, Scan.run_bind_eq_ok, Scan.run_pure_eq_ok] at hread
            obtain ⟨bits, _, hbits, _⟩ := hread
            rw [(Scan.run_u32_eq_ok.mp hbits).1] at hword
            cases hword
  · rw [if_neg hop]
    -- Another opcode is not read into the command that sets the flags.
    cases result with
    | error error => rfl
    | ok command =>
        cases Command.reads_of_read hread with
        | doorFlags hother => exact absurd hother hop
        | _ => rfl

/-! ### Carrying it out -/

namespace Command

theorem changeDoor_flags? (scene : Scene) (update : Door → Door) (detail : Door → String)
    {next : DoorFlags → DoorFlags} (hupdate : ∀ door, (update door).flags = next door.flags) :
    (changeDoor scene update detail).scene.actor.kind.flags? =
      scene.actor.kind.flags?.map next := by
  unfold changeDoor Actor.door?
  cases hkind : scene.actor.kind with
  | door door => simp [change, ActorKind.flags?, hupdate]
  | plain => simp [ActorKind.flags?, hkind]
  | pickup => simp [ActorKind.flags?, hkind]

/-- Only the command that sets the flags of a door changes them, and it follows the policy. -/
theorem apply_flags? (stage : Stage) (settle : Settle) (site : Site) (next : Nat) (scene : Scene)
    (command : Command) :
    (command.apply stage settle site next scene).scene.actor.kind.flags? =
      scene.actor.kind.flags?.map fun flags =>
        command.doorBits?.toList.foldl stage.settings.doorFlagPolicy.apply flags := by
  have hsame : ∀ {actor : Actor}, actor.kind = scene.actor.kind →
      actor.kind.flags? = scene.actor.kind.flags?.map fun flags => flags := by
    intro actor hkind
    rw [hkind, Option.map_id']
  cases command with
  | delay time =>
      rw [apply]
      by_cases hover : (scene.view.value time).le .zero
      · rw [(wait_of_le scene next time hover).1]
        exact hsame rfl
      · rw [(wait_of_not_le scene next time hover).1]
        exact hsame rfl
  | spawn order =>
      simp only [apply, carryOutSpawn]
      split
      · exact hsame rfl
      · split <;> exact hsame rfl
  | goBack =>
      simp only [apply, carryOutGoBack]
      split <;> exact hsame rfl
  | doorAnimations animations => exact changeDoor_flags? scene _ _ fun _ => rfl
  | doorSounds sounds => exact changeDoor_flags? scene _ _ fun _ => rfl
  | doorFlags bits => exact changeDoor_flags? scene _ _ fun _ => rfl
  | doorDistance distance => exact changeDoor_flags? scene _ _ fun _ => rfl
  | _ => exact hsame rfl

end Command

theorem Effect.proceed_kind (effect : Effect) (pos : Nat) (opcode : UInt8) (next : Nat) :
    (effect.proceed pos opcode next).scene.actor.kind = effect.scene.actor.kind := by
  unfold proceed
  split <;> rfl

/-- A step changes the flags of a door as the instruction says that it executes. -/
theorem step_flags? (stage : Stage) (settle : Settle) (pos : Nat) (scene : Scene) :
    (step stage settle pos scene).scene.actor.kind.flags? =
      scene.actor.kind.flags?.map fun flags =>
        ((stepRan stage pos scene).filterMap (Executed.doorBits? stage.bytes)).foldl
          stage.settings.doorFlagPolicy.apply flags := by
  rw [step_eq_proceed, stepRan]
  rcases hfetch : fetch stage pos scene.actor scene.world.reads with ⟨fetched, reads⟩
  cases fetched with
  | unreadable error => exact Option.map_id'.symm
  | ending => exact Option.map_id'.symm
  | instruction opcode stop result =>
      -- Whoever is no door has no flags before and none after.
      have hoperand : (scene.actor.kind.flags?.map fun flags =>
            (((Fetched.instruction opcode stop result).ran pos).filterMap
              (Executed.doorBits? stage.bytes)).foldl stage.settings.doorFlagPolicy.apply flags) =
          scene.actor.kind.flags?.map fun flags =>
            (result.toOption.bind Command.doorBits?).toList.foldl
              stage.settings.doorFlagPolicy.apply flags := by
        cases hkind : scene.actor.kind with
        | plain => rfl
        | pickup => rfl
        | door door =>
            rw [← doorBits?_of_fetch hfetch hkind]
            simp only [Fetched.ran, List.filterMap_cons, List.filterMap_nil]
            cases (Executed.mk pos stop opcode).doorBits? stage.bytes <;> rfl
      rw [hoperand]
      cases result with
      | error error => exact Option.map_id'.symm
      | ok command =>
          rw [Fetched.proceed, Effect.proceed_kind, Command.apply_flags?]
          rfl

/-! ### Every life -/

/-- A door whose flags are what the policy makes of all operands of its history, from shut on. -/
def Actor.Flagged (bytes : Bytes) (policy : DoorFlagPolicy) (actor : Actor) (history : History) :
    Prop :=
  ∀ flags, actor.kind.flags? = some flags →
    flags = (history.executed.filterMap (Executed.doorBits? bytes)).foldl policy.apply .closed

theorem Actor.Flagged.of_eq {bytes : Bytes} {policy : DoorFlagPolicy} {actor actor' : Actor}
    {history history' : History} (h : actor.Flagged bytes policy history)
    (hkind : actor'.kind = actor.kind) (hexecuted : history'.executed = history.executed) :
    actor'.Flagged bytes policy history' := by
  intro flags hflags
  rw [hexecuted]
  exact h flags (hkind ▸ hflags)

theorem SpawnOrder.actor_flagged (order : SpawnOrder) (stage : Stage) (bytes : Bytes)
    (policy : DoorFlagPolicy) : (order.actor stage).Flagged bytes policy .fresh := by
  unfold SpawnOrder.actor
  cases order.kind with
  | plain => exact nofun
  | pickup => exact nofun
  | door target => exact fun flags hflags => (Option.some.inj hflags).symm

theorem Actor.Flagged.step {stage : Stage} {scene : Scene} {history : History}
    (h : scene.actor.Flagged stage.bytes stage.settings.doorFlagPolicy history) (settle : Settle)
    (pos : Nat) :
    (step stage settle pos scene).scene.actor.Flagged stage.bytes stage.settings.doorFlagPolicy
      (history.extend (stepRan stage pos scene)) := by
  intro flags hflags
  rw [step_flags?, Option.map_eq_some_iff] at hflags
  obtain ⟨before, hbefore, rfl⟩ := hflags
  rw [h before hbefore, History.executed_extend, List.filterMap_append, List.foldl_append]

theorem Actor.enroll_kind (actor : Actor) (init : UInt32) :
    (actor.enroll init).kind = actor.kind := by
  unfold enroll
  split <;> rfl

/-- Whatever happens to an actor, its flags are those of its history. -/
theorem Stage.Lives.flagged {stage : Stage} {root : Actor → UInt32 → Prop}
    (hroot : ∀ actor init, root actor init →
      actor.Flagged stage.bytes stage.settings.doorFlagPolicy .fresh) {actor : Actor}
    {history : History} {pos : Option Nat} {due : Option UInt32}
    (h : stage.Lives root actor history pos due) :
    actor.Flagged stage.bytes stage.settings.doorFlagPolicy history := by
  induction h with
  | root hactor => exact hroot _ _ hactor
  | spawned _ _ _ => exact SpawnOrder.actor_flagged _ _ _ _
  | begun _ _ ih => exact ih.of_eq rfl (History.executed_begin _ _)
  | enrolled _ _ ih => exact ih.of_eq (Actor.enroll_kind _ _) (History.executed_begin _ _)
  | setUp _ _ _ ih => exact ih.of_eq rfl (History.executed_begin _ _)
  | dropped _ ih => exact ih
  | ended _ _ _ ih => exact ih.of_eq rfl rfl
  | started _ _ ih => exact ih
  | @went scene scene' history pos pos' due settle _ hstep ih =>
      have hflagged := ih.step settle pos
      rwa [hstep] at hflagged
  | @halted scene history pos due settle outcome _ hstep ih =>
      have hflagged := ih.step settle pos
      rwa [hstep] at hflagged
  | waited _ _ _ ih => exact ih.of_eq rfl rfl
  | resumed _ _ ih => exact ih.of_eq rfl rfl

/-- Nobody is a door without having been spawned as one, but for an understudy. -/
theorem Level.Root.flags? {settings : Settings} {first : Level} {index : Nat} {actor : Actor}
    {script : UInt32} (h : first.Root settings index false actor script) :
    actor.kind.flags? = none := by
  cases h with
  | arena _ _ => rfl
  | placed placement _ => rfl
  | understudy kind hrehearsal _ _ => cases hrehearsal

/-! ### The state of a door -/

/-- The policy that keeps the state of a door does so at each instruction. -/
theorem DoorFlagPolicy.preserveState_state (flags : DoorFlags) (bits : UInt32) :
    (preserveState.apply flags bits).bits &&& DoorFlags.stateMask =
      flags.bits &&& DoorFlags.stateMask := by
  apply UInt32.toBitVec_inj.mp
  ext i hi
  simp only [apply, UInt32.toBitVec_and, UInt32.toBitVec_or, UInt32.toBitVec_not, BitVec.getElem_and,
    BitVec.getElem_or, BitVec.getElem_not]
  cases flags.bits.toBitVec[i] <;> cases DoorFlags.stateMask.toBitVec[i] <;> simp

theorem DoorFlagPolicy.foldl_preserveState_state (operands : List UInt32) (flags : DoorFlags) :
    (operands.foldl preserveState.apply flags).bits &&& DoorFlags.stateMask =
      flags.bits &&& DoorFlags.stateMask := by
  induction operands generalizing flags with
  | nil => rfl
  | cons bits operands ih => rw [List.foldl_cons, ih, preserveState_state]

/-! ### Every run -/

/-- Rehearsing all setup scripts of an arena, fatal or not, leaves everybody alone. -/
theorem Session.actor?_rehearseAll (session : Session) (settings : Settings) (index i : Nat)
    (seat : Seat) :
    ((Play.rehearseAll settings index).exec session).2.actor? i seat = session.actor? i seat := by
  rw [Play.Makes.rehearseAll settings index session]
  apply Play.follow_induction_of_mem _ fun later => later.actor? i seat = session.actor? i seat
  · intro later move hmove hlater
    obtain ⟨entry, _, rfl⟩ := List.mem_map.mp hmove
    rw [move_rehearse, actor?_rehearsed, hlater]
  · rfl

/-- However a level that was built is played, the flags of a door are what the policy has made of
the operands that the door itself has come across, one after the other, from shut on.  If the policy
keeps the state of a door, the door is shut.  No rehearsal changes a door, or anybody else. -/
theorem Recorded.door_flags_afterAll {built : Settings} {container : Container} {bytes : Bytes}
    {level : Level} (hbuild : Level.build built container bytes = .ok level) (settings : Settings)
    (reads : List Span) (operations : List Operation) :
    let recorded := (Recorded.start level reads).afterAll settings operations
    recorded.session = (Session.mk level reads).afterAll settings operations ∧
      (∀ (index : Nat) (seat : Seat) (actor : Actor) (door : Door),
        recorded.session.actor? index seat = some actor → actor.kind = .door door →
        door.flags =
          ((recorded.chronicle index seat).executed.filterMap (Executed.doorBits? bytes)).foldl
            settings.doorFlagPolicy.apply .closed ∧
        (settings.doorFlagPolicy = .preserveState →
          door.flags.bits &&& DoorFlags.stateMask = DoorFlags.closed.bits)) ∧
      ∀ (session : Session) (index i : Nat) (seat : Seat),
        ((Play.rehearseAll settings index).exec session).2.actor? i seat =
          session.actor? i seat := by
  intro recorded
  refine ⟨Recorded.afterAll_session _ settings operations, ?_,
    fun session index i seat => session.actor?_rehearseAll settings index i seat⟩
  intro index seat actor door hactor hkind
  have htruthful : recorded.Truthful settings level :=
    (Recorded.start_truthful hbuild settings reads).afterAll operations
  obtain ⟨arena, harena, hseat⟩ := Session.actor?_eq_some hactor
  have hlives := htruthful.seats index arena harena seat actor hseat
  have hflagged := hlives.flagged fun _ _ hroot flags hflags => by
    rw [hroot.flags?] at hflags
    cases hflags
  obtain ⟨_, hexplore⟩ := Level.build_eq_ok hbuild
  have hflags := hflagged door.flags (by rw [hkind]; rfl)
  simp only [Level.stageOf, (Level.explore_eq_ok hexplore).2.2] at hflags
  refine ⟨hflags, ?_⟩
  intro hpolicy
  rw [hflags, hpolicy, DoorFlagPolicy.foldl_preserveState_state]
  rfl

/-- A container in which doors have a setup script. -/
def Container.gated : Container :=
  ⟨"LEVEL", 0, [], [], [("HALL$D", 34)], [⟨"HALL", ("", ""), 1⟩]⟩

/-- Scripts of that container: the arena spawns a door, its setup script opens and locks it, and its
own script would have it stay open while it opens. -/
def Bytes.gated : Bytes :=
  #[0xff,
    0x95, 0, 0, 0, 0, 0, 0, 0, 0, 0, 0, 0, 0, 0, 0, 0, 0, 0, 0, 0, 0, 1, 0x44,
    4, 0x48, 0x41, 0x4c, 0x4c, 40, 0, 0, 0, 0xff,
    0x98, 0x41, 0, 0, 0, 0xff,
    0x98, 0x25, 0, 0, 0, 0xff]

/-- A door is spawned, set up and played, and its setup is rehearsed beside it. -/
theorem Recorded.door_flags_afterAll_gated :
    ∃ level actor door, Level.build .standard .gated .gated = .ok level ∧
      let recorded := (Recorded.start level []).afterAll .standard [.loadPasses, .loadPasses]
      recorded.session.actor? 0 (.live 0) = some actor ∧ actor.kind = .door door ∧
        door.flags = ⟨0x28⟩ ∧
        door.flags = ((recorded.chronicle 0 (.live 0)).executed.filterMap
            (Executed.doorBits? .gated)).foldl DoorFlagPolicy.preserveState.apply .closed ∧
        door.flags.bits &&& DoorFlags.stateMask = DoorFlags.closed.bits ∧
        ((Play.rehearseAll .standard 0).exec recorded.session).2.actor? 0 (.live 0) =
          some actor := by
  have hbuild : ∃ level, Level.build .standard .gated .gated = .ok level := ⟨_, rfl⟩
  obtain ⟨level, hlevel⟩ := hbuild
  have hstate : (Level.build .standard .gated .gated).toOption.bind (fun level =>
      let recorded := (Recorded.start level []).afterAll .standard [.loadPasses, .loadPasses]
      (recorded.session.actor? 0 (.live 0)).bind fun actor => actor.door?.map Door.flags) =
      some ⟨0x28⟩ := by decide +kernel
  simp only [hlevel, Except.toOption, Option.bind_some, Option.bind_eq_some_iff,
    Option.map_eq_some_iff] at hstate
  obtain ⟨actor, hactor, door, hdoor, hflags⟩ := hstate
  have hkind : actor.kind = .door door := by
    unfold Actor.door? at hdoor
    split at hdoor <;> simp_all
  obtain ⟨-, hdoors, hrehearsals⟩ :=
    door_flags_afterAll hlevel .standard [] [.loadPasses, .loadPasses]
  obtain ⟨hfold, hshut⟩ := hdoors 0 (.live 0) actor door hactor hkind
  exact ⟨level, actor, door, hlevel, hactor, hkind, hflags, hfold, hshut rfl,
    (hrehearsals _ 0 0 (.live 0)).trans hactor⟩

end LevelScript
