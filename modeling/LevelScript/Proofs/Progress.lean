import LevelScript.Proofs.Blame
import LevelScript.Proofs.Coherence
import LevelScript.Proofs.Extent
import LevelScript.Proofs.Leeway

/-!
Scripts that get on.

Whatever the operands of an instruction are, reading them never moves back and never leaves the
buffer, whether the instruction is carried out or listed.  So an invocation only ever goes down the
buffer, an instruction at least a byte further each time, and it cannot execute more instructions
than there are bytes.  In a load that may execute that many no script is ever stopped for running too
long.
-/

namespace LevelScript

/-! ### Operands -/

theorem Site.carryOut_stop (site : Site) (stage : Stage) (settle : Settle) (scene : Scene)
    (c : Cursor) :
    (site.carryOut stage settle scene c).stop =
      ((Command.read stage.arenas scene.actor site).run stage.bytes c).2.pos := by
  unfold Site.carryOut
  rcases (Command.read stage.arenas scene.actor site).run stage.bytes c with ⟨error | command, c'⟩
  · rfl
  · rfl

/-- Carrying an instruction out takes its operands from where they start, and nothing behind the
buffer. -/
theorem Site.le_carryOut_stop (site : Site) {stage : Stage} (settle : Settle) (scene : Scene)
    {c : Cursor} (hc : c.pos ≤ stage.bytes.size) :
    c.pos ≤ (site.carryOut stage settle scene c).stop ∧
      (site.carryOut stage settle scene c).stop ≤ stage.bytes.size := by
  have hregular : (Command.read stage.arenas scene.actor site).Regular stage.bytes Scan.Any :=
    .command stage.arenas scene.actor site
  rw [site.carryOut_stop]
  exact ⟨hregular.run_le_pos c, hregular.run_pos_le hc⟩

/-- So does listing it. -/
theorem Site.le_list_pos (site : Site) {bytes : Bytes} {c : Cursor} (hc : c.pos ≤ bytes.size) :
    c.pos ≤ (site.list.run bytes c).2.pos ∧ (site.list.run bytes c).2.pos ≤ bytes.size :=
  have hregular : site.list.Regular bytes Scan.Any := .list site
  ⟨hregular.run_le_pos c, hregular.run_pos_le hc⟩

/-! ### Steps -/

/-- A script that goes on does so further down, and not behind the buffer. -/
theorem lt_of_step {stage : Stage} {settle : Settle} {pos pos' : Nat} {scene scene' : Scene}
    (h : step stage settle pos scene = .next pos' scene') :
    pos < pos' ∧ pos' ≤ stage.bytes.size := by
  obtain ⟨⟨_, _, _, _, hfetch⟩, -⟩ := fetch_of_next h
  exact ⟨fetch_lt hfetch, fetch_le hfetch⟩

/-- An invocation gets in so many instructions from one position and state to another. -/
inductive Advances (stage : Stage) (settle : Settle) : Nat → Nat → Scene → Nat → Scene → Prop
  | refl (pos : Nat) (scene : Scene) : Advances stage settle 0 pos scene pos scene
  | next {count pos pos' pos'' : Nat} {scene scene' scene'' : Scene} :
      step stage settle pos scene = .next pos' scene' →
      Advances stage settle count pos' scene' pos'' scene'' →
      Advances stage settle (count + 1) pos scene pos'' scene''

section Runs

variable {stage : Stage} {settle : Settle} {count fuel pos pos' : Nat} {scene scene' : Scene}

/-- An instruction takes a byte or more, and so many instructions take so many bytes. -/
theorem Advances.le (h : Advances stage settle count pos scene pos' scene') :
    pos + count ≤ pos' ∧ (0 < count → pos' ≤ stage.bytes.size) := by
  induction h with
  | refl pos scene => exact ⟨Nat.le_refl pos, fun hpos => absurd hpos (Nat.lt_irrefl 0)⟩
  | next hstep hrest ih =>
      obtain ⟨hlt, hle⟩ := lt_of_step hstep
      refine ⟨by omega, fun _ => ?_⟩
      cases hrest with
      | refl => exact hle
      | next => exact ih.2 (Nat.succ_pos _)

/-- A step executes an instruction at its position, or none. -/
theorem stepRan_cases (stage : Stage) (pos : Nat) (scene : Scene) :
    stepRan stage pos scene = [] ∨
      ∃ executed : Executed, stepRan stage pos scene = [executed] ∧ executed.start = pos := by
  unfold stepRan
  rcases (fetch stage pos scene.actor scene.world.reads).1 with _ | _ | ⟨opcode, stop, _⟩
  · exact .inl rfl
  · exact .inl rfl
  · exact .inr ⟨_, rfl, rfl⟩

/-- The instructions that a run writes into the log stand one below the other. -/
theorem execute_sites (stage : Stage) (settle : Settle) (fuel pos : Nat) (scene : Scene) :
    ∃ ran : List Site, (execute stage settle fuel pos scene).2.actor.sites =
        scene.actor.sites ++ ran ∧
      ran.Pairwise (·.offset < ·.offset) ∧ ∀ site ∈ ran, pos ≤ site.offset := by
  induction fuel generalizing pos scene with
  | zero => exact ⟨[], by simp [execute, Scene.fail, Scene.endWith], .nil, nofun⟩
  | succ fuel ih =>
      have hsites := step_sites stage settle pos scene
      rw [execute]
      cases hnext : step stage settle pos scene with
      | halt outcome =>
          rw [hnext] at hsites
          refine ⟨_, hsites, ?_⟩
          rcases stepRan_cases stage pos scene with hran | ⟨executed, hran, rfl⟩
          · simp [hran]
          · simp [hran, Executed.site, Site.at]
      | next pos' scene' =>
          rw [hnext] at hsites
          obtain ⟨ran, hrest, hpairwise, hbelow⟩ := ih pos' scene'
          have hlt := (lt_of_step hnext).1
          have hle : ∀ site ∈ ran, pos < site.offset :=
            fun site hsite => Nat.lt_of_lt_of_le hlt (hbelow site hsite)
          refine ⟨(stepRan stage pos scene).map Executed.site ++ ran, ?_, ?_⟩
          · rw [hrest, ← List.append_assoc]
            exact congrArg (· ++ ran) hsites
          · rcases stepRan_cases stage pos scene with hran | ⟨executed, hran, rfl⟩
            · rw [hran]
              exact ⟨hpairwise, fun site hsite => Nat.le_of_lt (hle site hsite)⟩
            · rw [hran]
              refine ⟨List.pairwise_cons.mpr ⟨hle, hpairwise⟩, ?_⟩
              rintro site (_ | ⟨_, hsite⟩)
              · exact Nat.le_refl _
              · exact Nat.le_of_lt (hle site hsite)

/-- An invocation never executes an instruction twice, nor one above another that it has
executed. -/
theorem invoke_sites (stage : Stage) (settle : Settle) (scene : Scene) :
    ∃ ran : List Site, (invoke stage settle scene).2.actor.sites = scene.actor.sites ++ ran ∧
      ran.Pairwise (·.offset < ·.offset) := by
  unfold invoke
  split
  · obtain ⟨ran, hsites, hpairwise, _⟩ := execute_sites stage settle
      stage.settings.maxInstructions _ scene
    exact ⟨ran, hsites, hpairwise⟩
  · exact ⟨[], by simp, .nil⟩

end Runs

/-! ### Runs that are long enough -/

namespace Actor

/-- The log tells of no run that executed too many instructions. -/
def LogsNoOverrun (actor : Actor) : Prop :=
  ∀ line ∈ actor.log, line.isOverrun = false

/-- An actor that has never executed too many instructions, and was not ended because of that. -/
structure NeverOverrun (actor : Actor) : Prop where
  log : actor.LogsNoOverrun
  ending : ∀ reason, actor.ending? = some reason → (TraceLine.ended reason).isOverrun = false

variable {actor : Actor}

/-- A log in which nothing is told tells of no overrun. -/
theorem logsNoOverrun_of_empty (h : actor.log = #[]) : actor.LogsNoOverrun := by
  intro line hline
  rw [h] at hline
  cases Array.not_mem_empty line hline

theorem LogsNoOverrun.push (h : actor.LogsNoOverrun) {line : TraceLine}
    (hline : line.isOverrun = false) : (actor.push line).LogsNoOverrun := by
  intro other hother
  rcases Array.mem_push.mp hother with hold | rfl
  · exact h other hold
  · exact hline

theorem LogsNoOverrun.endWith (h : actor.LogsNoOverrun) {reason : Ending}
    (hreason : (TraceLine.ended reason).isOverrun = false) :
    (actor.endWith reason).NeverOverrun := by
  refine ⟨h.push hreason, fun other hother => ?_⟩
  cases hother
  exact hreason

/-- An actor that has not ended tells of it in its log only. -/
theorem LogsNoOverrun.of_ending? (h : actor.LogsNoOverrun) (hending : actor.ending? = none) :
    actor.NeverOverrun := by
  refine ⟨h, fun reason hreason => ?_⟩
  rw [hending] at hreason
  cases hreason

theorem LogsNoOverrun.startAt (h : actor.LogsNoOverrun) (offset : UInt32) :
    (actor.startAt offset).NeverOverrun := by
  have hlog : (actor.startAt offset).LogsNoOverrun := h
  apply hlog.of_ending?
  by_cases hoffset : offset = 0
  · simp [Actor.startAt, hoffset, Actor.ending?, Control.ending?]
  · simp [Actor.startAt, hoffset, Actor.ending?, Control.ending?]

theorem LogsNoOverrun.enroll (h : actor.LogsNoOverrun) (init : UInt32) :
    (actor.enroll init).NeverOverrun := by
  unfold Actor.enroll
  split
  · exact h.startAt init
  · exact (h.push rfl).startAt init

end Actor

/-- Only a failure that is about running out can be an overrun. -/
theorem ScriptFailure.isOverrun_of_family {failure : ScriptFailure}
    (h : failure.family ≠ .exhausted) :
    (TraceLine.ended (.failed failure)).isOverrun = false := by
  cases failure with
  | instructionLimit limit => exact absurd rfl h
  | _ => rfl

/-- A step keeps the log free of overruns, and ends an invocation for another reason. -/
def Stepped.NeverOverrun : Stepped → Prop
  | next _ scene => scene.actor.LogsNoOverrun
  | halt outcome => outcome.2.actor.NeverOverrun

/-- A command ends its actor for a reason of the script. -/
theorem Command.proceed_neverOverrun (stage : Stage) (settle : Settle) (pos next : Nat)
    (opcode : UInt8) {scene : Scene} (command : Command) (h : scene.actor.LogsNoOverrun) :
    ((command.apply stage settle (Site.at opcode pos) next scene).proceed pos opcode
      next).NeverOverrun := by
  have hlog : (command.apply stage settle (Site.at opcode pos) next
      scene).scene.actor.LogsNoOverrun := by
    rw [Actor.LogsNoOverrun, (apply_changed stage settle _ next scene command).log_eq]
    exact h
  have hpushed (detail : String) : ((command.apply stage settle (Site.at opcode pos) next
      scene).scene.actor.push (.step pos opcode detail)).LogsNoOverrun := hlog.push rfl
  unfold Effect.proceed
  split
  · exact hpushed _
  · next hverdict =>
    apply (hpushed _).of_ending?
    change Control.ending? _ = none
    rcases apply_control_of_pause hverdict with ⟨_, delay, hcontrol⟩ | ⟨_, hcontrol⟩
    · exact congrArg Control.ending? hcontrol
    · refine (congrArg Control.ending? hcontrol).trans ?_
      split <;> rfl
  · next reason hverdict =>
    apply (hpushed _).endWith
    rcases eq_of_apply_stop hverdict with ⟨-, rfl⟩ | ⟨-, rfl⟩ | ⟨-, rfl⟩ <;> rfl
  · exact (hpushed _).endWith rfl

theorem step_neverOverrun (stage : Stage) (settle : Settle) (pos : Nat) {scene : Scene}
    (h : scene.actor.LogsNoOverrun) : (step stage settle pos scene).NeverOverrun := by
  rw [step_eq_proceed]
  rcases hfetch : fetch stage pos scene.actor scene.world.reads with
    ⟨error | - | ⟨opcode, stop, failure | command⟩, reads⟩
  · exact h.endWith rfl
  · exact h.endWith rfl
  · obtain ⟨c, c', _, _, hread, _, _⟩ := fetch_instruction hfetch
    have hfailure := Command.family_of_read hread
    have hline : (TraceLine.step pos opcode "").isOverrun = false := rfl
    exact (h.push hline).endWith (ScriptFailure.isOverrun_of_family hfailure)
  · exact Command.proceed_neverOverrun stage settle pos stop opcode command h

section Enough

variable {stage : Stage}

/-- With an instruction left for every byte from here on, and one more, a run is not stopped. -/
theorem execute_neverOverrun (settle : Settle) {fuel pos : Nat} {scene : Scene} (hfuel : 0 < fuel)
    (hroom : stage.bytes.size < pos + fuel) (h : scene.actor.LogsNoOverrun) :
    (execute stage settle fuel pos scene).2.actor.NeverOverrun := by
  induction fuel generalizing pos scene with
  | zero => exact absurd hfuel (Nat.lt_irrefl 0)
  | succ fuel ih =>
      have hstep := step_neverOverrun stage settle pos h
      rw [execute]
      cases hnext : step stage settle pos scene with
      | next pos' scene' =>
          rw [hnext] at hstep
          obtain ⟨hlt, hle⟩ := lt_of_step hnext
          exact ih (by omega) (by omega) hstep
      | halt outcome =>
          rw [hnext] at hstep
          exact hstep

/-- What the settings of a stage leave room for: an instruction for every byte, and there are
bytes. -/
structure Stage.Ample (stage : Stage) : Prop where
  pos : 0 < stage.settings.maxInstructions
  le : stage.bytes.size ≤ stage.settings.maxInstructions

/-- No script starts at the very beginning, so an instruction for every byte is enough. -/
theorem invoke_neverOverrun (hample : stage.Ample) (settle : Settle) {scene : Scene}
    (h : scene.actor.NeverOverrun) : (invoke stage settle scene).2.actor.NeverOverrun := by
  unfold invoke
  split
  · next offset hstart =>
    have hne := (Actor.start?_eq_some hstart).2
    have hle := hample.le
    exact execute_neverOverrun settle hample.pos (by omega) h.log
  · exact h

theorem settle_neverOverrun (hample : stage.Ample) (room : Nat) {child : Actor}
    (h : child.LogsNoOverrun) (init : UInt32) (world : World) :
    (settle stage room child init world).2.actor.NeverOverrun := by
  cases room with
  | zero =>
      unfold settle
      split
      · exact h.endWith rfl
      · exact h.enroll init
  | succ room =>
      unfold settle
      split
      · exact h.enroll init
      · next offset _ =>
        have hset : (Scene.mk ((child.push (.setup offset)).startAt offset) world
            #[]).actor.NeverOverrun := (h.push rfl).startAt offset
        have hrun := invoke_neverOverrun hample (settle stage room) hset
        split
        · next hout => rwa [hout] at hrun
        · next hout =>
          rw [hout] at hrun
          split
          · exact hrun
          · exact hrun.log.enroll init

theorem SpawnOrder.actor_logsNoOverrun (order : SpawnOrder) (stage : Stage) :
    (order.actor stage).LogsNoOverrun := by
  apply Actor.logsNoOverrun_of_empty
  unfold SpawnOrder.actor
  cases order.kind <;> rfl

theorem settle_spawned_neverOverrun (hample : stage.Ample) (room : Nat) (child : Actor)
    (init : UInt32) (world : World) :
    ∀ actor ∈ (settle stage room child init world).2.spawned, actor.NeverOverrun :=
  settle_spawned (fun room order world _ =>
    settle_neverOverrun hample room (order.actor_logsNoOverrun stage) order.init world)
    room child init world

theorem Stage.tick_neverOverrun (hample : stage.Ample) {scene : Scene}
    (h : scene.actor.NeverOverrun) : (stage.tick scene).2.actor.NeverOverrun := by
  unfold Stage.tick
  split
  · next resume delay _ =>
    dsimp only
    split
    · have hwaits : ({ scene.actor with
          control := .blocked resume (delay - stage.settings.tickDelta) } : Actor).LogsNoOverrun :=
        h.log
      exact hwaits.of_ending? rfl
    · have hwoken : ({ scene.actor with control := .running resume } : Actor).LogsNoOverrun :=
        h.log
      have hline : (TraceLine.resume resume).isOverrun = false := rfl
      exact invoke_neverOverrun hample _ ((hwoken.push hline).of_ending? rfl)
  · exact invoke_neverOverrun hample _ h

theorem Stage.upholds_neverOverrun (hample : stage.Ample) :
    stage.Upholds Actor.NeverOverrun where
  invoke _ h := invoke_neverOverrun hample _ h
  tick _ h := Stage.tick_neverOverrun hample h
  placed _ _ _ := by
    refine settle_neverOverrun hample _ (Actor.LogsNoOverrun.push ?_ rfl) _ _
    exact Actor.logsNoOverrun_of_empty rfl
  around _ _ _ := settle_spawned_neverOverrun hample _ _ _ _
  brings order _ _ :=
    ⟨settle_neverOverrun hample _ (order.actor_logsNoOverrun stage) _ _,
      settle_spawned_neverOverrun hample _ _ _ _⟩

end Enough

/-! ### Loads -/

/-- A container has at least a name. -/
theorem Container.size_pos_of_read {bytes : Bytes} {container : Container} {c c' : Cursor}
    (h : Container.read.run bytes c = (.ok container, c')) : 0 < bytes.size := by
  obtain ⟨name, d, hname, _⟩ := Scan.run_bind_eq_ok.mp h
  obtain ⟨offset, e, _, hfield⟩ := Scan.run_bind_eq_ok.mp hname
  rw [if_neg (by decide)] at hfield
  obtain ⟨field, _, hslice, _⟩ := Scan.run_bind_eq_ok.mp hfield
  have hfit := (Scan.run_slice_eq_ok.mp hslice).1
  omega

/-- A record of a level in which no script ever executed too many instructions. -/
structure Recorded.NeverOverrun (settings : Settings) (first : Level) (recorded : Recorded) :
    Prop where
  orderly : recorded.session.level.Orderly settings
  grew : first.Grew recorded.session.level
  seats : recorded.session.Everywhere Actor.NeverOverrun
  rehearsals : ∀ rehearsal ∈ recorded.rehearsals, rehearsal.actor.NeverOverrun

section Loads

variable {settings : Settings} {first : Level} {recorded : Recorded}

theorem Recorded.NeverOverrun.move (h : recorded.NeverOverrun settings first)
    (hample : ∀ index rehearsal, (first.stageOf settings index rehearsal).Ample) (move : Move) :
    (recorded.move settings move).NeverOverrun settings first := by
  have hstage : ∀ (home : Nat) (arena : Arena),
      recorded.session.level.arenas[home]? = some arena → ∀ rehearsal,
      (recorded.session.stage settings arena home rehearsal).Ample := by
    intro home arena harena rehearsal
    rw [Session.stage_eq_stageOf harena, h.grew.stageOf_eq]
    exact hample home rehearsal
  obtain ⟨horderly, hgrew⟩ := Session.move_orderly recorded.session move h.orderly
  refine ⟨horderly, h.grew.trans hgrew, ?_, ?_⟩
  · exact h.seats.move (fun home arena harena =>
      Stage.upholds_neverOverrun (hstage home arena harena false)) move
  · cases move with
    | rehearse index entry =>
        intro rehearsal hrehearsal
        rcases List.mem_append.mp hrehearsal with hold | hnew
        · exact h.rehearsals rehearsal hold
        · unfold Session.rehearsalTold at hnew
          cases harena : recorded.session.level.arenas[index]? with
          | none => simp [harena] at hnew
          | some arena =>
              simp only [harena, List.mem_singleton] at hnew
              subst hnew
              refine invoke_neverOverrun (hstage index arena harena true) _ ?_
              exact (Actor.logsNoOverrun_of_empty rfl).startAt entry.2
    | _ => exact h.rehearsals

/-- In a load that may execute an instruction for every byte, nobody ever executes too many: no actor
of the level, and no actor of a rehearsal. -/
theorem loadRecord_neverOverrun {placements : List Placement} {bytes : Bytes}
    (hlimit : bytes.size ≤ settings.maxInstructions)
    (h : loadRecord settings placements bytes = .ok recorded) :
    (∀ (index : Nat) (seat : Seat) (actor : Actor),
      recorded.session.actor? index seat = some actor → actor.NeverOverrun) ∧
      ∀ rehearsal ∈ recorded.rehearsals, rehearsal.actor.NeverOverrun := by
  unfold loadRecord at h
  rcases hread : Container.read.run bytes (.start 0) with ⟨error | container, c⟩
  · simp [hread] at h
  rcases hexplore : Level.explore settings container bytes with error | ⟨first, listed⟩
  · simp [hread, hexplore] at h
  simp only [hread, hexplore, Except.ok.injEq] at h
  have hbuild := Level.build_of_explore hexplore
  obtain ⟨-, -, hbytes⟩ := Level.explore_eq_ok hexplore
  obtain ⟨setups, inits, _, _, hfirst⟩ := Level.getElem?_of_explore hexplore
  have hample : ∀ index rehearsal, (first.stageOf settings index rehearsal).Ample := by
    intro index rehearsal
    have hsize : (first.stageOf settings index rehearsal).bytes.size = bytes.size :=
      congrArg Array.size hbytes
    have hpos := Container.size_pos_of_read hread
    exact ⟨Nat.lt_of_lt_of_le hpos hlimit, hsize ▸ hlimit⟩
  have hself : ∀ (index : Nat) (arena : Arena), first.arenas[index]? = some arena →
      arena.self.NeverOverrun := by
    intro index arena harena
    obtain ⟨record, _, rfl⟩ := hfirst index arena harena
    exact (Actor.logsNoOverrun_of_empty rfl).startAt record.script
  have hrecorded : recorded.NeverOverrun settings first := by
    rw [← h]
    apply Recorded.follow_induction
    · exact fun earlier move hearlier => hearlier.move hample move
    · exact ⟨Level.build_orderly hbuild settings, .refl first,
        Level.everywhere_of_build hbuild hself _, by simp [Recorded.start]⟩
  exact ⟨fun index seat actor hactor => hrecorded.seats index seat actor hactor,
    hrecorded.rehearsals⟩

end Loads

/-- Scripts get on.  Whatever an instruction holds, carrying it out and listing it both leave off
between the start of its operands and the end of the buffer, also where they fail.  So an invocation
comes a byte further with every instruction and stays in the buffer, and the instructions that it
writes into the log stand one below the other.  In a load that may execute an instruction for every
byte, no actor and no rehearsal is ever stopped for executing too many, and no log tells of it. -/
theorem scripts_get_on :
    (∀ (stage : Stage) (settle : Settle) (scene : Scene) (opcode : UInt8) (offset : Nat)
        (c : Cursor), c.pos ≤ stage.bytes.size →
      let carried := (Site.at opcode offset).carryOut stage settle scene c
      let listed := (Site.at opcode offset).list.run stage.bytes c
      (c.pos ≤ carried.stop ∧ carried.stop ≤ stage.bytes.size) ∧
        c.pos ≤ listed.2.pos ∧ listed.2.pos ≤ stage.bytes.size) ∧
    (∀ (stage : Stage) (settle : Settle) (count pos pos' : Nat) (scene scene' : Scene),
      Advances stage settle count pos scene pos' scene' →
      pos + count ≤ pos' ∧ (0 < count → pos' ≤ stage.bytes.size)) ∧
    (∀ (stage : Stage) (settle : Settle) (scene : Scene), ∃ ran : List Site,
      (invoke stage settle scene).2.actor.sites = scene.actor.sites ++ ran ∧
        ran.Pairwise (·.offset < ·.offset)) ∧
    ∀ (settings : Settings) (placements : List Placement) (bytes : Bytes) (recorded : Recorded),
      bytes.size ≤ settings.maxInstructions →
      loadRecord settings placements bytes = .ok recorded →
      (∀ (index : Nat) (seat : Seat) (actor : Actor),
        recorded.session.actor? index seat = some actor → actor.NeverOverrun) ∧
      (∀ rehearsal ∈ recorded.rehearsals, rehearsal.actor.NeverOverrun) ∧
      ∀ level : Level, (loadLevel settings placements bytes).result = .ok level →
        recorded.session.level = level ∧
          ∀ (index : Nat) (arena : Arena), level.arenas[index]? = some arena →
            ∀ entry ∈ arena.setupLogs.entries, ∀ line ∈ entry.2, line.isOverrun = false := by
  refine ⟨?operands, fun _ _ _ _ _ _ _ h => h.le, invoke_sites, ?load⟩
  case operands =>
    intro stage settle scene opcode offset c hc
    exact ⟨Site.le_carryOut_stop _ settle scene hc, Site.le_list_pos _ hc⟩
  case load =>
    intro settings placements bytes recorded hlimit hrecord
    obtain ⟨hactors, hrehearsals⟩ := loadRecord_neverOverrun hlimit hrecord
    refine ⟨hactors, hrehearsals, fun level hresult => ?_⟩
    obtain ⟨_, _, _, recorded', _, hrecord', rfl, htruthful⟩ := loadRecord_of_result hresult
    rw [hrecord, Except.ok.injEq] at hrecord'
    subst hrecord'
    refine ⟨rfl, fun index arena harena entry hentry => ?_⟩
    obtain ⟨rehearsal, hmem, _, _, hlog⟩ := htruthful.logs index arena harena entry hentry
    rw [← hlog]
    exact (hrehearsals rehearsal hmem).log

/-- A script that waits, and a load that has more than an instruction for every byte. -/
theorem scripts_get_on_spawning :
    (let scene : Scene := ⟨default, ⟨.zero, .zero, []⟩, #[]⟩
      let carried := (Site.at 0x40 0).carryOut Site.waitingStage (settle Site.waitingStage 0) scene
        (.start 1)
      1 ≤ carried.stop ∧ carried.stop ≤ 7) ∧
    (∃ stage scene scene', Advances stage (settle stage 0) 2 1 scene 3 scene' ∧
      1 + 2 ≤ 3 ∧ 3 ≤ stage.bytes.size) ∧
    ∃ recorded, loadRecord .standard [⟨"A", "G", 1, .origin, 0⟩] .spawning = .ok recorded ∧
      ∀ rehearsal ∈ recorded.rehearsals, rehearsal.actor.NeverOverrun := by
  refine ⟨?_, ?_, ?_⟩
  · exact (scripts_get_on.1 Site.waitingStage _ _ 0x40 0 (.start 1) (by decide)).1
  · let stage : Stage := ⟨#[0x00, 0x01, 0x01, 0xff], .standard, ["HALL"], 0, .empty, false⟩
    have hadvances : ∃ scene', Advances stage (settle stage 0) 2 1
        ⟨default, ⟨.zero, .zero, []⟩, #[]⟩ 3 scene' := ⟨_, .next rfl (.next rfl (.refl 3 _))⟩
    obtain ⟨scene', hadvances⟩ := hadvances
    have hle := scripts_get_on.2.1 _ _ _ _ _ _ _ hadvances
    exact ⟨stage, _, scene', hadvances, hle.1, hle.2 Nat.two_pos⟩
  · have hok : (loadRecord .standard [⟨"A", "G", 1, .origin, 0⟩] .spawning).isOk = true := by
      decide +kernel
    cases hrecord : loadRecord .standard [⟨"A", "G", 1, .origin, 0⟩] .spawning with
    | error error =>
        rw [hrecord] at hok
        cases hok
    | ok recorded =>
        exact ⟨recorded, rfl, (scripts_get_on.2.2.2 _ _ _ _ (by decide) hrecord).2.1⟩

end LevelScript
