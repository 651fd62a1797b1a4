import LevelScript.Proofs.Continuity

/-!
Zero health is destruction.

Health is taken by one instruction only, and the one that takes the last of it ends its script at
once.  An actor that was destroyed is never pointed at a script again, be it that it was destroyed
by its setup script and its own script was still due.  So an actor has no health left exactly if it
was destroyed, and the instruction that destroyed it is the last that it ever executes.
-/

namespace LevelScript

/-- An instruction that takes the last health: it sets the health, and its operand is zero. -/
def Executed.Destroys (bytes : Bytes) (executed : Executed) : Prop :=
  executed.opcode = 0x10 ∧ bytes.extract (executed.start + 1) (executed.start + 3) = #[0, 0]

/-! ### Reading the instruction -/

theorem Scan.run_u16 {bytes : Bytes} {c : Cursor} (hfit : c.pos + 2 ≤ bytes.size) :
    Scan.u16.run bytes c =
      (.ok (.ofNat (littleEndian (bytes.extract c.pos (c.pos + 2)).toList)), c.advance 2) := by
  simp only [Scan.u16, Scan.unsigned, Scan.run_bind_eq_ok, Scan.run_pure_eq_ok,
    Scan.run_slice_eq_ok]
  exact ⟨_, _, ⟨_, _, ⟨hfit, rfl, rfl⟩, rfl, rfl⟩, rfl, rfl⟩

/-- Two bytes that stand for zero are zero. -/
theorem eq_zero_of_littleEndian {bytes : Bytes} (hsize : bytes.size = 2)
    (h : UInt16.ofNat (littleEndian bytes.toList) = 0) : bytes = #[0, 0] := by
  obtain ⟨low, high, hbytes⟩ : ∃ low high, bytes.toList = [low, high] :=
    List.length_eq_two.mp (by rwa [Array.length_toList])
  have hlow := low.toNat_lt
  have hhigh := high.toNat_lt
  have hsum : (low.toNat + 256 * high.toNat) % 65536 = 0 := by
    have hnat := congrArg UInt16.toNat h
    simpa [hbytes, littleEndian] using hnat
  have hlow_zero : low = 0 := UInt8.toNat_inj.mp (by rw [UInt8.toNat_zero]; omega)
  have hhigh_zero : high = 0 := UInt8.toNat_inj.mp (by rw [UInt8.toNat_zero]; omega)
  apply Array.toList_inj.mp
  rw [hbytes, hlow_zero, hhigh_zero]

theorem Command.read_health {arenas : List String} {actor : Actor} {site : Site}
    (hop : site.opcode = 0x10) :
    read arenas actor site = (do let points ← Scan.u16; return .health points) := by
  unfold read
  rw [hop]
  rfl

/-- The instruction that destroys is the one that is read into the command that sets the health to
zero. -/
theorem destroys_iff {stage : Stage} {pos : Nat} {actor : Actor} {reads reads' : List Span}
    {opcode : UInt8} {stop : Nat} {result : Except ScriptFailure Command}
    (h : fetch stage pos actor reads = (.instruction opcode stop result, reads')) :
    (Executed.mk pos stop opcode).Destroys stage.bytes ↔ result = .ok (.health 0) := by
  obtain ⟨c, c', hopcode, _, hread, _, _⟩ := fetch_instruction h
  have hc : c.pos = pos + 1 := (Scan.Takes.u8 _ _ _ _ hopcode).1
  constructor
  · rintro ⟨hop, hzero⟩
    have hfit : c.pos + 2 ≤ stage.bytes.size := by
      have hsize := congrArg Array.size hzero
      simp only [Array.size_extract, List.size_toArray, List.length_cons, List.length_nil] at hsize
      omega
    have hrun := Scan.run_u16 hfit
    rw [show c.pos + 2 = pos + 3 by omega, hc, hzero] at hrun
    rw [Command.read_health hop, Scan.run_bind, Scan.liftM_eq_forScript, Scan.run_forScript,
      hrun] at hread
    exact (congrArg Prod.fst hread).symm
  · rintro rfl
    cases Command.reads_of_read hread with
    | health hop hpoints =>
        refine ⟨hop, ?_⟩
        have hfit := (Scan.Takes.u16 _ _ _ _ hpoints).2 (by decide)
        rw [Scan.run_u16 hfit] at hpoints
        have hzero := Except.ok.inj (congrArg Prod.fst hpoints)
        have hsize : (stage.bytes.extract c.pos (c.pos + 2)).size = 2 := by
          rw [Array.size_extract, Nat.min_eq_left hfit, Nat.add_sub_cancel_left]
        rw [← hc, show pos + 3 = c.pos + 2 by omega]
        exact eq_zero_of_littleEndian hsize hzero

/-! ### Carrying it out -/

namespace Command

/-- The health that a command leaves. -/
def healthAfter (health : UInt16) : Command → UInt16
  | .health points => points
  | _ => health

theorem changeDoor_health (scene : Scene) (update : Door → Door) (detail : Door → String) :
    (changeDoor scene update detail).scene.actor.health = scene.actor.health := by
  unfold changeDoor
  split <;> rfl

theorem apply_health (stage : Stage) (settle : Settle) (site : Site) (next : Nat) (scene : Scene)
    (command : Command) :
    (command.apply stage settle site next scene).scene.actor.health =
      command.healthAfter scene.actor.health := by
  cases command with
  | delay time =>
      rw [apply]
      by_cases hover : (scene.view.value time).le .zero
      · rw [(wait_of_le scene next time hover).1]
        rfl
      · rw [(wait_of_not_le scene next time hover).1]
        rfl
  | spawn order =>
      simp only [apply, carryOutSpawn]
      split
      · rfl
      · split <;> rfl
  | goBack =>
      simp only [apply, carryOutGoBack]
      split <;> rfl
  | doorAnimations animations => exact changeDoor_health scene _ _
  | doorSounds sounds => exact changeDoor_health scene _ _
  | doorFlags bits => exact changeDoor_health scene _ _
  | doorDistance distance => exact changeDoor_health scene _ _
  | _ => rfl

theorem healthAfter_ne_zero {health : UInt16} (h : health ≠ 0) {command : Command}
    (hcommand : command ≠ .health 0) : command.healthAfter health ≠ 0 := by
  cases command with
  | health points => exact fun hpoints => hcommand (congrArg Command.health hpoints)
  | _ => exact h

end Command

/-! ### Alive or fallen -/

/-- An actor with health left, which no instruction in its history has taken. -/
structure Actor.Alive (bytes : Bytes) (actor : Actor) (history : History) : Prop where
  health : actor.health ≠ 0
  ending : actor.ending? ≠ some .destroyed
  unhurt : ∀ executed ∈ history.executed, ¬ executed.Destroys bytes

/-- An actor that the last instruction in its history has destroyed.  Its log ends with that
instruction and with its end. -/
structure Actor.Fallen (bytes : Bytes) (actor : Actor) (history : History) : Prop where
  health : actor.health = 0
  ending : actor.ending? = some .destroyed
  blow : ∃ (past : History) (executed : Executed), history = past.extend [executed] ∧
    executed.Destroys bytes ∧ (∀ earlier ∈ past.executed, ¬ earlier.Destroys bytes) ∧
    ∃ lines detail, actor.log.toList =
      lines ++ [.step executed.start executed.opcode detail, .ended .destroyed]

namespace Actor

variable {bytes : Bytes} {actor actor' : Actor} {history history' : History}

/-- Whatever leaves the health alone and does not destroy keeps an actor alive, as long as nothing
is executed. -/
theorem Alive.of_eq (h : actor.Alive bytes history) (hhealth : actor'.health = actor.health)
    (hending : actor'.ending? ≠ some .destroyed)
    (hexecuted : history'.executed = history.executed) : actor'.Alive bytes history' :=
  ⟨hhealth ▸ h.health, hending, hexecuted ▸ h.unhurt⟩

theorem Alive.startAt (h : actor.Alive bytes history) (script : UInt32) :
    (actor.startAt script).Alive bytes (history.begin script) := by
  refine h.of_eq rfl ?_ (History.executed_begin history script)
  by_cases hscript : script = 0
  · simp [Actor.startAt, Actor.ending?, Control.ending?, hscript]
  · simp [Actor.startAt, Actor.ending?, Control.ending?, hscript]

theorem Alive.push (h : actor.Alive bytes history) (line : TraceLine) :
    (actor.push line).Alive bytes history :=
  h.of_eq rfl h.ending rfl

theorem Alive.enroll (h : actor.Alive bytes history) (init : UInt32) :
    (actor.enroll init).Alive bytes (history.begin init) := by
  unfold Actor.enroll
  split
  · exact h.startAt init
  · exact (h.push _).startAt init

theorem Alive.endWith (h : actor.Alive bytes history) {reason : Ending}
    (hreason : reason ≠ .destroyed) : (actor.endWith reason).Alive bytes history :=
  h.of_eq rfl (fun hending => hreason (Option.some.inj hending)) rfl

/-- One more instruction, which does not destroy. -/
theorem Alive.extend (h : actor.Alive bytes history) {executed : Executed}
    (hexecuted : ¬ executed.Destroys bytes) : actor.Alive bytes (history.extend [executed]) := by
  refine ⟨h.health, h.ending, ?_⟩
  intro other hother
  rw [History.executed_extend, List.mem_append, List.mem_singleton] at hother
  rcases hother with hold | rfl
  · exact h.unhurt other hold
  · exact hexecuted

/-- Who has fallen is gone. -/
theorem Fallen.isGone (h : actor.Fallen bytes history) : actor.isGone = true := by
  rw [Actor.isGone, h.ending]

/-- An actor is alive while it runs, and between two invocations alive or fallen. -/
def Fated (bytes : Bytes) (actor : Actor) (history : History) (pos : Option Nat) : Prop :=
  actor.Alive bytes history ∨ pos = none ∧ actor.Fallen bytes history

theorem Fated.alive_of_pos {pos : Nat} (h : actor.Fated bytes history (some pos)) :
    actor.Alive bytes history := by
  rcases h with halive | ⟨hpos, -⟩
  · exact halive
  · cases hpos

theorem Fated.alive_of_isGone {pos : Option Nat} (h : actor.Fated bytes history pos)
    (hthere : actor.isGone = false) : actor.Alive bytes history := by
  rcases h with halive | ⟨-, hfallen⟩
  · exact halive
  · rw [hfallen.isGone] at hthere
    cases hthere

/-- Whoever runs or waits has not ended. -/
theorem Fated.alive_of_ending? {pos : Option Nat} (h : actor.Fated bytes history pos)
    (hending : actor.ending? = none) : actor.Alive bytes history := by
  rcases h with halive | ⟨-, hfallen⟩
  · exact halive
  · rw [hfallen.ending] at hending
    cases hending

end Actor

/-! ### Every life -/

/-- A step leaves its actor with this fate. -/
def Stepped.Fated (bytes : Bytes) (history : History) : Stepped → Prop
  | next pos scene => scene.actor.Fated bytes history (some pos)
  | halt outcome => outcome.2.actor.Fated bytes history none

/-- A command that does not take the last health leaves its actor alive, however the script goes
on. -/
theorem Effect.proceed_alive {effect : Effect} {bytes : Bytes} {history : History}
    (hhealth : effect.scene.actor.health ≠ 0)
    (hending : effect.scene.actor.ending? ≠ some .destroyed)
    (hverdict : effect.verdict ≠ .ok (.stop .destroyed))
    (hunhurt : ∀ executed ∈ history.executed, ¬ executed.Destroys bytes)
    (pos : Nat) (opcode : UInt8) (next : Nat) :
    (effect.proceed pos opcode next).Fated bytes history := by
  have halive : (effect.scene.actor.push (.step pos opcode effect.detail)).Alive bytes history :=
    ⟨hhealth, hending, hunhurt⟩
  unfold proceed
  split
  · exact .inl halive
  · exact .inl halive
  · next reason hreason =>
    refine .inl (halive.endWith ?_)
    rintro rfl
    exact hverdict hreason
  · exact .inl (halive.endWith nofun)

/-- A command does not end its actor by itself: that is left to the verdict. -/
theorem Command.apply_ending?_ne {stage : Stage} {settle : Settle} {site : Site} {next : Nat}
    {scene : Scene} (h : scene.actor.ending? ≠ some .destroyed) (command : Command) :
    (command.apply stage settle site next scene).scene.actor.ending? ≠ some .destroyed := by
  have hsame : ∀ {actor : Actor}, actor.control = scene.actor.control →
      actor.ending? ≠ some .destroyed := by
    intro actor hcontrol
    rwa [Actor.ending?, hcontrol]
  cases command with
  | delay time =>
      rw [apply]
      by_cases hover : (scene.view.value time).le .zero
      · rw [(wait_of_le scene next time hover).1]
        exact h
      · rw [(wait_of_not_le scene next time hover).1]
        intro hending
        cases hending
  | spawn order =>
      simp only [apply, carryOutSpawn]
      split
      · exact h
      · split <;> exact h
  | goBack =>
      simp only [apply, carryOutGoBack]
      split <;> intro hending <;> cases hending
  | doorAnimations animations => exact hsame (changeDoor_goesOn scene _ _).1
  | doorSounds sounds => exact hsame (changeDoor_goesOn scene _ _).1
  | doorFlags bits => exact hsame (changeDoor_goesOn scene _ _).1
  | doorDistance distance => exact hsame (changeDoor_goesOn scene _ _).1
  | _ => exact h

/-- Whoever is alive comes out of a step alive, or it has just executed the instruction that
destroyed it. -/
theorem step_fated {stage : Stage} {scene : Scene} {history : History}
    (h : scene.actor.Alive stage.bytes history) (settle : Settle) (pos : Nat) :
    (step stage settle pos scene).Fated stage.bytes
      (history.extend (stepRan stage pos scene)) := by
  rw [step_eq_proceed, stepRan]
  rcases hfetch : fetch stage pos scene.actor scene.world.reads with ⟨fetched, reads⟩
  cases fetched with
  | unreadable error =>
      simp only [Fetched.ran, History.extend_nil]
      exact .inl (h.endWith (by simp))
  | ending =>
      simp only [Fetched.ran, History.extend_nil]
      exact .inl (h.endWith (by simp))
  | instruction opcode stop result =>
      have hdestroys := destroys_iff hfetch
      cases result with
      | error error =>
          have hharmless : ¬ (Executed.mk pos stop opcode).Destroys stage.bytes := by
            rw [hdestroys]
            intro hok
            cases hok
          have hreason : Ending.failed error ≠ .destroyed := by simp
          exact .inl (((h.push _).endWith hreason).extend hharmless)
      | ok command =>
          by_cases hcommand : command = .health 0
          · subst hcommand
            refine .inr ⟨rfl, rfl, rfl, history, _, rfl, hdestroys.mpr rfl, h.unhurt, ?_⟩
            refine ⟨scene.actor.log.toList,
              ((Command.health 0).apply stage settle (Site.at opcode pos) stop scene).detail, ?_⟩
            simp [Command.apply, Scene.push, Scene.endWith, Scene.withReads, Actor.push,
              Actor.endWith]
          · have hharmless : ¬ (Executed.mk pos stop opcode).Destroys stage.bytes := by
              rw [hdestroys]
              exact fun hok => hcommand (Except.ok.inj hok)
            refine Effect.proceed_alive ?_ ?_ ?_ (h.extend hharmless).unhurt pos opcode stop
            · rw [Command.apply_health]
              exact Command.healthAfter_ne_zero h.health hcommand
            · apply Command.apply_ending?_ne
              exact h.ending
            · intro hverdict
              rcases Command.eq_of_apply_stop hverdict with ⟨-, hreason⟩ | ⟨hzero, -⟩ | ⟨-, hreason⟩
              · cases hreason
              · exact hcommand hzero
              · cases hreason

theorem SpawnOrder.actor_alive (order : SpawnOrder) {stage : Stage}
    (hdefault : stage.settings.defaultHealth ≠ 0) :
    (order.actor stage).Alive stage.bytes .fresh := by
  unfold SpawnOrder.actor
  cases order.kind with
  | plain => exact ⟨hdefault, nofun, nofun⟩
  | pickup => exact ⟨hdefault, nofun, nofun⟩
  | door target => exact ⟨hdefault, nofun, nofun⟩

/-- Whatever happens to an actor, it is alive or it has fallen. -/
theorem Stage.Lives.fated {stage : Stage} {root : Actor → UInt32 → Prop}
    (hdefault : stage.settings.defaultHealth ≠ 0)
    (hroot : ∀ actor init, root actor init → actor.Alive stage.bytes .fresh) {actor : Actor}
    {history : History} {pos : Option Nat} {due : Option UInt32}
    (h : stage.Lives root actor history pos due) : actor.Fated stage.bytes history pos := by
  induction h with
  | root hactor => exact .inl (hroot _ _ hactor)
  | spawned _ _ _ => exact .inl (SpawnOrder.actor_alive _ hdefault)
  -- An actor that is gone is not pointed at a script, so one that is pointed at a script is alive.
  | begun _ hthere ih => exact .inl ((ih.alive_of_isGone hthere).startAt _)
  | enrolled _ hthere ih => exact .inl ((ih.alive_of_isGone hthere).enroll _)
  | setUp _ hthere _ ih => exact .inl (((ih.alive_of_isGone hthere).push _).startAt _)
  | dropped _ ih => exact ih
  | @ended actor history pos due error _ hthere ih =>
      have halive : actor.Alive stage.bytes history := by
        cases pos with
        | none => exact ih.alive_of_isGone (hthere rfl)
        | some pos => exact ih.alive_of_pos
      exact .inl (halive.endWith nofun)
  | started _ hstart ih =>
      have hending := congrArg Control.ending? (Actor.start?_eq_some hstart).1
      exact .inl (ih.alive_of_ending? hending)
  | @went scene scene' history pos pos' due settle _ hstep ih =>
      have hfated := step_fated ih.alive_of_pos settle pos
      rwa [hstep] at hfated
  | @halted scene history pos due settle outcome _ hstep ih =>
      have hfated := step_fated ih.alive_of_pos settle pos
      rwa [hstep] at hfated
  | waited left _ hcontrol ih =>
      have halive := ih.alive_of_ending? (congrArg Control.ending? hcontrol)
      exact .inl (halive.of_eq rfl nofun rfl)
  | resumed _ hcontrol ih =>
      have halive := ih.alive_of_ending? (congrArg Control.ending? hcontrol)
      exact .inl (halive.of_eq rfl nofun rfl)

/-- The actors that nobody spawned start alive, if the settings give them health and the level was
built with settings that do. -/
theorem Level.Root.alive {built settings : Settings} {container : Container} {bytes : Bytes}
    {first : Level} (hbuild : Level.build built container bytes = .ok first)
    (hbuilt : built.defaultHealth ≠ 0) (hdefault : settings.defaultHealth ≠ 0) {index : Nat}
    {rehearsal : Bool} {actor : Actor} {script : UInt32}
    (h : first.Root settings index rehearsal actor script) : actor.Alive first.bytes .fresh := by
  cases h with
  | @arena other arena script harena hself =>
      refine ⟨?_, nofun, nofun⟩
      obtain ⟨_, hexplore⟩ := Level.build_eq_ok hbuild
      obtain ⟨setups, inits, _, _, hfirst⟩ := Level.getElem?_of_explore hexplore
      obtain ⟨record, _, rfl⟩ := hfirst index arena harena
      have hhealth : other.defaultHealth = built.defaultHealth :=
        (congrArg Actor.health hself).symm
      change other.defaultHealth ≠ 0
      rwa [hhealth]
  | placed placement _ => exact ⟨hdefault, nofun, nofun⟩
  | understudy kind _ _ _ => exact ⟨hdefault, nofun, nofun⟩

/-! ### Every run -/

/-- An actor that has no health left exactly if it was destroyed, which one of its instructions has
done.  That instruction is the last of its script, and its script the last that the actor was pointed
at; the log tells of it and ends. -/
structure Actor.Mortal (bytes : Bytes) (actor : Actor) (history : History) : Prop where
  health_iff : actor.health = 0 ↔ actor.ending? = some .destroyed
  ending_iff : actor.ending? = some .destroyed ↔
    ∃ executed ∈ history.executed, executed.Destroys bytes
  last : ∀ earlier episode later, history.episodes = earlier ++ episode :: later →
    ∀ before executed after, episode.ran = before ++ executed :: after →
      executed.Destroys bytes →
      after = [] ∧ later = [] ∧ ∃ lines detail, actor.log.toList =
        lines ++ [.step executed.start executed.opcode detail, .ended .destroyed]

theorem Actor.Alive.mortal {bytes : Bytes} {actor : Actor} {history : History}
    (h : actor.Alive bytes history) : actor.Mortal bytes history where
  health_iff := iff_of_false h.health h.ending
  ending_iff := by
    refine iff_of_false h.ending ?_
    rintro ⟨executed, hexecuted, hdestroys⟩
    exact h.unhurt executed hexecuted hdestroys
  last earlier episode later hepisodes before executed after hran hdestroys := by
    refine absurd hdestroys (h.unhurt executed ?_)
    simp [History.executed, hepisodes, hran]

/-- Where an item that does not occur before the last one stands in a list, there the list ends. -/
theorem eq_nil_of_append_singleton {α : Type} {xs ys zs : List α} {x y : α}
    (h : xs ++ [x] = ys ++ y :: zs) (hy : y ∉ xs) : y = x ∧ zs = [] := by
  rcases List.eq_nil_or_concat zs with rfl | ⟨front, z, rfl⟩
  · exact ⟨(List.cons.inj (List.append_inj' h rfl).2).1.symm, rfl⟩
  · rw [List.concat_eq_append, ← List.cons_append, ← List.append_assoc] at h
    rw [(List.append_inj' h rfl).1] at hy
    simp at hy

theorem Actor.Fallen.mortal {bytes : Bytes} {actor : Actor} {history : History}
    (h : actor.Fallen bytes history) : actor.Mortal bytes history := by
  obtain ⟨past, blow, rfl, hblow, hpast, hlog⟩ := h.blow
  refine ⟨iff_of_true h.health h.ending, iff_of_true h.ending ⟨blow, by simp, hblow⟩, ?_⟩
  intro earlier episode later hepisodes before executed after hran hdestroys
  have hexecuted : past.executed ++ [blow] =
      (earlier.flatMap Episode.ran ++ before) ++
        executed :: (after ++ later.flatMap Episode.ran) := by
    rw [← History.executed_extend, History.executed, hepisodes]
    simp [hran]
  obtain ⟨rfl, hnil⟩ := eq_nil_of_append_singleton hexecuted
    fun hmem => hpast executed hmem hdestroys
  obtain ⟨hafter, hlater⟩ := List.append_eq_nil_iff.mp hnil
  refine ⟨hafter, ?_, hlog⟩
  -- A later episode would be the current one, and that one is not empty.
  rcases List.eq_nil_or_concat later with rfl | ⟨front, final, rfl⟩
  · rfl
  · rw [History.episodes, List.concat_eq_append, ← List.cons_append, ← List.append_assoc]
      at hepisodes
    have hfinal := (List.cons.inj (List.append_inj' hepisodes rfl).2).1
    rw [← hfinal] at hlater
    simp [History.extend] at hlater

theorem Actor.Fated.mortal {bytes : Bytes} {actor : Actor} {history : History} {pos : Option Nat}
    (h : actor.Fated bytes history pos) : actor.Mortal bytes history := by
  rcases h with halive | ⟨-, hfallen⟩
  · exact halive.mortal
  · exact hfallen.mortal

/-- However a level that was built is played, whoever has no health left was destroyed, and whoever
was destroyed has none; nobody executes anything after the instruction that destroyed it, be it that
another script was due. -/
theorem Recorded.mortal_afterAll {built : Settings} {container : Container} {bytes : Bytes}
    {level : Level} (hbuild : Level.build built container bytes = .ok level)
    (hbuilt : built.defaultHealth ≠ 0) {settings : Settings}
    (hdefault : settings.defaultHealth ≠ 0) (reads : List Span) (operations : List Operation) :
    let recorded := (Recorded.start level reads).afterAll settings operations
    recorded.session = (Session.mk level reads).afterAll settings operations ∧
      ∀ (index : Nat) (seat : Seat) (actor : Actor),
        recorded.session.actor? index seat = some actor →
        actor.Mortal bytes (recorded.chronicle index seat) := by
  intro recorded
  refine ⟨Recorded.afterAll_session _ settings operations, ?_⟩
  intro index seat actor hactor
  have htruthful : recorded.Truthful settings level :=
    (Recorded.start_truthful hbuild settings reads).afterAll operations
  obtain ⟨arena, harena, hseat⟩ := Session.actor?_eq_some hactor
  have hlives := htruthful.seats index arena harena seat actor hseat
  have hfated := hlives.fated hdefault fun _ _ hroot => hroot.alive hbuild hbuilt hdefault
  obtain ⟨_, hexplore⟩ := Level.build_eq_ok hbuild
  rw [← (Level.explore_eq_ok hexplore).2.2]
  exact hfated.mortal

/-- A container in which guards have a setup script and the first one an own. -/
def Container.cursed : Container :=
  ⟨"LEVEL", 0, [("HALL$GUARD_1", 5)], [], [("HALL$GUARD", 1)], [⟨"HALL", ("", ""), 0⟩]⟩

/-- Scripts of that container: the setup takes the guard's health, and its own script, which is due
then, would give it new health. -/
def Bytes.cursed : Bytes :=
  #[0xff, 0x10, 0x00, 0x00, 0xff, 0x10, 0x64, 0x00, 0xff]

/-- A guard is placed and destroyed by its setup script; then its arena is played. -/
theorem Recorded.mortal_afterAll_cursed :
    ∃ level guard, Level.build .standard .cursed .cursed = .ok level ∧
      Settings.standard.defaultHealth ≠ 0 ∧
      let operations : List Operation :=
        [.seed [⟨"HALL", "GUARD", 1, .origin, 0⟩], .loadPasses, .ticks]
      let recorded := (Recorded.start level []).afterAll .standard operations
      recorded.session = (Session.mk level []).afterAll .standard operations ∧
        recorded.session.actor? 0 (.live 0) = some guard ∧ guard.health = 0 ∧
        (recorded.chronicle 0 (.live 0)).current = ⟨1, [⟨1, 4, 0x10⟩]⟩ ∧
        guard.Mortal .cursed (recorded.chronicle 0 (.live 0)) := by
  have hbuild : ∃ level, Level.build .standard .cursed .cursed = .ok level := ⟨_, rfl⟩
  obtain ⟨level, hlevel⟩ := hbuild
  have hstate : (Level.build .standard .cursed .cursed).toOption.bind (fun level =>
      let recorded := (Recorded.start level []).afterAll .standard
        [.seed [⟨"HALL", "GUARD", 1, .origin, 0⟩], .loadPasses, .ticks]
      (recorded.session.actor? 0 (.live 0)).map fun guard =>
        (guard.health, (recorded.chronicle 0 (.live 0)).current)) =
      some (0, ⟨1, [⟨1, 4, 0x10⟩]⟩) := by decide +kernel
  simp only [hlevel, Except.toOption, Option.bind_some, Option.map_eq_some_iff,
    Prod.mk.injEq] at hstate
  obtain ⟨guard, hguard, hhealth, hcurrent⟩ := hstate
  have hdefault : Settings.standard.defaultHealth ≠ 0 := by decide
  obtain ⟨hsession, hmortal⟩ := mortal_afterAll hlevel hdefault hdefault []
    [.seed [⟨"HALL", "GUARD", 1, .origin, 0⟩], .loadPasses, .ticks]
  exact ⟨level, guard, hlevel, hdefault, hsession, hguard, hhealth, hcurrent,
    hmortal 0 (.live 0) guard hguard⟩

end LevelScript
