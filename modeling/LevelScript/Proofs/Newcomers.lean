import LevelScript.Proofs.Atomicity
import LevelScript.Proofs.Stillness

/-!
Newcomers wait for the next pass.

An actor that is spawned runs its setup script at once, and however that script comes out, settling
in ends with the actor pointed at its own script or out of the game.  A pass plays only those who
were there when it began, so whoever joins meanwhile is afterwards still as its spawn has left it,
and has executed nothing of its own script.
-/

namespace LevelScript

/-! ### Settling in -/

/-- An actor that nobody has played since it was settled in for a script. -/
structure Actor.Unplayed (init : UInt32) (actor : Actor) : Prop where
  notBlocked : actor.control.stateName ≠ "Blocked"
  running : actor.control.stateName = "Running" →
    actor.control.scriptOffset = init.toNat ∧ actor.anchor = 0 ∧
      actor.log.back?.map TraceLine.render = some s!"init {hexOffset init.toNat}"
  terminated : actor.control.stateName = "Terminated" → actor.ending? ≠ some .finished

namespace Actor

theorem unplayed_enroll (actor : Actor) (init : UInt32) : (actor.enroll init).Unplayed init := by
  by_cases hinit : init = 0
  · have hidle : (actor.enroll init).control = .idle := by simp [enroll, startAt, hinit]
    constructor <;> simp [hidle, Control.stateName]
  · have hrunning : (actor.enroll init).control = .running init.toNat := by
      simp [enroll, startAt, hinit]
    have hlog : (actor.enroll init).log = actor.log.push (.init init) := by
      simp [enroll, startAt, push, hinit]
    constructor
    · simp [hrunning, Control.stateName]
    · intro _
      refine ⟨by rw [hrunning]; rfl, rfl, ?_⟩
      rw [hlog, Array.back?_push]
      rfl
    · simp [hrunning, Control.stateName]

theorem unplayed_of_isGone {actor : Actor} (h : actor.isGone = true) (init : UInt32) :
    actor.Unplayed init := by
  unfold isGone ending? at h
  cases hcontrol : actor.control with
  | ended reason =>
      rw [hcontrol] at h
      constructor
      · simp [hcontrol, Control.stateName]
      · simp [hcontrol, Control.stateName]
      · rintro - hfinished
        rw [ending?, hcontrol] at hfinished
        cases hfinished
        cases h
  | _ =>
      rw [hcontrol] at h
      cases h

end Actor

/-- A newcomer waits to be played.  Of its own script nothing was executed: it was pointed at that
script and no more, or it was gone before. -/
structure Stage.Awaits (stage : Stage) (newcomer : Actor) (init : UInt32) (actor : Actor)
    (history : History) : Prop where
  unplayed : actor.Unplayed init
  unexecuted : ∃ setUp : History,
    (setUp = .fresh ∨ ∃ setup ran, stage.setupOf? newcomer = some setup ∧
      setUp = (History.fresh.begin setup).extend ran) ∧
    (history = setUp.begin init ∨ actor.isGone = true ∧ history = setUp)

/-- However settling in comes out, the newcomer waits. -/
theorem settle_awaits (stage : Stage) (room : Nat) (newcomer : Actor) (init : UInt32)
    (world : World) :
    stage.Awaits newcomer init (settle stage room newcomer init world).2.actor
      (settleAccount stage room newcomer init world).1 := by
  cases room with
  | zero =>
      unfold settle settleAccount
      cases stage.setupOf? newcomer with
      | none => exact ⟨Actor.unplayed_enroll _ _, .fresh, .inl rfl, .inl rfl⟩
      | some offset =>
          exact ⟨Actor.unplayed_of_isGone rfl _, .fresh, .inl rfl, .inr ⟨rfl, rfl⟩⟩
  | succ room =>
      unfold settle settleAccount
      cases hsetup : stage.setupOf? newcomer with
      | none => exact ⟨Actor.unplayed_enroll _ _, .fresh, .inl rfl, .inl rfl⟩
      | some offset =>
          let begun : Scene := ⟨(newcomer.push (.setup offset)).startAt offset, world, #[]⟩
          have hstops := @stops_of_invoke stage (settle stage room) begun
          dsimp only
          rcases hout : invoke stage (settle stage room) begun with ⟨_ | fatal, scene⟩
          · dsimp only
            cases hgone : scene.actor.isGone with
            | true =>
                exact ⟨Actor.unplayed_of_isGone hgone _, _, .inr ⟨offset, _, hsetup, rfl⟩,
                  .inr ⟨hgone, rfl⟩⟩
            | false =>
                exact ⟨Actor.unplayed_enroll _ _, _, .inr ⟨offset, _, hsetup, rfl⟩, .inl rfl⟩
          · rw [hout] at hstops
            have hgone : scene.actor.isGone = true := (hstops rfl).2
            exact ⟨Actor.unplayed_of_isGone hgone _, _, .inr ⟨offset, _, hsetup, rfl⟩,
              .inr ⟨hgone, rfl⟩⟩

/-! ### Runs -/

/-- An actor that has just joined: among some instructions that were executed is one that ordered
it, and it waits as settling in left it. -/
def Stage.Debuts (stage : Stage) (ran : Executed → Prop) (actor : Actor) (history : History) :
    Prop :=
  ∃ (executed : Executed) (order : SpawnOrder) (parent : Actor) (reads reads' : List Span)
    (room : Nat) (world : World),
    ran executed ∧
      fetch stage executed.start parent reads =
        (.instruction executed.opcode executed.stop (.ok (.spawn order)), reads') ∧
      actor = (settle stage room (order.actor stage) order.init world).2.actor ∧
      history = (settleAccount stage room (order.actor stage) order.init world).1 ∧
      stage.Awaits (order.actor stage) order.init actor history

theorem Stage.Debuts.mono {stage : Stage} {ran ran' : Executed → Prop} {actor : Actor}
    {history : History} (h : stage.Debuts ran actor history)
    (himp : ∀ executed, ran executed → ran' executed) : stage.Debuts ran' actor history := by
  obtain ⟨executed, order, parent, reads, reads', room, world, hran, hrest⟩ := h
  exact ⟨executed, order, parent, reads, reads', room, world, himp executed hran, hrest⟩

/-- All instructions of an account, those that newcomers executed among them. -/
def Account.Covers (account : Account) (executed : Executed) : Prop :=
  executed ∈ account.ran ∨ ∃ history ∈ account.births, executed ∈ history.executed

namespace Account

variable {now later : Account} {executed : Executed}

theorem Covers.of_now (h : now.Covers executed) :
    Covers ⟨now.ran ++ later.ran, now.births ++ later.births⟩ executed := by
  rcases h with hran | ⟨history, hbirth, hexecuted⟩
  · exact .inl (List.mem_append_left _ hran)
  · exact .inr ⟨history, List.mem_append_left _ hbirth, hexecuted⟩

theorem Covers.of_later (h : later.Covers executed) :
    Covers ⟨now.ran ++ later.ran, now.births ++ later.births⟩ executed := by
  rcases h with hran | ⟨history, hbirth, hexecuted⟩
  · exact .inl (List.mem_append_right _ hran)
  · exact .inr ⟨history, List.mem_append_right _ hbirth, hexecuted⟩

end Account

section Runs

variable {stage : Stage} {room : Nat}

/-- Whoever the setup of a newcomer brings has just joined. -/
def Stage.Introduces (stage : Stage) (room : Nat) : Prop :=
  ∀ (newcomer : Actor) (init : UInt32) (world : World),
    List.Forall₂ (stage.Debuts
        (Account.Covers ⟨(settleAccount stage room newcomer init world).1.executed,
          (settleAccount stage room newcomer init world).2⟩))
      (settle stage room newcomer init world).2.spawned.toList
      (settleAccount stage room newcomer init world).2

theorem step_debuts (hroom : stage.Introduces room) {ran : Executed → Prop} {pos : Nat}
    {scene : Scene}
    (hran : ∀ executed, (stepAccount stage (settleAccount stage room) pos scene).Covers executed →
      ran executed)
    {told : List History} (hspawned : List.Forall₂ (stage.Debuts ran) scene.spawned.toList told) :
    List.Forall₂ (stage.Debuts ran) (step stage (settle stage room) pos scene).scene.spawned.toList
      (told ++ (stepAccount stage (settleAccount stage room) pos scene).births) := by
  apply step_births _ hspawned
  intro opcode stop order reads hfetch hrehearsal world
  have haccount : stepAccount stage (settleAccount stage room) pos scene =
      ⟨[⟨pos, stop, opcode⟩], (settleAccount stage room (order.actor stage) order.init world).1 ::
        (settleAccount stage room (order.actor stage) order.init world).2⟩ := by
    simp only [stepAccount, hfetch, Fetched.ran, Fetched.births, hrehearsal, Bool.false_eq_true,
      ↓reduceIte, world]
  rw [haccount] at hran
  constructor
  · exact ⟨⟨pos, stop, opcode⟩, order, scene.actor, _, _, room, world,
      hran _ (.inl List.mem_cons_self), hfetch, rfl, rfl, settle_awaits stage room _ _ world⟩
  · refine (hroom (order.actor stage) order.init world).imp fun actor history h => h.mono ?_
    rintro executed (hown | ⟨birth, hbirth, hexecuted⟩)
    · exact hran executed (.inr ⟨_, List.mem_cons_self, hown⟩)
    · exact hran executed (.inr ⟨birth, List.mem_cons_of_mem _ hbirth, hexecuted⟩)

theorem execute_debuts (hroom : stage.Introduces room) {ran : Executed → Prop} (fuel : Nat)
    {pos : Nat} {scene : Scene}
    (hran : ∀ executed, (executeAccount stage (settle stage room) (settleAccount stage room) fuel
      pos scene).Covers executed → ran executed)
    {told : List History} (hspawned : List.Forall₂ (stage.Debuts ran) scene.spawned.toList told) :
    List.Forall₂ (stage.Debuts ran)
      (execute stage (settle stage room) fuel pos scene).2.spawned.toList
      (told ++ (executeAccount stage (settle stage room) (settleAccount stage room) fuel pos
        scene).births) := by
  induction fuel generalizing pos scene told with
  | zero =>
      rw [executeAccount, List.append_nil]
      exact hspawned
  | succ fuel ih =>
      rw [executeAccount] at hran ⊢
      rw [execute]
      cases hnext : step stage (settle stage room) pos scene with
      | next pos' scene' =>
          rw [hnext] at hran
          have hstep := step_debuts hroom (fun executed hnow => hran executed hnow.of_now) hspawned
          rw [hnext] at hstep
          have hlater := ih (fun executed hlater => hran executed hlater.of_later) hstep
          rw [List.append_assoc] at hlater
          exact hlater
      | halt outcome =>
          rw [hnext] at hran
          have hstep := step_debuts hroom hran hspawned
          rw [hnext] at hstep
          exact hstep

theorem invoke_debuts (hroom : stage.Introduces room) {scene : Scene}
    (hspawned : scene.spawned = #[]) :
    let account := invokeAccount stage (settle stage room) (settleAccount stage room) scene
    List.Forall₂ (stage.Debuts account.Covers)
      (invoke stage (settle stage room) scene).2.spawned.toList account.births := by
  have hnobody {ran : Executed → Prop} :
      List.Forall₂ (stage.Debuts ran) scene.spawned.toList [] := by simp [hspawned]
  unfold invoke invokeAccount
  cases scene.actor.start? with
  | none => exact hnobody
  | some pos => exact execute_debuts hroom _ (fun _ h => h) hnobody

/-- However much room is left for nested setup scripts, whoever joins has just joined. -/
theorem settle_introduces (stage : Stage) (room : Nat) : stage.Introduces room := by
  induction room with
  | zero =>
      intro newcomer init world
      unfold settle settleAccount
      cases stage.setupOf? newcomer with
      | none => exact .nil
      | some offset => exact .nil
  | succ room ih =>
      intro newcomer init world
      unfold settle settleAccount
      cases stage.setupOf? newcomer with
      | none => exact .nil
      | some offset =>
          let begun : Scene := ⟨(newcomer.push (.setup offset)).startAt offset, world, #[]⟩
          have hinvoke := invoke_debuts ih (show begun.spawned = #[] from rfl)
          have hexecuted (ran : List Executed) :
              ((History.fresh.begin offset).extend ran).executed = ran := by
            rw [History.executed_extend, History.executed_begin]
            rfl
          dsimp only at hinvoke ⊢
          rcases hout : invoke stage (settle stage room) begun with ⟨_ | fatal, scene⟩
          · rw [hout] at hinvoke
            dsimp only
            cases scene.actor.isGone with
            | true =>
                simp only [↓reduceIte, hexecuted]
                exact hinvoke
            | false =>
                simp only [Bool.false_eq_true, ↓reduceIte, History.executed_begin, hexecuted]
                exact hinvoke
          · rw [hout] at hinvoke
            simp only [hexecuted]
            exact hinvoke

/-- Whoever something brings that happens on a stage has just joined. -/
def Stage.Brought (happen : Stage → Scene → Outcome) (account : Stage → Scene → Account) : Prop :=
  ∀ (stage : Stage) (scene : Scene), scene.spawned = #[] →
    List.Forall₂ (stage.Debuts (account stage scene).Covers) (happen stage scene).2.spawned.toList
      (account stage scene).births

theorem Stage.brought_invoke : Stage.Brought Stage.invoke Stage.invokeAccount :=
  fun stage _ hspawned => invoke_debuts (settle_introduces stage _) hspawned

theorem Stage.brought_tick : Stage.Brought Stage.tick Stage.tickAccount := by
  intro stage scene hspawned
  unfold Stage.tick Stage.tickAccount
  cases scene.actor.control with
  | blocked resume delay =>
      dsimp only
      split
      · simp [hspawned]
      · exact Stage.brought_invoke stage { scene with actor := _ } hspawned
  | _ => exact Stage.brought_invoke stage scene hspawned

end Runs

/-! ### Rounds -/

/-- What the chronicle of an arena tells after a turn. -/
def Chronicle.afterTurn (chronicle : Chronicle) (index : Nat) (seat : Seat) (count : Nat)
    (account : Account) : Chronicle :=
  (chronicle.extend index seat account.ran).join index count account.births

namespace Chronicle

variable (chronicle : Chronicle) {index : Nat} {seat : Seat} {count : Nat} {account : Account}

/-- Of those who were there, only the history of whose turn it was goes on. -/
theorem afterTurn_of_taken {seat' : Seat} (htaken : ∀ k, seat' = .live k → k < count) :
    chronicle.afterTurn index seat count account index seat' =
      if seat' = seat then (chronicle index seat').extend account.ran
      else chronicle index seat' := by
  cases seat' with
  | self => simp [afterTurn, join, extend]
  | live k =>
      have hnot : ¬ count ≤ k := Nat.not_le.mpr (htaken k rfl)
      simp [afterTurn, join, extend, hnot]

theorem afterTurn_birth {k : Nat} {history : History} (h : account.births[k]? = some history) :
    chronicle.afterTurn index seat count account index (.live (count + k)) = history := by
  simp [afterTurn, join, h]

end Chronicle

namespace Recorded

/-- Somebody in an arena has executed an instruction. -/
def Executes (recorded : Recorded) (index : Nat) (executed : Executed) : Prop :=
  ∃ seat actor, recorded.session.actor? index seat = some actor ∧
    executed ∈ (recorded.chronicle index seat).executed

/-- Everybody behind the first seats of an arena has just joined, and waits. -/
def NewcomersWait (recorded : Recorded) (stage : Stage) (index count : Nat) : Prop :=
  ∀ (k : Nat) (actor : Actor), count ≤ k →
    recorded.session.actor? index (.live k) = some actor →
      stage.Debuts (recorded.Executes index) actor (recorded.chronicle index (.live k))

/-- Since a round over the first seats of an arena began, newcomers wait. -/
structure KeepsWaiting (settings : Settings) (first : Level) (index count : Nat)
    (recorded : Recorded) : Prop where
  orderly : recorded.session.level.Orderly settings
  grew : first.Grew recorded.session.level
  waits : recorded.NewcomersWait (first.stageOf settings index false) index count

variable {settings : Settings} {first : Level} {index count : Nat} {recorded after : Recorded}

/-- How a turn in an arena comes out, with what is told of it. -/
structure TakesTurn (before : Recorded) (index : Nat) (seat : Seat) (arena : Arena) (scene : Scene)
    (account : Account) (after : Recorded) : Prop where
  session_eq : after.session = before.session.takeTurn index seat index scene
  chronicle_eq : after.chronicle =
    before.chronicle.afterTurn index seat arena.live.size account

namespace TakesTurn

variable {seat : Seat} {old : Actor} {arena : Arena} {scene : Scene} {account : Account}

/-- Those who were there stay on their seats, and only whose turn it was is another. -/
theorem taken (h : recorded.TakesTurn index seat arena scene account after)
    (hold : recorded.session.actor? index seat = some old) {seat' : Seat} {actor : Actor}
    (hactor : recorded.session.actor? index seat' = some actor) :
    after.session.actor? index seat' = some (if seat' = seat then scene.actor else actor) := by
  rw [h.session_eq, Session.takeTurn, Session.actor?_share]
  apply Session.actor?_append_of_some
  rw [Session.actor?_setActor hold]
  by_cases hseat : seat' = seat
  · simp [hseat]
  · simp [hseat, hactor]

theorem joined (h : recorded.TakesTurn index seat arena scene account after)
    (harena : recorded.session.level.arenas[index]? = some arena) (k : Nat) :
    after.session.actor? index (.live (arena.live.size + k)) = scene.spawned[k]? := by
  have hchanged : (recorded.session.updateArena index
      (·.setActor seat scene.actor)).level.arenas[index]? =
        some (arena.setActor seat scene.actor) := by
    rw [Session.updateArena_getElem?, if_pos rfl, harena, Option.map_some]
  rw [h.session_eq, Session.takeTurn, Session.actor?_share,
    ← arena.setActor_size seat scene.actor]
  exact Session.actor?_append hchanged scene.spawned k

theorem history_of_taken (h : recorded.TakesTurn index seat arena scene account after)
    (harena : recorded.session.level.arenas[index]? = some arena) {seat' : Seat} {actor : Actor}
    (hactor : recorded.session.actor? index seat' = some actor) :
    after.chronicle index seat' =
      if seat' = seat then (recorded.chronicle index seat').extend account.ran
      else recorded.chronicle index seat' := by
  rw [h.chronicle_eq]
  apply Chronicle.afterTurn_of_taken
  rintro k rfl
  simp only [Session.actor?, harena] at hactor
  exact (Array.getElem?_eq_some_iff.mp hactor).1

/-- What was executed before a turn was executed after it. -/
theorem executes (h : recorded.TakesTurn index seat arena scene account after)
    (hold : recorded.session.actor? index seat = some old)
    (harena : recorded.session.level.arenas[index]? = some arena) {executed : Executed}
    (hexecutes : recorded.Executes index executed) : after.Executes index executed := by
  obtain ⟨seat', actor, hactor, hexecuted⟩ := hexecutes
  refine ⟨seat', _, h.taken hold hactor, ?_⟩
  rw [h.history_of_taken harena hactor]
  split
  · rw [History.executed_extend]
    exact List.mem_append_left _ hexecuted
  · exact hexecuted

/-- And so is what the account of the turn tells. -/
theorem executes_of_covers (h : recorded.TakesTurn index seat arena scene account after)
    (hold : recorded.session.actor? index seat = some old)
    (harena : recorded.session.level.arenas[index]? = some arena)
    (hsize : scene.spawned.size = account.births.length) {executed : Executed}
    (hcovers : account.Covers executed) : after.Executes index executed := by
  rcases hcovers with hran | ⟨history, hbirth, hexecuted⟩
  · refine ⟨seat, _, h.taken hold hold, ?_⟩
    rw [h.history_of_taken harena hold, if_pos rfl, History.executed_extend]
    exact List.mem_append_right _ hran
  · obtain ⟨k, hk, hhistory⟩ := List.getElem_of_mem hbirth
    have hbirth' : account.births[k]? = some history := by
      rw [List.getElem?_eq_getElem hk, hhistory]
    have hlt : k < scene.spawned.size := hsize ▸ hk
    refine ⟨.live (arena.live.size + k), scene.spawned[k], ?_, ?_⟩
    · rw [h.joined harena, Array.getElem?_eq_getElem hlt]
    · rw [h.chronicle_eq, Chronicle.afterTurn_birth _ hbirth']
      exact hexecuted

end TakesTurn

/-- A turn on one of the first seats keeps those who have joined waiting, and whoever joins in it
waits too. -/
theorem KeepsWaiting.turn (h : recorded.KeepsWaiting settings first index count) {i : Nat}
    (hi : i < count) {old : Actor} {arena : Arena} {scene : Scene} {account : Account}
    (hturn : recorded.TakesTurn index (.live i) arena scene account after)
    (hold : recorded.session.actor? index (.live i) = some old)
    (harena : recorded.session.level.arenas[index]? = some arena)
    (hdebuts : List.Forall₂ ((first.stageOf settings index false).Debuts account.Covers)
      scene.spawned.toList account.births)
    {k : Nat} {actor : Actor} (hk : count ≤ k)
    (hactor : after.session.actor? index (.live k) = some actor) :
    (first.stageOf settings index false).Debuts (after.Executes index) actor
      (after.chronicle index (.live k)) := by
  by_cases hthere : k < arena.live.size
  · -- It had joined before this turn, which was not its own.
    have hlive : recorded.session.actor? index (.live k) = some arena.live[k] := by
      simp [Session.actor?, harena, Arena.actor?, hthere]
    have hne : Seat.live k ≠ .live i := by
      rintro ⟨⟩
      exact Nat.not_le.mpr hi hk
    have hsame := hturn.taken hold hlive
    rw [if_neg hne, hactor] at hsame
    cases hsame
    rw [hturn.history_of_taken harena hlive, if_neg hne]
    exact (h.waits k _ hk hlive).mono fun _ => hturn.executes hold harena
  · obtain ⟨j, rfl⟩ := Nat.exists_eq_add_of_le (Nat.not_lt.mp hthere)
    rw [hturn.joined harena, ← Array.getElem?_toList] at hactor
    obtain ⟨history, hbirth, hdebut⟩ := getElem?_of_forall₂ hdebuts hactor
    rw [hturn.chronicle_eq, Chronicle.afterTurn_birth _ hbirth]
    refine hdebut.mono fun _ => hturn.executes_of_covers hold harena ?_
    rw [← Array.length_toList]
    exact hdebuts.length_eq

/-- So does a move that is such a turn. -/
theorem KeepsWaiting.move (h : recorded.KeepsWaiting settings first index count) {i : Nat}
    (hi : i < count) {move : Move} {happen : Stage → Scene → Outcome}
    {account : Stage → Scene → Account} (hbrought : Stage.Brought happen account)
    (hsession : (recorded.move settings move).session =
      recorded.session.turn settings index (.live i) happen)
    (hchronicle : (recorded.move settings move).chronicle =
      recorded.session.turnTold settings recorded.chronicle index (.live i) account) :
    (recorded.move settings move).KeepsWaiting settings first index count := by
  obtain ⟨horderly, hgrew⟩ := Session.move_orderly recorded.session move h.orderly
  refine ⟨horderly, h.grew.trans hgrew, ?_⟩
  intro k actor hk hactor
  cases hold : recorded.session.actor? index (.live i) with
  | none =>
      rw [Session.turn, hold] at hsession
      rw [Session.turnTold, hold] at hchronicle
      have hexecutes : (recorded.move settings move).Executes index = recorded.Executes index := by
        unfold Executes
        rw [hsession, hchronicle]
      rw [hsession] at hactor
      rw [hexecutes, hchronicle]
      exact h.waits k actor hk hactor
  | some old =>
      obtain ⟨arena, harena, hseat⟩ := Session.actor?_eq_some hold
      have hhome : old.arena = index := (h.orderly index arena harena).actor_arena hseat
      have hstage : recorded.session.stage settings arena index false =
          first.stageOf settings index false := by
        rw [Session.stage_eq_stageOf harena, h.grew.stageOf_eq]
      rw [Session.turn, hold] at hsession
      rw [Session.turnTold, hold] at hchronicle
      simp only [hhome, harena, hstage] at hsession hchronicle
      have hdebuts := hbrought (first.stageOf settings index false)
        ⟨old, recorded.session.world arena, #[]⟩ rfl
      exact h.turn hi ⟨hsession, hchronicle⟩ hold harena hdebuts hk hactor

/-- Nobody has joined yet when a round begins. -/
theorem keepsWaiting_of_orderly (horderly : recorded.session.level.Orderly settings)
    (hgrew : first.Grew recorded.session.level) (index : Nat) :
    recorded.KeepsWaiting settings first index (recorded.session.liveCount index) := by
  refine ⟨horderly, hgrew, ?_⟩
  intro k actor hk hactor
  obtain ⟨arena, harena, hseat⟩ := Session.actor?_eq_some hactor
  have hlt : k < arena.live.size := (Array.getElem?_eq_some_iff.mp hseat).1
  simp only [Session.liveCount, harena] at hk
  omega

/-- A round in which everybody who is there when it begins takes a turn keeps newcomers waiting. -/
theorem keepsWaiting_round (horderly : recorded.session.level.Orderly settings)
    (hgrew : first.Grew recorded.session.level) (turn : Nat → Move)
    {happen : Stage → Scene → Outcome} {account : Stage → Scene → Account}
    (hbrought : Stage.Brought happen account)
    (hsession : ∀ (current : Recorded) (i : Nat), (current.move settings (turn i)).session =
      current.session.turn settings index (.live i) happen)
    (hchronicle : ∀ (current : Recorded) (i : Nat), (current.move settings (turn i)).chronicle =
      current.session.turnTold settings current.chronicle index (.live i) account) :
    (follow settings ((List.range (recorded.session.liveCount index)).map turn)
      recorded).KeepsWaiting settings first index (recorded.session.liveCount index) := by
  apply follow_induction_of_mem _ fun current => current.KeepsWaiting settings first index
    (recorded.session.liveCount index)
  · intro current move hmove hcurrent
    obtain ⟨i, hi, rfl⟩ := List.mem_map.mp hmove
    exact hcurrent.move (List.mem_range.mp hi) hbrought (hsession current i) (hchronicle current i)
  · exact keepsWaiting_of_orderly horderly hgrew index

theorem keepsWaiting_pass (horderly : recorded.session.level.Orderly settings)
    (hgrew : first.Grew recorded.session.level) (index : Nat) :
    (follow settings (Play.Plan.pass index recorded.session) recorded).KeepsWaiting settings first
      index (recorded.session.liveCount index) :=
  keepsWaiting_round horderly hgrew (fun i => .invoke index (.live i)) Stage.brought_invoke
    (fun current i => Session.move_invoke current.session settings index (.live i))
    fun _ _ => rfl

/-- One round of countdown in an arena: behind those who are there when the arena itself was ticked,
newcomers wait. -/
theorem keepsWaiting_tickArena (horderly : recorded.session.level.Orderly settings)
    (hgrew : first.Grew recorded.session.level) (index : Nat) :
    (follow settings (Play.Plan.tickArena settings index recorded.session) recorded).KeepsWaiting
      settings first index
        ((recorded.move settings (.tick index .self)).session.liveCount index) := by
  let begun := recorded.move settings (.tick index .self)
  obtain ⟨hbegun, hgrown⟩ := Session.move_orderly recorded.session (.tick index .self) horderly
  have hplan : Play.Plan.tickArena settings index recorded.session =
      .tick index .self :: Play.Plan.tickLive index begun.session := by
    have hfirst : ((Move.tick index .self).play settings).exec recorded.session =
        (Play.follow settings [.tick index .self]).exec recorded.session :=
      Play.Makes.move _ recorded.session
    rw [Play.Plan.tickArena, Play.Plan.andThen, ← hfirst]
    rfl
  rw [hplan, follow]
  split
  · exact keepsWaiting_round hbegun (hgrew.trans hgrown) (fun i => .tick index (.live i))
      Stage.brought_tick
      (fun current i => Session.move_tick current.session settings index (.live i))
      fun _ _ => rfl
  · exact keepsWaiting_of_orderly hbegun (hgrew.trans hgrown) index

end Recorded

/-- However a level that was built has been played, also within an operation, and whether or not an
error stops what follows: after a pass over an arena everybody behind those who lived there before
has just joined and waits.  The same holds of a round of countdown in an arena, of everybody behind
those who were there once the arena itself was ticked. -/
theorem Recorded.newcomers_wait {built : Settings} {container : Container} {bytes : Bytes}
    {level : Level} (hbuild : Level.build built container bytes = .ok level) (settings : Settings)
    (reads : List Span) (before : List Move) (index : Nat) :
    let start := Session.mk level reads
    let recorded := (Recorded.start level reads).moves settings before
    let begun := recorded.move settings (.tick index .self)
    let passed := follow settings (Play.Plan.pass index recorded.session) recorded
    let ticked := follow settings (Play.Plan.tickArena settings index recorded.session) recorded
    let stage := level.stageOf settings index false
    (∀ operations : List Operation, start.afterAll settings operations =
        start.moves settings (start.madeIn settings operations)) ∧
      recorded.session = start.moves settings before ∧
      passed.session = ((Play.pass settings index).exec recorded.session).2 ∧
      passed.NewcomersWait stage index (recorded.session.liveCount index) ∧
      ticked.session = ((Play.tickArena settings index).exec recorded.session).2 ∧
      ticked.NewcomersWait stage index (begun.session.liveCount index) := by
  intro start recorded begun passed ticked stage
  have hsession : recorded.session = start.moves settings before :=
    moves_session (Recorded.start level reads) settings before
  obtain ⟨horderly, hgrew⟩ := start.moves_orderly (Level.build_orderly hbuild settings) before
  rw [← hsession] at horderly hgrew
  have hpassed : passed.session = ((Play.pass settings index).exec recorded.session).2 := by
    rw [follow_session, ← Play.Makes.pass settings index recorded.session]
  have hticked : ticked.session = ((Play.tickArena settings index).exec recorded.session).2 := by
    rw [follow_session, ← Play.Makes.tickArena settings index recorded.session]
  exact ⟨start.afterAll_eq_moves settings, hsession, hpassed,
    (keepsWaiting_pass horderly hgrew index).waits, hticked,
    (keepsWaiting_tickArena horderly hgrew index).waits⟩

/-- A container in which the script of the first chief spawns a guard with that same script. -/
def Container.recruiting : Container :=
  ⟨"LEVEL", 0, [("HALL$CHIEF_1", 1)], [], [], [⟨"HALL", ("", ""), 0⟩]⟩

/-- The script of that container. -/
def Bytes.recruiting : Bytes :=
  #[0xff,
    0x56, 0, 0, 0, 0, 0, 0, 0, 0, 0, 0, 0, 0, 5, 0x47, 0x55, 0x41, 0x52, 0x44, 1, 0, 0, 0, 0xff]

/-- A chief is placed and spawns a guard in a pass; the guard is about to run, and waits. -/
theorem Recorded.newcomers_wait_recruiting :
    ∃ level guard, Level.build .standard .recruiting .recruiting = .ok level ∧
      let before : List Move := [.place ⟨"HALL", "CHIEF", 1, .origin, 0⟩]
      let recorded := (Recorded.start level []).moves .standard before
      let passed := follow .standard (Play.Plan.pass 0 recorded.session) recorded
      recorded.session.liveCount 0 = 1 ∧ passed.session.actor? 0 (.live 1) = some guard ∧
        guard.control = .running 1 ∧
        (level.stageOf .standard 0 false).Debuts (passed.Executes 0) guard
          (passed.chronicle 0 (.live 1)) := by
  have hbuild : ∃ level, Level.build .standard .recruiting .recruiting = .ok level := ⟨_, rfl⟩
  obtain ⟨level, hlevel⟩ := hbuild
  have hstate : (Level.build .standard .recruiting .recruiting).toOption.bind (fun level =>
      let recorded := (Recorded.start level []).moves .standard
        [.place ⟨"HALL", "CHIEF", 1, .origin, 0⟩]
      let passed := follow .standard (Play.Plan.pass 0 recorded.session) recorded
      (passed.session.actor? 0 (.live 1)).map fun guard =>
        (recorded.session.liveCount 0, guard.control)) = some (1, .running 1) := by
    decide +kernel
  rw [hlevel] at hstate
  obtain ⟨guard, hguard, hcontrol⟩ := Option.map_eq_some_iff.mp hstate
  obtain ⟨hcount, hcontrol⟩ := Prod.mk.inj hcontrol
  obtain ⟨-, -, -, hwait, -⟩ := newcomers_wait hlevel .standard []
    [.place ⟨"HALL", "CHIEF", 1, .origin, 0⟩] 0
  exact ⟨level, guard, hlevel, hcount, hguard, hcontrol, hwait 1 guard (Nat.le_of_eq hcount) hguard⟩

end LevelScript
