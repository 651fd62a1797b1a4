import LevelScript.Proofs.Cast
import Mathlib.Algebra.BigOperators.Ring.Finset

/-!
How much a run can do.

Every script of a run, nested or not, executes a limited number of instructions, and setup scripts
nest to a limited depth.  So the number of newcomers is bounded too, however the setup scripts spawn
each other: there are no more of them than a tree of that depth has nodes, in which every
instruction is a spawn.
-/

namespace LevelScript

open Finset

/-! ### Newcomers -/

/-- A part that executes at most so many instructions, and none at all from a depth on. -/
def Part.Within (instructions depth : Nat) (part : Part) : Prop :=
  part.ran.length ≤ instructions ∧
    (depth ≤ part.path.length → part.setup = none ∧ part.ran = [])

theorem Part.Within.under {instructions depth : Nat} {part : Part}
    (h : part.Within instructions depth) (pos : Nat) :
    (part.under pos).Within instructions (depth + 1) := by
  refine ⟨h.1, fun hdeep => h.2 ?_⟩
  exact Nat.le_of_succ_le_succ hdeep

/-- A part in which nothing is executed. -/
theorem Part.within_idle {part : Part} (hsetup : part.setup = none) (hran : part.ran = [])
    (instructions depth : Nat) : part.Within instructions depth :=
  ⟨by simp [hran], fun _ => ⟨hsetup, hran⟩⟩

/-- How many newcomers there can be below one who is settled in with so much room. -/
def Settings.newcomers (settings : Settings) (room : Nat) : Nat :=
  ∑ k ∈ range room, settings.maxInstructions ^ (k + 1)

theorem Settings.newcomers_succ (settings : Settings) (room : Nat) :
    settings.newcomers (room + 1) =
      settings.maxInstructions * (settings.newcomers room + 1) := by
  unfold newcomers
  rw [sum_range_succ', Nat.mul_add, mul_sum]
  congr 1
  · exact sum_congr rfl fun k _ => pow_succ' _ _
  · simp

/-- The newcomers below one, and that one. -/
theorem Settings.newcomers_add_one (settings : Settings) (room : Nat) :
    settings.newcomers room + 1 = ∑ k ∈ range (room + 1), settings.maxInstructions ^ k := by
  rw [sum_range_succ', pow_zero]
  rfl

/-! ### Runs -/

/-- A playbill of so many instructions and newcomers, who keep within the bounds. -/
structure Playbill.Bounded (instructions depth steps count : Nat) (playbill : Playbill) :
    Prop where
  ran_le : playbill.ran.length ≤ steps
  others : ∀ part ∈ playbill.others, part.Within instructions depth
  count_le : playbill.others.length ≤ count

/-- A cast of at most so many newcomers, in which everybody keeps within the bounds. -/
structure Cast.Bounded (instructions depth count : Nat) (cast : Cast) : Prop where
  parts : ∀ part ∈ cast.parts, part.Within instructions depth
  count_le : cast.others.length ≤ count

theorem Playbill.Bounded.cast {playbill : Playbill} {instructions depth count : Nat}
    (h : playbill.Bounded instructions (depth + 1) instructions count) (first : Actor)
    (setup : Option UInt32) :
    (playbill.cast first setup).Bounded instructions (depth + 1) count := by
  refine ⟨fun part hpart => ?_, h.count_le⟩
  rcases List.mem_cons.mp hpart with rfl | hpart
  · exact ⟨h.ran_le, fun hdeep => absurd hdeep (Nat.not_succ_le_zero depth)⟩
  · exact h.others part hpart

/-- The cast of an actor that executes nothing. -/
theorem Cast.bounded_idle (first : Actor) (raised : Option ScriptFailure)
    (instructions depth count : Nat) :
    ((Playbill.mk [] raised []).cast first none).Bounded instructions depth count := by
  refine ⟨fun part hpart => ?_, Nat.zero_le count⟩
  rw [List.mem_singleton.mp hpart]
  exact Part.within_idle rfl rfl instructions depth

/-- A herald whose casts are bounded. -/
def Herald.Bounded (instructions depth count : Nat) (herald : Herald) : Prop :=
  ∀ (child : Actor) (init : UInt32) (world : World),
    (herald child init world).Bounded instructions depth count

variable (stage : Stage) {herald : Herald} {instructions depth count : Nat}

theorem stepPlaybill_bounded (h : herald.Bounded instructions depth count) (pos : Nat)
    (scene : Scene) :
    (stepPlaybill stage herald pos scene).Bounded instructions (depth + 1) 1 (count + 1) := by
  constructor
  case ran_le =>
    simp only [stepPlaybill, Fetched.ran]
    split <;> simp
  case others =>
    intro part hpart
    obtain ⟨child, init, world, inner, hinner, rfl⟩ := mem_stepPlaybill_others hpart
    exact ((h child init world).parts inner hinner).under pos
  case count_le =>
    rcases stepPlaybill_others stage herald pos scene with
      hnone | ⟨_, child, init, world, hothers⟩
    · simp [hnone]
    · rw [hothers, Cast.parts, List.length_map, List.length_cons]
      exact Nat.succ_le_succ (h child init world).count_le

theorem executePlaybill_bounded (h : herald.Bounded instructions depth count) (settle : Settle)
    (fuel pos : Nat) (scene : Scene) :
    (executePlaybill stage settle herald fuel pos scene).Bounded instructions (depth + 1) fuel
      (fuel * (count + 1)) := by
  induction fuel generalizing pos scene with
  | zero => exact ⟨Nat.le_refl 0, by simp [executePlaybill], Nat.zero_le _⟩
  | succ fuel ih =>
      have hnow := stepPlaybill_bounded stage h pos scene
      rw [executePlaybill]
      cases step stage settle pos scene with
      | next pos' scene' =>
          have hlater := ih pos' scene'
          refine ⟨?_, ?_, ?_⟩
          · have hsum := Nat.add_le_add hnow.ran_le hlater.ran_le
            simpa [Nat.add_comm] using hsum
          · intro part hpart
            rcases List.mem_append.mp hpart with hpart | hpart
            · exact hnow.others part hpart
            · exact hlater.others part hpart
          · have hsum := Nat.add_le_add hnow.count_le hlater.count_le
            rw [List.length_append, Nat.succ_mul]
            omega
      | halt outcome =>
          refine ⟨Nat.le_trans hnow.ran_le (by omega), hnow.others, ?_⟩
          exact Nat.le_trans hnow.count_le (Nat.le_mul_of_pos_left _ fuel.succ_pos)

theorem invokePlaybill_bounded (h : herald.Bounded instructions depth count) (settle : Settle)
    (scene : Scene) :
    (invokePlaybill stage settle herald scene).Bounded instructions (depth + 1)
      stage.settings.maxInstructions (stage.settings.maxInstructions * (count + 1)) := by
  unfold invokePlaybill
  split
  · exact executePlaybill_bounded stage h settle _ _ _
  · exact ⟨Nat.zero_le _, by simp, Nat.zero_le _⟩

/-- Settling in keeps within its bounds; each nested setup script leaves less room. -/
theorem settleCast_bounded (room : Nat) :
    (settleCast stage room).Bounded stage.settings.maxInstructions room
      (stage.settings.newcomers room) := by
  induction room with
  | zero =>
      intro child init world
      unfold settleCast
      split
      · exact Cast.bounded_idle child _ _ _ _
      · exact Cast.bounded_idle child _ _ _ _
  | succ room ih =>
      intro child init world
      unfold settleCast
      split
      · exact Cast.bounded_idle child _ _ _ _
      · next offset _ =>
        have hrun := invokePlaybill_bounded stage ih (settle stage room)
          ⟨(child.push (.setup offset)).startAt offset, world, #[]⟩
        rw [stage.settings.newcomers_succ]
        exact hrun.cast child (some offset)

theorem Stage.invokePlaybill_bounded (scene : Scene) :
    (stage.invokePlaybill scene).Bounded stage.settings.maxInstructions
      (stage.settings.maxCallDepth + 1) stage.settings.maxInstructions
      (stage.settings.newcomers (stage.settings.maxCallDepth + 1)) := by
  rw [stage.settings.newcomers_succ]
  exact LevelScript.invokePlaybill_bounded stage (settleCast_bounded stage _) _ scene

/-- An invocation from outside keeps within the bounds of the stage. -/
theorem Stage.invokeCast_bounded (scene : Scene) :
    (stage.invokeCast scene).Bounded stage.settings.maxInstructions
      (stage.settings.maxCallDepth + 1)
      (stage.settings.newcomers (stage.settings.maxCallDepth + 1)) :=
  (stage.invokePlaybill_bounded scene).cast scene.actor none

/-- So does a tick. -/
theorem Stage.tickCast_bounded (scene : Scene) :
    (stage.tickCast scene).Bounded stage.settings.maxInstructions
      (stage.settings.maxCallDepth + 1)
      (stage.settings.newcomers (stage.settings.maxCallDepth + 1)) := by
  unfold Stage.tickCast
  split
  · split
    · exact Cast.bounded_idle scene.actor _ _ _ _
    · exact (stage.invokePlaybill_bounded _).cast scene.actor none
  · exact stage.invokeCast_bounded scene

/-! ### Sessions -/

namespace Session

variable (session : Session) (settings : Settings)

theorem liveCount_updateArena (update : Arena → Arena) (count : Nat)
    (hupdate : ∀ arena, (update arena).live.size ≤ arena.live.size + count) (index i : Nat) :
    (session.updateArena index update).liveCount i ≤ session.liveCount i + count := by
  unfold liveCount
  rw [updateArena_getElem?]
  cases session.level.arenas[i]? with
  | none => simp
  | some arena =>
      by_cases hi : index = i
      · simpa [hi] using hupdate arena
      · simp [hi]

theorem liveCount_share (index : Nat) (world : World) (i : Nat) :
    (session.share index world).liveCount i ≤ session.liveCount i :=
  session.liveCount_updateArena (·.withVars world.arenaVars) 0 (fun _ => Nat.le_refl _) index i

theorem liveCount_append (index : Nat) (actors : Array Actor) (i : Nat) :
    (session.updateArena index (·.append actors)).liveCount i ≤
      session.liveCount i + actors.size :=
  session.liveCount_updateArena (·.append actors) actors.size (by simp [Arena.append]) index i

theorem liveCount_takeTurn (index : Nat) (seat : Seat) (home : Nat) (scene : Scene) (i : Nat) :
    (session.takeTurn index seat home scene).liveCount i ≤
      session.liveCount i + scene.spawned.size := by
  let seated := session.updateArena index (·.setActor seat scene.actor)
  have hseated : seated.liveCount i ≤ session.liveCount i :=
    session.liveCount_updateArena _ 0 (fun arena => Nat.le_of_eq (arena.setActor_size _ _)) index i
  calc (session.takeTurn index seat home scene).liveCount i
    _ ≤ (seated.updateArena home (·.append scene.spawned)).liveCount i := liveCount_share _ _ _ i
    _ ≤ seated.liveCount i + scene.spawned.size := liveCount_append _ _ _ i
    _ ≤ session.liveCount i + scene.spawned.size := Nat.add_le_add_right hseated _

theorem liveCount_turn (index : Nat) (seat : Seat) (happen : Stage → Scene → Outcome) {count : Nat}
    (hcount : ∀ (arena : Arena) (home : Nat) (actor : Actor) (world : World),
      (happen (session.stage settings arena home false) ⟨actor, world, #[]⟩).2.spawned.size ≤
        count) (i : Nat) :
    (session.turn settings index seat happen).liveCount i ≤ session.liveCount i + count := by
  unfold turn
  cases session.actor? index seat with
  | none => exact Nat.le_add_right _ _
  | some actor =>
      dsimp only
      cases session.level.arenas[actor.arena]? with
      | none => exact Nat.le_add_right _ _
      | some home =>
          have hspawned := hcount home actor.arena actor (session.world home)
          exact Nat.le_trans (session.liveCount_takeTurn index seat actor.arena _ i)
            (Nat.add_le_add_left hspawned _)

/-- What one placement adds. -/
theorem liveCount_placed (placement : Placement) (i : Nat) :
    (session.placed settings placement).liveCount i ≤ session.liveCount i +
      ∑ k ∈ range (settings.maxCallDepth + 1), settings.maxInstructions ^ k := by
  unfold placed
  cases session.level.arenaIndex placement.arena with
  | error error => exact Nat.le_add_right _ _
  | ok index =>
      dsimp only
      cases session.level.arenas[index]? with
      | none => exact Nat.le_add_right _ _
      | some arena =>
          have hcount : (session.placing settings placement index arena).2.spawned.size + 1 ≤
              ∑ k ∈ range (settings.maxCallDepth + 1), settings.maxInstructions ^ k := by
            let stage := session.stage settings arena index false
            let init := (arena.inits.get? placement.localKey).getD 0
            obtain ⟨_, htells⟩ := settle_heralds stage settings.maxCallDepth
              (Play.placedActor settings index placement) init (session.world arena) rfl
            have hbounded := settleCast_bounded stage settings.maxCallDepth
              (Play.placedActor settings index placement) init (session.world arena)
            rw [← settings.newcomers_add_one]
            exact Nat.succ_le_succ (htells.size_spawned ▸ hbounded.count_le)
          dsimp only
          generalize (session.placing settings placement index arena).2 = scene at hcount ⊢
          refine Nat.le_trans (liveCount_share _ _ _ i) ?_
          refine Nat.le_trans (liveCount_append _ _ _ i) (Nat.add_le_add_left ?_ _)
          simpa [Nat.add_comm] using hcount

/-- One more placement in a seed is one more actor that is placed, unless an error came before. -/
theorem after_seed_append (placements : List Placement) (placement : Placement) :
    session.after settings (.seed (placements ++ [placement])) =
        session.after settings (.seed placements) ∨
      session.after settings (.seed (placements ++ [placement])) =
        (session.after settings (.seed placements)).placed settings placement := by
  have hfollow : ∀ placements : List Placement, session.after settings (.seed placements) =
      ((Play.follow settings (placements.map .place)).exec session).2 := by
    intro placements
    exact congrArg Prod.snd (Play.Makes.operation settings (.seed placements) session)
  rw [hfollow, hfollow, List.map_append, Play.exec_follow_append]
  rcases (Play.follow settings (placements.map .place)).exec session with ⟨error | _, session'⟩
  · exact .inl rfl
  · refine .inr ?_
    rw [← move_place]
    exact congrArg Prod.snd (Play.Makes.move (.place placement) session').symm

/-- Whatever the bytes, the state of a level and the settings: nobody in an invocation or a tick
executes more than so many instructions, no setup script runs beyond the limit of depth, and the
number of newcomers is bounded, also where setup scripts spawn each other without end.  So is what
one more placement adds to an arena. -/
theorem run_bounded (stage : Stage) (actor : Actor) (world : World) (index : Nat) (seat : Seat)
    (placements : List Placement) (placement : Placement) (i : Nat) :
    let scene : Scene := ⟨actor, world, #[]⟩
    ((stage.invokeCast scene).Tells (stage.invoke scene) ∧
        (stage.invokeCast scene).Bounded stage.settings.maxInstructions
          (stage.settings.maxCallDepth + 1)
          (∑ k ∈ range (stage.settings.maxCallDepth + 1),
            stage.settings.maxInstructions ^ (k + 1))) ∧
      ((stage.tickCast scene).Tells (stage.tick scene) ∧
        (stage.tickCast scene).Bounded stage.settings.maxInstructions
          (stage.settings.maxCallDepth + 1)
          (∑ k ∈ range (stage.settings.maxCallDepth + 1),
            stage.settings.maxInstructions ^ (k + 1))) ∧
      (session.after settings (.invoke index seat)).liveCount i ≤ session.liveCount i +
        ∑ k ∈ range (settings.maxCallDepth + 1), settings.maxInstructions ^ (k + 1) ∧
      (session.after settings (.tick index seat)).liveCount i ≤ session.liveCount i +
        ∑ k ∈ range (settings.maxCallDepth + 1), settings.maxInstructions ^ (k + 1) ∧
      (session.after settings (.seed (placements ++ [placement]))).liveCount i ≤
        (session.after settings (.seed placements)).liveCount i +
          ∑ k ∈ range (settings.maxCallDepth + 1), settings.maxInstructions ^ k := by
  intro scene
  refine ⟨⟨stage.invoke_tells scene rfl, stage.invokeCast_bounded scene⟩,
    ⟨stage.tick_tells scene rfl, stage.tickCast_bounded scene⟩, ?_, ?_, ?_⟩
  · have hinvoke : session.after settings (.invoke index seat) =
        session.turn settings index seat Stage.invoke := move_invoke session settings index seat
    rw [hinvoke]
    refine session.liveCount_turn settings index seat Stage.invoke ?_ i
    intro arena home actor world
    let stage := session.stage settings arena home false
    rw [(stage.invoke_tells ⟨actor, world, #[]⟩ rfl).size_spawned]
    exact (stage.invokeCast_bounded _).count_le
  · have htick : session.after settings (.tick index seat) =
        session.turn settings index seat Stage.tick := move_tick session settings index seat
    rw [htick]
    refine session.liveCount_turn settings index seat Stage.tick ?_ i
    intro arena home actor world
    let stage := session.stage settings arena home false
    rw [(stage.tick_tells ⟨actor, world, #[]⟩ rfl).size_spawned]
    exact (stage.tickCast_bounded _).count_le
  · rcases session.after_seed_append settings placements placement with hsame | hplaced
    · rw [hsame]
      exact Nat.le_add_right _ _
    · rw [hplaced]
      exact liveCount_placed _ settings placement i

end Session

end LevelScript
