import LevelScript.Proofs.Company

/-!
Actors that stay as they are.

A script is begun once, while its actor is settled in, and from then on an actor only moves when it
is invoked or ticked.  One whose script was given up or has ended is left alone even then, so it
stays as it is for good; one that waits is left alone by everything but its own ticks.
-/

namespace LevelScript

namespace Control

/-- There is no script to run and none that waits: it was given up or has ended. -/
def AtRest : Control → Prop
  | idle | ended _ => True
  | running _ | blocked .. => False

/-- The script goes on when a delay has run out. -/
def Waits : Control → Prop
  | blocked .. => True
  | _ => False

theorem atRest_iff (control : Control) :
    control.AtRest ↔ control.stateName = "Idle" ∨ control.stateName = "Terminated" := by
  cases control <;> simp [AtRest, stateName]

theorem waits_iff (control : Control) : control.Waits ↔ control.stateName = "Blocked" := by
  cases control <;> simp [Waits, stateName]

end Control

/-! ### Runs that do not begin -/

theorem Actor.start?_of_atRest {actor : Actor} (h : actor.control.AtRest) :
    actor.start? = none := by
  apply start?_eq_none
  intro offset hcontrol
  rw [hcontrol] at h
  exact h

theorem Actor.start?_of_waits {actor : Actor} (h : actor.control.Waits) : actor.start? = none := by
  apply start?_eq_none
  intro offset hcontrol
  rw [hcontrol] at h
  exact h

theorem Stage.invoke_of_start? (stage : Stage) {scene : Scene} (h : scene.actor.start? = none) :
    stage.invoke scene = (none, scene) := by
  simp only [Stage.invoke, LevelScript.invoke, h]

theorem Stage.tick_of_atRest (stage : Stage) {scene : Scene} (h : scene.actor.control.AtRest) :
    stage.tick scene = (none, scene) := by
  unfold Stage.tick
  cases hcontrol : scene.actor.control with
  | blocked resume delay =>
      rw [hcontrol] at h
      exact h.elim
  | _ => exact stage.invoke_of_start? (Actor.start?_of_atRest h)

/-! ### Moves -/

namespace Session

variable {session : Session} {settings : Settings} {index : Nat} {seat : Seat} {actor : Actor}

/-- Whoever joins an arena takes a free seat. -/
theorem actor?_append_of_some (hactor : session.actor? index seat = some actor) (home : Nat)
    (actors : Array Actor) :
    (session.updateArena home (·.append actors)).actor? index seat = some actor := by
  obtain ⟨arena, harena, hseat⟩ := actor?_eq_some hactor
  rw [actor?_updateArena]
  split
  · rw [harena, Option.bind_some]
    cases seat with
    | self => exact hseat
    | live k =>
        have hlt : k < arena.live.size := (Array.getElem?_eq_some_iff.mp hseat).1
        simpa [Arena.actor?, Arena.append, Array.getElem?_append_left hlt] using hseat
  · exact hactor

/-- What happens on a seat stays there: the actor on another one is the same afterwards, and so is
the actor on that one if nothing happens to it. -/
theorem actor?_turn (hactor : session.actor? index seat = some actor) {i : Nat} {seat' : Seat}
    {happen : Stage → Scene → Outcome}
    (hsame : (i, seat') = (index, seat) → ∀ (stage : Stage) (world : World),
      (happen stage ⟨actor, world, #[]⟩).2.actor = actor) :
    (session.turn settings i seat' happen).actor? index seat = some actor := by
  unfold turn
  cases hfound : session.actor? i seat' with
  | none => exact hactor
  | some other =>
      dsimp only
      cases session.level.arenas[other.arena]? with
      | none => exact hactor
      | some home =>
          dsimp only [takeTurn]
          rw [actor?_share]
          apply actor?_append_of_some
          rw [actor?_setActor hfound]
          split
          · next heq =>
            obtain ⟨rfl, rfl⟩ := Prod.mk.inj heq
            rw [hactor] at hfound
            cases hfound
            rw [hsame rfl]
          · exact hactor

theorem actor?_placed (hactor : session.actor? index seat = some actor) (placement : Placement) :
    (session.placed settings placement).actor? index seat = some actor := by
  unfold placed
  cases session.level.arenaIndex placement.arena with
  | error error => exact hactor
  | ok home =>
      dsimp only
      cases session.level.arenas[home]? with
      | none => exact hactor
      | some arena =>
          dsimp only
          rw [actor?_share]
          exact actor?_append_of_some hactor home _

/-- A move that leaves the actor on a seat alone, as far as invoking and ticking it do. -/
theorem actor?_move (hactor : session.actor? index seat = some actor) {move : Move}
    (hinvoke : move = .invoke index seat → ∀ (stage : Stage) (world : World),
      (stage.invoke ⟨actor, world, #[]⟩).2.actor = actor)
    (htick : move = .tick index seat → ∀ (stage : Stage) (world : World),
      (stage.tick ⟨actor, world, #[]⟩).2.actor = actor) :
    (session.move settings move).actor? index seat = some actor := by
  cases move with
  | place placement =>
      rw [move_place]
      exact actor?_placed hactor placement
  | invoke i seat' =>
      rw [move_invoke]
      refine actor?_turn hactor fun heq => hinvoke ?_
      obtain ⟨rfl, rfl⟩ := Prod.mk.inj heq
      rfl
  | tick i seat' =>
      rw [move_tick]
      refine actor?_turn hactor fun heq => htick ?_
      obtain ⟨rfl, rfl⟩ := Prod.mk.inj heq
      rfl
  | rehearse i entry =>
      rw [move_rehearse, actor?_rehearsed]
      exact hactor

/-- An actor at rest stays as it is in every move. -/
theorem actor?_move_of_atRest (hactor : session.actor? index seat = some actor)
    (hrest : actor.control.AtRest) (move : Move) :
    (session.move settings move).actor? index seat = some actor := by
  apply actor?_move hactor
  · intro _ stage world
    rw [stage.invoke_of_start? (Actor.start?_of_atRest hrest)]
  · intro _ stage world
    rw [stage.tick_of_atRest hrest]

/-- An actor that waits stays as it is in every move but its own tick. -/
theorem actor?_move_of_waits (hactor : session.actor? index seat = some actor)
    (hwaits : actor.control.Waits) {move : Move} (hmove : move ≠ .tick index seat) :
    (session.move settings move).actor? index seat = some actor := by
  apply actor?_move hactor
  · intro _ stage world
    rw [stage.invoke_of_start? (Actor.start?_of_waits hwaits)]
  · exact fun htick => absurd htick hmove

end Session

/-! ### Plans -/

namespace Play.Plan

variable {settings : Settings} {avoided : Move}

/-- A plan that never makes a move. -/
def Avoids (avoided : Move) (plan : Plan) : Prop :=
  ∀ session, avoided ∉ plan session

theorem Avoids.andThen {plan next : Plan} (hplan : plan.Avoids avoided)
    (hnext : next.Avoids avoided) : (plan.andThen settings next).Avoids avoided := by
  intro session hmove
  rcases List.mem_append.mp hmove with hmove | hmove
  · exact hplan session hmove
  · exact hnext _ hmove

theorem Avoids.forEach {α : Type} {plan : α → Plan} (hplan : ∀ item, (plan item).Avoids avoided)
    (items : List α) : (Plan.forEach settings plan items).Avoids avoided := by
  induction items with
  | nil => exact fun _ => List.not_mem_nil
  | cons item items ih => exact (hplan item).andThen ih

theorem avoids_pass (index i : Nat) (seat : Seat) : (pass index).Avoids (.tick i seat) := by
  intro session hmove
  obtain ⟨k, _, hk⟩ := List.mem_map.mp hmove
  cases hk

theorem avoids_loadArena (index i : Nat) (seat : Seat) :
    (loadArena settings index).Avoids (.tick i seat) := by
  have hrehearse : (rehearseAll index).Avoids (.tick i seat) := by
    intro session hmove
    obtain ⟨entry, _, hentry⟩ := List.mem_map.mp hmove
    cases hentry
  have hself : Avoids (.tick i seat) fun _ => [.invoke index .self] := by
    intro session hmove
    cases List.mem_singleton.mp hmove
  exact (avoids_pass index i seat).andThen <| hrehearse.andThen <|
    hself.andThen (avoids_pass index i seat)

/-- Only rounds of countdown tick an actor, and the tick of that actor. -/
theorem avoids_operation {operation : Operation} {index : Nat} {seat : Seat}
    (hticks : operation ≠ .ticks) (htick : operation ≠ .tick index seat) :
    Avoids (.tick index seat) (operation.plan settings) := by
  cases operation with
  | seed placements =>
      intro session hmove
      obtain ⟨placement, _, hplacement⟩ := List.mem_map.mp hmove
      cases hplacement
  | loadPasses =>
      intro session
      exact Avoids.forEach (fun i => avoids_loadArena i index seat) _ session
  | pass i => exact avoids_pass i index seat
  | ticks => exact absurd rfl hticks
  | tick i seat' =>
      intro session hmove
      cases List.mem_singleton.mp hmove
      exact htick rfl
  | invoke i seat' =>
      intro session hmove
      cases List.mem_singleton.mp hmove

end Play.Plan

/-! ### Operations -/

namespace Session

variable {session : Session} {index : Nat} {seat : Seat} {actor : Actor}

/-- An actor that waits stays as it is in every operation that does not tick it. -/
theorem actor?_after_of_waits {settings : Settings}
    (hactor : session.actor? index seat = some actor) (hwaits : actor.control.Waits)
    {operation : Operation} (hplan : .tick index seat ∉ operation.plan settings session) :
    (session.after settings operation).actor? index seat = some actor := by
  have hfollow : ((Play.follow settings (operation.plan settings session)).exec session).2.actor?
      index seat = some actor := by
    apply Play.follow_induction_of_mem _ fun current => current.actor? index seat = some actor
    · intro current move hmove hcurrent
      exact actor?_move_of_waits hcurrent hwaits fun heq => hplan (heq ▸ hmove)
    · exact hactor
  rwa [← Play.Makes.operation settings operation session] at hfollow

/-- An actor whose script was given up or has ended is the same, field by field, after whatever is
done to the level.  One that waits is the same after every move but its own tick, after every
operation that does not make this move, and so after all but the rounds of countdown and the tick of
that actor. -/
theorem stays_afterAll (hactor : session.actor? index seat = some actor) (settings : Settings) :
    (actor.control.AtRest → ∀ operations : List Operation,
        (session.afterAll settings operations).actor? index seat = some actor) ∧
      (actor.control.Waits →
        (∀ move : Move, move ≠ .tick index seat →
          (session.move settings move).actor? index seat = some actor) ∧
        (∀ operation : Operation, .tick index seat ∉ operation.plan settings session →
          (session.after settings operation).actor? index seat = some actor) ∧
        ∀ operations : List Operation, .ticks ∉ operations → .tick index seat ∉ operations →
          (session.afterAll settings operations).actor? index seat = some actor) := by
  constructor
  · intro hrest operations
    exact afterAll_induction (fun current => current.actor? index seat = some actor)
      (fun _ move hcurrent => actor?_move_of_atRest hcurrent hrest move) operations hactor
  · intro hwaits
    refine ⟨fun move hmove => actor?_move_of_waits hactor hwaits hmove,
      fun operation hplan => actor?_after_of_waits hactor hwaits hplan, ?_⟩
    intro operations hticks htick
    induction operations generalizing session with
    | nil => exact hactor
    | cons operation operations ih =>
        rw [List.mem_cons, not_or] at hticks htick
        apply ih _ hticks.2 htick.2
        apply actor?_after_of_waits hactor hwaits
        exact Play.Plan.avoids_operation (Ne.symm hticks.1) (Ne.symm htick.1) session

/-- An arena has run its script, and its guard waits; then both are played over and over. -/
theorem stays_afterAll_guarded :
    ∃ level hall guard, Level.build .standard .guarded
        #[0xff, 0xff, 0xff, 0x01, 0x40, 0x03, 0x00, 0x00, 0x80, 0x3f, 0xfd] = .ok level ∧
      let session := (Session.mk level []).afterAll .standard
        [.seed [⟨"HALL", "GUARD", 1, .origin, 0⟩], .invoke 0 .self, .invoke 0 (.live 0)]
      (session.actor? 0 .self = some hall ∧ hall.control.AtRest ∧
          (session.afterAll .standard [.loadPasses, .ticks, .invoke 0 .self]).actor? 0 .self =
            some hall) ∧
        session.actor? 0 (.live 0) = some guard ∧ guard.control.Waits ∧
          (session.afterAll .standard [.invoke 0 (.live 0), .loadPasses, .tick 0 .self]).actor? 0
            (.live 0) = some guard := by
  have hbuild : ∃ level, Level.build .standard .guarded
      #[0xff, 0xff, 0xff, 0x01, 0x40, 0x03, 0x00, 0x00, 0x80, 0x3f, 0xfd] = .ok level := ⟨_, rfl⟩
  obtain ⟨level, hlevel⟩ := hbuild
  have hstates : (Level.build .standard .guarded
      #[0xff, 0xff, 0xff, 0x01, 0x40, 0x03, 0x00, 0x00, 0x80, 0x3f, 0xfd]).toOption.map
      (fun level =>
        let session := (Session.mk level []).afterAll .standard
          [.seed [⟨"HALL", "GUARD", 1, .origin, 0⟩], .invoke 0 .self, .invoke 0 (.live 0)]
        [session.actor? 0 .self, session.actor? 0 (.live 0)].map
          (Option.map fun actor => actor.control.stateName)) =
      some [some "Terminated", some "Blocked"] := by decide +kernel
  rw [hlevel] at hstates
  simp only [Except.toOption, Option.map_some, List.map_cons, List.map_nil, Option.some.injEq,
    List.cons.injEq, Option.map_eq_some_iff, and_true] at hstates
  obtain ⟨⟨hall, hself, hended⟩, guard, hlive, hblocked⟩ := hstates
  have hrest : hall.control.AtRest := (Control.atRest_iff _).mpr (.inr hended)
  have hwaits : guard.control.Waits := (Control.waits_iff _).mpr hblocked
  exact ⟨level, hall, guard, hlevel,
    ⟨hself, hrest, (stays_afterAll hself .standard).1 hrest _⟩, hlive, hwaits,
    ((stays_afterAll hlive .standard).2 hwaits).2.2 _ (by decide) (by decide)⟩

end Session

end LevelScript
