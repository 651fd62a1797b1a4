import LevelScript.Proofs.Chronicle

/-!
What holds of every actor of a level.

A property of actors between invocations that every run keeps, and that every newcomer has once it
is settled in, is a property of all actors of a level, however the level is played.
-/

namespace LevelScript

/-- A property of actors between invocations that whatever happens on a stage keeps. -/
structure Stage.Upholds (stage : Stage) (holds : Actor → Prop) : Prop where
  invoke : ∀ scene : Scene, holds scene.actor → holds (stage.invoke scene).2.actor
  tick : ∀ scene : Scene, holds scene.actor → holds (stage.tick scene).2.actor
  placed : ∀ (placement : Placement) (init : UInt32) (world : World),
    holds (settle stage stage.settings.maxCallDepth
      (Play.placedActor stage.settings stage.arena placement) init world).2.actor
  /-- What the setup of an actor that is placed spawns. -/
  around : ∀ (placement : Placement) (init : UInt32) (world : World),
    ∀ actor ∈ (settle stage stage.settings.maxCallDepth
      (Play.placedActor stage.settings stage.arena placement) init world).2.spawned, holds actor
  brings : stage.Brings (settle stage stage.settings.maxCallDepth) holds

/-! ### Actors on their seats -/

namespace Arena

theorem actor?_setActor {arena : Arena} {seat seat' : Seat} {actor actor' : Actor}
    (h : (arena.setActor seat actor).actor? seat' = some actor') :
    arena.actor? seat' = some actor' ∨ actor' = actor := by
  cases seat with
  | self =>
      cases seat' with
      | self => exact .inr (Option.some.inj h).symm
      | live k => exact .inl h
  | live i =>
      cases seat' with
      | self => exact .inl h
      | live k =>
          simp only [actor?, setActor, Array.getElem?_setIfInBounds] at h ⊢
          split at h
          · split at h
            · exact .inr (Option.some.inj h).symm
            · cases h
          · exact .inl h

theorem actor?_append {arena : Arena} {actors : Array Actor} {seat : Seat} {actor : Actor}
    (h : (arena.append actors).actor? seat = some actor) :
    arena.actor? seat = some actor ∨ actor ∈ actors := by
  cases seat with
  | self => exact .inl h
  | live k =>
      simp only [actor?, append, Array.getElem?_append] at h ⊢
      split at h
      · exact .inl h
      · exact .inr (Array.mem_of_getElem? h)

theorem actor?_withVars (arena : Arena) (vars : Vars) (seat : Seat) :
    (arena.withVars vars).actor? seat = arena.actor? seat := by
  cases seat <;> rfl

end Arena

namespace Session

/-- Every actor of every arena has a property. -/
def Everywhere (holds : Actor → Prop) (session : Session) : Prop :=
  ∀ (index : Nat) (seat : Seat) (actor : Actor), session.actor? index seat = some actor →
    holds actor

variable {holds : Actor → Prop} {session : Session} {settings : Settings}

/-- A change of an arena after which every actor is an old one, or has the property. -/
theorem Everywhere.updateArena (h : session.Everywhere holds) {index : Nat}
    {update : Arena → Arena}
    (hupdate : ∀ (arena : Arena) (seat : Seat) (actor : Actor),
      (update arena).actor? seat = some actor → arena.actor? seat = some actor ∨ holds actor) :
    (session.updateArena index update).Everywhere holds := by
  intro i seat actor hactor
  obtain ⟨arena, harena, hseat⟩ := actor?_eq_some hactor
  rw [updateArena_getElem?] at harena
  by_cases hi : index = i
  · simp only [hi, ↓reduceIte, Option.map_eq_some_iff] at harena
    obtain ⟨old, hold, rfl⟩ := harena
    rcases hupdate old seat actor hseat with hsame | hnew
    · exact h i seat actor (by simpa [Session.actor?, hold] using hsame)
    · exact hnew
  · rw [if_neg hi] at harena
    exact h i seat actor (by simpa [Session.actor?, harena] using hseat)

theorem Everywhere.share (h : session.Everywhere holds) (index : Nat) (world : World) :
    (session.share index world).Everywhere holds := by
  have hvars : (session.updateArena index (·.withVars world.arenaVars)).Everywhere holds := by
    apply h.updateArena
    intro arena seat actor hactor
    rw [arena.actor?_withVars] at hactor
    exact .inl hactor
  exact hvars

theorem Everywhere.append (h : session.Everywhere holds) (index : Nat) {actors : Array Actor}
    (hactors : ∀ actor ∈ actors, holds actor) :
    (session.updateArena index (·.append actors)).Everywhere holds := by
  apply h.updateArena
  intro arena seat actor hactor
  exact (Arena.actor?_append hactor).imp_right (hactors actor)

theorem Everywhere.turn (h : session.Everywhere holds) {happen : Stage → Scene → Outcome}
    (hown : ∀ (home : Nat) (arena : Arena), session.level.arenas[home]? = some arena →
      ∀ scene : Scene, holds scene.actor →
        holds (happen (session.stage settings arena home false) scene).2.actor)
    (hspawned : ∀ (home : Nat) (arena : Arena), session.level.arenas[home]? = some arena →
      ∀ scene : Scene, ∀ actor ∈ (happen (session.stage settings arena home false) scene).2.spawned,
        actor ∈ scene.spawned ∨ holds actor)
    (index : Nat) (seat : Seat) :
    (session.turn settings index seat happen).Everywhere holds := by
  unfold Session.turn
  cases hactor : session.actor? index seat with
  | none => exact h
  | some actor =>
      dsimp only
      cases hhome : session.level.arenas[actor.arena]? with
      | none => exact h
      | some home =>
          have hchanged := hown _ home hhome ⟨actor, session.world home, #[]⟩
            (h index seat actor hactor)
          have hnew := hspawned _ home hhome ⟨actor, session.world home, #[]⟩
          simp only [Array.not_mem_empty, false_or] at hnew
          apply Everywhere.share
          refine Everywhere.append ?_ _ hnew
          apply h.updateArena
          intro arena seat' actor' hactor'
          rcases Arena.actor?_setActor hactor' with hold | rfl
          · exact .inl hold
          · exact .inr hchanged

theorem Everywhere.placed (h : session.Everywhere holds)
    (hstage : ∀ (home : Nat) (arena : Arena), session.level.arenas[home]? = some arena →
      (session.stage settings arena home false).Upholds holds) (placement : Placement) :
    (session.placed settings placement).Everywhere holds := by
  unfold Session.placed
  cases session.level.arenaIndex placement.arena with
  | error error => exact h
  | ok index =>
      dsimp only
      cases harena : session.level.arenas[index]? with
      | none => exact h
      | some arena =>
          have hupholds := hstage index arena harena
          apply Everywhere.share
          apply h.append
          intro actor hactor
          simp only [Array.mem_append, List.mem_toArray, List.mem_singleton] at hactor
          rcases hactor with rfl | hnew
          · exact hupholds.placed _ _ _
          · exact hupholds.around _ _ _ actor hnew

theorem Everywhere.rehearsed (h : session.Everywhere holds) (index : Nat) (entry : OffsetEntry) :
    (session.rehearsed settings index entry).Everywhere holds := by
  intro i seat actor hactor
  obtain ⟨arena, harena, hseat⟩ := actor?_eq_some hactor
  obtain ⟨old, hold, hsame⟩ := rehearsed_same session settings index entry i arena harena
  apply h i seat actor
  simpa [Session.actor?, hold, ← hsame] using hseat

/-- What every stage of a session upholds, every move keeps true of all actors. -/
theorem Everywhere.move (h : session.Everywhere holds)
    (hstage : ∀ (home : Nat) (arena : Arena), session.level.arenas[home]? = some arena →
      (session.stage settings arena home false).Upholds holds) (move : Move) :
    (session.move settings move).Everywhere holds := by
  cases move with
  | place placement =>
      rw [move_place]
      exact h.placed hstage placement
  | invoke index seat =>
      rw [move_invoke]
      exact h.turn (fun home arena harena => (hstage home arena harena).invoke)
        (fun home arena harena => Stage.invoke_brings (hstage home arena harena).brings) index seat
  | tick index seat =>
      rw [move_tick]
      exact h.turn (fun home arena harena => (hstage home arena harena).tick)
        (fun home arena harena => Stage.tick_brings (hstage home arena harena).brings) index seat
  | rehearse index entry =>
      rw [move_rehearse]
      exact h.rehearsed index entry

end Session

/-- At first every actor of a level stands for its arena. -/
theorem Level.everywhere_of_build {built : Settings} {container : Container} {bytes : Bytes}
    {level : Level} (hbuild : build built container bytes = .ok level) {holds : Actor → Prop}
    (hself : ∀ (index : Nat) (arena : Arena), level.arenas[index]? = some arena → holds arena.self)
    (reads : List Span) : (Session.mk level reads).Everywhere holds := by
  intro index seat actor hactor
  obtain ⟨arena, harena, hseat⟩ := Session.actor?_eq_some hactor
  cases seat with
  | self =>
      cases hseat
      exact hself index arena harena
  | live k =>
      obtain ⟨_, hexplore⟩ := build_eq_ok hbuild
      obtain ⟨setups, inits, _, _, hfirst⟩ := getElem?_of_explore hexplore
      obtain ⟨record, _, rfl⟩ := hfirst index arena harena
      simp [Arena.actor?, firstArena, Arena.new] at hseat

end LevelScript
