import LevelScript.Proofs.Building
import LevelScript.Proofs.Growth
import LevelScript.Proofs.Moves

/-!
Who owns which actor.

Every arena knows its own index, stands for itself through an actor of its name, and owns the actors
that live in it.  Whatever is done to a level, it stays so, no actor is lost or exchanged, and every
actor in an arena has grown from a newcomer: one that was placed there or ordered by a script.
-/

namespace LevelScript

/-! ### Changes of an arena -/

/-- An actor as it joins an arena: placed from outside, or ordered by a script in the arena. -/
def Actor.Newcomer (settings : Settings) (count index : Nat) (actor : Actor) : Prop :=
  (∃ placement, actor = Play.placedActor settings index placement) ∨
    ∃ (stage : Stage) (order : SpawnOrder), stage.settings = settings ∧ stage.arena = index ∧
      (∀ target, order.kind = .door target → target < count) ∧ actor = order.actor stage

/-- An actor that has grown from a newcomer. -/
def Actor.Settled (settings : Settings) (count index : Nat) (actor : Actor) : Prop :=
  ∃ newcomer : Actor, newcomer.Newcomer settings count index ∧ newcomer.Grew actor

theorem Actor.Settled.grew {settings : Settings} {count index : Nat} {a b : Actor}
    (h : a.Settled settings count index) (hgrew : a.Grew b) : b.Settled settings count index := by
  obtain ⟨newcomer, hnew, hold⟩ := h
  exact ⟨newcomer, hnew, hold.trans hgrew⟩

theorem Stage.Offspring.settled {stage : Stage} {actor : Actor} (h : stage.Offspring actor) :
    actor.Settled stage.settings stage.arenas.length stage.arena := by
  obtain ⟨order, htarget, hgrew⟩ := h
  exact ⟨order.actor stage, .inr ⟨stage, order, rfl, rfl, htarget, rfl⟩, hgrew⟩

/-- What a newcomer is, besides its name and number. -/
theorem Actor.Newcomer.owned {settings : Settings} {count index : Nat} {actor : Actor}
    (h : actor.Newcomer settings count index) :
    actor.arena = index ∧ actor.isArena = false ∧
      ∀ target, actor.kind.role = .door target → target < count := by
  rcases h with ⟨placement, rfl⟩ | ⟨stage, order, rfl, rfl, htarget, rfl⟩
  · refine ⟨rfl, rfl, ?_⟩
    intro target hrole
    cases hrole
  · unfold SpawnOrder.actor
    cases hkind : order.kind with
    | plain => exact ⟨rfl, rfl, by simp [Actor.new, ActorKind.role]⟩
    | pickup => exact ⟨rfl, rfl, by simp [Actor.new, ActorKind.role]⟩
    | door target =>
        refine ⟨rfl, rfl, ?_⟩
        intro target' hrole
        cases hrole
        exact htarget target hkind

theorem Actor.Settled.owned {settings : Settings} {count index : Nat} {actor : Actor}
    (h : actor.Settled settings count index) :
    actor.arena = index ∧ actor.isArena = false ∧
      ∀ target, actor.kind.role = .door target → target < count := by
  obtain ⟨newcomer, hnew, hgrew⟩ := h
  rw [hgrew.arena_eq, hgrew.isArena_eq, hgrew.role_eq]
  exact hnew.owned

namespace Arena

/-- The arena at an index of a level with so many arenas, with its actors in order. -/
structure Orderly (settings : Settings) (count index : Nat) (arena : Arena) : Prop where
  id_eq : arena.id = index
  self_isArena : arena.self.isArena = true
  self_name : arena.self.name = arena.name
  self_arena : arena.self.arena = index
  self_role : arena.self.kind.role = .plain
  live : ∀ actor ∈ arena.live, actor.Settled settings count index

/-- The second arena is the first one at a later time: the same arena with the same tables, and each
of its actors has grown on its seat. -/
structure Grew (a b : Arena) : Prop where
  id_eq : b.id = a.id
  name_eq : b.name = a.name
  music_eq : b.music = a.music
  setups_eq : b.setups = a.setups
  inits_eq : b.inits = a.inits
  self : a.self.Grew b.self
  live : ∀ (i : Nat) (actor : Actor), a.live[i]? = some actor →
    ∃ actor', b.live[i]? = some actor' ∧ actor.Grew actor'

theorem Grew.refl (arena : Arena) : arena.Grew arena where
  id_eq := rfl
  name_eq := rfl
  music_eq := rfl
  setups_eq := rfl
  inits_eq := rfl
  self := .refl _
  live _ actor hactor := ⟨actor, hactor, .refl _⟩

theorem Grew.trans {a b c : Arena} (hab : a.Grew b) (hbc : b.Grew c) : a.Grew c where
  id_eq := hbc.id_eq.trans hab.id_eq
  name_eq := hbc.name_eq.trans hab.name_eq
  music_eq := hbc.music_eq.trans hab.music_eq
  setups_eq := hbc.setups_eq.trans hab.setups_eq
  inits_eq := hbc.inits_eq.trans hab.inits_eq
  self := hab.self.trans hbc.self
  live i actor hactor := by
    obtain ⟨actor', hactor', hgrew⟩ := hab.live i actor hactor
    obtain ⟨actor'', hactor'', hgrew'⟩ := hbc.live i actor' hactor'
    exact ⟨actor'', hactor'', hgrew.trans hgrew'⟩

/-- An actor that has grown is put back on its seat. -/
theorem setActor_grew {arena : Arena} {seat : Seat} {actor actor' : Actor}
    (hseat : arena.actor? seat = some actor) (hgrew : actor.Grew actor') :
    arena.Grew (arena.setActor seat actor') := by
  cases seat with
  | self =>
      cases hseat
      exact ⟨rfl, rfl, rfl, rfl, rfl, hgrew, fun _ old hold => ⟨old, hold, .refl _⟩⟩
  | live i =>
      refine ⟨rfl, rfl, rfl, rfl, rfl, .refl _, ?_⟩
      intro j old hold
      simp only [actor?] at hseat
      by_cases hij : i = j
      · subst hij
        rw [hseat] at hold
        cases hold
        have hlt := (Array.getElem?_eq_some_iff.mp hseat).1
        exact ⟨actor', by simp [setActor, hlt], hgrew⟩
      · exact ⟨old, by simpa [setActor, Array.getElem?_setIfInBounds, hij] using hold, .refl _⟩

theorem append_grew (arena : Arena) (actors : Array Actor) : arena.Grew (arena.append actors) := by
  refine ⟨rfl, rfl, rfl, rfl, rfl, .refl _, ?_⟩
  intro i actor hactor
  have hlt := (Array.getElem?_eq_some_iff.mp hactor).1
  exact ⟨actor, by rw [append, Array.getElem?_append_left hlt, hactor], .refl _⟩

theorem withVars_grew (arena : Arena) (vars : Vars) : arena.Grew (arena.withVars vars) :=
  ⟨rfl, rfl, rfl, rfl, rfl, .refl _, fun _ actor hactor => ⟨actor, hactor, .refl _⟩⟩

theorem keepLog_grew (arena : Arena) (name : String) (log : Array TraceLine) :
    arena.Grew (arena.keepLog name log) :=
  ⟨rfl, rfl, rfl, rfl, rfl, .refl _, fun _ actor hactor => ⟨actor, hactor, .refl _⟩⟩

namespace Orderly

variable {settings : Settings} {count index : Nat} {arena : Arena}

theorem setActor (h : arena.Orderly settings count index) {seat : Seat} {actor actor' : Actor}
    (hseat : arena.actor? seat = some actor) (hgrew : actor.Grew actor') :
    (arena.setActor seat actor').Orderly settings count index := by
  cases seat with
  | self =>
      cases hseat
      exact ⟨h.id_eq, hgrew.isArena_eq.trans h.self_isArena, hgrew.name_eq.trans h.self_name,
        hgrew.arena_eq.trans h.self_arena, hgrew.role_eq.trans h.self_role, h.live⟩
  | live i =>
      refine ⟨h.id_eq, h.self_isArena, h.self_name, h.self_arena, h.self_role, ?_⟩
      intro other hother
      rcases Array.mem_or_eq_of_mem_setIfInBounds hother with hold | rfl
      · exact h.live other hold
      · exact (h.live actor (Array.mem_of_getElem? hseat)).grew hgrew

theorem append (h : arena.Orderly settings count index) {actors : Array Actor}
    (hactors : ∀ actor ∈ actors, actor.Settled settings count index) :
    (arena.append actors).Orderly settings count index := by
  refine ⟨h.id_eq, h.self_isArena, h.self_name, h.self_arena, h.self_role, ?_⟩
  intro actor hactor
  rcases Array.mem_append.mp hactor with hold | hnew
  · exact h.live actor hold
  · exact hactors actor hnew

theorem withVars (h : arena.Orderly settings count index) (vars : Vars) :
    (arena.withVars vars).Orderly settings count index :=
  ⟨h.id_eq, h.self_isArena, h.self_name, h.self_arena, h.self_role, h.live⟩

theorem keepLog (h : arena.Orderly settings count index) (name : String)
    (log : Array TraceLine) : (arena.keepLog name log).Orderly settings count index :=
  ⟨h.id_eq, h.self_isArena, h.self_name, h.self_arena, h.self_role, h.live⟩

theorem actor_arena (h : arena.Orderly settings count index) {seat : Seat} {actor : Actor}
    (hseat : arena.actor? seat = some actor) : actor.arena = index := by
  cases seat with
  | self =>
      cases hseat
      exact h.self_arena
  | live i => exact (h.live actor (Array.mem_of_getElem? hseat)).owned.1

end Orderly

end Arena

/-! ### Changes of a level -/

namespace Level

/-- Every arena is where it says it is, stands for itself, and owns the actors that live in it;
every door leads to an arena. -/
structure WellOwned (level : Level) : Prop where
  id_eq : ∀ (i : Nat) (arena : Arena), level.arenas[i]? = some arena → arena.id = i
  self : ∀ (i : Nat) (arena : Arena), level.arenas[i]? = some arena →
    arena.self.isArena = true ∧ arena.self.name = arena.name ∧ arena.self.arena = i
  live : ∀ (i : Nat) (arena : Arena), level.arenas[i]? = some arena →
    ∀ actor ∈ arena.live, actor.arena = i ∧ actor.isArena = false
  door : ∀ (i : Nat) (arena : Arena), level.arenas[i]? = some arena →
    ∀ seat actor, arena.actor? seat = some actor →
      ∀ door, actor.kind = .door door → door.target < level.arenas.size

/-- Every arena is orderly. -/
def Orderly (settings : Settings) (level : Level) : Prop :=
  ∀ (i : Nat) (arena : Arena), level.arenas[i]? = some arena →
    arena.Orderly settings level.arenas.size i

/-- The second level is the first one at a later time: the same level with the same arenas, in each
of which every actor has grown on its seat. -/
structure Grew (a b : Level) : Prop where
  name_eq : b.name = a.name
  fileSize_eq : b.fileSize = a.fileSize
  bytes_eq : b.bytes = a.bytes
  meshes_eq : b.meshes = a.meshes
  scripts_eq : b.scripts = a.scripts
  size_eq : b.arenas.size = a.arenas.size
  arena : ∀ (i : Nat) (arena : Arena), a.arenas[i]? = some arena →
    ∃ arena', b.arenas[i]? = some arena' ∧ arena.Grew arena'

theorem Grew.refl (level : Level) : level.Grew level :=
  ⟨rfl, rfl, rfl, rfl, rfl, rfl, fun _ arena harena => ⟨arena, harena, .refl _⟩⟩

theorem Grew.trans {a b c : Level} (hab : a.Grew b) (hbc : b.Grew c) : a.Grew c where
  name_eq := hbc.name_eq.trans hab.name_eq
  fileSize_eq := hbc.fileSize_eq.trans hab.fileSize_eq
  bytes_eq := hbc.bytes_eq.trans hab.bytes_eq
  meshes_eq := hbc.meshes_eq.trans hab.meshes_eq
  scripts_eq := hbc.scripts_eq.trans hab.scripts_eq
  size_eq := hbc.size_eq.trans hab.size_eq
  arena i arena harena := by
    obtain ⟨arena', harena', hgrew⟩ := hab.arena i arena harena
    obtain ⟨arena'', harena'', hgrew'⟩ := hbc.arena i arena' harena'
    exact ⟨arena'', harena'', hgrew.trans hgrew'⟩

theorem Orderly.wellOwned {settings : Settings} {level : Level} (h : level.Orderly settings) :
    level.WellOwned where
  id_eq i arena harena := (h i arena harena).id_eq
  self i arena harena :=
    ⟨(h i arena harena).self_isArena, (h i arena harena).self_name, (h i arena harena).self_arena⟩
  live i arena harena actor hactor :=
    ⟨((h i arena harena).live actor hactor).owned.1,
      ((h i arena harena).live actor hactor).owned.2.1⟩
  door i arena harena seat actor hseat door hdoor := by
    have hrole : actor.kind.role = .door door.target := by
      rw [hdoor]
      rfl
    cases seat with
    | self =>
        cases hseat
        rw [(h i arena harena).self_role] at hrole
        cases hrole
    | live k =>
        have hsettled := (h i arena harena).live actor (Array.mem_of_getElem? hseat)
        exact hsettled.owned.2.2 door.target hrole

end Level

namespace Session

theorem updateArena_getElem? (session : Session) (index : Nat) (update : Arena → Arena) (i : Nat) :
    (session.updateArena index update).level.arenas[i]? =
      if index = i then (session.level.arenas[i]?).map update else session.level.arenas[i]? :=
  Array.getElem?_modify

@[simp]
theorem updateArena_size (session : Session) (index : Nat) (update : Arena → Arena) :
    (session.updateArena index update).level.arenas.size = session.level.arenas.size := by
  simp [updateArena]

theorem updateArena_grew {session : Session} {index : Nat} {update : Arena → Arena}
    (hupdate : ∀ arena, session.level.arenas[index]? = some arena → arena.Grew (update arena)) :
    session.level.Grew (session.updateArena index update).level := by
  refine ⟨rfl, rfl, rfl, rfl, rfl, updateArena_size session index update, ?_⟩
  intro i arena harena
  rw [updateArena_getElem?, harena]
  by_cases hi : index = i
  · subst hi
    exact ⟨update arena, by simp, hupdate arena harena⟩
  · exact ⟨arena, by simp [hi], .refl _⟩

theorem updateArena_orderly {settings : Settings} {session : Session} {index : Nat}
    {update : Arena → Arena} (h : session.level.Orderly settings)
    (hupdate : ∀ arena, session.level.arenas[index]? = some arena →
      arena.Orderly settings session.level.arenas.size index →
      (update arena).Orderly settings session.level.arenas.size index) :
    (session.updateArena index update).level.Orderly settings := by
  intro i arena harena
  rw [updateArena_getElem?] at harena
  rw [updateArena_size]
  by_cases hi : index = i
  · subst hi
    simp only [↓reduceIte, Option.map_eq_some_iff] at harena
    obtain ⟨old, hold, rfl⟩ := harena
    exact hupdate old hold (h index old hold)
  · simp only [hi, ↓reduceIte] at harena
    exact h i arena harena

theorem share_grew (session : Session) (index : Nat) (world : World) :
    session.level.Grew (session.share index world).level := by
  have hvars := updateArena_grew fun arena (_ : session.level.arenas[index]? = some arena) =>
    arena.withVars_grew world.arenaVars
  exact hvars.trans ⟨rfl, rfl, rfl, rfl, rfl, rfl, fun _ arena harena => ⟨arena, harena, .refl _⟩⟩

theorem share_orderly {settings : Settings} {session : Session} (h : session.level.Orderly settings)
    (index : Nat) (world : World) : (session.share index world).level.Orderly settings :=
  updateArena_orderly h fun _ _ harena => harena.withVars world.arenaVars

/-- A turn in the arena where the actor sits changes that arena only. -/
theorem takeTurn_getElem? (session : Session) (index : Nat) (seat : Seat) (scene : Scene)
    (i : Nat) :
    (session.takeTurn index seat index scene).level.arenas[i]? =
      if index = i then
        (session.level.arenas[i]?).map fun arena =>
          ((arena.setActor seat scene.actor).append scene.spawned).withVars scene.world.arenaVars
      else session.level.arenas[i]? := by
  simp only [takeTurn, share, updateArena_getElem?]
  split
  · simp only [Option.map_map, Function.comp_def]
  · rfl

theorem stage_arenas_length (session : Session) (settings : Settings) (arena : Arena) (index : Nat)
    (rehearsal : Bool) :
    (session.stage settings arena index rehearsal).arenas.length = session.level.arenas.size := by
  simp [stage, Level.arenaNames]

theorem actor?_eq_some {session : Session} {index : Nat} {seat : Seat} {actor : Actor}
    (h : session.actor? index seat = some actor) :
    ∃ arena, session.level.arenas[index]? = some arena ∧ arena.actor? seat = some actor := by
  unfold actor? at h
  cases harena : session.level.arenas[index]? with
  | none => simp [harena] at h
  | some arena => exact ⟨arena, rfl, by simpa [harena] using h⟩

/-! ### Every move -/

/-- The actors that something lets happen, on any stage, are offspring, and their actor grows. -/
structure Lawful (happen : Stage → Scene → Outcome) : Prop where
  grew : ∀ (stage : Stage) (scene : Scene), scene.actor.Grew (happen stage scene).2.actor
  offspring : ∀ (stage : Stage) (scene : Scene), ∀ actor ∈ (happen stage scene).2.spawned,
    actor ∈ scene.spawned ∨ stage.Offspring actor

theorem lawful_invoke : Lawful Stage.invoke :=
  ⟨Stage.invoke_grew, Stage.invoke_offspring⟩

theorem lawful_tick : Lawful Stage.tick :=
  ⟨Stage.tick_grew, Stage.tick_offspring⟩

variable {settings : Settings}

theorem offspring_settled {session : Session} {home : Arena} {index : Nat} {rehearsal : Bool}
    {actor : Actor} (h : (session.stage settings home index rehearsal).Offspring actor) :
    actor.Settled settings session.level.arenas.size index := by
  have hsettled := h.settled
  rwa [stage_arenas_length] at hsettled

theorem takeTurn_orderly {session : Session} (h : session.level.Orderly settings) {index : Nat}
    {seat : Seat} {actor : Actor} {home : Nat} {scene : Scene}
    (hactor : session.actor? index seat = some actor) (hgrew : actor.Grew scene.actor)
    (hspawned : ∀ new ∈ scene.spawned, new.Settled settings session.level.arenas.size home) :
    (session.takeTurn index seat home scene).level.Orderly settings ∧
      session.level.Grew (session.takeTurn index seat home scene).level := by
  obtain ⟨arena, harena, hseat⟩ := actor?_eq_some hactor
  constructor
  · apply share_orderly
    apply updateArena_orderly
    · apply updateArena_orderly h
      intro arena' harena' horderly
      rw [harena] at harena'
      cases harena'
      exact horderly.setActor hseat hgrew
    · intro _ _ horderly
      rw [updateArena_size] at horderly ⊢
      exact horderly.append hspawned
  · refine .trans ?_ (share_grew _ _ _)
    refine .trans ?_ (updateArena_grew fun old _ => old.append_grew _)
    apply updateArena_grew
    intro arena' harena'
    rw [harena] at harena'
    cases harena'
    exact Arena.setActor_grew hseat hgrew

theorem turn_orderly {session : Session} (h : session.level.Orderly settings) (index : Nat)
    (seat : Seat) {happen : Stage → Scene → Outcome} (hhappen : Lawful happen) :
    (session.turn settings index seat happen).level.Orderly settings ∧
      session.level.Grew (session.turn settings index seat happen).level := by
  unfold turn
  cases hactor : session.actor? index seat with
  | none => exact ⟨h, .refl _⟩
  | some actor =>
      dsimp only
      cases session.level.arenas[actor.arena]? with
      | none => exact ⟨h, .refl _⟩
      | some home =>
          have hspawned := hhappen.offspring (session.stage settings home actor.arena false)
            ⟨actor, session.world home, #[]⟩
          simp only [Array.not_mem_empty, false_or] at hspawned
          exact takeTurn_orderly h hactor (hhappen.grew _ ⟨actor, session.world home, #[]⟩)
            fun new hnew => offspring_settled (hspawned new hnew)

theorem placed_orderly {session : Session} (h : session.level.Orderly settings)
    (placement : Placement) :
    (session.placed settings placement).level.Orderly settings ∧
      session.level.Grew (session.placed settings placement).level := by
  unfold placed
  cases session.level.arenaIndex placement.arena with
  | error error => exact ⟨h, .refl _⟩
  | ok index =>
      dsimp only
      cases session.level.arenas[index]? with
      | none => exact ⟨h, .refl _⟩
      | some arena =>
          have hfaithful := settle_faithful (session.stage settings arena index false)
            settings.maxCallDepth
          have hgrew : (Play.placedActor settings index placement).Grew
              (session.placing settings placement index arena).2.actor := hfaithful.grew _ _ _
          have hspawned : ∀ actor ∈ (session.placing settings placement index arena).2.spawned,
              (session.stage settings arena index false).Offspring actor := hfaithful.spawned _ _ _
          dsimp only
          constructor
          · apply share_orderly
            apply updateArena_orderly h
            intro _ _ horderly
            apply horderly.append
            intro actor hactor
            simp only [Array.mem_append, List.mem_toArray, List.mem_singleton] at hactor
            rcases hactor with rfl | hnew
            · exact ⟨_, .inl ⟨placement, rfl⟩, hgrew⟩
            · exact offspring_settled (hspawned actor hnew)
          · exact (updateArena_grew fun old _ => old.append_grew _).trans (share_grew _ _ _)

theorem rehearsed_orderly {session : Session} (h : session.level.Orderly settings) (index : Nat)
    (entry : OffsetEntry) :
    (session.rehearsed settings index entry).level.Orderly settings ∧
      session.level.Grew (session.rehearsed settings index entry).level := by
  unfold rehearsed
  cases session.level.arenas[index]? with
  | none => exact ⟨h, .refl _⟩
  | some arena =>
      dsimp only
      split
      · exact ⟨share_orderly h _ _, share_grew _ _ _⟩
      · constructor
        · apply share_orderly
          apply updateArena_orderly h
          exact fun _ _ horderly => horderly.keepLog _ _
        · exact (updateArena_grew fun old _ => old.keepLog_grew _ _).trans (share_grew _ _ _)

/-- Every move keeps a level orderly and lets it grow. -/
theorem move_orderly (session : Session) (move : Move) (h : session.level.Orderly settings) :
    (session.move settings move).level.Orderly settings ∧
      session.level.Grew (session.move settings move).level := by
  cases move with
  | place placement =>
      rw [move_place]
      exact placed_orderly h placement
  | invoke index seat =>
      rw [move_invoke]
      exact turn_orderly h index seat lawful_invoke
  | tick index seat =>
      rw [move_tick]
      exact turn_orderly h index seat lawful_tick
  | rehearse index entry =>
      rw [move_rehearse]
      exact rehearsed_orderly h index entry

/-- So does every operation. -/
theorem after_orderly {session : Session} (h : session.level.Orderly settings)
    (operation : Operation) :
    (session.after settings operation).level.Orderly settings ∧
      session.level.Grew (session.after settings operation).level := by
  apply after_induction fun current =>
    current.level.Orderly settings ∧ session.level.Grew current.level
  · intro current move hcurrent
    have hmoved := move_orderly current move hcurrent.1
    exact ⟨hmoved.1, hcurrent.2.trans hmoved.2⟩
  · exact ⟨h, .refl _⟩

/-- So do moves in turn. -/
theorem moves_orderly {session : Session} (h : session.level.Orderly settings)
    (moves : List Move) :
    (session.moves settings moves).level.Orderly settings ∧
      session.level.Grew (session.moves settings moves).level := by
  apply moves_induction fun current =>
    current.level.Orderly settings ∧ session.level.Grew current.level
  · intro current move hcurrent
    have hmoved := move_orderly current move hcurrent.1
    exact ⟨hmoved.1, hcurrent.2.trans hmoved.2⟩
  · exact ⟨h, .refl _⟩

/-- And so do all operations in turn. -/
theorem afterAll_orderly {session : Session} (h : session.level.Orderly settings)
    (operations : List Operation) :
    (session.afterAll settings operations).level.Orderly settings ∧
      session.level.Grew (session.afterAll settings operations).level := by
  rw [afterAll_eq_moves]
  exact moves_orderly h _

end Session

/-! ### From the start -/

/-- A level is built orderly: every arena has its own actor, and nobody lives there yet. -/
theorem Level.build_orderly {built : Settings} {container : Container} {bytes : Bytes}
    {level : Level} (hbuild : build built container bytes = .ok level) (settings : Settings) :
    level.Orderly settings := by
  obtain ⟨reads, hexplore⟩ := build_eq_ok hbuild
  obtain ⟨setups, inits, _, _, hfirst⟩ := getElem?_of_explore hexplore
  intro i arena harena
  obtain ⟨record, _, rfl⟩ := hfirst i arena harena
  exact ⟨rfl, rfl, rfl, rfl, rfl, fun actor hactor => absurd hactor (Array.not_mem_empty actor)⟩

/-- Whatever was done to a level since it was built, and whether or not it failed: every further
operation finds the level well owned, leaves it well owned, and only lets it grow.  Every actor in
an arena is one that was placed or ordered there, so no other actor ever shows up on a seat. -/
theorem Level.wellOwned_and_grew_after {built : Settings} {container : Container} {bytes : Bytes}
    {level : Level} (hbuild : build built container bytes = .ok level) (settings : Settings)
    (reads : List Span) (operations : List Operation) (operation : Operation) :
    let before := (Session.mk level reads).afterAll settings operations
    let after := before.after settings operation
    before.level.WellOwned ∧ after.level.WellOwned ∧ before.level.Grew after.level ∧
      ∀ (i : Nat) (arena : Arena), after.level.arenas[i]? = some arena →
        ∀ actor ∈ arena.live, actor.Settled settings after.level.arenas.size i := by
  intro before after
  have hbefore : before.level.Orderly settings :=
    (Session.afterAll_orderly (build_orderly hbuild settings) operations).1
  obtain ⟨hafter, hgrew⟩ := Session.after_orderly hbefore operation
  exact ⟨hbefore.wellOwned, hafter.wellOwned, hgrew,
    fun i arena harena => (hafter i arena harena).live⟩

/-- A container with one arena, in which guards have a setup script and the first one an own. -/
def Container.guarded : Container :=
  ⟨"LEVEL", 0, [("HALL$GUARD_1", 3)], [], [("HALL$GUARD", 2)], [⟨"HALL", ("", ""), 1⟩]⟩

/-- A guard is placed and set up, its arena is played, and then delays run out. -/
theorem Level.wellOwned_and_grew_after_guarded :
    ∃ level, build .standard .guarded #[0x01, 0x0b, 0x05, 0xfd, 0xff] = .ok level ∧
      let before := (Session.mk level []).afterAll .standard
        [.seed [⟨"HALL", "GUARD", 1, .origin, 0⟩], .loadPasses]
      let after := before.after .standard .ticks
      before.level.WellOwned ∧ after.level.WellOwned ∧ before.level.Grew after.level ∧
        ∀ (i : Nat) (arena : Arena), after.level.arenas[i]? = some arena →
          ∀ actor ∈ arena.live, actor.Settled .standard after.level.arenas.size i := by
  have hbuild : ∃ level, build .standard .guarded #[0x01, 0x0b, 0x05, 0xfd, 0xff] = .ok level :=
    ⟨_, rfl⟩
  obtain ⟨level, hlevel⟩ := hbuild
  exact ⟨level, hlevel, wellOwned_and_grew_after hlevel .standard [] _ .ticks⟩

end LevelScript
