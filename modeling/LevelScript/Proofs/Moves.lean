import LevelScript.Play

/-!
Operations as sequences of moves.

The smallest things that happen to a session are moves: placing one actor, one invocation, one tick,
one rehearsal.  An operation makes the moves of its plan, one after the other, until one of them
fails.  So what every move preserves, every operation preserves.
-/

namespace LevelScript

/-- The smallest things that happen to a session. -/
inductive Move
  | place (placement : Placement)
  | invoke (index : Nat) (seat : Seat)
  | tick (index : Nat) (seat : Seat)
  | rehearse (index : Nat) (entry : OffsetEntry)
deriving DecidableEq, Repr, Inhabited

def Move.play (settings : Settings) : Move → Play Unit
  | place placement => Play.place settings placement
  | invoke index seat => Play.invoke settings index seat
  | tick index seat => Play.tick settings index seat
  | rehearse index entry => Play.rehearse settings index entry

namespace Play

variable {α β : Type}

/-- The result of a play and the session that it leaves behind. -/
def exec (play : Play α) (session : Session) : Except DataError α × Session :=
  play.run session

theorem exec_bind (play : Play α) (next : α → Play β) (session : Session) :
    (play >>= next).exec session =
      match play.exec session with
      | (.ok a, session') => (next a).exec session'
      | (.error e, session') => (.error e, session') := by
  simp only [exec, bind, ExceptT.bind, ExceptT.run, ExceptT.mk, StateT.bind]
  rcases play session with ⟨e | a, session'⟩ <;> rfl

theorem exec_get (session : Session) : (get : Play Session).exec session = (.ok session, session) :=
  rfl

theorem exec_forM_cons (play : α → Play Unit) (item : α) (items : List α) (session : Session) :
    ((item :: items).forM play).exec session =
      match (play item).exec session with
      | (.ok _, session') => (items.forM play).exec session'
      | (.error e, session') => (.error e, session') := by
  have hcons : (item :: items).forM play = (do play item; items.forM play) := by
    simp only [List.forM_eq_forM, List.forM_cons]
  rw [hcons, exec_bind]
  rcases (play item).exec session with ⟨e | u, session'⟩ <;> rfl

/-- The moves that are made from a session. -/
abbrev Plan := Session → List Move

/-- Makes moves until one fails. -/
def follow (settings : Settings) (moves : List Move) : Play Unit :=
  moves.forM (Move.play settings)

theorem exec_follow_cons (settings : Settings) (move : Move) (moves : List Move)
    (session : Session) :
    (follow settings (move :: moves)).exec session =
      match (move.play settings).exec session with
      | (.ok _, session') => (follow settings moves).exec session'
      | (.error e, session') => (.error e, session') :=
  exec_forM_cons (Move.play settings) move moves session

theorem exec_follow_append (settings : Settings) (moves more : List Move) (session : Session) :
    (follow settings (moves ++ more)).exec session =
      match (follow settings moves).exec session with
      | (.ok _, session') => (follow settings more).exec session'
      | (.error e, session') => (.error e, session') := by
  induction moves generalizing session with
  | nil => rfl
  | cons move moves ih =>
      rw [List.cons_append, exec_follow_cons, exec_follow_cons]
      rcases (move.play settings).exec session with ⟨e | u, session'⟩
      · rfl
      · exact ih session'

/-- A play that makes the moves of a plan and nothing else. -/
def Makes (settings : Settings) (play : Play Unit) (plan : Plan) : Prop :=
  ∀ session, play.exec session = (follow settings (plan session)).exec session

namespace Plan

/-- The moves of one plan, and then those of another from where the first one leads. -/
def andThen (settings : Settings) (first second : Plan) : Plan := fun session =>
  first session ++ second ((follow settings (first session)).exec session).2

/-- The moves of a plan for each item in turn. -/
def forEach (settings : Settings) (plan : α → Plan) : List α → Plan
  | [] => fun _ => []
  | item :: items => andThen settings (plan item) (forEach settings plan items)

/-- The moves of a plan, so many times over. -/
def repeated (settings : Settings) (plan : Plan) : Nat → Plan
  | 0 => fun _ => []
  | count + 1 => plan.andThen settings (repeated settings plan count)

end Plan

namespace Makes

variable {settings : Settings}

theorem move (move : Move) : Makes settings (move.play settings) fun _ => [move] := by
  intro session
  rw [exec_follow_cons]
  rcases (move.play settings).exec session with ⟨e | u, session'⟩ <;> rfl

theorem nil : Makes settings (pure ()) fun _ => [] :=
  fun _ => rfl

theorem bind {play next : Play Unit} {first second : Plan} (hplay : Makes settings play first)
    (hnext : Makes settings next second) :
    Makes settings (do play; next) (first.andThen settings second) := by
  intro session
  rw [exec_bind, hplay session, Plan.andThen, exec_follow_append]
  rcases (follow settings (first session)).exec session with ⟨e | u, session'⟩
  · rfl
  · exact hnext session'

theorem forM {play : α → Play Unit} {plan : α → Plan}
    (hplay : ∀ item, Makes settings (play item) (plan item)) (items : List α) :
    Makes settings (items.forM play) (Plan.forEach settings plan items) := by
  induction items with
  | nil => exact nil
  | cons item items ih => exact (hplay item).bind ih

theorem map (move : α → Move) (items : List α) :
    Makes settings (items.forM fun item => (move item).play settings) fun _ => items.map move := by
  intro session
  induction items generalizing session with
  | nil => rfl
  | cons item items ih =>
      rw [exec_forM_cons, List.map_cons, exec_follow_cons]
      rcases ((move item).play settings).exec session with ⟨e | u, session'⟩
      · rfl
      · exact ih session'

end Makes

end Play

/-! ### The plans of the operations -/

namespace Session

/-- How many live actors an arena has. -/
def liveCount (session : Session) (index : Nat) : Nat :=
  match session.level.arenas[index]? with
  | some arena => arena.live.size
  | none => 0

/-- The setup scripts of an arena. -/
def setupEntries (session : Session) (index : Nat) : List OffsetEntry :=
  match session.level.arenas[index]? with
  | some arena => arena.setups.entries
  | none => []

end Session

namespace Play.Plan

def pass (index : Nat) : Plan := fun session =>
  (List.range (session.liveCount index)).map fun i => .invoke index (.live i)

def rehearseAll (index : Nat) : Plan := fun session =>
  (session.setupEntries index).map (.rehearse index)

def loadArena (settings : Settings) (index : Nat) : Plan :=
  (pass index).andThen settings <| (rehearseAll index).andThen settings <|
    Plan.andThen settings (fun _ => [.invoke index .self]) (pass index)

def loadPasses (settings : Settings) : Plan := fun session =>
  forEach settings (loadArena settings) (List.range session.level.arenas.size) session

def tickLive (index : Nat) : Plan := fun session =>
  (List.range (session.liveCount index)).map fun i => .tick index (.live i)

def tickArena (settings : Settings) (index : Nat) : Plan :=
  Plan.andThen settings (fun _ => [.tick index .self]) (tickLive index)

def tickAll (settings : Settings) : Plan := fun session =>
  forEach settings (tickArena settings) (List.range session.level.arenas.size) session

def ticks (settings : Settings) : Plan :=
  repeated settings (tickAll settings) settings.tickIterations

def seed (placements : List Placement) : Plan := fun _ =>
  placements.map .place

def load (settings : Settings) (placements : List Placement) : Plan :=
  (seed placements).andThen settings <| (loadPasses settings).andThen settings (ticks settings)

end Play.Plan

/-- The moves that an operation makes. -/
def Operation.plan (settings : Settings) : Operation → Play.Plan
  | seed placements => Play.Plan.seed placements
  | loadPasses => Play.Plan.loadPasses settings
  | pass index => Play.Plan.pass index
  | ticks => Play.Plan.ticks settings
  | tick index seat => fun _ => [.tick index seat]
  | invoke index seat => fun _ => [.invoke index seat]

namespace Play

theorem exec_liveCount (index : Nat) (session : Session) :
    (liveCount index).exec session = (.ok (session.liveCount index), session) := rfl

theorem exec_arenaCount (session : Session) :
    arenaCount.exec session = (.ok session.level.arenas.size, session) := rfl

namespace Makes

variable (settings : Settings)

theorem pass (index : Nat) : Makes settings (Play.pass settings index) (Plan.pass index) := by
  intro session
  rw [Play.pass, exec_bind, exec_liveCount]
  exact map (fun i => .invoke index (.live i)) _ session

theorem rehearseAll (index : Nat) :
    Makes settings (Play.rehearseAll settings index) (Plan.rehearseAll index) := by
  intro session
  rw [Play.rehearseAll, exec_bind, exec_get, Plan.rehearseAll, Session.setupEntries]
  dsimp only
  cases session.level.arenas[index]? with
  | none => rfl
  | some arena => exact map (.rehearse index) _ session

theorem loadArena (index : Nat) :
    Makes settings (Play.loadArena settings index) (Plan.loadArena settings index) :=
  (pass settings index).bind <| (rehearseAll settings index).bind <|
    (move (.invoke index .self)).bind (pass settings index)

theorem loadPasses : Makes settings (Play.loadPasses settings) (Plan.loadPasses settings) := by
  intro session
  rw [Play.loadPasses, exec_bind, exec_arenaCount]
  exact forM (loadArena settings) _ session

theorem tickLive (index : Nat) :
    Makes settings
      (do let count ← Play.liveCount index
          (List.range count).forM fun i => Play.tick settings index (.live i))
      (Plan.tickLive index) := by
  intro session
  rw [exec_bind, exec_liveCount]
  exact map (fun i => .tick index (.live i)) _ session

theorem tickArena (index : Nat) :
    Makes settings (Play.tickArena settings index) (Plan.tickArena settings index) :=
  (move (.tick index .self)).bind (tickLive settings index)

theorem tickAll : Makes settings (Play.tickAll settings) (Plan.tickAll settings) := by
  intro session
  rw [Play.tickAll, exec_bind, exec_arenaCount]
  exact forM (tickArena settings) _ session

theorem repeated {play : Play Unit} {plan : Plan} (hplay : Makes settings play plan)
    (count : Nat) :
    Makes settings (Play.repeated play count) (Plan.repeated settings plan count) := by
  induction count with
  | zero => exact nil
  | succ count ih => exact hplay.bind ih

theorem ticks : Makes settings (Play.ticks settings) (Plan.ticks settings) :=
  repeated settings (tickAll settings) settings.tickIterations

theorem seed (placements : List Placement) :
    Makes settings (Play.seed settings placements) (Plan.seed placements) :=
  map .place placements

theorem load (placements : List Placement) :
    Makes settings (Play.load settings placements) (Plan.load settings placements) :=
  (seed settings placements).bind ((loadPasses settings).bind (ticks settings))

/-- Every operation makes the moves of its plan. -/
theorem operation (operation : Operation) :
    Makes settings (operation.play settings) (operation.plan settings) := by
  cases operation with
  | seed placements => exact seed settings placements
  | loadPasses => exact loadPasses settings
  | pass index => exact pass settings index
  | ticks => exact ticks settings
  | tick index seat => exact move (.tick index seat)
  | invoke index seat => exact move (.invoke index seat)

end Makes

end Play

/-! ### What a move does -/

namespace Session

/-- The session after a move, whether it failed or not. -/
def move (session : Session) (settings : Settings) (move : Move) : Session :=
  ((move.play settings).exec session).2

/-- The session after what happened to an actor on its seat: the actor is put back, the actors it
spawned join its arena, and what it shares is shared. -/
def takeTurn (session : Session) (index : Nat) (seat : Seat) (home : Nat) (scene : Scene) :
    Session :=
  ((session.updateArena index (·.setActor seat scene.actor)).updateArena home
    (·.append scene.spawned)).share home scene.world

/-- The session after something happened to the actor on a seat. -/
def turn (session : Session) (settings : Settings) (index : Nat) (seat : Seat)
    (happen : Stage → Scene → Outcome) : Session :=
  match session.actor? index seat with
  | none => session
  | some actor =>
    match session.level.arenas[actor.arena]? with
    | none => session
    | some home =>
      session.takeTurn index seat actor.arena
        (happen (session.stage settings home actor.arena false) ⟨actor, session.world home, #[]⟩).2

/-- What settling in a placed actor comes to. -/
def placing (session : Session) (settings : Settings) (placement : Placement) (index : Nat)
    (arena : Arena) : Outcome :=
  settle (session.stage settings arena index false) settings.maxCallDepth
    (Play.placedActor settings index placement) ((arena.inits.get? placement.localKey).getD 0)
    (session.world arena)

/-- The session after an actor was placed. -/
def placed (session : Session) (settings : Settings) (placement : Placement) : Session :=
  match session.level.arenaIndex placement.arena with
  | .error _ => session
  | .ok index =>
    match session.level.arenas[index]? with
    | none => session
    | some arena =>
      let scene := (session.placing settings placement index arena).2
      (session.updateArena index (·.append (#[scene.actor] ++ scene.spawned))).share index
        scene.world

/-- What a rehearsal comes to. -/
def rehearsal (session : Session) (settings : Settings) (index : Nat) (entry : OffsetEntry)
    (arena : Arena) : Outcome :=
  (session.stage settings arena index true).invoke
    ⟨(Play.understudy settings arena index entry.1).startAt entry.2, session.world arena, #[]⟩

/-- The session after a rehearsal: a fatal one leaves no log. -/
def rehearsed (session : Session) (settings : Settings) (index : Nat) (entry : OffsetEntry) :
    Session :=
  match session.level.arenas[index]? with
  | none => session
  | some arena =>
    match session.rehearsal settings index entry arena with
    | (some _, scene) => session.share index scene.world
    | (none, scene) =>
      (session.updateArena index (·.keepLog entry.1 scene.actor.log)).share index scene.world

theorem exec_withActor_snd (session : Session) (settings : Settings) (index : Nat) (seat : Seat)
    (happen : Stage → Scene → Outcome) :
    ((Play.withActor settings index seat happen).exec session).2 =
      session.turn settings index seat happen := by
  rw [Play.withActor, Play.exec_bind, Play.exec_get, turn]
  dsimp only
  cases session.actor? index seat with
  | none => rfl
  | some actor =>
      dsimp only
      cases session.level.arenas[actor.arena]? with
      | none => rfl
      | some home =>
          dsimp only
          rcases happen (session.stage settings home actor.arena false)
            ⟨actor, session.world home, #[]⟩ with ⟨_ | fatal, scene⟩ <;> rfl

theorem move_invoke (session : Session) (settings : Settings) (index : Nat) (seat : Seat) :
    session.move settings (.invoke index seat) = session.turn settings index seat Stage.invoke :=
  exec_withActor_snd session settings index seat Stage.invoke

theorem move_tick (session : Session) (settings : Settings) (index : Nat) (seat : Seat) :
    session.move settings (.tick index seat) = session.turn settings index seat Stage.tick :=
  exec_withActor_snd session settings index seat Stage.tick

theorem move_place (session : Session) (settings : Settings) (placement : Placement) :
    session.move settings (.place placement) = session.placed settings placement := by
  rw [move, Move.play, Play.place, Play.exec_bind, Play.exec_get, placed]
  dsimp only
  cases session.level.arenaIndex placement.arena with
  | error error => rfl
  | ok index =>
      dsimp only
      cases session.level.arenas[index]? with
      | none => rfl
      | some arena =>
          dsimp only [placing]
          rcases settle (session.stage settings arena index false) settings.maxCallDepth
            (Play.placedActor settings index placement)
            ((arena.inits.get? placement.localKey).getD 0) (session.world arena) with
            ⟨_ | fatal, scene⟩ <;> rfl

theorem move_rehearse (session : Session) (settings : Settings) (index : Nat)
    (entry : OffsetEntry) :
    session.move settings (.rehearse index entry) = session.rehearsed settings index entry := by
  rw [move, Move.play, Play.rehearse, Play.exec_bind, Play.exec_get, rehearsed]
  dsimp only
  cases session.level.arenas[index]? with
  | none => rfl
  | some arena =>
      dsimp only [rehearsal]
      rcases (session.stage settings arena index true).invoke
        ⟨(Play.understudy settings arena index entry.1).startAt entry.2, session.world arena, #[]⟩
        with ⟨_ | fatal, scene⟩ <;> rfl

end Session

/-! ### Induction over moves -/

/-- What each of some moves preserves, following them preserves. -/
theorem Play.follow_induction_of_mem {settings : Settings} (moves : List Move)
    (holds : Session → Prop)
    (hmove : ∀ session, ∀ move ∈ moves, holds session → holds (session.move settings move))
    {session : Session} (h : holds session) : holds ((follow settings moves).exec session).2 := by
  induction moves generalizing session with
  | nil => exact h
  | cons move moves ih =>
      have hnext := hmove session move List.mem_cons_self h
      rw [Session.move] at hnext
      rw [exec_follow_cons]
      rcases hmoved : (move.play settings).exec session with ⟨e | u, session'⟩
      · simpa [hmoved] using hnext
      · rw [hmoved] at hnext
        exact ih (fun session move hmem => hmove session move (List.mem_cons_of_mem _ hmem)) hnext

/-- What every move preserves, following moves preserves. -/
theorem Play.follow_induction {settings : Settings} (holds : Session → Prop)
    (hmove : ∀ session move, holds session → holds (session.move settings move))
    (moves : List Move) {session : Session} (h : holds session) :
    holds ((follow settings moves).exec session).2 :=
  follow_induction_of_mem moves holds (fun session move _ => hmove session move) h

/-- What every move preserves, every operation preserves. -/
theorem Session.after_induction {settings : Settings} (holds : Session → Prop)
    (hmove : ∀ session move, holds session → holds (session.move settings move))
    (operation : Operation) {session : Session} (h : holds session) :
    holds (session.after settings operation) := by
  have hfollow := Play.follow_induction holds hmove (operation.plan settings session) h
  rwa [← Play.Makes.operation settings operation session] at hfollow

/-- The session after operations in turn; an operation that fails does not keep the next one from
being carried out. -/
def Session.afterAll (session : Session) (settings : Settings) (operations : List Operation) :
    Session :=
  operations.foldl (fun session operation => session.after settings operation) session

theorem Session.afterAll_induction {settings : Settings} (holds : Session → Prop)
    (hmove : ∀ session move, holds session → holds (session.move settings move))
    (operations : List Operation) {session : Session} (h : holds session) :
    holds (session.afterAll settings operations) := by
  induction operations generalizing session with
  | nil => exact h
  | cons operation operations ih => exact ih (after_induction holds hmove operation h)

/-! ### The moves that are made -/

/-- The session after moves in turn, whether they fail or not. -/
def Session.moves (session : Session) (settings : Settings) (moves : List Move) : Session :=
  moves.foldl (fun session move => session.move settings move) session

theorem Session.moves_append (session : Session) (settings : Settings) (moves more : List Move) :
    session.moves settings (moves ++ more) = (session.moves settings moves).moves settings more :=
  List.foldl_append

theorem Session.moves_induction {settings : Settings} (holds : Session → Prop)
    (hmove : ∀ session move, holds session → holds (session.move settings move))
    (moves : List Move) {session : Session} (h : holds session) :
    holds (session.moves settings moves) := by
  induction moves generalizing session with
  | nil => exact h
  | cons move moves ih => exact ih (hmove session move h)

/-- Those of some moves that are made when they are followed: all of them, or all up to the first
one that fails. -/
def Play.made (settings : Settings) : List Move → Session → List Move
  | [], _ => []
  | move :: moves, session =>
    match (move.play settings).exec session with
    | (.ok _, session') => move :: made settings moves session'
    | (.error _, _) => [move]

theorem Play.exec_follow_snd (settings : Settings) (moves : List Move) (session : Session) :
    ((follow settings moves).exec session).2 =
      session.moves settings (made settings moves session) := by
  induction moves generalizing session with
  | nil => rfl
  | cons move moves ih =>
      rw [exec_follow_cons, made]
      rcases hmoved : (move.play settings).exec session with ⟨e | u, session'⟩
      · simp [Session.moves, Session.move, hmoved]
      · have hsession' : session' = session.move settings move := by rw [Session.move, hmoved]
        dsimp only
        rw [ih session', hsession']
        rfl

/-- The moves that are made in operations in turn. -/
def Session.madeIn (session : Session) (settings : Settings) : List Operation → List Move
  | [] => []
  | operation :: operations =>
    Play.made settings (operation.plan settings session) session ++
      (session.after settings operation).madeIn settings operations

/-- Operations come to the moves that are made in them. -/
theorem Session.afterAll_eq_moves (session : Session) (settings : Settings)
    (operations : List Operation) :
    session.afterAll settings operations =
      session.moves settings (session.madeIn settings operations) := by
  induction operations generalizing session with
  | nil => rfl
  | cons operation operations ih =>
      have hafter : session.after settings operation =
          session.moves settings
            (Play.made settings (operation.plan settings session) session) := by
        rw [← Play.exec_follow_snd, ← Play.Makes.operation settings operation session]
        rfl
      rw [madeIn, moves_append, ← hafter, ← ih (session.after settings operation)]
      rfl

end LevelScript
