import LevelScript.Proofs.History
import LevelScript.Proofs.Ownership

/-!
The histories of all actors of a level at play.

A chronicle keeps a history for every seat, and the rehearsals keep theirs.  It is written move by
move, along the same moves that the session makes.  In every session that a level can be played to,
each actor has lived the history that the chronicle keeps for its seat.
-/

namespace LevelScript

/-! ### The stages of a level -/

namespace Level

/-- What a script in an arena of the level sees. -/
def stageOf (level : Level) (settings : Settings) (index : Nat) (rehearsal : Bool) : Stage where
  bytes := level.bytes
  settings := settings
  arenas := level.arenaNames
  arena := index
  setups :=
    match level.arenas[index]? with
    | some arena => arena.setups
    | none => .empty
  rehearsal := rehearsal

theorem Grew.arenaNames_eq {a b : Level} (h : a.Grew b) : b.arenaNames = a.arenaNames := by
  unfold arenaNames
  apply List.ext_getElem?
  intro i
  simp only [List.getElem?_map, Array.getElem?_toList]
  cases ha : a.arenas[i]? with
  | none =>
      have hle : b.arenas.size ≤ i := by
        rw [h.size_eq]
        exact Array.getElem?_eq_none_iff.mp ha
      rw [Array.getElem?_eq_none hle]
  | some arena =>
      obtain ⟨arena', hb, hgrew⟩ := h.arena i arena ha
      simp [hb, hgrew.name_eq]

/-- A level that grows keeps its stages. -/
theorem Grew.stageOf_eq {a b : Level} (h : a.Grew b) (settings : Settings) (index : Nat)
    (rehearsal : Bool) :
    b.stageOf settings index rehearsal = a.stageOf settings index rehearsal := by
  unfold stageOf
  rw [h.bytes_eq, h.arenaNames_eq]
  cases ha : a.arenas[index]? with
  | none =>
      have hle : b.arenas.size ≤ index := by
        rw [h.size_eq]
        exact Array.getElem?_eq_none_iff.mp ha
      rw [Array.getElem?_eq_none hle]
  | some arena =>
      obtain ⟨arena', hb, hgrew⟩ := h.arena index arena ha
      simp only [hb, hgrew.setups_eq]

/-- The actors that nobody spawned, with the script that each is pointed at first: the actor that
stands for an arena, an actor that is placed, and, in a rehearsal, an understudy. -/
inductive Root (settings : Settings) (first : Level) (index : Nat) (rehearsal : Bool) :
    Actor → UInt32 → Prop
  | arena {built : Settings} {arena : Arena} {script : UInt32} :
      first.arenas[index]? = some arena →
      arena.self =
        ({ Actor.new built arena.name 0 index .plain with isArena := true }).startAt script →
      Root settings first index rehearsal
        { Actor.new built arena.name 0 index .plain with isArena := true } script
  | placed {arena : Arena} (placement : Placement) :
      first.arenas[index]? = some arena →
      Root settings first index rehearsal (Play.placedActor settings index placement)
        ((arena.inits.get? placement.localKey).getD 0)
  | understudy {arena : Arena} {entry : OffsetEntry} (kind : ActorKind) :
      rehearsal = true → first.arenas[index]? = some arena → entry ∈ arena.setups.entries →
      Root settings first index rehearsal (Actor.new settings entry.1 0 index kind) entry.2

/-- An actor of an arena at rest, with its history. -/
def Rests (settings : Settings) (first : Level) (index : Nat) (rehearsal : Bool) :
    Actor → History → Prop :=
  (first.stageOf settings index rehearsal).Rests (first.Root settings index rehearsal)

end Level

theorem Session.stage_eq_stageOf {session : Session} {arena : Arena} {index : Nat}
    (harena : session.level.arenas[index]? = some arena) (settings : Settings) (rehearsal : Bool) :
    session.stage settings arena index rehearsal =
      session.level.stageOf settings index rehearsal := by
  simp only [stage, Level.stageOf, harena]

/-! ### Writing a chronicle -/

/-- A history for every arena and seat. -/
abbrev Chronicle := Nat → Seat → History

namespace Chronicle

/-- The chronicle of a level that was just built: every arena has been pointed at its script. -/
def start (level : Level) : Chronicle
  | index, .self =>
    match level.arenas[index]? with
    | some arena => History.fresh.begin (.ofNat arena.self.control.scriptOffset)
    | none => .fresh
  | _, .live _ => .fresh

/-- The actor on a seat goes on with its script. -/
def extend (chronicle : Chronicle) (index : Nat) (seat : Seat) (ran : List Executed) : Chronicle :=
  fun i s => if i = index ∧ s = seat then (chronicle i s).extend ran else chronicle i s

/-- New actors take the seats from `count` on. -/
def join (chronicle : Chronicle) (index count : Nat) (births : List History) : Chronicle
  | i, .self => chronicle i .self
  | i, .live k =>
    if i = index ∧ count ≤ k then (births[k - count]?).getD .fresh else chronicle i (.live k)

end Chronicle

/-- The end of a rehearsal. -/
structure Rehearsal where
  /-- The arena in which it took place. -/
  index : Nat
  actor : Actor
  history : History

/-- A session with the histories of its actors and of all rehearsals. -/
structure Recorded where
  session : Session
  chronicle : Chronicle
  rehearsals : List Rehearsal

namespace Session

/-- What a turn adds to the chronicle. -/
def turnTold (session : Session) (settings : Settings) (chronicle : Chronicle) (index : Nat)
    (seat : Seat) (account : Stage → Scene → Account) : Chronicle :=
  match session.actor? index seat with
  | none => chronicle
  | some actor =>
    match session.level.arenas[actor.arena]? with
    | none => chronicle
    | some home =>
      let told := account (session.stage settings home actor.arena false)
        ⟨actor, session.world home, #[]⟩
      (chronicle.extend index seat told.ran).join actor.arena home.live.size told.births

/-- What placing an actor adds to the chronicle. -/
def placeTold (session : Session) (settings : Settings) (chronicle : Chronicle)
    (placement : Placement) : Chronicle :=
  match session.level.arenaIndex placement.arena with
  | .error _ => chronicle
  | .ok index =>
    match session.level.arenas[index]? with
    | none => chronicle
    | some arena =>
      let told := settleAccount (session.stage settings arena index false) settings.maxCallDepth
        (Play.placedActor settings index placement)
        ((arena.inits.get? placement.localKey).getD 0) (session.world arena)
      chronicle.join index arena.live.size (told.1 :: told.2)

/-- The rehearsal that a move holds. -/
def rehearsalTold (session : Session) (settings : Settings) (index : Nat) (entry : OffsetEntry) :
    List Rehearsal :=
  match session.level.arenas[index]? with
  | none => []
  | some arena =>
    let begun : Scene :=
      ⟨(Play.understudy settings arena index entry.1).startAt entry.2, session.world arena, #[]⟩
    [{ index := index
       actor := (session.rehearsal settings index entry arena).2.actor
       history := (History.fresh.begin entry.2).extend
         ((session.stage settings arena index true).invokeAccount begun).ran }]

end Session

namespace Recorded

/-- The record of a level that was just built. -/
def start (level : Level) (reads : List Span) : Recorded :=
  ⟨⟨level, reads⟩, .start level, []⟩

/-- Makes a move and records it. -/
def move (recorded : Recorded) (settings : Settings) (move : Move) : Recorded where
  session := recorded.session.move settings move
  chronicle :=
    match move with
    | .place placement => recorded.session.placeTold settings recorded.chronicle placement
    | .invoke index seat =>
      recorded.session.turnTold settings recorded.chronicle index seat Stage.invokeAccount
    | .tick index seat =>
      recorded.session.turnTold settings recorded.chronicle index seat Stage.tickAccount
    | .rehearse _ _ => recorded.chronicle
  rehearsals :=
    match move with
    | .rehearse index entry =>
      recorded.rehearsals ++ recorded.session.rehearsalTold settings index entry
    | _ => recorded.rehearsals

/-- Makes moves until one fails, and records them. -/
def follow (settings : Settings) : List Move → Recorded → Recorded
  | [], recorded => recorded
  | move :: moves, recorded =>
    match ((move.play settings).exec recorded.session).1 with
    | .ok _ => follow settings moves (recorded.move settings move)
    | .error _ => recorded.move settings move

/-- Carries out an operation and records its moves. -/
def after (recorded : Recorded) (settings : Settings) (operation : Operation) : Recorded :=
  follow settings (operation.plan settings recorded.session) recorded

def afterAll (recorded : Recorded) (settings : Settings) (operations : List Operation) : Recorded :=
  operations.foldl (fun recorded operation => recorded.after settings operation) recorded

/-- Makes moves in turn, whether they fail or not, and records them. -/
def moves (recorded : Recorded) (settings : Settings) (moves : List Move) : Recorded :=
  moves.foldl (fun recorded move => recorded.move settings move) recorded

/-! ### The recorded session is the session -/

theorem moves_session (recorded : Recorded) (settings : Settings) (moves : List Move) :
    (recorded.moves settings moves).session = recorded.session.moves settings moves := by
  induction moves generalizing recorded with
  | nil => rfl
  | cons next moves ih => exact ih (recorded.move settings next)

theorem follow_session (settings : Settings) (moves : List Move) (recorded : Recorded) :
    (follow settings moves recorded).session =
      ((Play.follow settings moves).exec recorded.session).2 := by
  induction moves generalizing recorded with
  | nil => rfl
  | cons next moves ih =>
      rw [follow, Play.exec_follow_cons]
      rcases hmoved : (next.play settings).exec recorded.session with ⟨e | u, session'⟩
      · simp [move, Session.move, hmoved]
      · simp [ih, move, Session.move, hmoved]

/-- What each of some recorded moves preserves, following them preserves. -/
theorem follow_induction_of_mem {settings : Settings} (moves : List Move) (holds : Recorded → Prop)
    (hmove : ∀ recorded, ∀ move ∈ moves, holds recorded → holds (recorded.move settings move))
    {recorded : Recorded} (h : holds recorded) : holds (follow settings moves recorded) := by
  induction moves generalizing recorded with
  | nil => exact h
  | cons next moves ih =>
      have hnext := hmove recorded next List.mem_cons_self h
      rw [follow]
      split
      · exact ih (fun recorded move hmem => hmove recorded move (List.mem_cons_of_mem _ hmem)) hnext
      · exact hnext

/-- What every recorded move preserves, following moves preserves. -/
theorem follow_induction {settings : Settings} (holds : Recorded → Prop)
    (hmove : ∀ recorded move, holds recorded → holds (recorded.move settings move))
    (moves : List Move) {recorded : Recorded} (h : holds recorded) :
    holds (follow settings moves recorded) :=
  follow_induction_of_mem moves holds (fun recorded move _ => hmove recorded move) h

theorem after_session (recorded : Recorded) (settings : Settings) (operation : Operation) :
    (recorded.after settings operation).session = recorded.session.after settings operation := by
  rw [after, follow_session, ← Play.Makes.operation settings operation recorded.session]
  rfl

theorem afterAll_session (recorded : Recorded) (settings : Settings)
    (operations : List Operation) :
    (recorded.afterAll settings operations).session =
      recorded.session.afterAll settings operations := by
  induction operations generalizing recorded with
  | nil => rfl
  | cons operation operations ih =>
      have hrest := ih (recorded.after settings operation)
      rw [after_session] at hrest
      exact hrest

end Recorded

/-! ### Histories of an arena -/

theorem getElem?_of_forall₂ {α β : Type} {related : α → β → Prop} {xs : List α} {ys : List β}
    (h : List.Forall₂ related xs ys) {i : Nat} {x : α} (hx : xs[i]? = some x) :
    ∃ y, ys[i]? = some y ∧ related x y := by
  induction h generalizing i with
  | nil => simp at hx
  | cons hhead _ ih =>
      cases i with
      | zero =>
          cases hx
          exact ⟨_, rfl, hhead⟩
      | succ i => exact ih (by simpa using hx)

namespace Arena

/-- Every actor of an arena has the history that is kept for its seat. -/
def Keeps (rests : Actor → History → Prop) (histories : Seat → History) (arena : Arena) : Prop :=
  ∀ seat actor, arena.actor? seat = some actor → rests actor (histories seat)

variable {rests : Actor → History → Prop} {chronicle : Chronicle} {index : Nat} {arena : Arena}

theorem Keeps.setActor (h : arena.Keeps rests (chronicle index)) {seat : Seat} {old actor : Actor}
    {ran : List Executed} (hseat : arena.actor? seat = some old)
    (hactor : rests actor ((chronicle index seat).extend ran)) :
    (arena.setActor seat actor).Keeps rests (chronicle.extend index seat ran index) := by
  intro seat' actor' hactor'
  by_cases hsame : seat' = seat
  · subst hsame
    have heq : actor' = actor := by
      cases seat' with
      | self => exact (Option.some.inj hactor').symm
      | live k =>
          have hlt := (Array.getElem?_eq_some_iff.mp hseat).1
          simpa [Arena.setActor, actor?, hlt] using hactor'.symm
    simpa [Chronicle.extend, heq] using hactor
  · have hold : arena.actor? seat' = some actor' := by
      cases seat with
      | self =>
          cases seat' with
          | self => exact absurd rfl hsame
          | live k => exact hactor'
      | live i =>
          cases seat' with
          | self => exact hactor'
          | live k =>
              have hik : i ≠ k := fun hik => hsame (congrArg Seat.live hik.symm)
              simpa [Arena.setActor, actor?, Array.getElem?_setIfInBounds_ne hik] using hactor'
    simpa [Chronicle.extend, hsame] using h seat' actor' hold

theorem Keeps.append (h : arena.Keeps rests (chronicle index)) {actors : Array Actor}
    {births : List History} (hactors : List.Forall₂ rests actors.toList births) :
    (arena.append actors).Keeps rests (chronicle.join index arena.live.size births index) := by
  intro seat actor hactor
  cases seat with
  | self => exact h .self actor hactor
  | live k =>
      by_cases hk : arena.live.size ≤ k
      · have hnew : actors.toList[k - arena.live.size]? = some actor := by
          rw [Array.getElem?_toList]
          simpa [actor?, Arena.append, Array.getElem?_append_right hk] using hactor
        obtain ⟨history, hhistory, hrests⟩ := getElem?_of_forall₂ hactors hnew
        simpa [Chronicle.join, hk, hhistory] using hrests
      · have hold : arena.actor? (.live k) = some actor := by
          simpa [actor?, Arena.append, Array.getElem?_append_left (Nat.not_le.mp hk)] using hactor
        simpa [Chronicle.join, hk] using h (.live k) actor hold

theorem setActor_size (arena : Arena) (seat : Seat) (actor : Actor) :
    (arena.setActor seat actor).live.size = arena.live.size := by
  cases seat <;> simp [Arena.setActor]

end Arena

theorem Chronicle.extend_of_ne (chronicle : Chronicle) {index i : Nat} (hi : index ≠ i)
    (seat : Seat) (ran : List Executed) : chronicle.extend index seat ran i = chronicle i := by
  funext seat'
  simp [extend, Ne.symm hi]

theorem Chronicle.join_of_ne (chronicle : Chronicle) {index i : Nat} (hi : index ≠ i)
    (count : Nat) (births : List History) : chronicle.join index count births i = chronicle i := by
  funext seat
  cases seat with
  | self => rfl
  | live k => simp [join, Ne.symm hi]

/-! ### The record is true -/

/-- Whatever an account tells of something that happens to an actor at rest is true: the actor comes
to rest with the longer history, and the new actors with theirs. -/
def Stage.Narrated (happen : Stage → Scene → Outcome) (account : Stage → Scene → Account) : Prop :=
  ∀ (stage : Stage) (root : Actor → UInt32 → Prop) (scene : Scene) (history : History),
    stage.Rests root scene.actor history → scene.spawned = #[] →
    stage.Rests root (happen stage scene).2.actor (history.extend (account stage scene).ran) ∧
      List.Forall₂ (stage.Rests root) (happen stage scene).2.spawned.toList
        (account stage scene).births

theorem Stage.narrated_invoke : Stage.Narrated Stage.invoke Stage.invokeAccount :=
  fun _ _ _ _ h hspawned => Stage.invoke_told h hspawned

theorem Stage.narrated_tick : Stage.Narrated Stage.tick Stage.tickAccount :=
  fun _ _ _ _ h hspawned => Stage.tick_told h hspawned

/-- A rehearsal that an arena of the level has a setup script for; every other move is free. -/
def Move.Announced (first : Level) : Move → Prop
  | rehearse index entry =>
    ∀ arena, first.arenas[index]? = some arena → entry ∈ arena.setups.entries
  | _ => True

/-- Sessions that show the same in every arena, as far as the view of an arena goes. -/
def Session.Same {α : Type} (view : Arena → α) (a b : Session) : Prop :=
  ∀ (i : Nat) (arena : Arena), b.level.arenas[i]? = some arena →
    ∃ old, a.level.arenas[i]? = some old ∧ view arena = view old

namespace Session

variable {α : Type} {view : Arena → α} {session : Session}

theorem Same.refl (session : Session) : session.Same view session :=
  fun _ arena harena => ⟨arena, harena, rfl⟩

theorem Same.trans {a b c : Session} (hab : a.Same view b) (hbc : b.Same view c) :
    a.Same view c := by
  intro i arena harena
  obtain ⟨middle, hmiddle, hview⟩ := hbc i arena harena
  obtain ⟨old, hold, hview'⟩ := hab i middle hmiddle
  exact ⟨old, hold, hview.trans hview'⟩

theorem updateArena_same {update : Arena → Arena}
    (hview : ∀ arena, view (update arena) = view arena) (session : Session) (index : Nat) :
    session.Same view (session.updateArena index update) := by
  intro i arena harena
  rw [updateArena_getElem?] at harena
  by_cases hi : index = i
  · simp only [hi, ↓reduceIte, Option.map_eq_some_iff] at harena
    obtain ⟨old, hold, rfl⟩ := harena
    exact ⟨old, hold, hview old⟩
  · simp only [hi, ↓reduceIte] at harena
    exact ⟨arena, harena, rfl⟩

theorem share_same
    (hview : ∀ (arena : Arena) (vars : Vars), view (arena.withVars vars) = view arena)
    (session : Session) (index : Nat) (world : World) :
    session.Same view (session.share index world) :=
  updateArena_same (fun arena => hview arena world.arenaVars) session index

theorem share_logs (session : Session) (index : Nat) (world : World) :
    session.Same Arena.setupLogs (session.share index world) :=
  share_same (fun _ _ => rfl) session index world

theorem append_logs (session : Session) (index : Nat) (actors : Array Actor) :
    session.Same Arena.setupLogs (session.updateArena index (·.append actors)) := by
  have hlogs : ∀ arena : Arena, (arena.append actors).setupLogs = arena.setupLogs := fun _ => rfl
  exact updateArena_same hlogs session index

/-- A rehearsal leaves all actors on their seats. -/
theorem rehearsed_same (session : Session) (settings : Settings) (index : Nat)
    (entry : OffsetEntry) : session.Same Arena.actor? (session.rehearsed settings index entry) := by
  have hvars : ∀ (arena : Arena) (vars : Vars), (arena.withVars vars).actor? = arena.actor? := by
    intro arena vars
    funext seat
    cases seat <;> rfl
  have hlog : ∀ (log : Array TraceLine) (arena : Arena),
      (arena.keepLog entry.1 log).actor? = arena.actor? := by
    intro log arena
    funext seat
    cases seat <;> rfl
  unfold rehearsed
  cases session.level.arenas[index]? with
  | none => exact .refl session
  | some home =>
      dsimp only
      rcases session.rehearsal settings index entry home with ⟨_ | fatal, scene⟩
      · exact (updateArena_same (hlog _) session index).trans (share_same hvars _ _ _)
      · exact share_same hvars _ _ _

/-- Turns leave the logs of rehearsals alone. -/
theorem turn_same (session : Session) (settings : Settings) (index : Nat) (seat : Seat)
    (happen : Stage → Scene → Outcome) :
    session.Same Arena.setupLogs (session.turn settings index seat happen) := by
  unfold turn
  cases session.actor? index seat with
  | none => exact .refl session
  | some actor =>
      dsimp only
      cases session.level.arenas[actor.arena]? with
      | none => exact .refl session
      | some home =>
          have hseat : ∀ (actor : Actor) (arena : Arena),
              (arena.setActor seat actor).setupLogs = arena.setupLogs := by
            intro actor arena
            cases seat <;> rfl
          exact (updateArena_same (hseat _) session index).trans <|
            (append_logs _ actor.arena _).trans (share_logs _ actor.arena _)

/-- So does placing an actor. -/
theorem placed_same (session : Session) (settings : Settings) (placement : Placement) :
    session.Same Arena.setupLogs (session.placed settings placement) := by
  unfold placed
  cases session.level.arenaIndex placement.arena with
  | error error => exact .refl session
  | ok index =>
      dsimp only
      cases session.level.arenas[index]? with
      | none => exact .refl session
      | some arena =>
          exact (append_logs session index _).trans (share_logs _ index _)

end Session

namespace Recorded

/-- Since the level was built, every actor has lived the history that is kept for it. -/
structure Truthful (settings : Settings) (first : Level) (recorded : Recorded) : Prop where
  orderly : recorded.session.level.Orderly settings
  grew : first.Grew recorded.session.level
  seats : ∀ (index : Nat) (arena : Arena), recorded.session.level.arenas[index]? = some arena →
    arena.Keeps (first.Rests settings index false) (recorded.chronicle index)
  rehearsals : ∀ rehearsal ∈ recorded.rehearsals,
    first.Rests settings rehearsal.index true rehearsal.actor rehearsal.history
  /-- Every log that an arena has kept is that of a rehearsal. -/
  logs : ∀ (index : Nat) (arena : Arena), recorded.session.level.arenas[index]? = some arena →
    ∀ entry ∈ arena.setupLogs.entries, ∃ rehearsal ∈ recorded.rehearsals,
      rehearsal.index = index ∧ rehearsal.actor.name = entry.1 ∧ rehearsal.actor.log = entry.2

variable {settings : Settings} {first : Level} {recorded : Recorded}

theorem Truthful.stage_eq (h : recorded.Truthful settings first) {index : Nat} {arena : Arena}
    (harena : recorded.session.level.arenas[index]? = some arena) (rehearsal : Bool) :
    recorded.session.stage settings arena index rehearsal =
      first.stageOf settings index rehearsal := by
  rw [Session.stage_eq_stageOf harena, h.grew.stageOf_eq]

/-- The arena as it was when the level was built. -/
theorem Truthful.first_arena (h : recorded.Truthful settings first) {index : Nat} {arena : Arena}
    (harena : recorded.session.level.arenas[index]? = some arena) :
    ∃ arena₀, first.arenas[index]? = some arena₀ ∧ arena₀.Grew arena := by
  have hlt : index < first.arenas.size := by
    rw [← h.grew.size_eq]
    exact (Array.getElem?_eq_some_iff.mp harena).1
  have hfirst := Array.getElem?_eq_getElem hlt
  obtain ⟨arena', harena', hgrew⟩ := h.grew.arena index _ hfirst
  rw [harena] at harena'
  cases harena'
  exact ⟨_, hfirst, hgrew⟩

theorem Truthful.turn (h : recorded.Truthful settings first)
    {happen : Stage → Scene → Outcome} {account : Stage → Scene → Account}
    (hnarrated : Stage.Narrated happen account) (index : Nat) (seat : Seat) :
    ∀ (i : Nat) (arena : Arena),
      (recorded.session.turn settings index seat happen).level.arenas[i]? = some arena →
      arena.Keeps (first.Rests settings i false)
        (recorded.session.turnTold settings recorded.chronicle index seat account i) := by
  unfold Session.turn Session.turnTold
  cases hactor : recorded.session.actor? index seat with
  | none => exact h.seats
  | some actor =>
      obtain ⟨arena, harena, hseat⟩ := Session.actor?_eq_some hactor
      have hhome : actor.arena = index := (h.orderly index arena harena).actor_arena hseat
      simp only [hhome, harena, h.stage_eq harena]
      have hkeeps := h.seats index arena harena
      obtain ⟨hrests, hspawned⟩ := hnarrated (first.stageOf settings index false)
        (first.Root settings index false) ⟨actor, recorded.session.world arena, #[]⟩
        (recorded.chronicle index seat) (hkeeps seat actor hseat) rfl
      intro i arena' harena'
      rw [Session.takeTurn_getElem?] at harena'
      by_cases hi : index = i
      · subst hi
        rw [if_pos rfl, harena] at harena'
        cases harena'
        have hjoined := (hkeeps.setActor hseat hrests).append hspawned
        rw [Arena.setActor_size] at hjoined
        exact hjoined
      · rw [if_neg hi] at harena'
        rw [Chronicle.join_of_ne _ hi, Chronicle.extend_of_ne _ hi]
        exact h.seats i arena' harena'

theorem Truthful.place (h : recorded.Truthful settings first) (placement : Placement) :
    ∀ (i : Nat) (arena : Arena),
      (recorded.session.placed settings placement).level.arenas[i]? = some arena →
      arena.Keeps (first.Rests settings i false)
        (recorded.session.placeTold settings recorded.chronicle placement i) := by
  unfold Session.placed Session.placeTold
  cases recorded.session.level.arenaIndex placement.arena with
  | error error => exact h.seats
  | ok index =>
      dsimp only
      cases harena : recorded.session.level.arenas[index]? with
      | none => exact h.seats
      | some arena =>
          obtain ⟨arena₀, harena₀, hgrew⟩ := h.first_arena harena
          have hborn : (first.stageOf settings index false).Lives (first.Root settings index false)
              (Play.placedActor settings index placement) .fresh none
              (some ((arena.inits.get? placement.localKey).getD 0)) := by
            rw [hgrew.inits_eq]
            exact .root (.placed placement harena₀)
          have htold := settle_told (first.stageOf settings index false)
            (first.Root settings index false) settings.maxCallDepth
          simp only [Session.placing, h.stage_eq harena]
          intro i arena' harena'
          simp only [Session.share, Session.updateArena_getElem?] at harena'
          by_cases hi : index = i
          · subst hi
            simp only [↓reduceIte, harena, Option.map_some, Option.some.injEq] at harena'
            subst harena'
            have hnew := List.Forall₂.cons (htold.own _ _ (recorded.session.world arena) hborn rfl)
              (htold.spawned _ _ (recorded.session.world arena) hborn rfl)
            apply (h.seats index arena harena).append
            rw [Array.toList_append]
            exact hnew
          · simp only [hi, ↓reduceIte] at harena'
            rw [Chronicle.join_of_ne _ hi]
            exact h.seats i arena' harena'

theorem Truthful.rehearse (h : recorded.Truthful settings first) {index : Nat}
    {entry : OffsetEntry} (hentry : (Move.rehearse index entry).Announced first) :
    ∀ rehearsal ∈ recorded.session.rehearsalTold settings index entry,
      first.Rests settings rehearsal.index true rehearsal.actor rehearsal.history := by
  unfold Session.rehearsalTold
  cases harena : recorded.session.level.arenas[index]? with
  | none => simp
  | some arena =>
      obtain ⟨arena₀, harena₀, _⟩ := h.first_arena harena
      intro rehearsal hrehearsal
      simp only [List.mem_singleton] at hrehearsal
      subst hrehearsal
      simp only [Session.rehearsal, h.stage_eq harena]
      have hroot : first.Root settings index true (Play.understudy settings arena index entry.1)
          entry.2 := .understudy _ rfl harena₀ (hentry arena₀ harena₀)
      exact (Stage.narrated_invoke _ _ ⟨_, recorded.session.world arena, #[]⟩ _
        (.begun (.root hroot) rfl) rfl).1

/-- Moves that leave the logs alone keep them true. -/
theorem Truthful.logs_of_same (h : recorded.Truthful settings first) {session : Session}
    (hsame : recorded.session.Same Arena.setupLogs session) (index : Nat) (arena : Arena)
    (harena : session.level.arenas[index]? = some arena) :
    ∀ entry ∈ arena.setupLogs.entries, ∃ rehearsal ∈ recorded.rehearsals,
      rehearsal.index = index ∧ rehearsal.actor.name = entry.1 ∧ rehearsal.actor.log = entry.2 := by
  obtain ⟨old, hold, hlogs⟩ := hsame index arena harena
  rw [hlogs]
  exact h.logs index old hold

/-- A rehearsal keeps its own log. -/
theorem Truthful.rehearse_logs (h : recorded.Truthful settings first) (index : Nat)
    (entry : OffsetEntry) (i : Nat) (arena : Arena)
    (harena : (recorded.session.rehearsed settings index entry).level.arenas[i]? = some arena) :
    ∀ kept ∈ arena.setupLogs.entries,
      ∃ rehearsal ∈ recorded.rehearsals ++ recorded.session.rehearsalTold settings index entry,
        rehearsal.index = i ∧ rehearsal.actor.name = kept.1 ∧ rehearsal.actor.log = kept.2 := by
  have hearlier : ∀ {old : Arena}, recorded.session.level.arenas[i]? = some old →
      ∀ kept ∈ old.setupLogs.entries,
        ∃ rehearsal ∈ recorded.rehearsals ++ recorded.session.rehearsalTold settings index entry,
          rehearsal.index = i ∧ rehearsal.actor.name = kept.1 ∧ rehearsal.actor.log = kept.2 := by
    intro old hold kept hkept
    obtain ⟨rehearsal, hmem, hrehearsal⟩ := h.logs i old hold kept hkept
    exact ⟨rehearsal, List.mem_append_left _ hmem, hrehearsal⟩
  unfold Session.rehearsed at harena
  cases hhome : recorded.session.level.arenas[index]? with
  | none =>
      rw [hhome] at harena
      exact hearlier harena
  | some home =>
      have hname : (recorded.session.rehearsal settings index entry home).2.actor.name = entry.1 :=
        (Stage.invoke_grew _ _).name_eq
      rcases hplayed : recorded.session.rehearsal settings index entry home with ⟨_ | fatal, scene⟩
      · simp only [hhome, hplayed] at harena
        obtain ⟨shared, hshared, hlogs⟩ := Session.share_logs _ _ _ i arena harena
        rw [hlogs]
        rw [Session.updateArena_getElem?] at hshared
        by_cases hi : index = i
        · subst hi
          simp only [↓reduceIte, hhome, Option.map_some, Option.some.injEq] at hshared
          subst hshared
          intro kept hkept
          rcases List.mem_append.mp hkept with hold | hnew
          · exact hearlier hhome kept hold
          · rw [List.mem_singleton.mp hnew]
            simp only [Session.rehearsalTold, hhome, hplayed] at hname ⊢
            exact ⟨_, List.mem_append_right _ List.mem_cons_self, rfl, hname, rfl⟩
        · rw [if_neg hi] at hshared
          exact hearlier hshared
      · simp only [hhome, hplayed] at harena
        obtain ⟨old, hold, hlogs⟩ := Session.share_logs _ _ _ i arena harena
        rw [hlogs]
        exact hearlier hold

/-- Every move keeps the record true. -/
theorem Truthful.move (h : recorded.Truthful settings first) {move : Move}
    (hmove : move.Announced first) : (recorded.move settings move).Truthful settings first := by
  obtain ⟨horderly, hgrew⟩ := Session.move_orderly recorded.session move h.orderly
  refine ⟨horderly, h.grew.trans hgrew, ?_, ?_, ?_⟩
  · cases move with
    | place placement =>
        simp only [Recorded.move, Session.move_place]
        exact h.place placement
    | invoke index seat =>
        simp only [Recorded.move, Session.move_invoke]
        exact h.turn Stage.narrated_invoke index seat
    | tick index seat =>
        simp only [Recorded.move, Session.move_tick]
        exact h.turn Stage.narrated_tick index seat
    | rehearse index entry =>
        simp only [Recorded.move, Session.move_rehearse]
        intro i arena harena seat actor hactor
        obtain ⟨old, hold, hsame⟩ := Session.rehearsed_same _ settings index entry i arena harena
        exact h.seats i old hold seat actor (hsame ▸ hactor)
  · cases move with
    | rehearse index entry =>
        intro rehearsal hrehearsal
        rcases List.mem_append.mp hrehearsal with hold | hnew
        · exact h.rehearsals rehearsal hold
        · exact h.rehearse hmove rehearsal hnew
    | _ => exact h.rehearsals
  · cases move with
    | place placement =>
        simp only [Recorded.move, Session.move_place]
        exact h.logs_of_same (Session.placed_same _ settings placement)
    | invoke index seat =>
        simp only [Recorded.move, Session.move_invoke]
        exact h.logs_of_same (Session.turn_same _ settings index seat _)
    | tick index seat =>
        simp only [Recorded.move, Session.move_tick]
        exact h.logs_of_same (Session.turn_same _ settings index seat _)
    | rehearse index entry =>
        simp only [Recorded.move, Session.move_rehearse]
        exact h.rehearse_logs index entry

theorem Truthful.follow (h : recorded.Truthful settings first) {moves : List Move}
    (hmoves : ∀ move ∈ moves, move.Announced first) :
    (follow settings moves recorded).Truthful settings first := by
  apply follow_induction_of_mem moves fun current => current.Truthful settings first
  · exact fun _ move hmove hcurrent => hcurrent.move (hmoves move hmove)
  · exact h

end Recorded

/-! ### Plans rehearse only what is announced -/

namespace Play.Plan

variable {settings : Settings} {first : Level}

/-- A plan that, in every session that the level can be played to, rehearses announced setup scripts
only. -/
def Announced (settings : Settings) (first : Level) (plan : Plan) : Prop :=
  ∀ session : Session, session.level.Orderly settings → first.Grew session.level →
    ∀ move ∈ plan session, move.Announced first

theorem Announced.andThen {plan next : Plan} (hplan : plan.Announced settings first)
    (hnext : next.Announced settings first) :
    (plan.andThen settings next).Announced settings first := by
  intro session horderly hgrew move hmove
  rcases List.mem_append.mp hmove with hmove | hmove
  · exact hplan session horderly hgrew move hmove
  · have hlater : ((Play.follow settings (plan session)).exec session).2.level.Orderly settings ∧
        first.Grew ((Play.follow settings (plan session)).exec session).2.level := by
      apply Play.follow_induction fun current =>
        current.level.Orderly settings ∧ first.Grew current.level
      · intro current move hcurrent
        have hmoved := Session.move_orderly current move hcurrent.1
        exact ⟨hmoved.1, hcurrent.2.trans hmoved.2⟩
      · exact ⟨horderly, hgrew⟩
    exact hnext _ hlater.1 hlater.2 move hmove

theorem Announced.nil : Plan.Announced settings first fun _ => [] :=
  fun _ _ _ _ hmove => absurd hmove List.not_mem_nil

theorem Announced.forEach {α : Type} {plan : α → Plan}
    (hplan : ∀ item, (plan item).Announced settings first) (items : List α) :
    (Plan.forEach settings plan items).Announced settings first := by
  induction items with
  | nil => exact .nil
  | cons item items ih => exact (hplan item).andThen ih

theorem Announced.repeated {plan : Plan} (hplan : plan.Announced settings first) (count : Nat) :
    (Plan.repeated settings plan count).Announced settings first := by
  induction count with
  | zero => exact .nil
  | succ count ih => exact hplan.andThen ih

/-- A plan without rehearsals. -/
theorem Announced.of_free {plan : Plan}
    (hplan : ∀ session, ∀ move ∈ plan session, ∀ index entry, move ≠ .rehearse index entry) :
    plan.Announced settings first := by
  intro session _ _ move hmove
  cases move with
  | rehearse index entry => exact absurd rfl (hplan session _ hmove index entry)
  | _ => trivial

theorem Announced.rehearseAll (index : Nat) :
    (Plan.rehearseAll index).Announced settings first := by
  intro session _ hgrew move hmove
  obtain ⟨entry, hentry, rfl⟩ := List.mem_map.mp hmove
  intro arena harena
  obtain ⟨arena', harena', hsame⟩ := hgrew.arena index arena harena
  simp only [Session.setupEntries, harena', hsame.setups_eq] at hentry
  exact hentry

theorem Announced.pass (index : Nat) : (Plan.pass index).Announced settings first := by
  apply of_free
  intro session move hmove index' entry
  obtain ⟨i, _, rfl⟩ := List.mem_map.mp hmove
  simp

theorem Announced.single {move : Move} (hmove : ∀ index entry, move ≠ .rehearse index entry) :
    Plan.Announced settings first fun _ => [move] := by
  apply of_free
  intro session move' hmove'
  rw [List.mem_singleton.mp hmove']
  exact hmove

theorem Announced.loadArena (index : Nat) :
    (Plan.loadArena settings index).Announced settings first :=
  (pass index).andThen <| (rehearseAll index).andThen <|
    Announced.andThen (single (by simp)) (pass index)

theorem Announced.tickArena (index : Nat) :
    (Plan.tickArena settings index).Announced settings first := by
  apply Announced.andThen (single (by simp))
  apply of_free
  intro session move hmove index' entry
  obtain ⟨i, _, rfl⟩ := List.mem_map.mp hmove
  simp

theorem Announced.loadPasses : (Plan.loadPasses settings).Announced settings first :=
  fun session => Announced.forEach loadArena _ session

theorem Announced.ticks : (Plan.ticks settings).Announced settings first := by
  apply Announced.repeated
  exact fun session => Announced.forEach tickArena _ session

theorem Announced.seed (placements : List Placement) :
    (Plan.seed placements).Announced settings first := by
  apply of_free
  intro session move hmove index entry
  obtain ⟨placement, _, rfl⟩ := List.mem_map.mp hmove
  simp

theorem Announced.load (placements : List Placement) :
    (Plan.load settings placements).Announced settings first :=
  (seed placements).andThen (loadPasses.andThen ticks)

theorem Announced.operation (operation : Operation) :
    Plan.Announced settings first (operation.plan settings) := by
  cases operation with
  | seed placements => exact seed placements
  | loadPasses => exact loadPasses
  | pass index => exact pass index
  | ticks => exact ticks
  | tick index seat => exact single (by simp)
  | invoke index seat => exact single (by simp)

end Play.Plan

namespace Recorded

variable {settings : Settings} {first : Level} {recorded : Recorded}

/-- Every plan of announced moves keeps the record true. -/
theorem Truthful.plan (h : recorded.Truthful settings first) {plan : Play.Plan}
    (hplan : plan.Announced settings first) :
    (Recorded.follow settings (plan recorded.session) recorded).Truthful settings first :=
  h.follow (hplan recorded.session h.orderly h.grew)

/-- So does every sequence of operations. -/
theorem Truthful.afterAll (h : recorded.Truthful settings first) (operations : List Operation) :
    (recorded.afterAll settings operations).Truthful settings first := by
  induction operations generalizing recorded with
  | nil => exact h
  | cons operation operations ih => exact ih (h.plan (.operation operation))

/-- The record of a level that was just built is true. -/
theorem start_truthful {built : Settings} {container : Container} {bytes : Bytes}
    (hbuild : Level.build built container bytes = .ok first) (settings : Settings)
    (reads : List Span) : (start first reads).Truthful settings first := by
  obtain ⟨listed, hexplore⟩ := Level.build_eq_ok hbuild
  obtain ⟨setups, inits, _, _, hfirst⟩ := Level.getElem?_of_explore hexplore
  have hlogs : ∀ (index : Nat) (arena : Arena), first.arenas[index]? = some arena →
      ∀ entry ∈ arena.setupLogs.entries, ∃ rehearsal ∈ (start first reads).rehearsals,
        rehearsal.index = index ∧ rehearsal.actor.name = entry.1 ∧
          rehearsal.actor.log = entry.2 := by
    intro index arena harena entry hentry
    obtain ⟨record, _, rfl⟩ := hfirst index arena harena
    exact absurd hentry List.not_mem_nil
  refine ⟨Level.build_orderly hbuild settings, .refl first, ?_, by simp [start], hlogs⟩
  intro index arena harena seat actor hactor
  obtain ⟨record, _, harena_eq⟩ := hfirst index arena harena
  cases seat with
  | self =>
      cases hactor
      have hself : arena.self =
          ({ Actor.new built arena.name 0 index .plain with isArena := true }).startAt
            record.script := by
        rw [harena_eq]
        rfl
      have hscript : UInt32.ofNat arena.self.control.scriptOffset = record.script := by
        rw [hself]
        by_cases hzero : record.script = 0
        · simp [Actor.startAt, hzero, Control.scriptOffset]
        · simp [Actor.startAt, hzero, Control.scriptOffset]
      have hroot : first.Root settings index false
          { Actor.new built arena.name 0 index .plain with isArena := true } record.script :=
        .arena harena hself
      have hrests : first.Rests settings index false arena.self
          (History.fresh.begin record.script) := by
        rw [hself]
        exact .begun (.root hroot) rfl
      have hkept : (start first reads).chronicle index .self =
          History.fresh.begin record.script := by
        simp only [start, Chronicle.start]
        rw [show first.arenas[index]? = some arena from harena]
        simp only [hscript]
      rw [hkept]
      exact hrests
  | live k =>
      rw [harena_eq] at hactor
      simp [Arena.actor?, Level.firstArena, Arena.new] at hactor

end Recorded

end LevelScript
