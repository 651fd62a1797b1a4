import LevelScript.Proofs.Company

/-!
Where failures lead.

An operation makes moves until one of them stops it.  What goes wrong with a script ends the actor
whose script it is, and the operation goes on as if nothing had happened; only a door to nowhere,
or a placement without an arena, stops it.
-/

namespace LevelScript

/-! ### The moves of a play -/

/-- The moves that are made in a play, each with the session in which it is made. -/
inductive Play.Reaches (settings : Settings) : List Move → Session → Move → Session → Prop
  | now (move : Move) (moves : List Move) (session : Session) :
      Reaches settings (move :: moves) session move session
  | later {first : Move} {moves : List Move} {session session' : Session} {move : Move}
      {before : Session} :
      (first.play settings).exec session = (.ok (), session') →
      Reaches settings moves session' move before →
      Reaches settings (first :: moves) session move before

namespace Play

variable {settings : Settings}

/-- What every move preserves holds wherever a move is made. -/
theorem Reaches.induction (holds : Session → Prop)
    (hmove : ∀ session move, holds session → holds (session.move settings move))
    {moves : List Move} {session before : Session} {move : Move}
    (h : Reaches settings moves session move before) (hsession : holds session) : holds before := by
  induction h with
  | now => exact hsession
  | @later first _ session _ _ _ hfirst _ ih =>
      apply ih
      have hnext := hmove session first hsession
      rwa [Session.move, hfirst] at hnext

/-- A move that fails is the last one. -/
theorem Reaches.exec_follow {moves : List Move} {session before after : Session} {move : Move}
    (h : Reaches settings moves session move before) {error : DataError}
    (hmove : (move.play settings).exec before = (.error error, after)) :
    (follow settings moves).exec session = (.error error, after) := by
  induction h with
  | now move moves session => rw [exec_follow_cons, hmove]
  | later hfirst _ ih =>
      rw [exec_follow_cons, hfirst]
      exact ih hmove

/-- The moves of a play are the first one and, if that succeeds, those of the rest. -/
theorem exists_reaches_cons {first : Move} {moves : List Move} {session : Session}
    {holds : Move → Session → Prop} :
    (∃ move before, Reaches settings (first :: moves) session move before ∧ holds move before) ↔
      holds first session ∨
        ∃ session', (first.play settings).exec session = (.ok (), session') ∧
          ∃ move before, Reaches settings moves session' move before ∧ holds move before := by
  constructor
  · rintro ⟨move, before, hreaches, hholds⟩
    cases hreaches with
    | now => exact .inl hholds
    | later hfirst hlater => exact .inr ⟨_, hfirst, move, before, hlater, hholds⟩
  · rintro (hholds | ⟨session', hfirst, move, before, hlater, hholds⟩)
    · exact ⟨first, session, .now first moves session, hholds⟩
    · exact ⟨move, before, .later hfirst hlater, hholds⟩

/-- A play fails with what one of its moves fails with. -/
theorem exec_follow_eq_error (moves : List Move) (session : Session) (error : DataError) :
    ((follow settings moves).exec session).1 = .error error ↔
      ∃ move before, Reaches settings moves session move before ∧
        ((move.play settings).exec before).1 = .error error := by
  induction moves generalizing session with
  | nil =>
      refine iff_of_false nofun ?_
      rintro ⟨_, _, hreaches, _⟩
      cases hreaches
  | cons first moves ih =>
      rw [exec_follow_cons, exists_reaches_cons]
      rcases (first.play settings).exec session with ⟨cause | _, session'⟩
      · simp
      · simp [ih]

end Play

/-! ### Endings -/

namespace Session

variable {settings : Settings}

/-- How the actor on a seat has ended. -/
def endingAt? (session : Session) (index : Nat) (seat : Seat) : Option Ending :=
  (session.actor? index seat).bind Actor.ending?

/-- A member of the company of a move who sits on a seat afterwards and fails. -/
def FailsAt (before : Session) (settings : Settings) (move : Move) (index : Nat) (seat : Seat)
    (failure : ScriptFailure) : Prop :=
  ∃ member ∈ before.company settings move, member.seat? = some (index, seat) ∧
    member.part.Fails ((before.company settings move).map Member.part) failure

/-- After a move those have failed who had failed before, and the members who fail in it. -/
theorem Reckons.endingAt?_move {before : Session} {move : Move} (h : before.Reckons settings move)
    (index : Nat) (seat : Seat) (failure : ScriptFailure) :
    (before.move settings move).endingAt? index seat = some (.failed failure) ↔
      before.endingAt? index seat = some (.failed failure) ∨
        before.FailsAt settings move index seat failure := by
  by_cases hseat : ∃ member ∈ before.company settings move, member.seat? = some (index, seat)
  · obtain ⟨member, hmember, hseat⟩ := hseat
    obtain ⟨hafter, hbefore⟩ := h.seated member hmember index seat hseat
    have hfirst : before.endingAt? index seat = some (.failed failure) ↔
        member.part.first.ending? = some (.failed failure) := by
      rcases hbefore with hsome | ⟨hnone, hfresh⟩
      · simp [endingAt?, hsome]
      · simp [endingAt?, hnone, hfresh]
    rw [hfirst, endingAt?, hafter, Option.bind_some]
    constructor
    · intro hfailed
      rcases ((h.tells member hmember).failed_iff failure).mp hfailed with hfails | hearlier
      · exact .inr ⟨member, hmember, hseat, hfails⟩
      · exact .inl hearlier
    · rintro (hearlier | ⟨other, hother, hseat', hfails⟩)
      · exact ((h.tells member hmember).failed_iff failure).mpr (.inr hearlier)
      · -- Only one actor sits there afterwards.
        obtain ⟨hafter', _⟩ := h.seated other hother index seat hseat'
        rw [hafter] at hafter'
        rw [Option.some.inj hafter']
        exact ((h.tells other hother).failed_iff failure).mpr (.inl hfails)
  · have hspared := h.spared index seat fun member hmember hsome => hseat ⟨member, hmember, hsome⟩
    rw [endingAt?, hspared]
    constructor
    · exact .inl
    · rintro (hearlier | ⟨member, hmember, hsome, _⟩)
      · exact hearlier
      · exact absurd ⟨member, hmember, hsome⟩ hseat

end Session

/-- After a play those have failed who had failed before, and those who failed in one of its
moves. -/
theorem Play.endingAt?_follow {settings : Settings} (moves : List Move) {session : Session}
    (horderly : session.level.Orderly settings) (index : Nat) (seat : Seat)
    (failure : ScriptFailure) :
    ((follow settings moves).exec session).2.endingAt? index seat = some (.failed failure) ↔
      session.endingAt? index seat = some (.failed failure) ∨
        ∃ move before, Reaches settings moves session move before ∧
          before.FailsAt settings move index seat failure := by
  induction moves generalizing session with
  | nil =>
      constructor
      · exact .inl
      · rintro (hearlier | ⟨_, _, hreaches, _⟩)
        · exact hearlier
        · cases hreaches
  | cons first moves ih =>
      have hfirst := (session.reckons horderly first).endingAt?_move index seat failure
      have horderly' := (session.move_orderly first horderly).1
      rw [Session.move] at hfirst horderly'
      rw [exec_follow_cons, exists_reaches_cons, ← or_assoc, ← hfirst]
      generalize (first.play settings).exec session = result at horderly' ⊢
      rcases result with ⟨error | _, session'⟩
      · simp
      · simpa using ih horderly'

/-! ### Operations -/

/-- A move that an operation makes, and the session in which it makes it. -/
def Operation.Makes (settings : Settings) (session : Session) (operation : Operation) (move : Move)
    (before : Session) : Prop :=
  Play.Reaches settings (operation.plan settings session) session move before

/-- What an operation on a level at play makes of what goes wrong in it. -/
structure Operation.Reckons (settings : Settings) (level : Level) (session : Session)
    (operation : Operation) : Prop where
  /-- What stops it is the name of an arena that the level does not have. -/
  unknownArena : ∀ error, ((operation.play settings).exec session).1 = .error error →
    ∃ name, name ∉ level.arenaNames ∧ error = .unknownArena name
  /-- It is stopped by a placement into such an arena, and by what is fatal to a member of one of
  its moves, and goes on whatever else happens. -/
  stops_iff : ∀ error, ((operation.play settings).exec session).1 = .error error ↔
    ∃ move before, operation.Makes settings session move before ∧
      ((∃ placement, move = .place placement ∧ placement.arena ∉ level.arenaNames ∧
          error = .unknownArena placement.arena) ∨
        ∃ member ∈ before.company settings move,
          member.part.raised.bind ScriptFailure.fatal? = some error)
  /-- Whoever fails afterwards has failed before or fails in one of its moves. -/
  failed_iff : ∀ index seat failure,
    (session.after settings operation).endingAt? index seat = some (.failed failure) ↔
      session.endingAt? index seat = some (.failed failure) ∨
        ∃ move before, operation.Makes settings session move before ∧
          before.FailsAt settings move index seat failure
  /-- Failures that are not fatal stay with the actors whose scripts run into them. -/
  mild_iff : ∀ index seat failure, failure.Mild →
    ((session.after settings operation).endingAt? index seat = some (.failed failure) ↔
      session.endingAt? index seat = some (.failed failure) ∨
        ∃ move before, operation.Makes settings session move before ∧
          ∃ member ∈ before.company settings move, member.seat? = some (index, seat) ∧
            member.part.raised = some failure)
  moves : ∀ move before, operation.Makes settings session move before →
    before.Reckons settings move
  /-- A door to nowhere stops it, wherever it is spawned, and everybody on the way to that door has
  failed. -/
  dangles : ∀ move before, operation.Makes settings session move before →
    ∀ member ∈ before.company settings move, ∀ executed ∈ member.part.ran, ∀ name,
      executed.Dangles level.bytes level.arenaNames name →
        ((operation.play settings).exec session).1 = .error (.unknownArena name) ∧
          (∀ path, path <+: member.part.path →
            ∃ other ∈ before.company settings move, other.part.path = path) ∧
          ∀ other ∈ before.company settings move, other.part.path <+: member.part.path →
            other.last.ending? = some (.failed (.format (.unknownArena name))) ∧
              ∀ index seat, other.seat? = some (index, seat) →
                (session.after settings operation).actor? index seat = some other.last

namespace Operation

variable {settings : Settings} {level : Level} {session : Session}

/-- An operation makes its moves in orderly sessions of its level. -/
theorem Makes.orderly {operation : Operation} {move : Move} {before : Session}
    (h : operation.Makes settings session move before) (horderly : session.level.Orderly settings)
    (hgrew : level.Grew session.level) :
    before.level.Orderly settings ∧ level.Grew before.level := by
  refine Play.Reaches.induction (fun current =>
    current.level.Orderly settings ∧ level.Grew current.level) ?_ h ⟨horderly, hgrew⟩
  rintro current move ⟨hcurrent, hlevel⟩
  obtain ⟨hmoved, hgrown⟩ := current.move_orderly move hcurrent
  exact ⟨hmoved, hlevel.trans hgrown⟩

/-- What stops an operation stops one of its moves. -/
theorem exec_play_eq_error (operation : Operation) (horderly : session.level.Orderly settings)
    (hgrew : level.Grew session.level) (error : DataError) :
    ((operation.play settings).exec session).1 = .error error ↔
      ∃ move before, operation.Makes settings session move before ∧
        ((∃ placement, move = .place placement ∧ placement.arena ∉ level.arenaNames ∧
            error = .unknownArena placement.arena) ∨
          ∃ member ∈ before.company settings move,
            member.part.raised.bind ScriptFailure.fatal? = some error) := by
  rw [Play.Makes.operation settings operation session, Play.exec_follow_eq_error]
  apply exists_congr
  intro move
  apply exists_congr
  intro before
  apply and_congr_right
  intro hmakes
  obtain ⟨hbefore, hlevel⟩ := Makes.orderly hmakes horderly hgrew
  rw [(before.reckons hbefore move).stops_iff]
  simp only [Level.arenaIndex, Command.findArena_eq_error, hlevel.arenaNames_eq]

/-- A door to nowhere stops the operation, and everybody on the way to it has failed by then. -/
theorem exec_of_dangles {operation : Operation} {move : Move} {before : Session}
    (hmakes : operation.Makes settings session move before)
    (hreckons : before.Reckons settings move) {member : Member}
    (hmember : member ∈ before.company settings move) {executed : Executed}
    (hexecuted : executed ∈ member.part.ran) {name : String}
    (hdangles : executed.Dangles before.level.bytes before.level.arenaNames name) :
    (operation.play settings).exec session =
        (.error (.unknownArena name), before.move settings move) ∧
      ∀ other ∈ before.company settings move, other.part.path <+: member.part.path →
        other.last.ending? = some (.failed (.format (.unknownArena name))) := by
  have hraised : member.part.raised.bind ScriptFailure.fatal? = some (.unknownArena name) :=
    (hreckons.fatalByDoor member hmember _).mpr ⟨name, rfl, executed, hexecuted, hdangles⟩
  have herror : ((move.play settings).exec before).1 = .error (.unknownArena name) :=
    (hreckons.stops_iff _).mpr (.inr ⟨member, hmember, hraised⟩)
  constructor
  · rw [Play.Makes.operation settings operation session]
    exact Play.Reaches.exec_follow hmakes (Prod.ext herror rfl)
  · intro other hother hleads
    obtain ⟨failure, hfailure, hfatal⟩ := Option.bind_eq_some_iff.mp hraised
    obtain ⟨rfl, _⟩ := ScriptFailure.fatal?_eq_some.mp hfatal
    refine ((hreckons.tells other hother).failed_iff _).mpr (.inl (.inr ⟨?_, member.part, ?_⟩))
    · simp [hfatal]
    · exact ⟨List.mem_map_of_mem hmember, hleads, hfailure⟩

/-- Whatever was done before to a level that was built: an operation returns an error only for the
name of an arena that does not exist, all other failures stay with the actors who run into them, and
a door to nowhere fails everybody on the way to it. -/
theorem reckons_afterAll {built : Settings} {container : Container} {bytes : Bytes}
    {level : Level} (hbuild : Level.build built container bytes = .ok level) (settings : Settings)
    (reads : List Span) (operations : List Operation) (operation : Operation) :
    operation.Reckons settings level ((Session.mk level reads).afterAll settings operations) := by
  have hstart : (Session.mk level reads).level.Orderly settings :=
    Level.build_orderly hbuild settings
  obtain ⟨horderly, hgrew⟩ := Session.afterAll_orderly hstart operations
  generalize (Session.mk level reads).afterAll settings operations = session at horderly hgrew ⊢
  have hmoves : ∀ move before, operation.Makes settings session move before →
      before.Reckons settings move ∧ level.Grew before.level := by
    intro move before hmakes
    obtain ⟨hbefore, hlevel⟩ := Makes.orderly hmakes horderly hgrew
    exact ⟨before.reckons hbefore move, hlevel⟩
  have hstops := operation.exec_play_eq_error horderly hgrew
  have hafter : session.after settings operation =
      ((Play.follow settings (operation.plan settings session)).exec session).2 :=
    congrArg Prod.snd (Play.Makes.operation settings operation session)
  have hfailed := Play.endingAt?_follow (operation.plan settings session) horderly
  rw [← hafter] at hfailed
  constructor
  case unknownArena =>
    intro error herror
    obtain ⟨move, before, hmakes, ⟨placement, _, hnot, rfl⟩ | ⟨member, hmember, hraised⟩⟩ :=
      (hstops error).mp herror
    · exact ⟨placement.arena, hnot, rfl⟩
    · obtain ⟨hreckons, hlevel⟩ := hmoves move before hmakes
      obtain ⟨name, rfl, executed, _, hdangles⟩ :=
        (hreckons.fatalByDoor member hmember error).mp hraised
      exact ⟨name, hlevel.arenaNames_eq ▸ hdangles.not_mem, rfl⟩
  case stops_iff => exact hstops
  case failed_iff => exact hfailed
  case mild_iff =>
    intro index seat failure hmild
    rw [hfailed]
    simp only [Session.FailsAt, Part.fails_of_mild hmild]
    rfl
  case moves => exact fun move before hmakes => (hmoves move before hmakes).1
  case dangles =>
    intro move before hmakes member hmember executed hexecuted name hdangles
    obtain ⟨hreckons, hlevel⟩ := hmoves move before hmakes
    rw [← hlevel.bytes_eq, ← hlevel.arenaNames_eq] at hdangles
    obtain ⟨hexec, hchain⟩ := exec_of_dangles hmakes hreckons hmember hexecuted hdangles
    refine ⟨congrArg Prod.fst hexec, fun path => hreckons.exists_path hmember, ?_⟩
    intro other hother hleads
    refine ⟨hchain other hother hleads, fun index seat hseat => ?_⟩
    have hlast : session.after settings operation = before.move settings move := by
      rw [Session.after, ← Play.exec, hexec]
    rw [hlast]
    exact (hreckons.seated other hother index seat hseat).1

end Operation

/-- A container with one arena, whose script spawns a guard, and guards have a setup script. -/
def Container.besieged : Container :=
  ⟨"LEVEL", 0, [], [], [("HALL$GUARD", 25)], [⟨"HALL", ("", ""), 1⟩]⟩

/-- The scripts of that container: the setup of a guard spawns a door to the arena `VOID`. -/
def Bytes.besieged : Bytes :=
  #[0xff,
    0x56, 0, 0, 0, 0, 0, 0, 0, 0, 0, 0, 0, 0, 5, 0x47, 0x55, 0x41, 0x52, 0x44, 0, 0, 0, 0, 0xff,
    0x95, 0, 0, 0, 0, 0, 0, 0, 0, 0, 0, 0, 0, 0, 0, 0, 0, 0, 0, 0, 0, 1, 0x47,
    4, 0x56, 0x4f, 0x49, 0x44, 0, 0, 0, 0, 0xff]

/-- The arena and the guard fail for the door of the guard, and a maid who was there before does
not. -/
theorem Operation.reckons_afterAll_besieged :
    ∃ level, Level.build .standard .besieged .besieged = .ok level ∧
      let session := (Session.mk level []).afterAll .standard
        [.seed [⟨"HALL", "MAID", 1, .origin, 0⟩]]
      (Operation.invoke 0 .self).Reckons .standard level session ∧
        [.self, .live 0, .live 1].map ((session.after .standard (.invoke 0 .self)).endingAt? 0) =
          [some (.failed (.format (.unknownArena "VOID"))), none,
            some (.failed (.format (.unknownArena "VOID")))] := by
  have hbuild : ∃ level, Level.build .standard .besieged .besieged = .ok level := ⟨_, rfl⟩
  obtain ⟨level, hlevel⟩ := hbuild
  have hendings : (Level.build .standard .besieged .besieged).toOption.map (fun level =>
      let session := (Session.mk level []).afterAll .standard
        [.seed [⟨"HALL", "MAID", 1, .origin, 0⟩]]
      [.self, .live 0, .live 1].map ((session.after .standard (.invoke 0 .self)).endingAt? 0)) =
        some [some (.failed (.format (.unknownArena "VOID"))), none,
          some (.failed (.format (.unknownArena "VOID")))] := by decide +kernel
  rw [hlevel] at hendings
  exact ⟨level, hlevel, reckons_afterAll hlevel _ _ _ _, Option.some.inj hendings⟩

end LevelScript
