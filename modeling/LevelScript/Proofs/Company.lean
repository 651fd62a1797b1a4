import LevelScript.Proofs.Blame
import LevelScript.Proofs.Everywhere

/-!
The company of a move.

Those who take part in a move, each with its part and the seat on which it sits afterwards, are the
company of the move.  A move reckons with what goes wrong in it: what is fatal to a member stops it,
a member ends as its part tells, and everybody else stays on its seat as before.
-/

namespace LevelScript

/-- One who takes part in a move. -/
structure Member where
  part : Part
  /-- The actor at the end of the move. -/
  last : Actor
  /-- Where it sits then; the understudy of a rehearsal has no seat. -/
  seat? : Option (Nat × Seat)

/-- The newcomers of a run take the seats of an arena from a number on. -/
def Cast.newcomers (cast : Cast) (scene : Scene) (home count : Nat) : List Member :=
  ((cast.others.zip scene.spawned.toList).zipIdx count).map fun ((part, last), k) =>
    ⟨part, last, some (home, .live k)⟩

def Cast.company (cast : Cast) (scene : Scene) (seat? : Option (Nat × Seat)) (home count : Nat) :
    List Member :=
  ⟨cast.own, scene.actor, seat?⟩ :: cast.newcomers scene home count

namespace Session

/-- The company of what happens to the actor on a seat. -/
def turnCompany (session : Session) (settings : Settings) (index : Nat) (seat : Seat)
    (tell : Stage → Scene → Cast) (happen : Stage → Scene → Outcome) : List Member :=
  match session.actor? index seat with
  | none => []
  | some actor =>
    match session.level.arenas[actor.arena]? with
    | none => []
    | some home =>
      let stage := session.stage settings home actor.arena false
      let scene : Scene := ⟨actor, session.world home, #[]⟩
      (tell stage scene).company (happen stage scene).2 (some (index, seat)) actor.arena
        home.live.size

/-- The cast of placing an actor. -/
def placingCast (session : Session) (settings : Settings) (placement : Placement) (index : Nat)
    (arena : Arena) : Cast :=
  settleCast (session.stage settings arena index false) settings.maxCallDepth
    (Play.placedActor settings index placement) ((arena.inits.get? placement.localKey).getD 0)
    (session.world arena)

/-- The cast of a rehearsal. -/
def rehearsalCast (session : Session) (settings : Settings) (index : Nat) (entry : OffsetEntry)
    (arena : Arena) : Cast :=
  (session.stage settings arena index true).invokeCast
    ⟨(Play.understudy settings arena index entry.1).startAt entry.2, session.world arena, #[]⟩

/-- Everybody who takes part in a move. -/
def company (session : Session) (settings : Settings) : Move → List Member
  | .place placement =>
    match session.level.arenaIndex placement.arena with
    | .error _ => []
    | .ok index =>
      match session.level.arenas[index]? with
      | none => []
      | some arena =>
        (session.placingCast settings placement index arena).company
          (session.placing settings placement index arena).2 (some (index, .live arena.live.size))
          index (arena.live.size + 1)
  | .invoke index seat => session.turnCompany settings index seat Stage.invokeCast Stage.invoke
  | .tick index seat => session.turnCompany settings index seat Stage.tickCast Stage.tick
  | .rehearse index entry =>
    match session.level.arenas[index]? with
    | none => []
    | some arena =>
      (session.rehearsalCast settings index entry arena).company
        (session.rehearsal settings index entry arena).2 none index arena.live.size

/-- What a move makes of what goes wrong in it. -/
structure Reckons (before : Session) (settings : Settings) (move : Move) : Prop where
  /-- It stops for what is fatal, and for a placement without an arena. -/
  stops_iff : ∀ error, ((move.play settings).exec before).1 = .error error ↔
    (∃ placement, move = .place placement ∧
      before.level.arenaIndex placement.arena = .error error) ∨
    ∃ member ∈ before.company settings move,
      member.part.raised.bind ScriptFailure.fatal? = some error
  /-- Members are told of truly, each among all parts of the move. -/
  tells : ∀ member ∈ before.company settings move,
    member.part.Tells ((before.company settings move).map Member.part) member.last
  fatalByDoor : ∀ member ∈ before.company settings move, ∀ error,
    member.part.raised.bind ScriptFailure.fatal? = some error ↔
      ∃ name, error = .unknownArena name ∧ ∃ executed ∈ member.part.ran,
        executed.Dangles before.level.bytes before.level.arenaNames name
  /-- Whoever does not begin the move is spawned by another member. -/
  led : ∀ member ∈ before.company settings move, member.part.path = [] ∨
    ∃ other ∈ before.company settings move, other.part.Spawns member.part
  seated : ∀ member ∈ before.company settings move, ∀ index seat,
    member.seat? = some (index, seat) →
      (before.move settings move).actor? index seat = some member.last ∧
        (before.actor? index seat = some member.part.first ∨
          before.actor? index seat = none ∧ member.part.first.ending? = none)
  unseated : ∀ member ∈ before.company settings move, member.seat? = none →
    ∃ index entry, move = .rehearse index entry
  /-- Everybody else stays as before. -/
  spared : ∀ index seat,
    (∀ member ∈ before.company settings move, member.seat? ≠ some (index, seat)) →
      (before.move settings move).actor? index seat = before.actor? index seat

end Session

/-! ### Seats -/

namespace Session

variable (session : Session)

theorem actor?_updateArena (index : Nat) (update : Arena → Arena) (i : Nat) (seat : Seat) :
    (session.updateArena index update).actor? i seat =
      if index = i then (session.level.arenas[i]?).bind fun arena => (update arena).actor? seat
      else session.actor? i seat := by
  unfold actor?
  rw [updateArena_getElem?]
  by_cases hi : index = i
  · simp only [hi, ↓reduceIte]
    cases session.level.arenas[i]? <;> rfl
  · simp only [hi, ↓reduceIte]

/-- A change of an arena that leaves its actors alone. -/
theorem actor?_updateArena_of_same {update : Arena → Arena}
    (h : ∀ arena seat, (update arena).actor? seat = arena.actor? seat) (index i : Nat)
    (seat : Seat) : (session.updateArena index update).actor? i seat = session.actor? i seat := by
  rw [actor?_updateArena]
  split
  · simp only [h]
    unfold actor?
    cases session.level.arenas[i]? <;> rfl
  · rfl

theorem actor?_share (index : Nat) (world : World) (i : Nat) (seat : Seat) :
    (session.share index world).actor? i seat = session.actor? i seat := by
  have hvars := session.actor?_updateArena_of_same
    fun arena => arena.actor?_withVars world.arenaVars
  exact hvars index i seat

variable {session} {index : Nat}

theorem actor?_setActor {seat : Seat} {old : Actor} (h : session.actor? index seat = some old)
    (actor : Actor) (i : Nat) (seat' : Seat) :
    (session.updateArena index (·.setActor seat actor)).actor? i seat' =
      if (i, seat') = (index, seat) then some actor else session.actor? i seat' := by
  obtain ⟨arena, harena, hseat⟩ := actor?_eq_some h
  rw [actor?_updateArena]
  by_cases hi : index = i
  · subst hi
    simp only [↓reduceIte, harena, Option.bind_some, Prod.mk.injEq, true_and]
    have hsame : session.actor? index seat' = arena.actor? seat' := by simp [actor?, harena]
    rw [hsame]
    cases seat with
    | self => cases seat' <;> rfl
    | live k =>
        cases seat' with
        | self => rfl
        | live k' =>
            have hlt : k < arena.live.size := (Array.getElem?_eq_some_iff.mp hseat).1
            simp only [Arena.actor?, Arena.setActor, Array.getElem?_setIfInBounds, hlt, ↓reduceIte,
              Seat.live.injEq, eq_comm]
  · simp [hi, Ne.symm hi]

/-- The actors who join an arena take the seats after those who live there. -/
theorem actor?_append {arena : Arena} (harena : session.level.arenas[index]? = some arena)
    (actors : Array Actor) (k : Nat) :
    (session.updateArena index (·.append actors)).actor? index (.live (arena.live.size + k)) =
      actors[k]? := by
  rw [actor?_updateArena]
  have hnot : ¬ arena.live.size + k < arena.live.size := by omega
  simp only [↓reduceIte, harena, Option.bind_some, Arena.append, Arena.actor?,
    Array.getElem?_append, hnot, Nat.add_sub_cancel_left]

theorem actor?_append_of_ne {arena : Arena} (harena : session.level.arenas[index]? = some arena)
    {actors : Array Actor} {i : Nat} {seat : Seat}
    (h : ∀ k < actors.size, (i, seat) ≠ (index, .live (arena.live.size + k))) :
    (session.updateArena index (·.append actors)).actor? i seat = session.actor? i seat := by
  rw [actor?_updateArena]
  by_cases hi : index = i
  · subst hi
    simp only [↓reduceIte, harena, Option.bind_some, actor?]
    cases seat with
    | self => rfl
    | live k =>
        simp only [Arena.actor?, Arena.append, Array.getElem?_append]
        split
        · rfl
        · next hge =>
          -- A seat beyond the newcomers is as empty as before.
          have hout : actors.size ≤ k - arena.live.size := by
            by_contra hlt
            refine h (k - arena.live.size) (by omega) ?_
            rw [Nat.add_sub_of_le (by omega)]
          rw [Array.getElem?_eq_none hout, Array.getElem?_eq_none (by omega)]
  · rw [if_neg hi]

/-- Nobody sits beyond those who live in an arena. -/
theorem actor?_eq_none {arena : Arena} (harena : session.level.arenas[index]? = some arena)
    (k : Nat) : session.actor? index (.live (arena.live.size + k)) = none := by
  simp [actor?, harena, Arena.actor?]

end Session

namespace Cast

variable {cast : Cast} {scene : Scene} {home count : Nat}

theorem mem_newcomers {member : Member} :
    member ∈ cast.newcomers scene home count ↔
      ∃ k, cast.others[k]? = some member.part ∧ scene.spawned[k]? = some member.last ∧
        member.seat? = some (home, .live (count + k)) := by
  obtain ⟨part, last, seat?⟩ := member
  simp only [newcomers, List.mem_map, Prod.exists, List.mk_mem_zipIdx_iff_le_and_getElem?_sub,
    List.getElem?_zip_eq_some, Array.getElem?_toList, Member.mk.injEq]
  constructor
  · rintro ⟨part', last', k, ⟨hle, hpart, hlast⟩, rfl, rfl, rfl⟩
    exact ⟨k - count, hpart, hlast, by rw [Nat.add_sub_of_le hle]⟩
  · rintro ⟨k, hpart, hlast, rfl⟩
    refine ⟨part, last, count + k, ⟨Nat.le_add_right _ _, ?_, ?_⟩, rfl, rfl, rfl⟩
    · rwa [Nat.add_sub_cancel_left]
    · rwa [Nat.add_sub_cancel_left]

variable {outcome : Outcome} {seat? : Option (Nat × Seat)}

/-- The company has the parts of the cast. -/
theorem Tells.company_parts (h : cast.Tells outcome) (seat? : Option (Nat × Seat))
    (home count : Nat) :
    (cast.company outcome.2 seat? home count).map Member.part = cast.parts := by
  let pairs := cast.others.zip outcome.2.spawned.toList
  have hothers : (cast.newcomers outcome.2 home count).map Member.part = cast.others := by
    calc (cast.newcomers outcome.2 home count).map Member.part
      _ = ((pairs.zipIdx count).map Prod.fst).map Prod.fst := by
          simp only [pairs, newcomers, List.map_map, Function.comp_def]
      _ = pairs.map Prod.fst := by rw [List.zipIdx_map_fst]
      _ = cast.others := List.map_fst_zip (by simp [h.size_spawned])
  rw [company, List.map_cons, hothers, Cast.parts]

theorem Tells.company_tells (h : cast.Tells outcome) {member : Member}
    (hmember : member ∈ cast.company outcome.2 seat? home count) :
    member.part.Tells cast.parts member.last := by
  obtain ⟨hown, hothers⟩ := List.forall₂_cons.mp h.parts
  rcases List.mem_cons.mp hmember with rfl | hnew
  · exact hown
  · obtain ⟨k, hpart, hlast, _⟩ := mem_newcomers.mp hnew
    rw [← Array.getElem?_toList] at hlast
    obtain ⟨hk, hpart⟩ := List.getElem?_eq_some_iff.mp hpart
    obtain ⟨hk', hlast⟩ := List.getElem?_eq_some_iff.mp hlast
    rw [← hpart, ← hlast]
    exact hothers.get hk' hk

/-- How the company of a run comes to sit: its own actor where it sat before, or where nobody sat,
the newcomers where nobody sat, and everybody else as before. -/
structure Seated (cast : Cast) (scene : Scene) (seat? : Option (Nat × Seat)) (home count : Nat)
    (before after : Session) : Prop where
  own : ∀ index seat, seat? = some (index, seat) →
    after.actor? index seat = some scene.actor ∧
      (before.actor? index seat = some cast.own.first ∨
        before.actor? index seat = none ∧ cast.own.first.ending? = none)
  new : ∀ k < scene.spawned.size,
    after.actor? home (.live (count + k)) = scene.spawned[k]? ∧
      before.actor? home (.live (count + k)) = none
  spared : ∀ index seat, seat? ≠ some (index, seat) →
    (∀ k < scene.spawned.size, (index, seat) ≠ (home, .live (count + k))) →
      after.actor? index seat = before.actor? index seat

variable {before after : Session} {index : Nat} {seat : Seat}

/-- Afterwards every member sits on its seat, and there it sat before or nobody did. -/
theorem Seated.member (h : cast.Seated outcome.2 seat? home count before after)
    (htells : cast.Tells outcome) {member : Member}
    (hmember : member ∈ cast.company outcome.2 seat? home count)
    (hseat : member.seat? = some (index, seat)) :
    after.actor? index seat = some member.last ∧
      (before.actor? index seat = some member.part.first ∨
        before.actor? index seat = none ∧ member.part.first.ending? = none) := by
  rcases List.mem_cons.mp hmember with rfl | hnew
  · exact h.own index seat hseat
  · obtain ⟨k, hpart, hlast, hseat'⟩ := mem_newcomers.mp hnew
    rw [hseat] at hseat'
    cases hseat'
    obtain ⟨hlt, _⟩ := Array.getElem?_eq_some_iff.mp hlast
    obtain ⟨hafter, hbefore⟩ := h.new k hlt
    have hfirst := htells.others_first member.part (List.mem_of_getElem? hpart)
    exact ⟨hafter.trans hlast, .inr ⟨hbefore, hfirst⟩⟩

/-- On a seat of no member nothing changes. -/
theorem Seated.nonmember (h : cast.Seated outcome.2 seat? home count before after)
    (htells : cast.Tells outcome)
    (hother : ∀ member ∈ cast.company outcome.2 seat? home count,
      member.seat? ≠ some (index, seat)) :
    after.actor? index seat = before.actor? index seat := by
  refine h.spared index seat (hother _ List.mem_cons_self) ?_
  intro k hlt heq
  have hk : k < cast.others.length := htells.size_spawned ▸ hlt
  let newcomer : Member := ⟨cast.others[k], outcome.2.spawned[k], some (index, seat)⟩
  refine hother newcomer (List.mem_cons_of_mem _ (mem_newcomers.mpr ⟨k, ?_, ?_, ?_⟩)) rfl
  · exact List.getElem?_eq_getElem hk
  · exact Array.getElem?_eq_getElem hlt
  · rw [← heq]

end Cast

namespace Session

variable {before : Session} {settings : Settings} {move : Move}

/-- A move that plays out as its cast tells. -/
theorem Reckons.of_cast {stage : Stage} {cast : Cast} {outcome : Outcome}
    {seat? : Option (Nat × Seat)} {home count : Nat}
    (hcompany : before.company settings move = cast.company outcome.2 seat? home count)
    (htells : cast.Tells outcome) (hdoor : cast.FatalByDoor stage)
    (hbytes : stage.bytes = before.level.bytes) (harenas : stage.arenas = before.level.arenaNames)
    (hresult : ((move.play settings).exec before).1 = outcome.1.elim (.ok ()) .error)
    (hplaced : ∀ placement error, move = .place placement →
      before.level.arenaIndex placement.arena ≠ .error error)
    (hseated : cast.Seated outcome.2 seat? home count before (before.move settings move))
    (hunseated : seat? = none → ∃ index entry, move = .rehearse index entry) :
    before.Reckons settings move := by
  have hparts := htells.company_parts seat? home count
  have hmem : ∀ member ∈ before.company settings move, member.part ∈ cast.parts := by
    intro member hmember
    rw [← hparts, ← hcompany]
    exact List.mem_map_of_mem hmember
  constructor
  case stops_iff =>
    intro error
    have helim : outcome.1.elim (.ok ()) .error = (.error error : Except DataError Unit) ↔
        outcome.1 = some error := by
      cases outcome.1 <;> simp
    rw [hresult, helim, htells.fatal_iff]
    constructor
    · rintro ⟨part, hpart, failure, hraised, hfatal⟩
      rw [← hparts, ← hcompany] at hpart
      obtain ⟨member, hmember, rfl⟩ := List.mem_map.mp hpart
      exact .inr ⟨member, hmember, Option.bind_eq_some_iff.mpr ⟨failure, hraised, hfatal⟩⟩
    · rintro (⟨placement, hmove, herror⟩ | ⟨member, hmember, hraised⟩)
      · exact absurd herror (hplaced placement error hmove)
      · obtain ⟨failure, hraised, hfatal⟩ := Option.bind_eq_some_iff.mp hraised
        exact ⟨member.part, hmem member hmember, failure, hraised, hfatal⟩
  case tells =>
    intro member hmember
    rw [hcompany] at hmember ⊢
    rw [hparts]
    exact htells.company_tells hmember
  case fatalByDoor =>
    intro member hmember
    rw [← hbytes, ← harenas]
    exact hdoor member.part (hmem member hmember)
  case led =>
    intro member hmember
    rcases List.mem_cons.mp (hmem member hmember) with hown | hothers
    · exact .inl (hown ▸ htells.own_path)
    · obtain ⟨other, hother, hspawns⟩ := htells.others_by member.part hothers
      rw [← hparts, ← hcompany] at hother
      obtain ⟨member', hmember', rfl⟩ := List.mem_map.mp hother
      exact .inr ⟨member', hmember', hspawns⟩
  case seated =>
    intro member hmember index seat hseat
    rw [hcompany] at hmember
    exact hseated.member htells hmember hseat
  case unseated =>
    intro member hmember hnone
    rw [hcompany] at hmember
    rcases List.mem_cons.mp hmember with rfl | hnew
    · exact hunseated hnone
    · obtain ⟨k, _, _, hseat⟩ := Cast.mem_newcomers.mp hnew
      simp [hnone] at hseat
  case spared =>
    intro index seat hother
    rw [hcompany] at hother
    exact hseated.nonmember htells hother

/-- The way to a member leads through members. -/
theorem Reckons.exists_path (h : before.Reckons settings move) {member : Member}
    (hmember : member ∈ before.company settings move) {path : List Nat}
    (hleads : path <+: member.part.path) :
    ∃ other ∈ before.company settings move, other.part.path = path := by
  induction hlength : member.part.path.length generalizing member with
  | zero =>
      have hnil : member.part.path = [] := List.length_eq_zero_iff.mp hlength
      refine ⟨member, hmember, ?_⟩
      rw [hnil] at hleads ⊢
      exact (List.prefix_nil.mp hleads).symm
  | succ length ih =>
      rcases h.led member hmember with hnil | ⟨other, hother, executed, _, hpath⟩
      · simp [hnil] at hlength
      · rw [hpath, List.prefix_concat_iff] at hleads
        rcases hleads with hwhole | hleads
        · exact ⟨member, hmember, hpath.trans hwhole.symm⟩
        · exact ih hother hleads (by simpa [hpath] using hlength)

/-- A move in which nobody takes part. -/
theorem Reckons.of_nobody (hcompany : before.company settings move = [])
    (hafter : before.move settings move = before)
    (hresult : ∀ error, ((move.play settings).exec before).1 = .error error ↔
      ∃ placement, move = .place placement ∧
        before.level.arenaIndex placement.arena = .error error) :
    before.Reckons settings move := by
  constructor
  case stops_iff => simp [hcompany, hresult]
  case spared => simp [hafter]
  all_goals simp [hcompany]

/-! ### Every move -/

/-- What is told of something that happens on a stage. -/
structure Billed (happen : Stage → Scene → Outcome) (tell : Stage → Scene → Cast) : Prop where
  tells : ∀ (stage : Stage) (scene : Scene), scene.spawned = #[] →
    (tell stage scene).Tells (happen stage scene)
  fatalByDoor : ∀ (stage : Stage) (scene : Scene), (tell stage scene).FatalByDoor stage
  first : ∀ (stage : Stage) (scene : Scene), (tell stage scene).own.first = scene.actor

theorem billed_invoke : Billed Stage.invoke Stage.invokeCast :=
  ⟨Stage.invoke_tells, Stage.invokeCast_fatalByDoor, fun _ _ => rfl⟩

theorem billed_tick : Billed Stage.tick Stage.tickCast := by
  refine ⟨Stage.tick_tells, Stage.tickCast_fatalByDoor, fun stage scene => ?_⟩
  unfold Stage.tickCast
  split
  · split <;> rfl
  · rfl

/-- In a turn an actor stays on its seat, and newcomers join its arena. -/
theorem seated_takeTurn {session : Session} {index : Nat} {seat : Seat} {actor : Actor}
    {arena : Arena} (hactor : session.actor? index seat = some actor)
    (harena : session.level.arenas[index]? = some arena) {cast : Cast} {scene : Scene}
    (hfirst : cast.own.first = actor) :
    cast.Seated scene (some (index, seat)) index arena.live.size session
      (session.takeTurn index seat index scene) := by
  let changed := session.updateArena index (·.setActor seat scene.actor)
  have hchanged : changed.level.arenas[index]? = some (arena.setActor seat scene.actor) := by
    simp [changed, updateArena_getElem?, harena]
  have hsize := arena.setActor_size seat scene.actor
  -- The seats of the newcomers were free.
  have hfree : ∀ k, (index, seat) ≠ (index, .live (arena.live.size + k)) := by
    rintro k heq
    cases heq
    rw [actor?_eq_none harena k] at hactor
    cases hactor
  have hafter : ∀ i seat', (session.takeTurn index seat index scene).actor? i seat' =
      (changed.updateArena index (·.append scene.spawned)).actor? i seat' :=
    actor?_share _ index scene.world
  constructor
  case own =>
    rintro i seat' ⟨⟩
    refine ⟨?_, .inl (hfirst ▸ hactor)⟩
    rw [hafter, actor?_append_of_ne hchanged fun k _ => hsize ▸ hfree k, actor?_setActor hactor]
    exact if_pos rfl
  case new =>
    intro k _
    refine ⟨?_, actor?_eq_none harena k⟩
    rw [hafter, ← hsize]
    exact actor?_append hchanged scene.spawned k
  case spared =>
    intro i seat' hne hnew
    have hne' : (i, seat') ≠ (index, seat) := fun heq => hne (by rw [heq])
    rw [hafter, actor?_append_of_ne hchanged fun k hk => hsize ▸ hnew k hk,
      actor?_setActor hactor]
    exact if_neg hne'

theorem exec_withActor {session : Session} {index : Nat} {seat : Seat} {actor : Actor}
    {home : Arena} (hactor : session.actor? index seat = some actor)
    (hhome : session.level.arenas[actor.arena]? = some home) (happen : Stage → Scene → Outcome) :
    ((Play.withActor settings index seat happen).exec session).1 =
      (happen (session.stage settings home actor.arena false)
        ⟨actor, session.world home, #[]⟩).1.elim (.ok ()) .error := by
  rw [Play.withActor, Play.exec_bind, Play.exec_get]
  simp only [hactor, hhome]
  rcases happen (session.stage settings home actor.arena false)
    ⟨actor, session.world home, #[]⟩ with ⟨_ | fatal, scene⟩ <;> rfl

theorem reckons_turn {session : Session} (horderly : session.level.Orderly settings)
    {index : Nat} {seat : Seat} {move : Move} {happen : Stage → Scene → Outcome}
    {tell : Stage → Scene → Cast} (hbilled : Billed happen tell)
    (hplay : move.play settings = Play.withActor settings index seat happen)
    (hcompany : session.company settings move = session.turnCompany settings index seat tell happen)
    (hplace : ∀ placement, move ≠ .place placement) : session.Reckons settings move := by
  have hafter : session.move settings move = session.turn settings index seat happen := by
    rw [Session.move, hplay, exec_withActor_snd]
  cases hactor : session.actor? index seat with
  | none =>
      apply Reckons.of_nobody
      · rw [hcompany, turnCompany, hactor]
      · rw [hafter, turn, hactor]
      · have hexec : (Play.withActor settings index seat happen).exec session =
            (.ok (), session) := by
          rw [Play.withActor, Play.exec_bind, Play.exec_get]
          simp only [hactor]
          rfl
        simp [hplay, hexec, hplace]
  | some actor =>
      obtain ⟨arena, harena, hseat⟩ := actor?_eq_some hactor
      obtain rfl : actor.arena = index := (horderly index arena harena).actor_arena hseat
      let stage := session.stage settings arena actor.arena false
      let scene : Scene := ⟨actor, session.world arena, #[]⟩
      apply Reckons.of_cast
      case hcompany =>
        rw [hcompany, turnCompany, hactor]
        simp only [harena]
        rfl
      case htells => exact hbilled.tells stage scene rfl
      case hdoor => exact hbilled.fatalByDoor stage scene
      case hbytes => rfl
      case harenas => rfl
      case hresult => rw [hplay, exec_withActor hactor harena]
      case hplaced => exact fun placement _ hmove => absurd hmove (hplace placement)
      case hseated =>
        rw [hafter, turn, hactor]
        simp only [harena]
        exact seated_takeTurn hactor harena (hbilled.first stage scene)
      case hunseated => simp

/-- An actor that is placed and its newcomers take the seats after those who live in the arena. -/
theorem seated_placed {session : Session} {index : Nat} {arena : Arena}
    (harena : session.level.arenas[index]? = some arena) {cast : Cast} {scene : Scene}
    (hfirst : cast.own.first.ending? = none) :
    cast.Seated scene (some (index, .live arena.live.size)) index (arena.live.size + 1) session
      ((session.updateArena index (·.append (#[scene.actor] ++ scene.spawned))).share index
        scene.world) := by
  let joined := session.updateArena index (·.append (#[scene.actor] ++ scene.spawned))
  have hafter : ∀ i seat, (joined.share index scene.world).actor? i seat = joined.actor? i seat :=
    actor?_share _ index scene.world
  constructor
  case own =>
    rintro i seat ⟨⟩
    refine ⟨?_, .inr ⟨actor?_eq_none harena 0, hfirst⟩⟩
    rw [hafter]
    have hjoined := actor?_append harena (#[scene.actor] ++ scene.spawned) 0
    simpa [Array.getElem?_append] using hjoined
  case new =>
    intro k _
    rw [Nat.add_assoc]
    refine ⟨?_, actor?_eq_none harena (1 + k)⟩
    rw [hafter, actor?_append harena, Array.getElem?_append_right (by simp)]
    simp
  case spared =>
    intro i seat hown hnew
    rw [hafter]
    refine actor?_append_of_ne harena fun k hk => ?_
    cases k with
    | zero => exact fun heq => hown (by rw [heq]; rfl)
    | succ k =>
        have hlt : k < scene.spawned.size := by simpa [Nat.add_comm] using hk
        rw [Nat.add_comm k 1, ← Nat.add_assoc]
        exact hnew k hlt

theorem placing_tells (session : Session) (settings : Settings) (placement : Placement)
    (index : Nat) (arena : Arena) :
    (session.placingCast settings placement index arena).own.first.ending? = none ∧
      (session.placingCast settings placement index arena).Tells
        (session.placing settings placement index arena) := by
  obtain ⟨hfirst, htells⟩ := settle_heralds (session.stage settings arena index false)
    settings.maxCallDepth (Play.placedActor settings index placement)
    ((arena.inits.get? placement.localKey).getD 0) (session.world arena) rfl
  exact ⟨congrArg Actor.ending? hfirst, htells⟩

theorem exec_place (session : Session) (settings : Settings) (placement : Placement) :
    ((Play.place settings placement).exec session).1 =
      match session.level.arenaIndex placement.arena with
      | .error error => .error error
      | .ok index =>
        match session.level.arenas[index]? with
        | none => .ok ()
        | some arena =>
          (session.placing settings placement index arena).1.elim (.ok ()) .error := by
  rw [Play.place, Play.exec_bind, Play.exec_get]
  dsimp only
  cases session.level.arenaIndex placement.arena with
  | error error => rfl
  | ok index =>
      dsimp only
      cases session.level.arenas[index]? with
      | none => rfl
      | some arena =>
          dsimp only [placing]
          rcases settle (session.stage settings arena index false) settings.maxCallDepth
            (Play.placedActor settings index placement)
            ((arena.inits.get? placement.localKey).getD 0) (session.world arena) with
            ⟨_ | fatal, scene⟩ <;> rfl

theorem reckons_place (session : Session) (placement : Placement) :
    session.Reckons settings (.place placement) := by
  have hexec := session.exec_place settings placement
  cases hindex : session.level.arenaIndex placement.arena with
  | error error =>
      apply Reckons.of_nobody
      · simp only [company, hindex]
      · rw [move_place, placed, hindex]
      · simp [Move.play, hexec, hindex]
  | ok index =>
      cases harena : session.level.arenas[index]? with
      | none =>
          apply Reckons.of_nobody
          · simp only [company, hindex, harena]
          · simp only [move_place, placed, hindex, harena]
          · simp [Move.play, hexec, hindex, harena]
      | some arena =>
          obtain ⟨hfirst, htells⟩ := session.placing_tells settings placement index arena
          apply Reckons.of_cast
          case hcompany =>
            simp only [company, hindex, harena]
            rfl
          case htells => exact htells
          case hdoor =>
            exact settleCast_fatalByDoor (session.stage settings arena index false) _ _ _ _
          case hbytes => rfl
          case harenas => rfl
          case hresult => simp only [Move.play, hexec, hindex, harena]
          case hplaced =>
            rintro other error ⟨⟩
            simp [hindex]
          case hseated =>
            simp only [move_place, placed, hindex, harena]
            exact seated_placed harena hfirst
          case hunseated => simp

/-- A rehearsal leaves everybody alone. -/
theorem actor?_rehearsed (session : Session) (settings : Settings) (index : Nat)
    (entry : OffsetEntry) (i : Nat) (seat : Seat) :
    (session.rehearsed settings index entry).actor? i seat = session.actor? i seat := by
  unfold rehearsed
  cases session.level.arenas[index]? with
  | none => rfl
  | some arena =>
      dsimp only
      split
      · exact session.actor?_share _ _ _ _
      · rw [actor?_share]
        refine session.actor?_updateArena_of_same ?_ _ _ _
        intro arena seat
        cases seat <;> rfl

theorem exec_rehearse (session : Session) (settings : Settings) (index : Nat)
    (entry : OffsetEntry) :
    ((Play.rehearse settings index entry).exec session).1 =
      match session.level.arenas[index]? with
      | none => .ok ()
      | some arena => (session.rehearsal settings index entry arena).1.elim (.ok ()) .error := by
  rw [Play.rehearse, Play.exec_bind, Play.exec_get]
  dsimp only
  cases session.level.arenas[index]? with
  | none => rfl
  | some arena =>
      dsimp only [rehearsal]
      rcases (session.stage settings arena index true).invoke
        ⟨(Play.understudy settings arena index entry.1).startAt entry.2, session.world arena, #[]⟩
        with ⟨_ | fatal, scene⟩ <;> rfl

theorem reckons_rehearse (session : Session) (index : Nat) (entry : OffsetEntry) :
    session.Reckons settings (.rehearse index entry) := by
  have hexec := session.exec_rehearse settings index entry
  cases harena : session.level.arenas[index]? with
  | none =>
      apply Reckons.of_nobody
      · simp only [company, harena]
      · simp only [move_rehearse, rehearsed, harena]
      · simp [Move.play, hexec, harena]
  | some arena =>
      let stage := session.stage settings arena index true
      let scene : Scene :=
        ⟨(Play.understudy settings arena index entry.1).startAt entry.2, session.world arena, #[]⟩
      have htells := stage.invoke_tells scene rfl
      apply Reckons.of_cast
      case hcompany =>
        simp only [company, harena]
        rfl
      case htells => exact htells
      case hdoor => exact stage.invokeCast_fatalByDoor scene
      case hbytes => rfl
      case harenas => rfl
      case hresult => simp only [Move.play, hexec, harena]
      case hplaced =>
        intro _ _ hmove
        cases hmove
      case hseated =>
        have hnobody : (session.rehearsal settings index entry arena).2.spawned.size = 0 :=
          htells.size_spawned.trans (congrArg List.length (stage.invokeCast_others rfl scene))
        refine ⟨fun i seat hseat => ?_, fun k hk => ?_, fun i seat _ _ => ?_⟩
        · cases hseat
        · omega
        · rw [move_rehearse]
          exact session.actor?_rehearsed settings index entry i seat
      case hunseated => exact fun _ => ⟨index, entry, rfl⟩

/-- Every move of an orderly session reckons with its failures. -/
theorem reckons (session : Session) (horderly : session.level.Orderly settings) (move : Move) :
    session.Reckons settings move := by
  cases move with
  | place placement => exact reckons_place session placement
  | invoke index seat => exact reckons_turn horderly billed_invoke rfl rfl nofun
  | tick index seat => exact reckons_turn horderly billed_tick rfl rfl nofun
  | rehearse index entry => exact reckons_rehearse session index entry

end Session

end LevelScript
