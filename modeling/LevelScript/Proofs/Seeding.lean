import LevelScript.Proofs.Company
import LevelScript.Proofs.Routing

/-!
Seeding a level.

Every record of a level's world data adds its actor to the first arena of its name, behind those
who live there by then, and the actors that the setup script spawns come behind it.  The script of
the actor is looked up in the table of its arena, under a name and a number.  Routing has cut the
keys of the container's table into those, so the lookup finds what the whole key has there, as long
as the name of the arena has no dollar sign.
-/

namespace LevelScript

/-- The offset that the first entry of the whole key has for a placed actor, zero without entry. -/
def Container.initOf (container : Container) (record : Placement) : UInt32 :=
  ((container.inits.find? (·.1 == record.tableKey)).map (·.2)).getD 0

/-- An actor of a record, who was settled in for a script and not played since. -/
structure Actor.Seeded (record : Placement) (index : Nat) (init : UInt32) (actor : Actor) :
    Prop where
  name_eq : actor.name = record.name
  id_eq : actor.id = record.id
  arena_eq : actor.arena = index
  isArena_eq : actor.isArena = false
  kind_eq : actor.kind = .plain
  log_head : actor.log[0]? = some (.placed record.position record.value)
  /-- It was pointed at its script last, unless its setup script took it away or failed. -/
  enrolled : actor.isGone = true ∨ ∃ setUp : Actor, actor = setUp.enroll init

namespace Session

/-- The actors who live in an arena. -/
def live (session : Session) (index : Nat) : Array Actor :=
  ((session.level.arenas[index]?).map Arena.live).getD #[]

/-- The record adds its actor to an arena, settled in for a script, and those whom its setup script
spawns.  All others stay as they are. -/
structure Adds (before : Session) (settings : Settings) (record : Placement) (index : Nat)
    (init : UInt32) (actor : Actor) (after : Session) : Prop where
  adds : ∃ arena world newcomers, before.level.arenas[index]? = some arena ∧
    settle (before.stage settings arena index false) settings.maxCallDepth
        (Play.placedActor settings index record) init (before.world arena) =
      (none, ⟨actor, world, newcomers⟩) ∧
    after.live index = before.live index ++ (#[actor] ++ newcomers)
  spared : ∀ other ≠ index, after.live other = before.live other

/-- The setup script of a record's actor stops everything. -/
def SetupFails (session : Session) (settings : Settings) (record : Placement) : Prop :=
  ∃ index arena error, Level.FirstAt session.level.arenaNames record.arena index ∧
    session.level.arenas[index]? = some arena ∧
    (session.placing settings record index arena).1 = some error

end Session

/-! ### Keys -/

namespace Container

theorem KeyParts.unique {key arena arena' name name' : String} (h : KeyParts key arena name)
    (h' : KeyParts key arena' name') : arena' = arena ∧ name' = name := by
  have hsplit := (splitKey_eq_ok.mpr h').symm.trans (splitKey_eq_ok.mpr h)
  simpa using hsplit

theorem KeyParts.key_eq {key key' arena name : String} (h : KeyParts key arena name)
    (h' : KeyParts key' arena name) : key' = key :=
  String.toList_inj.mp (h'.toList_eq.trans h.toList_eq.symm)

theorem keyParts_tableKey {record : Placement} (h : '$' ∉ record.arena.toList) :
    KeyParts record.tableKey record.arena record.localKey :=
  ⟨by simp [Placement.tableKey, toString], h⟩

end Container

namespace Level

open Container (KeyParts)

variable {names : List String} {index : Nat} {arena key name : String}

theorem FirstAt.name_eq {arena' : String} (h : FirstAt names arena index)
    (h' : FirstAt names arena' index) : arena' = arena :=
  Option.some.inj (h'.getElem?_eq.symm.trans h.getElem?_eq)

theorem FirstAt.exists_arena {level : Level} (h : FirstAt level.arenaNames name index) :
    ∃ arena, level.arenas[index]? = some arena := by
  have hname := h.getElem?_eq
  rw [arenaNames, List.getElem?_map, Array.getElem?_toList, Option.map_eq_some_iff] at hname
  obtain ⟨arena, harena, -⟩ := hname
  exact ⟨arena, harena⟩

/-- Within its arena an entry has the name just if the whole key is the one of that name. -/
theorem Routes.fst_eq_iff {entry own : OffsetEntry} (h : Routes names index entry own)
    (hfirst : FirstAt names arena index) (hparts : KeyParts key arena name) :
    own.1 = name ↔ entry.1 = key := by
  obtain ⟨arena', hentry, hfirst', -⟩ := h
  obtain rfl := hfirst.name_eq hfirst'
  constructor
  · rintro rfl
    exact hparts.key_eq hentry
  · intro hkey
    rw [hkey] at hentry
    exact (hparts.unique hentry).2

/-- Looking up a name among the entries of an arena finds what looking up the whole key finds. -/
theorem find?_of_routes {entries own : List OffsetEntry}
    (h : List.Forall₂ (Routes names index) entries own) (hfirst : FirstAt names arena index)
    (hparts : KeyParts key arena name) :
    (own.find? (·.1 == name)).map (·.2) = (entries.find? (·.1 == key)).map (·.2) := by
  induction h with
  | nil => rfl
  | @cons entry mine _ _ hroutes _ ih =>
      have hname := hroutes.fst_eq_iff hfirst hparts
      rw [List.find?_cons, List.find?_cons]
      by_cases hkey : entry.1 = key
      · obtain ⟨-, -, -, hoffset⟩ := hroutes
        simp [hkey, hname.mpr hkey, hoffset]
      · rw [beq_false_of_ne hkey, beq_false_of_ne (mt hname.mp hkey)]
        exact ih

section Tables

variable {container : Container} {level : Level} {record : Placement} {home : Arena}

/-- An arena finds for a record what the whole table has under its key. -/
theorem SharesOut.get?_inits (h : level.SharesOut container)
    (harena : level.arenas[index]? = some home)
    (hfirst : FirstAt level.arenaNames record.arena index) (hdollar : '$' ∉ record.arena.toList) :
    home.inits.get? record.localKey =
      (container.inits.find? (·.1 == record.tableKey)).map (·.2) := by
  have hparts := Container.keyParts_tableKey hdollar
  have hleads : LeadsTo level.arenaNames index record.tableKey := ⟨_, _, hparts, hfirst⟩
  rw [NamedTable.get?, find?_of_routes (h.inits index home harena) hfirst hparts, List.find?_filter]
  congr 2
  funext entry
  by_cases hkey : entry.1 = record.tableKey
  · simp [hkey, hleads]
  · simp [hkey]

end Tables

end Level

/-! ### Settling in -/

theorem Actor.kind_eq_plain {actor : Actor} (h : actor.kind.role = .plain) :
    actor.kind = .plain := by
  cases hkind : actor.kind with
  | plain => rfl
  | door door =>
      rw [hkind] at h
      cases h
  | pickup =>
      rw [hkind] at h
      cases h

/-- Whoever is not gone after settling in was pointed at its own script last. -/
theorem settle_enrolled {stage : Stage} {room : Nat} {child : Actor} {init : UInt32} {world : World}
    {scene : Scene} (h : settle stage room child init world = (none, scene)) :
    scene.actor.isGone = true ∨ ∃ setUp : Actor, scene.actor = setUp.enroll init := by
  unfold settle at h
  split at h
  · split at h
    · cases h
      exact .inl rfl
    · cases h
      exact .inr ⟨child, rfl⟩
  · split at h
    · cases h
      exact .inr ⟨child, rfl⟩
    · split at h
      · cases h
      · next setUp _ =>
        split at h
        · next hgone =>
          cases h
          exact .inl hgone
        · cases h
          exact .inr ⟨setUp.actor, rfl⟩

theorem Actor.seeded_of_settle {stage : Stage} {settings : Settings} {room index : Nat}
    {record : Placement} {init : UInt32} {world : World} {scene : Scene}
    (h : settle stage room (Play.placedActor settings index record) init world = (none, scene)) :
    scene.actor.Seeded record index init := by
  have hgrew := settle_grew stage room (Play.placedActor settings index record) init world
  rw [h] at hgrew
  obtain ⟨later, hlog⟩ := hgrew.log_prefix
  refine ⟨hgrew.name_eq, hgrew.id_eq, hgrew.arena_eq, hgrew.isArena_eq,
    Actor.kind_eq_plain hgrew.role_eq, ?_, settle_enrolled h⟩
  rw [← Array.getElem?_toList, ← hlog]
  rfl

/-! ### One record -/

namespace Session

variable {session : Session} {settings : Settings} {record : Placement} {index : Nat}

theorem liveCount_eq_size (session : Session) (index : Nat) :
    session.liveCount index = (session.live index).size := by
  unfold liveCount live
  cases session.level.arenas[index]? <;> rfl

theorem actor?_live (session : Session) (index k : Nat) :
    session.actor? index (.live k) = (session.live index)[k]? := by
  unfold actor? live
  cases session.level.arenas[index]? <;> rfl

/-- The actor that a record adds takes the seat behind those who lived in the arena, as long as
nothing but newcomers comes to it. -/
theorem Adds.actor?_eq {before after last : Session} {init : UInt32} {actor : Actor}
    (h : before.Adds settings record index init actor after) {more : Array Actor}
    (hlast : last.live index = after.live index ++ more) :
    last.actor? index (.live (before.liveCount index)) = some actor := by
  obtain ⟨_, _, newcomers, _, _, hlive⟩ := h.adds
  rw [actor?_live, liveCount_eq_size, hlast, hlive, Array.append_assoc, Array.append_assoc,
    Array.getElem?_append_right (Nat.le_refl _), Nat.sub_self,
    Array.getElem?_append_left Nat.zero_lt_one]
  rfl

/-- Placing an actor appends to the arena of the record, and to no other one. -/
theorem live_placed {arena : Arena} (hindex : session.level.arenaIndex record.arena = .ok index)
    (harena : session.level.arenas[index]? = some arena) (i : Nat) :
    let scene := (session.placing settings record index arena).2
    (session.placed settings record).live i =
      if index = i then session.live i ++ (#[scene.actor] ++ scene.spawned)
      else session.live i := by
  intro scene
  simp only [placed, hindex, harena, live, share, updateArena_getElem?]
  split
  next hi =>
    subst hi
    rw [harena]
    rfl
  next => rfl

/-- Whoever lives in an arena stays there while actors are placed. -/
theorem live_prefix_placed (session : Session) (settings : Settings) (record : Placement)
    (i : Nat) : ∃ more, (session.placed settings record).live i = session.live i ++ more := by
  cases hindex : session.level.arenaIndex record.arena with
  | error error => exact ⟨#[], by simp [placed, hindex]⟩
  | ok index =>
      cases harena : session.level.arenas[index]? with
      | none => exact ⟨#[], by simp [placed, hindex, harena]⟩
      | some arena =>
          rw [live_placed hindex harena]
          split
          · exact ⟨_, rfl⟩
          · exact ⟨#[], by simp⟩

/-- A record that is placed without failing adds its actor, settled in for what the table of the
arena has. -/
theorem adds_of_place (h : ((Play.place settings record).exec session).1 = .ok ()) :
    ∃ index arena actor, Level.FirstAt session.level.arenaNames record.arena index ∧
      session.level.arenas[index]? = some arena ∧
      session.Adds settings record index ((arena.inits.get? record.localKey).getD 0) actor
        ((Play.place settings record).exec session).2 ∧
      actor.Seeded record index ((arena.inits.get? record.localKey).getD 0) := by
  have hafter : ((Play.place settings record).exec session).2 = session.placed settings record :=
    session.move_place settings record
  rw [exec_place] at h
  cases hindex : session.level.arenaIndex record.arena with
  | error error =>
      rw [hindex] at h
      cases h
  | ok index =>
      have hfirst := Command.findArena_eq_ok.mp hindex
      obtain ⟨arena, harena⟩ := hfirst.exists_arena
      simp only [hindex, harena] at h
      have hplacing : session.placing settings record index arena =
          (none, (session.placing settings record index arena).2) := by
        cases hfatal : (session.placing settings record index arena).1 with
        | none => exact Prod.ext hfatal rfl
        | some error =>
            rw [hfatal] at h
            cases h
      refine ⟨index, arena, _, hfirst, harena, ⟨⟨arena, _, _, harena, hplacing, ?_⟩, ?_⟩,
        Actor.seeded_of_settle hplacing⟩
      · rw [hafter, live_placed hindex harena, if_pos rfl]
      · intro other hother
        rw [hafter, live_placed hindex harena, if_neg hother.symm]

/-- A record is placed just if its arena is known and its setup script is not fatal. -/
theorem exec_place_eq_ok :
    ((Play.place settings record).exec session).1 = .ok () ↔
      record.arena ∈ session.level.arenaNames ∧ ¬ session.SetupFails settings record := by
  rw [exec_place]
  cases hindex : session.level.arenaIndex record.arena with
  | error error =>
      have hunknown := (Command.findArena_eq_error.mp hindex).1
      exact iff_of_false nofun fun h => hunknown h.1
  | ok index =>
      have hfirst := Command.findArena_eq_ok.mp hindex
      obtain ⟨arena, harena⟩ := hfirst.exists_arena
      have hknown : record.arena ∈ session.level.arenaNames :=
        List.mem_of_getElem? hfirst.getElem?_eq
      have hfails : session.SetupFails settings record ↔
          ∃ error, (session.placing settings record index arena).1 = some error := by
        constructor
        · rintro ⟨index', arena', error, hfirst', harena', hfatal⟩
          have hindex' := Command.findArena_eq_ok.mpr hfirst'
          obtain rfl : index = index' := Except.ok.inj (hindex.symm.trans hindex')
          obtain rfl : arena = arena' := Option.some.inj (harena.symm.trans harena')
          exact ⟨error, hfatal⟩
        · rintro ⟨error, hfatal⟩
          exact ⟨index, arena, error, hfirst, harena, hfatal⟩
      simp only [harena, hknown, true_and, hfails]
      cases (session.placing settings record index arena).1 <;> simp

theorem exec_place_of_unknown (hunknown : record.arena ∉ session.level.arenaNames) :
    ((Play.place settings record).exec session).1 = .error (.unknownArena record.arena) := by
  have hindex : session.level.arenaIndex record.arena = .error (.unknownArena record.arena) :=
    Command.findArena_eq_error.mpr ⟨hunknown, rfl⟩
  rw [exec_place, hindex]

end Session

/-! ### Records in turn -/

namespace Play

variable {settings : Settings} {session : Session}

theorem exec_seed_append (before rest : List Placement) :
    (seed settings (before ++ rest)).exec session =
      match (seed settings before).exec session with
      | (.ok _, session') => (seed settings rest).exec session'
      | (.error e, session') => (.error e, session') := by
  have happend : seed settings (before ++ rest) =
      (do seed settings before; seed settings rest) := by
    simp only [seed, List.forM_eq_forM, List.forM_append]
  rw [happend, exec_bind]
  rcases (seed settings before).exec session with ⟨e | u, session'⟩ <;> rfl

/-- Behind records that are placed, seeding goes on where they lead. -/
theorem exec_seed_append_of_ok {before : List Placement}
    (h : ((seed settings before).exec session).1 = .ok ()) (rest : List Placement) :
    (seed settings (before ++ rest)).exec session =
      (seed settings rest).exec ((seed settings before).exec session).2 := by
  rw [exec_seed_append]
  rcases hreached : (seed settings before).exec session with ⟨e | u, reached⟩
  · rw [hreached] at h
    cases h
  · rfl

/-- Where all records are placed, the first of them are. -/
theorem exec_seed_of_append {before rest : List Placement}
    (h : ((seed settings (before ++ rest)).exec session).1 = .ok ()) :
    ((seed settings before).exec session).1 = .ok () := by
  rw [exec_seed_append] at h
  rcases hreached : (seed settings before).exec session with ⟨e | u, reached⟩
  · rw [hreached] at h
    cases h
  · rfl

theorem exec_seed_singleton (record : Placement) :
    (seed settings [record]).exec session = (place settings record).exec session := by
  rw [seed, exec_forM_cons]
  rcases (place settings record).exec session with ⟨e | u, session'⟩ <;> rfl

/-- A record that is not placed is the last one. -/
theorem exec_seed_of_error {record : Placement} {error : DataError}
    (h : ((place settings record).exec session).1 = .error error) (rest : List Placement) :
    ((seed settings (record :: rest)).exec session).1 = .error error := by
  rw [seed, exec_forM_cons]
  rcases hplaced : (place settings record).exec session with ⟨e | u, stopped⟩
  · rw [hplaced] at h
    exact h
  · rw [hplaced] at h
    cases h

/-- What was seeded stays as it is. -/
theorem live_prefix_seed (settings : Settings) (records : List Placement) (session : Session)
    (i : Nat) :
    ∃ more, ((seed settings records).exec session).2.live i = session.live i ++ more := by
  rw [Makes.seed settings records session]
  apply follow_induction_of_mem _ fun current => ∃ more, current.live i = session.live i ++ more
  · rintro current move hmove ⟨more, hmore⟩
    obtain ⟨record, -, rfl⟩ := List.mem_map.mp hmove
    obtain ⟨new, hnew⟩ := current.live_prefix_placed settings record i
    exact ⟨more ++ new, by rw [Session.move_place, hnew, hmore, Array.append_assoc]⟩
  · exact ⟨#[], by simp⟩

theorem seed_grew (h : session.level.Orderly settings) (records : List Placement) :
    session.level.Grew ((seed settings records).exec session).2.level :=
  (Session.after_orderly h (.seed records)).2

/-- Records of known arenas are all placed, unless a setup script is fatal. -/
theorem exec_seed_of_known (h : session.level.Orderly settings) {records : List Placement}
    (hknown : ∀ record ∈ records, record.arena ∈ session.level.arenaNames)
    (hsetup : ∀ before record rest, records = before ++ record :: rest →
      ¬ ((seed settings before).exec session).2.SetupFails settings record) :
    ((seed settings records).exec session).1 = .ok () := by
  induction records using List.reverseRecOn with
  | nil => rfl
  | append_singleton before record ih =>
      have hbefore := ih (fun earlier hmem => hknown earlier (List.mem_append_left _ hmem))
        fun early earlier late heq => hsetup early earlier (late ++ [record]) (by simp [heq])
      have hnames := (seed_grew h before).arenaNames_eq
      have hlast : record.arena ∈ session.level.arenaNames := hknown record (by simp)
      have hplaced := Session.exec_place_eq_ok.mpr ⟨hnames ▸ hlast, hsetup before record [] rfl⟩
      rw [exec_seed_append_of_ok hbefore, exec_seed_singleton]
      exact hplaced

/-- The first record of an unknown arena is told, unless a setup script is fatal before. -/
theorem exec_seed_of_unknown (h : session.level.Orderly settings) {before : List Placement}
    {record : Placement} (hunknown : record.arena ∉ session.level.arenaNames)
    (hknown : ∀ earlier ∈ before, earlier.arena ∈ session.level.arenaNames)
    (hsetup : ∀ early earlier late, before = early ++ earlier :: late →
      ¬ ((seed settings early).exec session).2.SetupFails settings earlier)
    (rest : List Placement) :
    ((seed settings (before ++ record :: rest)).exec session).1 =
      .error (.unknownArena record.arena) := by
  have hbefore := exec_seed_of_known h hknown hsetup
  rw [exec_seed_append_of_ok hbefore]
  apply exec_seed_of_error
  apply Session.exec_place_of_unknown
  rwa [(seed_grew h before).arenaNames_eq]

/-- Where all records are placed, each of them adds its actor to the arena of its name.  Seeding
changes no table, so the actor is settled in for what that arena had from the start. -/
theorem adds_of_seed (h : session.level.Orderly settings) {before rest : List Placement}
    {record : Placement}
    (hok : ((seed settings (before ++ record :: rest)).exec session).1 = .ok ()) :
    ((seed settings before).exec session).1 = .ok () ∧
      ∃ index arena actor, Level.FirstAt session.level.arenaNames record.arena index ∧
        session.level.arenas[index]? = some arena ∧
        ((seed settings before).exec session).2.Adds settings record index
          ((arena.inits.get? record.localKey).getD 0) actor
          ((seed settings (before ++ [record])).exec session).2 ∧
        actor.Seeded record index ((arena.inits.get? record.localKey).getD 0) ∧
        ((seed settings (before ++ record :: rest)).exec session).2.actor? index
          (.live (((seed settings before).exec session).2.liveCount index)) = some actor := by
  have hbefore := exec_seed_of_append hok
  have hadded : (seed settings (before ++ [record])).exec session =
      (place settings record).exec ((seed settings before).exec session).2 := by
    rw [exec_seed_append_of_ok hbefore, exec_seed_singleton]
  have hsplit : before ++ record :: rest = (before ++ [record]) ++ rest := by simp
  rw [hsplit] at hok ⊢
  have hplaced := exec_seed_of_append hok
  rw [hadded] at hplaced
  obtain ⟨index, arena, actor, hfirst, harena, hadds, hseeded⟩ := Session.adds_of_place hplaced
  have hgrew := seed_grew h before
  rw [hgrew.arenaNames_eq] at hfirst
  obtain ⟨first, hstart⟩ := hfirst.exists_arena
  obtain ⟨later, hlater, hsame⟩ := hgrew.arena index first hstart
  obtain rfl : arena = later := Option.some.inj (harena.symm.trans hlater)
  rw [← hadded, hsame.inits_eq] at hadds
  rw [hsame.inits_eq] at hseeded
  refine ⟨hbefore, index, first, actor, hfirst, hstart, hadds, hseeded, ?_⟩
  obtain ⟨more, hmore⟩ := live_prefix_seed settings rest
    ((seed settings (before ++ [record])).exec session).2 index
  rw [← exec_seed_append_of_ok (exec_seed_of_append hok)] at hmore
  exact hadds.actor?_eq hmore

end Play

/-! ### Seeding a level -/

namespace Level

open Play (seed)

variable {built : Settings} {container : Container} {bytes : Bytes} {level : Level}

/-- A level that was built is seeded record by record.  Each record adds one plain actor of its name
and number to the first arena of its name, behind those who live there by then, and that actor is
settled in for the offset that the container's table has under its whole key.  The first record of
an unknown arena is told, unless a setup script is fatal before. -/
theorem seed_follows_inits (hbuild : build built container bytes = .ok level) (settings : Settings)
    (reads : List Span) (records : List Placement) :
    let reached := fun placements => (seed settings placements).exec ⟨level, reads⟩
    ((reached records).1 = .ok () →
      ∀ before record rest, records = before ++ record :: rest →
        (reached before).1 = .ok () ∧
        ∃ index init actor, FirstAt level.arenaNames record.arena index ∧
          (reached before).2.Adds settings record index init actor
            (reached (before ++ [record])).2 ∧
          actor.Seeded record index init ∧
          ('$' ∉ record.arena.toList → init = container.initOf record) ∧
          (reached records).2.actor? index (.live ((reached before).2.liveCount index)) =
            some actor) ∧
    ∀ before record rest, records = before ++ record :: rest →
      record.arena ∉ level.arenaNames →
      (∀ earlier ∈ before, earlier.arena ∈ level.arenaNames) →
      (∀ early earlier late, before = early ++ earlier :: late →
        ¬ (reached early).2.SetupFails settings earlier) →
      (reached records).1 = .error (.unknownArena record.arena) := by
  intro reached
  have horderly : (Session.mk level reads).level.Orderly settings :=
    build_orderly hbuild settings
  constructor
  · rintro hok before record rest rfl
    obtain ⟨hbefore, index, arena, actor, hfirst, harena, hadds, hseeded, hseat⟩ :=
      Play.adds_of_seed horderly hok
    refine ⟨hbefore, index, _, actor, hfirst, hadds, hseeded, fun hdollar => ?_, hseat⟩
    rw [(build_sharesOut hbuild).get?_inits harena hfirst hdollar, Container.initOf]
  · rintro before record rest rfl hunknown hknown hsetup
    exact Play.exec_seed_of_unknown horderly hunknown hknown hsetup rest

end Level

/-- A hall in which two entries have one key, with a dollar sign in the name of the actor. -/
def Container.dollared : Container where
  name := "LEVEL"
  fileSize := 0
  inits := [("HALL$A$_-1", 3), ("HALL$A$_-1", 4)]
  meshes := []
  setups := [("HALL$A$", 2)]
  arenas := [⟨"HALL", ("", ""), 1⟩]

/-- The second of two actors takes the second seat and is settled in for the first entry, and a
third one has nowhere to be. -/
theorem Level.seed_follows_inits_dollared :
    ∃ level, build .standard .dollared #[0x01, 0x0b, 0x05, 0xfd, 0xff] = .ok level ∧
      let record : Placement := ⟨"HALL", "A$", -1, .origin, 7⟩
      let nowhere : Placement := ⟨"YARD", "A$", -1, .origin, 7⟩
      let reached := fun placements => (Play.seed .standard placements).exec ⟨level, []⟩
      (∃ actor, actor.Seeded record 0 3 ∧
        (reached [record, record]).2.actor? 0 (.live 1) = some actor) ∧
      (reached [record, nowhere]).1 = .error (.unknownArena "YARD") := by
  have hbuild : ∃ level, build .standard .dollared #[0x01, 0x0b, 0x05, 0xfd, 0xff] = .ok level :=
    ⟨_, rfl⟩
  obtain ⟨level, hlevel⟩ := hbuild
  refine ⟨level, hlevel, ?_⟩
  intro record nowhere reached
  have hrun : (build .standard .dollared #[0x01, 0x0b, 0x05, 0xfd, 0xff]).toOption.map (fun level =>
      (((Play.seed .standard [record, record]).exec ⟨level, []⟩).1.isOk,
        ((Play.seed .standard [record]).exec ⟨level, []⟩).2.liveCount 0, level.arenaNames)) =
      some (true, 1, ["HALL"]) := by
    decide +kernel
  rw [hlevel] at hrun
  obtain ⟨hok, hcount, hnames⟩ : (reached [record, record]).1.isOk = true ∧
      (reached [record]).2.liveCount 0 = 1 ∧ level.arenaNames = ["HALL"] := by
    simpa [reached, Except.toOption] using hrun
  have hok : (reached [record, record]).1 = .ok () := by
    cases hresult : (reached [record, record]).1 with
    | error error =>
        rw [hresult] at hok
        cases hok
    | ok => rfl
  have hseeds := (seed_follows_inits hlevel .standard [] [record, record]).1
  have hstops := (seed_follows_inits hlevel .standard [] [record, nowhere]).2
  obtain ⟨hfirstOk, index, init, actor, hfirst, -, hseeded, hinit, hseat⟩ :=
    hseeds hok [record] record [] rfl
  obtain rfl : index = 0 := by
    have hlt := (List.getElem?_eq_some_iff.mp hfirst.getElem?_eq).1
    rw [hnames] at hlt
    exact Nat.lt_one_iff.mp hlt
  constructor
  · rw [hinit (by decide)] at hseeded
    rw [hcount] at hseat
    exact ⟨actor, hseeded, hseat⟩
  · refine hstops [record] nowhere [] rfl (by simp [hnames, nowhere]) (by simp [hnames, record]) ?_
    intro early earlier late hsplit
    cases early with
    | nil =>
        cases hsplit
        have hplaced : ((Play.place .standard record).exec ⟨level, []⟩).1 = .ok () :=
          (congrArg Prod.fst (Play.exec_seed_singleton record)).symm.trans hfirstOk
        exact (Session.exec_place_eq_ok.mp hplaced).2
    | cons => simp at hsplit

end LevelScript
