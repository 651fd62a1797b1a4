import LevelScript.Proofs.Blame
import LevelScript.Proofs.Reach

/-!
Which arena an entry of a table goes to.

A key names an arena up to its first dollar sign, and what comes after it is the name of the entry
within that arena.  A level is built unless a key has no dollar sign or names no arena, and then the
first such key is told, the setup scripts before those of placed actors.  Otherwise every entry goes
to the first arena of the name, and the entries of an arena keep their order.
-/

namespace LevelScript

/-- A key and its two parts, before and after its first dollar sign. -/
structure Container.KeyParts (key arena name : String) : Prop where
  toList_eq : key.toList = arena.toList ++ '$' :: name.toList
  not_mem : '$' ∉ arena.toList

/-- The first place of a name in a list. -/
structure Level.FirstAt (names : List String) (name : String) (index : Nat) : Prop where
  getElem?_eq : names[index]? = some name
  ne_of_lt : ∀ j < index, names[j]? ≠ some name

namespace Level

open Container (KeyParts)

/-- A key that leads to no arena, and the error that tells so. -/
inductive BadKey (names : List String) (key : String) : DataError → Prop
  | malformed : '$' ∉ key.toList → BadKey names key (.malformedKey key)
  | unknown {arena name : String} : KeyParts key arena name → arena ∉ names →
      BadKey names key (.unknownArena arena)

/-- The first entry with a bad key tells the error. -/
def FirstBad (names : List String) (entries : List OffsetEntry) (error : DataError) : Prop :=
  ∃ before entry after, entries = before ++ entry :: after ∧
    (∀ earlier ∈ before, ∀ other, ¬ BadKey names earlier.1 other) ∧ BadKey names entry.1 error

/-- The key names an arena that stands first at an index. -/
def LeadsTo (names : List String) (index : Nat) (key : String) : Prop :=
  ∃ arena name, KeyParts key arena name ∧ FirstAt names arena index

/-- An entry of a table and what the arena at an index has of it: the rest of its key, and its
offset. -/
def Routes (names : List String) (index : Nat) (entry own : OffsetEntry) : Prop :=
  ∃ arena, KeyParts entry.1 arena own.1 ∧ FirstAt names arena index ∧ own.2 = entry.2

end Level

/-! ### Keys -/

theorem Container.splitKey_eq_ok {key arena name : String} :
    splitKey key = .ok (arena, name) ↔ KeyParts key arena name := by
  constructor
  · intro h
    unfold splitKey at h
    dsimp only at h
    split at h
    · cases h
    · next dollar rest hdrop =>
      cases h
      have hhead : dollar = '$' := by
        simpa [hdrop] using List.head?_dropWhile_not (· != '$') key.toList
      subst hhead
      refine ⟨?_, ?_⟩
      · rw [String.toList_ofList, String.toList_ofList, ← hdrop]
        exact List.takeWhile_append_dropWhile.symm
      · intro hmem
        rw [String.toList_ofList] at hmem
        simpa using List.mem_takeWhile_imp hmem
  · rintro ⟨hkey, hnot⟩
    have hplain : ∀ c ∈ arena.toList, (c != '$') = true := by
      intro c hc
      rw [bne_iff_ne]
      exact fun heq => hnot (heq ▸ hc)
    unfold splitKey
    dsimp only
    rw [hkey, List.dropWhile_append_of_pos hplain, List.takeWhile_append_of_pos hplain]
    simp

theorem Command.findArena_eq_ok {arenas : List String} {name : String} {index : Nat} :
    findArena arenas name = .ok index ↔ Level.FirstAt arenas name index := by
  have hfound : findArena arenas name = .ok index ↔
      arenas.findIdx? (· == name) = some index := by
    unfold findArena
    cases arenas.findIdx? (· == name) <;> simp
  rw [hfound, List.findIdx?_eq_some_iff_getElem]
  constructor
  · rintro ⟨hlt, hname, hbefore⟩
    refine ⟨by simpa [List.getElem?_eq_getElem hlt] using hname, ?_⟩
    intro j hj hearlier
    obtain ⟨hlt', heq⟩ := List.getElem?_eq_some_iff.mp hearlier
    exact hbefore j hj (by simp [heq])
  · rintro ⟨hname, hbefore⟩
    obtain ⟨hlt, heq⟩ := List.getElem?_eq_some_iff.mp hname
    refine ⟨hlt, by simp [heq], ?_⟩
    intro j hj hearlier
    have hlt' : j < arenas.length := Nat.lt_trans hj hlt
    exact hbefore j hj (by simpa [List.getElem?_eq_getElem hlt'] using hearlier)

namespace Level

open Container (KeyParts)

variable {names : List String} {key : String}

theorem routeKey_eq_ok {name : String} {index : Nat} :
    routeKey names key = .ok (index, name) ↔
      ∃ arena, KeyParts key arena name ∧ FirstAt names arena index := by
  simp only [routeKey, bind_eq_ok, pure, Except.pure, Except.ok.injEq, Prod.mk.injEq, Prod.exists,
    Container.splitKey_eq_ok, Command.findArena_eq_ok]
  constructor
  · rintro ⟨arena, _, hparts, _, hfirst, rfl, rfl⟩
    exact ⟨arena, hparts, hfirst⟩
  · rintro ⟨arena, hparts, hfirst⟩
    exact ⟨arena, name, hparts, index, hfirst, rfl, rfl⟩

theorem routeKey_eq_error {error : DataError} :
    routeKey names key = .error error ↔ BadKey names key error := by
  simp only [routeKey, bind_eq_error, pure, Except.pure, Prod.exists, reduceCtorEq, and_false,
    exists_false, or_false, Container.splitKey_eq_error, Container.splitKey_eq_ok,
    Command.findArena_eq_error]
  constructor
  · rintro (⟨hnone, rfl⟩ | ⟨arena, name, hparts, hunknown, rfl⟩)
    · exact .malformed hnone
    · exact .unknown hparts hunknown
  · rintro (hnone | ⟨hparts, hunknown⟩)
    · exact .inl ⟨hnone, rfl⟩
    · exact .inr ⟨_, _, hparts, hunknown, rfl⟩

theorem exists_badKey :
    (∃ error, BadKey names key error) ↔
      '$' ∉ key.toList ∨ ∃ arena name, KeyParts key arena name ∧ arena ∉ names := by
  constructor
  · rintro ⟨_, hnone | ⟨hparts, hunknown⟩⟩
    · exact .inl hnone
    · exact .inr ⟨_, _, hparts, hunknown⟩
  · rintro (hnone | ⟨arena, name, hparts, hunknown⟩)
    · exact ⟨_, .malformed hnone⟩
    · exact ⟨_, .unknown hparts hunknown⟩

theorem exists_routeKey :
    (∃ routed, routeKey names key = .ok routed) ↔ ∀ error, ¬ BadKey names key error := by
  simp only [← routeKey_eq_error]
  cases routeKey names key with
  | error error => simp
  | ok routed => simp

theorem leadsTo_iff {index : Nat} :
    LeadsTo names index key ↔ (routeKey names key).toOption.map Prod.fst = some index := by
  have hroute : LeadsTo names index key ↔ ∃ name, routeKey names key = .ok (index, name) := by
    simp only [routeKey_eq_ok]
    exact exists_comm
  rw [hroute]
  rcases routeKey names key with error | ⟨index', name⟩
  · simp [Except.toOption]
  · simp [Except.toOption]

instance (names : List String) (index : Nat) (key : String) :
    Decidable (LeadsTo names index key) :=
  decidable_of_iff _ leadsTo_iff.symm

/-- A key that is not bad leads to one arena. -/
theorem existsUnique_leadsTo (h : ∀ error, ¬ BadKey names key error) :
    ∃! index, LeadsTo names index key := by
  obtain ⟨routed, hroute⟩ := exists_routeKey.mpr h
  simp only [leadsTo_iff, hroute]
  exact ⟨routed.1, rfl, fun index hindex => (Option.some.inj hindex).symm⟩

/-! ### Tables -/

variable {entries : List OffsetEntry} {error : DataError}

theorem firstBad_cons {entry : OffsetEntry} :
    FirstBad names (entry :: entries) error ↔ BadKey names entry.1 error ∨
      (∀ other, ¬ BadKey names entry.1 other) ∧ FirstBad names entries error := by
  constructor
  · rintro ⟨_ | ⟨head, before⟩, bad, after, heq, hbefore, hbad⟩
    · cases heq
      exact .inl hbad
    · cases heq
      rw [List.forall_mem_cons] at hbefore
      exact .inr ⟨hbefore.1, before, bad, after, rfl, hbefore.2, hbad⟩
  · rintro (hbad | ⟨hgood, before, bad, after, rfl, hbefore, hbad⟩)
    · exact ⟨[], entry, entries, rfl, nofun, hbad⟩
    · exact ⟨entry :: before, bad, after, rfl, List.forall_mem_cons.mpr ⟨hgood, hbefore⟩, hbad⟩

theorem firstBad_append {more : List OffsetEntry} :
    FirstBad names (entries ++ more) error ↔ FirstBad names entries error ∨
      (∀ entry ∈ entries, ∀ other, ¬ BadKey names entry.1 other) ∧ FirstBad names more error := by
  induction entries with
  | nil => simp [FirstBad]
  | cons entry entries ih =>
      rw [List.cons_append, firstBad_cons, firstBad_cons, ih, List.forall_mem_cons]
      tauto

/-- Where there is a bad key, there is a first one. -/
theorem exists_firstBad :
    (∃ error, FirstBad names entries error) ↔
      ∃ entry ∈ entries, ∃ error, BadKey names entry.1 error := by
  induction entries with
  | nil => simp [FirstBad]
  | cons entry entries ih =>
      simp only [firstBad_cons, List.exists_mem_cons_iff, ← ih]
      by_cases hbad : ∃ error, BadKey names entry.1 error
      · obtain ⟨error, hbad⟩ := hbad
        exact iff_of_true ⟨error, .inl hbad⟩ (.inl ⟨error, hbad⟩)
      · simp only [not_exists] at hbad
        simp [hbad]

/-- Routing a table fails with its first bad key. -/
theorem route_eq_error : route names entries = .error error ↔ FirstBad names entries error := by
  induction entries with
  | nil => simp [route, FirstBad]
  | cons head rest ih =>
      obtain ⟨key, offset⟩ := head
      rw [route, firstBad_cons, bind_eq_error, routeKey_eq_error]
      apply or_congr_right
      simp only [bind_eq_error, pure, Except.pure, reduceCtorEq, and_false, exists_false, or_false,
        ih, exists_and_right]
      exact and_congr_left fun _ => exists_routeKey

theorem exists_route :
    (∃ routed, route names entries = .ok routed) ↔
      ∀ entry ∈ entries, ∀ other, ¬ BadKey names entry.1 other := by
  have hbad : (∃ error, route names entries = .error error) ↔
      ∃ entry ∈ entries, ∃ error, BadKey names entry.1 error := by
    simp only [route_eq_error, exists_firstBad]
  rw [← not_iff_not]
  push Not
  rw [← hbad]
  cases route names entries with
  | error error => simp
  | ok routed => simp

/-- What an arena gets of a table: just the entries whose keys lead there, in their order. -/
theorem forall₂_share {routed : List (Nat × OffsetEntry)} (h : route names entries = .ok routed)
    (index : Nat) :
    List.Forall₂ (Routes names index) (entries.filter fun entry => LeadsTo names index entry.1)
      (share index routed).entries := by
  induction entries generalizing routed with
  | nil =>
      cases h
      exact .nil
  | cons head rest ih =>
      obtain ⟨key, offset⟩ := head
      simp only [route, bind_eq_ok, pure, Except.pure, Except.ok.injEq] at h
      obtain ⟨⟨index', name⟩, hkey, others, hothers, rfl⟩ := h
      have hrest := ih hothers
      by_cases hhere : index' = index
      · subst hhere
        obtain ⟨arena, hparts, hfirst⟩ := routeKey_eq_ok.mp hkey
        have hleads : LeadsTo names index' key := ⟨arena, name, hparts, hfirst⟩
        simp only [share, List.filter_cons, hleads, decide_true, beq_self_eq_true, ↓reduceIte,
          List.map_cons]
        exact .cons ⟨arena, hparts, hfirst, rfl⟩ hrest
      · have hleads : ¬ LeadsTo names index key := by
          rw [leadsTo_iff, hkey]
          exact fun heq => hhere (Option.some.inj heq)
        simp only [share, List.filter_cons, hleads, decide_false, beq_eq_false_iff_ne.mpr hhere,
          Bool.false_eq_true, ↓reduceIte]
        exact hrest

/-! ### Levels -/

section Levels

variable {settings : Settings} {container : Container} {bytes : Bytes}

theorem buildArenas_eq_error :
    buildArenas settings container = .error error ↔
      FirstBad (container.arenas.map ArenaRecord.name) (container.setups ++ container.inits)
        error := by
  simp only [buildArenas, bind_eq_error, pure, Except.pure, reduceCtorEq, and_false, exists_false,
    or_false, exists_and_right, exists_route, route_eq_error, firstBad_append]

/-- Where the arenas are built, the listings are too. -/
theorem exists_build_of_buildArenas {arenas : Array Arena}
    (h : buildArenas settings container = .ok arenas) (bytes : Bytes) :
    ∃ graph, CallGraph.build container bytes = .ok graph := by
  cases hbuild : CallGraph.build container bytes with
  | ok graph => exact ⟨graph, rfl⟩
  | error error =>
      obtain ⟨entry, hentry, hnone, _⟩ := CallGraph.build_eq_error hbuild
      have hmem : entry ∈ container.setups ++ container.inits := by
        rw [List.mem_append] at hentry ⊢
        exact hentry.symm
      have hbad : BadKey (container.arenas.map ArenaRecord.name) entry.1 (.malformedKey entry.1) :=
        .malformed hnone
      obtain ⟨cause, hfirst⟩ := exists_firstBad.mpr ⟨entry, hmem, _, hbad⟩
      rw [buildArenas_eq_error.mpr hfirst] at h
      cases h

theorem build_eq_error :
    build settings container bytes = .error error ↔
      FirstBad (container.arenas.map ArenaRecord.name) (container.setups ++ container.inits)
        error := by
  have harenas : buildArenas settings container = .error error ↔ _ := buildArenas_eq_error
  rw [← harenas]
  cases hbuilt : buildArenas settings container with
  | error cause => simp [build, explore, hbuilt, bind, Except.bind]
  | ok arenas =>
      obtain ⟨graph, hgraph⟩ := exists_build_of_buildArenas hbuilt bytes
      obtain ⟨reads, hexplore⟩ := CallGraph.explore_of_build hgraph
      simp [build, explore, hbuilt, hexplore, bind, Except.bind, pure, Except.pure]

/-- The tables of a container are shared out among the arenas of its level: each arena has just the
entries whose keys lead there, in their order, and every key leads to one arena. -/
structure SharesOut (container : Container) (level : Level) : Prop where
  names_eq : level.arenaNames = container.arenas.map ArenaRecord.name
  setups : ∀ (index : Nat) (arena : Arena), level.arenas[index]? = some arena →
    List.Forall₂ (Routes level.arenaNames index)
      (container.setups.filter fun entry => LeadsTo level.arenaNames index entry.1)
      arena.setups.entries
  inits : ∀ (index : Nat) (arena : Arena), level.arenas[index]? = some arena →
    List.Forall₂ (Routes level.arenaNames index)
      (container.inits.filter fun entry => LeadsTo level.arenaNames index entry.1)
      arena.inits.entries
  once : ∀ entry ∈ container.setups ++ container.inits,
    ∃! index, index < level.arenas.size ∧ LeadsTo level.arenaNames index entry.1

theorem build_sharesOut {level : Level} (h : build settings container bytes = .ok level) :
    level.SharesOut container := by
  obtain ⟨reads, hexplore⟩ := build_eq_ok h
  obtain ⟨setups, inits, hsetups, hinits, harenas⟩ := buildArenas_eq_ok (explore_eq_ok hexplore).1
  have hnames : level.arenaNames = container.arenas.map ArenaRecord.name := by
    rw [arenaNames, harenas]
    apply List.ext_getElem?
    intro i
    simp [Function.comp_def, firstArena, Arena.new]
  have hshare : ∀ (index : Nat) (arena : Arena), level.arenas[index]? = some arena →
      arena.setups = share index setups ∧ arena.inits = share index inits := by
    intro index arena harena
    rw [harenas, List.getElem?_toArray, List.getElem?_mapIdx, Option.map_eq_some_iff] at harena
    obtain ⟨record, _, rfl⟩ := harena
    exact ⟨rfl, rfl⟩
  rw [← hnames] at hsetups hinits
  refine ⟨hnames, ?_, ?_, ?_⟩
  · intro index arena harena
    rw [(hshare index arena harena).1]
    exact forall₂_share hsetups index
  · intro index arena harena
    rw [(hshare index arena harena).2]
    exact forall₂_share hinits index
  · intro entry hentry
    have hgood : ∀ error, ¬ BadKey level.arenaNames entry.1 error := by
      rcases List.mem_append.mp hentry with hmem | hmem
      · exact exists_route.mp ⟨setups, hsetups⟩ entry hmem
      · exact exists_route.mp ⟨inits, hinits⟩ entry hmem
    obtain ⟨index, hleads, hunique⟩ := existsUnique_leadsTo hgood
    refine ⟨index, ⟨?_, hleads⟩, fun other hother => hunique other hother.2⟩
    obtain ⟨arena, name, _, hfirst⟩ := hleads
    have hlt := (List.getElem?_eq_some_iff.mp hfirst.getElem?_eq).1
    simpa [arenaNames] using hlt

end Levels

/-- A level is built unless a key of its tables is bad, and the error tells the first bad key, in
the setup scripts and then in those of placed actors.  The level that is built has both tables
shared out among its arenas.  Listing the scripts splits the same keys once more, but cannot fail
where the arenas were built. -/
theorem build_routes (settings : Settings) (container : Container) (bytes : Bytes) :
    let names := container.arenas.map ArenaRecord.name
    let entries := container.setups ++ container.inits
    (∀ error, build settings container bytes = .error error ↔ FirstBad names entries error) ∧
      ((∃ error, build settings container bytes = .error error) ↔
        ∃ entry ∈ entries, '$' ∉ entry.1.toList ∨
          ∃ arena name, Container.KeyParts entry.1 arena name ∧ arena ∉ names) ∧
      (∀ level, build settings container bytes = .ok level →
        level.SharesOut container ∧ CallGraph.build container bytes = .ok level.scripts) ∧
      ∀ arenas, buildArenas settings container = .ok arenas →
        ∃ graph, CallGraph.build container bytes = .ok graph := by
  intro names entries
  refine ⟨fun error => build_eq_error, ?_, ?_, fun arenas h => exists_build_of_buildArenas h bytes⟩
  · simp only [build_eq_error, exists_firstBad, exists_badKey]
    exact Iff.rfl
  · intro level hlevel
    refine ⟨build_sharesOut hlevel, ?_⟩
    obtain ⟨reads, hexplore⟩ := build_eq_ok hlevel
    simp [CallGraph.build, (explore_eq_ok hexplore).2.1, bind, Except.bind, pure, Except.pure]

end Level

/-- Two halls of one name and a yard, with keys that have two dollar signs or nothing behind one. -/
def Container.twofold : Container where
  name := "LEVEL"
  fileSize := 0
  inits := [("YARD$_1", 0)]
  meshes := []
  setups := [("HALL$A$B", 0), ("YARD$", 0), ("HALL$A$B", 7)]
  arenas := [⟨"HALL", ("", ""), 0⟩, ⟨"YARD", ("", ""), 0⟩, ⟨"HALL", ("", ""), 0⟩]

/-- The first hall gets both entries of one key, and the second hall nothing. -/
theorem Level.build_routes_twofold :
    ∃ level, build .standard .twofold #[] = .ok level ∧ level.SharesOut .twofold ∧
      level.arenas.toList.map (fun arena => (arena.setups.entries, arena.inits.entries)) =
        [([("A$B", 0), ("A$B", 7)], []), ([("", 0)], [("_1", 0)]), ([], [])] := by
  have hbuild : ∃ level, build .standard .twofold #[] = .ok level := ⟨_, rfl⟩
  obtain ⟨level, hlevel⟩ := hbuild
  have htables : (build .standard .twofold #[]).toOption.map (fun level =>
      level.arenas.toList.map fun arena => (arena.setups.entries, arena.inits.entries)) =
      some [([("A$B", 0), ("A$B", 7)], []), ([("", 0)], [("_1", 0)]), ([], [])] := by
    decide +kernel
  rw [hlevel] at htables
  exact ⟨level, hlevel, ((build_routes .standard .twofold #[]).2.2.1 level hlevel).1,
    Option.some.inj htables⟩

end LevelScript
