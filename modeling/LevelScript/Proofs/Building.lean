import LevelScript.Level

/-!
How a level is built: what its arenas are at first, and where their tables come from.
-/

namespace LevelScript

theorem bind_eq_ok {ε α β : Type} {x : Except ε α} {f : α → Except ε β} {b : β} :
    (x >>= f) = .ok b ↔ ∃ a, x = .ok a ∧ f a = .ok b := by
  cases x with
  | error e => simp [bind, Except.bind]
  | ok a => simp [bind, Except.bind]

theorem bind_eq_error {ε α β : Type} {x : Except ε α} {f : α → Except ε β} {e : ε} :
    (x >>= f) = .error e ↔ x = .error e ∨ ∃ a, x = .ok a ∧ f a = .error e := by
  cases x with
  | error e => simp [bind, Except.bind]
  | ok a => simp [bind, Except.bind]

namespace Level

/-- What is routed to an arena is an entry of the table, under the local part of its key. -/
theorem mem_of_route {arenas : List String} {entries : List OffsetEntry}
    {routed : List (Nat × OffsetEntry)} (h : route arenas entries = .ok routed) {index : Nat}
    {name : String} {offset : UInt32} (hmem : (index, name, offset) ∈ routed) :
    ∃ key arena, (key, offset) ∈ entries ∧ Container.splitKey key = .ok (arena, name) := by
  induction entries generalizing routed with
  | nil =>
      cases h
      exact absurd hmem List.not_mem_nil
  | cons head rest ih =>
      obtain ⟨key, offset'⟩ := head
      simp only [route, routeKey, bind_eq_ok, pure, Except.pure, Except.ok.injEq] at h
      obtain ⟨_, ⟨⟨arena, name'⟩, hkey, _, _, rfl⟩, others, hothers, rfl⟩ := h
      rcases List.mem_cons.mp hmem with heq | hrest
      · cases heq
        exact ⟨key, arena, List.mem_cons_self, hkey⟩
      · obtain ⟨key', arena', hentry, hkey'⟩ := ih hothers hrest
        exact ⟨key', arena', List.mem_cons_of_mem _ hentry, hkey'⟩

theorem mem_of_share {index : Nat} {routed : List (Nat × OffsetEntry)} {entry : OffsetEntry}
    (h : entry ∈ (share index routed).entries) : (index, entry) ∈ routed := by
  obtain ⟨⟨index', entry'⟩, hmem, rfl⟩ := List.mem_map.mp h
  obtain ⟨hrouted, hindex⟩ := List.mem_filter.mp hmem
  rw [beq_iff_eq] at hindex
  exact hindex ▸ hrouted

/-- The arena that a record starts out as, with its shares of the routed tables. -/
def firstArena (settings : Settings) (setups inits : List (Nat × OffsetEntry)) (index : Nat)
    (record : ArenaRecord) : Arena :=
  { Arena.new settings index record with setups := share index setups, inits := share index inits }

theorem buildArenas_eq_ok {settings : Settings} {container : Container} {arenas : Array Arena}
    (h : buildArenas settings container = .ok arenas) :
    ∃ setups inits, route (container.arenas.map ArenaRecord.name) container.setups = .ok setups ∧
      route (container.arenas.map ArenaRecord.name) container.inits = .ok inits ∧
      arenas = (container.arenas.mapIdx (firstArena settings setups inits)).toArray := by
  simp only [buildArenas, bind_eq_ok, pure, Except.pure, Except.ok.injEq] at h
  obtain ⟨setups, hsetups, inits, hinits, rfl⟩ := h
  exact ⟨setups, inits, hsetups, hinits, rfl⟩

/-- The parts of a level that was explored. -/
theorem explore_eq_ok {settings : Settings} {container : Container} {bytes : Bytes} {level : Level}
    {reads : List Span} (h : explore settings container bytes = .ok (level, reads)) :
    buildArenas settings container = .ok level.arenas ∧
      CallGraph.explore container bytes = .ok (level.scripts, reads) ∧ level.bytes = bytes := by
  simp only [explore, bind_eq_ok, pure, Except.pure, Except.ok.injEq, Prod.mk.injEq] at h
  obtain ⟨arenas, harenas, ⟨scripts, reads'⟩, hscripts, rfl, rfl⟩ := h
  exact ⟨harenas, hscripts, rfl⟩

theorem build_eq_ok {settings : Settings} {container : Container} {bytes : Bytes} {level : Level}
    (h : build settings container bytes = .ok level) :
    ∃ reads, explore settings container bytes = .ok (level, reads) := by
  simp only [build, bind_eq_ok, pure, Except.pure, Except.ok.injEq] at h
  obtain ⟨⟨level', reads⟩, hexplore, rfl⟩ := h
  exact ⟨reads, hexplore⟩

theorem build_of_explore {settings : Settings} {container : Container} {bytes : Bytes}
    {level : Level} {reads : List Span}
    (h : explore settings container bytes = .ok (level, reads)) :
    build settings container bytes = .ok level := by
  simp [build, h, bind, Except.bind, pure, Except.pure]

/-- Every arena of a level that was built is the first state of a record. -/
theorem getElem?_of_explore {settings : Settings} {container : Container} {bytes : Bytes}
    {level : Level} {reads : List Span}
    (h : explore settings container bytes = .ok (level, reads)) :
    ∃ setups inits, route (container.arenas.map ArenaRecord.name) container.setups = .ok setups ∧
      route (container.arenas.map ArenaRecord.name) container.inits = .ok inits ∧
      ∀ (i : Nat) (arena : Arena), level.arenas[i]? = some arena →
        ∃ record, container.arenas[i]? = some record ∧
          arena = firstArena settings setups inits i record := by
  obtain ⟨setups, inits, hsetups, hinits, harenas⟩ := buildArenas_eq_ok (explore_eq_ok h).1
  refine ⟨setups, inits, hsetups, hinits, ?_⟩
  intro i arena harena
  rw [harenas, List.getElem?_toArray, List.getElem?_mapIdx, Option.map_eq_some_iff] at harena
  obtain ⟨record, hrecord, rfl⟩ := harena
  exact ⟨record, hrecord, rfl⟩

end Level

end LevelScript
