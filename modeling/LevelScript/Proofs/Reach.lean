import LevelScript.Proofs.Origins
import Mathlib.Data.List.TakeWhile
import Mathlib.Order.Bounds.Basic

/-!
The call graph has exactly the scripts that the tables reach.

The search is a list of leads from which one is taken up after the other, until none is left.  A set
of places that has those of the tables, and with each script those that it calls, has every script
that turns up on the way; and the scripts that are found in the end are such a set themselves.
-/

namespace LevelScript

/-- A key is split unless it has no dollar sign. -/
theorem Container.splitKey_eq_error {key : String} {error : DataError} :
    splitKey key = .error error ↔ '$' ∉ key.toList ∧ error = .malformedKey key := by
  have hdrop : key.toList.dropWhile (· != '$') = [] ↔ '$' ∉ key.toList := by
    rw [List.dropWhile_eq_nil_iff]
    simp only [bne_iff_ne]
    exact ⟨fun h hmem => h '$' hmem rfl, fun h c hc heq => h (heq ▸ hc)⟩
  unfold splitKey
  dsimp only
  split
  · next hnil => simp [hdrop.mp hnil, eq_comm]
  · next hcons => simp [mt hdrop.mpr (by simp [hcons])]

/-- All offsets of scripts in the tables, in their order. -/
def Container.tableOffsets (container : Container) : List UInt32 :=
  container.inits.map Prod.snd ++ container.setups.map Prod.snd ++
    container.arenas.map ArenaRecord.script

namespace CallGraph

variable {bytes : Bytes} {graph : CallGraph} {container : Container}

/-! ### Leads of the tables -/

theorem mapM_eq_error {α β : Type} {f : α → Except DataError β} {items : List α}
    {error : DataError} (h : items.mapM f = .error error) : ∃ a ∈ items, f a = .error error := by
  induction items with
  | nil => cases h
  | cons head rest ih =>
      rw [List.mapM_cons, bind_eq_error] at h
      rcases h with hhead | ⟨_, _, hrest⟩
      · exact ⟨head, List.mem_cons_self, hhead⟩
      · rw [bind_eq_error] at hrest
        rcases hrest with hrest | ⟨_, _, hpure⟩
        · obtain ⟨a, ha, heq⟩ := ih hrest
          exact ⟨a, List.mem_cons_of_mem head ha, heq⟩
        · cases hpure

/-- The search cannot start only where a key of a table has no dollar sign. -/
theorem tableLeads_eq_error {error : DataError} (h : tableLeads container = .error error) :
    ∃ entry ∈ container.inits ++ container.setups, '$' ∉ entry.1.toList ∧
      error = .malformedKey entry.1 := by
  rcases bind_eq_error.mp h with hinits | ⟨_, _, h⟩
  · obtain ⟨entry, hentry, herror⟩ := mapM_eq_error hinits
    refine ⟨entry, List.mem_append_left _ hentry, Container.splitKey_eq_error.mp ?_⟩
    rcases bind_eq_error.mp herror with hsplit | ⟨_, _, hmade⟩
    · exact hsplit
    · cases hmade
  · rcases bind_eq_error.mp h with hsetups | ⟨_, _, hmade⟩
    · obtain ⟨entry, hentry, herror⟩ := mapM_eq_error hsetups
      refine ⟨entry, List.mem_append_right _ hentry, Container.splitKey_eq_error.mp ?_⟩
      rcases bind_eq_error.mp herror with hsplit | ⟨_, _, hmade⟩
      · exact hsplit
      · cases hmade
    · cases hmade

/-- Entries of a table give leads to their offsets, and their keys have dollar signs. -/
theorem of_mapM_leads {lead : OffsetEntry → Except DataError Lead} {entries : List OffsetEntry}
    {leads : List Lead} (h : entries.mapM lead = .ok leads)
    (hlead : ∀ entry made, lead entry = .ok made → made.1 = entry.2 ∧ '$' ∈ entry.1.toList) :
    leads.map Prod.fst = entries.map Prod.snd ∧ ∀ entry ∈ entries, '$' ∈ entry.1.toList := by
  induction entries generalizing leads with
  | nil =>
      cases h
      simp
  | cons head rest ih =>
      simp only [List.mapM_cons, bind_eq_ok, pure, Except.pure, Except.ok.injEq] at h
      obtain ⟨made, hmade, others, hothers, rfl⟩ := h
      obtain ⟨hoffset, hdollar⟩ := hlead head made hmade
      obtain ⟨hoffsets, hdollars⟩ := ih hothers
      refine ⟨by simp [hoffset, hoffsets], ?_⟩
      intro entry hentry
      rcases List.mem_cons.mp hentry with rfl | hrest
      · exact hdollar
      · exact hdollars entry hrest

theorem of_tableLeads {leads : List Lead} (h : tableLeads container = .ok leads) :
    leads.map Prod.fst = container.tableOffsets.reverse ∧
      ∀ entry ∈ container.inits ++ container.setups, '$' ∈ entry.1.toList := by
  have hdollar : ∀ {key : String} {parts}, Container.splitKey key = .ok parts →
      '$' ∈ key.toList := by
    intro key parts hsplit
    by_contra hnone
    rw [Container.splitKey_eq_error.mpr ⟨hnone, rfl⟩] at hsplit
    cases hsplit
  simp only [tableLeads, bind_eq_ok, pure, Except.pure, Except.ok.injEq] at h
  obtain ⟨inits, hinits, setups, hsetups, rfl⟩ := h
  obtain ⟨hinitOffsets, hinitKeys⟩ := of_mapM_leads hinits fun entry made hmade => by
    simp only [initLead, bind_eq_ok, pure, Except.pure, Except.ok.injEq] at hmade
    obtain ⟨key, hkey, rfl⟩ := hmade
    exact ⟨rfl, hdollar hkey⟩
  obtain ⟨hsetupOffsets, hsetupKeys⟩ := of_mapM_leads hsetups fun entry made hmade => by
    simp only [setupLead, bind_eq_ok, pure, Except.pure, Except.ok.injEq] at hmade
    obtain ⟨key, hkey, rfl⟩ := hmade
    exact ⟨rfl, hdollar hkey⟩
  have harenas : (container.arenas.map arenaLead).map Prod.fst =
      container.arenas.map ArenaRecord.script := by
    rw [List.map_map]
    rfl
  refine ⟨?_, ?_⟩
  · rw [List.map_reverse, List.map_append, List.map_append, hinitOffsets, hsetupOffsets, harenas]
    rfl
  · intro entry hentry
    exact (List.mem_append.mp hentry).elim (hinitKeys entry) (hsetupKeys entry)

/-! ### Steps of the search -/

/-- The latest lead is taken up: it leads nowhere, to a script that is known, or to a new one. -/
inductive Step (bytes : Bytes) : List Lead × CallGraph → List Lead × CallGraph → Prop
  | zero {origin rest graph} : Step bytes ((0, origin) :: rest, graph) (rest, graph)
  | known {offset origin rest graph script} (hne : offset ≠ 0)
      (hfound : graph.find? offset = some script) :
      Step bytes ((offset, origin) :: rest, graph) (rest, graph.addOrigin offset origin)
  | new {offset origin rest graph} (hne : offset ≠ 0) (hfound : graph.find? offset = none) :
      Step bytes ((offset, origin) :: rest, graph)
        (callLeads origin (Listing.parse bytes offset) ++ rest,
          graph.insert ⟨Listing.parse bytes offset, [origin]⟩)

theorem kept_step (bytes : Bytes) (places : List UInt32) (start : List Lead × CallGraph) :
    Kept bytes places fun leads graph =>
      Relation.ReflTransGen (Step bytes) start (leads, graph) where
  zero _ h := h.tail .zero
  known _ hne hfound h := h.tail (.known hne hfound)
  new _ hne hfound h := h.tail (.new hne hfound)

/-- The origins of every script stand in order, each of them once. -/
theorem kept_ascending (bytes : Bytes) (places : List UInt32) :
    Kept bytes places fun _ graph =>
      ∀ script ∈ graph.scripts, script.origins.Pairwise (Origin.lt · ·) where
  zero _ h := h
  known _ _ _ h script hscript := by
    obtain ⟨old, hold, rfl⟩ := List.mem_map.mp hscript
    split
    · exact orders_originLt.pairwise_sortedInsert (h old hold) _
    · exact h old hold
  new {_ _ origin _} _ _ hfound h script hscript := by
    rcases (mem_insert_parse hfound).mp hscript with rfl | hold
    · exact List.pairwise_singleton _ origin
    · exact h script hold

/-! ### Closed sets -/

/-- A set of offsets that has those of the tables, zero apart, and with the offset of a script also
those of the scripts that it calls. -/
structure Closed (container : Container) (bytes : Bytes) (places : Set UInt32) : Prop where
  tables : ∀ offset ∈ container.tableOffsets, offset ≠ 0 → offset ∈ places
  calls : ∀ offset ∈ places, ∀ call ∈ (Listing.parse bytes offset).calls, call.offset ∈ places

/-- The search does not leave a closed set. -/
theorem kept_within (places : List UInt32) {closed : Set UInt32}
    (hclosed : Closed container bytes closed) :
    Kept bytes places fun leads graph => (∀ lead ∈ leads, lead.1 ≠ 0 → lead.1 ∈ closed) ∧
      ∀ script ∈ graph.scripts, script.offset ∈ closed where
  zero _ h := ⟨fun lead hlead => h.1 lead (List.mem_cons_of_mem _ hlead), h.2⟩
  known _ _ _ h := by
    refine ⟨fun lead hlead => h.1 lead (List.mem_cons_of_mem _ hlead), ?_⟩
    intro script hscript
    obtain ⟨old, hold, hlisting⟩ := mem_addOrigin hscript
    rw [Script.offset, hlisting]
    exact h.2 old hold
  new {_ offset origin rest} _ hne hfound h := by
    have hoffset : offset ∈ closed := h.1 _ List.mem_cons_self hne
    refine ⟨?_, ?_⟩
    · intro lead hlead hnonzero
      rcases List.mem_append.mp hlead with hcall | hrest
      · rw [callLeads, List.mem_reverse] at hcall
        obtain ⟨call, hmem, rfl⟩ := List.mem_map.mp hcall
        exact hclosed.calls offset hoffset call hmem
      · exact h.1 lead (List.mem_cons_of_mem _ hrest) hnonzero
    · intro script hscript
      rcases (mem_insert_parse hfound).mp hscript with rfl | hold
      · rw [Script.offset, Listing.parse_offset]
        exact hoffset
      · exact h.2 script hold

/-! ### The reachable scripts -/

/-- There are no more scripts than places for them. -/
theorem Searching.length_le {places : List UInt32} {leads : List Lead}
    (h : graph.Searching bytes places leads) : graph.scripts.length ≤ places.length := by
  have hsub : graph.scripts.map Script.offset ⊆ places := by
    intro offset hoffset
    obtain ⟨script, hscript, rfl⟩ := List.mem_map.mp hoffset
    exact h.scripts_mem script hscript
  have hle := h.unique.length_le_of_subset hsub
  rwa [List.length_map] at hle

/-- The offsets at which a script is found. -/
def found (graph : CallGraph) : Set UInt32 :=
  {offset | ∃ script, graph.find? offset = some script}

theorem Runs.found {name : String} {offset : UInt32} (h : graph.Runs bytes name offset)
    (hunique : (graph.scripts.map Script.offset).Nodup) : offset ∈ graph.found := by
  obtain ⟨script, hfound, _⟩ := h.find? hunique
  exact ⟨script, hfound⟩

/-- What is found when no lead is left is closed. -/
theorem closed_found {leads : List Lead} {places : List UInt32}
    (h : graph.Searching bytes places []) (hleads : tableLeads container = .ok leads)
    (hruns : ∀ lead ∈ leads, lead.1 ≠ 0 → graph.Runs bytes lead.2.target lead.1) :
    Closed container bytes graph.found where
  tables offset hoffset hne := by
    rw [← List.mem_reverse, ← (of_tableLeads hleads).1] at hoffset
    obtain ⟨lead, hlead, rfl⟩ := List.mem_map.mp hoffset
    exact (hruns lead hlead hne).found h.unique
  calls := by
    rintro offset ⟨script, hfound⟩ call hcall
    obtain ⟨hscript, rfl⟩ := find?_eq_some hfound
    have hne := (Listing.parse_callsGrounded bytes _ call hcall).2
    rw [← h.listed script hscript] at hcall
    exact ((h.followed script hscript call hcall).runs hne).found h.unique

/-- The search finds no more than what is in every closed set, and its finds are one. -/
theorem isLeast_found {reads : List Span} (h : explore container bytes = .ok (graph, reads)) :
    IsLeast {places | Closed container bytes places} graph.found := by
  obtain ⟨leads, hleads, hsearched⟩ := explore_induction h
  refine ⟨?_, ?_⟩
  · obtain ⟨_, leads', hleads', hruns⟩ := explore_complete h
    obtain rfl : leads = leads' := Except.ok.inj (hleads.symm.trans hleads')
    obtain ⟨hsearching, _⟩ := hsearched _ (kept_step bytes _ (leads, empty)) .refl
    exact closed_found hsearching hleads hruns
  · rintro closed hclosed offset ⟨script, hfound⟩
    have hstart : ∀ lead ∈ leads, lead.1 ≠ 0 → lead.1 ∈ closed := by
      intro lead hlead
      have hoffset : lead.1 ∈ leads.map Prod.fst := List.mem_map_of_mem hlead
      rw [(of_tableLeads hleads).1, List.mem_reverse] at hoffset
      exact hclosed.tables lead.1 hoffset
    obtain ⟨_, _, hwithin⟩ := hsearched _ (kept_within _ hclosed) ⟨hstart, nofun⟩
    obtain ⟨hscript, rfl⟩ := find?_eq_some hfound
    exact hwithin script hscript

theorem build_eq_error {error : DataError} (h : build container bytes = .error error) :
    ∃ entry ∈ container.inits ++ container.setups, '$' ∉ entry.1.toList ∧
      error = .malformedKey entry.1 := by
  rcases bind_eq_error.mp h with hexplore | ⟨_, _, hmade⟩
  · rcases bind_eq_error.mp hexplore with hleads | ⟨_, _, hmade⟩
    · exact tableLeads_eq_error hleads
    · cases hmade
  · cases hmade

/-- Building a graph fails only for a key without a dollar sign.  Otherwise its search takes up
leads until none is left, and the scripts that are found are the least closed set: those that the
tables reach.  Each is listed as it stands in the buffer, and has its origins in order, each once
and at least one.  None is at zero, and there are no more of them than entries of tables and
positions of words. -/
theorem build_reaches (container : Container) (bytes : Bytes) :
    (∃ entry ∈ container.inits ++ container.setups, '$' ∉ entry.1.toList ∧
      build container bytes = .error (.malformedKey entry.1)) ∨
    (∀ entry ∈ container.inits ++ container.setups, '$' ∈ entry.1.toList) ∧
      ∃ leads graph, tableLeads container = .ok leads ∧ build container bytes = .ok graph ∧
        Relation.ReflTransGen (Step bytes) (leads, empty) ([], graph) ∧
        IsLeast {places | Closed container bytes places} graph.found ∧
        (∀ offset script, graph.find? offset = some script →
          script.listing = Listing.parse bytes offset ∧ script.origins ≠ [] ∧
            script.origins.Pairwise (Origin.lt · ·) ∧ script.origins.Nodup) ∧
        graph.find? 0 = none ∧
        (graph.scripts.map Script.offset).Nodup ∧
        graph.scripts.length ≤ container.tableOffsets.length + (bytes.size - 3) := by
  cases hbuild : build container bytes with
  | error error =>
      obtain ⟨entry, hentry, hkey, rfl⟩ := build_eq_error hbuild
      exact .inl ⟨entry, hentry, hkey, rfl⟩
  | ok graph =>
      obtain ⟨reads, hexplore⟩ := explore_of_build hbuild
      obtain ⟨leads, hleads, hsearched⟩ := explore_induction hexplore
      obtain ⟨hsearching, hsteps⟩ := hsearched _ (kept_step bytes _ (leads, empty)) .refl
      obtain ⟨_, hascending⟩ := hsearched _ (kept_ascending bytes _) nofun
      obtain ⟨_, first, htraced⟩ := build_traced hbuild
      obtain ⟨hoffsets, hkeys⟩ := of_tableLeads hleads
      refine .inr ⟨hkeys, leads, graph, hleads, rfl, hsteps, isLeast_found hexplore, ?_, ?_,
        hsearching.unique, ?_⟩
      · intro offset script hfound
        obtain ⟨hscript, rfl⟩ := find?_eq_some hfound
        have horigins := hascending script hscript
        exact ⟨hsearching.listed script hscript,
          List.ne_nil_of_mem (htraced.first_mem script hscript), horigins,
          orders_originLt.nodup horigins⟩
      · rw [find?, List.find?_eq_none]
        intro script hscript
        simpa using htraced.ne_zero script hscript
      · have hlength := congrArg List.length hoffsets
        rw [List.length_map, List.length_reverse] at hlength
        have hle := Nat.le_trans hsearching.length_le (places_length_le bytes leads)
        rwa [hlength] at hle

/-- A script that two arenas share, and one that it calls. -/
theorem build_reaches_sharing :
    build .sharing .sharing = .ok sharing ∧ sharing.scripts.map Script.offset = [50, 70] ∧
      IsLeast {places | Closed .sharing .sharing places} sharing.found := by
  refine ⟨build_sharing, by decide +kernel, ?_⟩
  rcases build_reaches .sharing .sharing with
    ⟨_, _, _, herror⟩ | ⟨_, _, graph, _, hbuild, _, hleast, _⟩
  · rw [build_sharing] at herror
    cases herror
  · rw [build_sharing] at hbuild
    cases hbuild
    exact hleast

end CallGraph

end LevelScript
