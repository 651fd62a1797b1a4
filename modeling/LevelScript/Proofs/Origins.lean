import LevelScript.Proofs.Usage
import Mathlib.Logic.Function.Basic

/-!
Which callers a call graph records.

The calls of a script become leads once, when the script is found first, and each lead is told on
whose behalf: that of the arena and the actor of the way that led to the script.  Every other way to
the script is added to its origins, but not to those of the scripts it calls.  So a call is recorded
for an origin of its script exactly if that origin has the arena and the actor of the first one.
-/

namespace LevelScript

namespace CallGraph

variable {bytes : Bytes} {graph : CallGraph} {first : UInt32 → Origin}

/-! ### Leads of the tables -/

theorem exists_of_mem_mapM {α β : Type} {f : α → Except DataError β} {items : List α}
    {results : List β} (h : items.mapM f = .ok results) {b : β} (hb : b ∈ results) :
    ∃ a ∈ items, f a = .ok b := by
  induction items generalizing results with
  | nil =>
      cases h
      exact absurd hb List.not_mem_nil
  | cons head rest ih =>
      simp only [List.mapM_cons, bind_eq_ok, pure, Except.pure, Except.ok.injEq] at h
      obtain ⟨b', hb', others, hothers, rfl⟩ := h
      rcases List.mem_cons.mp hb with rfl | hrest
      · exact ⟨head, List.mem_cons_self, hb'⟩
      · obtain ⟨a, ha, heq⟩ := ih hothers hrest
        exact ⟨a, List.mem_cons_of_mem head ha, heq⟩

/-- An entry of a table is called by no script. -/
theorem sourceOffset_of_tableLeads {container : Container} {leads : List Lead}
    (h : tableLeads container = .ok leads) : ∀ lead ∈ leads, lead.2.sourceOffset = 0 := by
  simp only [tableLeads, bind_eq_ok, pure, Except.pure, Except.ok.injEq] at h
  obtain ⟨inits, hinits, setups, hsetups, rfl⟩ := h
  intro lead hlead
  rw [List.mem_reverse, List.mem_append, List.mem_append] at hlead
  rcases hlead with (hinit | hsetup) | harena
  · obtain ⟨entry, _, hentry⟩ := exists_of_mem_mapM hinits hinit
    simp only [initLead, bind_eq_ok, pure, Except.pure, Except.ok.injEq] at hentry
    obtain ⟨key, _, rfl⟩ := hentry
    rfl
  · obtain ⟨entry, _, hentry⟩ := exists_of_mem_mapM hsetups hsetup
    simp only [setupLead, bind_eq_ok, pure, Except.pure, Except.ok.injEq] at hentry
    obtain ⟨key, _, rfl⟩ := hentry
    rfl
  · obtain ⟨record, _, rfl⟩ := List.mem_map.mp harena
    rfl

/-! ### Steps of the search -/

/-- A script of the grown graph is an old one, with one more origin if it is the script at the
offset. -/
theorem origins_of_mem_addOrigin {offset : UInt32} {origin : Origin} {script : Script}
    (h : script ∈ (graph.addOrigin offset origin).scripts) :
    ∃ old ∈ graph.scripts, script.listing = old.listing ∧ (∀ o ∈ old.origins, o ∈ script.origins) ∧
      ∀ o ∈ script.origins, o = origin ∨ o ∈ old.origins := by
  obtain ⟨old, hold, rfl⟩ := List.mem_map.mp h
  refine ⟨old, hold, ?_⟩
  split
  · exact ⟨rfl, fun _ ho => mem_sortedInsert_of_mem ho,
      fun _ ho => eq_or_mem_of_mem_sortedInsert ho⟩
  · exact ⟨rfl, fun _ ho => ho, fun _ ho => .inr ho⟩

/-- The graph records an origin of the script at an offset. -/
def Records (graph : CallGraph) (offset : UInt32) (origin : Origin) : Prop :=
  ∃ script ∈ graph.scripts, script.offset = offset ∧ origin ∈ script.origins

theorem Records.addOrigin {offset : UInt32} {origin : Origin} (h : graph.Records offset origin)
    (at_ : UInt32) (added : Origin) : (graph.addOrigin at_ added).Records offset origin := by
  obtain ⟨script, hscript, hoffset, horigin⟩ := h
  refine ⟨_, List.mem_map.mpr ⟨script, hscript, rfl⟩, ?_⟩
  split
  · exact ⟨hoffset, mem_sortedInsert_of_mem horigin⟩
  · exact ⟨hoffset, horigin⟩

theorem Records.insert {offset : UInt32} {origin : Origin} (h : graph.Records offset origin)
    {script : Script} (hnew : graph.find? script.offset = none) :
    (graph.insert script).Records offset origin := by
  obtain ⟨known, hknown, hrecorded⟩ := h
  exact ⟨known, (mem_insert hnew).mpr (.inr hknown), hrecorded⟩

theorem records_addOrigin {offset : UInt32} {script : Script}
    (h : graph.find? offset = some script) (origin : Origin) :
    (graph.addOrigin offset origin).Records offset origin := by
  obtain ⟨hscript, hoffset⟩ := find?_eq_some h
  refine ⟨_, List.mem_map.mpr ⟨script, hscript, rfl⟩, ?_⟩
  rw [if_pos (beq_iff_eq.mpr hoffset)]
  exact ⟨hoffset, mem_sortedInsert_self separates_originLt origin script.origins⟩

/-- An origin that is the entry of a table, or a call on behalf of the first origin of a script that
is known. -/
def Sourced (first : UInt32 → Origin) (graph : CallGraph) (origin : Origin) : Prop :=
  origin.sourceOffset = 0 ∨ origin.sourceOffset ∈ graph.scripts.map Script.offset ∧
    origin.arena = (first origin.sourceOffset).arena ∧
    origin.source = (first origin.sourceOffset).target

/-- What the search keeps up about origins, for the first one of each script: it is recorded, every
call is recorded on its behalf or still a lead, and no call is recorded on behalf of another
one. -/
structure Traced (first : UInt32 → Origin) (leads : List Lead) (graph : CallGraph) : Prop where
  ne_zero : ∀ script ∈ graph.scripts, script.offset ≠ 0
  first_mem : ∀ script ∈ graph.scripts, first script.offset ∈ script.origins
  passed : ∀ script ∈ graph.scripts, ∀ call ∈ script.listing.calls,
    let passed := (first script.offset).ofCall script.offset call
    graph.Records call.offset passed ∨ (call.offset, passed) ∈ leads
  sourced : ∀ script ∈ graph.scripts, ∀ origin ∈ script.origins, graph.Sourced first origin
  leads_sourced : ∀ lead ∈ leads, graph.Sourced first lead.2

namespace Traced

variable {places : List UInt32} {offset : UInt32} {origin : Origin} {rest : List Lead}

/-- No call leads to zero, so no lead is lost. -/
theorem drop_zero (h : graph.Traced first ((0, origin) :: rest))
    (hsearching : graph.Searching bytes places ((0, origin) :: rest)) :
    graph.Traced first rest where
  ne_zero := h.ne_zero
  first_mem := h.first_mem
  sourced := h.sourced
  leads_sourced lead hlead := h.leads_sourced lead (List.mem_cons_of_mem _ hlead)
  passed script hscript call hcall := by
    rcases h.passed script hscript call hcall with hrecorded | hlead
    · exact .inl hrecorded
    · rcases List.mem_cons.mp hlead with heq | hrest
      · rw [hsearching.listed script hscript] at hcall
        exact absurd (congrArg Prod.fst heq) (Listing.parse_callsGrounded bytes _ call hcall).2
      · exact .inr hrest

/-- A lead to a script that is known is recorded there. -/
theorem addOrigin (h : graph.Traced first ((offset, origin) :: rest)) {script : Script}
    (hfound : graph.find? offset = some script) :
    (graph.addOrigin offset origin).Traced first rest := by
  have hsourced : ∀ o, graph.Sourced first o → (graph.addOrigin offset origin).Sourced first o := by
    intro o ho
    rwa [Sourced, offsets_addOrigin]
  refine ⟨?_, ?_, ?_, ?_, ?_⟩
  · intro script hscript
    obtain ⟨old, hold, hlisting, _⟩ := origins_of_mem_addOrigin hscript
    rw [Script.offset, hlisting]
    exact h.ne_zero old hold
  · intro script hscript
    obtain ⟨old, hold, hlisting, hkept, _⟩ := origins_of_mem_addOrigin hscript
    rw [Script.offset, hlisting]
    exact hkept _ (h.first_mem old hold)
  · intro script hscript call hcall
    obtain ⟨old, hold, hlisting, _⟩ := origins_of_mem_addOrigin hscript
    rw [hlisting] at hcall
    rw [Script.offset, hlisting]
    rcases h.passed old hold call hcall with hrecorded | hlead
    · exact .inl (hrecorded.addOrigin offset origin)
    · rcases List.mem_cons.mp hlead with heq | hrest
      · obtain ⟨hoffset, horigin⟩ := Prod.mk.inj heq
        left
        rw [hoffset]
        exact horigin ▸ records_addOrigin hfound origin
      · exact .inr hrest
  · intro script hscript o ho
    obtain ⟨old, hold, _, _, horigins⟩ := origins_of_mem_addOrigin hscript
    apply hsourced
    rcases horigins o ho with rfl | hmem
    · exact h.leads_sourced _ List.mem_cons_self
    · exact h.sourced old hold o hmem
  · exact fun lead hlead => hsourced _ (h.leads_sourced lead (List.mem_cons_of_mem _ hlead))

/-- A lead to a new script is the first origin of that script, and its calls are new leads on behalf
of that origin. -/
theorem insert (h : graph.Traced first ((offset, origin) :: rest)) (hne : offset ≠ 0)
    (hfound : graph.find? offset = none) :
    let listing := Listing.parse bytes offset
    (graph.insert ⟨listing, [origin]⟩).Traced (Function.update first offset origin)
      (callLeads origin listing ++ rest) := by
  intro listing
  have hoffset : listing.offset = offset := Listing.parse_offset bytes offset
  have hnew : graph.find? (Script.mk listing [origin]).offset = none := by
    rwa [Script.offset, hoffset]
  -- The first origins of the other scripts stay.
  have hold : ∀ script ∈ graph.scripts,
      Function.update first offset origin script.offset = first script.offset := by
    intro script hscript
    refine Function.update_of_ne ?_ _ _
    simpa using List.find?_eq_none.mp hfound script hscript
  have hsourced : ∀ o, graph.Sourced first o →
      (graph.insert ⟨listing, [origin]⟩).Sourced (Function.update first offset origin) o := by
    rintro o (hzero | ⟨hsource, ho⟩)
    · exact .inl hzero
    · obtain ⟨script, hscript, heq⟩ := List.mem_map.mp hsource
      refine .inr ⟨List.mem_map.mpr ⟨script, (mem_insert hnew).mpr (.inr hscript), heq⟩, ?_⟩
      rw [← heq, hold script hscript, heq]
      exact ho
  refine ⟨?_, ?_, ?_, ?_, ?_⟩
  · intro script hscript
    rcases (mem_insert hnew).mp hscript with rfl | hscript
    · rw [Script.offset, hoffset]
      exact hne
    · exact h.ne_zero script hscript
  · intro script hscript
    rcases (mem_insert hnew).mp hscript with rfl | hscript
    · rw [Script.offset, hoffset, Function.update_self]
      exact List.mem_singleton_self origin
    · rw [hold script hscript]
      exact h.first_mem script hscript
  · intro script hscript call hcall
    rcases (mem_insert hnew).mp hscript with rfl | hscript
    · right
      apply List.mem_append_left
      rw [callLeads, List.mem_reverse, Script.offset, hoffset, Function.update_self]
      exact List.mem_map.mpr ⟨call, hcall, rfl⟩
    · rw [hold script hscript]
      rcases h.passed script hscript call hcall with hrecorded | hlead
      · exact .inl (hrecorded.insert hnew)
      · rcases List.mem_cons.mp hlead with heq | hrest
        · obtain ⟨hcalled, hpassed⟩ := Prod.mk.inj heq
          exact .inl ⟨_, (mem_insert hnew).mpr (.inl rfl), hoffset.trans hcalled.symm,
            List.mem_singleton.mpr hpassed⟩
        · exact .inr (List.mem_append_right _ hrest)
  · intro script hscript o ho
    apply hsourced
    rcases (mem_insert hnew).mp hscript with rfl | hscript
    · rw [List.mem_singleton.mp ho]
      exact h.leads_sourced _ List.mem_cons_self
    · exact h.sourced script hscript o ho
  · intro lead hlead
    rcases List.mem_append.mp hlead with hcall | hrest
    · rw [callLeads, List.mem_reverse] at hcall
      obtain ⟨call, _, rfl⟩ := List.mem_map.mp hcall
      refine .inr ⟨List.mem_map.mpr ⟨_, (mem_insert hnew).mpr (.inl rfl), rfl⟩, ?_⟩
      simp [Origin.ofCall, hoffset]
    · exact hsourced _ (h.leads_sourced lead (List.mem_cons_of_mem _ hrest))

end Traced

theorem kept_traced (bytes : Bytes) (places : List UInt32) :
    Kept bytes places fun leads graph => ∃ first, graph.Traced first leads where
  zero h := by
    rintro ⟨first, htraced⟩
    exact ⟨first, htraced.drop_zero h⟩
  known _ _ hfound := by
    rintro ⟨first, htraced⟩
    exact ⟨first, htraced.addOrigin hfound⟩
  new h hne hfound := by
    rintro ⟨first, htraced⟩
    exact ⟨_, htraced.insert hne hfound⟩

/-- In a whole graph no lead is left. -/
theorem build_traced {container : Container} (h : build container bytes = .ok graph) :
    (graph.scripts.map Script.offset).Nodup ∧ ∃ first, graph.Traced first [] := by
  obtain ⟨reads, hexplore⟩ := explore_of_build h
  obtain ⟨leads, hleads, hsearched⟩ := explore_induction hexplore
  have hnone : ∀ script : Script, script ∉ empty.scripts := fun _ => List.not_mem_nil
  have hstart : empty.Traced default leads :=
    { ne_zero := fun script hscript => absurd hscript (hnone script)
      first_mem := fun script hscript => absurd hscript (hnone script)
      passed := fun script hscript => absurd hscript (hnone script)
      sourced := fun script hscript => absurd hscript (hnone script)
      leads_sourced := fun lead hlead => .inl (sourceOffset_of_tableLeads hleads lead hlead) }
  obtain ⟨hsearching, htraced⟩ := hsearched _ (kept_traced bytes _) ⟨default, hstart⟩
  exact ⟨hsearching.unique, htraced⟩

/-! ### Recorded calls -/

/-- A script that is recorded for an arena and an actor is used by that actor there. -/
theorem Records.arena_mem_usage {offset : UInt32} {origin : Origin}
    (h : graph.Records offset origin) (hindexed : graph.Indexed) :
    origin.arena ∈ (graph.usage origin.target).arenas := by
  obtain ⟨script, hscript, _, horigin⟩ := h
  have hattests : graph.Attests origin script.listing := ⟨script, hscript, rfl, horigin⟩
  exact (hindexed.usage _ (.arena origin.arena)).mpr ⟨origin, _, hattests, rfl, rfl⟩

/-- Every script of a graph has an origin on behalf of which all its calls are recorded: each called
script is found and has the call among its origins, and its actor is known in that arena.  On behalf
of another origin of the script a call is recorded exactly if that origin has the same arena and the
same actor. -/
theorem calls_recorded_iff {container : Container} (h : build container bytes = .ok graph) :
    ∀ script ∈ graph.scripts, ∃ first ∈ script.origins, ∀ call ∈ script.listing.calls,
      first.arena ∈ (graph.usage call.name).arenas ∧
      ∃ called, graph.find? call.offset = some called ∧ ∀ origin ∈ script.origins,
        origin.ofCall script.offset call ∈ called.origins ↔
          origin.arena = first.arena ∧ origin.target = first.target := by
  obtain ⟨hunique, first, htraced⟩ := build_traced h
  intro script hscript
  refine ⟨first script.offset, htraced.first_mem script hscript, fun call hcall => ?_⟩
  have hrecorded : graph.Records call.offset
      ((first script.offset).ofCall script.offset call) :=
    (htraced.passed script hscript call hcall).resolve_right List.not_mem_nil
  refine ⟨hrecorded.arena_mem_usage (build_indexed h), ?_⟩
  obtain ⟨called, hcalled, hoffset, hpassed⟩ := hrecorded
  refine ⟨called, hoffset ▸ find?_of_mem hunique hcalled, fun origin _ => ?_⟩
  constructor
  · intro horigin
    rcases htraced.sourced called hcalled _ horigin with hzero | ⟨_, harena, htarget⟩
    · exact absurd hzero (htraced.ne_zero script hscript)
    · exact ⟨harena, htarget⟩
  · rintro ⟨harena, htarget⟩
    rwa [Origin.ofCall, harena, htarget]

/-- What holds of every graph, of this one: the call is recorded on behalf of `B` alone. -/
theorem calls_recorded_iff_sharing :
    Container.parse .sharing = .ok .sharing ∧ build .sharing .sharing = .ok sharing ∧
      ∀ script ∈ sharing.scripts, ∃ first ∈ script.origins, ∀ call ∈ script.listing.calls,
        first.arena ∈ (sharing.usage call.name).arenas ∧
        ∃ called, sharing.find? call.offset = some called ∧ ∀ origin ∈ script.origins,
          origin.ofCall script.offset call ∈ called.origins ↔
            origin.arena = first.arena ∧ origin.target = first.target :=
  ⟨Container.parse_sharing, build_sharing, calls_recorded_iff build_sharing⟩

/-- A call that is made on behalf of `A` too is not among the origins of the script it starts, and
the `G` that runs that script is not known in `A`. -/
theorem shared_call_not_recorded :
    Container.parse .sharing = .ok .sharing ∧ build .sharing .sharing = .ok sharing ∧
      ∃ script ∈ sharing.scripts, ∃ origin ∈ script.origins, ∃ call ∈ script.listing.calls,
        ∃ called ∈ sharing.find? call.offset,
          origin.ofCall script.offset call ∉ called.origins ∧
            origin.arena ∉ (sharing.usage call.name).arenas :=
  ⟨Container.parse_sharing, build_sharing, by decide +kernel⟩

end CallGraph

end LevelScript
