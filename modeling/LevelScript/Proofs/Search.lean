import LevelScript.Proofs.Building
import LevelScript.Proofs.MainBlock
import Mathlib.Data.List.Nodup

/-!
The call graph is complete.

The search takes up one lead after the other; a call of a listed script is either realised in the
graph or still among the leads.  The fuel never gives out: the scripts of the graph start at
different places, each of which is a lead from the tables or a word of the buffer.
-/

namespace LevelScript

/-! ### Scripts of a graph -/

namespace CallGraph

variable {bytes : Bytes} {graph : CallGraph}

/-- The graph has the listing of the script at an offset, among those for the actor of a name. -/
def Runs (bytes : Bytes) (graph : CallGraph) (name : String) (offset : UInt32) : Prop :=
  ∃ script ∈ graph.scripts, script.listing = Listing.parse bytes offset ∧ script.isFor name = true

theorem find?_eq_some {offset : UInt32} {script : Script} (h : graph.find? offset = some script) :
    script ∈ graph.scripts ∧ script.offset = offset := by
  unfold find? at h
  have hoffset := List.find?_some h
  exact ⟨List.mem_of_find?_eq_some h, beq_iff_eq.mp hoffset⟩

theorem mem_addOrigin {offset : UInt32} {origin : Origin} {script : Script}
    (h : script ∈ (graph.addOrigin offset origin).scripts) :
    ∃ old ∈ graph.scripts, script.listing = old.listing := by
  obtain ⟨old, hold, rfl⟩ := List.mem_map.mp h
  refine ⟨old, hold, ?_⟩
  split <;> rfl

theorem offsets_addOrigin (graph : CallGraph) (offset : UInt32) (origin : Origin) :
    (graph.addOrigin offset origin).scripts.map Script.offset =
      graph.scripts.map Script.offset := by
  simp only [addOrigin, List.map_map]
  apply List.map_congr_left
  intro script _
  simp only [Function.comp]
  split <;> rfl

theorem Runs.addOrigin {name : String} {offset : UInt32} (h : graph.Runs bytes name offset)
    (at_ : UInt32) (origin : Origin) : (graph.addOrigin at_ origin).Runs bytes name offset := by
  obtain ⟨script, hscript, hlisting, hfor⟩ := h
  refine ⟨_, List.mem_map.mpr ⟨script, hscript, rfl⟩, ?_⟩
  split
  · refine ⟨hlisting, ?_⟩
    obtain ⟨known, hknown, hname⟩ := List.any_eq_true.mp hfor
    exact List.any_eq_true.mpr ⟨known, mem_sortedInsert_of_mem hknown, hname⟩
  · exact ⟨hlisting, hfor⟩

/-- An origin makes its script one for its actor. -/
theorem runs_addOrigin {script : Script} {offset : UInt32} (h : graph.find? offset = some script)
    (hlisted : script.listing = Listing.parse bytes script.offset) (origin : Origin) :
    (graph.addOrigin offset origin).Runs bytes origin.target offset := by
  obtain ⟨hscript, hoffset⟩ := find?_eq_some h
  refine ⟨_, List.mem_map.mpr ⟨script, hscript, rfl⟩, ?_⟩
  rw [if_pos (beq_iff_eq.mpr hoffset)]
  refine ⟨hoffset ▸ hlisted, ?_⟩
  have hmem := mem_sortedInsert_self separates_originLt origin script.origins
  exact List.any_eq_true.mpr ⟨origin, hmem, beq_self_eq_true _⟩

/-- A script at a new place is really added. -/
theorem insert_perm {script : Script} (h : graph.find? script.offset = none) :
    (graph.insert script).scripts.Perm (script :: graph.scripts) := by
  apply sortedInsert_perm
  intro other hother
  have hne : other.offset ≠ script.offset := by simpa using List.find?_eq_none.mp h other hother
  by_cases hlt : offsetLt script.offset other.offset = true
  · exact .inl hlt
  · refine .inr ?_
    by_contra hgt
    exact hne (separates_offsetLt _ _ (by simpa using hgt) (by simpa using hlt))

theorem mem_insert {script other : Script} (h : graph.find? script.offset = none) :
    other ∈ (graph.insert script).scripts ↔ other = script ∨ other ∈ graph.scripts := by
  rw [(insert_perm h).mem_iff, List.mem_cons]

theorem mem_insert_parse {offset : UInt32} {origin : Origin} {other : Script}
    (h : graph.find? offset = none) :
    other ∈ (graph.insert ⟨Listing.parse bytes offset, [origin]⟩).scripts ↔
      other = ⟨Listing.parse bytes offset, [origin]⟩ ∨ other ∈ graph.scripts := by
  apply mem_insert
  rwa [Script.offset, Listing.parse_offset]

/-- A place at which no script is found is new. -/
theorem nodup_cons_offsets (hunique : (graph.scripts.map Script.offset).Nodup) {offset : UInt32}
    (h : graph.find? offset = none) : (offset :: graph.scripts.map Script.offset).Nodup := by
  rw [List.nodup_cons]
  refine ⟨?_, hunique⟩
  intro hold
  obtain ⟨script, hscript, heq⟩ := List.mem_map.mp hold
  exact List.find?_eq_none.mp h script hscript (beq_iff_eq.mpr heq)

/-- Scripts at different places can be found. -/
theorem find?_of_mem (hunique : (graph.scripts.map Script.offset).Nodup) {script : Script}
    (h : script ∈ graph.scripts) : graph.find? script.offset = some script := by
  cases hfound : graph.find? script.offset with
  | none =>
      have hne := List.find?_eq_none.mp hfound script h
      exact absurd (beq_self_eq_true _) hne
  | some other =>
      obtain ⟨hother, hoffset⟩ := find?_eq_some hfound
      rw [List.inj_on_of_nodup_map hunique hother h hoffset]

/-! ### The search -/

/-- A script for the actor of a name is realised in the graph, or a lead to it is left; offset zero
stands for no script. -/
def Covered (bytes : Bytes) (leads : List Lead) (graph : CallGraph) (name : String)
    (offset : UInt32) : Prop :=
  offset = 0 ∨ graph.Runs bytes name offset ∨
    ∃ lead ∈ leads, lead.1 = offset ∧ lead.2.target = name

theorem Covered.of_zero {name : String} {offset : UInt32} {origin : Origin} {rest : List Lead}
    (h : graph.Covered bytes ((0, origin) :: rest) name offset) :
    graph.Covered bytes rest name offset := by
  rcases h with hzero | hruns | ⟨lead, hlead, hoffset, hname⟩
  · exact .inl hzero
  · exact .inr (.inl hruns)
  · rcases List.mem_cons.mp hlead with rfl | hrest
    · exact .inl hoffset.symm
    · exact .inr (.inr ⟨lead, hrest, hoffset, hname⟩)

/-- A lead that is taken up is realised, if what is realised stays so. -/
theorem Covered.take_up {graph' : CallGraph} {name : String} {offset at_ : UInt32} {origin : Origin}
    {rest leads : List Lead} (h : graph.Covered bytes ((at_, origin) :: rest) name offset)
    (hkept : ∀ name offset, graph.Runs bytes name offset → graph'.Runs bytes name offset)
    (htaken : graph'.Runs bytes origin.target at_) (hrest : ∀ lead ∈ rest, lead ∈ leads) :
    graph'.Covered bytes leads name offset := by
  rcases h with hzero | hruns | ⟨lead, hlead, rfl, rfl⟩
  · exact .inl hzero
  · exact .inr (.inl (hkept name offset hruns))
  · rcases List.mem_cons.mp hlead with rfl | hmem
    · exact .inr (.inl htaken)
    · exact .inr (.inr ⟨lead, hrest lead hmem, rfl, rfl⟩)

/-- What the search keeps up, for the places at which a script can start. -/
structure Searching (bytes : Bytes) (places : List UInt32) (leads : List Lead)
    (graph : CallGraph) : Prop where
  listed : ∀ script ∈ graph.scripts, script.listing = Listing.parse bytes script.offset
  unique : (graph.scripts.map Script.offset).Nodup
  scripts_mem : ∀ script ∈ graph.scripts, script.offset ∈ places
  leads_mem : ∀ lead ∈ leads, lead.1 ∈ places
  followed : ∀ script ∈ graph.scripts, ∀ call ∈ script.listing.calls,
    graph.Covered bytes leads call.name call.offset

namespace Searching

variable {places : List UInt32} {offset : UInt32} {origin : Origin} {rest : List Lead}

/-- A lead to no script is dropped. -/
theorem drop_zero (h : graph.Searching bytes places ((0, origin) :: rest)) :
    graph.Searching bytes places rest where
  listed := h.listed
  unique := h.unique
  scripts_mem := h.scripts_mem
  leads_mem lead hlead := h.leads_mem lead (List.mem_cons_of_mem _ hlead)
  followed script hscript call hcall := (h.followed script hscript call hcall).of_zero

/-- A lead to a script that is known. -/
theorem addOrigin (h : graph.Searching bytes places ((offset, origin) :: rest)) {script : Script}
    (hfound : graph.find? offset = some script) :
    (graph.addOrigin offset origin).Searching bytes places rest ∧
      ∀ name at_, graph.Covered bytes ((offset, origin) :: rest) name at_ →
        (graph.addOrigin offset origin).Covered bytes rest name at_ := by
  have hruns := runs_addOrigin hfound (h.listed script (find?_eq_some hfound).1) origin
  have hcovered : ∀ name at_, graph.Covered bytes ((offset, origin) :: rest) name at_ →
      (graph.addOrigin offset origin).Covered bytes rest name at_ :=
    fun name at_ hlead => hlead.take_up (fun _ _ hkept => hkept.addOrigin offset origin) hruns
      fun _ hmem => hmem
  refine ⟨⟨?_, ?_, ?_, ?_, ?_⟩, hcovered⟩
  · intro script hscript
    obtain ⟨old, hold, hlisting⟩ := mem_addOrigin hscript
    rw [Script.offset, hlisting]
    exact h.listed old hold
  · rw [offsets_addOrigin]
    exact h.unique
  · intro script hscript
    obtain ⟨old, hold, hlisting⟩ := mem_addOrigin hscript
    rw [Script.offset, hlisting]
    exact h.scripts_mem old hold
  · exact fun lead hlead => h.leads_mem lead (List.mem_cons_of_mem _ hlead)
  · intro script hscript call hcall
    obtain ⟨old, hold, hlisting⟩ := mem_addOrigin hscript
    exact hcovered _ _ (h.followed old hold call (hlisting ▸ hcall))

/-- A lead to a new script: the script is listed, and its calls are new leads. -/
theorem insert (h : graph.Searching bytes places ((offset, origin) :: rest))
    (hwords : ∀ word, IsWord bytes word → word ∈ places) (hfound : graph.find? offset = none) :
    let listing := Listing.parse bytes offset
    let grown := graph.insert ⟨listing, [origin]⟩
    grown.Searching bytes places (callLeads origin listing ++ rest) ∧
      ∀ name at_, graph.Covered bytes ((offset, origin) :: rest) name at_ →
        grown.Covered bytes (callLeads origin listing ++ rest) name at_ := by
  intro listing grown
  have hoffset : listing.offset = offset := Listing.parse_offset bytes offset
  have hnew : graph.find? (Script.mk listing [origin]).offset = none := by
    rwa [Script.offset, hoffset]
  have hmem : ∀ script, script ∈ grown.scripts ↔
      script = ⟨listing, [origin]⟩ ∨ script ∈ graph.scripts := fun _ => mem_insert_parse hfound
  have hruns : grown.Runs bytes origin.target offset :=
    ⟨_, (hmem _).mpr (.inl rfl), rfl, by simp [Script.isFor]⟩
  have hcovered : ∀ name at_, graph.Covered bytes ((offset, origin) :: rest) name at_ →
      grown.Covered bytes (callLeads origin listing ++ rest) name at_ := by
    intro name at_ hlead
    refine hlead.take_up ?_ hruns fun _ hmem => List.mem_append_right _ hmem
    rintro name at_ ⟨script, hscript, hkept⟩
    exact ⟨script, (hmem script).mpr (.inr hscript), hkept⟩
  refine ⟨⟨?_, ?_, ?_, ?_, ?_⟩, hcovered⟩
  · intro script hscript
    rcases (hmem script).mp hscript with rfl | hold
    · rw [Script.offset, hoffset]
    · exact h.listed script hold
  · rw [((insert_perm hnew).map Script.offset).nodup_iff, List.map_cons, Script.offset, hoffset]
    exact nodup_cons_offsets h.unique hfound
  · intro script hscript
    rcases (hmem script).mp hscript with rfl | hold
    · rw [Script.offset, hoffset]
      exact h.leads_mem _ List.mem_cons_self
    · exact h.scripts_mem script hold
  · intro lead hlead
    rcases List.mem_append.mp hlead with hcall | hrest
    · rw [callLeads, List.mem_reverse, List.mem_map] at hcall
      obtain ⟨call, hcall, rfl⟩ := hcall
      exact hwords _ (Listing.parse_callsGrounded bytes offset call hcall).1
    · exact h.leads_mem lead (List.mem_cons_of_mem _ hrest)
  · intro script hscript call hcall
    rcases (hmem script).mp hscript with rfl | hold
    · refine .inr (.inr ⟨(call.offset, origin.ofCall listing.offset call), ?_, rfl, rfl⟩)
      apply List.mem_append_left
      rw [callLeads, List.mem_reverse]
      exact List.mem_map.mpr ⟨call, hcall, rfl⟩
    · exact hcovered _ _ (h.followed script hold call hcall)

/-- There is fuel for a script at a new place. -/
theorem length_lt (h : graph.Searching bytes places ((offset, origin) :: rest))
    (hfound : graph.find? offset = none) : graph.scripts.length < places.length := by
  have hnew := nodup_cons_offsets h.unique hfound
  have hplaces : offset :: graph.scripts.map Script.offset ⊆ places := by
    intro at_ hat
    rcases List.mem_cons.mp hat with rfl | hold
    · exact h.leads_mem _ List.mem_cons_self
    · obtain ⟨script, hscript, rfl⟩ := List.mem_map.mp hold
      exact h.scripts_mem script hscript
  have hle := hnew.length_le_of_subset hplaces
  rw [List.length_cons, List.length_map] at hle
  exact hle

end Searching

/-- A property of leads and graph that every step of the search keeps up. -/
structure Kept (bytes : Bytes) (places : List UInt32) (holds : List Lead → CallGraph → Prop) :
    Prop where
  zero : ∀ {graph origin rest}, graph.Searching bytes places ((0, origin) :: rest) →
    holds ((0, origin) :: rest) graph → holds rest graph
  known : ∀ {graph offset origin rest script},
    graph.Searching bytes places ((offset, origin) :: rest) → offset ≠ 0 →
    graph.find? offset = some script → holds ((offset, origin) :: rest) graph →
    holds rest (graph.addOrigin offset origin)
  new : ∀ {graph offset origin rest}, graph.Searching bytes places ((offset, origin) :: rest) →
    offset ≠ 0 → graph.find? offset = none → holds ((offset, origin) :: rest) graph →
    let listing := Listing.parse bytes offset
    holds (callLeads origin listing ++ rest) (graph.insert ⟨listing, [origin]⟩)

/-- The search takes up every lead, and what its steps keep up holds in the end. -/
theorem search_induction {places : List UInt32}
    (hwords : ∀ word, IsWord bytes word → word ∈ places) {holds : List Lead → CallGraph → Prop}
    (hkept : Kept bytes places holds) {fuel : Nat} {leads : List Lead} {graph : CallGraph}
    (reads : List Span) (h : graph.Searching bytes places leads)
    (hfuel : places.length ≤ fuel + graph.scripts.length) (hholds : holds leads graph) :
    (search bytes fuel leads graph reads).1.Searching bytes places [] ∧
      holds [] (search bytes fuel leads graph reads).1 := by
  fun_induction search bytes fuel leads graph reads with
  | case1 fuel graph reads => exact ⟨h, hholds⟩
  | case2 fuel graph reads origin rest ih => exact ih h.drop_zero hfuel (hkept.zero h hholds)
  | case3 fuel graph reads offset origin rest hne script hfound ih =>
      have hlength : (graph.addOrigin offset origin).scripts.length = graph.scripts.length :=
        List.length_map _
      exact ih (h.addOrigin hfound).1 (hlength ▸ hfuel) (hkept.known h hne hfound hholds)
  | case4 graph reads offset origin rest hne hfound =>
      -- Without fuel all places are taken, so this one is known.
      have hlt := h.length_lt hfound
      omega
  | case5 graph reads offset origin rest hne hfound fuel listing touched hexplore ih =>
      have hlisting : listing = Listing.parse bytes offset := by rw [Listing.parse, hexplore]
      subst hlisting
      have hlength : (graph.insert ⟨Listing.parse bytes offset, [origin]⟩).scripts.length =
          graph.scripts.length + 1 := by
        refine (insert_perm ?_).length_eq
        rw [Script.offset, Listing.parse_offset]
        exact hfound
      exact ih (h.insert hwords hfound).1 (by omega) (hkept.new h hne hfound hholds)

/-- What is covered stays so. -/
theorem kept_covered {places : List UInt32} (hwords : ∀ word, IsWord bytes word → word ∈ places)
    (name : String) (offset : UInt32) :
    Kept bytes places fun leads graph => graph.Covered bytes leads name offset where
  zero _ hcovered := hcovered.of_zero
  known h _ hfound hcovered := (h.addOrigin hfound).2 name offset hcovered
  new h _ hfound hcovered := (h.insert hwords hfound).2 name offset hcovered

/-! ### The whole graph -/

/-- A graph without loose ends. -/
structure Complete (bytes : Bytes) (graph : CallGraph) : Prop where
  unique : (graph.scripts.map Script.offset).Nodup
  followed : ∀ script ∈ graph.scripts, ∀ call ∈ script.listing.calls, call.offset ≠ 0 →
    graph.Runs bytes call.name call.offset

/-- The places at which a script can start: the leads of the tables and the words of the buffer. -/
def places (bytes : Bytes) (leads : List Lead) : List UInt32 :=
  leads.map Prod.fst ++ words bytes

theorem places_length_le (bytes : Bytes) (leads : List Lead) :
    (places bytes leads).length ≤ leads.length + (bytes.size - 3) := by
  rw [places, List.length_append, List.length_map]
  exact Nat.add_le_add_left (length_words_le bytes) _

theorem mem_places_of_isWord {leads : List Lead} {word : UInt32} (h : IsWord bytes word) :
    word ∈ places bytes leads :=
  List.mem_append_right _ (mem_words h)

theorem Covered.runs {name : String} {offset : UInt32} (h : graph.Covered bytes [] name offset)
    (hne : offset ≠ 0) : graph.Runs bytes name offset := by
  rcases h with hzero | hruns | ⟨lead, hlead, _⟩
  · exact absurd hzero hne
  · exact hruns
  · exact absurd hlead List.not_mem_nil

/-- A graph is searched from the tables. -/
theorem explore_induction {container : Container} {reads : List Span}
    (h : explore container bytes = .ok (graph, reads)) :
    ∃ leads, tableLeads container = .ok leads ∧ ∀ holds, Kept bytes (places bytes leads) holds →
      holds leads empty → graph.Searching bytes (places bytes leads) [] ∧ holds [] graph := by
  simp only [explore, bind_eq_ok, pure, Except.pure, Except.ok.injEq] at h
  obtain ⟨leads, hleads, hsearch⟩ := h
  have hstart : empty.Searching bytes (places bytes leads) leads :=
    { listed := fun _ hscript => absurd hscript List.not_mem_nil
      unique := List.nodup_nil
      scripts_mem := fun _ hscript => absurd hscript List.not_mem_nil
      leads_mem := fun _ hlead => List.mem_append_left _ (List.mem_map_of_mem hlead)
      followed := fun _ hscript => absurd hscript List.not_mem_nil }
  have hfuel : (places bytes leads).length ≤
      (leads.length + bytes.size) + empty.scripts.length := by
    have hle := places_length_le bytes leads
    omega
  refine ⟨leads, hleads, fun holds hkept hholds => ?_⟩
  have hsearched := search_induction (fun _ hword => mem_places_of_isWord hword) hkept [] hstart
    hfuel hholds
  rwa [hsearch] at hsearched

/-- The graph of a container is complete, and has every script of its tables. -/
theorem explore_complete {container : Container} {reads : List Span}
    (h : explore container bytes = .ok (graph, reads)) :
    graph.Complete bytes ∧ ∃ leads, tableLeads container = .ok leads ∧
      ∀ lead ∈ leads, lead.1 ≠ 0 → graph.Runs bytes lead.2.target lead.1 := by
  obtain ⟨leads, hleads, hsearched⟩ := explore_induction h
  have hcovered := fun name offset =>
    hsearched _ (kept_covered (fun _ hword => mem_places_of_isWord hword) name offset)
  have hsearching : graph.Searching bytes (places bytes leads) [] :=
    (hcovered "" 0 (.inl rfl)).1
  refine ⟨⟨hsearching.unique, ?_⟩, leads, hleads, ?_⟩
  · intro script hscript call hcall hne
    exact (hsearching.followed script hscript call hcall).runs hne
  · intro lead hlead hne
    exact (hcovered lead.2.target lead.1 (.inr (.inr ⟨lead, hlead, rfl, rfl⟩))).2.runs hne

/-- What a script calls, its actor makes others run. -/
theorem Complete.runs_call (h : graph.Complete bytes) {name target reason : String}
    {offset init : UInt32} (hruns : graph.Runs bytes name offset)
    (hhas : (Listing.parse bytes offset).Has (.script target init reason)) (hne : init ≠ 0) :
    graph.Runs bytes target init := by
  obtain ⟨script, hscript, hlisting, _⟩ := hruns
  rw [← hlisting, Listing.has_script] at hhas
  have hcall := hhas.resolve_left hne
  exact h.followed script hscript ⟨init, target, reason⟩ hcall hne

/-! ### The tables -/

theorem mapM_eq_ok {α β : Type} {f : α → Except DataError β} {items : List α} {results : List β}
    (h : items.mapM f = .ok results) {a : α} (ha : a ∈ items) : ∃ b ∈ results, f a = .ok b := by
  induction items generalizing results with
  | nil => exact absurd ha List.not_mem_nil
  | cons head rest ih =>
      simp only [List.mapM_cons, bind_eq_ok, pure, Except.pure, Except.ok.injEq] at h
      obtain ⟨b, hb, others, hothers, rfl⟩ := h
      rcases List.mem_cons.mp ha with rfl | hrest
      · exact ⟨b, List.mem_cons_self, hb⟩
      · obtain ⟨b', hb', heq⟩ := ih hothers hrest
        exact ⟨b', List.mem_cons_of_mem b hb', heq⟩

/-- Every entry of a table gives a lead: a setup script for the name in its key, an init script for
the name before the id. -/
theorem mem_tableLeads {container : Container} {leads : List Lead}
    (h : tableLeads container = .ok leads) :
    (∀ entry ∈ container.setups, ∀ arena name, Container.splitKey entry.1 = .ok (arena, name) →
        ∃ lead ∈ leads, lead.1 = entry.2 ∧ lead.2.target = name) ∧
      (∀ entry ∈ container.inits, ∀ arena name, Container.splitKey entry.1 = .ok (arena, name) →
        ∃ lead ∈ leads, lead.1 = entry.2 ∧ lead.2.target = (splitId name).1) ∧
      ∀ record ∈ container.arenas,
        ∃ lead ∈ leads, lead.1 = record.script ∧ lead.2.target = record.name := by
  simp only [tableLeads, bind_eq_ok, pure, Except.pure, Except.ok.injEq] at h
  obtain ⟨inits, hinits, setups, hsetups, rfl⟩ := h
  have hmem : ∀ lead, (lead ∈ inits ∨ lead ∈ setups) ∨ lead ∈ container.arenas.map arenaLead →
      lead ∈ (inits ++ setups ++ container.arenas.map arenaLead).reverse := by
    intro lead hlead
    rwa [List.mem_reverse, List.mem_append, List.mem_append]
  refine ⟨?_, ?_, ?_⟩
  · intro entry hentry arena name hkey
    obtain ⟨lead, hlead, heq⟩ := mapM_eq_ok hsetups hentry
    simp only [setupLead, hkey, bind, Except.bind, pure, Except.pure, Except.ok.injEq] at heq
    subst heq
    exact ⟨_, hmem _ (.inl (.inr hlead)), rfl, rfl⟩
  · intro entry hentry arena name hkey
    obtain ⟨lead, hlead, heq⟩ := mapM_eq_ok hinits hentry
    simp only [initLead, hkey, bind, Except.bind, pure, Except.pure, Except.ok.injEq] at heq
    subst heq
    exact ⟨_, hmem _ (.inl (.inl hlead)), rfl, rfl⟩
  · intro record hrecord
    exact ⟨arenaLead record, hmem _ (.inr (List.mem_map_of_mem hrecord)), rfl, rfl⟩

theorem underscore_not_mem_id (id : Int32) : '_' ∉ (toString id).toList := by
  change '_' ∉ (Int.repr id.toInt).toList
  rw [Int.repr_eq_if]
  split <;> simp

/-- The name in a key is what stands before the last underscore, since an id has none. -/
theorem splitId_localKey (placement : Placement) :
    (splitId placement.localKey).1 = placement.name := by
  have hkey : placement.localKey.toList.reverse =
      (toString placement.id).toList.reverse ++ '_' :: placement.name.toList.reverse := by
    change (placement.name ++ "_" ++ toString placement.id).toList.reverse = _
    simp
  have hid : ∀ c ∈ (toString placement.id).toList.reverse, (c != '_') = true := by
    intro c hc
    rw [bne_iff_ne]
    rintro rfl
    exact underscore_not_mem_id placement.id (List.mem_reverse.mp hc)
  have hdrop : placement.localKey.toList.reverse.dropWhile (· != '_') =
      '_' :: placement.name.toList.reverse := by
    rw [hkey, List.dropWhile_append_of_pos hid]
    rfl
  simp [splitId, hdrop]

end CallGraph

/-- A graph that has the scripts of an arena: the arena's own, those that set actors up, and those
of placed actors. -/
structure Arena.Charted (bytes : Bytes) (graph : CallGraph) (arena : Arena) : Prop where
  self : ∀ script ≠ 0, arena.self.control = .running script.toNat →
    graph.Runs bytes arena.name script
  setups : ∀ entry ∈ arena.setups.entries, entry.2 ≠ 0 → graph.Runs bytes entry.1 entry.2
  inits : ∀ (placement : Placement) (offset : UInt32),
    arena.inits.get? placement.localKey = some offset → offset ≠ 0 →
    graph.Runs bytes placement.name offset

theorem NamedTable.mem_of_get? {α : Type} {table : NamedTable α} {name : String} {value : α}
    (h : table.get? name = some value) : (name, value) ∈ table.entries := by
  obtain ⟨⟨key, value'⟩, hfound, rfl⟩ := Option.map_eq_some_iff.mp h
  have hkey := List.find?_some hfound
  rw [beq_iff_eq] at hkey
  exact hkey ▸ List.mem_of_find?_eq_some hfound

/-- A level is built with a complete graph that has the scripts of all its arenas. -/
theorem Level.explore_charted {settings : Settings} {container : Container} {bytes : Bytes}
    {level : Level} {reads : List Span}
    (h : explore settings container bytes = .ok (level, reads)) :
    level.scripts.Complete bytes ∧ ∀ (index : Nat) (arena : Arena),
      level.arenas[index]? = some arena → arena.Charted bytes level.scripts := by
  obtain ⟨hcomplete, leads, hleads, hruns⟩ := CallGraph.explore_complete (explore_eq_ok h).2.1
  obtain ⟨hsetupLeads, hinitLeads, harenaLeads⟩ := CallGraph.mem_tableLeads hleads
  obtain ⟨setups, inits, hsetups, hinits, hfirst⟩ := getElem?_of_explore h
  refine ⟨hcomplete, ?_⟩
  intro index arena harena
  obtain ⟨record, hrecord, rfl⟩ := hfirst index arena harena
  refine ⟨?_, ?_, ?_⟩
  · intro script hne hcontrol
    have hscript : record.script = script := by
      by_cases hzero : record.script = 0
      · simp [firstArena, Arena.new, Actor.startAt, hzero] at hcontrol
      · simpa [firstArena, Arena.new, Actor.startAt, hzero, UInt32.toNat_inj] using hcontrol
    obtain ⟨lead, hlead, hoffset, htarget⟩ := harenaLeads record (List.mem_of_getElem? hrecord)
    have hlisted := hruns lead hlead (by rwa [hoffset, hscript])
    rwa [hoffset, htarget, hscript] at hlisted
  · rintro ⟨name, offset⟩ hentry hne
    obtain ⟨key, arena, hkey, hsplit⟩ := mem_of_route hsetups (mem_of_share hentry)
    obtain ⟨lead, hlead, hoffset, htarget⟩ := hsetupLeads (key, offset) hkey arena name hsplit
    have hlisted := hruns lead hlead (by rwa [hoffset])
    rwa [hoffset, htarget] at hlisted
  · intro placement offset hget hne
    have hentry := NamedTable.mem_of_get? hget
    obtain ⟨key, arena, hkey, hsplit⟩ := mem_of_route hinits (mem_of_share hentry)
    obtain ⟨lead, hlead, hoffset, htarget⟩ := hinitLeads (key, offset) hkey arena _ hsplit
    have hlisted := hruns lead hlead (by rwa [hoffset])
    rwa [hoffset, htarget, CallGraph.splitId_localKey] at hlisted

/-! ### A shared script -/

/-- A whole file: two arenas `A` and `B` that share a script, which spawns a `G`. -/
def Bytes.sharing : Bytes :=
  #[0x4c, 0x45, 0x56, 0x45, 0x4c, 0x00, 0x00, 0x00, 0x00, 0x00, 0x00, 0x00, 0x00, 0x00, 0x00, 0x00,
    0x00, 0x00, 0x00, 0x00, 0x00, 0x00, 0x00, 0x00, 0x00, 0x00, 0x00, 0x00, 0x02, 0x00, 0x00, 0x00,
    0x01, 0x41, 0x2c, 0x00, 0x00, 0x00, 0x01, 0x42, 0x2c, 0x00, 0x00, 0x00, 0x00, 0x00, 0x32, 0x00,
    0x00, 0x00, 0x56, 0x00, 0x00, 0x00, 0x00, 0x00, 0x00, 0x00, 0x00, 0x00, 0x00, 0x00, 0x00, 0x01,
    0x47, 0x46, 0x00, 0x00, 0x00, 0xff, 0xff]

def Container.sharing : Container :=
  ⟨"LEVEL", 0, [], [], [], [⟨"A", ("", ""), 50⟩, ⟨"B", ("", ""), 50⟩]⟩

theorem Container.parse_sharing : Container.parse .sharing = .ok .sharing := by
  decide +kernel

namespace CallGraph

variable {bytes : Bytes} {graph : CallGraph}

theorem search_known {offset : UInt32} {script : Script} (hne : offset ≠ 0)
    (hfound : graph.find? offset = some script) (fuel : Nat) (origin : Origin) (rest : List Lead)
    (reads : List Span) :
    search bytes fuel ((offset, origin) :: rest) graph reads =
      search bytes fuel rest (graph.addOrigin offset origin) reads := by
  rw [search.eq_def]
  simp only [hne, ↓reduceIte, hfound]

theorem search_new {offset : UInt32} (hne : offset ≠ 0) (hfound : graph.find? offset = none)
    (fuel : Nat) (origin : Origin) (rest : List Lead) (reads : List Span) :
    search bytes (fuel + 1) ((offset, origin) :: rest) graph reads =
      search bytes fuel (callLeads origin (Listing.parse bytes offset) ++ rest)
        (graph.insert ⟨Listing.parse bytes offset, [origin]⟩)
        ((Listing.explore bytes offset).2 ++ reads) := by
  rw [search.eq_def]
  simp only [hne, ↓reduceIte, hfound]
  rfl

/-- The script is found by way of `B`, then the script of the `G` that it spawns, and then the script
again by way of `A`. -/
def sharing : CallGraph :=
  ((empty.insert ⟨Listing.parse .sharing 50, [.ofTable "B" "B" "Arena"]⟩).insert
    ⟨Listing.parse .sharing 70, [⟨"B", "B", 50, "G", "Spawn entity 3"⟩]⟩).addOrigin 50
      (.ofTable "A" "A" "Arena")

theorem build_sharing : build .sharing .sharing = .ok sharing := by
  have hleads : tableLeads .sharing =
      .ok [(50, .ofTable "B" "B" "Arena"), (50, .ofTable "A" "A" "Arena")] := rfl
  have hcalls : callLeads (.ofTable "B" "B" "Arena") (Listing.parse .sharing 50) =
      [(70, ⟨"B", "B", 50, "G", "Spawn entity 3"⟩)] := by decide +kernel
  have hnone : callLeads ⟨"B", "B", 50, "G", "Spawn entity 3"⟩ (Listing.parse .sharing 70) = [] := by
    decide +kernel
  have hfresh : (empty.insert ⟨Listing.parse .sharing 50, [.ofTable "B" "B" "Arena"]⟩).find? 70 =
      none := by decide +kernel
  have hknown : (((empty.insert ⟨Listing.parse .sharing 50, [.ofTable "B" "B" "Arena"]⟩).insert
      ⟨Listing.parse .sharing 70, [⟨"B", "B", 50, "G", "Spawn entity 3"⟩]⟩).find? 50).isSome := by
    decide +kernel
  obtain ⟨script, hscript⟩ := Option.isSome_iff_exists.mp hknown
  have hsearch : (search .sharing 73
      [(50, .ofTable "B" "B" "Arena"), (50, .ofTable "A" "A" "Arena")] empty []).1 = sharing := by
    rw [search_new (by decide) rfl 72, hcalls, List.singleton_append, search_new (by decide) hfresh,
      hnone, List.nil_append, search_known (by decide) hscript, search.eq_def]
    rfl
  have hbuild : build .sharing .sharing = .ok (search .sharing 73
      [(50, .ofTable "B" "B" "Arena"), (50, .ofTable "A" "A" "Arena")] empty []).1 := by
    simp only [build, explore, hleads, bind, Except.bind, pure, Except.pure]
    rfl
  rw [hbuild, hsearch]

end CallGraph

end LevelScript
