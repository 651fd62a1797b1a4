import LevelScript.Proofs.Search

/-!
The two indexes of a call graph agree.

A call graph has its scripts by their offsets, and what each actor runs by the names of the actors.
Neither index is computed from the other: both grow lead by lead.  But every lead that is taken up
adds one and the same fact to both, that a script is run for an origin, so each index tells exactly
what can be read off the other one.
-/

namespace LevelScript

/-! ### What an actor runs -/

/-- Something that a usage lists. -/
inductive UsageItem
  | arena (name : String)
  | script (offset : UInt32)
  | animation (anim : Animation)
  | path (offset : UInt32)

/-- What is listed for an actor because a script is run for an origin. -/
def UsageItem.From (origin : Origin) (listing : Listing) : UsageItem → Prop
  | arena name => name = origin.arena
  | script offset => offset = listing.offset
  | animation anim => anim ∈ listing.animations
  | path offset => offset ∈ listing.paths

namespace Usage

def Has (usage : Usage) : UsageItem → Prop
  | .arena name => name ∈ usage.arenas
  | .script offset => offset ∈ usage.scripts
  | .animation anim => anim ∈ usage.animations
  | .path offset => offset ∈ usage.paths

theorem not_has_empty (item : UsageItem) : ¬ empty.Has item := by
  cases item <;> exact List.not_mem_nil

theorem has_add {usage : Usage} {origin : Origin} {listing : Listing} {item : UsageItem} :
    (usage.add origin.arena listing).Has item ↔ item.From origin listing ∨ usage.Has item := by
  cases item with
  | arena name => exact mem_sortedInsert separates_textLt
  | script offset => exact mem_sortedInsert separates_offsetLt
  | animation anim => exact (mem_sortedUnion separates_animationLt).trans or_comm
  | path offset => exact (mem_sortedUnion separates_offsetLt).trans or_comm

end Usage

namespace CallGraph

variable {bytes : Bytes} {graph : CallGraph}

/-! ### What both indexes tell -/

/-- The graph has a script that is run for an origin. -/
def Attests (graph : CallGraph) (origin : Origin) (listing : Listing) : Prop :=
  ∃ script ∈ graph.scripts, script.listing = listing ∧ origin ∈ script.origins

/-- What is listed for an actor is what its scripts give. -/
structure Indexed (graph : CallGraph) : Prop where
  ascending : graph.actors.Pairwise (textLt · ·)
  actors : ∀ name, name ∈ graph.actors ↔
    ∃ origin listing, graph.Attests origin listing ∧ origin.target = name
  usage : ∀ name item, (graph.usage name).Has item ↔
    ∃ origin listing, graph.Attests origin listing ∧ origin.target = name ∧
      item.From origin listing

theorem indexed_empty : empty.Indexed := by
  have hnone : ∀ origin listing, ¬ empty.Attests origin listing := by
    rintro origin listing ⟨script, hscript, _⟩
    exact List.not_mem_nil hscript
  refine ⟨.nil, fun name => ?_, fun name item => ?_⟩
  · refine iff_of_false List.not_mem_nil ?_
    rintro ⟨origin, listing, hattests, _⟩
    exact hnone origin listing hattests
  · refine iff_of_false (Usage.not_has_empty item) ?_
    rintro ⟨origin, listing, hattests, _⟩
    exact hnone origin listing hattests

/-- If one script more is run for an origin, and is taken in among what the actor of that origin
runs, then the indexes still agree. -/
theorem Indexed.credit (h : graph.Indexed) {grown : CallGraph} {origin : Origin} {listing : Listing}
    (husages : grown.usages = credit listing graph.usages origin)
    (hattests : ∀ o l, grown.Attests o l ↔ (o = origin ∧ l = listing) ∨ graph.Attests o l) :
    grown.Indexed := by
  have husage : ∀ name, grown.usage name = if name = origin.target then
      (graph.usage name).add origin.arena listing else graph.usage name := by
    intro name
    simp only [CallGraph.usage, husages, CallGraph.credit,
      orders_textLt.lookup_sortedAlter h.ascending]
    by_cases hname : name = origin.target
    · simp [hname]
    · simp [hname]
  refine ⟨?_, ?_, ?_⟩
  · rw [CallGraph.actors, husages]
    exact orders_textLt.pairwise_sortedAlter h.ascending
  · intro name
    rw [CallGraph.actors, husages, CallGraph.credit, mem_keys_sortedAlter separates_textLt]
    change _ ∨ name ∈ graph.actors ↔ _
    simp only [h.actors, hattests]
    constructor
    · rintro (rfl | ⟨o, l, hold, hname⟩)
      · exact ⟨origin, listing, .inl ⟨rfl, rfl⟩, rfl⟩
      · exact ⟨o, l, .inr hold, hname⟩
    · rintro ⟨o, l, ⟨rfl, rfl⟩ | hold, hname⟩
      · exact .inl hname.symm
      · exact .inr ⟨o, l, hold, hname⟩
  · intro name item
    simp only [husage, hattests]
    by_cases hname : name = origin.target
    · rw [if_pos hname, Usage.has_add, h.usage]
      constructor
      · rintro (hitem | ⟨o, l, hold, hrest⟩)
        · exact ⟨origin, listing, .inl ⟨rfl, rfl⟩, hname.symm, hitem⟩
        · exact ⟨o, l, .inr hold, hrest⟩
      · rintro ⟨o, l, ⟨rfl, rfl⟩ | hold, hrest⟩
        · exact .inl hrest.2
        · exact .inr ⟨o, l, hold, hrest⟩
    · rw [if_neg hname, h.usage]
      constructor
      · rintro ⟨o, l, hold, hrest⟩
        exact ⟨o, l, .inr hold, hrest⟩
      · rintro ⟨o, l, ⟨rfl, rfl⟩ | hold, hrest⟩
        · exact absurd hrest.1.symm hname
        · exact ⟨o, l, hold, hrest⟩

/-! ### Steps of the search -/

theorem attests_addOrigin (hunique : (graph.scripts.map Script.offset).Nodup) {offset : UInt32}
    {script : Script} (hfound : graph.find? offset = some script) (origin o : Origin)
    (l : Listing) :
    (graph.addOrigin offset origin).Attests o l ↔
      (o = origin ∧ l = script.listing) ∨ graph.Attests o l := by
  obtain ⟨hscript, hoffset⟩ := find?_eq_some hfound
  constructor
  · rintro ⟨_, hmem, hlisting, horigin⟩
    obtain ⟨old, hold, rfl⟩ := List.mem_map.mp hmem
    split at horigin
    · next hat =>
      rw [if_pos hat] at hlisting
      have hsame : old = script :=
        List.inj_on_of_nodup_map hunique hold hscript ((beq_iff_eq.mp hat).trans hoffset.symm)
      subst hsame
      rcases eq_or_mem_of_mem_sortedInsert horigin with rfl | hknown
      · exact .inl ⟨rfl, hlisting.symm⟩
      · exact .inr ⟨old, hold, hlisting, hknown⟩
    · next hat =>
      rw [if_neg hat] at hlisting
      exact .inr ⟨old, hold, hlisting, horigin⟩
  · rintro (⟨rfl, rfl⟩ | ⟨old, hold, hlisting, horigin⟩)
    · refine ⟨_, List.mem_map.mpr ⟨script, hscript, rfl⟩, ?_⟩
      rw [if_pos (beq_iff_eq.mpr hoffset)]
      exact ⟨rfl, mem_sortedInsert_self separates_originLt o script.origins⟩
    · refine ⟨_, List.mem_map.mpr ⟨old, hold, rfl⟩, ?_⟩
      split
      · exact ⟨hlisting, mem_sortedInsert_of_mem horigin⟩
      · exact ⟨hlisting, horigin⟩

theorem attests_insert (script : Script) (hnew : graph.find? script.offset = none) (o : Origin)
    (l : Listing) :
    (graph.insert script).Attests o l ↔
      (o ∈ script.origins ∧ l = script.listing) ∨ graph.Attests o l := by
  constructor
  · rintro ⟨known, hknown, hlisting, horigin⟩
    rcases (mem_insert hnew).mp hknown with rfl | hold
    · exact .inl ⟨horigin, hlisting.symm⟩
    · exact .inr ⟨known, hold, hlisting, horigin⟩
  · rintro (⟨horigin, rfl⟩ | ⟨known, hold, hrest⟩)
    · exact ⟨script, (mem_insert hnew).mpr (.inl rfl), rfl, horigin⟩
    · exact ⟨known, (mem_insert hnew).mpr (.inr hold), hrest⟩

theorem kept_indexed (bytes : Bytes) (places : List UInt32) :
    Kept bytes places fun _ graph => graph.Indexed where
  zero _ h := h
  known hsearching _ hfound h := by
    refine h.credit ?_ (attests_addOrigin hsearching.unique hfound _)
    simp only [addOrigin, hfound]
  new {_ offset origin _} hsearching _ hfound h := by
    have hnew := hfound
    rw [← Listing.parse_offset bytes offset] at hnew
    refine h.credit rfl fun o l => ?_
    rw [attests_insert ⟨Listing.parse bytes offset, [origin]⟩ hnew, List.mem_singleton]

theorem explore_indexed {container : Container} {reads : List Span}
    (h : explore container bytes = .ok (graph, reads)) : graph.Indexed := by
  obtain ⟨leads, _, hsearched⟩ := explore_induction h
  exact (hsearched _ (kept_indexed bytes _) indexed_empty).2

theorem explore_of_build {container : Container} (h : build container bytes = .ok graph) :
    ∃ reads, explore container bytes = .ok (graph, reads) := by
  simp only [build, bind_eq_ok, pure, Except.pure, Except.ok.injEq] at h
  obtain ⟨⟨graph', reads⟩, hexplore, rfl⟩ := h
  exact ⟨reads, hexplore⟩

theorem build_indexed {container : Container} (h : build container bytes = .ok graph) :
    graph.Indexed := by
  obtain ⟨reads, hexplore⟩ := explore_of_build h
  exact explore_indexed hexplore

/-! ### By actor -/

theorem Runs.attests {name : String} {offset : UInt32} (h : graph.Runs bytes name offset) :
    ∃ origin, graph.Attests origin (Listing.parse bytes offset) ∧ origin.target = name := by
  obtain ⟨script, hscript, hlisting, hfor⟩ := h
  obtain ⟨origin, horigin, hname⟩ := List.any_eq_true.mp hfor
  exact ⟨origin, ⟨script, hscript, hlisting, horigin⟩, beq_iff_eq.mp hname⟩

theorem Runs.find? {name : String} {offset : UInt32} (h : graph.Runs bytes name offset)
    (hunique : (graph.scripts.map Script.offset).Nodup) :
    ∃ script, graph.find? offset = some script ∧ script.listing = Listing.parse bytes offset := by
  obtain ⟨script, hscript, hlisting, _⟩ := h
  have hoffset : script.offset = offset := by rw [Script.offset, hlisting, Listing.parse_offset]
  exact ⟨script, hoffset ▸ find?_of_mem hunique hscript, hlisting⟩

/-- A script of a complete graph is found at its offset, and among those that its actor uses. -/
theorem Complete.find? (h : graph.Complete bytes) (hindexed : graph.Indexed) {name : String}
    {offset : UInt32} (hruns : graph.Runs bytes name offset) :
    name ∈ graph.actors ∧ offset ∈ (graph.usage name).scripts ∧
      ∃ script, graph.find? offset = some script ∧ script.listing = Listing.parse bytes offset := by
  obtain ⟨origin, hattests, hname⟩ := hruns.attests
  refine ⟨(hindexed.actors name).mpr ⟨origin, _, hattests, hname⟩, ?_, hruns.find? h.unique⟩
  have hitem : (UsageItem.script offset).From origin (Listing.parse bytes offset) :=
    (Listing.parse_offset bytes offset).symm
  exact (hindexed.usage name (.script offset)).mpr ⟨origin, _, hattests, hname, hitem⟩

/-- The animations of a script are used by its actor. -/
theorem Runs.animation_mem {name : String} {offset : UInt32} (h : graph.Runs bytes name offset)
    (hindexed : graph.Indexed) {anim : Animation}
    (hhas : (Listing.parse bytes offset).Has (.animation anim)) :
    anim ∈ (graph.usage name).animations := by
  obtain ⟨origin, hattests, hname⟩ := h.attests
  have hitem : (UsageItem.animation anim).From origin (Listing.parse bytes offset) :=
    Listing.has_animation.mp hhas
  exact (hindexed.usage name (.animation anim)).mpr ⟨origin, _, hattests, hname, hitem⟩

/-! ### Both indexes -/

/-- A script of a graph is found, and its facts are those of its origins. -/
theorem attests_iff (hunique : (graph.scripts.map Script.offset).Nodup) {origin : Origin}
    {listing : Listing} :
    graph.Attests origin listing ↔ ∃ script, graph.find? listing.offset = some script ∧
      script.listing = listing ∧ origin ∈ script.origins := by
  constructor
  · rintro ⟨script, hscript, rfl, horigin⟩
    exact ⟨script, find?_of_mem hunique hscript, rfl, horigin⟩
  · rintro ⟨script, hfound, hrest⟩
    exact ⟨script, (find?_eq_some hfound).1, hrest⟩

/-- What an actor uses comes from the scripts that it runs. -/
theorem Indexed.has_iff_of_listing (h : graph.Indexed)
    (hunique : (graph.scripts.map Script.offset).Nodup) (name : String) (item : UsageItem)
    {given : Listing → Prop} (hgiven : ∀ origin listing, item.From origin listing ↔ given listing) :
    (graph.usage name).Has item ↔ ∃ offset ∈ (graph.usage name).scripts,
      ∃ script, graph.find? offset = some script ∧ given script.listing := by
  have hscripts : ∀ offset, offset ∈ (graph.usage name).scripts ↔ _ :=
    fun offset => h.usage name (.script offset)
  simp only [h.usage, hscripts, hgiven]
  constructor
  · rintro ⟨origin, listing, hattests, hname, hlisting⟩
    obtain ⟨script, hfound, rfl, _⟩ := (attests_iff hunique).mp hattests
    exact ⟨_, ⟨origin, _, hattests, hname, rfl⟩, script, hfound, hlisting⟩
  · rintro ⟨offset, ⟨origin, listing, hattests, hname, rfl⟩, script, hfound, hlisting⟩
    obtain ⟨known, hknown, rfl, _⟩ := (attests_iff hunique).mp hattests
    obtain rfl : known = script := Option.some.inj (hknown.symm.trans hfound)
    exact ⟨origin, _, hattests, hname, hlisting⟩

end CallGraph

/-- The title of a script has all reasons why an actor runs it. -/
theorem Script.title_eq (script : Script) (name : String) :
    ∃ reasons : List String,
      script.title name = hexOffset script.offset.toNat ++ String.join (reasons.map (" " ++ ·)) ∧
      ∀ reason, reason ∈ reasons ↔
        ∃ origin ∈ script.origins, origin.target = name ∧ origin.reason = reason := by
  refine ⟨_, String.join_cons, fun reason => ?_⟩
  rw [mem_sortedSet separates_textLt]
  simp [and_assoc]

namespace CallGraph

variable {bytes : Bytes} {graph : CallGraph}

/-- The two indexes of a graph agree.  An actor is known by name exactly if some script has an
origin for it, and an arena is listed for the actor exactly if some such origin is in it; a script
is listed for the actor exactly if it is found at its offset and has an origin for the actor; and
the actor's animations and paths are all those of its scripts.  So every script that is looked up
for an actor is found, and its title gives at least one reason. -/
theorem indexes_agree {container : Container} (h : build container bytes = .ok graph) :
    ∀ name,
      (name ∈ graph.actors ↔
        ∃ script ∈ graph.scripts, ∃ origin ∈ script.origins, origin.target = name) ∧
      (∀ arena, arena ∈ (graph.usage name).arenas ↔ ∃ script ∈ graph.scripts,
        ∃ origin ∈ script.origins, origin.target = name ∧ origin.arena = arena) ∧
      (∀ offset, offset ∈ (graph.usage name).scripts ↔ ∃ script,
        graph.find? offset = some script ∧ ∃ origin ∈ script.origins, origin.target = name) ∧
      (∀ anim, anim ∈ (graph.usage name).animations ↔ ∃ offset ∈ (graph.usage name).scripts,
        ∃ script, graph.find? offset = some script ∧ anim ∈ script.listing.animations) ∧
      (∀ path, path ∈ (graph.usage name).paths ↔ ∃ offset ∈ (graph.usage name).scripts,
        ∃ script, graph.find? offset = some script ∧ path ∈ script.listing.paths) ∧
      ∀ offset ∈ (graph.usage name).scripts, ∃ script, graph.find? offset = some script ∧
        ∃ reason reasons, script.title name =
            hexOffset offset.toNat ++ String.join ((reason :: reasons).map (" " ++ ·)) ∧
          ∀ given ∈ reason :: reasons,
            ∃ origin ∈ script.origins, origin.target = name ∧ origin.reason = given := by
  obtain ⟨reads, hexplore⟩ := explore_of_build h
  have hunique := (explore_complete hexplore).1.unique
  have hindexed := explore_indexed hexplore
  intro name
  have hscripts : ∀ offset, offset ∈ (graph.usage name).scripts ↔ ∃ script,
      graph.find? offset = some script ∧ ∃ origin ∈ script.origins, origin.target = name := by
    intro offset
    refine (hindexed.usage name (.script offset)).trans ?_
    constructor
    · rintro ⟨origin, listing, hattests, hname, rfl⟩
      obtain ⟨script, hfound, rfl, horigin⟩ := (attests_iff hunique).mp hattests
      exact ⟨script, hfound, origin, horigin, hname⟩
    · rintro ⟨script, hfound, origin, horigin, hname⟩
      obtain ⟨hscript, rfl⟩ := find?_eq_some hfound
      exact ⟨origin, script.listing, ⟨script, hscript, rfl, horigin⟩, hname, rfl⟩
  refine ⟨?_, ?_, hscripts, ?_, ?_, ?_⟩
  · refine (hindexed.actors name).trans ?_
    constructor
    · rintro ⟨origin, listing, ⟨script, hscript, _, horigin⟩, hname⟩
      exact ⟨script, hscript, origin, horigin, hname⟩
    · rintro ⟨script, hscript, origin, horigin, hname⟩
      exact ⟨origin, script.listing, ⟨script, hscript, rfl, horigin⟩, hname⟩
  · intro arena
    refine (hindexed.usage name (.arena arena)).trans ?_
    constructor
    · rintro ⟨origin, listing, ⟨script, hscript, _, horigin⟩, hname, harena⟩
      exact ⟨script, hscript, origin, horigin, hname, harena.symm⟩
    · rintro ⟨script, hscript, origin, horigin, hname, harena⟩
      exact ⟨origin, script.listing, ⟨script, hscript, rfl, horigin⟩, hname, harena.symm⟩
  · exact fun anim => hindexed.has_iff_of_listing hunique name (.animation anim) fun _ _ => Iff.rfl
  · exact fun path => hindexed.has_iff_of_listing hunique name (.path path) fun _ _ => Iff.rfl
  · intro offset hoffset
    obtain ⟨script, hfound, origin, horigin, hname⟩ := (hscripts offset).mp hoffset
    obtain ⟨reasons, htitle, hreasons⟩ := script.title_eq name
    have hgiven : origin.reason ∈ reasons := (hreasons _).mpr ⟨origin, horigin, hname, rfl⟩
    obtain ⟨reason, others, rfl⟩ := List.exists_cons_of_ne_nil (List.ne_nil_of_mem hgiven)
    obtain ⟨_, rfl⟩ := find?_eq_some hfound
    exact ⟨script, hfound, reason, others, htitle, fun given => (hreasons given).mp⟩

/-- The `G` that a shared script spawns is known, its script is found, and the title says why. -/
theorem indexes_agree_sharing :
    build .sharing .sharing = .ok sharing ∧ "G" ∈ sharing.actors ∧
      ∃ script, sharing.find? 70 = some script ∧ ∃ origin ∈ script.origins, origin.target = "G" :=
  ⟨build_sharing, by decide +kernel,
    ((indexes_agree build_sharing "G").2.2.1 70).mp (by decide +kernel)⟩

end CallGraph

end LevelScript
