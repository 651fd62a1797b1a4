import LevelScript.Proofs.Continuity
import LevelScript.Proofs.Usage

/-!
Everything that is executed is listed.

Running a script and listing it are two walks over the same bytes.  This module follows an actor
through its life and shows that it never leaves the path that the listing of its script walks: not
behind a delay, not after a return to its anchor, and not when it is set up or spawned, since the
call graph has a listing of every script that any actor is ever pointed at.
-/

namespace LevelScript

/-! ### Fetching and listing -/

section Fetch

variable {stage : Stage} {pos : Nat} {actor : Actor} {reads reads' : List Span} {opcode : UInt8}
  {stop : Nat} {result : Except ScriptFailure Command}

theorem fetch_opcodeAt
    (h : fetch stage pos actor reads = (.instruction opcode stop result, reads')) :
    OpcodeAt stage.bytes pos opcode := by
  obtain ⟨c, _, hopcode, hne, _⟩ := fetch_instruction h
  have hpos : c.pos = pos + 1 := (Scan.Takes.u8 _ _ _ _ hopcode).1
  have hgives := Scan.Gives.of_run .u8 hopcode
  rw [hpos] at hgives
  exact ⟨hgives, hne⟩

/-- A fetched command is listed up to where its script goes on, with all that it refers to. -/
theorem fetch_lists {command : Command}
    (h : fetch stage pos actor reads = (.instruction opcode stop (.ok command), reads'))
    (hmodeled : command ≠ .unmodeled) :
    (Site.at opcode pos).Lists stage.bytes (pos + 1) stop
      (command.references (Site.at opcode pos).name) := by
  obtain ⟨c, c', hopcode, _, hread, rfl, _⟩ := fetch_instruction h
  have hlists := (Command.reads_of_read hread).lists hmodeled
  rwa [(Scan.Takes.u8 _ _ _ _ hopcode).1] at hlists

end Fetch

theorem Command.animation_mem_references {command : Command} {anim : Animation}
    (h : anim ∈ command.animations) (reason : String) :
    Reference.animation anim ∈ command.references reason := by
  cases command with
  | animate other => simpa [animations, references] using h
  | doorAnimations animations => exact List.mem_map_of_mem h
  | _ => exact absurd h List.not_mem_nil

/-! ### Where an actor may be -/

/-- A position on the path of a script. -/
def OnScript (bytes : Bytes) (script : UInt32) (p : Nat) : Prop :=
  script ≠ 0 ∧ OnPath bytes script.toNat p

/-- An episode of the actor of a name that the graph knows of: the script is listed for the actor,
and what was executed is on its path. -/
structure Episode.Charted (bytes : Bytes) (graph : CallGraph) (name : String)
    (episode : Episode) : Prop where
  runs : episode.script ≠ 0 → graph.Runs bytes name episode.script
  ran : ∀ executed ∈ episode.ran, OnScript bytes episode.script executed.start ∧
    OpcodeAt bytes executed.start executed.opcode

/-- An actor that has not left what the graph knows of.  Wherever it goes on, now or later, is on
the path of its script. -/
structure Actor.Charted (stage : Stage) (graph : CallGraph) (actor : Actor) (history : History)
    (pos : Option Nat) (due : Option UInt32) : Prop where
  episodes : ∀ episode ∈ history.episodes, episode.Charted stage.bytes graph actor.name
  running : ∀ p, pos = some p → OnScript stage.bytes history.current.script p
  control : ∀ p, (actor.control = .running p ∨ ∃ delay, actor.control = .blocked p delay) →
    OnScript stage.bytes history.current.script p
  anchor : actor.anchor ≠ 0 → OnScript stage.bytes history.current.script actor.anchor
  due : ∀ init, due = some init → init ≠ 0 → graph.Runs stage.bytes actor.name init
  animations : stage.rehearsal = false →
    ∀ anim ∈ actor.animations, anim ∈ (graph.usage actor.name).animations

namespace Actor.Charted

variable {stage : Stage} {graph : CallGraph} {actor : Actor} {history : History}
  {pos : Option Nat} {due : Option UInt32}

/-- An actor that was never pointed at a script. -/
theorem fresh {init : UInt32} (hcontrol : actor.control = .idle) (hanchor : actor.anchor = 0)
    (hinit : init ≠ 0 → graph.Runs stage.bytes actor.name init)
    (hanimations : stage.rehearsal = false → actor.animations = []) :
    actor.Charted stage graph .fresh none (some init) where
  episodes episode hepisode := by
    rw [History.episodes, History.fresh, List.nil_append, List.mem_singleton] at hepisode
    rw [hepisode]
    exact ⟨fun hne => absurd rfl hne, fun _ h => absurd h List.not_mem_nil⟩
  running p hp := by cases hp
  control p hp := by simp [hcontrol] at hp
  anchor hne := absurd hanchor hne
  due script hscript hne := by
    cases hscript
    exact hinit hne
  animations hplay anim hanim := by
    rw [hanimations hplay] at hanim
    exact absurd hanim List.not_mem_nil

/-- A line in the log changes nothing. -/
theorem push (h : actor.Charted stage graph history pos due) (line : TraceLine) :
    (actor.push line).Charted stage graph history pos due :=
  ⟨h.episodes, h.running, h.control, h.anchor, h.due, h.animations⟩

theorem endWith (h : actor.Charted stage graph history pos due) (reason : Ending) :
    (actor.endWith reason).Charted stage graph history none due where
  episodes := h.episodes
  running p hp := by cases hp
  control p hp := by simp [Actor.endWith] at hp
  anchor := h.anchor
  due := h.due
  animations := h.animations

theorem drop (h : actor.Charted stage graph history none due) :
    actor.Charted stage graph history none none :=
  ⟨h.episodes, h.running, h.control, h.anchor, fun _ hinit => (by cases hinit), h.animations⟩

/-- An actor that is pointed at a script of its own. -/
theorem startAt (h : actor.Charted stage graph history pos due) {script : UInt32}
    (hscript : script ≠ 0 → graph.Runs stage.bytes actor.name script) :
    (actor.startAt script).Charted stage graph (history.begin script) none due where
  episodes episode hepisode := by
    rw [History.episodes, List.mem_append, List.mem_singleton] at hepisode
    rcases hepisode with hold | rfl
    · exact h.episodes episode hold
    · exact ⟨hscript, fun _ hran => absurd hran List.not_mem_nil⟩
  running p hp := by cases hp
  control p hp := by
    by_cases hzero : script = 0
    · simp [Actor.startAt, hzero] at hp
    · simp only [Actor.startAt, hzero, ↓reduceIte, Control.running.injEq, reduceCtorEq,
        exists_false, or_false] at hp
      rw [← hp]
      exact ⟨hzero, .refl⟩
  anchor hne := absurd rfl hne
  due := h.due
  animations := h.animations

theorem enroll (h : actor.Charted stage graph history pos due) {script : UInt32}
    (hscript : script ≠ 0 → graph.Runs stage.bytes actor.name script) :
    (actor.enroll script).Charted stage graph (history.begin script) none due := by
  unfold Actor.enroll
  split
  · exact h.startAt hscript
  · exact (h.push _).startAt hscript

/-- An actor that has executed one more instruction of its script. -/
theorem advance {at_ : Nat} (h : actor.Charted stage graph history (some at_) due)
    {executed : Executed} (hstart : executed.start = at_)
    (hopcode : OpcodeAt stage.bytes at_ executed.opcode) {actor' : Actor} {pos' : Option Nat}
    (hname : actor'.name = actor.name)
    (hrunning : ∀ p, pos' = some p → OnScript stage.bytes history.current.script p)
    (hcontrol : ∀ p, (actor'.control = .running p ∨ ∃ delay, actor'.control = .blocked p delay) →
      OnScript stage.bytes history.current.script p)
    (hanchor : actor'.anchor ≠ 0 → OnScript stage.bytes history.current.script actor'.anchor)
    (hanimations : stage.rehearsal = false → ∀ anim ∈ actor'.animations,
      anim ∈ actor.animations ∨ anim ∈ (graph.usage actor.name).animations) :
    actor'.Charted stage graph (history.extend [executed]) pos' due where
  episodes episode hepisode := by
    rw [hname]
    rw [History.episodes, List.mem_append, List.mem_singleton] at hepisode
    rcases hepisode with hold | rfl
    · exact h.episodes episode (List.mem_append_left _ hold)
    · have hcurrent := h.episodes history.current (by simp [History.episodes])
      refine ⟨hcurrent.runs, ?_⟩
      intro other hother
      rcases List.mem_append.mp hother with hold | hnew
      · exact hcurrent.ran other hold
      · rw [List.mem_singleton.mp hnew, hstart]
        exact ⟨h.running at_ rfl, hopcode⟩
  running := hrunning
  control := hcontrol
  anchor := hanchor
  due init hinit hne := by
    rw [hname]
    exact h.due init hinit hne
  animations hplay anim hanim := by
    rw [hname]
    rcases hanimations hplay anim hanim with hold | hnew
    · exact h.animations hplay anim hold
    · exact hnew

end Actor.Charted

/-! ### Every step stays on the path -/

section Step

variable {stage : Stage} {graph : CallGraph} {pos : Nat} {history : History} {due : Option UInt32}
  {reads reads' : List Span} {opcode : UInt8} {stop : Nat} {command : Command}

/-- Where a script goes on behind a command is on its path. -/
theorem OnScript.fetched {script : UInt32} {actor : Actor} (h : OnScript stage.bytes script pos)
    (hfetch : fetch stage pos actor reads = (.instruction opcode stop (.ok command), reads'))
    (hmodeled : command ≠ .unmodeled) : OnScript stage.bytes script stop :=
  ⟨h.1, h.2.tail ⟨opcode, _, fetch_opcodeAt hfetch, fetch_lists hfetch hmodeled⟩⟩

/-- What a command refers to is in the listing of the script that it stands in. -/
theorem Actor.Charted.has {actor : Actor} (h : actor.Charted stage graph history (some pos) due)
    (hfetch : fetch stage pos actor reads = (.instruction opcode stop (.ok command), reads'))
    (hmodeled : command ≠ .unmodeled) :
    graph.Runs stage.bytes actor.name history.current.script ∧
      ∀ reference ∈ command.references (Site.at opcode pos).name,
        (Listing.parse stage.bytes history.current.script).Has reference := by
  obtain ⟨hne, hpath⟩ := h.running pos rfl
  have hcurrent := h.episodes history.current (by simp [History.episodes])
  refine ⟨hcurrent.runs hne, ?_⟩
  exact Listing.parse_has hpath (fetch_opcodeAt hfetch) (fetch_lists hfetch hmodeled)

theorem Actor.Charted.animation_mem {actor : Actor}
    (h : actor.Charted stage graph history (some pos) due) (hindexed : graph.Indexed)
    (hfetch : fetch stage pos actor reads = (.instruction opcode stop (.ok command), reads'))
    {anim : Animation} (hanim : anim ∈ command.animations) :
    anim ∈ (graph.usage actor.name).animations := by
  have hmodeled : command ≠ .unmodeled := by
    rintro rfl
    exact absurd hanim List.not_mem_nil
  obtain ⟨hruns, hhas⟩ := h.has hfetch hmodeled
  exact hruns.animation_mem hindexed (hhas _ (Command.animation_mem_references hanim _))

/-- What a command makes of its actor, wherever its script goes on next. -/
theorem Actor.Charted.changed {actor changed actor' : Actor}
    (h : actor.Charted stage graph history (some pos) due) (hindexed : graph.Indexed)
    (hfetch : fetch stage pos actor reads = (.instruction opcode stop (.ok command), reads'))
    (hchanged : command.Changed stop actor changed) {pos' : Option Nat}
    (hname : actor'.name = changed.name) (hanchor : actor'.anchor = changed.anchor)
    (hanimations : actor'.animations = changed.animations)
    (hrunning : ∀ p, pos' = some p → OnScript stage.bytes history.current.script p)
    (hcontrol : ∀ p, (actor'.control = .running p ∨ ∃ delay, actor'.control = .blocked p delay) →
      OnScript stage.bytes history.current.script p) :
    actor'.Charted stage graph (history.extend [⟨pos, stop, opcode⟩]) pos' due := by
  have hopcode := fetch_opcodeAt hfetch
  refine h.advance rfl hopcode (hname.trans hchanged.name_eq) hrunning hcontrol ?_ ?_
  · rw [hanchor, hchanged.anchor_eq]
    split
    · next hmark =>
      intro _
      exact (h.running pos rfl).fetched hfetch (by simp [hmark])
    · exact h.anchor
  · intro _ anim hanim
    rw [hanimations] at hanim
    rcases hchanged.animations anim hanim with hold | hnew
    · exact .inl hold
    · exact .inr (h.animation_mem hindexed hfetch hnew)

/-- However a step comes out, the actor has not left the path of its script. -/
theorem Stage.Steps.charted {actor actor' : Actor} {ran : List Executed} {pos' : Option Nat}
    (hsteps : stage.Steps pos actor ran actor' pos')
    (h : actor.Charted stage graph history (some pos) due) (hindexed : graph.Indexed) :
    actor'.Charted stage graph (history.extend ran) pos' due := by
  have hhere := h.running pos rfl
  cases hsteps with
  | stopped reason =>
      rw [History.extend_nil]
      exact h.endWith reason
  | failed hfetch =>
      refine h.advance rfl (fetch_opcodeAt hfetch) rfl (fun p hp => by cases hp) ?_ h.anchor ?_
      · intro p hp
        simp [Actor.endWith] at hp
      · exact fun _ anim hanim => .inl hanim
  | @goesOn _ _ _ stop _ changed _ hfetch hchanged _ hmodeled hcontrol =>
      refine h.changed hindexed hfetch hchanged rfl rfl rfl ?_ ?_
      · intro p hp
        cases hp
        exact hhere.fetched hfetch hmodeled
      · intro p hp
        change changed.control = _ ∨ ∃ delay, changed.control = _ at hp
        rw [hcontrol] at hp
        exact h.control p hp
  | @waits _ _ _ stop _ changed _ _ hfetch hchanged _ hmodeled hcontrol =>
      refine h.changed hindexed hfetch hchanged rfl rfl rfl (fun p hp => by cases hp) ?_
      intro p hp
      change changed.control = _ ∨ ∃ delay, changed.control = _ at hp
      rw [hcontrol] at hp
      have hstop : stop = p := by simpa using hp
      exact hstop ▸ hhere.fetched hfetch hmodeled
  | @returns _ _ _ _ changed _ hfetch hchanged hcontrol =>
      refine h.changed hindexed hfetch hchanged rfl rfl rfl (fun p hp => by cases hp) ?_
      intro p hp
      change changed.control = _ ∨ ∃ delay, changed.control = _ at hp
      rw [hcontrol] at hp
      by_cases hzero : actor.anchor = 0
      · simp [hzero] at hp
      · have hback : actor.anchor = p := by simpa [hzero] using hp
        exact hback ▸ h.anchor hzero
  | ends _ reason hfetch hchanged =>
      refine h.changed hindexed hfetch hchanged rfl rfl rfl (fun p hp => by cases hp) ?_
      intro p hp
      simp [Actor.endWith] at hp

end Step

/-! ### Every life stays on the path -/

/-- A stage of which the graph has all scripts: those that roots are pointed at, those that set
actors up, and those that any of these starts. -/
structure Stage.Charted (graph : CallGraph) (root : Actor → UInt32 → Prop) (stage : Stage) :
    Prop where
  complete : graph.Complete stage.bytes
  indexed : graph.Indexed
  setups : ∀ entry ∈ stage.setups.entries, entry.2 ≠ 0 → graph.Runs stage.bytes entry.1 entry.2
  root : ∀ actor init, root actor init → actor.Charted stage graph .fresh none (some init)

theorem Stage.Charted.setupOf? {graph : CallGraph} {root : Actor → UInt32 → Prop} {stage : Stage}
    (h : stage.Charted graph root) {actor : Actor} {offset : UInt32}
    (hsetup : stage.setupOf? actor = some offset) : graph.Runs stage.bytes actor.name offset := by
  obtain ⟨hget, hne⟩ := Option.filter_eq_some_iff.mp hsetup
  exact h.setups (actor.name, offset) (NamedTable.mem_of_get? hget) (bne_iff_ne.mp hne)

theorem SpawnOrder.actor_charted {graph : CallGraph} {stage : Stage} {order : SpawnOrder}
    (h : order.init ≠ 0 → graph.Runs stage.bytes order.name order.init) :
    (order.actor stage).Charted stage graph .fresh none (some order.init) := by
  unfold SpawnOrder.actor
  cases order.kind with
  | plain => exact .fresh rfl rfl h fun _ => rfl
  | pickup => exact .fresh rfl rfl h fun _ => rfl
  | door target => exact .fresh rfl rfl h fun _ => rfl

/-- Whatever happens to an actor, it stays within what the graph knows of. -/
theorem Stage.Lives.charted {graph : CallGraph} {root : Actor → UInt32 → Prop} {stage : Stage}
    (hstage : stage.Charted graph root) {actor : Actor} {history : History} {pos : Option Nat}
    {due : Option UInt32} (h : stage.Lives root actor history pos due) :
    actor.Charted stage graph history pos due := by
  induction h with
  | root hactor => exact hstage.root _ _ hactor
  | @spawned parent history pos due reads reads' opcode stop order _ hfetch ih =>
      apply SpawnOrder.actor_charted
      intro hne
      obtain ⟨hruns, hhas⟩ := ih.has hfetch (by simp)
      exact hstage.complete.runs_call hruns (hhas _ (List.mem_singleton_self _)) hne
  | begun _ _ ih => exact (ih.startAt (ih.due _ rfl)).drop
  | enrolled _ _ ih => exact (ih.enroll (ih.due _ rfl)).drop
  | @setUp actor history init offset _ _ hsetup ih =>
      have hpushed := ih.push (.setup offset)
      exact hpushed.startAt fun _ => hstage.setupOf? hsetup
  | dropped _ ih => exact ih.drop
  | ended error _ _ ih => exact ih.endWith (.failed error)
  | @started actor history due pos _ hstart ih =>
      refine ⟨ih.episodes, ?_, ih.control, ih.anchor, ih.due, ih.animations⟩
      intro p hp
      cases hp
      exact ih.control pos (.inl (Actor.start?_eq_some hstart).1)
  | went _ hstep ih => exact (steps_of_next hstep).charted ih hstage.indexed
  | halted _ hstep ih => exact (steps_of_halt hstep).charted ih hstage.indexed
  | @waited actor history resume delay left _ hcontrol ih =>
      refine ⟨ih.episodes, ih.running, ?_, ih.anchor, ih.due, ih.animations⟩
      intro p hp
      have hresume : resume = p := by simpa using hp
      exact hresume ▸ ih.control resume (.inr ⟨delay, hcontrol⟩)
  | @resumed actor history resume delay _ hcontrol ih =>
      have hresumed : ({ actor with control := .running resume } : Actor).Charted stage graph
          history none none := by
        refine ⟨ih.episodes, ih.running, ?_, ih.anchor, ih.due, ih.animations⟩
        intro p hp
        have hresume : resume = p := by simpa using hp
        exact hresume ▸ ih.control resume (.inr ⟨delay, hcontrol⟩)
      exact hresumed.push _

/-- The stages of a level that was built are charted. -/
theorem Level.stageOf_charted {built settings : Settings} {container : Container} {bytes : Bytes}
    {first : Level} {reads : List Span}
    (hexplore : explore built container bytes = .ok (first, reads)) (index : Nat)
    (rehearsal : Bool) :
    (first.stageOf settings index rehearsal).Charted first.scripts
      (first.Root settings index rehearsal) := by
  obtain ⟨hcomplete, hcharted⟩ := explore_charted hexplore
  obtain ⟨-, hgraph, hbytes⟩ := explore_eq_ok hexplore
  subst hbytes
  refine ⟨hcomplete, CallGraph.explore_indexed hgraph, ?_, ?_⟩
  · intro entry hentry
    simp only [stageOf] at hentry
    cases harena : first.arenas[index]? with
    | none => simp [harena, NamedTable.empty] at hentry
    | some arena =>
        rw [harena] at hentry
        exact (hcharted index arena harena).setups entry hentry
  · intro actor init hroot
    cases hroot with
    | @arena built' arena _ harena hself =>
        refine .fresh rfl rfl ?_ fun _ => rfl
        intro hne
        apply (hcharted index arena harena).self init hne
        rw [hself]
        simp [Actor.startAt, hne]
    | @placed arena placement harena =>
        refine .fresh rfl rfl ?_ fun _ => rfl
        intro hne
        cases hget : arena.inits.get? placement.localKey with
        | none => simp [hget] at hne
        | some offset =>
            rw [hget] at hne
            exact (hcharted index arena harena).inits placement offset hget hne
    | @understudy arena entry kind hrehearsal harena hentry =>
        refine .fresh rfl rfl ?_ ?_
        · exact (hcharted index arena harena).setups entry hentry
        · intro hplay
          rw [stageOf, hrehearsal] at hplay
          cases hplay

/-! ### Whole loads -/

/-- The record of a load. -/
def loadRecord (settings : Settings) (placements : List Placement) (bytes : Bytes) :
    Except DataError Recorded :=
  match Container.read.run bytes (.start 0) with
  | (.error error, _) => .error error
  | (.ok container, c) =>
    match Level.explore settings container bytes with
    | .error error => .error error
    | .ok (level, listed) =>
      let built := Recorded.start level (listed ++ c.reads)
      .ok (.follow settings (Play.Plan.load settings placements built.session) built)

/-- The parts of a load that succeeds. -/
theorem loadLevel_eq_ok {settings : Settings} {placements : List Placement} {bytes : Bytes}
    {level : Level} (h : (loadLevel settings placements bytes).result = .ok level) :
    ∃ container c first listed session,
      Container.read.run bytes (.start 0) = (.ok container, c) ∧
        Level.explore settings container bytes = .ok (first, listed) ∧
        (Play.load settings placements).exec ⟨first, listed ++ c.reads⟩ = (.ok (), session) ∧
        session.level = level := by
  unfold loadLevel at h
  rcases hread : Container.read.run bytes (.start 0) with ⟨error | container, c⟩
  · simp [hread] at h
  · rcases hexplore : Level.explore settings container bytes with error | ⟨first, listed⟩
    · simp [hread, hexplore] at h
    · rcases hplay : (Play.load settings placements).run ⟨first, listed ++ c.reads⟩ with
        ⟨error | done, session⟩
      · simp [hread, hexplore, hplay] at h
      · simp only [hread, hexplore, hplay, Except.ok.injEq] at h
        exact ⟨container, c, first, listed, session, rfl, hexplore, hplay, h⟩

/-- A load that succeeds has a true record, which ends with the loaded level. -/
theorem loadRecord_of_result {settings : Settings} {placements : List Placement} {bytes : Bytes}
    {level : Level} (h : (loadLevel settings placements bytes).result = .ok level) :
    ∃ container first listed recorded,
      Level.explore settings container bytes = .ok (first, listed) ∧
      loadRecord settings placements bytes = .ok recorded ∧ recorded.session.level = level ∧
      recorded.Truthful settings first := by
  obtain ⟨container, c, first, listed, session, hread, hexplore, hplay, rfl⟩ := loadLevel_eq_ok h
  have htruthful := (Recorded.start_truthful (Level.build_of_explore hexplore) settings
    (listed ++ c.reads)).plan (.load placements)
  refine ⟨container, first, listed, _, hexplore, ?_, ?_, htruthful⟩
  · simp only [loadRecord, hread, hexplore]
  · rw [Recorded.follow_session, ← Play.Makes.load settings placements]
    exact congrArg (fun outcome => outcome.2.level) hplay

/-- An actor of a level whose scripts are all listed: each is found in the call graph, for an actor
of its name, and its main block has a line for every instruction that was executed.  The log tells
of just these instructions. -/
structure Actor.Listed (level : Level) (actor : Actor) (history : History) : Prop where
  sites_eq : actor.sites = history.executed.map Executed.site
  none : ∀ episode ∈ history.episodes, episode.script = 0 → episode.ran = []
  scripts : ∀ episode ∈ history.episodes, episode.script ≠ 0 →
    actor.name ∈ level.scripts.actors ∧
      episode.script ∈ (level.scripts.usage actor.name).scripts ∧
      ∃ script, level.scripts.find? episode.script = some script ∧
        ∀ executed ∈ episode.ran, script.listing.ShowsInMain level.bytes executed.site

theorem Level.Rests.listed {built settings : Settings} {container : Container} {bytes : Bytes}
    {first level : Level} {reads : List Span}
    (hexplore : explore built container bytes = .ok (first, reads)) (hgrew : first.Grew level)
    {index : Nat} {rehearsal : Bool} {actor : Actor} {history : History}
    (h : first.Rests settings index rehearsal actor history) : actor.Listed level history := by
  have hstands := h.stands
  have hcharted := Stage.Lives.charted (stageOf_charted hexplore index rehearsal) h
  have hbytes : first.bytes = bytes := (explore_eq_ok hexplore).2.2
  subst hbytes
  refine ⟨hstands.sites_eq, fun episode hepisode => (hstands.episodes episode hepisode).none, ?_⟩
  intro episode hepisode hne
  have hepisode := hcharted.episodes episode hepisode
  rw [hgrew.scripts_eq, hgrew.bytes_eq]
  obtain ⟨hactor, hused, script, hfound, hlisting⟩ :=
    (explore_charted hexplore).1.find? (CallGraph.explore_indexed (explore_eq_ok hexplore).2.1)
      (hepisode.runs hne)
  refine ⟨hactor, hused, script, hfound, ?_⟩
  intro executed hexecuted
  obtain ⟨⟨_, hpath⟩, hopcode⟩ := hepisode.ran executed hexecuted
  rw [hlisting]
  exact Listing.parse_shows hpath hopcode

/-- Whatever a load executes is listed, on the actors of the level and in the rehearsals, of which
the arenas keep the logs; and every animation that an actor is left with is listed for its name. -/
theorem loadLevel_listed {settings : Settings} {placements : List Placement} {bytes : Bytes}
    {level : Level} (h : (loadLevel settings placements bytes).result = .ok level) :
    ∃ recorded, loadRecord settings placements bytes = .ok recorded ∧
      recorded.session.level = level ∧
      (∀ (index : Nat) (seat : Seat) (actor : Actor),
        recorded.session.actor? index seat = some actor →
        actor.Listed level (recorded.chronicle index seat) ∧
          ∀ anim ∈ actor.animations, anim ∈ (level.scripts.usage actor.name).animations) ∧
      (∀ rehearsal ∈ recorded.rehearsals, rehearsal.actor.Listed level rehearsal.history) ∧
      ∀ (index : Nat) (arena : Arena), level.arenas[index]? = some arena →
        ∀ entry ∈ arena.setupLogs.entries, ∃ rehearsal ∈ recorded.rehearsals,
          rehearsal.index = index ∧ rehearsal.actor.name = entry.1 ∧
            rehearsal.actor.log = entry.2 := by
  obtain ⟨container, first, listed, recorded, hexplore, hrecord, rfl, htruthful⟩ :=
    loadRecord_of_result h
  refine ⟨recorded, hrecord, rfl, ?_, ?_, htruthful.logs⟩
  · intro index seat actor hactor
    obtain ⟨arena, harena, hseat⟩ := Session.actor?_eq_some hactor
    have hrests := htruthful.seats index arena harena seat actor hseat
    have hcharted := Stage.Lives.charted (Level.stageOf_charted hexplore index false) hrests
    refine ⟨hrests.listed hexplore htruthful.grew, ?_⟩
    rw [htruthful.grew.scripts_eq]
    exact hcharted.animations rfl
  · intro rehearsal hrehearsal
    exact (htruthful.rehearsals rehearsal hrehearsal).listed hexplore htruthful.grew

/-- A whole file: an arena `A` whose script spawns an `H`, and a setup and an init script for the
first `G`. -/
def Bytes.spawning : Bytes :=
  #[0x4c, 0x45, 0x56, 0x45, 0x4c, 0x00, 0x00, 0x00, 0x00, 0x00, 0x00, 0x00, 0x00, 0x00, 0x00, 0x00,
    0x01, 0x00, 0x00, 0x00, 0x05, 0x41, 0x24, 0x47, 0x5f, 0x31, 0x55, 0x00, 0x00, 0x00, 0x00, 0x00,
    0x00, 0x00, 0x01, 0x00, 0x00, 0x00, 0x03, 0x41, 0x24, 0x47, 0x52, 0x00, 0x00, 0x00, 0x01, 0x00,
    0x00, 0x00, 0x01, 0x41, 0x38, 0x00, 0x00, 0x00, 0x00, 0x00, 0x3e, 0x00, 0x00, 0x00, 0x56, 0x00,
    0x00, 0x00, 0x00, 0x00, 0x00, 0x00, 0x00, 0x00, 0x00, 0x00, 0x00, 0x01, 0x48, 0x5c, 0x00, 0x00,
    0x00, 0xff, 0x0b, 0x05, 0xff, 0x01, 0x03, 0x07, 0x00, 0x00, 0x00, 0xfd, 0x03, 0x05, 0x00, 0x00,
    0x00, 0xff]

/-- A `G` is placed, set up and sent back to its anchor round after round, an `H` is spawned, and
both hold an animation. -/
theorem loadLevel_listed_spawning :
    ∃ level, (loadLevel .standard [⟨"A", "G", 1, .origin, 0⟩] .spawning).result = .ok level ∧
      ∃ recorded, loadRecord .standard [⟨"A", "G", 1, .origin, 0⟩] .spawning = .ok recorded ∧
        recorded.session.level = level ∧
        (∀ (index : Nat) (seat : Seat) (actor : Actor),
          recorded.session.actor? index seat = some actor →
          actor.Listed level (recorded.chronicle index seat) ∧
            ∀ anim ∈ actor.animations, anim ∈ (level.scripts.usage actor.name).animations) ∧
        (∀ rehearsal ∈ recorded.rehearsals, rehearsal.actor.Listed level rehearsal.history) ∧
        ∀ (index : Nat) (arena : Arena), level.arenas[index]? = some arena →
          ∀ entry ∈ arena.setupLogs.entries, ∃ rehearsal ∈ recorded.rehearsals,
            rehearsal.index = index ∧ rehearsal.actor.name = entry.1 ∧
              rehearsal.actor.log = entry.2 := by
  have hok : (loadLevel .standard [⟨"A", "G", 1, .origin, 0⟩] .spawning).result.isOk = true := by
    decide +kernel
  cases hresult : (loadLevel .standard [⟨"A", "G", 1, .origin, 0⟩] .spawning).result with
  | error error =>
      rw [hresult] at hok
      cases hok
  | ok level => exact ⟨level, rfl, loadLevel_listed hresult⟩

end LevelScript
