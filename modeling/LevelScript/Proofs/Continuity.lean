import LevelScript.Proofs.Chronicle
import LevelScript.Proofs.Decoding
import Mathlib.Data.List.Induction

/-!
No instruction is skipped, and none is repeated.

Between two invocations the place where a script goes on is kept in the control of its actor: where
the script starts, behind a delay, or at the anchor.  This module shows that it is always the right
place.  Within an episode every instruction starts where the one before it ended, except after a
return, which goes to the latest anchor; and the log has one line for each instruction, in order.
-/

namespace LevelScript

/-- The instruction that a line of a log tells of. -/
def TraceLine.site? : TraceLine → Option Site
  | step offset opcode _ => some (Site.at opcode offset)
  | _ => none

theorem TraceLine.render_of_site? {line : TraceLine} {site : Site} (h : line.site? = some site) :
    ∃ detail, line.render = site.header ++ detail := by
  cases line with
  | step offset opcode detail =>
      cases h
      exact ⟨detail, rfl⟩
  | _ => cases h

/-- The instructions that an actor's log tells of. -/
def Actor.sites (actor : Actor) : List Site :=
  actor.log.toList.filterMap TraceLine.site?

@[simp]
theorem Actor.sites_push (actor : Actor) (line : TraceLine) :
    (actor.push line).sites = actor.sites ++ line.site?.toList := by
  cases hsite : line.site? <;> simp [sites, push, hsite]

@[simp]
theorem Actor.sites_endWith (actor : Actor) (reason : Ending) :
    (actor.endWith reason).sites = actor.sites := by
  change (actor.push (.ended reason)).sites = actor.sites
  simp [TraceLine.site?]

@[simp]
theorem Actor.sites_startAt (actor : Actor) (offset : UInt32) :
    (actor.startAt offset).sites = actor.sites := rfl

/-! ### Episodes -/

/-- Where a return goes after these instructions: behind the latest one that marks the place, zero
if there is none. -/
def Executed.anchorOf (ran : List Executed) : Nat :=
  ran.foldl (fun anchor executed => if executed.opcode = 0x01 then executed.stop else anchor) 0

theorem Executed.anchorOf_append (ran : List Executed) (executed : Executed) :
    anchorOf (ran ++ [executed]) =
      if executed.opcode = 0x01 then executed.stop else anchorOf ran := by
  simp [anchorOf]

/-- An anchor is the end of the latest instruction that marks the place. -/
theorem Executed.anchorOf_ne_zero {ran : List Executed} (h : anchorOf ran ≠ 0) :
    ∃ (j : Nat) (marked : Executed), ran[j]? = some marked ∧ marked.opcode = 0x01 ∧
      anchorOf ran = marked.stop ∧
      ∀ (k : Nat) (later : Executed), j < k → ran[k]? = some later → later.opcode ≠ 0x01 := by
  induction ran using List.reverseRecOn with
  | nil => exact absurd rfl h
  | append_singleton ran last ih =>
      rw [anchorOf_append] at h ⊢
      by_cases hlast : last.opcode = 0x01
      · refine ⟨ran.length, last, by simp, hlast, by rw [if_pos hlast], ?_⟩
        intro k later hk hlater
        have hlt := (List.getElem?_eq_some_iff.mp hlater).1
        simp only [List.length_append, List.length_singleton] at hlt
        omega
      · rw [if_neg hlast] at h ⊢
        obtain ⟨j, marked, hmarked, hopcode, hstop, hlatest⟩ := ih h
        have hj := (List.getElem?_eq_some_iff.mp hmarked).1
        refine ⟨j, marked, by rwa [List.getElem?_append_left hj], hopcode, hstop, ?_⟩
        intro k later hk hlater
        by_cases hlt : k < ran.length
        · rw [List.getElem?_append_left hlt] at hlater
          exact hlatest k later hk hlater
        · rw [List.getElem?_append_right (Nat.le_of_not_lt hlt)] at hlater
          rw [List.getElem?_singleton] at hlater
          split at hlater
          · cases hlater
            exact hlast
          · cases hlater

namespace Episode

/-- Where an episode goes on. -/
def next (episode : Episode) : Nat :=
  match episode.ran.getLast? with
  | none => episode.script.toNat
  | some last => if last.opcode = 0xfd then Executed.anchorOf episode.ran else last.stop

/-- An episode in which no instruction is skipped or repeated: the first one stands at the start of
the script, each further one where the one before it ended, or, after a return, where the latest
instruction that marks the place ended.  Without a script nothing is executed. -/
structure Contiguous (episode : Episode) : Prop where
  first : ∀ e, episode.ran[0]? = some e → e.start = episode.script.toNat
  none : episode.script = 0 → episode.ran = []
  forward : ∀ (i : Nat) (e e' : Executed), episode.ran[i]? = some e →
    episode.ran[i + 1]? = some e' → e.opcode ≠ 0xfd → e'.start = e.stop
  back : ∀ (i : Nat) (e e' : Executed), episode.ran[i]? = some e →
    episode.ran[i + 1]? = some e' → e.opcode = 0xfd →
    ∃ (j : Nat) (marked : Executed), j ≤ i ∧ episode.ran[j]? = some marked ∧
      marked.opcode = 0x01 ∧ e'.start = marked.stop ∧
      ∀ (k : Nat) (later : Executed), j < k → k ≤ i → episode.ran[k]? = some later →
        later.opcode ≠ 0x01

theorem contiguous_nil (script : UInt32) : (Episode.mk script []).Contiguous where
  first e he := by simp at he
  none _ := rfl
  forward i e e' he := by simp at he
  back i e e' he := by simp at he

/-- An episode stays contiguous when it goes on where it should. -/
theorem Contiguous.append {episode : Episode} (h : episode.Contiguous) {executed : Executed}
    (hstart : executed.start = episode.next) (hne : executed.start ≠ 0) :
    (Episode.mk episode.script (episode.ran ++ [executed])).Contiguous := by
  obtain ⟨script, ran⟩ := episode
  have hold : ∀ {i : Nat} {e : Executed}, (ran ++ [executed])[i]? = some e → i < ran.length →
      ran[i]? = some e := by
    intro i e he hi
    rwa [List.getElem?_append_left hi] at he
  -- The last two instructions are the old last one and the new one.
  have hlast : ∀ {i : Nat} {e e' : Executed}, (ran ++ [executed])[i]? = some e →
      (ran ++ [executed])[i + 1]? = some e' → ¬ i + 1 < ran.length →
      ran.getLast? = some e ∧ i + 1 = ran.length ∧ e' = executed := by
    intro i e e' he he' hi
    have hlt := (List.getElem?_eq_some_iff.mp he').1
    simp only [List.length_append, List.length_singleton] at hlt
    have hlen : i + 1 = ran.length := by omega
    refine ⟨?_, hlen, ?_⟩
    · rw [List.getLast?_eq_getElem?, ← hold he (by omega)]
      congr 1
      omega
    · rw [hlen] at he'
      simpa using he'.symm
  refine ⟨?_, ?_, ?_, ?_⟩
  · intro e he
    cases ran with
    | nil =>
        cases he
        exact hstart
    | cons head tail => exact h.first e he
  · intro hzero
    have hran : ran = [] := h.none hzero
    subst hran
    rw [next, List.getLast?_nil] at hstart
    simp only at hzero
    simp [hstart, hzero] at hne
  · intro i e e' he he' hopcode
    by_cases hi : i + 1 < ran.length
    · exact h.forward i e e' (hold he (by omega)) (hold he' hi) hopcode
    · obtain ⟨hgetLast, _, rfl⟩ := hlast he he' hi
      rw [hstart, next, hgetLast]
      exact if_neg hopcode
  · intro i e e' he he' hopcode
    by_cases hi : i + 1 < ran.length
    · obtain ⟨j, marked, hj, hmarked, hmark, hstop, hlatest⟩ :=
        h.back i e e' (hold he (by omega)) (hold he' hi) hopcode
      have hlt : j < ran.length := by omega
      refine ⟨j, marked, hj, ?_, hmark, hstop, ?_⟩
      · rwa [List.getElem?_append_left hlt]
      · intro k later hjk hki hlater
        exact hlatest k later hjk hki (hold hlater (by omega))
    · obtain ⟨hgetLast, hlen, rfl⟩ := hlast he he' hi
      have hanchor : e'.start = Executed.anchorOf ran := by
        rw [hstart, next, hgetLast]
        exact if_pos hopcode
      obtain ⟨j, marked, hmarked, hmark, hstop, hlatest⟩ :=
        Executed.anchorOf_ne_zero (hanchor ▸ hne)
      have hj := (List.getElem?_eq_some_iff.mp hmarked).1
      refine ⟨j, marked, by omega, ?_, hmark, hanchor.trans hstop, ?_⟩
      · rwa [List.getElem?_append_left hj]
      · intro k later hjk hki hlater
        exact hlatest k later hjk (hold hlater (by omega))

end Episode

/-! ### Where an actor stands -/

/-- The actor stands where its history goes on: at a position that it is about to execute, or, at
rest, where its control says that the next invocation starts.  Its log tells of just the
instructions in its history. -/
structure Actor.Stands (actor : Actor) (history : History) (pos : Option Nat) : Prop where
  episodes : ∀ episode ∈ history.episodes, episode.Contiguous
  anchor_eq : actor.anchor = Executed.anchorOf history.current.ran
  running : ∀ p, pos = some p → p = history.current.next ∧ p ≠ 0
  resting : pos = none → ∀ p,
    (actor.control = .running p ∨ ∃ delay, actor.control = .blocked p delay) →
    p = history.current.next
  sites_eq : actor.sites = history.executed.map Executed.site

namespace Actor.Stands

variable {actor : Actor} {history : History} {pos : Option Nat}

/-- A fresh actor stands nowhere. -/
theorem fresh (hanchor : actor.anchor = 0) (hcontrol : actor.control = .idle)
    (hsites : actor.sites = []) : actor.Stands .fresh none where
  episodes episode hepisode := by
    rw [History.episodes, History.fresh, List.nil_append, List.mem_singleton] at hepisode
    rw [hepisode]
    exact Episode.contiguous_nil 0
  anchor_eq := hanchor
  running p hp := by cases hp
  resting _ p hp := by simp [hcontrol] at hp
  sites_eq := hsites

theorem startAt (h : actor.Stands history pos) (script : UInt32) :
    (actor.startAt script).Stands (history.begin script) none where
  episodes episode hepisode := by
    rw [History.episodes, List.mem_append, List.mem_singleton] at hepisode
    rcases hepisode with hold | rfl
    · exact h.episodes episode hold
    · exact Episode.contiguous_nil script
  anchor_eq := rfl
  running p hp := by cases hp
  resting _ p hp := by
    by_cases hzero : script = 0
    · simp [Actor.startAt, hzero] at hp
    · simp only [Actor.startAt, hzero, ↓reduceIte, Control.running.injEq, reduceCtorEq,
        exists_false, or_false] at hp
      exact hp.symm
  sites_eq := by simpa using h.sites_eq

/-- Lines that tell of no instruction change nothing. -/
theorem push (h : actor.Stands history pos) {line : TraceLine} (hline : line.site? = none) :
    (actor.push line).Stands history pos :=
  ⟨h.episodes, h.anchor_eq, h.running, h.resting, by simp [hline, h.sites_eq]⟩

theorem endWith (h : actor.Stands history pos) (reason : Ending) :
    (actor.endWith reason).Stands history none where
  episodes := h.episodes
  anchor_eq := h.anchor_eq
  running p hp := by cases hp
  resting _ p hp := by simp [Actor.endWith] at hp
  sites_eq := by simpa using h.sites_eq

theorem enroll (h : actor.Stands history pos) (init : UInt32) :
    (actor.enroll init).Stands (history.begin init) none := by
  unfold Actor.enroll
  split
  · exact h.startAt init
  · exact (h.push rfl).startAt init

/-- An actor that has executed one more instruction, and goes on where it should. -/
theorem advance {at_ : Nat} (h : actor.Stands history (some at_)) {executed : Executed}
    (hstart : executed.start = at_) {actor' : Actor} {pos' : Option Nat}
    (hanchor : actor'.anchor = if executed.opcode = 0x01 then executed.stop else actor.anchor)
    (hsites : actor'.sites = actor.sites ++ [executed.site])
    (hrunning : ∀ p, pos' = some p → p = (history.extend [executed]).current.next ∧ p ≠ 0)
    (hresting : pos' = none → ∀ p,
      (actor'.control = .running p ∨ ∃ delay, actor'.control = .blocked p delay) →
      p = (history.extend [executed]).current.next) :
    actor'.Stands (history.extend [executed]) pos' where
  episodes episode hepisode := by
    obtain ⟨hnext, hne⟩ := h.running at_ rfl
    rw [History.episodes, List.mem_append, List.mem_singleton] at hepisode
    rcases hepisode with hold | rfl
    · exact h.episodes episode (List.mem_append_left _ hold)
    · have hcurrent := h.episodes history.current (by simp [History.episodes])
      exact hcurrent.append (hstart.trans hnext) (hstart ▸ hne)
  anchor_eq := by
    rw [hanchor, h.anchor_eq]
    exact (Executed.anchorOf_append _ _).symm
  running := hrunning
  resting := hresting
  sites_eq := by rw [hsites, h.sites_eq, History.executed_extend, List.map_append]; rfl

end Actor.Stands

theorem History.next_extend (history : History) (executed : Executed) :
    (history.extend [executed]).current.next =
      if executed.opcode = 0xfd then Executed.anchorOf (history.current.ran ++ [executed])
      else executed.stop := by
  simp [extend, Episode.next]

/-! ### Every step goes on where it should -/

/-- An instruction takes at least its opcode. -/
theorem fetch_lt {stage : Stage} {pos : Nat} {actor : Actor} {reads reads' : List Span}
    {opcode : UInt8} {stop : Nat} {result : Except ScriptFailure Command}
    (h : fetch stage pos actor reads = (.instruction opcode stop result, reads')) : pos < stop := by
  obtain ⟨c, c', hopcode, _, hread, rfl, _⟩ := fetch_instruction h
  have hc : c.pos = pos + 1 := (Scan.Takes.u8 _ _ _ _ hopcode).1
  have hregular : (Command.read stage.arenas actor (Site.at opcode pos)).Regular stage.bytes
      Scan.Any := .command stage.arenas actor (Site.at opcode pos)
  have hle := hregular.run_le_pos c
  rw [hread, hc] at hle
  exact hle

/-- The opcodes that mark the place and that go back to it are just those of the two commands. -/
theorem fetch_opcode {stage : Stage} {pos : Nat} {actor : Actor} {reads reads' : List Span}
    {opcode : UInt8} {stop : Nat} {result : Except ScriptFailure Command}
    (h : fetch stage pos actor reads = (.instruction opcode stop result, reads')) :
    (opcode = 0x01 ↔ result = .ok .anchor) ∧ (opcode = 0xfd ↔ result = .ok .goBack) := by
  obtain ⟨c, c', _, _, hread, _, _⟩ := fetch_instruction h
  refine ⟨⟨?_, ?_⟩, ⟨?_, ?_⟩⟩
  · intro hop
    rw [Command.read_anchor hop] at hread
    exact (congrArg Prod.fst hread).symm
  · rintro rfl
    exact (Command.reads_of_read hread).opcode_of_anchor
  · intro hop
    rw [Command.read_goBack hop] at hread
    exact (congrArg Prod.fst hread).symm
  · rintro rfl
    exact (Command.reads_of_read hread).opcode_of_goBack

/-- The line that a changed actor writes tells of its instruction. -/
theorem Command.Changed.sites {command : Command} {stop : Nat} {actor changed : Actor}
    (h : command.Changed stop actor changed) (pos : Nat) (opcode : UInt8) (detail : String) :
    (changed.push (.step pos opcode detail)).sites =
      actor.sites ++ [(Executed.mk pos stop opcode).site] := by
  have hlog : changed.sites = actor.sites := by rw [Actor.sites, h.log_eq, Actor.sites]
  simp [hlog, TraceLine.site?, Executed.site]

/-- However a step comes out, the actor stands where its history goes on. -/
theorem Stage.Steps.stands {stage : Stage} {pos : Nat} {actor actor' : Actor} {ran : List Executed}
    {pos' : Option Nat} (hsteps : stage.Steps pos actor ran actor' pos') {history : History}
    (h : actor.Stands history (some pos)) : actor'.Stands (history.extend ran) pos' := by
  -- Only the command that marks the place moves the anchor, and its opcode tells it.
  have hmarks : ∀ {reads reads' : List Span} {opcode : UInt8} {stop : Nat} {command : Command}
      {changed : Actor},
      fetch stage pos actor reads = (.instruction opcode stop (.ok command), reads') →
      command.Changed stop actor changed →
      changed.anchor = if opcode = 0x01 then stop else actor.anchor := by
    intro reads reads' opcode stop command changed hfetch hchanged
    rw [hchanged.anchor_eq]
    simp [(fetch_opcode hfetch).1]
  cases hsteps with
  | stopped reason =>
      rw [History.extend_nil]
      exact h.endWith reason
  | @failed reads reads' opcode stop error hfetch =>
      have hop : opcode ≠ 0x01 := fun hop => nomatch (fetch_opcode hfetch).1.mp hop
      refine h.advance rfl (if_neg hop).symm ?_ (fun p hp => by cases hp) ?_
      · simp [TraceLine.site?, Executed.site]
      · intro _ p hp
        simp [Actor.endWith] at hp
  | @goesOn reads reads' opcode stop command changed detail hfetch hchanged hback _ _ =>
      have hop : opcode ≠ 0xfd := fun hop => hback (by simpa using (fetch_opcode hfetch).2.mp hop)
      have hlt := fetch_lt hfetch
      have hanchor := hmarks hfetch hchanged
      refine h.advance rfl hanchor (hchanged.sites _ _ _) ?_ (fun hp => by cases hp)
      intro p hp
      cases hp
      rw [History.next_extend, if_neg hop]
      exact ⟨rfl, by omega⟩
  | @waits reads reads' opcode stop command changed delay detail hfetch hchanged hback _ hcontrol =>
      have hop : opcode ≠ 0xfd := fun hop => hback (by simpa using (fetch_opcode hfetch).2.mp hop)
      have hanchor := hmarks hfetch hchanged
      refine h.advance rfl hanchor (hchanged.sites _ _ _) (fun p hp => by cases hp) ?_
      intro _ p hp
      change changed.control = _ ∨ ∃ delay, changed.control = _ at hp
      rw [hcontrol] at hp
      rw [History.next_extend, if_neg hop]
      simpa [eq_comm] using hp
  | @returns reads reads' opcode stop changed detail hfetch hchanged hcontrol =>
      have hop : opcode = 0xfd := (fetch_opcode hfetch).2.mpr rfl
      have hanchor := hmarks hfetch hchanged
      refine h.advance rfl hanchor (hchanged.sites _ _ _) (fun p hp => by cases hp) ?_
      intro _ p hp
      change changed.control = _ ∨ ∃ delay, changed.control = _ at hp
      rw [hcontrol] at hp
      rw [History.next_extend, if_pos hop, Executed.anchorOf_append, if_neg (by simp [hop]),
        ← h.anchor_eq]
      by_cases hzero : actor.anchor = 0
      · simp [hzero] at hp
      · simpa [hzero, eq_comm] using hp
  | @ends reads reads' opcode stop command changed detail reason hfetch hchanged =>
      -- An ended actor stands nowhere, so only its log counts.
      have hanchor := hmarks hfetch hchanged
      refine h.advance rfl hanchor ?_ (fun p hp => by cases hp) ?_
      · simpa using hchanged.sites pos opcode detail
      · intro _ p hp
        simp [Actor.endWith] at hp

/-! ### Every life -/

theorem SpawnOrder.actor_stands (order : SpawnOrder) (stage : Stage) :
    (order.actor stage).Stands .fresh none := by
  unfold SpawnOrder.actor
  cases order.kind with
  | plain => exact .fresh rfl rfl rfl
  | pickup => exact .fresh rfl rfl rfl
  | door target => exact .fresh rfl rfl rfl

theorem Actor.start?_eq_some {actor : Actor} {pos : Nat} (h : actor.start? = some pos) :
    actor.control = .running pos ∧ pos ≠ 0 := by
  unfold start? at h
  split at h
  · next offset hrunning =>
    split at h
    · cases h
    · next hne =>
      cases h
      exact ⟨hrunning, hne⟩
  · cases h

theorem Actor.start?_eq_none {actor : Actor} (h : ∀ offset, actor.control ≠ .running offset) :
    actor.start? = none := by
  cases hstart : actor.start? with
  | none => rfl
  | some pos => exact absurd (start?_eq_some hstart).1 (h pos)

/-- Whatever happens to an actor, it stands where its history goes on. -/
theorem Stage.Lives.stands {stage : Stage} {root : Actor → UInt32 → Prop}
    (hroot : ∀ actor init, root actor init → actor.Stands .fresh none) {actor : Actor}
    {history : History} {pos : Option Nat} {due : Option UInt32}
    (h : stage.Lives root actor history pos due) : actor.Stands history pos := by
  induction h with
  | root hactor => exact hroot _ _ hactor
  | spawned _ _ _ => exact SpawnOrder.actor_stands _ _
  | begun _ _ ih => exact ih.startAt _
  | enrolled _ _ ih => exact ih.enroll _
  | setUp _ _ _ ih => exact (ih.push rfl).startAt _
  | dropped _ ih => exact ih
  | ended error _ _ ih => exact ih.endWith (.failed error)
  | @started actor history due pos _ hstart ih =>
      have hcontrol := Actor.start?_eq_some hstart
      refine ⟨ih.episodes, ih.anchor_eq, ?_, (fun hp => by cases hp), ih.sites_eq⟩
      intro p hp
      cases hp
      exact ⟨ih.resting rfl pos (.inl hcontrol.1), hcontrol.2⟩
  | went _ hstep ih => exact (steps_of_next hstep).stands ih
  | halted _ hstep ih => exact (steps_of_halt hstep).stands ih
  | @waited actor history resume delay left _ hcontrol ih =>
      refine ⟨ih.episodes, ih.anchor_eq, ih.running, ?_, ih.sites_eq⟩
      intro _ p hp
      simp only [reduceCtorEq, Control.blocked.injEq, exists_and_left, exists_eq', and_true,
        false_or] at hp
      subst hp
      exact ih.resting rfl resume (.inr ⟨delay, hcontrol⟩)
  | @resumed actor history resume delay _ hcontrol ih =>
      have hresumed : ({ actor with control := .running resume } : Actor).Stands history none := by
        refine ⟨ih.episodes, ih.anchor_eq, ih.running, ?_, ih.sites_eq⟩
        intro _ p hp
        simp only [Control.running.injEq, reduceCtorEq, exists_false, or_false] at hp
        subst hp
        exact ih.resting rfl resume (.inr ⟨delay, hcontrol⟩)
      exact hresumed.push rfl

theorem Level.Root.stands {settings : Settings} {first : Level} {index : Nat} {rehearsal : Bool}
    {actor : Actor} {script : UInt32} (h : first.Root settings index rehearsal actor script) :
    actor.Stands .fresh none := by
  cases h with
  | arena _ _ => exact .fresh rfl rfl rfl
  | placed placement _ => exact .fresh rfl rfl rfl
  | understudy kind _ _ _ => exact .fresh rfl rfl rfl

theorem Level.Rests.stands {settings : Settings} {first : Level} {index : Nat} {rehearsal : Bool}
    {actor : Actor} {history : History} (h : first.Rests settings index rehearsal actor history) :
    actor.Stands history none :=
  Stage.Lives.stands (fun _ _ hroot => hroot.stands) h

/-! ### Every run -/

/-- An actor whose history has no gap, and whose log has one line for each instruction in it, in the
same order; each of these lines starts with the header of its instruction. -/
structure Actor.Accounted (actor : Actor) (history : History) : Prop where
  contiguous : ∀ episode ∈ history.episodes, episode.Contiguous
  sites_eq : actor.sites = history.executed.map Executed.site
  header : ∀ line ∈ actor.log, ∀ site, line.site? = some site →
    ∃ detail, line.render = site.header ++ detail

theorem Actor.Stands.accounted {actor : Actor} {history : History} {pos : Option Nat}
    (h : actor.Stands history pos) : actor.Accounted history :=
  ⟨h.episodes, h.sites_eq, fun _ _ _ hsite => TraceLine.render_of_site? hsite⟩

/-- However a level that was built is played, no actor skips or repeats an instruction, from one
invocation to the next as little as within one, and its log tells of each of them once.  The same
holds of every rehearsal. -/
theorem Recorded.accounted_afterAll {built : Settings} {container : Container} {bytes : Bytes}
    {level : Level} (hbuild : Level.build built container bytes = .ok level) (settings : Settings)
    (reads : List Span) (operations : List Operation) :
    let recorded := (Recorded.start level reads).afterAll settings operations
    recorded.session = (Session.mk level reads).afterAll settings operations ∧
      (∀ (index : Nat) (seat : Seat) (actor : Actor),
        recorded.session.actor? index seat = some actor →
        actor.Accounted (recorded.chronicle index seat)) ∧
      ∀ rehearsal ∈ recorded.rehearsals, rehearsal.actor.Accounted rehearsal.history := by
  intro recorded
  have htruthful : recorded.Truthful settings level :=
    (Recorded.start_truthful hbuild settings reads).afterAll operations
  refine ⟨Recorded.afterAll_session _ settings operations, ?_, ?_⟩
  · intro index seat actor hactor
    obtain ⟨arena, harena, hseat⟩ := Session.actor?_eq_some hactor
    exact (htruthful.seats index arena harena seat actor hseat).stands.accounted
  · intro rehearsal hrehearsal
    exact (htruthful.rehearsals rehearsal hrehearsal).stands.accounted

/-- A guard that marks its place, waits and goes back is placed, played and ticked. -/
theorem Recorded.accounted_afterAll_guarded :
    ∃ level, Level.build .standard .guarded
        #[0xff, 0xff, 0xff, 0x01, 0x40, 0x03, 0x00, 0x00, 0x80, 0x3f, 0xfd] = .ok level ∧
      let recorded := (Recorded.start level []).afterAll .standard
        [.seed [⟨"HALL", "GUARD", 1, .origin, 0⟩], .loadPasses, .ticks]
      recorded.session = (Session.mk level []).afterAll .standard
          [.seed [⟨"HALL", "GUARD", 1, .origin, 0⟩], .loadPasses, .ticks] ∧
        (∀ (index : Nat) (seat : Seat) (actor : Actor),
          recorded.session.actor? index seat = some actor →
          actor.Accounted (recorded.chronicle index seat)) ∧
        ∀ rehearsal ∈ recorded.rehearsals, rehearsal.actor.Accounted rehearsal.history := by
  have hbuild : ∃ level, Level.build .standard .guarded
      #[0xff, 0xff, 0xff, 0x01, 0x40, 0x03, 0x00, 0x00, 0x80, 0x3f, 0xfd] = .ok level := ⟨_, rfl⟩
  obtain ⟨level, hlevel⟩ := hbuild
  exact ⟨level, hlevel, accounted_afterAll hlevel .standard [] _⟩

end LevelScript
