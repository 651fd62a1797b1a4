import LevelScript.Proofs.Agreement
import LevelScript.Proofs.Step

/-!
The extent of instructions.

The operands of an instruction that a script gets past are listed up to where the script goes on,
and they are listed as not modeled exactly if the script stops because of that.  Where a command is
no more than what the instruction shows, running and listing agree in everything: the position, the
text and the failure.
-/

namespace LevelScript

/-- What carrying out the instruction at a site comes to: how the script goes on or why it fails,
the text for the trace, the state, and where the operands end or reading them failed. -/
structure Carried where
  flow : Except ScriptFailure Verdict
  detail : String
  scene : Scene
  stop : Nat

/-- Reads the operands of an instruction from a cursor, and carries the instruction out. -/
def Site.carryOut (site : Site) (stage : Stage) (settle : Settle) (scene : Scene) (c : Cursor) :
    Carried :=
  match (Command.read stage.arenas scene.actor site).run stage.bytes c with
  | (.error error, c') => ⟨.error error, "", scene.withReads c'.reads, c'.pos⟩
  | (.ok command, c') =>
    let effect := command.apply stage settle site c'.pos (scene.withReads c'.reads)
    ⟨effect.verdict.mapError .format, effect.detail, effect.scene, c'.pos⟩

/-- How a script goes on from an instruction that was carried out. -/
def Carried.proceed (carried : Carried) (pos : Nat) (opcode : UInt8) : Stepped :=
  let scene := carried.scene.push (.step pos opcode carried.detail)
  match carried.flow with
  | .ok .goOn => .next carried.stop scene
  | .ok .pause => .halt (none, scene)
  | .ok (.stop reason) => .halt (none, scene.endWith reason)
  | .error error => .halt (scene.fail error)

/-- A step behind an opcode carries the instruction out. -/
theorem step_eq_carryOut {stage : Stage} {scene : Scene} {pos : Nat} {opcode : UInt8} {c : Cursor}
    (hopcode : Scan.u8.run stage.bytes ⟨pos, scene.world.reads, []⟩ = (.ok opcode, c))
    (hend : opcode ≠ 0xff) (settle : Settle) :
    step stage settle pos scene =
      ((Site.at opcode pos).carryOut stage settle scene c).proceed pos opcode := by
  unfold step Site.carryOut
  simp only [hopcode, hend, ↓reduceIte]
  rcases (Command.read stage.arenas scene.actor (Site.at opcode pos)).run stage.bytes c with
    ⟨error | command, c'⟩
  · rfl
  · dsimp only [Carried.proceed]
    rcases (command.apply stage settle (Site.at opcode pos) c'.pos
      (scene.withReads c'.reads)).verdict with fatal | _ | _ | reason <;> rfl

namespace Site

variable {stage : Stage} {scene : Scene} {site : Site} {c : Cursor}

/-- Inversion of carrying out. -/
theorem carryOut_eq_ok {settle : Settle} {verdict : Verdict}
    (h : (site.carryOut stage settle scene c).flow = .ok verdict) :
    ∃ command c', (Command.read stage.arenas scene.actor site).run stage.bytes c =
        (.ok command, c') ∧
      (site.carryOut stage settle scene c).stop = c'.pos ∧
      (command.apply stage settle site c'.pos (scene.withReads c'.reads)).verdict =
        .ok verdict := by
  unfold carryOut at h ⊢
  rcases hread : (Command.read stage.arenas scene.actor site).run stage.bytes c with
    ⟨error | command, c'⟩
  · simp [hread] at h
  · refine ⟨command, c', rfl, rfl, ?_⟩
    rw [hread] at h
    dsimp only at h
    rcases hverdict : (command.apply stage settle site c'.pos
      (scene.withReads c'.reads)).verdict with fatal | verdict'
    · rw [hverdict] at h
      cases h
    · rw [hverdict] at h
      exact congrArg _ (Except.ok.inj h)

/-- An instruction without animations is listed as it is decoded, except for what is found. -/
theorem run_list_of_plain (hplain : site.opcode ∉ animationOpcodes) (bytes : Bytes) (d : Cursor) :
    (site.list.run bytes d).1 = (site.decode.run bytes d).1.map Decoded.text? ∧
      (site.list.run bytes d).2.pos = (site.decode.run bytes d).2.pos := by
  rw [list_eq_decode hplain, Scan.run_bind]
  rcases site.decode.run bytes d with ⟨error | decoded, e⟩
  · exact ⟨rfl, rfl⟩
  · cases decoded with
    | operands values =>
        dsimp only
        rw [Scan.run_bind, Scan.run_findAll]
        exact ⟨rfl, rfl⟩
    | described text => exact ⟨rfl, rfl⟩
    | unmodeled => exact ⟨rfl, rfl⟩

/-- The listing of an instruction tells how it was carried out: text for text and failure for
failure. -/
def Shows (site : Site) (carried : Carried) : Except ScriptFailure (Option String) → Prop
  | .error error => carried.flow = .error error ∧ carried.detail = ""
  | .ok none =>
    carried.flow = .ok (.stop (.unmodeled site.opcode site.offset)) ∧ carried.detail = ""
  | .ok (some text) => carried.flow = .ok .goOn ∧ carried.detail = text

/-- An instruction without a command of its own is carried out as it is listed. -/
theorem shows_of_not_own (hop : site.opcode ∉ Command.ownOpcodes) (settle : Settle) {d : Cursor}
    (hpos : d.pos = c.pos) :
    (site.list.run stage.bytes d).2.pos = (site.carryOut stage settle scene c).stop ∧
      site.Shows (site.carryOut stage settle scene c) (site.list.run stage.bytes d).1 := by
  obtain ⟨hresult, hstop⟩ := run_list_of_plain (not_mem_animationOpcodes hop) stage.bytes d
  obtain ⟨hsame, hsamePos⟩ := (Scan.Regular.decode site).run_congr hpos
  rw [hresult, hstop, hsame, hsamePos]
  unfold carryOut
  rw [Command.read_of_not_own hop, Command.readNote, Scan.run_bind]
  rcases site.decode.run stage.bytes c with ⟨error | decoded, e⟩
  · exact ⟨rfl, rfl, rfl⟩
  · dsimp only [Except.map]
    cases decoded.text? with
    | none => exact ⟨rfl, rfl, rfl⟩
    | some text => exact ⟨rfl, rfl, rfl⟩

/-- So is one that only animates the actor. -/
theorem shows_of_animate (hop : site.opcode = 0x03 ∨ site.opcode = 0x3b) (settle : Settle)
    {d : Cursor} (hpos : d.pos = c.pos) :
    (site.list.run stage.bytes d).2.pos = (site.carryOut stage settle scene c).stop ∧
      site.Shows (site.carryOut stage settle scene c) (site.list.run stage.bytes d).1 := by
  have hanim : Scan.animation.Regular stage.bytes Scan.Any := .animation
  obtain ⟨hsame, hsamePos⟩ := hanim.run_congr hpos
  unfold carryOut
  rw [list_of_animate hop, Command.read_animate hop, Command.readAnimate, Scan.run_bind,
    Scan.run_forScript, Scan.run_forScript, Scan.run_bind]
  rcases hlisted : Scan.animation.run stage.bytes d with ⟨result, e'⟩
  rcases hcarried : Scan.animation.run stage.bytes c with ⟨error | anim, e⟩
  · rw [hlisted, hcarried] at hsame hsamePos
    subst hsame
    exact ⟨hsamePos, rfl, rfl⟩
  · rw [hlisted, hcarried] at hsame hsamePos
    subst hsame
    exact ⟨hsamePos, rfl, rfl⟩

theorem Shows.eq_ok {carried : Carried} {result : Except ScriptFailure (Option String)}
    (h : site.Shows carried result) {verdict : Verdict} (hflow : carried.flow = .ok verdict) :
    ∃ text?, result = .ok text? ∧
      (text? = none ↔ verdict = .stop (.unmodeled site.opcode site.offset)) := by
  rcases result with error | text?
  · cases hflow.symm.trans h.1
  · refine ⟨text?, rfl, ?_⟩
    cases text? with
    | none =>
        cases hflow.symm.trans h.1
        simp
    | some text =>
        cases hflow.symm.trans h.1
        simp

/-- Behind an instruction that a script gets past, its listing goes on at the same place. -/
theorem list_of_carryOut {settle : Settle} {d : Cursor} (hpos : d.pos = c.pos) {verdict : Verdict}
    (hflow : (site.carryOut stage settle scene c).flow = .ok verdict) :
    ∃ text?, (site.list.run stage.bytes d).1 = .ok text? ∧
      (site.list.run stage.bytes d).2.pos = (site.carryOut stage settle scene c).stop ∧
      (text? = none ↔ verdict = .stop (.unmodeled site.opcode site.offset)) := by
  by_cases hop : site.opcode ∈ Command.ownOpcodes
  · obtain ⟨command, c', hread, hstop, hverdict⟩ := carryOut_eq_ok hflow
    have hreads := Command.reads_of_read hread
    have hmodeled : command ≠ .unmodeled := by
      rintro rfl
      cases hreads with
      | unmodeled hother _ _ => exact hother hop
    obtain ⟨text, d', hlist, hd', -⟩ := hreads.lists hmodeled d hpos
    refine ⟨some text, by rw [hlist], by rw [hlist, hstop, hd'], ?_⟩
    constructor
    · intro hnone
      cases hnone
    · rintro rfl
      rcases Command.eq_of_apply_stop hverdict with ⟨-, hreason⟩ | ⟨-, hreason⟩ | ⟨hcommand, -⟩
      · cases hreason
      · cases hreason
      · exact absurd hcommand hmodeled
  · obtain ⟨hsame, hshows⟩ := shows_of_not_own hop settle hpos
    obtain ⟨text?, hresult, hnone⟩ := hshows.eq_ok hflow
    exact ⟨text?, hresult, hsame, hnone⟩

/-- Running and listing an instruction agree on where its operands end, from whatever cursors at one
position they start.  A script that gets past the operands has them listed up to the same place, and
listed as not modeled exactly if it stops because of that.  An instruction that has no command of
its own, or only animates the actor, is shown as it is carried out. -/
theorem carryOut_agrees_list (stage : Stage) (settle : Settle) (scene : Scene) (opcode : UInt8)
    (offset : Nat) {c d : Cursor} (hpos : d.pos = c.pos) :
    let site := Site.at opcode offset
    let carried := site.carryOut stage settle scene c
    let listed := site.list.run stage.bytes d
    (Scan.u8.run stage.bytes ⟨offset, scene.world.reads, []⟩ = (.ok opcode, c) → opcode ≠ 0xff →
        step stage settle offset scene = carried.proceed offset opcode) ∧
      (∀ verdict, carried.flow = .ok verdict →
        ∃ text?, listed.1 = .ok text? ∧ listed.2.pos = carried.stop ∧
          (text? = none ↔ verdict = .stop (.unmodeled opcode offset))) ∧
      (opcode ∉ Command.ownOpcodes ∨ opcode = 0x03 ∨ opcode = 0x3b →
        listed.2.pos = carried.stop ∧ site.Shows carried listed.1) := by
  intro site carried listed
  refine ⟨fun hopcode hend => step_eq_carryOut hopcode hend settle, ?_, ?_⟩
  · intro verdict hflow
    exact list_of_carryOut hpos hflow
  · rintro (hop | hop)
    · exact shows_of_not_own hop settle hpos
    · exact shows_of_animate hop settle hpos

/-- The stage of a script that waits for a second. -/
def waitingStage : Stage :=
  ⟨#[0x40, 0x03, 0x00, 0x00, 0x80, 0x3f, 0xff], .standard, ["HALL"], 0, .empty, false⟩

/-- The delay as it is carried out for a fresh actor. -/
def waiting : Carried :=
  (Site.at 0x40 0).carryOut waitingStage (settle waitingStage 0)
    ⟨default, ⟨.zero, .zero, []⟩, #[]⟩ ⟨1, [⟨0, 1⟩], []⟩

/-- The delay is carried out and listed up to the end of the script, from cursors that have read
different bytes. -/
theorem carryOut_agrees_list_waiting :
    let listed := (Site.at 0x40 0).list.run waitingStage.bytes (.start 1)
    waiting.flow = .ok .pause ∧ waiting.stop = 6 ∧
      ∃ text?, listed.1 = .ok text? ∧ listed.2.pos = waiting.stop ∧
        (text? = none ↔ Verdict.pause = .stop (.unmodeled 0x40 0)) := by
  have hpause : waiting.flow.toOption = some .pause := by decide +kernel
  have hflow : waiting.flow = .ok .pause := by
    cases hresult : waiting.flow with
    | error error => simp [hresult, Except.toOption] at hpause
    | ok verdict => simpa [hresult, Except.toOption] using hpause
  have hpos : (Cursor.start 1).pos = (Cursor.mk 1 [⟨0, 1⟩] []).pos := rfl
  exact ⟨hflow, by decide +kernel,
    (carryOut_agrees_list waitingStage _ _ 0x40 0 hpos).2.1 .pause hflow⟩

end Site

end LevelScript
