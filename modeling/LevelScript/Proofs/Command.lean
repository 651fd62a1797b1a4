import LevelScript.Proofs.Scan
import LevelScript.Run

/-!
Commands, one by one.

Reading is inverted once: a command that was read came from one of the opcodes and from the scans
that `Reads` lists.  Carrying out is described field by field, for the fields that the control of
an actor depends on.
-/

namespace LevelScript

namespace Command

open Scan

/-- The opcodes that a command of their own stands for. -/
def ownOpcodes : List UInt8 :=
  [0x01, 0x03, 0x3b, 0x08, 0x09, 0x7d, 0x0b, 0x49, 0x10, 0x40, 0x41, 0x42, 0x4f, 0x74, 0x75, 0x56,
    0x71, 0xa1, 0xe6, 0x95, 0x96, 0x97, 0x98, 0x99, 0xfd]

/-- What the instruction at a site is read into from a cursor `c`, by its opcode. -/
inductive Reads (arenas : List String) (actor : Actor) (site : Site) (bytes : Bytes) (c : Cursor) :
    Command → Cursor → Prop
  | anchor : site.opcode = 0x01 → Reads arenas actor site bytes c .anchor c
  | animate {anim : Animation} {c' : Cursor} :
      site.opcode = 0x03 ∨ site.opcode = 0x3b → animation.run bytes c = (.ok anim, c') →
      Reads arenas actor site bytes c (.animate anim) c'
  | turn {yaw : Int16} {c' : Cursor} :
      site.opcode = 0x08 → i16.run bytes c = (.ok yaw, c') →
      Reads arenas actor site bytes c (.turn (yaw.toInt % 360).toNat) c'
  | clear : site.opcode = 0x09 ∨ site.opcode = 0x7d → Reads arenas actor site bytes c .clear c
  | minOrderRange {range : UInt8} {c' : Cursor} :
      site.opcode = 0x0b → u8.run bytes c = (.ok range, c') →
      Reads arenas actor site bytes c (.minOrderRange range) c'
  | maxOrderRange {range : UInt8} {c' : Cursor} :
      site.opcode = 0x49 → u8.run bytes c = (.ok range, c') →
      Reads arenas actor site bytes c (.maxOrderRange range) c'
  | health {points : UInt16} {c' : Cursor} :
      site.opcode = 0x10 → u16.run bytes c = (.ok points, c') →
      Reads arenas actor site bytes c (.health points) c'
  | delay {time : Quantity} {c' : Cursor} :
      site.opcode = 0x40 → quantity.run bytes c = (.ok time, c') →
      Reads arenas actor site bytes c (.delay time) c'
  | assign {target : Variable} {value : Single} {d c' : Cursor} :
      site.opcode = 0x41 → (variableTarget site.opcode).run bytes c = (.ok target, d) →
      single.run bytes d = (.ok value, c') →
      Reads arenas actor site bytes c (.assign target value) c'
  | increase {target : Variable} {value : Single} {d c' : Cursor} :
      site.opcode = 0x42 → (variableTarget site.opcode).run bytes c = (.ok target, d) →
      single.run bytes d = (.ok value, c') →
      Reads arenas actor site bytes c (.increase target value) c'
  | move {position : Point} {c' : Cursor} :
      site.opcode = 0x4f → point.run bytes c = (.ok position, c') →
      Reads arenas actor site bytes c (.move position) c'
  | raiseFlags {bits : UInt32} {c' : Cursor} :
      site.opcode = 0x74 → u32.run bytes c = (.ok bits, c') →
      Reads arenas actor site bytes c (.raiseFlags bits) c'
  | lowerFlags {bits : UInt32} {c' : Cursor} :
      site.opcode = 0x75 → u32.run bytes c = (.ok bits, c') →
      Reads arenas actor site bytes c (.lowerFlags bits) c'
  | spawn {kind : SpawnKind} {position : Point} {name : String} {init : UInt32} {d e c' : Cursor} :
      ((site.opcode = 0x56 ∨ site.opcode = 0x71) ∧ kind = .plain) ∨
        (site.opcode = 0xa1 ∧ kind = .pickup) →
      point.run bytes c = (.ok position, d) → countedText.run bytes d = (.ok name, e) →
      u32.run bytes e = (.ok init, c') →
      Reads arenas actor site bytes c (.spawn ⟨name, 0, kind, position, .zero, init⟩) c'
  | posedSpawn {position : Point} {angle : Single} {id : Int32} {name : String} {init : UInt32}
      {c₁ c₂ c₃ c₄ c' : Cursor} :
      site.opcode = 0xe6 → point.run bytes c = (.ok position, c₁) →
      single.run bytes c₁ = (.ok angle, c₂) → i32.run bytes c₂ = (.ok id, c₃) →
      countedText.run bytes c₃ = (.ok name, c₄) → u32.run bytes c₄ = (.ok init, c') →
      Reads arenas actor site bytes c (.spawn ⟨name, id, .plain, position, angle, init⟩) c'
  | doorSpawn {position : Point} {angle : Single} {id : Int32} {name arena : String}
      {init : UInt32} {target : Nat} {c₁ c₂ c₃ c₄ c₅ c' : Cursor} :
      site.opcode = 0x95 → point.run bytes c = (.ok position, c₁) →
      single.run bytes c₁ = (.ok angle, c₂) → i32.run bytes c₂ = (.ok id, c₃) →
      countedText.run bytes c₃ = (.ok name, c₄) → countedText.run bytes c₄ = (.ok arena, c₅) →
      u32.run bytes c₅ = (.ok init, c') → findArena arenas arena = .ok target →
      Reads arenas actor site bytes c (.spawn ⟨name, id, .door target, position, angle, init⟩) c'
  | doorAnimations {opening closing : Animation} {d c' : Cursor} :
      site.opcode = 0x96 → actor.door?.isSome → animation.run bytes c = (.ok opening, d) →
      animation.run bytes d = (.ok closing, c') →
      Reads arenas actor site bytes c (.doorAnimations ⟨opening, closing⟩) c'
  | doorSounds {opening closing opened closed : String} {c₁ c₂ c₃ c' : Cursor} :
      site.opcode = 0x97 → actor.door?.isSome → countedText.run bytes c = (.ok opening, c₁) →
      countedText.run bytes c₁ = (.ok closing, c₂) → countedText.run bytes c₂ = (.ok opened, c₃) →
      countedText.run bytes c₃ = (.ok closed, c') →
      Reads arenas actor site bytes c (.doorSounds ⟨opening, closing, opened, closed⟩) c'
  | doorFlags {bits : UInt32} {c' : Cursor} :
      site.opcode = 0x98 → actor.door?.isSome → u32.run bytes c = (.ok bits, c') →
      Reads arenas actor site bytes c (.doorFlags bits) c'
  | doorDistance {distance : Single} {c' : Cursor} :
      site.opcode = 0x99 → actor.door?.isSome → single.run bytes c = (.ok distance, c') →
      Reads arenas actor site bytes c (.doorDistance distance) c'
  | goBack : site.opcode = 0xfd → Reads arenas actor site bytes c .goBack c
  | note {decoded : Decoded} {detail : String} {c' : Cursor} :
      site.opcode ∉ ownOpcodes → site.decode.run bytes c = (.ok decoded, c') →
      decoded.text? = some detail → Reads arenas actor site bytes c (.note detail) c'
  | unmodeled {decoded : Decoded} {c' : Cursor} :
      site.opcode ∉ ownOpcodes → site.decode.run bytes c = (.ok decoded, c') →
      decoded.text? = none → Reads arenas actor site bytes c .unmodeled c'

private theorem opcode_eq {opcode value : UInt8} (h : opcode.toNat = value.toNat) :
    opcode = value :=
  UInt8.toNat_inj.mp h

/-- Inversion of reading. -/
theorem reads_of_read {arenas : List String} {actor : Actor} {site : Site} {bytes : Bytes}
    {c c' : Cursor} {command : Command}
    (h : (read arenas actor site).run bytes c = (.ok command, c')) :
    Reads arenas actor site bytes c command c' := by
  unfold read at h
  split at h
  case h_1 hop =>
    obtain ⟨rfl, rfl⟩ := run_pure_eq_ok.mp h
    exact .anchor (opcode_eq hop)
  case h_2 hop =>
    simp only [readAnimate, run_forScript_eq_ok, run_bind_eq_ok, run_pure_eq_ok] at h
    obtain ⟨anim, _, hanim, rfl, rfl⟩ := h
    exact .animate (.inl (opcode_eq hop)) hanim
  case h_3 hop =>
    simp only [readAnimate, run_forScript_eq_ok, run_bind_eq_ok, run_pure_eq_ok] at h
    obtain ⟨anim, _, hanim, rfl, rfl⟩ := h
    exact .animate (.inr (opcode_eq hop)) hanim
  case h_4 hop =>
    simp only [readTurn, run_forScript_eq_ok, run_bind_eq_ok, run_pure_eq_ok] at h
    obtain ⟨yaw, _, hyaw, rfl, rfl⟩ := h
    exact .turn (opcode_eq hop) hyaw
  case h_5 hop =>
    obtain ⟨rfl, rfl⟩ := run_pure_eq_ok.mp h
    exact .clear (.inl (opcode_eq hop))
  case h_6 hop =>
    obtain ⟨rfl, rfl⟩ := run_pure_eq_ok.mp h
    exact .clear (.inr (opcode_eq hop))
  case h_7 hop =>
    simp only [liftM_eq_forScript, run_bind_eq_ok, run_forScript_eq_ok, run_pure_eq_ok] at h
    obtain ⟨range, _, hrange, rfl, rfl⟩ := h
    exact .minOrderRange (opcode_eq hop) hrange
  case h_8 hop =>
    simp only [liftM_eq_forScript, run_bind_eq_ok, run_forScript_eq_ok, run_pure_eq_ok] at h
    obtain ⟨range, _, hrange, rfl, rfl⟩ := h
    exact .maxOrderRange (opcode_eq hop) hrange
  case h_9 hop =>
    simp only [liftM_eq_forScript, run_bind_eq_ok, run_forScript_eq_ok, run_pure_eq_ok] at h
    obtain ⟨points, _, hpoints, rfl, rfl⟩ := h
    exact .health (opcode_eq hop) hpoints
  case h_10 hop =>
    simp only [run_bind_eq_ok, run_pure_eq_ok] at h
    obtain ⟨time, _, htime, rfl, rfl⟩ := h
    exact .delay (opcode_eq hop) htime
  case h_11 hop =>
    simp only [readWrite, liftM_eq_forScript, run_bind_eq_ok, run_forScript_eq_ok,
      run_pure_eq_ok] at h
    obtain ⟨target, d, htarget, value, _, hvalue, rfl, rfl⟩ := h
    exact .assign (opcode_eq hop) htarget hvalue
  case h_12 hop =>
    simp only [readWrite, liftM_eq_forScript, run_bind_eq_ok, run_forScript_eq_ok,
      run_pure_eq_ok] at h
    obtain ⟨target, d, htarget, value, _, hvalue, rfl, rfl⟩ := h
    exact .increase (opcode_eq hop) htarget hvalue
  case h_13 hop =>
    simp only [liftM_eq_forScript, run_bind_eq_ok, run_forScript_eq_ok, run_pure_eq_ok] at h
    obtain ⟨position, _, hposition, rfl, rfl⟩ := h
    exact .move (opcode_eq hop) hposition
  case h_14 hop =>
    simp only [liftM_eq_forScript, run_bind_eq_ok, run_forScript_eq_ok, run_pure_eq_ok] at h
    obtain ⟨bits, _, hbits, rfl, rfl⟩ := h
    exact .raiseFlags (opcode_eq hop) hbits
  case h_15 hop =>
    simp only [liftM_eq_forScript, run_bind_eq_ok, run_forScript_eq_ok, run_pure_eq_ok] at h
    obtain ⟨bits, _, hbits, rfl, rfl⟩ := h
    exact .lowerFlags (opcode_eq hop) hbits
  case h_16 hop =>
    simp only [readSpawn, run_forScript_eq_ok, run_bind_eq_ok, run_pure_eq_ok] at h
    obtain ⟨position, d, hposition, name, e, hname, init, _, hinit, rfl, rfl⟩ := h
    exact .spawn (.inl ⟨.inl (opcode_eq hop), rfl⟩) hposition hname hinit
  case h_17 hop =>
    simp only [readSpawn, run_forScript_eq_ok, run_bind_eq_ok, run_pure_eq_ok] at h
    obtain ⟨position, d, hposition, name, e, hname, init, _, hinit, rfl, rfl⟩ := h
    exact .spawn (.inl ⟨.inr (opcode_eq hop), rfl⟩) hposition hname hinit
  case h_18 hop =>
    simp only [readSpawn, run_forScript_eq_ok, run_bind_eq_ok, run_pure_eq_ok] at h
    obtain ⟨position, d, hposition, name, e, hname, init, _, hinit, rfl, rfl⟩ := h
    exact .spawn (.inr ⟨opcode_eq hop, rfl⟩) hposition hname hinit
  case h_19 hop =>
    simp only [readPosedSpawn, run_forScript_eq_ok, run_bind_eq_ok, run_pure_eq_ok] at h
    obtain ⟨position, _, hposition, angle, _, hangle, id, _, hid, name, _, hname, init, _, hinit,
      rfl, rfl⟩ := h
    exact .posedSpawn (opcode_eq hop) hposition hangle hid hname hinit
  case h_20 hop =>
    simp only [readDoorSpawn, run_forScript_eq_ok, run_bind_eq_ok, run_pure_eq_ok,
      run_ofExcept_eq_ok] at h
    obtain ⟨position, _, hposition, angle, _, hangle, id, _, hid, name, _, hname, arena, _, harena,
      init, _, hinit, target, _, ⟨htarget, rfl⟩, rfl, rfl⟩ := h
    exact .doorSpawn (opcode_eq hop) hposition hangle hid hname harena hinit htarget
  case h_21 hop =>
    cases hdoor : actor.door? with
    | none => simp [hdoor] at h
    | some door =>
        simp only [hdoor, readDoor, hop, run_forScript_eq_ok, run_bind_eq_ok, run_pure_eq_ok] at h
        obtain ⟨opening, d, hopening, closing, _, hclosing, rfl, rfl⟩ := h
        exact .doorAnimations (opcode_eq hop) (by simp [hdoor]) hopening hclosing
  case h_22 hop =>
    cases hdoor : actor.door? with
    | none => simp [hdoor] at h
    | some door =>
        simp only [hdoor, readDoor, hop, run_forScript_eq_ok, run_bind_eq_ok, run_pure_eq_ok] at h
        obtain ⟨opening, _, hopening, closing, _, hclosing, opened, _, hopened, closed, _, hclosed,
          rfl, rfl⟩ := h
        exact .doorSounds (opcode_eq hop) (by simp [hdoor]) hopening hclosing hopened hclosed
  case h_23 hop =>
    cases hdoor : actor.door? with
    | none => simp [hdoor] at h
    | some door =>
        simp only [hdoor, readDoor, hop, run_forScript_eq_ok, run_bind_eq_ok, run_pure_eq_ok] at h
        obtain ⟨bits, _, hbits, rfl, rfl⟩ := h
        exact .doorFlags (opcode_eq hop) (by simp [hdoor]) hbits
  case h_24 hop =>
    cases hdoor : actor.door? with
    | none => simp [hdoor] at h
    | some door =>
        simp only [hdoor, readDoor, hop, run_forScript_eq_ok, run_bind_eq_ok, run_pure_eq_ok] at h
        obtain ⟨distance, _, hdistance, rfl, rfl⟩ := h
        exact .doorDistance (opcode_eq hop) (by simp [hdoor]) hdistance
  case h_25 hop =>
    obtain ⟨rfl, rfl⟩ := run_pure_eq_ok.mp h
    exact .goBack (opcode_eq hop)
  case h_26 =>
    have hother : site.opcode ∉ ownOpcodes := by
      intro hmem
      simp only [ownOpcodes, List.mem_cons, List.not_mem_nil, or_false] at hmem
      rcases hmem with hop | hop | hop | hop | hop | hop | hop | hop | hop | hop | hop | hop |
        hop | hop | hop | hop | hop | hop | hop | hop | hop | hop | hop | hop | hop <;>
        simp_all
    simp only [readNote, run_bind_eq_ok] at h
    obtain ⟨decoded, d, hdecoded, hcommand⟩ := h
    cases htext : decoded.text? with
    | some detail =>
        simp only [htext, run_pure_eq_ok] at hcommand
        obtain ⟨rfl, rfl⟩ := hcommand
        exact .note hother hdecoded htext
    | none =>
        simp only [htext, run_pure_eq_ok] at hcommand
        obtain ⟨rfl, rfl⟩ := hcommand
        exact .unmodeled hother hdecoded htext

theorem read_anchor {arenas : List String} {actor : Actor} {site : Site}
    (hop : site.opcode = 0x01) : read arenas actor site = pure .anchor := by
  unfold read
  rw [hop]
  rfl

theorem read_goBack {arenas : List String} {actor : Actor} {site : Site}
    (hop : site.opcode = 0xfd) : read arenas actor site = pure .goBack := by
  unfold read
  rw [hop]
  rfl

theorem read_animate {arenas : List String} {actor : Actor} {site : Site}
    (hop : site.opcode = 0x03 ∨ site.opcode = 0x3b) :
    read arenas actor site = forScript readAnimate := by
  unfold read
  rcases hop with hop | hop <;> rw [hop] <;> rfl

/-- All other instructions are read as notes. -/
theorem read_of_not_own {arenas : List String} {actor : Actor} {site : Site}
    (hop : site.opcode ∉ ownOpcodes) : read arenas actor site = readNote site := by
  have hnat : site.opcode.toNat ∉ ownOpcodes.map UInt8.toNat := by
    intro hmem
    obtain ⟨opcode, hown, heq⟩ := List.mem_map.mp hmem
    exact hop (opcode_eq heq ▸ hown)
  unfold read
  split
  case h_26 => rfl
  all_goals
    next htoNat =>
    rw [htoNat] at hnat
    exact absurd (by decide) hnat

theorem Reads.opcode_of_anchor {arenas : List String} {actor : Actor} {site : Site} {bytes : Bytes}
    {c c' : Cursor} (h : Reads arenas actor site bytes c .anchor c') : site.opcode = 0x01 := by
  cases h with
  | anchor hop => exact hop

theorem Reads.opcode_of_goBack {arenas : List String} {actor : Actor} {site : Site} {bytes : Bytes}
    {c c' : Cursor} (h : Reads arenas actor site bytes c .goBack c') : site.opcode = 0xfd := by
  cases h with
  | goBack hop => exact hop

theorem findArena_lt {arenas : List String} {name : String} {index : Nat}
    (h : findArena arenas name = .ok index) : index < arenas.length := by
  unfold findArena at h
  split at h
  · next found hfound =>
    cases h
    exact (List.findIdx?_eq_some_iff_getElem.mp hfound).1
  · cases h

/-- A door that is ordered leads to an arena that exists. -/
theorem Reads.door_target_lt {arenas : List String} {actor : Actor} {site : Site} {bytes : Bytes}
    {c c' : Cursor} {order : SpawnOrder} {target : Nat}
    (h : Reads arenas actor site bytes c (.spawn order) c') (hkind : order.kind = .door target) :
    target < arenas.length := by
  cases h with
  | spawn hop _ _ _ =>
      rcases hop with ⟨_, rfl⟩ | ⟨_, rfl⟩
      · cases hkind
      · cases hkind
  | posedSpawn => cases hkind
  | doorSpawn _ _ _ _ _ _ _ htarget =>
      cases hkind
      exact findArena_lt htarget

/-! ### Carrying out -/

/-- A delay that is not above zero is over at once. -/
theorem wait_of_le (scene : Scene) (next : Nat) (time : Quantity)
    (h : (scene.view.value time).le .zero) :
    (wait scene next time).scene = scene ∧ (wait scene next time).verdict = .ok .goOn := by
  simp [wait, h]

/-- Any other delay blocks the actor until it is resumed behind the instruction. -/
theorem wait_of_not_le (scene : Scene) (next : Nat) (time : Quantity)
    (h : ¬ (scene.view.value time).le .zero) :
    (wait scene next time).scene =
        { scene with actor :=
          { scene.actor with control := .blocked next (scene.view.value time) } } ∧
      (wait scene next time).verdict = .ok .pause := by
  simp [wait, h]

theorem changeDoor_spawned (scene : Scene) (update : Door → Door) (detail : Door → String) :
    (changeDoor scene update detail).scene.spawned = scene.spawned := by
  unfold changeDoor
  split <;> rfl

/-- In a rehearsal a spawn is only announced. -/
theorem carryOutSpawn_of_rehearsal {stage : Stage} (hrehearsal : stage.rehearsal = true)
    (settle : Settle) (scene : Scene) (order : SpawnOrder) :
    (carryOutSpawn stage settle scene order).scene = scene ∧
      (carryOutSpawn stage settle scene order).verdict = .ok .goOn := by
  simp [carryOutSpawn, hrehearsal]

/-- Otherwise the new actor is settled in and taken over, also if that ends in a fatal error. -/
theorem carryOutSpawn_of_not_rehearsal {stage : Stage} (hrehearsal : stage.rehearsal = false)
    (settle : Settle) (scene : Scene) (order : SpawnOrder) :
    (carryOutSpawn stage settle scene order).scene =
        scene.adopt (settle (order.actor stage) order.init scene.world).2 ∧
      (carryOutSpawn stage settle scene order).verdict =
        match (settle (order.actor stage) order.init scene.world).1 with
        | none => .ok .goOn
        | some fatal => .error fatal := by
  rcases hsettled : settle (order.actor stage) order.init scene.world with ⟨_ | fatal, child⟩ <;>
    simp [carryOutSpawn, hrehearsal, hsettled]

/-- Only a spawn brings new actors. -/
theorem apply_spawned_eq (stage : Stage) (settle : Settle) (site : Site) (next : Nat)
    (scene : Scene) {command : Command} (h : ∀ order, command ≠ .spawn order) :
    (command.apply stage settle site next scene).scene.spawned = scene.spawned := by
  cases command with
  | spawn order => exact absurd rfl (h order)
  | delay time =>
      rw [apply]
      by_cases hover : (scene.view.value time).le .zero
      · rw [(wait_of_le scene next time hover).1]
      · rw [(wait_of_not_le scene next time hover).1]
  | doorAnimations animations => exact changeDoor_spawned scene _ _
  | doorSounds sounds => exact changeDoor_spawned scene _ _
  | doorFlags bits => exact changeDoor_spawned scene _ _
  | doorDistance distance => exact changeDoor_spawned scene _ _
  | goBack =>
      simp only [apply, carryOutGoBack]
      split <;> rfl
  | _ => rfl

end Command

end LevelScript
