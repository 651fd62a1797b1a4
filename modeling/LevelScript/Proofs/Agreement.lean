import LevelScript.Proofs.Command
import LevelScript.Proofs.Decoding

/-!
Running and listing agree.

An instruction that is carried out is read into a command, operand by operand as the command needs
them; an instruction that is listed is read as the table of the instruction set lays its operands
out.  Wherever a script goes on behind a command, the listing goes on at the same place, and it has
come across the actor that the command spawns and the animations that it names.
-/

namespace LevelScript

theorem run_u32_wordAt? {bytes : Bytes} {c c' : Cursor} {word : UInt32}
    (h : Scan.u32.run bytes c = (.ok word, c')) :
    wordAt? (bytes.extract c.pos (c.pos + 4)) 0 = some word := by
  simp only [Scan.u32, Scan.unsigned, Scan.run_bind_eq_ok, Scan.run_pure_eq_ok,
    Scan.run_slice_eq_ok] at h
  obtain ⟨_, _, ⟨_, _, ⟨hfit, rfl, rfl⟩, rfl, rfl⟩, rfl, rfl⟩ := h
  have hsize : (bytes.extract c.pos (c.pos + 4)).size = 4 := by
    simp
    omega
  unfold wordAt?
  rw [if_pos (by omega), Array.extract_extract]
  simp

/-! ### Listed instructions -/

/-- From every cursor at `p` the operands of an instruction can be listed, up to `q`, and what they
refer to is found. -/
def Site.Lists (bytes : Bytes) (site : Site) (p q : Nat) (references : List Reference) : Prop :=
  ∀ c : Cursor, c.pos = p → ∃ text c', site.list.run bytes c = (.ok (some text), c') ∧
    c'.pos = q ∧ ∀ reference ∈ references, reference ∈ c'.finds

theorem Scan.run_findAll (references : List Reference) (bytes : Bytes) (c : Cursor) :
    (Scan.findAll references : Scan ScriptFailure Unit).run bytes c =
      (.ok (), { c with finds := c.finds ++ references }) := by
  induction references generalizing c with
  | nil => simp [Scan.findAll, Scan.run_pure]
  | cons reference references ih =>
      rw [Scan.findAll, Scan.run_bind]
      have hfind : (Scan.find reference : Scan ScriptFailure Unit).run bytes c =
          (.ok (), { c with finds := c.finds ++ [reference] }) := rfl
      rw [hfind]
      dsimp only
      rw [ih]
      simp [List.append_assoc]

namespace Site

variable {site : Site} {bytes : Bytes} {p q : Nat}

/-- The opcodes whose operands are listed as animations. -/
def animationOpcodes : List UInt8 :=
  [0x03, 0x3b, 0x96]

theorem not_mem_animationOpcodes (hop : site.opcode ∉ Command.ownOpcodes) :
    site.opcode ∉ animationOpcodes := by
  have hsub : ∀ opcode ∈ animationOpcodes, opcode ∈ Command.ownOpcodes := by decide +kernel
  exact mt (hsub _) hop

theorem list_eq_decode (hplain : site.opcode ∉ animationOpcodes) :
    site.list = (do
      let decoded ← site.decode
      match decoded with
      | .operands values => Scan.findAll (operandReferences site values)
      | _ => pure ()
      return decoded.text?) := by
  simp only [animationOpcodes, List.mem_cons, List.not_mem_nil, or_false, not_or] at hplain
  obtain ⟨h03, h3b, h96⟩ := hplain
  unfold list
  split
  · next hop => exact absurd (UInt8.toNat_inj.mp hop) h03
  · next hop => exact absurd (UInt8.toNat_inj.mp hop) h3b
  · next hop => exact absurd (UInt8.toNat_inj.mp hop) h96
  · rfl

theorem lists_of_decode (hplain : site.opcode ∉ animationOpcodes) {decoded : Decoded}
    {text : String} (h : site.decode.Gives bytes p decoded q) (htext : decoded.text? = some text)
    {references : List Reference}
    (hreferences : ∀ reference ∈ references, ∃ values, decoded = .operands values ∧
      reference ∈ operandReferences site values) : site.Lists bytes p q references := by
  intro c hc
  obtain ⟨d, hd, hdpos⟩ := h c hc
  rw [list_eq_decode hplain]
  cases decoded with
  | operands values =>
      refine ⟨text, { d with finds := d.finds ++ operandReferences site values }, ?_, hdpos, ?_⟩
      · rw [Scan.run_bind, hd]
        dsimp only
        rw [Scan.run_bind, Scan.run_findAll]
        dsimp only
        rw [htext]
        rfl
      · intro reference hreference
        obtain ⟨values', hvalues, hmem⟩ := hreferences reference hreference
        cases hvalues
        exact List.mem_append_right _ hmem
  | described described =>
      refine ⟨text, d, ?_, hdpos, ?_⟩
      · rw [Scan.run_bind, hd, ← htext]
        rfl
      · intro reference hreference
        obtain ⟨_, hvalues, _⟩ := hreferences reference hreference
        cases hvalues
  | unmodeled => cases htext

/-- An instruction whose operands are so many bytes. -/
theorem lists_of_skip {opcode : UInt8} (hop : site.opcode = opcode) (width : UInt8)
    (htable : opcode ∉ animationOpcodes ∧ (Opcode.ofByte opcode).shape = .skip width)
    (h : q = p + width.toNat ∧ (0 < width.toNat → p + width.toNat ≤ bytes.size)) :
    site.Lists bytes p q [] := by
  subst hop
  obtain ⟨hplain, hshape⟩ := htable
  obtain ⟨rfl, hfit⟩ := h
  have hread : ∃ values, (Shape.skip width).read.Gives bytes p (some values) (p + width.toNat) := by
    unfold Shape.read
    by_cases hzero : width = 0
    · subst hzero
      exact ⟨[], by simpa using Scan.Gives.pure _ p⟩
    · have hpos : 0 < width.toNat := by
        rcases Nat.eq_zero_or_pos width.toNat with hz | hpos
        · exact absurd (UInt8.toNat_inj.mp hz) hzero
        · exact hpos
      simp only [hzero, ↓reduceIte]
      exact ⟨_, (Scan.Gives.slice (hfit hpos)).bind (.pure _ _)⟩
  obtain ⟨values, hvalues⟩ := hread
  have hdecode : site.decode.Gives bytes p (.operands values) (p + width.toNat) := by
    unfold decode
    rw [hshape]
    exact hvalues.forScript.bind (.pure _ _)
  exact lists_of_decode hplain hdecode rfl fun _ h => absurd h List.not_mem_nil

/-- An instruction whose operands stand in a row. -/
theorem lists_of_sequence {opcode : UInt8} (hop : site.opcode = opcode) (kinds : List OperandKind)
    {values : List Operand}
    (htable : opcode ∉ animationOpcodes ∧ (Opcode.ofByte opcode).shape = .sequence kinds)
    (h : (OperandKind.readAll kinds).Gives bytes p values q) {references : List Reference}
    (hreferences : ∀ reference ∈ references, reference ∈ operandReferences site values) :
    site.Lists bytes p q references := by
  subst hop
  obtain ⟨hplain, hshape⟩ := htable
  have hread : (Shape.sequence kinds).read.Gives bytes p (some values) q := h.bind (.pure _ _)
  have hdecode : site.decode.Gives bytes p (.operands values) q := by
    unfold decode
    rw [hshape]
    exact hread.forScript.bind (.pure _ _)
  refine lists_of_decode hplain hdecode rfl ?_
  exact fun reference hreference => ⟨values, rfl, hreferences reference hreference⟩

theorem list_of_animate (hop : site.opcode = 0x03 ∨ site.opcode = 0x3b) :
    site.list = (do
      let anim ← Scan.forScript Scan.animation
      Scan.find (.animation anim)
      return some s!" {anim.plain}") := by
  unfold list
  rcases hop with hop | hop <;> rw [hop] <;> rfl

theorem lists_animation (hop : site.opcode = 0x03 ∨ site.opcode = 0x3b) {anim : Animation}
    (h : Scan.animation.Gives bytes p anim q) : site.Lists bytes p q [.animation anim] := by
  intro c hc
  obtain ⟨d, hd, hdpos⟩ := h.forScript c hc
  refine ⟨s!" {anim.plain}", { d with finds := d.finds ++ [.animation anim] }, ?_, hdpos, by simp⟩
  rw [list_of_animate hop, Scan.run_bind, hd]
  rfl

theorem lists_doorAnimations (hop : site.opcode = 0x96) {opening closing : Animation} {r : Nat}
    (hopening : Scan.animation.Gives bytes p opening r)
    (hclosing : Scan.animation.Gives bytes r closing q) :
    site.Lists bytes p q [.animation opening, .animation closing] := by
  have hlist : site.list = (do
      let opening ← Scan.forScript Scan.animation
      let closing ← Scan.forScript Scan.animation
      Scan.find (.animation opening)
      Scan.find (.animation closing)
      return some s!" open: {opening.plain}, close: {closing.plain}") := by
    unfold list
    rw [hop]
    rfl
  intro c hc
  obtain ⟨d, hd, hdpos⟩ := hopening.forScript c hc
  obtain ⟨e, he, hepos⟩ := hclosing.forScript d hdpos
  refine ⟨s!" open: {opening.plain}, close: {closing.plain}",
    { e with finds := (e.finds ++ [.animation opening]) ++ [.animation closing] }, ?_, hepos, ?_⟩
  · rw [hlist, Scan.run_bind, hd]
    dsimp only
    rw [Scan.run_bind, he]
    rfl
  · simp

end Site

/-! ### Commands -/

namespace Command

open Scan

/-- What an instruction refers to that is carried out as a command. -/
def references (reason : String) : Command → List Reference
  | spawn order => [.script order.name order.init reason]
  | animate anim => [.animation anim]
  | doorAnimations animations => animations.toList.map .animation
  | _ => []

theorem run_scope {bytes : Bytes} {c d : Cursor} {known : Scope}
    (h : scope.run bytes c = (.ok known, d)) :
    ∃ tag, u8.run bytes c = (.ok tag, d) ∧ (known = .immediate ↔ tag = 3) := by
  simp only [scope, run_bind_eq_ok, liftM_eq_forScript, run_forScript_eq_ok] at h
  obtain ⟨tag, e, htag, hknown⟩ := h
  have hscope : Scope.ofTag? tag = some known ∧ e = d := by
    split at hknown
    · simp at hknown
    · simp at hknown
    · simp at hknown
    · next heq =>
      obtain ⟨rfl, rfl⟩ := run_pure_eq_ok.mp hknown
      exact ⟨heq, rfl⟩
  obtain ⟨hscope, rfl⟩ := hscope
  refine ⟨tag, htag, ?_, ?_⟩
  · rintro rfl
    unfold Scope.ofTag? at hscope
    split at hscope
    case h_4 hthree => exact UInt8.toNat_inj.mp hthree
    all_goals cases hscope
  · rintro rfl
    exact (Option.some.inj hscope).symm

theorem gives_readAll_nil (bytes : Bytes) (p : Nat) :
    (OperandKind.readAll []).Gives bytes p [] p :=
  .pure [] p

theorem gives_readAll_cons {bytes : Bytes} {kind : OperandKind} {kinds : List OperandKind}
    {value : Operand} {values : List Operand} {p q r : Nat} (h : kind.read.Gives bytes p value q)
    (hrest : (OperandKind.readAll kinds).Gives bytes q values r) :
    (OperandKind.readAll (kind :: kinds)).Gives bytes p (value :: values) r :=
  h.bind (hrest.bind (.pure _ _))

theorem gives_text {bytes : Bytes} {c c' : Cursor} {s : String}
    (h : countedText.run bytes c = (.ok s, c')) :
    OperandKind.text.read.Gives bytes c.pos (.text s) c'.pos :=
  (Gives.of_run .countedText h).bind (.pure _ _)

theorem gives_bytes {bytes : Bytes} {p q : Nat} (count : UInt8)
    (h : q = p + count.toNat ∧ (0 < count.toNat → p + count.toNat ≤ bytes.size))
    (hcount : 0 < count.toNat) :
    (OperandKind.bytes count).read.Gives bytes p (.bytes (bytes.extract p (p + count.toNat)))
      q := by
  rw [h.1]
  exact (Gives.slice (h.2 hcount)).bind (.pure _ _)

/-- A number operand that scripts can use is laid out as the table says. -/
theorem gives_quantity {bytes : Bytes} {c c' : Cursor} {time : Quantity}
    (h : quantity.run bytes c = (.ok time, c')) :
    ∃ operand, OperandKind.quantity.read.Gives bytes c.pos operand c'.pos := by
  simp only [quantity, run_bind_eq_ok, liftM_eq_forScript] at h
  obtain ⟨known, d, hknown, hrest⟩ := h
  obtain ⟨tag, htag, himmediate⟩ := run_scope hknown
  have htagGives := Gives.of_run .u8 htag
  by_cases hthree : tag = 3
  · rw [if_pos (himmediate.mpr hthree)] at hrest
    simp only [run_bind_eq_ok, run_forScript_eq_ok, run_pure_eq_ok] at hrest
    obtain ⟨x, e, hx, _, rfl⟩ := hrest
    obtain ⟨hpos, hfit⟩ := Takes.single bytes d e x hx
    obtain ⟨raw, hraw⟩ := Gives.rawSingle (hfit (by decide))
    rw [hpos]
    refine ⟨.immediate raw, htagGives.bind ?_⟩
    rw [if_pos hthree]
    exact hraw.bind (.pure _ _)
  · rw [if_neg (mt himmediate.mp hthree)] at hrest
    simp only [run_bind_eq_ok, run_pure_eq_ok] at hrest
    obtain ⟨v, e, hv, _, rfl⟩ := hrest
    obtain ⟨hpos, hfit⟩ := Takes.variableOf known bytes d e v hv
    obtain ⟨index, hindex⟩ := Gives.u8 (hfit (by decide))
    rw [hpos]
    refine ⟨.slot tag index, htagGives.bind ?_⟩
    rw [if_neg hthree]
    exact hindex.bind (.pure _ _)

theorem spawnReference_mem {site : Site} (hop : spawnOpcodes.contains site.opcode = true)
    {operands : List Operand} {name : String} {init : UInt32}
    (hname : firstText? operands = some name) (hinit : lastWord? operands = some init) :
    ∀ reference ∈ [Reference.script name init site.name],
      reference ∈ operandReferences site operands := by
  intro reference hreference
  rw [List.mem_singleton.mp hreference]
  have hspawn : spawnReference? site operands = some (.script name init site.name) := by
    rw [spawnReference?, if_pos hop, hname, hinit]
  simp [operandReferences, hspawn]

theorem Reads.lists {arenas : List String} {actor : Actor} {site : Site} {bytes : Bytes}
    {c c' : Cursor} {command : Command} (h : Reads arenas actor site bytes c command c')
    (hmodeled : command ≠ .unmodeled) :
    site.Lists bytes c.pos c'.pos (command.references site.name) := by
  cases h with
  | anchor hop => exact Site.lists_of_skip hop 0 (by decide +kernel) ⟨rfl, nofun⟩
  | animate hop hanim => exact Site.lists_animation hop (.of_run .animation hanim)
  | turn hop hyaw => exact Site.lists_of_skip hop 2 (by decide +kernel) (Takes.i16 _ _ _ _ hyaw)
  | clear hop =>
      rcases hop with hop | hop
      · exact Site.lists_of_skip hop 0 (by decide +kernel) ⟨rfl, nofun⟩
      · exact Site.lists_of_skip hop 0 (by decide +kernel) ⟨rfl, nofun⟩
  | minOrderRange hop hrange =>
      exact Site.lists_of_skip hop 1 (by decide +kernel) (Takes.u8 _ _ _ _ hrange)
  | maxOrderRange hop hrange =>
      exact Site.lists_of_skip hop 1 (by decide +kernel) (Takes.u8 _ _ _ _ hrange)
  | health hop hpoints =>
      exact Site.lists_of_skip hop 2 (by decide +kernel) (Takes.u16 _ _ _ _ hpoints)
  | delay hop htime =>
      obtain ⟨operand, hoperand⟩ := gives_quantity htime
      exact Site.lists_of_sequence hop _ (by decide +kernel)
        (gives_readAll_cons hoperand (gives_readAll_nil bytes _))
        fun _ h => absurd h List.not_mem_nil
  | assign hop htarget hvalue =>
      have htakes : (do let _ ← variableTarget site.opcode; forScript single).Takes 6 :=
        (Takes.variableTarget _).bind fun _ => Takes.single.forScript
      exact Site.lists_of_skip hop 6 (by decide +kernel) (htakes _ _ _ _
        (run_bind_eq_ok.mpr ⟨_, _, htarget, run_forScript_eq_ok.mpr hvalue⟩))
  | increase hop htarget hvalue =>
      have htakes : (do let _ ← variableTarget site.opcode; forScript single).Takes 6 :=
        (Takes.variableTarget _).bind fun _ => Takes.single.forScript
      exact Site.lists_of_skip hop 6 (by decide +kernel) (htakes _ _ _ _
        (run_bind_eq_ok.mpr ⟨_, _, htarget, run_forScript_eq_ok.mpr hvalue⟩))
  | move hop hposition =>
      exact Site.lists_of_skip hop 12 (by decide +kernel) (Takes.point _ _ _ _ hposition)
  | raiseFlags hop hbits =>
      exact Site.lists_of_skip hop 4 (by decide +kernel) (Takes.u32 _ _ _ _ hbits)
  | lowerFlags hop hbits =>
      exact Site.lists_of_skip hop 4 (by decide +kernel) (Takes.u32 _ _ _ _ hbits)
  | @spawn kind position name init d e c' hop hposition hname hinit =>
      have hread := gives_readAll_cons
        (gives_bytes 12 (Takes.point _ _ _ _ hposition) (by decide)) <|
        gives_readAll_cons (gives_text hname) <|
        gives_readAll_cons (gives_bytes 4 (Takes.u32 _ _ _ _ hinit) (by decide)) <|
        gives_readAll_nil bytes c'.pos
      have hspawn : ∀ (opcode : UInt8), site.opcode = opcode → opcode ∉ Site.animationOpcodes ∧
          (Opcode.ofByte opcode).shape = .sequence [.bytes 12, .text, .bytes 4] →
          spawnOpcodes.contains opcode = true →
          site.Lists bytes c.pos c'.pos [.script name init site.name] := by
        intro opcode hopcode htable hspawns
        exact Site.lists_of_sequence hopcode _ htable hread
          (spawnReference_mem (hopcode ▸ hspawns) rfl (run_u32_wordAt? hinit))
      rcases hop with ⟨hop | hop, _⟩ | ⟨hop, _⟩
      · exact hspawn _ hop (by decide +kernel) (by decide)
      · exact hspawn _ hop (by decide +kernel) (by decide)
      · exact hspawn _ hop (by decide +kernel) (by decide)
  | @posedSpawn position angle id name init c₁ c₂ c₃ c₄ c' hop hposition hangle hid hname hinit =>
      have hhead : c₃.pos = c.pos + 20 ∧ (0 < 20 → c.pos + 20 ≤ bytes.size) := by
        have hpoint := Takes.point _ _ _ _ hposition
        have hsingle := Takes.single _ _ _ _ hangle
        have hint := Takes.i32 _ _ _ _ hid
        omega
      have hread := gives_readAll_cons (gives_bytes 20 hhead (by decide)) <|
        gives_readAll_cons (gives_text hname) <|
        gives_readAll_cons (gives_bytes 4 (Takes.u32 _ _ _ _ hinit) (by decide)) <|
        gives_readAll_nil bytes c'.pos
      exact Site.lists_of_sequence hop _ (by decide +kernel) hread
        (spawnReference_mem (by rw [hop]; decide) rfl (run_u32_wordAt? hinit))
  | @doorSpawn position angle id name arena init target c₁ c₂ c₃ c₄ c₅ c' hop hposition hangle hid
      hname harena hinit _ =>
      have hhead : c₃.pos = c.pos + 20 ∧ (0 < 20 → c.pos + 20 ≤ bytes.size) := by
        have hpoint := Takes.point _ _ _ _ hposition
        have hsingle := Takes.single _ _ _ _ hangle
        have hint := Takes.i32 _ _ _ _ hid
        omega
      have hread := gives_readAll_cons (gives_bytes 20 hhead (by decide)) <|
        gives_readAll_cons (gives_text hname) <| gives_readAll_cons (gives_text harena) <|
        gives_readAll_cons (gives_bytes 4 (Takes.u32 _ _ _ _ hinit) (by decide)) <|
        gives_readAll_nil bytes c'.pos
      exact Site.lists_of_sequence hop _ (by decide +kernel) hread
        (spawnReference_mem (by rw [hop]; decide) rfl (run_u32_wordAt? hinit))
  | doorAnimations hop _ hopening hclosing =>
      exact Site.lists_doorAnimations hop (.of_run .animation hopening)
        (.of_run .animation hclosing)
  | @doorSounds _ _ _ _ _ _ _ c' hop _ hopening hclosing hopened hclosed =>
      have hread := gives_readAll_cons (gives_text hopening) <|
        gives_readAll_cons (gives_text hclosing) <| gives_readAll_cons (gives_text hopened) <|
        gives_readAll_cons (gives_text hclosed) <|
        gives_readAll_nil bytes c'.pos
      exact Site.lists_of_sequence hop _ (by decide +kernel) hread
        fun _ h => absurd h List.not_mem_nil
  | doorFlags hop _ hbits =>
      exact Site.lists_of_skip hop 4 (by decide +kernel) (Takes.u32 _ _ _ _ hbits)
  | doorDistance hop _ hdistance =>
      exact Site.lists_of_skip hop 4 (by decide +kernel) (Takes.single _ _ _ _ hdistance)
  | goBack hop => exact Site.lists_of_skip hop 0 (by decide +kernel) ⟨rfl, nofun⟩
  | note hop hdecoded htext =>
      exact Site.lists_of_decode (Site.not_mem_animationOpcodes hop)
        (.of_run (.decode site) hdecoded) htext fun _ h => absurd h List.not_mem_nil
  | unmodeled => exact absurd rfl hmodeled

end Command

end LevelScript
