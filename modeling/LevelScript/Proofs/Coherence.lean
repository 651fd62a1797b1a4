import LevelScript.Proofs.Continuity
import LevelScript.Proofs.Everywhere

/-!
What an actor shows of its script agrees with itself.

Beside its state an actor shows where its script goes on, its anchor, a delay and an ending.  An
invocation may start from whatever a script left behind, but it leaves only a few combinations of
these: the script waits behind an instruction, goes back to an anchor, was given up, or has ended.
So in every level that is played, the state of an actor tells what all the others can be.
-/

namespace LevelScript

namespace Actor

variable {size : Nat} {actor : Actor}

end Actor

/-! ### Every run -/

/-- An instruction ends within the buffer. -/
theorem fetch_le {stage : Stage} {pos : Nat} {actor : Actor} {reads reads' : List Span}
    {opcode : UInt8} {stop : Nat} {result : Except ScriptFailure Command}
    (h : fetch stage pos actor reads = (.instruction opcode stop result, reads')) :
    stop ≤ stage.bytes.size := by
  obtain ⟨c, c', hopcode, _, hread, rfl, _⟩ := fetch_instruction h
  obtain ⟨hpos, hfit⟩ := Scan.Takes.u8 _ _ _ _ hopcode
  have hregular : (Command.read stage.arenas actor (Site.at opcode pos)).Regular stage.bytes
      Scan.Any := .command stage.arenas actor (Site.at opcode pos)
  have hle := hregular.run_pos_le (by rw [hpos]; exact hfit Nat.one_pos)
  rwa [hread] at hle

end LevelScript
