import LevelScript.Container
import LevelScript.Proofs.Scan
import Mathlib.Data.List.Basic

/-!
Containers that are cut off or gone on with.

While a container is read, the size of the buffer matters in one place only: where a read reaches
past the end and fails.  So a scan that does not run out of bytes is not concerned with what follows
the buffer, and a container that is read does not change by what stands behind it.
-/

namespace LevelScript

/-- A result that says that the buffer was too short. -/
def RunsOut {α : Type} (result : Except DataError α) : Prop :=
  ∃ offset len size, result = .error (.outOfBounds offset len size)

namespace Scan

variable {α β : Type}

/-- A scan that, unless it runs out of bytes, goes the same way in every longer buffer. -/
def Stable (scan : Scan DataError α) : Prop :=
  ∀ (bytes suffix : Bytes) (c : Cursor), ¬ RunsOut (scan.run bytes c).1 →
    scan.run (bytes ++ suffix) c = scan.run bytes c

namespace Stable

theorem pure (a : α) : (Pure.pure a : Scan DataError α).Stable :=
  fun _ _ _ _ => rfl

theorem fail (e : DataError) : (Scan.fail e : Scan DataError α).Stable :=
  fun _ _ _ _ => rfl

theorem pos : (Scan.pos : Scan DataError Nat).Stable :=
  fun _ _ _ _ => rfl

/-- Where the two together do not run out of bytes, neither does. -/
theorem bind {x : Scan DataError α} {f : α → Scan DataError β} (hx : x.Stable)
    (hf : ∀ a, (f a).Stable) : (x >>= f).Stable := by
  intro bytes suffix c h
  rw [run_bind] at h
  rw [run_bind, run_bind]
  rcases hrun : x.run bytes c with ⟨e | a, d⟩
  · rw [hrun] at h
    have hfirst : ¬ RunsOut (x.run bytes c).1 := by
      rw [hrun]
      rintro ⟨offset, len, size, he⟩
      exact h ⟨offset, len, size, by rw [Except.error.inj he]⟩
    rw [hx bytes suffix c hfirst, hrun]
  · rw [hrun] at h
    have hfirst : ¬ RunsOut (x.run bytes c).1 := by
      rw [hrun]
      rintro ⟨offset, len, size, ha⟩
      cases ha
    rw [hx bytes suffix c hfirst, hrun]
    exact hf a bytes suffix d h

theorem ite {p : Prop} [Decidable p] {x y : Scan DataError α} (hx : x.Stable) (hy : y.Stable) :
    (if p then x else y).Stable := by
  by_cases hp : p
  · simpa [hp] using hx
  · simpa [hp] using hy

theorem visit (target : Nat) {x : Scan DataError α} (hx : x.Stable) : (x.visit target).Stable := by
  intro bytes suffix c h
  rw [run_visit, run_visit, hx bytes suffix { c with pos := target } h]

theorem times {x : Scan DataError α} (hx : x.Stable) (count : Nat) : (x.times count).Stable := by
  induction count with
  | zero => exact pure []
  | succ count ih => exact bind hx fun _ => bind ih fun _ => pure _

/-- What is read lies in the shorter buffer, so a longer one has the same bytes there. -/
theorem slice (count : Nat) : (Scan.slice count).Stable := by
  intro bytes suffix c h
  by_cases hfit : c.pos + count ≤ bytes.size
  · have hfit' : c.pos + count ≤ (bytes ++ suffix).size := by
      rw [Array.size_append]
      omega
    have hsame : (bytes ++ suffix).extract c.pos (c.pos + count) =
        bytes.extract c.pos (c.pos + count) := by
      rw [Array.extract_append, Nat.sub_eq_zero_of_le hfit]
      simp
    simp only [run, Scan.slice, if_pos hfit, if_pos hfit', hsame]
  · refine absurd ⟨c.pos, count, bytes.size, ?_⟩ h
    simp only [run, Scan.slice, if_neg hfit]

theorem u8 : Scan.u8.Stable :=
  bind (bind (slice 1) fun _ => pure _) fun _ => pure _

theorem u32 : Scan.u32.Stable :=
  bind (bind (slice 4) fun _ => pure _) fun _ => pure _

/-- A text is refused for its length before its bytes are asked for, and for what they are only
after that. -/
theorem text (count : Nat) : (Scan.text count).Stable := by
  refine bind pos fun offset => ite (fail _) (bind (slice count) fun field => ?_)
  cases paddedText? field.toList with
  | none => exact fail _
  | some s => exact pure s

theorem countedText : Scan.countedText.Stable :=
  bind u8 fun _ => text _

end Stable

end Scan

namespace Container

open Scan

theorem stable_readEntry : readEntry.Stable :=
  .bind .countedText fun _ => .bind .u32 fun _ => .pure _

theorem stable_readTable : readTable.Stable :=
  .bind .u32 fun _ => .times stable_readEntry _

theorem stable_readArena (entry : OffsetEntry) : (readArena entry).Stable :=
  .visit _ <| .bind .countedText fun _ => .bind .countedText fun _ => .bind .u32 fun _ => .pure _

theorem stable_readArenas (entries : List OffsetEntry) : (readArenas entries).Stable := by
  induction entries with
  | nil => exact .pure []
  | cons entry entries ih => exact .bind (stable_readArena entry) fun _ => .bind ih fun _ => .pure _

theorem stable_read : read.Stable :=
  .bind (.text 12) fun _ => .bind .u32 fun _ => .bind stable_readTable fun _ =>
    .bind stable_readTable fun _ => .bind stable_readTable fun _ => .bind stable_readTable fun _ =>
      .bind (stable_readArenas _) fun _ => .pure _

theorem parse_append {bytes : Bytes} (h : ¬ RunsOut (parse bytes)) (suffix : Bytes) :
    parse (bytes ++ suffix) = parse bytes :=
  congrArg Prod.fst (stable_read bytes suffix (.start 0) h)

/-- A container that is read, or refused for anything but a missing byte, stays so whatever is put
behind the buffer.  So a file that is cut off is either read as before or refused for a missing
byte. -/
theorem parse_stable :
    (∀ bytes suffix : Bytes,
      (∀ offset len size, parse bytes ≠ .error (.outOfBounds offset len size)) →
      parse (bytes ++ suffix) = parse bytes) ∧
    ∀ (bytes : Bytes) (container : Container) (count : Nat), parse bytes = .ok container →
      parse (bytes.extract 0 count) = .ok container ∨ ∃ offset len size,
        parse (bytes.extract 0 count) = .error (.outOfBounds offset len size) := by
  constructor
  · intro bytes suffix h
    refine parse_append ?_ suffix
    rintro ⟨offset, len, size, hout⟩
    exact h offset len size hout
  · intro bytes container count h
    by_cases hout : RunsOut (parse (bytes.extract 0 count))
    · exact .inr hout
    · have hwhole : bytes.extract 0 count ++ bytes.extract count bytes.size = bytes := by
        rw [Array.extract_append_extract, Nat.zero_min, Array.extract_eq_self_iff]
        exact .inr ⟨rfl, Nat.le_max_right count bytes.size⟩
      have hsame := parse_append hout (bytes.extract count bytes.size)
      rw [hwhole, h] at hsame
      exact .inl hsame.symm

/-- A whole file: a level `L` with one arena, whose record stands behind the tables. -/
def brief : Bytes :=
  #[0x4c, 0x00, 0x00, 0x00, 0x00, 0x00, 0x00, 0x00, 0x00, 0x00, 0x00, 0x00, 0x00, 0x00, 0x00, 0x00,
    0x00, 0x00, 0x00, 0x00, 0x00, 0x00, 0x00, 0x00, 0x00, 0x00, 0x00, 0x00, 0x01, 0x00, 0x00, 0x00,
    0x01, 0x41, 0x26, 0x00, 0x00, 0x00, 0x00, 0x00, 0x2c, 0x00, 0x00, 0x00, 0xff]

/-- The script may be cut off; a byte of the arena's record may not. -/
theorem parse_stable_brief :
    parse brief = .ok ⟨"L", 0, [], [], [], [⟨"A", ("", ""), 44⟩]⟩ ∧
      parse (brief.extract 0 44 ++ #[0x01]) = parse (brief.extract 0 44) ∧
      (parse (brief.extract 0 44) = .ok ⟨"L", 0, [], [], [], [⟨"A", ("", ""), 44⟩]⟩ ∨
        ∃ offset len size, parse (brief.extract 0 44) = .error (.outOfBounds offset len size)) ∧
      parse (brief.extract 0 43) = .error (.outOfBounds 40 4 43) := by
  have hwhole : parse brief = .ok ⟨"L", 0, [], [], [], [⟨"A", ("", ""), 44⟩]⟩ := by decide +kernel
  have hcut : parse (brief.extract 0 44) = .ok ⟨"L", 0, [], [], [], [⟨"A", ("", ""), 44⟩]⟩ := by
    decide +kernel
  refine ⟨hwhole, parse_stable.1 _ _ fun offset len size hout => ?_, parse_stable.2 _ _ 44 hwhole,
    by decide +kernel⟩
  rw [hcut] at hout
  cases hout

end Container

end LevelScript
