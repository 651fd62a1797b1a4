import LevelScript.Proofs.Traces
import Mathlib.Data.List.Nodup
import Mathlib.Data.List.Perm.Subperm
import Mathlib.Order.Bounds.Defs

/-!
Names for trace files.

Every actor of an arena gets a name that neither the arena nor an earlier actor has.  An actor whose
own label is free keeps it; the label of any other actor gets the lowest number from two on that
makes it free.  Numbered names can be labels of other actors, so which names are free changes with
every name that is given.  A free one is always found, because fewer names are taken than there are
numbers to try.
-/

namespace LevelScript

/-- What a label becomes while some names are taken: it stays as it is if it is free, and otherwise
it gets the lowest number from two on that makes it free. -/
inductive Becomes (taken : List String) (label : String) : String → Prop
  | itself : label ∉ taken → Becomes taken label label
  | withNumber {k : Nat} : label ∈ taken →
      IsLeast {k | 2 ≤ k ∧ numbered label k ∉ taken} k → Becomes taken label (numbered label k)

namespace Becomes

variable {taken : List String} {label name : String}

theorem not_mem (h : Becomes taken label name) : name ∉ taken := by
  cases h with
  | itself hfree => exact hfree
  | withNumber _ hleast => exact hleast.1.2

/-- In which order names were taken does not matter. -/
theorem congr {taken' : List String} (hmem : ∀ other, other ∈ taken ↔ other ∈ taken')
    (h : Becomes taken label name) : Becomes taken' label name := by
  cases h with
  | itself hfree => exact .itself fun htaken => hfree ((hmem label).mpr htaken)
  | withNumber htaken hleast =>
      simp only [hmem] at hleast
      exact .withNumber ((hmem label).mp htaken) hleast

end Becomes

/-! ### One name -/

theorem numbered_injective (base : String) : Function.Injective (numbered base) := by
  intro j k h
  have hchars : (base ++ "_" ++ toString j).toList = (base ++ "_" ++ toString k).toList :=
    congrArg String.toList h
  have hdigits : Nat.toDigits 10 j = Nat.toDigits 10 k := by
    simpa [Nat.toString_eq_ofList_toDigits] using hchars
  simpa using congrArg (Nat.ofDigitChars 10 · 0) hdigits

/-- Of more numbered names than there are names, one is not among them. -/
theorem exists_numbered_not_mem (used : List String) (base : String) (first : Nat) :
    ∃ k, first ≤ k ∧ k ≤ first + used.length ∧ numbered base k ∉ used := by
  by_contra hnone
  push Not at hnone
  have hnodup : ((List.range' first (used.length + 1)).map (numbered base)).Nodup :=
    (List.nodup_range' 1).map (numbered_injective base)
  have hsubset : (List.range' first (used.length + 1)).map (numbered base) ⊆ used := by
    intro name hname
    obtain ⟨k, hk, rfl⟩ := List.mem_map.mp hname
    rw [List.mem_range'_1] at hk
    exact hnone k hk.1 (by omega)
  have hlength := (List.subperm_of_subset hnodup hsubset).length_le
  rw [List.length_map, List.length_range'] at hlength
  omega

/-- A search with tries enough to reach a free name finds the first one. -/
theorem firstFree_isLeast {used : List String} {base : String} {fuel first : Nat}
    (h : ∃ k, first ≤ k ∧ k ≤ first + fuel ∧ numbered base k ∉ used) :
    ∃ k, firstFree used base fuel first = numbered base k ∧
      IsLeast {k | first ≤ k ∧ numbered base k ∉ used} k := by
  have hhere (first : Nat) (hfree : numbered base first ∉ used) :
      IsLeast {k | first ≤ k ∧ numbered base k ∉ used} first :=
    ⟨⟨Nat.le_refl first, hfree⟩, fun k hk => hk.1⟩
  obtain ⟨k, hle, hreach, hfree⟩ := h
  induction fuel generalizing first with
  | zero =>
      obtain rfl : k = first := by omega
      exact ⟨k, rfl, hhere k hfree⟩
  | succ fuel ih =>
      by_cases hfirst : numbered base first ∈ used
      · have hne : k ≠ first := fun heq => hfree (heq ▸ hfirst)
        obtain ⟨j, hfound, ⟨hlt, hunused⟩, hlowest⟩ :=
          ih (by omega : first + 1 ≤ k) (by omega)
        refine ⟨j, by simpa [firstFree, hfirst] using hfound, ⟨by omega, hunused⟩, ?_⟩
        rintro i ⟨hi, hother⟩
        have hne : i ≠ first := fun heq => hother (heq ▸ hfirst)
        exact hlowest ⟨by omega, hother⟩
      · exact ⟨first, by simp [firstFree, hfirst], hhere first hfirst⟩

theorem becomes_freeName (used : List String) (base : String) :
    Becomes used base (freeName used base) := by
  by_cases hbase : base ∈ used
  · obtain ⟨k, hfound, hleast⟩ := firstFree_isLeast (exists_numbered_not_mem used base 2)
    have hname : freeName used base = numbered base k := by
      simpa [freeName, hbase] using hfound
    rw [hname]
    exact .withNumber hbase hleast
  · have hname : freeName used base = base := by simp [freeName, hbase]
    rw [hname]
    exact .itself hbase

/-! ### Names in turn -/

theorem freeNames_fresh (used bases : List String) :
    (freeNames used bases).Nodup ∧ ∀ name ∈ freeNames used bases, name ∉ used := by
  induction bases generalizing used with
  | nil => exact ⟨List.nodup_nil, nofun⟩
  | cons base bases ih =>
      obtain ⟨hnodup, hfresh⟩ := ih (freeName used base :: used)
      rw [freeNames]
      refine ⟨List.nodup_cons.mpr ⟨fun hmem => hfresh _ hmem List.mem_cons_self, hnodup⟩, ?_⟩
      intro name hname
      rcases List.mem_cons.mp hname with rfl | hlater
      · exact (becomes_freeName used base).not_mem
      · exact fun hused => hfresh name hlater (List.mem_cons_of_mem _ hused)

/-- A label gives way to the names that were taken at first and to those that were given before. -/
theorem becomes_freeNames (used : List String) {bases : List String} {i : Nat} {base : String}
    (h : bases[i]? = some base) :
    ∃ name, (freeNames used bases)[i]? = some name ∧
      Becomes (used ++ (freeNames used bases).take i) base name := by
  induction bases generalizing used i with
  | nil => simp at h
  | cons head bases ih =>
      rw [freeNames]
      cases i with
      | zero =>
          obtain rfl : head = base := by simpa using h
          exact ⟨freeName used head, rfl, by simpa using becomes_freeName used head⟩
      | succ i =>
          obtain ⟨name, hname, hbecomes⟩ := ih (freeName used head :: used) (by simpa using h)
          refine ⟨name, by simpa using hname, hbecomes.congr fun other => ?_⟩
          simp only [List.take_succ_cons, List.mem_append, List.mem_cons]
          tauto

namespace Arena

/-- Whatever an arena and its actors are called: every live actor has one name, no two have the
same, none has that of the arena, and each label gives way just to the arena and to the actors
before it. -/
theorem traceNames_free (arena : Arena) :
    arena.traceNames.length = arena.live.size ∧ arena.traceNames.Nodup ∧
      arena.name ∉ arena.traceNames ∧
      ∀ (i : Nat) (actor : Actor), arena.live[i]? = some actor →
        ∃ name, arena.traceNames[i]? = some name ∧
          Becomes (arena.name :: arena.traceNames.take i) actor.label name := by
  obtain ⟨hnodup, hfresh⟩ := freeNames_fresh [arena.name] (arena.live.toList.map Actor.label)
  refine ⟨?_, hnodup, fun hmem => hfresh arena.name hmem List.mem_cons_self, ?_⟩
  · rw [traceNames, length_freeNames, List.length_map, Array.length_toList]
  · intro i actor hactor
    have hlabel : (arena.live.toList.map Actor.label)[i]? = some actor.label := by
      simp [hactor]
    exact becomes_freeNames [arena.name] hlabel

/-- A guard whose label is the arena's name, one whose label is the numbered name of the first, and
the first once more. -/
def lookalikes : Arena :=
  { new .standard 0 ⟨"GUARD_1", ("", ""), 0⟩ with
    live := #[.new .standard "GUARD" 1 0 .plain, .new .standard "GUARD_1" 2 0 .plain,
      .new .standard "GUARD" 1 0 .plain] }

theorem traceNames_free_lookalikes :
    lookalikes.traceNames = ["GUARD_1_2", "GUARD_1_2_2", "GUARD_1_3"] ∧
      lookalikes.traceNames.Nodup ∧
      Becomes ["GUARD_1", "GUARD_1_2", "GUARD_1_2_2"] "GUARD_1" "GUARD_1_3" := by
  have hnames : lookalikes.traceNames = ["GUARD_1_2", "GUARD_1_2_2", "GUARD_1_3"] := by
    decide +kernel
  obtain ⟨-, hnodup, -, hbecomes⟩ := traceNames_free lookalikes
  obtain ⟨name, hname, hthird⟩ := hbecomes 2 _ rfl
  rw [hnames] at hname hthird
  cases hname
  exact ⟨hnames, hnodup, hthird⟩

end Arena

end LevelScript
