import LevelScript.Unread
import Mathlib.Data.List.Pairwise
import Mathlib.Data.List.Sort

/-!
What is unread, as runs.

The positions of a buffer that no read has touched fall into runs, and the report of what is unread
lists just these: each as long as it can be, in ascending order and with a gap between any two.
There is only one such list.
-/

namespace LevelScript

namespace Span

/-- The span has a position in it. -/
def Has (span : Span) (i : Nat) : Prop :=
  span.start ≤ i ∧ i < span.stop

instance (span : Span) (i : Nat) : Decidable (span.Has i) :=
  inferInstanceAs (Decidable (_ ∧ _))

/-- A run of positions that goes on neither before its start nor behind its end. -/
structure IsMaximalRun (holds : Nat → Prop) (span : Span) : Prop where
  nonempty : span.start < span.stop
  inside : ∀ i, span.Has i → holds i
  before : ∀ i, i + 1 = span.start → ¬ holds i
  behind : ¬ holds span.stop

end Span

/-- Spans that are not empty, ascend with a gap between any two, and have just the positions that a
property holds of. -/
structure Runs (holds : Nat → Prop) (spans : List Span) : Prop where
  nonempty : ∀ span ∈ spans, span.start < span.stop
  apart : spans.Pairwise fun a b => a.stop < b.start
  covers : ∀ i, holds i ↔ ∃ span ∈ spans, span.Has i

namespace Runs

variable {holds holds' : Nat → Prop} {spans spans' : List Span}

theorem congr (h : Runs holds spans) (hsame : ∀ i, holds' i ↔ holds i) : Runs holds' spans :=
  ⟨h.nonempty, h.apart, fun i => (hsame i).trans (h.covers i)⟩

/-- A run in front of all others, with a gap behind it. -/
theorem cons (h : Runs holds spans) {start stop : Nat} (hnonempty : start < stop)
    (hgap : ∀ i, holds i → stop < i) :
    Runs (fun i => (start ≤ i ∧ i < stop) ∨ holds i) (⟨start, stop⟩ :: spans) where
  nonempty := List.forall_mem_cons.mpr ⟨hnonempty, h.nonempty⟩
  apart := by
    refine List.pairwise_cons.mpr ⟨fun span hspan => hgap _ ?_, h.apart⟩
    exact (h.covers _).mpr ⟨span, hspan, Nat.le_refl _, h.nonempty span hspan⟩
  covers i := by
    simp only [h.covers, List.mem_cons, exists_eq_or_imp]
    rfl

/-- Two of the spans are the same, or one lies wholly before the other. -/
theorem eq_or_apart (h : Runs holds spans) {a b : Span} (ha : a ∈ spans) (hb : b ∈ spans) :
    a = b ∨ a.stop < b.start ∨ b.stop < a.start := by
  have hsymm : Std.Symm fun a b : Span => a.stop < b.start ∨ b.stop < a.start :=
    ⟨fun _ _ => Or.symm⟩
  have hapart : spans.Pairwise fun a b => a.stop < b.start ∨ b.stop < a.start :=
    h.apart.imp fun hgap => .inl hgap
  by_cases heq : a = b
  · exact .inl heq
  · exact .inr (hapart.forall ha hb heq)

theorem isMaximalRun (h : Runs holds spans) {span : Span} (hspan : span ∈ spans) :
    span.IsMaximalRun holds := by
  have hnonempty := h.nonempty span hspan
  refine ⟨hnonempty, fun i hi => (h.covers i).mpr ⟨span, hspan, hi⟩, ?_, ?_⟩
  · intro i hi hholds
    obtain ⟨other, hother, hstart, hstop⟩ := (h.covers i).mp hholds
    rcases h.eq_or_apart hspan hother with rfl | hgap | hgap
    · omega
    · omega
    · omega
  · intro hholds
    obtain ⟨other, hother, hstart, hstop⟩ := (h.covers _).mp hholds
    rcases h.eq_or_apart hspan hother with rfl | hgap | hgap
    · omega
    · omega
    · omega

/-- The spans are just the runs that are as long as they can be. -/
theorem mem_iff (h : Runs holds spans) {span : Span} :
    span ∈ spans ↔ span.IsMaximalRun holds := by
  refine ⟨h.isMaximalRun, fun hrun => ?_⟩
  have hnonempty := hrun.nonempty
  have hfirst : holds span.start := hrun.inside _ ⟨Nat.le_refl _, hnonempty⟩
  obtain ⟨known, hknown, hle, hlt⟩ := (h.covers _).mp hfirst
  have hmaximal := h.isMaximalRun hknown
  have hstart : known.start = span.start := by
    by_contra hne
    refine hrun.before (span.start - 1) (by omega) (hmaximal.inside _ ⟨?_, ?_⟩)
    · omega
    · omega
  have hstop : known.stop = span.stop := by
    rcases Nat.lt_trichotomy known.stop span.stop with hshort | heq | hlong
    · exact absurd (hrun.inside _ ⟨by omega, hshort⟩) hmaximal.behind
    · exact heq
    · exact absurd (hmaximal.inside _ ⟨by omega, hlong⟩) hrun.behind
  have heq : known = span := by
    cases known
    cases span
    simp_all
  exact heq ▸ hknown

/-- The runs of a property are one list only. -/
theorem unique (h : Runs holds spans) (h' : Runs holds spans') : spans = spans' := by
  have hirrefl : Std.Irrefl fun a b : Span => a.start < b.start := ⟨fun _ => Nat.lt_irrefl _⟩
  have hantisymm : Std.Antisymm fun a b : Span => a.start < b.start :=
    ⟨fun _ _ hab hba => absurd hab (Nat.lt_asymm hba)⟩
  have hascend {spans : List Span} (h : Runs holds spans) :
      spans.Pairwise fun a b => a.start < b.start := by
    refine h.apart.imp_of_mem fun ha _ hgap => ?_
    exact Nat.lt_trans (h.nonempty _ ha) hgap
  exact (hascend h).eq_of_mem_iff (hascend h') fun span => h.mem_iff.trans h'.mem_iff.symm

end Runs

/-! ### The report -/

theorem unmarked_cons (pos i : Nat) (marked : Bool) (rest : List Bool) :
    (pos ≤ i ∧ (marked :: rest)[i - pos]? = some false) ↔
      (i = pos ∧ marked = false) ∨ (pos + 1 ≤ i ∧ rest[i - (pos + 1)]? = some false) := by
  rcases Nat.lt_trichotomy i pos with hlt | rfl | hgt
  · constructor
    · omega
    · omega
  · simp
  · have hindex : i - pos = i - (pos + 1) + 1 := by omega
    rw [hindex, List.getElem?_cons_succ]
    constructor
    · rintro ⟨-, hfalse⟩
      exact .inr ⟨hgt, hfalse⟩
    · rintro (⟨rfl, -⟩ | ⟨-, hfalse⟩)
      · omega
      · exact ⟨by omega, hfalse⟩

/-- The runs of what is not marked, and the run that is still going on, which the next mark closes
or the end. -/
theorem runs_gaps (mask : List Bool) (pos : Nat) (opened : Option Nat)
    (hopened : ∀ start ∈ opened, start < pos) :
    Runs (fun i => (opened.getD pos ≤ i ∧ i < pos) ∨ (pos ≤ i ∧ mask[i - pos]? = some false))
      (gaps pos opened mask) := by
  have hempty : Runs (fun _ => False) [] := ⟨nofun, .nil, by simp⟩
  induction mask generalizing pos opened with
  | nil =>
      cases opened with
      | none =>
          refine hempty.congr fun i => ?_
          simp
      | some start =>
          refine (hempty.cons (hopened start rfl) nofun).congr fun i => ?_
          simp
  | cons marked rest ih =>
      simp only [unmarked_cons]
      cases marked with
      | false =>
          have hle : opened.getD pos < pos + 1 := by
            cases opened with
            | none => exact Nat.lt_succ_self pos
            | some start => exact Nat.lt_succ_of_lt (hopened start rfl)
          refine (ih (pos + 1) (some (opened.getD pos)) (by simpa using hle)).congr fun i => ?_
          simp only [Option.getD_some]
          constructor
          · rintro (hrun | ⟨rfl, -⟩ | hlater)
            · omega
            · omega
            · exact .inr hlater
          · rintro (⟨hstart, hstop⟩ | hlater)
            · rcases Nat.lt_succ_iff_lt_or_eq.mp hstop with hlt | heq
              · exact .inl ⟨hstart, hlt⟩
              · exact .inr (.inl ⟨heq, trivial⟩)
            · exact .inr (.inr hlater)
      | true =>
          have hrest : Runs (fun i => pos + 1 ≤ i ∧ rest[i - (pos + 1)]? = some false)
              (gaps (pos + 1) none rest) := by
            refine (ih (pos + 1) none nofun).congr fun i => ?_
            simp
          cases opened with
          | none =>
              refine hrest.congr fun i => ?_
              simp
          | some start =>
              refine (hrest.cons (hopened start rfl) fun i hi => hi.1).congr fun i => ?_
              simp

theorem getElem?_foldl_set (positions : List Nat) (mask : Array Bool) (i : Nat) :
    (positions.foldl (fun m j => m.setIfInBounds j true) mask)[i]? =
      mask[i]?.map (· || decide (i ∈ positions)) := by
  induction positions generalizing mask with
  | nil => simp
  | cons j positions ih =>
      rw [List.foldl_cons, ih, Array.getElem?_setIfInBounds]
      by_cases hj : j = i
      · subst hj
        by_cases hlt : j < mask.size
        · simp [hlt]
        · simp [hlt]
      · simp [hj, Ne.symm hj]

theorem getElem?_markSpan (mask : Array Bool) (span : Span) (i : Nat) :
    (markSpan mask span)[i]? = mask[i]?.map (· || decide (span.Has i)) := by
  have hmem : i ∈ List.range' span.start (span.stop - span.start) ↔ span.Has i := by
    rw [List.mem_range'_1, Span.Has]
    omega
  rw [markSpan, getElem?_foldl_set]
  simp only [hmem]

theorem getElem?_foldl_markSpan (reads : List Span) (mask : Array Bool) (i : Nat) :
    (reads.foldl markSpan mask)[i]? =
      mask[i]?.map (· || decide (∃ span ∈ reads, span.Has i)) := by
  induction reads generalizing mask with
  | nil => simp
  | cons span reads ih =>
      rw [List.foldl_cons, ih, getElem?_markSpan, Option.map_map]
      congr 1
      funext marked
      simp [Bool.or_assoc]

/-- The report lists the runs of positions that no read has touched. -/
theorem runs_unreadSpans (size : Nat) (reads : List Span) :
    Runs (fun i => i < size ∧ ∀ span ∈ reads, ¬ span.Has i) (unreadSpans size reads) := by
  refine (runs_gaps (touched size reads).toList 0 none nofun).congr fun i => ?_
  rw [Nat.sub_zero, Array.getElem?_toList, touched, getElem?_foldl_markSpan,
    Array.getElem?_replicate]
  by_cases hlt : i < size
  · simp [hlt]
  · simp [hlt]

end LevelScript
