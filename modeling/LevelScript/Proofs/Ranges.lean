import LevelScript.Proofs.Unread

/-!
What is unread, from a set of addresses.

The readers of all buffers may put what they read into one set of addresses.  What is unread of a
buffer is then the complement of the set, cut to where the buffer lies, and each piece of it has to
be turned into a span of the buffer.  A piece is given by its bounds, and either may be part of the
piece, or not, or be missing.  Of the sets it is only supposed that they are kept in normal form and
that insertion, complement and intersection are what they are of sets.  The report is the same.
-/

namespace LevelScript

/-- An end of a piece: the outermost position of it, the next one beyond it, or none at all. -/
inductive Bound where
  | included (n : Nat)
  | excluded (n : Nat)
  | unbounded

namespace Bound

def value? : Bound → Option Nat
  | included n => some n
  | excluded n => some n
  | unbounded => none

/-- A bound as the lower one: which positions it lets in. -/
def AdmitsFrom : Bound → Nat → Prop
  | included n, i => n ≤ i
  | excluded n, i => n < i
  | unbounded, _ => True

/-- A bound as the upper one: which positions it lets in. -/
def AdmitsTo : Bound → Nat → Prop
  | included n, i => i ≤ n
  | excluded n, i => i < n
  | unbounded, _ => True

theorem AdmitsFrom.mono {bound : Bound} {i j : Nat} (h : bound.AdmitsFrom i) (hle : i ≤ j) :
    bound.AdmitsFrom j := by
  cases bound with
  | included n => exact Nat.le_trans h hle
  | excluded n => exact Nat.lt_of_lt_of_le h hle
  | unbounded => trivial

end Bound

/-- The positions between two bounds. -/
structure Piece where
  lower : Bound
  upper : Bound

/-- The piece has a position in it. -/
def Piece.Has (piece : Piece) (i : Nat) : Prop :=
  piece.lower.AdmitsFrom i ∧ piece.upper.AdmitsTo i

/-- Sets of numbers below a limit that are kept as lists of pieces. -/
structure RangeSets where
  limit : Nat
  Kept : Type
  insert : Kept → Span → Kept
  invert : Kept → Kept
  intersect : Kept → Span → Kept
  pieces : Kept → List Piece

namespace RangeSets

/-- The set has a number in it. -/
def Has (sets : RangeSets) (kept : sets.Kept) (n : Nat) : Prop :=
  ∃ piece ∈ sets.pieces kept, piece.Has n

/-- The operations are those of sets, and the pieces are in normal form: none is empty, and they
ascend with a gap between any two. -/
structure Lawful (sets : RangeSets) : Prop where
  has_insert : ∀ kept span n, span.stop < sets.limit → n < sets.limit →
    (sets.Has (sets.insert kept span) n ↔ sets.Has kept n ∨ span.Has n)
  has_invert : ∀ kept n, n < sets.limit → (sets.Has (sets.invert kept) n ↔ ¬ sets.Has kept n)
  has_intersect : ∀ kept span n, span.stop < sets.limit → n < sets.limit →
    (sets.Has (sets.intersect kept span) n ↔ sets.Has kept n ∧ span.Has n)
  /-- Of two lower bounds an intersection keeps the greater one. -/
  le_lower : ∀ kept span, ∀ piece ∈ sets.pieces (sets.intersect kept span),
    ∀ n ∈ piece.lower.value?, span.start ≤ n
  upper_lt : ∀ kept, ∀ piece ∈ sets.pieces kept, ∀ n ∈ piece.upper.value?, n < sets.limit
  nonempty : ∀ kept, ∀ piece ∈ sets.pieces kept, ∃ n < sets.limit, piece.Has n
  apart : ∀ kept, (sets.pieces kept).Pairwise fun a b =>
    ∀ m n, m < sets.limit → n < sets.limit → a.Has m → b.Has n → m + 1 < n

end RangeSets

/-! ### From pieces to spans -/

/-- How far a position is behind an origin; there is no answer for one that lies before it. -/
def offset? (origin n : Nat) : Option Nat :=
  if origin ≤ n then some (n - origin) else none

theorem offset?_of_le {origin n : Nat} (h : origin ≤ n) : offset? origin n = some (n - origin) :=
  if_pos h

/-- Where a lower bound lets a span of a buffer start. -/
def Bound.start? (origin : Nat) : Bound → Option Nat
  | included n => offset? origin n
  | excluded n => (offset? origin n).map (· + 1)
  | unbounded => some 0

/-- Where an upper bound lets a span of a buffer stop. -/
def Bound.stop? (origin size : Nat) : Bound → Option Nat
  | included n => (offset? origin n).map (· + 1)
  | excluded n => offset? origin n
  | unbounded => some size

/-- A piece as a span of the buffer that lies at an origin. -/
def Piece.span? (origin size : Nat) (piece : Piece) : Option Span := do
  let start ← piece.lower.start? origin
  let stop ← piece.upper.stop? origin size
  return ⟨start, stop⟩

/-- A piece of what was cut to a window. -/
structure Piece.Within (piece : Piece) (limit : Nat) (window : Span) : Prop where
  nonempty : ∃ n < limit, piece.Has n
  inside : ∀ n < limit, piece.Has n → window.Has n
  le_lower : ∀ n ∈ piece.lower.value?, window.start ≤ n
  upper_lt : ∀ n ∈ piece.upper.value?, n < limit

theorem Bound.start?_eq {origin : Nat} {bound : Bound}
    (h : ∀ n ∈ bound.value?, origin ≤ n) :
    ∃ start, bound.start? origin = some start ∧
      ∀ i, bound.AdmitsFrom (origin + i) ↔ start ≤ i := by
  cases bound with
  | included n =>
      have hle : origin ≤ n := h n rfl
      refine ⟨n - origin, offset?_of_le hle, fun i => ?_⟩
      simp only [AdmitsFrom]
      omega
  | excluded n =>
      have hle : origin ≤ n := h n rfl
      refine ⟨n - origin + 1, by rw [start?, offset?_of_le hle]; rfl, fun i => ?_⟩
      simp only [AdmitsFrom]
      omega
  | unbounded => exact ⟨0, rfl, fun i => by simp [AdmitsFrom]⟩

namespace Piece.Within

variable {piece : Piece} {limit origin size : Nat}

/-- The upper bound of a piece, where it has one, or the position before it is in the piece, for
some position of the piece is not above it. -/
theorem stop?_eq (h : piece.Within limit ⟨origin, origin + size⟩) :
    ∃ stop, piece.upper.stop? origin size = some stop ∧ stop ≤ size ∧
      ∀ i, i < size → (piece.upper.AdmitsTo (origin + i) ↔ i < stop) := by
  obtain ⟨lower, upper⟩ := piece
  obtain ⟨m, hm, hlower, hupper⟩ := h.nonempty
  have horigin : origin ≤ m := (h.inside m hm ⟨hlower, hupper⟩).1
  cases upper with
  | included n =>
      have hle : m ≤ n := hupper
      have hlast := h.inside n (h.upper_lt n rfl) ⟨hlower.mono hle, Nat.le_refl n⟩
      have hstop : n < origin + size := hlast.2
      have hoffset := offset?_of_le (Nat.le_trans horigin hle)
      refine ⟨n - origin + 1, by simp [Bound.stop?, hoffset], by omega, fun i _ => ?_⟩
      simp only [Bound.AdmitsTo]
      omega
  | excluded n =>
      have hlt : m < n := hupper
      have hlimit : n < limit := h.upper_lt n rfl
      have hlast := h.inside (n - 1) (by omega)
        ⟨hlower.mono (by omega), Nat.sub_one_lt_of_lt hlt⟩
      have hstop : n - 1 < origin + size := hlast.2
      refine ⟨n - origin, offset?_of_le (by omega), by omega, fun i _ => ?_⟩
      simp only [Bound.AdmitsTo]
      omega
  | unbounded => exact ⟨size, rfl, Nat.le_refl _, fun i hi => by simp [Bound.AdmitsTo, hi]⟩

theorem span?_eq (h : piece.Within limit ⟨origin, origin + size⟩) :
    ∃ start stop, piece.span? origin size = some ⟨start, stop⟩ ∧ start < stop ∧
      ∀ i, (start ≤ i ∧ i < stop) ↔ i < size ∧ piece.Has (origin + i) := by
  obtain ⟨start, hstart, hfrom⟩ := Bound.start?_eq h.le_lower
  obtain ⟨stop, hstop, hsize, hto⟩ := h.stop?_eq
  have hhas (i : Nat) : (start ≤ i ∧ i < stop) ↔ i < size ∧ piece.Has (origin + i) := by
    constructor
    · rintro ⟨hle, hlt⟩
      have hi : i < size := by omega
      exact ⟨hi, (hfrom i).mpr hle, (hto i hi).mpr hlt⟩
    · rintro ⟨hi, hlower, hupper⟩
      exact ⟨(hfrom i).mp hlower, (hto i hi).mp hupper⟩
  refine ⟨start, stop, by simp [span?, hstart, hstop], ?_, hhas⟩
  obtain ⟨m, hm, hpiece⟩ := h.nonempty
  obtain ⟨hge, hlt⟩ : origin ≤ m ∧ m < origin + size := h.inside m hm hpiece
  obtain ⟨i, rfl⟩ := Nat.exists_eq_add_of_le hge
  have hboth := (hhas i).mpr ⟨by omega, hpiece⟩
  omega

end Piece.Within

/-- Pieces in normal form become runs. -/
theorem runs_mapM_span? {limit origin size : Nat} {pieces : List Piece}
    (hwithin : ∀ piece ∈ pieces, piece.Within limit ⟨origin, origin + size⟩)
    (hapart : pieces.Pairwise fun a b =>
      ∀ m n, m < limit → n < limit → a.Has m → b.Has n → m + 1 < n)
    (hlimit : origin + size < limit) :
    ∃ spans, pieces.mapM (Piece.span? origin size) = some spans ∧
      Runs (fun i => i < size ∧ ∃ piece ∈ pieces, piece.Has (origin + i)) spans := by
  induction pieces with
  | nil => exact ⟨[], rfl, nofun, .nil, by simp⟩
  | cons piece pieces ih =>
      obtain ⟨hfirst, hothers⟩ := List.forall_mem_cons.mp hwithin
      obtain ⟨hgap, hpairs⟩ := List.pairwise_cons.mp hapart
      obtain ⟨spans, hspans, hruns⟩ := ih hothers hpairs
      obtain ⟨start, stop, hspan, hlt, hhas⟩ := hfirst.span?_eq
      refine ⟨⟨start, stop⟩ :: spans, by simp [hspan, hspans], ?_⟩
      refine (hruns.cons hlt ?_).congr fun i => ?_
      · -- the last position of the span is in the first piece
        rintro i ⟨hi, other, hother, hin⟩
        have hlast := ((hhas (stop - 1)).mp ⟨by omega, by omega⟩)
        have hbefore := hgap other hother _ _ (by omega) (by omega) hlast.2 hin
        omega
      · simp only [List.mem_cons, exists_eq_or_imp, hhas]
        exact and_or_left

/-! ### The report -/

namespace RangeSets

variable {sets : RangeSets}

/-- Takes in what was read of the buffer that lies at an origin, the last of the reads first. -/
def register (sets : RangeSets) (kept : sets.Kept) (origin : Nat) (reads : List Span) :
    sets.Kept :=
  reads.foldr (fun span kept => sets.insert kept ⟨span.start + origin, span.stop + origin⟩) kept

/-- The spans of the buffer at an origin that are not in the set, if none of them has a bound
before the buffer. -/
def report? (sets : RangeSets) (kept : sets.Kept) (origin size : Nat) : Option (List Span) :=
  (sets.pieces (sets.intersect (sets.invert kept) ⟨origin, origin + size⟩)).mapM
    (Piece.span? origin size)

theorem Lawful.within (h : sets.Lawful) {window : Span} (hwindow : window.stop < sets.limit)
    {kept : sets.Kept} {piece : Piece} (hpiece : piece ∈ sets.pieces (sets.intersect kept window)) :
    piece.Within sets.limit window where
  nonempty := h.nonempty _ piece hpiece
  inside n hn hhas := ((h.has_intersect kept window n hwindow hn).mp ⟨piece, hpiece, hhas⟩).2
  le_lower := h.le_lower kept window piece hpiece
  upper_lt := h.upper_lt _ piece hpiece

theorem Lawful.has_register (h : sets.Lawful) (kept : sets.Kept) {origin size n : Nat}
    {reads : List Span} (hreads : ∀ span ∈ reads, span.stop ≤ size)
    (hlimit : origin + size < sets.limit) (hn : n < sets.limit) :
    sets.Has (sets.register kept origin reads) n ↔
      sets.Has kept n ∨ ∃ span ∈ reads, span.start + origin ≤ n ∧ n < span.stop + origin := by
  induction reads with
  | nil => simp [register]
  | cons span reads ih =>
      obtain ⟨hspan, hothers⟩ := List.forall_mem_cons.mp hreads
      have hstop : span.stop + origin < sets.limit := by omega
      have hinsert := h.has_insert (sets.register kept origin reads)
        ⟨span.start + origin, span.stop + origin⟩ n hstop hn
      rw [register, List.foldr_cons]
      rw [register] at hinsert
      rw [hinsert, ← register, ih hothers, List.exists_mem_cons_iff, or_assoc]
      exact or_congr_right or_comm

/-- The report from the set of all addresses is the report from the reads of the one buffer, if the
set began without addresses of the buffer. -/
theorem Lawful.report?_register (h : sets.Lawful) {kept : sets.Kept} {origin size : Nat}
    {reads : List Span} (hreads : ∀ span ∈ reads, span.stop ≤ size)
    (hlimit : origin + size < sets.limit)
    (hfresh : ∀ n, origin ≤ n → n < origin + size → ¬ sets.Has kept n) :
    sets.report? (sets.register kept origin reads) origin size = some (unreadSpans size reads) := by
  let unread := sets.intersect (sets.invert (sets.register kept origin reads))
    ⟨origin, origin + size⟩
  obtain ⟨spans, hspans, hruns⟩ := runs_mapM_span? (fun piece => h.within hlimit) (h.apart unread)
    hlimit
  have hmean (i : Nat) : (i < size ∧ ∀ span ∈ reads, ¬ span.Has i) ↔
      i < size ∧ sets.Has unread (origin + i) := by
    refine and_congr_right fun hi => ?_
    have hn : origin + i < sets.limit := by omega
    rw [h.has_intersect _ _ _ hlimit hn, h.has_invert _ _ hn, h.has_register kept hreads hlimit hn]
    have hkept := hfresh (origin + i) (by omega) (by omega)
    have hshift (span : Span) : span.Has i ↔
        span.start + origin ≤ origin + i ∧ origin + i < span.stop + origin := by
      rw [Span.Has]
      omega
    have hwindow : Span.Has ⟨origin, origin + size⟩ (origin + i) :=
      ⟨Nat.le_add_right _ _, Nat.add_lt_add_left hi _⟩
    simp [hkept, hwindow, hshift]
  -- both reports list the runs of one property, and there is one such list only
  rw [(hruns.congr hmean).unique (runs_unreadSpans size reads)] at hspans
  exact hspans

/-! ### Masks -/

/-- A span of the numbers below a limit as a piece; no bound can be the limit itself. -/
def spanPiece (limit : Nat) (span : Span) : Piece :=
  ⟨.included span.start, if span.stop < limit then .excluded span.stop else .unbounded⟩

theorem has_spanPiece {limit n : Nat} (span : Span) (hn : n < limit) :
    (spanPiece limit span).Has n ↔ span.Has n := by
  refine and_congr_right fun _ => ?_
  by_cases hstop : span.stop < limit
  · simp [spanPiece, hstop, Bound.AdmitsTo]
  · simp only [spanPiece, hstop, if_false, Bound.AdmitsTo, true_iff]
    omega

theorem lt_of_mem_upper_spanPiece {limit n : Nat} {span : Span}
    (h : n ∈ (spanPiece limit span).upper.value?) : n < limit := by
  by_cases hstop : span.stop < limit
  · obtain rfl : span.stop = n := by simpa [spanPiece, hstop, Bound.value?] using h
    exact hstop
  · simp [spanPiece, hstop, Bound.value?] at h

/-- Sets that are kept as masks. -/
abbrev masks (limit : Nat) : RangeSets where
  limit := limit
  Kept := Nat → Bool
  insert mask span n := mask n || decide (span.Has n)
  invert mask n := !mask n
  intersect mask span n := mask n && decide (span.Has n)
  pieces mask := (gaps 0 none ((List.range limit).map fun n => !mask n)).map (spanPiece limit)

theorem runs_mask (limit : Nat) (mask : Nat → Bool) :
    Runs (fun n => n < limit ∧ mask n = true)
      (gaps 0 none ((List.range limit).map fun n => !mask n)) := by
  refine (runs_gaps _ 0 none nofun).congr fun n => ?_
  by_cases hn : n < limit
  · simp [hn]
  · simp [hn]

theorem has_masks {limit n : Nat} (mask : Nat → Bool) (hn : n < limit) :
    (masks limit).Has mask n ↔ mask n = true := by
  have hcovers := (runs_mask limit mask).covers n
  simp only [hn, true_and] at hcovers
  simp only [Has, List.mem_map, exists_exists_and_eq_and, has_spanPiece _ hn, hcovers]

theorem lawful_masks (limit : Nat) : (masks limit).Lawful where
  has_insert mask span n _ hn := by
    rw [has_masks _ hn, has_masks _ hn]
    simp
  has_invert mask n hn := by
    rw [has_masks _ hn, has_masks _ hn]
    simp
  has_intersect mask span n _ hn := by
    rw [has_masks _ hn, has_masks _ hn]
    simp
  le_lower mask window piece hpiece n hlower := by
    obtain ⟨span, hspan, rfl⟩ := List.mem_map.mp hpiece
    obtain rfl : span.start = n := by simpa [spanPiece, Bound.value?] using hlower
    have hrun := (runs_mask limit _).isMaximalRun hspan
    have hin := (hrun.inside span.start ⟨Nat.le_refl _, hrun.nonempty⟩).2
    simp only [Bool.and_eq_true, decide_eq_true_eq] at hin
    exact hin.2.1
  upper_lt mask piece hpiece n hupper := by
    obtain ⟨span, -, rfl⟩ := List.mem_map.mp hpiece
    exact lt_of_mem_upper_spanPiece hupper
  nonempty mask piece hpiece := by
    obtain ⟨span, hspan, rfl⟩ := List.mem_map.mp hpiece
    have hrun := (runs_mask limit mask).isMaximalRun hspan
    have hfirst : span.Has span.start := ⟨Nat.le_refl _, hrun.nonempty⟩
    have hlt := (hrun.inside span.start hfirst).1
    exact ⟨span.start, hlt, (has_spanPiece span hlt).mpr hfirst⟩
  apart mask := by
    refine List.pairwise_map.mpr ((runs_mask limit mask).apart.imp fun {a b} hgap => ?_)
    intro m n hm hn ha hb
    have hbelow := ((has_spanPiece a hm).mp ha).2
    have habove := ((has_spanPiece b hn).mp hb).1
    omega

end RangeSets

end LevelScript
