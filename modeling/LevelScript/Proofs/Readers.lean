import LevelScript.Proofs.Doors
import LevelScript.Proofs.Ranges
import LevelScript.Proofs.Singles
import LevelScript.Proofs.TextFields

/-!
Readers, and what they leave unread.

A reader of a buffer is asked for numbers, vectors, texts and slices, looks ahead, is moved to
another position, and is cloned.  Which bytes it tries to read is settled beforehand: those of a
number, those of the floats of a vector one after the other up to the first that is missing or
refused, those of a field of text unless it is too wide to be looked at.  What the buffer has of
these is read, whatever comes of it, and what reaches past the end of the buffer counts for nothing.
What is left are the runs that the report lists.
-/

namespace LevelScript

/-- Of the spans that were tried, those that the buffer has. -/
def inBounds (bytes : Bytes) (tries : List Span) : List Span :=
  tries.filter (·.stop ≤ bytes.size)

theorem mem_inBounds {bytes : Bytes} {tries : List Span} {span : Span} :
    span ∈ inBounds bytes tries ↔ span ∈ tries ∧ span.stop ≤ bytes.size := by
  simp [inBounds]

theorem inBounds_append (bytes : Bytes) (tries later : List Span) :
    inBounds bytes (tries ++ later) = inBounds bytes tries ++ inBounds bytes later :=
  List.filter_append ..

/-- Where a reader at `p` stands after some tries: behind the last one that the buffer has. -/
def behind (bytes : Bytes) (p : Nat) (tries : List Span) : Nat :=
  tries.foldl (fun p span => if span.stop ≤ bytes.size then span.stop else p) p

theorem behind_append (bytes : Bytes) (p : Nat) (tries later : List Span) :
    behind bytes p (tries ++ later) = behind bytes (behind bytes p tries) later :=
  List.foldl_append ..

/-- A float that level data may hold stands at a position. -/
def moderateAt (bytes : Bytes) (p : Nat) : Bool :=
  (wordAt? bytes p).any fun word => decide (Single.mk word).IsModerate

/-- The floats of a vector are tried as long as those before are there and moderate. -/
def singleTries (bytes : Bytes) (p : Nat) : Nat → List Span
  | 0 => []
  | count + 1 =>
      ⟨p, p + 4⟩ :: if moderateAt bytes p then singleTries bytes (p + 4) count else []

/-- A field of text is tried whole, or not at all if it is too wide. -/
def textTries (p count : Nat) : List Span :=
  if count ≤ 100 then [⟨p, p + count⟩] else []

/-- The byte with the width is tried, and what it says is the width of the field. -/
def countedTextTries (bytes : Bytes) (p : Nat) : List Span :=
  ⟨p, p + 1⟩ :: bytes[p]?.elim [] fun width => textTries (p + 1) width.toNat

namespace Scan

variable {ε α β : Type} {bytes : Bytes} {p q : Nat} {tries later : List Span}

/-- From every cursor at `p` the scan tries these spans, one after the other, reads those that the
buffer has, and ends behind them. -/
def Tries (bytes : Bytes) (scan : Scan ε α) (p : Nat) (tries : List Span) : Prop :=
  ∀ c : Cursor, c.pos = p →
    (scan.run bytes c).2.reads = (inBounds bytes tries).reverse ++ c.reads ∧
      (scan.run bytes c).2.pos = behind bytes p tries

/-- From no cursor at `p` the scan gives anything. -/
def Fails (bytes : Bytes) (scan : Scan ε α) (p : Nat) : Prop :=
  ∀ c : Cursor, c.pos = p → ∀ a c', scan.run bytes c ≠ (.ok a, c')

theorem run_single_eq_ok {c c' : Cursor} {x : Single} :
    single.run bytes c = (.ok x, c') ↔
      wordAt? bytes c.pos = some x.bits ∧ x.IsModerate ∧ c' = c.advance 4 := by
  change (rawSingle >>= fun x => if x.isPlausible then Pure.pure x
    else Scan.fail (.invalidValue c.pos x.exact)).run bytes c = _ ↔ _
  simp only [rawSingle, run_bind_eq_ok, run_u32_eq_ok, run_pure_eq_ok, ← Single.isPlausible_iff]
  constructor
  · rintro ⟨_, _, ⟨word, _, ⟨hword, rfl⟩, rfl, rfl⟩, hrun⟩
    split at hrun
    · next hplausible =>
      obtain ⟨rfl, rfl⟩ := run_pure_eq_ok.mp hrun
      exact ⟨hword, hplausible, rfl⟩
    · cases hrun
  · rintro ⟨hword, hplausible, rfl⟩
    refine ⟨x, _, ⟨x.bits, _, ⟨hword, rfl⟩, rfl, rfl⟩, ?_⟩
    rw [if_pos hplausible, run_pure]

namespace Tries

theorem pure (a : α) : (Pure.pure a : Scan ε α).Tries bytes p [] :=
  fun _ hc => ⟨rfl, hc⟩

theorem fail (e : ε) : (Scan.fail e : Scan ε α).Tries bytes p [] :=
  fun _ hc => ⟨rfl, hc⟩

theorem slice (count : Nat) : (Scan.slice count).Tries bytes p [⟨p, p + count⟩] := by
  rintro c rfl
  by_cases hfit : c.pos + count ≤ bytes.size
  · rw [run_slice_eq_ok.mpr ⟨hfit, rfl, rfl⟩]
    simp [inBounds, behind, hfit, Cursor.advance]
  · rw [run_slice_of_lt (Nat.not_le.mp hfit)]
    simp [inBounds, behind, hfit]

/-- After a success the next scan goes on. -/
theorem bind {x : Scan ε α} {f : α → Scan ε β} {a : α} (hx : x.Tries bytes p tries)
    (hgives : x.Gives bytes p a q) (hf : (f a).Tries bytes q later) :
    (x >>= f).Tries bytes p (tries ++ later) := by
  intro c hc
  obtain ⟨hreads, hpos⟩ := hx c hc
  obtain ⟨d, hrun, hd⟩ := hgives c hc
  rw [hrun] at hreads hpos
  obtain ⟨hreads', hpos'⟩ := hf d hd
  rw [run_bind, hrun]
  dsimp only at hreads hpos ⊢
  -- the position that the success leaves is the one behind what was tried so far
  rw [hreads', hpos', hreads, inBounds_append, behind_append, List.reverse_append,
    List.append_assoc, ← hpos, hd]
  exact ⟨rfl, rfl⟩

/-- After a failure nothing more is tried. -/
theorem bind_of_fails {x : Scan ε α} {f : α → Scan ε β} (hx : x.Tries bytes p tries)
    (hfails : x.Fails bytes p) : (x >>= f).Tries bytes p tries := by
  intro c hc
  have hfirst := hx c hc
  rw [run_bind]
  rcases hrun : x.run bytes c with ⟨e | a, d⟩
  · rw [hrun] at hfirst
    exact hfirst
  · exact absurd hrun (hfails c hc a d)

/-- What only looks at a result tries nothing. -/
theorem bind_quiet {x : Scan ε α} {f : α → Scan ε β} (hx : x.Tries bytes p tries)
    (hf : ∀ a q, (f a).Tries bytes q []) : (x >>= f).Tries bytes p tries := by
  intro c hc
  have hfirst := hx c hc
  rw [run_bind]
  rcases hrun : x.run bytes c with ⟨e | a, d⟩
  · rw [hrun] at hfirst
    exact hfirst
  · rw [hrun] at hfirst
    obtain ⟨hreads, hpos⟩ := hf a d.pos d rfl
    exact ⟨hreads.trans hfirst.1, hpos.trans hfirst.2⟩

theorem drop {x : Scan ε α} (hx : x.Tries bytes p tries) :
    (x >>= fun _ => Pure.pure ()).Tries bytes p tries :=
  hx.bind_quiet fun _ _ => pure _

theorem pos_bind {f : Nat → Scan ε α} (hf : (f p).Tries bytes p tries) :
    (Scan.pos >>= f).Tries bytes p tries := by
  rintro c rfl
  exact hf c rfl

/-! ### Numbers -/

theorem unsigned (count : Nat) : (Scan.unsigned count).Tries bytes p [⟨p, p + count⟩] :=
  (slice count).bind_quiet fun _ _ => pure _

theorem u8 : Scan.u8.Tries bytes p [⟨p, p + 1⟩] :=
  (unsigned 1).bind_quiet fun _ _ => pure _

theorem u16 : Scan.u16.Tries bytes p [⟨p, p + 2⟩] :=
  (unsigned 2).bind_quiet fun _ _ => pure _

theorem u32 : Scan.u32.Tries bytes p [⟨p, p + 4⟩] :=
  (unsigned 4).bind_quiet fun _ _ => pure _

theorem i8 : Scan.i8.Tries bytes p [⟨p, p + 1⟩] :=
  u8.bind_quiet fun _ _ => pure _

theorem i16 : Scan.i16.Tries bytes p [⟨p, p + 2⟩] :=
  u16.bind_quiet fun _ _ => pure _

theorem i32 : Scan.i32.Tries bytes p [⟨p, p + 4⟩] :=
  u32.bind_quiet fun _ _ => pure _

theorem rawSingle : Scan.rawSingle.Tries bytes p [⟨p, p + 4⟩] :=
  u32.bind_quiet fun _ _ => pure _

theorem single : Scan.single.Tries bytes p [⟨p, p + 4⟩] := by
  refine pos_bind (rawSingle.bind_quiet fun x q => ?_)
  split
  · exact pure _
  · exact fail _

/-! ### Vectors and texts -/

/-- A refused float has been read, but what would follow it is not tried. -/
theorem single_bind {f : Single → Scan DataError α} (hf : ∀ x, (f x).Tries bytes (p + 4) later) :
    (Scan.single >>= f).Tries bytes p
      (⟨p, p + 4⟩ :: if moderateAt bytes p then later else []) := by
  by_cases h : moderateAt bytes p
  · rw [if_pos h]
    obtain ⟨word, hword, hmoderate⟩ := Option.any_eq_true .. |>.mp h
    refine single.bind (fun c hc => ⟨c.advance 4, ?_, by rw [Cursor.advance_pos, hc]⟩) (hf ⟨word⟩)
    rw [run_single_eq_ok, hc]
    exact ⟨hword, of_decide_eq_true hmoderate, rfl⟩
  · rw [if_neg h]
    refine single.bind_of_fails fun c hc x c' hrun => h ?_
    obtain ⟨hword, hmoderate, -⟩ := run_single_eq_ok.mp hrun
    rw [moderateAt, ← hc, hword]
    exact decide_eq_true hmoderate

theorem singles (count : Nat) :
    (Scan.single.times count).Tries bytes p (singleTries bytes p count) := by
  induction count generalizing p with
  | zero => exact pure _
  | succ count ih => exact single_bind fun x => ih.bind_quiet fun _ _ => pure _

theorem point : Scan.point.Tries bytes p (singleTries bytes p 3) :=
  single_bind fun _ => single_bind fun _ => single_bind fun _ => pure _

theorem text (count : Nat) : (Scan.text count).Tries bytes p (textTries p count) := by
  refine pos_bind ?_
  rw [textTries]
  by_cases hwide : count > textLimit
  · have hnot : ¬ count ≤ 100 := Nat.not_le.mpr hwide
    rw [if_pos hwide, if_neg hnot]
    exact fail _
  · have hle : count ≤ 100 := Nat.not_lt.mp hwide
    rw [if_neg hwide, if_pos hle]
    refine (slice count).bind_quiet fun field q => ?_
    split
    · exact pure _
    · exact fail _

theorem countedText : Scan.countedText.Tries bytes p (countedTextTries bytes p) := by
  cases hwidth : bytes[p]? with
  | none =>
      rw [countedTextTries, hwidth]
      refine u8.bind_of_fails fun c hc b c' hrun => ?_
      rw [run_u8_eq_ok, hc, hwidth] at hrun
      cases hrun.1
  | some width =>
      rw [countedTextTries, hwidth]
      refine u8.bind (fun c hc => ⟨c.advance 1, ?_, by rw [Cursor.advance_pos, hc]⟩)
        (text width.toNat)
      rw [run_u8_eq_ok, hc]
      exact ⟨hwidth, rfl⟩

end Tries

end Scan

/-! ### Readers -/

/-- The numbers that a reader can be asked for. -/
inductive NumberKind where
  | u8
  | i8
  | u16
  | i16
  | u32
  | i32
  | single

namespace NumberKind

def width : NumberKind → Nat
  | u8 | i8 => 1
  | u16 | i16 => 2
  | u32 | i32 | single => 4

/-- Reads a number of any bit pattern. -/
def rawScan : NumberKind → Scan DataError Unit
  | u8 => do let _ ← Scan.u8
  | i8 => do let _ ← Scan.i8
  | u16 => do let _ ← Scan.u16
  | i16 => do let _ ← Scan.i16
  | u32 => do let _ ← Scan.u32
  | i32 => do let _ ← Scan.i32
  | single => do let _ ← Scan.rawSingle

/-- Reads a number; of the floats only those that level data may hold. -/
def scan : NumberKind → Scan DataError Unit
  | single => do let _ ← Scan.single
  | kind => kind.rawScan

theorem tries_rawScan (kind : NumberKind) (bytes : Bytes) (p : Nat) :
    kind.rawScan.Tries bytes p [⟨p, p + kind.width⟩] := by
  cases kind with
  | u8 => exact Scan.Tries.u8.drop
  | i8 => exact Scan.Tries.i8.drop
  | u16 => exact Scan.Tries.u16.drop
  | i16 => exact Scan.Tries.i16.drop
  | u32 => exact Scan.Tries.u32.drop
  | i32 => exact Scan.Tries.i32.drop
  | single => exact Scan.Tries.rawSingle.drop

theorem tries_scan (kind : NumberKind) (bytes : Bytes) (p : Nat) :
    kind.scan.Tries bytes p [⟨p, p + kind.width⟩] := by
  cases kind with
  | single => exact Scan.Tries.single.drop
  | _ => exact tries_rawScan _ bytes p

end NumberKind

/-- What a reader can be asked to do. -/
inductive Reading where
  | number (kind : NumberKind)
  | raw (kind : NumberKind)
  | peek (kind : NumberKind)
  | singles (count : Nat)
  | point
  | text (count : Nat)
  | countedText
  | slice (count : Nat)
  | skip (count : Nat)
  | seek (target : Nat)

namespace Reading

def scan : Reading → Scan DataError Unit
  | number kind => kind.scan
  | raw kind => kind.rawScan
  | peek kind => Scan.peek kind.rawScan
  | singles count => do let _ ← Scan.single.times count
  | point => do let _ ← Scan.point
  | text count => do let _ ← Scan.text count
  | countedText => do let _ ← Scan.countedText
  | slice count => do let _ ← Scan.slice count
  | skip count => Scan.skip count
  | seek target => Scan.seek target

/-- What a reader at a position tries to read. -/
def tries (bytes : Bytes) (p : Nat) : Reading → List Span
  | number kind | raw kind | peek kind => [⟨p, p + kind.width⟩]
  | singles count => singleTries bytes p count
  | point => singleTries bytes p 3
  | text count => textTries p count
  | countedText => countedTextTries bytes p
  | slice count | skip count => [⟨p, p + count⟩]
  | seek _ => []

/-- Where a reader at a position stands in the end. -/
def target (bytes : Bytes) (p : Nat) : Reading → Nat
  | peek _ => p
  | seek target => target
  | reading => behind bytes p (reading.tries bytes p)

/-- A reader tries what is said beforehand, reads what the buffer has of it, and stands where is
said beforehand. -/
theorem run_scan (reading : Reading) (bytes : Bytes) (c : Cursor) :
    (reading.scan.run bytes c).2.reads =
        (inBounds bytes (reading.tries bytes c.pos)).reverse ++ c.reads ∧
      (reading.scan.run bytes c).2.pos = reading.target bytes c.pos := by
  cases reading with
  | number kind => exact kind.tries_scan bytes c.pos c rfl
  | raw kind => exact kind.tries_rawScan bytes c.pos c rfl
  | peek kind => exact ⟨(kind.tries_rawScan bytes c.pos c rfl).1, rfl⟩
  | singles count => exact (Scan.Tries.singles count).drop c rfl
  | point => exact Scan.Tries.point.drop c rfl
  | text count => exact (Scan.Tries.text count).drop c rfl
  | countedText => exact Scan.Tries.countedText.drop c rfl
  | slice count => exact (Scan.Tries.slice count).drop c rfl
  | skip count => exact (Scan.Tries.slice count).drop c rfl
  | seek target => exact ⟨rfl, rfl⟩

end Reading

/-- The readers of one buffer, by their positions, and what they have read between them, the latest
first. -/
structure Readers where
  positions : List Nat
  reads : List Span

namespace Readers

/-- A reader is cloned, to stand where it stands or elsewhere, or is asked for something. -/
inductive Deed where
  | clone
  | cloneAt (target : Nat)
  | ask (reading : Reading)

structure Step where
  reader : Nat
  deed : Deed

/-- One reader at the front of a buffer. -/
def start : Readers :=
  ⟨[0], []⟩

/-- A step changes nothing if there is no such reader. -/
def step (bytes : Bytes) (readers : Readers) (step : Step) : Readers :=
  match readers.positions[step.reader]? with
  | none => readers
  | some p =>
    match step.deed with
    | .clone => { readers with positions := readers.positions ++ [p] }
    | .cloneAt target => { readers with positions := readers.positions ++ [target] }
    | .ask reading =>
      let c := (reading.scan.run bytes ⟨p, readers.reads, []⟩).2
      ⟨readers.positions.set step.reader c.pos, c.reads⟩

def after (bytes : Bytes) (readers : Readers) (steps : List Step) : Readers :=
  steps.foldl (step bytes) readers

/-! ### What readers try -/

/-- What a step tries to read with the readers at some positions. -/
def Step.tries (bytes : Bytes) (positions : List Nat) (step : Step) : List Span :=
  match positions[step.reader]?, step.deed with
  | some p, .ask reading => reading.tries bytes p
  | _, _ => []

/-- Where the readers stand after a step. -/
def Step.positions (bytes : Bytes) (positions : List Nat) (step : Step) : List Nat :=
  match positions[step.reader]?, step.deed with
  | none, _ => positions
  | some p, .clone => positions ++ [p]
  | some _, .cloneAt target => positions ++ [target]
  | some p, .ask reading => positions.set step.reader (reading.target bytes p)

/-- What is tried in some steps, one after the other. -/
def tries (bytes : Bytes) (positions : List Nat) : List Step → List Span
  | [] => []
  | step :: steps =>
      step.tries bytes positions ++ tries bytes (step.positions bytes positions) steps

theorem run_step (bytes : Bytes) (readers : Readers) (next : Step) :
    (readers.step bytes next).reads =
        (inBounds bytes (next.tries bytes readers.positions)).reverse ++ readers.reads ∧
      (readers.step bytes next).positions = next.positions bytes readers.positions := by
  obtain ⟨reader, deed⟩ := next
  simp only [step, Step.tries, Step.positions]
  cases readers.positions[reader]? with
  | none => exact ⟨rfl, rfl⟩
  | some p =>
      cases deed with
      | clone => exact ⟨rfl, rfl⟩
      | cloneAt target => exact ⟨rfl, rfl⟩
      | ask reading =>
          obtain ⟨hreads, hpos⟩ := reading.run_scan bytes ⟨p, readers.reads, []⟩
          exact ⟨hreads, congrArg (readers.positions.set reader) hpos⟩

/-- In every run the readers have read what they tried and the buffer has. -/
theorem reads_after (bytes : Bytes) (readers : Readers) (steps : List Step) :
    (readers.after bytes steps).reads =
      (inBounds bytes (tries bytes readers.positions steps)).reverse ++ readers.reads := by
  induction steps generalizing readers with
  | nil => rfl
  | cons next steps ih =>
      obtain ⟨hreads, hpositions⟩ := readers.run_step bytes next
      rw [after, List.foldl_cons, ← after, ih, hreads, hpositions, tries, inBounds_append,
        List.reverse_append, List.append_assoc]

/-- A position of the buffer that no try within the buffer has covered. -/
def Untouched (bytes : Bytes) (steps : List Step) (i : Nat) : Prop :=
  i < bytes.size ∧ ∀ span ∈ tries bytes [0] steps, span.stop ≤ bytes.size → ¬ span.Has i

theorem mem_reads_after {bytes : Bytes} {steps : List Step} {span : Span} :
    span ∈ (start.after bytes steps).reads ↔
      span ∈ tries bytes [0] steps ∧ span.stop ≤ bytes.size := by
  rw [reads_after, start, List.append_nil, List.mem_reverse, mem_inBounds]

theorem runs_untouched (bytes : Bytes) (steps : List Step) :
    Runs (Untouched bytes steps) (unreadSpans bytes.size (start.after bytes steps).reads) := by
  refine (runs_unreadSpans bytes.size _).congr fun i => ?_
  simp only [Untouched, mem_reads_after, and_imp]

/-- What any number of readers leave unread of a buffer, whatever they are asked for and whatever
fails.  The report lists the runs of positions that no try within the buffer has covered: none is
empty, they ascend with a gap between any two, they are all the maximal runs there are, and none
reaches past the end.  A set of addresses that takes in the reads of all buffers leads to the same
report, with every bound of it turned into an end of a span. -/
theorem unread_runs (bytes : Bytes) (steps : List Step) :
    Runs (Untouched bytes steps) (unreadSpans bytes.size (start.after bytes steps).reads) ∧
    (∀ span, span ∈ unreadSpans bytes.size (start.after bytes steps).reads ↔
      span.IsMaximalRun (Untouched bytes steps)) ∧
    (∀ span ∈ unreadSpans bytes.size (start.after bytes steps).reads, span.stop ≤ bytes.size) ∧
    ∀ (sets : RangeSets) (kept : sets.Kept) (origin : Nat), sets.Lawful →
      origin + bytes.size < sets.limit →
      (∀ n, origin ≤ n → n < origin + bytes.size → ¬ sets.Has kept n) →
      sets.report? (sets.register kept origin (start.after bytes steps).reads) origin bytes.size =
        some (unreadSpans bytes.size (start.after bytes steps).reads) := by
  have hruns := runs_untouched bytes steps
  refine ⟨hruns, fun _ => hruns.mem_iff, fun span hspan => ?_, ?_⟩
  · have hrun := hruns.isMaximalRun hspan
    have hnonempty := hrun.nonempty
    have hlast := (hrun.inside (span.stop - 1) ⟨by omega, by omega⟩).1
    omega
  · intro sets kept origin hlawful hlimit hfresh
    exact hlawful.report?_register (fun span hspan => (mem_reads_after.mp hspan).2) hlimit hfresh

/-- A one, a float that is none, two bytes that nobody asks for, two that are no text, two that are
looked at, and one more. -/
def patchyBytes : Bytes :=
  #[0, 0, 128, 63, 0, 0, 192, 127, 7, 7, 1, 1, 9, 9, 5]

/-- A vector that is refused at its second float and an empty slice; then clones that are asked for
a text that is none, for a word behind which the buffer ends, and for the same two bytes twice. -/
def patchySteps : List Step :=
  [⟨0, .ask (.singles 3)⟩, ⟨0, .ask (.slice 0)⟩, ⟨0, .cloneAt 10⟩, ⟨1, .ask (.text 2)⟩,
    ⟨1, .ask (.number .u32)⟩, ⟨1, .ask (.text 101)⟩, ⟨1, .ask (.peek .u16)⟩, ⟨1, .clone⟩,
    ⟨2, .ask (.raw .i16)⟩]

theorem unread_runs_patchy :
    Runs (Untouched patchyBytes patchySteps) [⟨8, 10⟩, ⟨14, 15⟩] ∧
      (RangeSets.masks (2 ^ 64)).report? ((RangeSets.masks (2 ^ 64)).register (fun _ => false) 4096
        (start.after patchyBytes patchySteps).reads) 4096 15 = some [⟨8, 10⟩, ⟨14, 15⟩] := by
  have hspans : unreadSpans patchyBytes.size (start.after patchyBytes patchySteps).reads =
      [⟨8, 10⟩, ⟨14, 15⟩] := by
    decide +kernel
  obtain ⟨hruns, -, -, hreport⟩ := unread_runs patchyBytes patchySteps
  rw [hspans] at hruns hreport
  refine ⟨hruns, hreport _ _ 4096 (RangeSets.lawful_masks _) (by decide) fun n _ hn => ?_⟩
  have hlt : n < 2 ^ 64 := Nat.lt_trans hn (by decide)
  rw [RangeSets.has_masks _ hlt]
  exact Bool.false_ne_true

end Readers

end LevelScript
