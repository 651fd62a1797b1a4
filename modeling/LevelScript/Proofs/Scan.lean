import LevelScript.Variable

/-!
Laws of scans.

A regular scan never looks at what its cursor carries along: from a position it always gives the
same result, moves the same way and leaves the same behind.  It never goes back, and never past the
end of the buffer, and every script or block that it comes across is a word of the buffer.  Scans
that only read are regular, and so is whatever is put together from regular scans; what is known of
a result is handed on to the scan that uses it.  Two scans of the same bytes agree on where to go on
if they take as many of them.
-/

namespace LevelScript

namespace Cursor

/-- The cursor `c` after a scan that, with nothing carried along, left `d` behind. -/
def join (c d : Cursor) : Cursor :=
  ⟨d.pos, d.reads ++ c.reads, c.finds ++ d.finds⟩

@[simp]
theorem join_pos (c d : Cursor) : (c.join d).pos = d.pos := rfl

@[simp]
theorem join_start (c : Cursor) : c.join (.start c.pos) = c := by
  cases c
  simp [join, start]

@[simp]
theorem start_pos (pos : Nat) : (Cursor.start pos).pos = pos := rfl

theorem join_assoc (c d e : Cursor) : (c.join d).join e = c.join (d.join e) := by
  simp [join, List.append_assoc]

@[simp]
theorem advance_pos (c : Cursor) (count : Nat) : (c.advance count).pos = c.pos + count := rfl

end Cursor

namespace Scan

variable {ε α β : Type}

/-! ### Running -/

theorem run_pure (a : α) (bytes : Bytes) (c : Cursor) :
    (pure a : Scan ε α).run bytes c = (.ok a, c) := rfl

theorem run_fail (e : ε) (bytes : Bytes) (c : Cursor) :
    (fail e : Scan ε α).run bytes c = (.error e, c) := rfl

theorem run_bind (x : Scan ε α) (f : α → Scan ε β) (bytes : Bytes) (c : Cursor) :
    (x >>= f).run bytes c =
      match x.run bytes c with
      | (.ok a, c') => (f a).run bytes c'
      | (.error e, c') => (.error e, c') := rfl

@[simp]
theorem liftM_eq_forScript (x : Scan DataError α) :
    (liftM x : Scan ScriptFailure α) = forScript x := rfl

@[simp]
theorem run_pure_eq_ok {a b : α} {bytes : Bytes} {c c' : Cursor} :
    (pure a : Scan ε α).run bytes c = (.ok b, c') ↔ a = b ∧ c = c' := by
  simp [run_pure]

@[simp]
theorem run_fail_ne_ok {e : ε} {b : α} {bytes : Bytes} {c c' : Cursor} :
    (fail e : Scan ε α).run bytes c = (.ok b, c') ↔ False := by
  simp [run_fail]

/-- A composed scan succeeds when its parts do, one after the other. -/
@[simp]
theorem run_bind_eq_ok {x : Scan ε α} {f : α → Scan ε β} {bytes : Bytes} {c c' : Cursor} {b : β} :
    (x >>= f).run bytes c = (.ok b, c') ↔
      ∃ a d, x.run bytes c = (.ok a, d) ∧ (f a).run bytes d = (.ok b, c') := by
  rw [run_bind]
  rcases hx : x.run bytes c with ⟨e | a, d⟩
  · simp
  · constructor
    · intro hf
      exact ⟨a, d, rfl, hf⟩
    · rintro ⟨a', d', heq, hf⟩
      simp only [Prod.mk.injEq, Except.ok.injEq] at heq
      rcases heq with ⟨rfl, rfl⟩
      exact hf

theorem run_forScript (x : Scan DataError α) (bytes : Bytes) (c : Cursor) :
    (forScript x).run bytes c =
      match x.run bytes c with
      | (.ok a, c') => (.ok a, c')
      | (.error e, c') => (.error (.format e), c') := rfl

@[simp]
theorem run_forScript_eq_ok {x : Scan DataError α} {bytes : Bytes} {c c' : Cursor} {a : α} :
    (forScript x).run bytes c = (.ok a, c') ↔ x.run bytes c = (.ok a, c') := by
  rw [run_forScript]
  rcases x.run bytes c with ⟨e | a', d⟩ <;> simp

@[simp]
theorem run_ofExcept_eq_ok {x : Except ε α} {bytes : Bytes} {c c' : Cursor} {a : α} :
    (ofExcept x).run bytes c = (.ok a, c') ↔ x = .ok a ∧ c = c' := by
  cases x with
  | error e => simp [ofExcept]
  | ok a' => simp [ofExcept]

theorem run_forScript_snd (x : Scan DataError α) (bytes : Bytes) (c : Cursor) :
    ((forScript x).run bytes c).2 = (x.run bytes c).2 := by
  rw [run_forScript]
  rcases x.run bytes c with ⟨e | a', d⟩ <;> rfl

theorem run_orElse (x y : Scan ε α) (bytes : Bytes) (c : Cursor) :
    (x.orElse y).run bytes c =
      match x.run bytes c with
      | (.ok a, c') => (.ok a, c')
      | (.error _, c') => y.run bytes c' := rfl

theorem run_visit (x : Scan ε α) (target : Nat) (bytes : Bytes) (c : Cursor) :
    (x.visit target).run bytes c =
      ((x.run bytes { c with pos := target }).1,
        { (x.run bytes { c with pos := target }).2 with pos := c.pos }) := rfl

theorem run_slice_eq_ok {count : Nat} {bytes data : Bytes} {c c' : Cursor} :
    (slice count).run bytes c = (.ok data, c') ↔
      c.pos + count ≤ bytes.size ∧ bytes.extract c.pos (c.pos + count) = data ∧
        c.advance count = c' := by
  by_cases hfit : c.pos + count ≤ bytes.size
  · simp [slice, run, hfit]
  · simp [slice, run, hfit]

/-! ### Regular scans -/

end Scan

/-- A number that stands somewhere in the buffer as a word. -/
def IsWord (bytes : Bytes) (word : UInt32) : Prop :=
  ∃ pos, wordAt? bytes pos = some word

/-- The words of a buffer, one for each position at which a word fits. -/
def words (bytes : Bytes) : List UInt32 :=
  (List.range (bytes.size - 3)).filterMap (wordAt? bytes)

theorem mem_words {bytes : Bytes} {word : UInt32} (h : IsWord bytes word) : word ∈ words bytes := by
  obtain ⟨pos, hpos⟩ := h
  have hlt : pos < bytes.size - 3 := by
    unfold wordAt? at hpos
    split at hpos
    · omega
    · cases hpos
  exact List.mem_filterMap.mpr ⟨pos, List.mem_range.mpr hlt, hpos⟩

theorem length_words_le (bytes : Bytes) : (words bytes).length ≤ bytes.size - 3 := by
  have hle := List.length_filterMap_le (wordAt? bytes) (List.range (bytes.size - 3))
  rwa [List.length_range] at hle

/-- A script or a block that an instruction refers to stands in the buffer as a word. -/
def Reference.Grounded (bytes : Bytes) : Reference → Prop
  | block offset => IsWord bytes offset
  | script _ offset _ => IsWord bytes offset
  | _ => True

namespace Scan

/-- A scan that depends on nothing but the buffer and its position, moves forward within the buffer
and comes across grounded references only; what it gives has the property `holds`. -/
structure Regular (bytes : Bytes) (holds : α → Prop) (scan : Scan ε α) : Prop where
  run_eq : ∀ c, scan.run bytes c =
    ((scan.run bytes (.start c.pos)).1, c.join (scan.run bytes (.start c.pos)).2)
  le_pos : ∀ pos, pos ≤ (scan.run bytes (.start pos)).2.pos
  pos_le : ∀ pos, pos ≤ bytes.size → (scan.run bytes (.start pos)).2.pos ≤ bytes.size
  finds : ∀ pos, ∀ reference ∈ (scan.run bytes (.start pos)).2.finds, reference.Grounded bytes
  result : ∀ pos a, (scan.run bytes (.start pos)).1 = .ok a → holds a

/-- Nothing is known of what a scan gives. -/
def Any (_ : α) : Prop :=
  True

namespace Regular

variable {bytes : Bytes} {holds : α → Prop}

theorem run_snd {scan : Scan ε α} (h : scan.Regular bytes holds) (c : Cursor) :
    (scan.run bytes c).2 = c.join (scan.run bytes (.start c.pos)).2 := by
  rw [h.run_eq]

/-- From the same position a regular scan gives the same result and ends at the same position. -/
theorem run_congr {scan : Scan ε α} (h : scan.Regular bytes holds) {c d : Cursor}
    (hpos : c.pos = d.pos) :
    (scan.run bytes c).1 = (scan.run bytes d).1 ∧
      (scan.run bytes c).2.pos = (scan.run bytes d).2.pos := by
  rw [h.run_eq c, h.run_eq d, hpos]
  exact ⟨rfl, rfl⟩

theorem run_le_pos {scan : Scan ε α} (h : scan.Regular bytes holds) (c : Cursor) :
    c.pos ≤ (scan.run bytes c).2.pos := by
  rw [h.run_snd]
  exact h.le_pos c.pos

theorem run_pos_le {scan : Scan ε α} (h : scan.Regular bytes holds) {c : Cursor}
    (hc : c.pos ≤ bytes.size) : (scan.run bytes c).2.pos ≤ bytes.size := by
  rw [h.run_snd]
  exact h.pos_le c.pos hc

theorem run_finds {scan : Scan ε α} (h : scan.Regular bytes holds) {c : Cursor}
    (hc : ∀ reference ∈ c.finds, reference.Grounded bytes) :
    ∀ reference ∈ (scan.run bytes c).2.finds, reference.Grounded bytes := by
  rw [h.run_snd]
  intro reference hreference
  rcases List.mem_append.mp hreference with hold | hnew
  · exact hc reference hold
  · exact h.finds c.pos reference hnew

theorem run_result {scan : Scan ε α} (h : scan.Regular bytes holds) {c c' : Cursor} {a : α}
    (hrun : scan.run bytes c = (.ok a, c')) : holds a := by
  rw [h.run_eq] at hrun
  exact h.result c.pos a (congrArg Prod.fst hrun)

/-- What holds of every result may be weakened. -/
theorem imp {scan : Scan ε α} {other : α → Prop} (h : scan.Regular bytes holds)
    (himp : ∀ a, holds a → other a) : scan.Regular bytes other :=
  ⟨h.run_eq, h.le_pos, h.pos_le, h.finds, fun pos a ha => himp a (h.result pos a ha)⟩

theorem pure {a : α} (ha : holds a) : (Pure.pure a : Scan ε α).Regular bytes holds where
  run_eq c := by simp [run_pure]
  le_pos pos := Nat.le_refl pos
  pos_le _ hpos := hpos
  finds _ reference hreference := absurd hreference List.not_mem_nil
  result _ b hb := by
    cases hb
    exact ha

/-- A scan that gives something of which nothing needs to be known. -/
theorem done {a : α} : (Pure.pure a : Scan ε α).Regular bytes Any :=
  pure trivial

theorem fail (e : ε) : (Scan.fail e : Scan ε α).Regular bytes holds where
  run_eq c := by simp [run_fail]
  le_pos pos := Nat.le_refl pos
  pos_le _ hpos := hpos
  finds _ reference hreference := absurd hreference List.not_mem_nil
  result _ b hb := by cases hb

theorem pos : (Scan.pos : Scan ε Nat).Regular bytes Any where
  run_eq c := by simp [Scan.pos, run]
  le_pos pos := Nat.le_refl pos
  pos_le _ hpos := hpos
  finds _ reference hreference := absurd hreference List.not_mem_nil
  result _ _ _ := trivial

theorem find {reference : Reference} (hreference : reference.Grounded bytes) :
    (Scan.find reference : Scan ε Unit).Regular bytes Any where
  run_eq c := by
    cases c
    simp [Scan.find, run, Cursor.join, Cursor.start]
  le_pos pos := Nat.le_refl pos
  pos_le _ hpos := hpos
  finds _ other hother := by
    simp only [Scan.find, run, Cursor.start, List.nil_append, List.mem_singleton] at hother
    rwa [hother]
  result _ _ _ := trivial

/-- The next bytes are a part of the buffer. -/
theorem slice (count : Nat) :
    (Scan.slice count).Regular bytes fun data =>
      ∃ pos, pos + count ≤ bytes.size ∧ data = bytes.extract pos (pos + count) where
  run_eq c := by
    by_cases hfit : c.pos + count ≤ bytes.size
    · simp [Scan.slice, run, hfit, Cursor.advance, Cursor.join, Cursor.start]
    · simp [Scan.slice, run, hfit]
  le_pos pos := by
    by_cases hfit : pos + count ≤ bytes.size
    · simp [Scan.slice, run, hfit]
    · simp [Scan.slice, run, hfit]
  pos_le pos hpos := by
    by_cases hfit : pos + count ≤ bytes.size
    · simp [Scan.slice, run, hfit]
    · simpa [Scan.slice, run, hfit] using hpos
  finds pos reference hreference := by
    by_cases hfit : pos + count ≤ bytes.size
    · simp [Scan.slice, run, hfit, Cursor.advance, Cursor.start] at hreference
    · simp [Scan.slice, run, hfit, Cursor.start] at hreference
  result pos data hdata := by
    by_cases hfit : pos + count ≤ bytes.size
    · simp only [Scan.slice, run, Cursor.start_pos, hfit, ↓reduceIte, Except.ok.injEq] at hdata
      exact ⟨pos, hfit, hdata.symm⟩
    · simp [Scan.slice, run, hfit] at hdata

/-- The second scan may rely on what the first one gives. -/
theorem bind {x : Scan ε α} {f : α → Scan ε β} {holds' : β → Prop}
    (hx : x.Regular bytes holds) (hf : ∀ a, holds a → (f a).Regular bytes holds') :
    (x >>= f).Regular bytes holds' where
  run_eq c := by
    rw [run_bind, run_bind, hx.run_eq c]
    rcases hrun : x.run bytes (.start c.pos) with ⟨e | a, d⟩
    · rfl
    · have hfa := hf a (hx.run_result hrun)
      dsimp only
      rw [hfa.run_eq (c.join d), hfa.run_eq d, Cursor.join_pos, Cursor.join_assoc]
  le_pos pos := by
    have hle := hx.le_pos pos
    rw [run_bind]
    rcases hrun : x.run bytes (.start pos) with ⟨e | a, d⟩
    · simpa [hrun] using hle
    · rw [hrun] at hle
      exact Nat.le_trans hle ((hf a (hx.run_result hrun)).run_le_pos d)
  pos_le pos hpos := by
    have hle := hx.pos_le pos hpos
    rw [run_bind]
    rcases hrun : x.run bytes (.start pos) with ⟨e | a, d⟩
    · simpa [hrun] using hle
    · rw [hrun] at hle
      exact (hf a (hx.run_result hrun)).run_pos_le hle
  finds pos := by
    have hfinds := hx.finds pos
    rw [run_bind]
    rcases hrun : x.run bytes (.start pos) with ⟨e | a, d⟩
    · simpa [hrun] using hfinds
    · rw [hrun] at hfinds
      exact (hf a (hx.run_result hrun)).run_finds hfinds
  result pos b hb := by
    rw [run_bind] at hb
    rcases hrun : x.run bytes (.start pos) with ⟨e | a, d⟩
    · simp [hrun] at hb
    · rw [hrun] at hb
      exact (hf a (hx.run_result hrun)).run_result (Prod.ext hb rfl)

theorem orElse {x y : Scan ε α} (hx : x.Regular bytes holds) (hy : y.Regular bytes holds) :
    (x.orElse y).Regular bytes holds where
  run_eq c := by
    rw [run_orElse, run_orElse, hx.run_eq c]
    rcases x.run bytes (.start c.pos) with ⟨e | a, d⟩
    · dsimp only
      rw [hy.run_eq (c.join d), hy.run_eq d, Cursor.join_pos, Cursor.join_assoc]
    · rfl
  le_pos pos := by
    have hle := hx.le_pos pos
    rw [run_orElse]
    rcases hrun : x.run bytes (.start pos) with ⟨e | a, d⟩
    · rw [hrun] at hle
      exact Nat.le_trans hle (hy.run_le_pos d)
    · simpa [hrun] using hle
  pos_le pos hpos := by
    have hle := hx.pos_le pos hpos
    rw [run_orElse]
    rcases hrun : x.run bytes (.start pos) with ⟨e | a, d⟩
    · rw [hrun] at hle
      exact hy.run_pos_le hle
    · simpa [hrun] using hle
  finds pos := by
    have hfinds := hx.finds pos
    rw [run_orElse]
    rcases hrun : x.run bytes (.start pos) with ⟨e | a, d⟩
    · rw [hrun] at hfinds
      exact hy.run_finds hfinds
    · simpa [hrun] using hfinds
  result pos b hb := by
    rw [run_orElse] at hb
    rcases hrun : x.run bytes (.start pos) with ⟨e | a, d⟩
    · rw [hrun] at hb
      exact hy.run_result (Prod.ext hb rfl)
    · rw [hrun] at hb
      cases hb
      exact hx.run_result hrun

theorem forScript {x : Scan DataError α} (hx : x.Regular bytes holds) :
    (Scan.forScript x).Regular bytes holds where
  run_eq c := by
    rw [run_forScript, run_forScript, hx.run_eq c]
    rcases x.run bytes (.start c.pos) with ⟨e | a, d⟩ <;> rfl
  le_pos pos := by
    rw [run_forScript_snd]
    exact hx.le_pos pos
  pos_le pos hpos := by
    rw [run_forScript_snd]
    exact hx.pos_le pos hpos
  finds pos := by
    rw [run_forScript_snd]
    exact hx.finds pos
  result pos b hb := by
    rw [run_forScript] at hb
    rcases hrun : x.run bytes (.start pos) with ⟨e | a, d⟩
    · simp [hrun] at hb
    · rw [hrun] at hb
      cases hb
      exact hx.run_result hrun

theorem visit (target : Nat) {x : Scan ε α} (hx : x.Regular bytes holds) :
    (x.visit target).Regular bytes holds where
  run_eq c := by
    rw [run_visit, run_visit, hx.run_eq { c with pos := target },
      hx.run_eq { Cursor.start c.pos with pos := target }]
    simp [Cursor.join, Cursor.start]
  le_pos pos := Nat.le_refl pos
  pos_le _ hpos := hpos
  finds _ := hx.finds target
  result _ := hx.result target

theorem peek {x : Scan ε α} (hx : x.Regular bytes holds) : (Scan.peek x).Regular bytes holds where
  run_eq c := (visit c.pos hx).run_eq c
  le_pos pos := Nat.le_refl pos
  pos_le _ hpos := hpos
  finds pos := hx.finds pos
  result pos := hx.result pos

theorem times {x : Scan ε α} (hx : x.Regular bytes holds) (count : Nat) :
    (x.times count).Regular bytes Any := by
  induction count with
  | zero => exact done
  | succ count ih => exact hx.bind fun _ _ => ih.bind fun _ _ => done

theorem ite {p : Prop} [Decidable p] {x y : Scan ε α} (hx : x.Regular bytes holds)
    (hy : y.Regular bytes holds) : (if p then x else y).Regular bytes holds := by
  by_cases hp : p
  · simpa [hp] using hx
  · simpa [hp] using hy

/-! ### Numbers and texts -/

theorem skip (count : Nat) : (Scan.skip count).Regular bytes Any :=
  bind (slice count) fun _ _ => done

theorem unsigned (count : Nat) : (Scan.unsigned count).Regular bytes Any :=
  bind (slice count) fun _ _ => done

theorem u8 : Scan.u8.Regular bytes Any :=
  bind (unsigned 1) fun _ _ => done

theorem u16 : Scan.u16.Regular bytes Any :=
  bind (unsigned 2) fun _ _ => done

/-- A number of four bytes is a word of the buffer. -/
theorem u32 : Scan.u32.Regular bytes (IsWord bytes) := by
  have hunsigned : (Scan.unsigned 4).Regular bytes fun n => IsWord bytes (.ofNat n) := by
    refine bind (slice 4) fun data hdata => pure ?_
    obtain ⟨pos, hfit, rfl⟩ := hdata
    exact ⟨pos, by simp [wordAt?, hfit]⟩
  exact bind hunsigned fun _ hword => pure hword

theorem i16 : Scan.i16.Regular bytes Any :=
  bind u16 fun _ _ => done

theorem i32 : Scan.i32.Regular bytes Any :=
  bind u32 fun _ _ => done

theorem rawSingle : Scan.rawSingle.Regular bytes Any :=
  bind u32 fun _ _ => done

theorem single : Scan.single.Regular bytes Any :=
  bind pos fun _ _ => bind rawSingle fun _ _ => ite (done) (fail _)

theorem point : Scan.point.Regular bytes Any :=
  bind single fun _ _ => bind single fun _ _ => bind single fun _ _ => done

theorem text (count : Nat) : (Scan.text count).Regular bytes Any := by
  refine bind pos fun offset _ => ite (fail _) (bind (slice count) fun field _ => ?_)
  cases paddedText? field.toList with
  | none => exact fail _
  | some s => exact done

theorem countedText : Scan.countedText.Regular bytes Any :=
  bind u8 fun _ _ => text _

end Regular

/-! ### Scans at a position -/

variable {bytes : Bytes}

/-- From every cursor at `p` the scan gives `a` and ends at `q`. -/
def Gives (bytes : Bytes) (scan : Scan ε α) (p : Nat) (a : α) (q : Nat) : Prop :=
  ∀ c : Cursor, c.pos = p → ∃ c', scan.run bytes c = (.ok a, c') ∧ c'.pos = q

namespace Gives

theorem of_run {scan : Scan ε α} {holds : α → Prop} (h : scan.Regular bytes holds) {c c' : Cursor}
    {a : α} (hrun : scan.run bytes c = (.ok a, c')) : scan.Gives bytes c.pos a c'.pos := by
  intro d hd
  obtain ⟨hresult, hpos⟩ := h.run_congr hd
  rw [hrun] at hresult hpos
  exact ⟨(scan.run bytes d).2, Prod.ext hresult rfl, hpos⟩

theorem pure (a : α) (p : Nat) : (Pure.pure a : Scan ε α).Gives bytes p a p :=
  fun c hc => ⟨c, rfl, hc⟩

theorem bind {x : Scan ε α} {f : α → Scan ε β} {p q r : Nat} {a : α} {b : β}
    (hx : x.Gives bytes p a q) (hf : (f a).Gives bytes q b r) : (x >>= f).Gives bytes p b r := by
  intro c hc
  obtain ⟨d, hd, hdpos⟩ := hx c hc
  obtain ⟨e, he, hepos⟩ := hf d hdpos
  exact ⟨e, run_bind_eq_ok.mpr ⟨a, d, hd, he⟩, hepos⟩

theorem forScript {x : Scan DataError α} {p q : Nat} {a : α} (hx : x.Gives bytes p a q) :
    (Scan.forScript x).Gives bytes p a q := by
  intro c hc
  obtain ⟨d, hd, hdpos⟩ := hx c hc
  exact ⟨d, run_forScript_eq_ok.mpr hd, hdpos⟩

theorem slice {count p : Nat} (hfit : p + count ≤ bytes.size) :
    (Scan.slice count).Gives bytes p (bytes.extract p (p + count)) (p + count) := by
  rintro c rfl
  exact ⟨c.advance count, run_slice_eq_ok.mpr ⟨hfit, rfl, rfl⟩, rfl⟩

theorem unsigned {count p : Nat} (hfit : p + count ≤ bytes.size) :
    ∃ n, (Scan.unsigned count).Gives bytes p n (p + count) :=
  ⟨_, (slice hfit).bind (.pure _ _)⟩

theorem u8 {p : Nat} (hfit : p + 1 ≤ bytes.size) : ∃ b, Scan.u8.Gives bytes p b (p + 1) := by
  obtain ⟨n, hn⟩ := unsigned hfit
  exact ⟨_, hn.bind (.pure _ _)⟩

theorem rawSingle {p : Nat} (hfit : p + 4 ≤ bytes.size) :
    ∃ x, Scan.rawSingle.Gives bytes p x (p + 4) := by
  obtain ⟨n, hn⟩ := unsigned hfit
  have hword : Scan.u32.Gives bytes p (.ofNat n) (p + 4) := hn.bind (.pure _ _)
  exact ⟨_, hword.bind (.pure _ _)⟩

end Gives

/-- A scan that, where it succeeds, takes so many bytes. -/
def Takes (count : Nat) (scan : Scan ε α) : Prop :=
  ∀ (bytes : Bytes) (c c' : Cursor) (a : α), scan.run bytes c = (.ok a, c') →
    c'.pos = c.pos + count ∧ (0 < count → c.pos + count ≤ bytes.size)

namespace Takes

theorem pure (a : α) : (Pure.pure a : Scan ε α).Takes 0 := by
  intro bytes c c' b h
  obtain ⟨_, rfl⟩ := run_pure_eq_ok.mp h
  exact ⟨rfl, fun hlt => absurd hlt (Nat.lt_irrefl 0)⟩

theorem fail (e : ε) (count : Nat) : (Scan.fail e : Scan ε α).Takes count :=
  fun _ _ _ _ h => absurd h (by simp)

theorem bind {x : Scan ε α} {f : α → Scan ε β} {m n : Nat} (hx : x.Takes m)
    (hf : ∀ a, (f a).Takes n) : (x >>= f).Takes (m + n) := by
  intro bytes c c' b h
  obtain ⟨a, d, hd, hc'⟩ := run_bind_eq_ok.mp h
  obtain ⟨hdpos, hdfit⟩ := hx bytes c d a hd
  obtain ⟨hpos, hfit⟩ := hf a bytes d c' b hc'
  exact ⟨by omega, by omega⟩

theorem forScript {x : Scan DataError α} {count : Nat} (hx : x.Takes count) :
    (Scan.forScript x).Takes count :=
  fun bytes c c' a h => hx bytes c c' a (run_forScript_eq_ok.mp h)

theorem ite {p : Prop} [Decidable p] {x y : Scan ε α} {count : Nat} (hx : x.Takes count)
    (hy : y.Takes count) : (if p then x else y).Takes count := by
  by_cases hp : p
  · simpa [hp] using hx
  · simpa [hp] using hy

theorem slice (count : Nat) : (Scan.slice count).Takes count := by
  intro bytes c c' data h
  obtain ⟨hfit, _, rfl⟩ := run_slice_eq_ok.mp h
  exact ⟨rfl, fun _ => hfit⟩

theorem unsigned (count : Nat) : (Scan.unsigned count).Takes count :=
  bind (slice count) fun _ => pure _

theorem u8 : Scan.u8.Takes 1 :=
  bind (unsigned 1) fun _ => pure _

theorem u16 : Scan.u16.Takes 2 :=
  bind (unsigned 2) fun _ => pure _

theorem u32 : Scan.u32.Takes 4 :=
  bind (unsigned 4) fun _ => pure _

theorem i16 : Scan.i16.Takes 2 :=
  bind u16 fun _ => pure _

theorem i32 : Scan.i32.Takes 4 :=
  bind u32 fun _ => pure _

theorem rawSingle : Scan.rawSingle.Takes 4 :=
  bind u32 fun _ => pure _

theorem pos : (Scan.pos : Scan ε Nat).Takes 0 := by
  rintro bytes c c' a ⟨⟩
  exact ⟨rfl, fun hlt => absurd hlt (Nat.lt_irrefl 0)⟩

theorem single : Scan.single.Takes 4 :=
  bind pos fun _ => bind rawSingle fun _ => ite (pure _) (fail _ _)

theorem point : Scan.point.Takes 12 :=
  bind single fun _ => bind single fun _ => bind single fun _ => pure _

theorem scope : Scan.scope.Takes 1 := by
  refine bind (forScript u8) fun tag => (?_ : Takes 0 _)
  split
  · exact fail _ _
  · exact fail _ _
  · exact fail _ _
  · exact pure _

theorem ofExcept (x : Except ε α) : (Scan.ofExcept x).Takes 0 := by
  cases x with
  | error e => exact fail e 0
  | ok a => exact pure a

theorem variableOf (known : Scope) : (Scan.variableOf known).Takes 1 :=
  bind (forScript u8) fun _ => ofExcept _

theorem variableTarget (opcode : UInt8) : (Scan.variableTarget opcode).Takes 2 :=
  bind scope fun _ => ite (fail _ _) (variableOf _)

end Takes

end Scan

end LevelScript
