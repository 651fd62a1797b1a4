import LevelScript.Proofs.Operands

/-!
Texts in fields.

A text stands in a field of some width: printable bytes, and behind them only zeros.  Reading a
field gives a text exactly if there is one in it; otherwise the width, the end of the buffer and the
bytes of the field are to blame, in this order, and only for its bytes has the field been read.
Printable bytes mean the same text in ASCII and in UTF-8, so that decoding them cannot fail.
-/

namespace LevelScript

/-- The bytes in the field of `count` bytes at `pos` that make up its text. -/
structure TextAt (bytes : Bytes) (pos count : Nat) (body : List UInt8) : Prop where
  fits : pos + count ≤ bytes.size
  printable : ∀ b ∈ body, 0x20 ≤ b ∧ b ≤ 0x7e
  padded : ∃ padding, (bytes.extract pos (pos + count)).toList = body ++ List.replicate padding 0

/-! ### ASCII and UTF-8 -/

/-- A character of ASCII is one byte in UTF-8. -/
theorem utf8EncodeChar_of_toNat_lt {c : Char} (h : c.toNat < 0x80) :
    String.utf8EncodeChar c = [UInt8.ofNat c.toNat] := by
  have hsize : c.utf8Size = 1 := Char.utf8Size_eq_one_iff.mpr (UInt32.le_iff_toNat_le.mpr (by
    change c.toNat ≤ 0x7f
    omega))
  rw [String.utf8EncodeChar_eq_singleton hsize]
  rfl

theorem IsPlain.toUTF8_eq {width : Nat} {text : String} (h : IsPlain width text) :
    text.toUTF8 = (textBytes text).toByteArray := by
  have hchars : text.toList.flatMap String.utf8EncodeChar =
      text.toList.flatMap fun c => [UInt8.ofNat c.toNat] := by
    apply List.flatMap_congr
    intro c hc
    have hprintable := h.printable c hc
    exact utf8EncodeChar_of_toNat_lt (by omega)
  rw [String.toUTF8_eq_toByteArray, ← String.utf8Encode_toList, List.utf8Encode, hchars, textBytes,
    List.map_eq_flatMap]

theorem fromUTF8?_eq_some {data : ByteArray} {text : String} :
    String.fromUTF8? data = some text ↔ text.toUTF8 = data := by
  unfold String.fromUTF8?
  constructor
  · intro h
    split at h
    · cases h
      rfl
    · cases h
  · rintro rfl
    rw [dif_pos (by simpa using text.isValidUTF8)]
    rfl

/-! ### Fields -/

/-- The text that printable bytes mean. -/
theorem isPlain_ofList_bytes {body : List UInt8} (h : ∀ b ∈ body, 0x20 ≤ b ∧ b ≤ 0x7e)
    {width : Nat} (hwidth : body.length ≤ width) :
    IsPlain width (String.ofList (body.map fun b => Char.ofNat b.toNat)) := by
  constructor
  · simpa using hwidth
  · intro c hc
    rw [String.toList_ofList] at hc
    obtain ⟨b, hb, rfl⟩ := List.mem_map.mp hc
    rw [toNat_ofNat_byte]
    exact ⟨UInt8.le_iff_toNat_le.mp (h b hb).1, UInt8.le_iff_toNat_le.mp (h b hb).2⟩

/-- A field holds a text exactly if it is printable bytes and padding, and the text is what the
bytes decode to. -/
theorem paddedText?_eq_some_iff {field : List UInt8} {s : String} :
    paddedText? field = some s ↔ ∃ body padding, field = body ++ List.replicate padding 0 ∧
      (∀ b ∈ body, 0x20 ≤ b ∧ b ≤ 0x7e) ∧ String.fromUTF8? body.toByteArray = some s := by
  constructor
  · intro h
    obtain ⟨hplain, hfield⟩ := paddedText?_eq_some h
    refine ⟨textBytes s, _, hfield, ?_, fromUTF8?_eq_some.mpr hplain.toUTF8_eq⟩
    intro b hb
    simpa [isTextByte] using hplain.isTextByte b hb
  · rintro ⟨body, padding, rfl, hprintable, hdecoded⟩
    have hplain : IsPlain (body ++ List.replicate padding 0).length
        (String.ofList (body.map fun b => Char.ofNat b.toNat)) :=
      isPlain_ofList_bytes hprintable (by simp)
    have hfield : body ++ List.replicate padding 0 = paddedBytes
        (body ++ List.replicate padding 0).length
        (String.ofList (body.map fun b => Char.ofNat b.toNat)) := by
      rw [paddedBytes, textBytes_ofList_bytes]
      simp
    have hsame : String.ofList (body.map fun b => Char.ofNat b.toNat) = s := by
      rw [← String.toByteArray_inj]
      have hutf8 := hplain.toUTF8_eq
      rw [textBytes_ofList_bytes, ← fromUTF8?_eq_some.mp hdecoded] at hutf8
      simpa using hutf8
    rw [hfield, paddedText?_paddedBytes hplain, hsame]

/-- Printable bytes always decode. -/
theorem TextAt.exists_decoded {bytes : Bytes} {pos count : Nat} {body : List UInt8}
    (h : TextAt bytes pos count body) : ∃ s, String.fromUTF8? body.toByteArray = some s := by
  have hutf8 := (isPlain_ofList_bytes h.printable (Nat.le_refl body.length)).toUTF8_eq
  rw [textBytes_ofList_bytes] at hutf8
  exact ⟨_, fromUTF8?_eq_some.mpr hutf8⟩

namespace Scan

variable {bytes : Bytes} {c c' : Cursor} {count : Nat} {s : String}

/-! ### Reading fields -/

theorem run_slice_of_lt (h : bytes.size < c.pos + count) :
    (slice count).run bytes c = (.error (.outOfBounds c.pos count bytes.size), c) :=
  if_neg (Nat.not_le.mpr h)

theorem run_text_of_lt (h : 100 < count) :
    (text count).run bytes c = (.error (.invalidString c.pos), c) := by
  change (if count > textLimit then _ else _ : Scan DataError String).run bytes c = _
  rw [if_pos (show count > textLimit from h), run_fail]

/-- A field that is not too wide is cut out, and then looked at. -/
theorem run_text_of_le (h : count ≤ 100) :
    (text count).run bytes c =
      match (slice count).run bytes c with
      | (.ok field, d) => ((paddedText? field.toList).elim (.error (.invalidString c.pos)) .ok, d)
      | (.error error, d) => (.error error, d) := by
  change (if count > textLimit then _ else _ : Scan DataError String).run bytes c = _
  rw [if_neg (show ¬ count > textLimit from Nat.not_lt.mpr h), run_bind]
  rcases (slice count).run bytes c with ⟨error | field, d⟩
  · rfl
  · dsimp only
    cases paddedText? field.toList with
    | none => rfl
    | some s => rfl

theorem run_text_of_overrun (h : count ≤ 100) (hover : bytes.size < c.pos + count) :
    (text count).run bytes c = (.error (.outOfBounds c.pos count bytes.size), c) := by
  rw [run_text_of_le h, run_slice_of_lt hover]

theorem run_text_of_fits (h : count ≤ 100) (hfit : c.pos + count ≤ bytes.size) :
    (text count).run bytes c =
      ((paddedText? (bytes.extract c.pos (c.pos + count)).toList).elim
        (.error (.invalidString c.pos)) .ok, c.advance count) := by
  rw [run_text_of_le h, run_slice_eq_ok.mpr ⟨hfit, rfl, rfl⟩]

theorem run_text_of_textAt (h : count ≤ 100) {body : List UInt8}
    (hbody : TextAt bytes c.pos count body)
    (hdecoded : String.fromUTF8? body.toByteArray = some s) :
    (text count).run bytes c = (.ok s, c.advance count) := by
  obtain ⟨padding, hfield⟩ := hbody.padded
  have htext := paddedText?_eq_some_iff.mpr ⟨body, padding, hfield, hbody.printable, hdecoded⟩
  rw [run_text_of_fits h hbody.fits, htext]
  rfl

theorem run_text_of_no_text (h : count ≤ 100) (hfit : c.pos + count ≤ bytes.size)
    (hnone : ∀ body, ¬ TextAt bytes c.pos count body) :
    (text count).run bytes c = (.error (.invalidString c.pos), c.advance count) := by
  rw [run_text_of_fits h hfit]
  cases htext : paddedText? (bytes.extract c.pos (c.pos + count)).toList with
  | none => rfl
  | some s =>
      obtain ⟨body, padding, hfield, hprintable, -⟩ := paddedText?_eq_some_iff.mp htext
      exact absurd ⟨hfit, hprintable, padding, hfield⟩ (hnone body)

/-- What can become of reading a field. -/
theorem text_cases (bytes : Bytes) (pos count : Nat) :
    100 < count ∨ count ≤ 100 ∧ (bytes.size < pos + count ∨
      (∃ body s, TextAt bytes pos count body ∧ String.fromUTF8? body.toByteArray = some s) ∨
      pos + count ≤ bytes.size ∧ ∀ body, ¬ TextAt bytes pos count body) := by
  rcases Nat.lt_or_ge 100 count with hwide | hcount
  · exact .inl hwide
  · rcases Nat.lt_or_ge bytes.size (pos + count) with hover | hfit
    · exact .inr ⟨hcount, .inl hover⟩
    · by_cases htext : ∃ body, TextAt bytes pos count body
      · obtain ⟨body, hbody⟩ := htext
        obtain ⟨s, hdecoded⟩ := hbody.exists_decoded
        exact .inr ⟨hcount, .inr (.inl ⟨body, s, hbody, hdecoded⟩)⟩
      · exact .inr ⟨hcount, .inr (.inr ⟨hfit, not_exists.mp htext⟩)⟩

theorem run_text_eq_ok :
    (text count).run bytes c = (.ok s, c') ↔
      count ≤ 100 ∧ (∃ body, TextAt bytes c.pos count body ∧
        String.fromUTF8? body.toByteArray = some s) ∧ c' = c.advance count := by
  constructor
  · intro h
    rcases text_cases bytes c.pos count with
      hwide | ⟨hcount, hover | ⟨body, s', hbody, hdecoded⟩ | ⟨hfit, hnone⟩⟩
    · cases (run_text_of_lt hwide).symm.trans h
    · cases (run_text_of_overrun hcount hover).symm.trans h
    · cases (run_text_of_textAt hcount hbody hdecoded).symm.trans h
      exact ⟨hcount, ⟨body, hbody, hdecoded⟩, rfl⟩
    · cases (run_text_of_no_text hcount hfit hnone).symm.trans h
  · rintro ⟨hcount, ⟨body, hbody, hdecoded⟩, rfl⟩
    exact run_text_of_textAt hcount hbody hdecoded

theorem run_text_eq_error {error : DataError} :
    (text count).run bytes c = (.error error, c') ↔
      (100 < count ∧ error = .invalidString c.pos ∧ c' = c) ∨
      (count ≤ 100 ∧ bytes.size < c.pos + count ∧
        error = .outOfBounds c.pos count bytes.size ∧ c' = c) ∨
      (count ≤ 100 ∧ c.pos + count ≤ bytes.size ∧ (∀ body, ¬ TextAt bytes c.pos count body) ∧
        error = .invalidString c.pos ∧ c' = c.advance count) := by
  constructor
  · intro h
    rcases text_cases bytes c.pos count with
      hwide | ⟨hcount, hover | ⟨body, s, hbody, hdecoded⟩ | ⟨hfit, hnone⟩⟩
    · cases (run_text_of_lt hwide).symm.trans h
      exact .inl ⟨hwide, rfl, rfl⟩
    · cases (run_text_of_overrun hcount hover).symm.trans h
      exact .inr (.inl ⟨hcount, hover, rfl, rfl⟩)
    · cases (run_text_of_textAt hcount hbody hdecoded).symm.trans h
    · cases (run_text_of_no_text hcount hfit hnone).symm.trans h
      exact .inr (.inr ⟨hcount, hfit, hnone, rfl, rfl⟩)
  · rintro (⟨hwide, rfl, rfl⟩ | ⟨hcount, hover, rfl, rfl⟩ | ⟨hcount, hfit, hnone, rfl, rfl⟩)
    · exact run_text_of_lt hwide
    · exact run_text_of_overrun hcount hover
    · exact run_text_of_no_text hcount hfit hnone

theorem run_u8_eq_ok {b : UInt8} :
    u8.run bytes c = (.ok b, c') ↔ bytes[c.pos]? = some b ∧ c' = c.advance 1 := by
  have hbyte (h : c.pos < bytes.size) :
      UInt8.ofNat (littleEndian (bytes.extract c.pos (c.pos + 1)).toList) = bytes[c.pos] := by
    simp [List.take_one, h, littleEndian]
  simp only [u8, unsigned, run_bind_eq_ok, run_pure_eq_ok, run_slice_eq_ok]
  constructor
  · rintro ⟨_, _, ⟨_, _, ⟨hfit, rfl, rfl⟩, rfl, rfl⟩, rfl, rfl⟩
    have hlt : c.pos < bytes.size := hfit
    rw [hbyte hlt]
    exact ⟨Array.getElem?_eq_getElem hlt, rfl⟩
  · rintro ⟨hread, rfl⟩
    obtain ⟨hlt, rfl⟩ := Array.getElem?_eq_some_iff.mp hread
    exact ⟨_, _, ⟨_, _, ⟨hlt, rfl, rfl⟩, rfl, rfl⟩, hbyte hlt, rfl⟩

theorem run_countedText_eq_ok :
    countedText.run bytes c = (.ok s, c') ↔
      ∃ width : UInt8, bytes[c.pos]? = some width ∧ width.toNat ≤ 100 ∧
        (∃ body, TextAt bytes (c.pos + 1) width.toNat body ∧
          String.fromUTF8? body.toByteArray = some s) ∧
        c' = (c.advance 1).advance width.toNat := by
  rw [countedText, run_bind_eq_ok]
  simp only [run_u8_eq_ok, run_text_eq_ok]
  constructor
  · rintro ⟨width, _, ⟨hwidth, rfl⟩, htext⟩
    exact ⟨width, hwidth, htext⟩
  · rintro ⟨width, hwidth, htext⟩
    exact ⟨width, _, ⟨hwidth, rfl⟩, htext⟩

/-- What reading a text comes to, whatever the buffer, the position and the width.  It gives a text
exactly if the field is not too wide, lies within the buffer and has that text in it, and then it
ends behind the field.  It fails on a field that is too wide before it looks at the buffer, then on
one that reaches past the end, and in both cases stays where it is; a field without a text it leaves
behind.  The bytes of a text always decode.  A counted text is a byte with the width of a field and
that field. -/
theorem text_outcomes (bytes : Bytes) (c : Cursor) (count : Nat) :
    (∀ s c', (text count).run bytes c = (.ok s, c') ↔
      count ≤ 100 ∧ (∃ body, TextAt bytes c.pos count body ∧
        String.fromUTF8? body.toByteArray = some s) ∧ c' = c.advance count) ∧
    (∀ error c', (text count).run bytes c = (.error error, c') ↔
      (100 < count ∧ error = .invalidString c.pos ∧ c' = c) ∨
      (count ≤ 100 ∧ bytes.size < c.pos + count ∧
        error = .outOfBounds c.pos count bytes.size ∧ c' = c) ∨
      (count ≤ 100 ∧ c.pos + count ≤ bytes.size ∧ (∀ body, ¬ TextAt bytes c.pos count body) ∧
        error = .invalidString c.pos ∧ c' = c.advance count)) ∧
    (∀ body, TextAt bytes c.pos count body → ∃ s, String.fromUTF8? body.toByteArray = some s) ∧
    (∀ s c', countedText.run bytes c = (.ok s, c') ↔
      ∃ width : UInt8, bytes[c.pos]? = some width ∧ width.toNat ≤ 100 ∧
        (∃ body, TextAt bytes (c.pos + 1) width.toNat body ∧
          String.fromUTF8? body.toByteArray = some s) ∧
        c' = (c.advance 1).advance width.toNat) :=
  ⟨fun _ _ => run_text_eq_ok, fun _ _ => run_text_eq_error, fun _ hbody => hbody.exists_decoded,
    fun _ _ => run_countedText_eq_ok⟩

/-- A counted text with its padding, then a field in which a letter stands behind a zero. -/
def doorBytes : Bytes :=
  #[6, 68, 79, 79, 82, 0, 0, 66, 0, 67]

theorem text_outcomes_door :
    (∃ c', countedText.run doorBytes (.start 0) = (.ok "DOOR", c') ∧ c'.pos = 7) ∧
      (∀ body, ¬ TextAt doorBytes 7 3 body) ∧
      ∃ c', (text 3).run doorBytes (.start 7) = (.error (.invalidString 7), c') ∧ c'.pos = 10 := by
  have hdoor : TextAt doorBytes 1 6 [68, 79, 79, 82] :=
    ⟨by decide, by simp, 2, by decide⟩
  have hdecoded : String.fromUTF8? [68, 79, 79, 82].toByteArray = some "DOOR" :=
    fromUTF8?_eq_some.mpr (by decide)
  obtain ⟨-, -, -, hcounted⟩ := text_outcomes doorBytes (.start 0) 6
  obtain ⟨-, hfailed, -, -⟩ := text_outcomes doorBytes (.start 7) 3
  have hread : (text 3).run doorBytes (.start 7) =
      (.error (.invalidString 7), (Cursor.start 7).advance 3) :=
    Prod.ext (by decide +kernel) rfl
  refine ⟨⟨_, (hcounted _ _).mpr ⟨6, rfl, by decide, ⟨_, hdoor, hdecoded⟩, rfl⟩, rfl⟩, ?_, _, hread,
    rfl⟩
  rcases (hfailed _ _).mp hread with ⟨hwide, -⟩ | ⟨-, hover, -⟩ | ⟨-, -, hnone, -⟩
  · exact absurd hwide (by decide)
  · exact absurd hover (by decide)
  · exact hnone

end Scan

end LevelScript
