import LineShell.Text.Utf8

/-!
# Text read back

A text that was stored is read back as it was, also behind bytes that are no text: the first byte of
a character never continues one that was started before it, so an unfinished character is read as
ill-formed there just as it is at the end of all bytes.
-/

namespace LineShell.Utf8

namespace Decoder

variable {decoder : Decoder} {byte : UInt8}

/-- The characters read so far, the last one first, if no more bytes of the started one come. -/
def settled (decoder : Decoder) : Text :=
  if decoder.needed = 0 then decoder.output else replacement :: decoder.output

@[simp]
theorem settled_resting (output : Text) : (resting output).settled = output := rfl

theorem finish_eq (decoder : Decoder) : decoder.finish = decoder.settled.reverse := by
  unfold finish settled
  split <;> rfl

/-- Only bytes that begin no character may continue the started one. -/
structure Bounded (decoder : Decoder) : Prop where
  lower : 0x80 ≤ decoder.lower
  upper : decoder.upper ≤ 0xBF

theorem bounded_resting (output : Text) : (resting output).Bounded :=
  ⟨Nat.le_refl _, Nat.le_refl _⟩

theorem bounded_begin (output : Text) (byte : Nat) : (begin output byte).Bounded := by
  unfold begin
  repeat' split
  all_goals constructor <;> simp [resting]

theorem bounded_step (decoder : Decoder) (byte : UInt8) : (decoder.step byte).Bounded := by
  unfold Decoder.step
  dsimp only
  split
  · exact bounded_begin _ _
  · split
    · split
      · exact bounded_resting _
      · constructor <;> simp
    · exact bounded_begin _ _

theorem Bounded.foldl (h : decoder.Bounded) (bytes : Bytes) :
    (bytes.foldl Decoder.step decoder).Bounded := by
  induction bytes generalizing decoder with
  | nil => exact h
  | cons byte rest ih => exact ih (bounded_step decoder byte)

/-- A byte that begins a character ends the one before it. -/
theorem Bounded.step_of_begins (h : decoder.Bounded) (hbyte : byte.toNat < 0x80 ∨ 0xBF < byte.toNat) :
    decoder.step byte = begin decoder.settled byte.toNat := by
  have hlower := h.lower
  have hupper := h.upper
  unfold Decoder.step settled
  by_cases hneeded : decoder.needed = 0
  · rw [if_pos hneeded, if_pos hneeded]
  · rw [if_neg hneeded, if_neg hneeded, if_neg (by omega)]

/-- A byte that continues a character adds six bits to it. -/
theorem step_of_continues {needed bits lower upper : Nat} {output : Text}
    (hlower : lower ≤ byte.toNat) (hupper : byte.toNat ≤ upper) :
    step ⟨needed + 1, bits, lower, upper, output⟩ byte =
      if needed = 0 then resting (Char.ofNat (bits * 64 + (byte.toNat - 0x80)) :: output)
      else ⟨needed, bits * 64 + (byte.toNat - 0x80), 0x80, 0xBF, output⟩ := by
  simp [step, hlower, hupper]

theorem begin_of_two {output : Text} {first : Nat} (hlower : 0xC2 ≤ first) (hupper : first < 0xE0) :
    begin output first = ⟨1, first - 0xC0, 0x80, 0xBF, output⟩ := by
  unfold begin
  rw [if_neg (by omega), if_neg (by omega), if_pos hupper]

/-- Of the characters of three bytes, those that have a shorter form and the surrogates are left
out. -/
theorem begin_of_three {output : Text} {first : Nat} (hlower : 0xE0 ≤ first) (hupper : first < 0xF0) :
    ∃ lower upper, begin output first = ⟨2, first - 0xE0, lower, upper, output⟩ ∧
      ∀ next, 0x80 ≤ next → next ≤ 0xBF → (first = 0xE0 → 0xA0 ≤ next) →
        (first = 0xED → next ≤ 0x9F) → lower ≤ next ∧ next ≤ upper := by
  unfold begin
  rw [if_neg (by omega), if_neg (by omega), if_neg (by omega)]
  by_cases hshort : first = 0xE0
  · rw [if_pos hshort]
    exact ⟨_, _, by rw [hshort], fun next _ hle hlong _ => ⟨hlong hshort, hle⟩⟩
  · by_cases hsurrogate : first = 0xED
    · rw [if_neg hshort, if_pos hsurrogate]
      exact ⟨_, _, by rw [hsurrogate], fun next hge _ _ hscalar => ⟨hge, hscalar hsurrogate⟩⟩
    · rw [if_neg hshort, if_neg hsurrogate, if_pos hupper]
      exact ⟨_, _, rfl, fun next hge hle _ _ => ⟨hge, hle⟩⟩

/-- Of the characters of four bytes, those that have a shorter form and all behind the last code
point are left out. -/
theorem begin_of_four {output : Text} {first : Nat} (hlower : 0xF0 ≤ first) (hupper : first ≤ 0xF4) :
    ∃ lower upper, begin output first = ⟨3, first - 0xF0, lower, upper, output⟩ ∧
      ∀ next, 0x80 ≤ next → next ≤ 0xBF → (first = 0xF0 → 0x90 ≤ next) →
        (first = 0xF4 → next ≤ 0x8F) → lower ≤ next ∧ next ≤ upper := by
  unfold begin
  rw [if_neg (by omega), if_neg (by omega), if_neg (by omega), if_neg (by omega),
    if_neg (by omega), if_neg (by omega)]
  by_cases hshort : first = 0xF0
  · rw [if_pos hshort]
    exact ⟨_, _, by rw [hshort], fun next _ hle hlong _ => ⟨hlong hshort, hle⟩⟩
  · by_cases hlast : first = 0xF4
    · rw [if_neg hshort, if_neg (by omega), if_pos hlast]
      exact ⟨_, _, by rw [hlast], fun next hge _ _ hscalar => ⟨hge, hscalar hlast⟩⟩
    · rw [if_neg hshort, if_pos (by omega)]
      exact ⟨_, _, rfl, fun next hge hle _ _ => ⟨hge, hle⟩⟩

/-- The bytes of a character are read as that character. -/
theorem Bounded.foldl_encode (h : decoder.Bounded) (character : Char) :
    (String.utf8EncodeChar character).foldl Decoder.step decoder =
      resting (character :: decoder.settled) := by
  have hvalid : character.toNat < 0xD800 ∨ 0xDFFF < character.toNat ∧ character.toNat < 0x110000 :=
    character.valid
  have hcode : Char.ofNat character.toNat = character := Char.ofNat_toNat character
  have hbyte : ∀ {value : Nat}, value < 256 → (UInt8.ofNat value).toNat = value := by
    intro value hvalue
    rw [UInt8.toNat_ofNat', Nat.mod_eq_of_lt hvalue]
  unfold String.utf8EncodeChar
  generalize hvalue : character.val.toNat = value
  rw [Char.toNat, hvalue] at hvalid hcode
  dsimp only
  split
  · have hfirst := hbyte (by omega : value < 256)
    rw [List.foldl_cons, List.foldl_nil, h.step_of_begins (by omega), hfirst, begin,
      if_pos (by omega), hcode]
  split
  · have hfirst := hbyte (by omega : value / 64 % 32 + 192 < 256)
    have hsecond := hbyte (by omega : value % 64 + 128 < 256)
    rw [List.foldl_cons, h.step_of_begins (by omega), hfirst, begin_of_two (by omega) (by omega),
      List.foldl_cons, List.foldl_nil, step_of_continues (by omega) (by omega), if_pos rfl, hsecond]
    rw [show (value / 64 % 32 + 192 - 0xC0) * 64 + (value % 64 + 128 - 0x80) = value by omega, hcode]
  split
  · have hfirst := hbyte (by omega : value / 4096 % 16 + 224 < 256)
    have hsecond := hbyte (by omega : value / 64 % 64 + 128 < 256)
    have hthird := hbyte (by omega : value % 64 + 128 < 256)
    obtain ⟨lower, upper, hbegin, hnext⟩ := begin_of_three
      (by omega : 0xE0 ≤ value / 4096 % 16 + 224) (by omega)
    obtain ⟨hlower, hupper⟩ := hnext (value / 64 % 64 + 128) (by omega) (by omega) (by omega)
      (by omega)
    rw [List.foldl_cons, h.step_of_begins (by omega), hfirst, hbegin, List.foldl_cons,
      step_of_continues (by omega) (by omega), if_neg (by omega), hsecond, List.foldl_cons,
      List.foldl_nil, step_of_continues (by omega) (by omega), if_pos rfl, hthird]
    rw [show ((value / 4096 % 16 + 224 - 0xE0) * 64 + (value / 64 % 64 + 128 - 0x80)) * 64 +
      (value % 64 + 128 - 0x80) = value by omega, hcode]
  · have hfirst := hbyte (by omega : value / 262144 % 8 + 240 < 256)
    have hsecond := hbyte (by omega : value / 4096 % 64 + 128 < 256)
    have hthird := hbyte (by omega : value / 64 % 64 + 128 < 256)
    have hfourth := hbyte (by omega : value % 64 + 128 < 256)
    obtain ⟨lower, upper, hbegin, hnext⟩ := begin_of_four
      (by omega : 0xF0 ≤ value / 262144 % 8 + 240) (by omega)
    obtain ⟨hlower, hupper⟩ := hnext (value / 4096 % 64 + 128) (by omega) (by omega) (by omega)
      (by omega)
    rw [List.foldl_cons, h.step_of_begins (by omega), hfirst, hbegin, List.foldl_cons,
      step_of_continues (by omega) (by omega), if_neg (by omega), hsecond, List.foldl_cons,
      step_of_continues (by omega) (by omega), if_neg (by omega), hthird, List.foldl_cons,
      List.foldl_nil, step_of_continues (by omega) (by omega), if_pos rfl, hfourth]
    rw [show (((value / 262144 % 8 + 240 - 0xF0) * 64 + (value / 4096 % 64 + 128 - 0x80)) * 64 +
      (value / 64 % 64 + 128 - 0x80)) * 64 + (value % 64 + 128 - 0x80) = value by omega, hcode]

/-- The bytes of a text are read as that text. -/
theorem Bounded.settled_foldl_utf8 (h : decoder.Bounded) (text : Text) :
    (text.utf8.foldl Decoder.step decoder).settled = text.reverse ++ decoder.settled := by
  induction text generalizing decoder with
  | nil => rfl
  | cons character rest ih =>
      rw [Text.utf8, List.flatMap_cons, List.foldl_append, h.foldl_encode]
      rw [← Text.utf8, ih (bounded_resting _), settled_resting]
      simp

end Decoder

/-- A text behind other bytes is read behind what these are read as, whatever they are. -/
theorem decode_append_utf8 (bytes : Bytes) (text : Text) :
    decode (bytes ++ text.utf8) = decode bytes ++ text := by
  have hbounded := (Decoder.bounded_resting []).foldl bytes
  rw [decode, decode, List.foldl_append, Decoder.finish_eq, hbounded.settled_foldl_utf8,
    Decoder.finish_eq, List.reverse_append, List.reverse_reverse]

/-- What was stored is read back. -/
theorem decode_utf8 (text : Text) : decode text.utf8 = text :=
  decode_append_utf8 [] text

end LineShell.Utf8
