import EnergyStation.Python.Value

/-!
# `bytes.decode('utf-8')` and `str.encode()`

The strict decoder and encoder. A text can be encoded where it has no lone surrogates
(`encode_eq_ok_iff`).
-/

namespace EnergyStation.Python

/-- A continuation byte. -/
def isCont (b : UInt8) : Bool := 0x80 ≤ b && b ≤ 0xBF

/-- The six low bits of a continuation byte. -/
def contBits (b : UInt8) : ℕ := b.toNat % 64

/-- The code points of a text in UTF-8. As Python's strict decoder does, it refuses overlong forms,
surrogates, code points beyond the last one, and truncated sequences. -/
def utf8Decode : List UInt8 → Option Str
  | [] => some []
  | b0 :: rest =>
    if b0 < 0x80 then (utf8Decode rest).map (b0.toNat :: ·)
    -- Two bytes; 0xC0 and 0xC1 would only start overlong forms.
    else if 0xC2 ≤ b0 && b0 ≤ 0xDF then
      match rest with
      | b1 :: rest =>
        if isCont b1 then
          (utf8Decode rest).map (((b0.toNat % 32) * 64 + contBits b1) :: ·)
        else none
      | _ => none
    -- Three bytes, without overlong forms and surrogates.
    else if 0xE0 ≤ b0 && b0 ≤ 0xEF then
      match rest with
      | b1 :: b2 :: rest =>
        if isCont b1 && isCont b2 && !(b0 = 0xE0 && b1 < 0xA0) && !(b0 = 0xED && 0x9F < b1) then
          (utf8Decode rest).map
            (((b0.toNat % 16) * 4096 + contBits b1 * 64 + contBits b2) :: ·)
        else none
      | _ => none
    -- Four bytes, without overlong forms and up to the last code point.
    else if 0xF0 ≤ b0 && b0 ≤ 0xF4 then
      match rest with
      | b1 :: b2 :: b3 :: rest =>
        if isCont b1 && isCont b2 && isCont b3 && !(b0 = 0xF0 && b1 < 0x90) &&
            !(b0 = 0xF4 && 0x8F < b1) then
          (utf8Decode rest).map
            (((b0.toNat % 8) * 262144 + contBits b1 * 4096 + contBits b2 * 64 + contBits b3) :: ·)
        else none
      | _ => none
    else none

/-- A text of ASCII bytes is its own code points. -/
theorem utf8Decode_ascii {l : List UInt8} (h : ∀ b ∈ l, b < 0x80) :
    utf8Decode l = some (l.map UInt8.toNat) := by
  induction l with
  | nil => rfl
  | cons b l ih =>
    have hb := h b List.mem_cons_self
    have hl := ih fun b' hb' => h b' (List.mem_cons_of_mem b hb')
    unfold utf8Decode
    rw [if_pos hb, hl]
    rfl

/-- The bytes of a code point. -/
def utf8EncodeChar (c : ℕ) : List UInt8 :=
  if c < 0x80 then [.ofNat c]
  else if c < 0x800 then [.ofNat (0xC0 + c / 64), .ofNat (0x80 + c % 64)]
  else if c < 0x10000 then
    [.ofNat (0xE0 + c / 4096), .ofNat (0x80 + c / 64 % 64), .ofNat (0x80 + c % 64)]
  else
    [.ofNat (0xF0 + c / 262144), .ofNat (0x80 + c / 4096 % 64), .ofNat (0x80 + c / 64 % 64),
      .ofNat (0x80 + c % 64)]

/-- The bytes of a text without surrogates. -/
def utf8Encode (s : Str) : List UInt8 := s.flatMap utf8EncodeChar

/-- The text has no lone surrogates. -/
def encodable (s : Str) : Bool := s.all fun c => !(0xD800 ≤ c && c ≤ 0xDFFF)

/-- `s.encode()`. -/
def encode (s : Str) : Except Exc (List UInt8) :=
  -- `UnicodeEncodeError` is a `ValueError`.
  if encodable s then .ok (utf8Encode s) else .error .valueError

theorem encodable_append (s t : Str) : encodable (s ++ t) = (encodable s && encodable t) :=
  List.all_append

theorem encode_of_encodable {s : Str} (h : encodable s = true) : encode s = .ok (utf8Encode s) :=
  if_pos h

theorem encode_eq_ok_iff {s : Str} : (∃ b, encode s = .ok b) ↔ encodable s = true := by
  constructor
  · rintro ⟨b, h⟩
    unfold encode at h
    split_ifs at h with hs
    exact hs
  · exact fun h => ⟨_, encode_of_encodable h⟩

end EnergyStation.Python
