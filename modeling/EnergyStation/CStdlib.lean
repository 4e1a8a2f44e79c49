import EnergyStation.Lib.ExtRat
import EnergyStation.Lib.FixedPoint
import EnergyStation.Lib.Numeral
import Mathlib.Data.List.TakeWhile

/-!
# The C library functions that the firmware calls

`atof` and `strtoul` as the C standard has them, on the character codes of a string without its
terminator. `atof` reads the longest numeric prefix after optional blanks and an optional sign:
an infinity, a NaN, a hexadecimal or a decimal number, and zero where there is none of these. Its
result is exact, so a value that a `float` would round keeps all its digits.
-/

namespace EnergyStation.CStdlib

open Numeral

/-- A message body. -/
abbrev Bytes := List UInt8

/-- The bytes of an ASCII text. -/
def ascii (s : String) : Bytes := (text s).map UInt8.ofNat

/-- What a C function sees of a buffer of at most `size` bytes, the last of which is the terminator
that was written after the copy: the character codes up to the first zero byte. -/
def boundedString (size : ℕ) (b : Bytes) : List ℕ :=
  ((b.take (size - 1)).takeWhile (· ≠ 0)).map UInt8.toNat

/-- `isspace` in the C locale. -/
def isSpace (c : ℕ) : Bool := c = 32 || (9 ≤ c && c ≤ 13)

/-- `strncmp(s, word, strlen(word)) == 0` for a body of at least that length. -/
def hasPrefix (word body : Bytes) : Bool := body.take word.length == word

/-- The digits of a hexadecimal number after its `0x`: before and after the point, and the rest. -/
def hexDigits (s : List ℕ) : List ℕ × List ℕ × List ℕ :=
  let ip := spanDigits hexVal s
  let fp := takeFraction hexVal ip.2
  (ip.1, fp.1, fp.2)

/-- A hexadecimal floating constant after its `0x`, where it has a digit. -/
def hexNumber (s : List ℕ) : Option ℚ :=
  let (ip, fp, rest) := hexDigits s
  if ip ++ fp = [] then none
  else
    let e := (takeExponent [112, 80] rest).1
    some ((ofDigits 16 (ip ++ fp) : ℚ) * (16 : ℚ) ^ (-(fp.length : ℤ)) * (2 : ℚ) ^ e)

/-- The decimal number at the front of a text, and zero where there is none. -/
def decimalNumber (s : List ℕ) : ℚ :=
  let ip := spanDigits digitVal s
  let fp := takeFraction digitVal ip.2
  if ip.1 ++ fp.1 = [] then 0
  else decimalValue ip.1 fp.1 (takeExponent [101, 69] fp.2).1

/-- The unsigned number at the front of a text that spells no special value. -/
def unsignedNumber (s : List ℕ) : ℚ :=
  match s with
  | 48 :: x :: rest =>
    -- Without a digit after `0x` the number is the zero before the `x`.
    if x = 120 ∨ x = 88 then (hexNumber rest).getD 0 else decimalNumber s
  | _ => decimalNumber s

/-- The text from which `atof` reads a number: without blanks and sign. -/
def unsignedPart (s : List ℕ) : List ℕ := (takeSign (s.dropWhile isSpace)).2

/-- The text has a minus sign after its blanks. -/
def isNegative (s : List ℕ) : Bool := (takeSign (s.dropWhile isSpace)).1

/-- `atof`. -/
def atof (s : List ℕ) : ExtRat :=
  let u := unsignedPart s
  let x :=
    -- The word `infinity` starts with `inf`.
    if startsWithWord (text "inf") u then ExtRat.posInf
    else if startsWithWord (text "nan") u then ExtRat.nan
    else ExtRat.fin (unsignedNumber u)
  if isNegative s then x.neg else x

/-- The text spells NaN: after blanks and a sign it starts with `nan`, in any case. -/
def spellsNan (s : List ℕ) : Bool := startsWithWord (text "nan") (unsignedPart s)

/-- A word in any case cannot start with two different words of one length. -/
theorem startsWithWord_unique {v w s : List ℕ} (hlen : v.length = w.length)
    (hv : startsWithWord v s = true) (hw : startsWithWord w s = true) : v = w := by
  simp only [startsWithWord, beq_iff_eq] at hv hw
  rw [← hv, ← hw, hlen]

/-- `atof` returns NaN exactly for a text that spells it. -/
theorem atof_eq_nan_iff (s : List ℕ) : atof s = ExtRat.nan ↔ spellsNan s = true := by
  unfold atof spellsNan
  generalize unsignedPart s = u
  by_cases hinf : startsWithWord (text "inf") u = true
  · have hne : text "inf" ≠ text "nan" := by decide
    have hnan : ¬ startsWithWord (text "nan") u = true := fun h =>
      hne (startsWithWord_unique rfl hinf h)
    simp only [hinf, hnan, if_true]
    cases isNegative s <;> simp [ExtRat.neg]
  · by_cases hnan : startsWithWord (text "nan") u = true
    · simp only [hinf, hnan, if_true]
      cases isNegative s <;> simp [ExtRat.neg]
    · simp only [hinf, hnan]
      cases isNegative s <;> simp [ExtRat.neg]

/-- The codes of an ASCII text are those of its bytes. -/
theorem map_toNat_ofNat {l : List ℕ} (h : ∀ c ∈ l, c < 128) :
    (l.map UInt8.ofNat).map UInt8.toNat = l := by
  rw [List.map_map]
  refine (List.map_congr_left fun c hc => ?_).trans (List.map_id _)
  have hlt := h c hc
  exact UInt8.toNat_ofNat_of_lt' (by norm_num [UInt8.size]; omega)

/-- A buffer that is large enough holds an ASCII text without zero bytes. -/
theorem boundedString_ascii {size : ℕ} {l : List ℕ} (h : ∀ c ∈ l, 0 < c ∧ c < 128)
    (hsize : l.length < size) : boundedString size (l.map UInt8.ofNat) = l := by
  have hlen : (l.map UInt8.ofNat).length ≤ size - 1 := by
    rw [List.length_map]
    omega
  have hzero : ∀ b ∈ l.map UInt8.ofNat, decide (b ≠ 0) = true := by
    intro b hb
    obtain ⟨c, hc, rfl⟩ := List.mem_map.mp hb
    obtain ⟨hpos, hlt⟩ := h c hc
    have hnat : (UInt8.ofNat c).toNat = c :=
      UInt8.toNat_ofNat_of_lt' (by norm_num [UInt8.size]; omega)
    refine decide_eq_true fun h0 => ?_
    rw [h0] at hnat
    have hc0 : (0 : UInt8).toNat = 0 := rfl
    omega
  unfold boundedString
  rw [List.take_of_length_le hlen, List.takeWhile_eq_self_iff.mpr hzero,
    map_toNat_ofNat fun c hc => (h c hc).2]

/-- The characters of a decimal text are bytes. -/
theorem toNat_ofNat_of_mem_decimal {n c : ℕ} (h : c ∈ decimal n) : (UInt8.ofNat c).toNat = c := by
  have hbounds := decimal_bounds h
  exact UInt8.toNat_ofNat_of_lt' (by norm_num [UInt8.size]; omega)

/-- The codes of a decimal text are those of its bytes. -/
theorem decimal_bytes (n : ℕ) :
    ((decimal n).map UInt8.ofNat).map UInt8.toNat = decimal n :=
  map_toNat_ofNat fun c hc => by have := decimal_bounds hc; omega

/-- A buffer that is large enough holds the decimal text of a number. -/
theorem boundedString_decimal {size n : ℕ} (k : ℕ) (hk : 0 < k) (hn : n < 10 ^ k)
    (hsize : k < size) :
    boundedString size ((decimal n).map UInt8.ofNat) = decimal n := by
  have hdigits := length_digits_le hk hn
  refine boundedString_ascii (fun c hc => ?_) ?_
  · have := decimal_bounds hc
    omega
  · rw [decimal, List.length_map]
    omega

/-- The decimal number of a fixed-point text. -/
theorem decimalNumber_fixedPoint (k n : ℕ) : decimalNumber (fixedPoint k n) = n / 10 ^ k := by
  have hnil : ∀ c s, ([] : List ℕ) = c :: s → digitVal c = none := by simp
  have hspan := spanDigits_fixedPoint k n []
  rw [List.append_nil] at hspan
  have hne : digits (n / 10 ^ k) ++ fixedDigits k n ≠ [] := by simp [digits_ne_nil]
  unfold decimalNumber
  simp only [hspan, takeFraction_fixedDigits hnil k n, if_neg hne]
  exact decimalValue_fixedPoint k n

/-- A text of digits and a point is no hexadecimal number. -/
theorem unsignedNumber_eq_decimalNumber {s : List ℕ} (h : ∀ c ∈ s, c ≤ 57) :
    unsignedNumber s = decimalNumber s := by
  unfold unsignedNumber
  split
  · rename_i x rest
    have hx : x ≤ 57 := h x (by simp)
    rw [if_neg (by omega)]
  · rfl

/-- `atof` reads a fixed-point text with an optional minus sign back. -/
theorem atof_fixedPoint (negative : Bool) (k n : ℕ) :
    atof (signText negative ++ fixedPoint k n) =
      .fin (if negative then -(n / 10 ^ k : ℚ) else n / 10 ^ k) := by
  have hnumber : unsignedNumber (fixedPoint k n) = n / 10 ^ k := by
    rw [unsignedNumber_eq_decimalNumber fun c hc => (fixedPoint_bounds hc).2,
      decimalNumber_fixedPoint]
  obtain ⟨c, s, hcons, h48, h57⟩ := fixedPoint_eq_cons k n
  have hsign : takeSign (c :: s) = (false, c :: s) := by
    rw [takeSign, if_neg (by omega), if_neg (by omega)]
  have hspace : isSpace c = false := by
    simp only [isSpace, Bool.or_eq_false_iff, Bool.and_eq_false_iff, decide_eq_false_iff_not]
    omega
  have hpart : unsignedPart (signText negative ++ fixedPoint k n) = fixedPoint k n ∧
      isNegative (signText negative ++ fixedPoint k n) = negative := by
    unfold unsignedPart isNegative
    rw [hcons]
    cases negative with
    | false =>
      rw [signText, if_neg Bool.false_ne_true, List.nil_append,
        List.dropWhile_cons_of_neg (by rw [hspace]; exact Bool.false_ne_true), hsign]
      exact ⟨rfl, rfl⟩
    | true => exact ⟨rfl, rfl⟩
  have hinf : startsWithWord (text "inf") (fixedPoint k n) = false := by
    rw [hcons]
    exact startsWithWord_of_digit _ s (by decide) h57
  have hnan : startsWithWord (text "nan") (fixedPoint k n) = false := by
    rw [hcons]
    exact startsWithWord_of_digit _ s (by decide) h57
  unfold atof
  simp only [hpart.1, hpart.2, hinf, hnan, hnumber, Bool.false_eq_true, if_false]
  cases negative <;> rfl

/-- The largest `unsigned long` of a 32-bit target. -/
def ulongMax : ℕ := 2 ^ 32 - 1

/-- `strtoul(s, &end, 10)`: the value, and the text from `end` on. A number out of range gives the
largest value, and a minus sign negates modulo the word; without digits the value is zero and `end`
is the start of the text. -/
def strtoul (s : List ℕ) : ℕ × List ℕ :=
  match spanDigits digitVal (unsignedPart s) with
  | ([], _) => (0, s)
  | (ds, rest) =>
    let n := ofDigits 10 ds
    (if n > ulongMax then ulongMax
      else if isNegative s then (2 ^ 32 - n) % 2 ^ 32 else n, rest)

/-- `strtoul` reads the decimal text of an `unsigned long` back, to its end. -/
theorem strtoul_decimal {n : ℕ} (h : n ≤ ulongMax) : strtoul (decimal n) = (n, []) := by
  have hspace : (decimal n).dropWhile isSpace = decimal n := by
    refine dropWhile_decimal (fun c h48 h57 => ?_) n
    simp only [isSpace, Bool.or_eq_false_iff, Bool.and_eq_false_iff, decide_eq_false_iff_not]
    omega
  have hpart : unsignedPart (decimal n) = decimal n := by
    rw [unsignedPart, hspace, takeSign_decimal]
  have hsign : isNegative (decimal n) = false := by
    rw [isNegative, hspace, takeSign_decimal]
  unfold strtoul
  rw [hpart, hsign, spanDigits_decimal]
  cases hd : digits n with
  | nil => exact absurd hd (digits_ne_nil n)
  | cons d ds =>
    simp only [← hd, ofDigits_digits]
    rw [if_neg (by omega)]
    rfl

/-- A text that `strtoul` reads to its end: blanks, a sign or none, and digits. -/
def Spells (s : List ℕ) (negative : Bool) (ds : List ℕ) : Prop :=
  ds ≠ [] ∧ (∀ d ∈ ds, d < 10) ∧ ∃ blanks sign, (∀ c ∈ blanks, isSpace c = true) ∧
    sign ∈ signs negative ∧ s = blanks ++ (sign ++ ds.map (48 + ·))

/-- The `unsigned long` of a number with a sign. -/
def ulongOf (negative : Bool) (n : ℕ) : ℕ :=
  if n > ulongMax then ulongMax else if negative then (2 ^ 32 - n) % 2 ^ 32 else n

/-- A text of blanks, a sign and digits has these digits after its sign. -/
theorem Spells.unsignedPart_eq {s ds : List ℕ} {negative : Bool} (h : Spells s negative ds) :
    unsignedPart s = ds.map (48 + ·) ∧ isNegative s = negative := by
  obtain ⟨hne, hdigits, blanks, sign, hblanks, hsign, rfl⟩ := h
  obtain ⟨d, ds, rfl⟩ := List.exists_cons_of_ne_nil hne
  have hd : d < 10 := hdigits d List.mem_cons_self
  have hspace : isSpace (48 + d) = false := by
    simp only [isSpace, Bool.or_eq_false_iff, Bool.and_eq_false_iff, decide_eq_false_iff_not]
    omega
  have htake : takeSign ((d :: ds).map (48 + ·)) = (false, (d :: ds).map (48 + ·)) := by
    rw [List.map_cons, takeSign, if_neg (by omega), if_neg (by omega)]
  unfold unsignedPart isNegative
  rw [List.dropWhile_append_of_pos hblanks]
  cases negative with
  | false =>
    rcases List.mem_pair.mp hsign with rfl | rfl
    · rw [List.nil_append, List.map_cons,
        List.dropWhile_cons_of_neg (by rw [hspace]; exact Bool.false_ne_true), ← List.map_cons,
          htake]
      exact ⟨rfl, rfl⟩
    · exact ⟨rfl, rfl⟩
  | true =>
    rw [List.mem_singleton.mp hsign]
    exact ⟨rfl, rfl⟩

/-- `strtoul` reads a text to its end exactly if it consists of blanks, a sign and digits. -/
theorem strtoul_reads_iff (s : List ℕ) (v : ℕ) :
    strtoul s = (v, []) ∧ s ≠ [] ↔
      ∃ negative ds, Spells s negative ds ∧ v = ulongOf negative (ofDigits 10 ds) := by
  constructor
  · rintro ⟨hread, hne⟩
    have hlt : ∀ d ∈ (spanDigits digitVal (unsignedPart s)).1, d < 10 := fun d => spanDigits_lt_ten
    have happend := spanDigits_append (unsignedPart s)
    obtain ⟨sign, hsign, hsplit⟩ := takeSign_append (s.dropWhile isSpace)
    unfold strtoul at hread
    rcases hspan : spanDigits digitVal (unsignedPart s) with ⟨_ | ⟨d, ds⟩, rest⟩
    · -- Without digits the end is the start of the text.
      rw [hspan] at hread
      exact absurd (Prod.mk.inj hread).2 hne
    · rw [hspan] at hread hlt happend
      obtain ⟨hv, rfl⟩ := Prod.mk.inj hread
      rw [List.append_nil] at happend
      refine ⟨isNegative s, d :: ds, ⟨List.cons_ne_nil d ds, hlt, s.takeWhile isSpace, sign,
        fun c => List.mem_takeWhile_imp, hsign, ?_⟩, hv.symm⟩
      calc s = s.takeWhile isSpace ++ s.dropWhile isSpace := (List.takeWhile_append_dropWhile).symm
        _ = s.takeWhile isSpace ++ (sign ++ unsignedPart s) := by rw [unsignedPart, ← hsplit]
        _ = s.takeWhile isSpace ++ (sign ++ (d :: ds).map (48 + ·)) := by rw [← happend]
  · rintro ⟨negative, ds, hspells, rfl⟩
    obtain ⟨hpart, hsign⟩ := hspells.unsignedPart_eq
    obtain ⟨hne, hdigits, blanks, sign, -, -, hs⟩ := hspells
    obtain ⟨d, ds, rfl⟩ := List.exists_cons_of_ne_nil hne
    have hspan : spanDigits digitVal ((d :: ds).map (48 + ·)) = (d :: ds, []) := by
      have hrest : ∀ c s, ([] : List ℕ) = c :: s → digitVal c = none := by simp
      have h := spanDigits_map hdigits hrest
      rwa [List.append_nil] at h
    refine ⟨?_, ?_⟩
    · unfold strtoul
      rw [hpart, hsign, hspan]
      rfl
    · rw [hs]
      simp

/-- The conversion of a floating-point number to a `long` of 32 bits, which cuts the fraction off.
It is undefined for a number that is out of range then, and for the special values. -/
def toLong : ExtRat → Option ℤ
  | .fin q =>
    let n := if 0 ≤ q then ⌊q⌋ else ⌈q⌉
    if -2 ^ 31 ≤ n ∧ n < 2 ^ 31 then some n else none
  | _ => none

/-- The conversion of a number that is not negative is its integer part, where that is in range. -/
theorem toLong_of_nonneg {q : ℚ} (h : 0 ≤ q) :
    toLong (.fin q) = if q < 2 ^ 31 then some ⌊q⌋ else none := by
  have hfloor : 0 ≤ ⌊q⌋ := Int.floor_nonneg.mpr h
  have hrange : ⌊q⌋ < 2 ^ 31 ↔ q < 2 ^ 31 := by
    rw [Int.floor_lt]
    norm_num
  have hlower : -2 ^ 31 ≤ ⌊q⌋ := by omega
  simp only [toLong, if_pos h, hlower, hrange, true_and]

/-- What `%ld` prints. -/
def formatLong (n : ℤ) : List ℕ := signText (n < 0) ++ decimal n.natAbs

theorem formatLong_natCast (n : ℕ) : formatLong n = decimal n := by
  have hneg : ¬ ((n : ℤ) < 0) := by omega
  unfold formatLong signText
  rw [decide_eq_false hneg]
  rfl

/-- What `snprintf` leaves of a text in a buffer of `size` bytes, before the terminator. -/
def snprintf (size : ℕ) (s : List ℕ) : List ℕ := s.take (size - 1)

theorem snprintf_of_length_lt {size : ℕ} {s : List ℕ} (h : s.length < size) :
    snprintf size s = s := List.take_of_length_le (by omega)

end EnergyStation.CStdlib
