import EnergyStation.CStdlib
import EnergyStation.Python.JsonText

/-!
# Flat objects printed with `printf`

A program without a JSON library prints an object with one format, whose members are strings between
quotes, whole numbers, and numbers with one decimal. `loadObject_objectText` is the round trip for
all such objects: text of plain characters and numbers of 64 bits are decoded to what was printed.
-/

namespace EnergyStation.Python

open CStdlib Numeral

/-- A value as it is printed. -/
inductive Printed where
  /-- `\"%s\"` -/
  | str (w : Str)
  /-- `%d` or `%lu`, of a number that is not negative. -/
  | num (n : ℕ)
  /-- `%d.%d`, of a number of tenths. -/
  | tenths (n : ℕ)

namespace Printed

/-- The text of a value. -/
def text : Printed → List ℕ
  | .str w => 34 :: (w ++ [34])
  | .num n => decimal n
  | .tenths n => fixedPoint 1 n

/-- The value. -/
def val : Printed → Val
  | .str w => .str w
  | .num n => .int n
  | .tenths n => .float (.fin (n / 10))

/-- A string has plain ASCII characters, and a number has 64 bits. -/
def Valid : Printed → Prop
  | .str w => ∀ c ∈ w, isPlain c = true ∧ c < 128
  | .num n => n < 2 ^ 64
  | .tenths n => n < 2 ^ 64

end Printed

/-- A whole number is an `int`. -/
theorem scanNumber_decimal (py : Interp) {n : ℕ} (hn : n < 2 ^ 64) {c : ℕ} {rest : List ℕ}
    (hc : c = 44 ∨ c = 125) :
    scanNumber py (decimal n ++ c :: rest) = .ok (.int n, c :: rest) := by
  have hrest : ∀ c' s, c :: rest = c' :: s → digitVal c' = none := by
    intro c' s h
    rw [← (List.cons.inj h).1]
    rcases hc with rfl | rfl <;> rfl
  have hfraction : scanFraction (c :: rest) = ([], c :: rest) := by
    rcases hc with rfl | rfl <;> rfl
  have hexponent : takeExponent [101, 69] (c :: rest) = (0, c :: rest) := by
    rcases hc with rfl | rfl <;> rfl
  -- The text starts with a digit, and so has no sign.
  have hhead : (decimal n ++ c :: rest).head? ≠ some 45 := by
    cases hdec : decimal n with
    | nil => exact absurd hdec (decimal_ne_nil n)
    | cons d s =>
      have hd : 48 ≤ d ∧ d ≤ 57 := decimal_bounds (by rw [hdec]; exact List.mem_cons_self)
      rw [List.cons_append, List.head?_cons, ne_eq, Option.some_inj]
      omega
  -- No limit that can be set is below 640 digits.
  have hlength : (digits n).length ≤ 20 := length_digits_le (by norm_num) (by omega)
  have hshort : ¬ (0 < py.intMaxStrDigits ∧ py.intMaxStrDigits < (digits n).length) := by
    have hlimit := py.limit_ge
    omega
  unfold scanNumber
  simp only [hhead, if_false, scanIntPart_decimal n hrest, hfraction, hexponent, and_self, if_true,
    if_neg hshort, ofDigits_digits]

/-- A valid value is read as it is. -/
theorem reads_printed (py : Interp) (depth : ℕ) {p : Printed} (h : p.Valid) :
    Reads (scanValue py depth) p.text p.val := by
  cases p with
  | str w =>
    intro c rest hc
    have hquote : skipWs (34 :: (w ++ 34 :: c :: rest)) = 34 :: (w ++ 34 :: c :: rest) :=
      skipWs_cons (by omega) _
    have hstring := scanString_plain (fun c hc => (h c hc).1) (c :: rest)
    rw [Printed.text, List.cons_append, List.append_assoc, List.singleton_append, hquote]
    cases depth <;> rw [scanValue, hstring] <;> rfl
  | num n =>
    intro c rest hc
    cases hdec : decimal n with
    | nil => exact absurd hdec (decimal_ne_nil n)
    | cons d s =>
      have hd : 48 ≤ d ∧ d ≤ 57 := decimal_bounds (by rw [hdec]; exact List.mem_cons_self)
      have hscan : scanNumber py (decimal n ++ c :: rest) = .ok (.int n, c :: rest) :=
        scanNumber_decimal py h hc
      rw [hdec, List.cons_append] at hscan
      rw [Printed.text, hdec, List.cons_append, skipWs_cons (by omega),
        scanValue_digit py depth hd.1 hd.2, hscan, Printed.val]
  | tenths n =>
    have hreads := reads_fixedPoint py depth Nat.one_pos n
    have hlt := natDiv_lt_floatOverflow (a := n) (b := 10) h (by norm_num)
    have hfloat := floatOfRat_natDiv hlt (by norm_num) (by norm_num)
    rw [Nat.cast_ofNat] at hfloat
    rwa [pow_one, hfloat] at hreads

/-- The text of a valid value is ASCII. -/
theorem printed_lt {p : Printed} (h : p.Valid) {c : ℕ} (hc : c ∈ p.text) : c < 128 := by
  cases p with
  | str w =>
    rcases List.mem_cons.mp hc with rfl | hc
    · norm_num
    · rcases List.mem_append.mp hc with hc | hc
      · exact (h c hc).2
      · rw [List.mem_singleton.mp hc]
        norm_num
  | num n =>
    have hbounds := decimal_bounds hc
    omega
  | tenths n =>
    have hbounds := fixedPoint_bounds hc
    omega

/-- The text of an object. -/
def objectText (l : List (Str × Printed)) : List ℕ :=
  123 :: membersText (l.map fun p => (p.1, p.2.text))

/-- The object. -/
def objectFields (l : List (Str × Printed)) : Obj := l.map fun p => (p.1, p.2.val)

/-- Each member takes a quote, its key, a quote, a colon, its value, and a comma or the brace. -/
theorem length_membersText {texts : List (Str × List ℕ)} (hne : texts ≠ []) :
    (membersText texts).length = (texts.map fun p => p.1.length + p.2.length + 4).sum := by
  induction texts with
  | nil => exact absurd rfl hne
  | cons p l ih =>
    obtain ⟨key, t⟩ := p
    cases l with
    | nil =>
      simp [membersText]
      omega
    | cons p' l =>
      rw [membersText, List.map_cons, List.sum_cons, ← ih (List.cons_ne_nil p' l)]
      · simp only [List.length_cons, List.length_append]
        omega
      · exact List.cons_ne_nil p' l

/-- The length of an object's text: what the keys and the punctuation take, and what the values
take. -/
theorem length_objectText {l : List (Str × Printed)} (hne : l ≠ []) :
    (objectText l).length =
      1 + ((l.map Prod.fst).map fun key => key.length + 4).sum +
        (l.map fun p => p.2.text.length).sum := by
  have hsplit : ∀ l : List (Str × Printed),
      (l.map fun p => p.1.length + p.2.text.length + 4).sum =
        ((l.map Prod.fst).map fun key => key.length + 4).sum +
          (l.map fun p => p.2.text.length).sum := by
    intro l
    induction l with
    | nil => rfl
    | cons p l ih =>
      simp only [List.map_cons, List.sum_cons, ih]
      omega
  have hne' : (l.map fun p => (p.1, p.2.text)) ≠ [] := fun h => hne (List.map_eq_nil_iff.mp h)
  have htexts := length_membersText hne'
  rw [List.map_map] at htexts
  rw [objectText, List.length_cons, htexts]
  change (l.map fun p => p.1.length + p.2.text.length + 4).sum + 1 = _
  rw [hsplit]
  omega

/-- The characters of the members are those of their keys and values, and punctuation. -/
theorem membersText_lt {texts : List (Str × List ℕ)}
    (h : ∀ p ∈ texts, (∀ c ∈ p.1, c < 128) ∧ ∀ c ∈ p.2, c < 128) :
    ∀ c ∈ membersText texts, c < 128 := by
  induction texts with
  | nil =>
    intro c hc
    rw [membersText, List.mem_singleton] at hc
    omega
  | cons p l ih =>
    obtain ⟨hkey, hvalue⟩ := h p List.mem_cons_self
    have htail := ih fun q hq => h q (List.mem_cons_of_mem p hq)
    obtain ⟨key, t⟩ := p
    intro c hc
    -- The last member is followed by the brace, and any other by a comma.
    cases l with
    | nil =>
      simp only [membersText, List.mem_cons, List.mem_append, List.not_mem_nil, or_false] at hc
      rcases hc with rfl | hc | rfl | rfl | hc | rfl
      · norm_num
      · exact hkey c hc
      · norm_num
      · norm_num
      · exact hvalue c hc
      · norm_num
    | cons p' l =>
      rw [membersText] at hc
      · simp only [List.mem_cons, List.mem_append] at hc
        rcases hc with rfl | hc | rfl | rfl | hc | rfl | hc
        · norm_num
        · exact hkey c hc
        · norm_num
        · norm_num
        · exact hvalue c hc
        · norm_num
        · exact htail c hc
      · exact List.cons_ne_nil p' l

/-- What a printed object is made of: distinct plain keys, and valid values. -/
structure WellPrinted (l : List (Str × Printed)) : Prop where
  /-- There is a member. -/
  ne_nil : l ≠ []
  /-- No key replaces another. -/
  nodup : (l.map Prod.fst).Nodup
  /-- The keys stand for themselves. -/
  keys : ∀ p ∈ l, ∀ c ∈ p.1, isPlain c = true ∧ c < 128
  /-- The values are valid. -/
  values : ∀ p ∈ l, p.2.Valid

/-- A printed object is decoded to its members. -/
theorem loadObject_objectText {py : Interp} (hdepth : 0 < py.recursionLimit)
    {l : List (Str × Printed)} (h : WellPrinted l) :
    loadObject py ((objectText l).map UInt8.ofNat) = .ok (objectFields l) := by
  obtain ⟨depth, hlimit⟩ : ∃ depth, py.recursionLimit = depth + 1 :=
    ⟨py.recursionLimit - 1, by omega⟩
  have hlt : ∀ c ∈ objectText l, c < 128 := by
    intro c hc
    rcases List.mem_cons.mp hc with rfl | hc
    · norm_num
    · refine membersText_lt (fun q hq => ?_) c hc
      obtain ⟨p, hp, rfl⟩ := List.mem_map.mp hq
      exact ⟨fun c hc => (h.keys p hp c hc).2, fun c hc => printed_lt (h.values p hp) hc⟩
  have hbytes : ∀ x ∈ (objectText l).map UInt8.ofNat, x < 0x80 := by
    intro x hx
    obtain ⟨n, hn, rfl⟩ := List.mem_map.mp hx
    have hn128 := hlt n hn
    have hnat : (UInt8.ofNat n).toNat = n :=
      UInt8.toNat_ofNat_of_lt' (by norm_num [UInt8.size]; omega)
    have hbound : (0x80 : UInt8).toNat = 128 := rfl
    rw [UInt8.lt_iff_toNat_lt, hnat, hbound]
    exact hn128
  have hprints : Prints (scanValue py depth) (l.map fun p => (p.1, p.2.text)) (objectFields l) := by
    unfold Prints objectFields
    rw [List.forall₂_map_left_iff, List.forall₂_map_right_iff, List.forall₂_same]
    exact fun p hp =>
      ⟨rfl, fun c hc => (h.keys p hp c hc).1, reads_printed py depth (h.values p hp)⟩
  have hfields : (objectFields l).foldl (fun o e => Assoc.set o e.1 e.2) [] = objectFields l := by
    rw [Assoc.foldl_set_of_nodup, List.nil_append]
    rw [List.nil_append, objectFields, List.map_map]
    exact h.nodup
  have hne : (l.map fun p => (p.1, p.2.text)) ≠ [] := fun hnil =>
    h.ne_nil (List.map_eq_nil_iff.mp hnil)
  unfold loadObject loadBody
  rw [utf8Decode_ascii hbytes, map_toNat_ofNat hlt]
  simp only [objectText, jsonLoads_membersText hlimit hprints hne, hfields]
  rfl

end EnergyStation.Python
