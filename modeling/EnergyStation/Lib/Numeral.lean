import Mathlib.Data.Nat.Digits.Defs
import Mathlib.Data.Nat.Digits.Lemmas
import Mathlib.Algebra.Order.Field.Rat

/-!
# Numerals

The decimal digits of a natural number, most significant first, and the number that a string of
digits denotes. `ofDigits_digits` is the round trip, and `length_digits_le` bounds the length. The
scanners read a numeral off the front of a text: a sign, a run of digits, an exponent. A text is a
list of character codes, so that the same scanners read bytes and Unicode code points.
-/

namespace EnergyStation.Numeral

/-- The decimal digits of a number, most significant first; zero has the one digit `0`. -/
def digits (n : ℕ) : List ℕ := if n = 0 then [0] else (Nat.digits 10 n).reverse

/-- The number that a string of digits denotes in base `b`, most significant digit first. -/
def ofDigits (b : ℕ) (l : List ℕ) : ℕ := l.foldl (fun n d => b * n + d) 0

theorem ofDigits_reverse (b : ℕ) (l : List ℕ) : ofDigits b l.reverse = Nat.ofDigits b l := by
  unfold ofDigits
  rw [List.foldl_reverse]
  induction l with
  | nil => rfl
  | cons d l ih => rw [List.foldr_cons, ih, Nat.ofDigits_cons, Nat.add_comm]

/-- The digits of a number denote it. -/
theorem ofDigits_digits (n : ℕ) : ofDigits 10 (digits n) = n := by
  unfold digits
  split_ifs with h
  · rw [h]; rfl
  · rw [ofDigits_reverse, Nat.ofDigits_digits]

theorem digits_ne_nil (n : ℕ) : digits n ≠ [] := by
  unfold digits
  split_ifs with h
  · simp
  · simpa [Nat.digits_eq_nil_iff_eq_zero] using h

/-- The digits of a number that is not zero do not start with a zero. -/
theorem digits_eq_cons {n : ℕ} (hn : n ≠ 0) : ∃ d l, digits n = d :: l ∧ d ≠ 0 := by
  have hne : Nat.digits 10 n ≠ [] := Nat.digits_ne_nil_iff_ne_zero.mpr hn
  have hlast := Nat.getLast_digit_ne_zero 10 hn
  refine ⟨(Nat.digits 10 n).getLast hne, (Nat.digits 10 n).dropLast.reverse, ?_, hlast⟩
  unfold digits
  rw [if_neg hn]
  conv_lhs => rw [← List.dropLast_append_getLast hne, List.reverse_append]
  rfl

theorem digits_lt_ten {n d : ℕ} (h : d ∈ digits n) : d < 10 := by
  unfold digits at h
  split_ifs at h with hn
  · rw [List.mem_singleton.mp h]
    norm_num
  · exact Nat.digits_lt_base (by norm_num) (List.mem_reverse.mp h)

/-- A number below `10^k`, for `0 < k`, has at most `k` digits. -/
theorem length_digits_le {n k : ℕ} (hk : 0 < k) (h : n < 10 ^ k) : (digits n).length ≤ k := by
  unfold digits
  split_ifs with hn
  · exact hk
  · rw [List.length_reverse]
    have hpow : 10 ^ (Nat.digits 10 n).length < 10 ^ (k + 1) := by
      calc 10 ^ (Nat.digits 10 n).length ≤ 10 * n :=
            Nat.base_pow_length_digits_le 10 n (by norm_num) hn
        _ < 10 * 10 ^ k := by omega
        _ = 10 ^ (k + 1) := by rw [pow_succ, Nat.mul_comm]
    exact Nat.lt_succ_iff.mp ((Nat.pow_lt_pow_iff_right (by norm_num)).mp hpow)

/-- A smaller number has no more digits. -/
theorem length_digits_mono {m n : ℕ} (h : m ≤ n) : (digits m).length ≤ (digits n).length := by
  have hpos : 0 < (digits n).length := List.length_pos_iff.mpr (digits_ne_nil n)
  refine length_digits_le hpos (h.trans_lt ?_)
  unfold digits
  split_ifs with hn
  · rw [hn]
    norm_num
  · rw [List.length_reverse]
    exact Nat.lt_base_pow_length_digits (by norm_num)

/-- The character codes of a text. -/
def text (s : String) : List ℕ := s.toList.map Char.toNat

/-- The value of a decimal digit. -/
def digitVal (c : ℕ) : Option ℕ := if 48 ≤ c ∧ c ≤ 57 then some (c - 48) else none

/-- The value of a hexadecimal digit. -/
def hexVal (c : ℕ) : Option ℕ :=
  if 48 ≤ c ∧ c ≤ 57 then some (c - 48)
  else if 97 ≤ c ∧ c ≤ 102 then some (c - 87)
  else if 65 ≤ c ∧ c ≤ 70 then some (c - 55)
  else none

/-- The decimal text of a number. -/
def decimal (n : ℕ) : List ℕ := (digits n).map (48 + ·)

/-- The leading digits of a text, and the text after them. -/
def spanDigits (val : ℕ → Option ℕ) : List ℕ → List ℕ × List ℕ
  | [] => ([], [])
  | c :: s =>
    match val c with
    | some d => (d :: (spanDigits val s).1, (spanDigits val s).2)
    | none => ([], c :: s)

/-- An optional sign, `true` for a minus, and the text after it. -/
def takeSign : List ℕ → Bool × List ℕ
  | [] => (false, [])
  | c :: s => if c = 45 then (true, s) else if c = 43 then (false, s) else (false, c :: s)

/-- The texts of a sign. -/
def signs (negative : Bool) : List (List ℕ) := if negative then [[45]] else [[], [43]]

/-- The sign, and the text after it, make up the text. -/
theorem takeSign_append (s : List ℕ) :
    ∃ sign ∈ signs (takeSign s).1, s = sign ++ (takeSign s).2 := by
  cases s with
  | nil => exact ⟨[], by decide, rfl⟩
  | cons c s =>
    simp only [takeSign]
    split_ifs with hminus hplus
    · exact ⟨[45], List.mem_singleton_self _, by rw [hminus]; rfl⟩
    · exact ⟨[43], List.mem_pair.mpr (.inr rfl), by rw [hplus]; rfl⟩
    · exact ⟨[], List.mem_pair.mpr (.inl rfl), rfl⟩

/-- An optional exponent: one of the marks, an optional sign and at least one digit. Without all of
these there is no exponent, and the text is left as it is. -/
def takeExponent (marks : List ℕ) : List ℕ → ℤ × List ℕ
  | [] => (0, [])
  | c :: s =>
    if c ∈ marks then
      match spanDigits digitVal (takeSign s).2 with
      | ([], _) => (0, c :: s)
      | (ds, rest) =>
        (if (takeSign s).1 then -(ofDigits 10 ds : ℤ) else (ofDigits 10 ds : ℤ), rest)
    else (0, c :: s)

/-- An optional point with the digits after it. -/
def takeFraction (val : ℕ → Option ℕ) : List ℕ → List ℕ × List ℕ
  | [] => ([], [])
  | c :: s => if c = 46 then spanDigits val s else ([], c :: s)

/-- The number with the digits `ip` before the point, `fp` after it, and the decimal exponent
`e`. -/
def decimalValue (ip fp : List ℕ) (e : ℤ) : ℚ :=
  (ofDigits 10 (ip ++ fp) : ℚ) * (10 : ℚ) ^ (e - fp.length)

/-- The lower-case form of an ASCII letter; other characters are kept. -/
def lowerAscii (c : ℕ) : ℕ := if 65 ≤ c ∧ c ≤ 90 then c + 32 else c

/-- The text starts with a lower-case word, in any case. -/
def startsWithWord (w s : List ℕ) : Bool := (s.take w.length).map lowerAscii == w

/-- A text that starts with a digit does not start with a word of letters. -/
theorem startsWithWord_of_digit {d c : ℕ} (w s : List ℕ) (hd : 97 ≤ d) (hc : c ≤ 57) :
    startsWithWord (d :: w) (c :: s) = false := by
  have hlower : lowerAscii c = c := if_neg (by omega)
  rw [startsWithWord, List.length_cons, List.take_succ_cons, List.map_cons, hlower]
  exact beq_false_of_ne fun h => by
    have := (List.cons.inj h).1
    omega

theorem digitVal_add {d : ℕ} (h : d < 10) : digitVal (48 + d) = some d := by
  unfold digitVal
  rw [if_pos (by omega)]
  congr 1
  omega

/-- The digits of a decimal text are read back, up to a character that is no digit. -/
theorem spanDigits_map {l rest : List ℕ} (hl : ∀ d ∈ l, d < 10)
    (hrest : ∀ c s, rest = c :: s → digitVal c = none) :
    spanDigits digitVal (l.map (48 + ·) ++ rest) = (l, rest) := by
  induction l with
  | nil =>
    cases rest with
    | nil => rfl
    | cons c s => simp [spanDigits, hrest c s rfl]
  | cons d l ih =>
    have h := ih fun d' hd' => hl d' (List.mem_cons_of_mem d hd')
    simp [spanDigits, digitVal_add (hl d List.mem_cons_self), h]

/-- The scanner takes decimal digits. -/
theorem spanDigits_lt_ten {s : List ℕ} {d : ℕ} (h : d ∈ (spanDigits digitVal s).1) : d < 10 := by
  induction s with
  | nil => exact absurd h List.not_mem_nil
  | cons c s ih =>
    unfold spanDigits digitVal at h
    split_ifs at h with hdigit
    · rcases List.mem_cons.mp h with rfl | h
      · omega
      · exact ih h
    · exact absurd h List.not_mem_nil

/-- The digits that the scanner takes, and the text that it leaves, make up the text. -/
theorem spanDigits_append (s : List ℕ) :
    (spanDigits digitVal s).1.map (48 + ·) ++ (spanDigits digitVal s).2 = s := by
  induction s with
  | nil => rfl
  | cons c s ih =>
    unfold spanDigits digitVal
    split_ifs with hdigit
    · have hc : 48 + (c - 48) = c := by omega
      exact congrArg₂ List.cons hc ih
    · rfl

/-- A decimal text is all digits, and they denote its number. -/
theorem spanDigits_decimal (n : ℕ) : spanDigits digitVal (decimal n) = (digits n, []) := by
  have hdigits : ∀ d ∈ digits n, d < 10 := fun d hd => digits_lt_ten hd
  have hrest : ∀ c s, ([] : List ℕ) = c :: s → digitVal c = none := by simp
  have h := spanDigits_map hdigits hrest
  rwa [List.append_nil] at h

/-- The characters of a decimal text are digits. -/
theorem decimal_bounds {n c : ℕ} (h : c ∈ decimal n) : 48 ≤ c ∧ c ≤ 57 := by
  obtain ⟨d, hd, rfl⟩ := List.mem_map.mp h
  have hlt := digits_lt_ten hd
  omega

theorem decimal_ne_nil (n : ℕ) : decimal n ≠ [] := fun h =>
  digits_ne_nil n (List.map_eq_nil_iff.mp h)

/-- A number below ten is written as one digit. -/
theorem decimal_of_lt_ten {d : ℕ} (h : d < 10) : decimal d = [48 + d] := by
  unfold decimal digits
  split_ifs with h0
  · rw [h0]
    rfl
  · rw [Nat.digits_of_lt 10 d h0 h]
    rfl

/-- A decimal text has no sign. -/
theorem takeSign_decimal (n : ℕ) : takeSign (decimal n) = (false, decimal n) := by
  cases hdec : decimal n with
  | nil => rfl
  | cons c s =>
    have hc : 48 ≤ c ∧ c ≤ 57 := decimal_bounds (by rw [hdec]; exact List.mem_cons_self)
    rw [takeSign, if_neg (by omega), if_neg (by omega)]

/-- A decimal text does not start with characters that are no digits. -/
theorem dropWhile_decimal {p : ℕ → Bool} (hp : ∀ c, 48 ≤ c → c ≤ 57 → p c = false) (n : ℕ) :
    (decimal n).dropWhile p = decimal n := by
  cases hdec : decimal n with
  | nil => rfl
  | cons c s =>
    have hc : 48 ≤ c ∧ c ≤ 57 := decimal_bounds (by rw [hdec]; exact List.mem_cons_self)
    rw [List.dropWhile_cons_of_neg (by rw [hp c hc.1 hc.2]; exact Bool.false_ne_true)]

end EnergyStation.Numeral
