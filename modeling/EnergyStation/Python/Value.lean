import EnergyStation.Lib.Dict
import EnergyStation.Lib.ExtRat
import EnergyStation.Lib.FixedPoint

/-!
# Python values

The values that `json.loads` yields, and the built-in operations that a program applies to them
without knowing their types: truth, dictionary access, `int()`, `float()`, and the hashing that
decides which values can be dictionary keys. Each operation raises the exception that Python raises
for a value of the wrong type.

Text is a list of code points, since a Python string may hold lone surrogates. A `float` is an exact
rational, an infinity or NaN; it is an infinity from the point on where a double would be, and zero
where a double would underflow, but it is not rounded in between.
-/

namespace EnergyStation.Python

open Numeral

/-- A Python string. -/
abbrev Str := List ℕ

/-- The exceptions that the built-in operations raise. -/
inductive Exc where
  /-- `AttributeError` -/
  | attributeError
  /-- `TypeError` -/
  | typeError
  /-- `KeyError` -/
  | keyError
  /-- `ValueError`, and none of its subclasses below -/
  | valueError
  /-- `OverflowError` -/
  | overflowError
  /-- `RecursionError` -/
  | recursionError
  /-- `UnicodeDecodeError`, a `ValueError` -/
  | unicodeDecodeError
  /-- `json.JSONDecodeError`, a `ValueError` -/
  | jsonDecodeError
  /-- Any exception that a library outside this repository raises, and the `RuntimeError` and the
  `BatteryChargeLockedError` of the CoAP client -/
  | external
  deriving DecidableEq

/-- `isinstance(e, ValueError)` -/
def Exc.isValueError : Exc → Bool
  | .valueError | .unicodeDecodeError | .jsonDecodeError => true
  | _ => false

/-- A mapped result is a value where the result is one. -/
theorem map_eq_ok {ε α β : Type*} {x : Except ε α} {f : α → β} {b : β} :
    x.map f = .ok b ↔ ∃ a, x = .ok a ∧ f a = b := by
  cases x with
  | error e => simp [Except.map]
  | ok a => simp [Except.map]

/-- A sequence of two computations returns where both do. -/
theorem bind_eq_ok {ε α β : Type*} {x : Except ε α} {f : α → Except ε β} {b : β} :
    x.bind f = .ok b ↔ ∃ a, x = .ok a ∧ f a = .ok b := by
  cases x with
  | error e => simp [Except.bind]
  | ok a => simp [Except.bind]

/-- What remains of a result where the exception does not matter. -/
theorem toOption_eq_some {ε α : Type*} {x : Except ε α} {a : α} :
    x.toOption = some a ↔ x = .ok a := by
  cases x with
  | error e => simp [Except.toOption]
  | ok b => simp [Except.toOption]

/-- What the interpreter's configuration limits. -/
structure Interp where
  /-- The depth of nested containers at which `json.loads` raises `RecursionError`. -/
  recursionLimit : ℕ
  /-- `sys.get_int_max_str_digits()`, where zero means no limit. -/
  intMaxStrDigits : ℕ
  /-- `sum` of floats makes up for what its additions have lost, as from version 3.12 on. -/
  compensatedSum : Bool
  /-- A limit below 640 cannot be set. -/
  limit_ge : intMaxStrDigits = 0 ∨ 640 ≤ intMaxStrDigits

/-- The configuration that the interpreter starts with. -/
def Interp.cpython : Interp := ⟨1000, 4300, true, by decide⟩

/-- A value of one of the types that JSON has. -/
inductive Val where
  /-- `None` -/
  | none
  /-- A `bool`. -/
  | bool (b : Bool)
  /-- An `int`. -/
  | int (n : ℤ)
  /-- A `float`. -/
  | float (x : ExtRat)
  /-- A `str`. -/
  | str (s : Str)
  /-- A `list`. -/
  | list (l : List Val)
  /-- A `dict` with `str` keys. -/
  | dict (items : List (Str × Val))

/-- A JSON object. -/
abbrev Obj := List (Str × Val)

/-- `payload.get(name)`, where `none` means that there is no such key. -/
def Obj.get? (o : Obj) (name : String) : Option Val := Assoc.get? o (text name)

/-- `payload.get(name, default)`. -/
def Obj.getD (o : Obj) (name : String) (default : Val) : Val := (o.get? name).getD default

/-- `payload.get(name)`, which is `None` where there is no such key. -/
def Obj.get (o : Obj) (name : String) : Val := o.getD name .none

/-- The dictionary that `.get` is called on. -/
def asDict : Val → Except Exc Obj
  | .dict items => .ok items
  | _ => .error .attributeError

/-- A value is an object, or has no `.get`. -/
theorem asDict_cases (v : Val) :
    (∃ payload, v = .dict payload) ∨ asDict v = .error .attributeError := by
  rcases v with _ | _ | _ | _ | _ | _ | payload
  case dict => exact .inl ⟨payload, rfl⟩
  all_goals exact .inr rfl

/-- The truth value. -/
def truthy : Val → Bool
  | .none => false
  | .bool b => b
  | .int n => n ≠ 0
  | .float x => x ≠ .fin 0
  | .str s => s ≠ []
  | .list l => !l.isEmpty
  | .dict l => !l.isEmpty

/-- What two equal dictionary keys have in common: numbers of all types are compared by value. The
NaN that `json.loads` yields is one object, so as a key it equals itself. -/
inductive Key where
  /-- `None` -/
  | none
  /-- A `bool`, an `int` or a `float`. -/
  | num (x : ExtRat)
  /-- A `str`. -/
  | str (s : Str)
  deriving DecidableEq

/-- `hash(value)`: lists and dictionaries are unhashable. -/
def hashKey : Val → Except Exc Key
  | .none => .ok .none
  | .bool b => .ok (.num (.fin (if b then 1 else 0)))
  | .int n => .ok (.num (.fin n))
  | .float x => .ok (.num x)
  | .str s => .ok (.str s)
  | .list _ => .error .typeError
  | .dict _ => .error .typeError

/-- The value can be a dictionary key. -/
def hashable : Val → Bool
  | .list _ | .dict _ => false
  | _ => true

theorem hashable_iff (v : Val) : hashable v = true ↔ ∃ k, hashKey v = .ok k := by
  cases v <;> simp [hashable, hashKey]

theorem hashKey_of_not_hashable {v : Val} (h : hashable v = false) :
    hashKey v = .error .typeError := by
  cases v with
  | list l => rfl
  | dict l => rfl
  | none => cases h
  | bool b => cases h
  | int n => cases h
  | float x => cases h
  | str s => cases h

/-- The least magnitude that no double holds: half a step above the largest one. -/
def floatOverflow : ℚ := 2 ^ 1024 - 2 ^ 970

/-- Powers of two are floats far beyond the range of machine integers. -/
theorem two_pow_le_floatOverflow {n : ℕ} (h : n ≤ 970) : 2 ^ n ≤ floatOverflow := by
  have hsplit : floatOverflow = 2 ^ 970 * (2 ^ 54 - 1) := by
    rw [floatOverflow, mul_sub, mul_one, ← pow_add]
  have hbase : (2 : ℚ) ^ n ≤ 2 ^ 970 := pow_le_pow_right₀ one_le_two h
  have hfactor : (1 : ℚ) ≤ 2 ^ 54 - 1 := by norm_num
  rw [hsplit]
  exact hbase.trans (le_mul_of_one_le_right (by positivity) hfactor)

theorem floatOverflow_pos : 0 < floatOverflow :=
  lt_of_lt_of_le (by positivity) (two_pow_le_floatOverflow (Nat.zero_le 970))

/-- The largest magnitude that a double rounds to zero. -/
def floatUnderflow : ℚ := (2 ^ 1075)⁻¹

/-- The `float` nearest to a rational, up to rounding within the range of doubles. -/
def floatOfRat (q : ℚ) : ExtRat :=
  if floatOverflow ≤ q then .posInf
  else if q ≤ -floatOverflow then .negInf
  else if -floatUnderflow ≤ q ∧ q ≤ floatUnderflow then .fin 0
  else .fin q

theorem floatOfRat_zero : floatOfRat 0 = .fin 0 := by
  have hpos := floatOverflow_pos
  have hunder : 0 < floatUnderflow := by unfold floatUnderflow; positivity
  unfold floatOfRat
  rw [if_neg (by linarith), if_neg (by linarith), if_pos ⟨by linarith, hunder.le⟩]

/-- A quotient of natural numbers that does not overflow is a float, where the divisor has 64
bits. -/
theorem floatOfRat_natDiv {a b : ℕ} (hlt : (a / b : ℚ) < floatOverflow) (hb0 : 0 < b)
    (hb : b < 2 ^ 64) : floatOfRat (a / b) = .fin (a / b) := by
  rcases Nat.eq_zero_or_pos a with rfl | ha0
  · rw [Nat.cast_zero, zero_div, floatOfRat_zero]
  · have ha0' : (1 : ℚ) ≤ a := by exact_mod_cast ha0
    have hb0' : (1 : ℚ) ≤ b := by exact_mod_cast hb0
    have hb' : (b : ℚ) < 2 ^ 64 := by exact_mod_cast hb
    have hgt : floatUnderflow < a / b :=
      calc floatUnderflow < (2 ^ 64 : ℚ)⁻¹ :=
            inv_strictAnti₀ (by positivity) (pow_lt_pow_right₀ (by norm_num) (by norm_num))
        _ ≤ (b : ℚ)⁻¹ := inv_anti₀ (by linarith) hb'.le
        _ ≤ a * (b : ℚ)⁻¹ := le_mul_of_one_le_left (by positivity) ha0'
        _ = a / b := (div_eq_mul_inv _ _).symm
    have hpos : 0 < floatUnderflow := by unfold floatUnderflow; positivity
    unfold floatOfRat
    rw [if_neg (not_le.mpr hlt), if_neg (by linarith [floatOverflow_pos]),
      if_neg fun h => absurd h.2 (not_le.mpr hgt)]

/-- A quotient of two natural numbers of 64 bits does not overflow. -/
theorem natDiv_lt_floatOverflow {a b : ℕ} (ha : a < 2 ^ 64) (hb0 : 0 < b) :
    (a / b : ℚ) < floatOverflow := by
  have hb0' : (1 : ℚ) ≤ b := by exact_mod_cast hb0
  have ha' : (a : ℚ) < 2 ^ 64 := by exact_mod_cast ha
  calc (a / b : ℚ) ≤ a := div_le_self (by positivity) hb0'
    _ < 2 ^ 64 := ha'
    _ ≤ floatOverflow := two_pow_le_floatOverflow (by norm_num)

/-- `float(n)` of an `int`, which raises where the result would not be finite. -/
def floatOfInt (n : ℤ) : Except Exc ExtRat :=
  if floatOverflow ≤ |(n : ℚ)| then .error .overflowError else .ok (.fin n)

/-- `x * y` of floats. -/
def floatMul (x y : ExtRat) : ExtRat :=
  match x.mul y with
  | .fin q => floatOfRat q
  | z => z

/-- The white space that `str.strip()` removes. -/
def isSpace (c : ℕ) : Bool :=
  (9 ≤ c && c ≤ 13) || (28 ≤ c && c ≤ 32) || c = 0x85 || c = 0xA0 || c = 0x1680 ||
    (0x2000 ≤ c && c ≤ 0x200A) || c = 0x2028 || c = 0x2029 || c = 0x202F || c = 0x205F ||
    c = 0x3000

/-- The white space that `int()` and `float()` skip. In the ASCII range it is that of C's `isspace`,
without the four separators that `str.strip()` removes. -/
def isNumeralSpace (c : ℕ) : Bool :=
  if c < 127 then (9 ≤ c && c ≤ 13) || c = 32 else isSpace c

/-- The text without the white space around it. -/
def trim (space : ℕ → Bool) (s : Str) : Str :=
  ((s.dropWhile space).reverse.dropWhile space).reverse

/-- `s.strip()` -/
def strip (s : Str) : Str := trim isSpace s

/-- The code points of the digits zero of all scripts (Unicode category `Nd`). -/
def decimalZeros : List ℕ :=
  [0x30, 0x660, 0x6F0, 0x7C0, 0x966, 0x9E6, 0xA66, 0xAE6, 0xB66, 0xBE6, 0xC66, 0xCE6, 0xD66, 0xDE6,
    0xE50, 0xED0, 0xF20, 0x1040, 0x1090, 0x17E0, 0x1810, 0x1946, 0x19D0, 0x1A80, 0x1A90, 0x1B50,
    0x1BB0, 0x1C40, 0x1C50, 0xA620, 0xA8D0, 0xA900, 0xA9D0, 0xA9F0, 0xAA50, 0xABF0, 0xFF10, 0x104A0,
    0x10D30, 0x11066, 0x110F0, 0x11136, 0x111D0, 0x112F0, 0x11450, 0x114D0, 0x11650, 0x116C0,
    0x11730, 0x118E0, 0x11950, 0x11C50, 0x11D50, 0x11DA0, 0x11F50, 0x16A60, 0x16AC0, 0x16B50,
    0x1D7CE, 0x1D7D8, 0x1D7E2, 0x1D7EC, 0x1D7F6, 0x1E140, 0x1E2F0, 0x1E4F0, 0x1E950, 0x1FBF0]

/-- The value of a decimal digit of any script. -/
def unicodeDigit (c : ℕ) : Option ℕ :=
  (decimalZeros.find? fun z => z ≤ c && c ≤ z + 9).map (c - ·)

/-- The text without surrounding white space, with the digits of all scripts as ASCII digits. -/
def asciiNumeral (s : Str) : Str :=
  (trim isNumeralSpace s).map fun c => (unicodeDigit c).elim c (48 + ·)

/-- The text without its underscores, where each stands between two digits. -/
def dropUnderscores : Bool → Str → Option Str
  | _, [] => some []
  | afterDigit, c :: s =>
    if c = 95 then
      match s with
      | [] => none
      -- An underscore needs a digit on both sides.
      | d :: _ => if afterDigit && (digitVal d).isSome then dropUnderscores false s else none
    else (dropUnderscores (digitVal c).isSome s).map (c :: ·)

/-- `int(s)` of a string. -/
def intOfStr (py : Interp) (s : Str) : Except Exc ℤ :=
  match dropUnderscores false (asciiNumeral s) with
  | none => .error .valueError
  | some u =>
    match spanDigits digitVal (takeSign u).2 with
    | ([], _) => .error .valueError
    | (_, _ :: _) => .error .valueError
    | (ds, []) =>
      -- Leading zeros count as digits.
      if 0 < py.intMaxStrDigits ∧ py.intMaxStrDigits < ds.length then .error .valueError
      else .ok (if (takeSign u).1 then -(ofDigits 10 ds : ℤ) else (ofDigits 10 ds : ℤ))

/-- A text without underscores is left as it is. -/
theorem dropUnderscores_of_forall_ne {s : Str} (h : ∀ c ∈ s, c ≠ 95) (afterDigit : Bool) :
    dropUnderscores afterDigit s = some s := by
  induction s generalizing afterDigit with
  | nil => rfl
  | cons c s ih =>
    have htail := ih (fun d hd => h d (List.mem_cons_of_mem c hd)) (digitVal c).isSome
    unfold dropUnderscores
    rw [if_neg (h c List.mem_cons_self), htail]
    rfl

/-- A decimal text has nothing around it, where no digit is white space. -/
theorem trim_decimal {space : ℕ → Bool} (h : ∀ c, 48 ≤ c → c ≤ 57 → space c = false) (n : ℕ) :
    trim space (decimal n) = decimal n := by
  have hrev : (decimal n).reverse.dropWhile space = (decimal n).reverse := by
    cases hdec : (decimal n).reverse with
    | nil => rfl
    | cons c s =>
      have hmem : c ∈ decimal n := List.mem_reverse.mp (by rw [hdec]; exact List.mem_cons_self)
      obtain ⟨h48, h57⟩ := decimal_bounds hmem
      rw [List.dropWhile_cons_of_neg (by rw [h c h48 h57]; exact Bool.false_ne_true)]
  rw [trim, dropWhile_decimal h, hrev, List.reverse_reverse]

/-- A decimal text has nothing to strip. -/
theorem strip_decimal (n : ℕ) : strip (decimal n) = decimal n := by
  refine trim_decimal (fun c h48 h57 => ?_) n
  simp only [isSpace, Bool.or_eq_false_iff, Bool.and_eq_false_iff, decide_eq_false_iff_not]
  omega

/-- The digits of a decimal text are ASCII digits. -/
theorem asciiNumeral_decimal (n : ℕ) : asciiNumeral (decimal n) = decimal n := by
  have hspace : ∀ c, 48 ≤ c → c ≤ 57 → isNumeralSpace c = false := by
    intro c h48 h57
    rw [isNumeralSpace, if_pos (by omega)]
    simp only [Bool.or_eq_false_iff, Bool.and_eq_false_iff, decide_eq_false_iff_not]
    omega
  unfold asciiNumeral
  rw [trim_decimal hspace]
  refine (List.map_congr_left fun c hc => ?_).trans (List.map_id _)
  obtain ⟨h48, h57⟩ := decimal_bounds hc
  have hdigit : unicodeDigit c = some (c - 48) := by
    unfold unicodeDigit decimalZeros
    rw [List.find?_cons_of_pos (by simp only [Bool.and_eq_true, decide_eq_true_eq]; omega)]
    rfl
  rw [hdigit, Option.elim_some, id]
  omega

/-- `int(str(n))` of a natural number that is not too long. -/
theorem intOfStr_decimal (py : Interp) {n : ℕ} (k : ℕ) (hk : 0 < k) (hn : n < 10 ^ k)
    (hlimit : k ≤ 640) : intOfStr py (decimal n) = .ok n := by
  have hunder : dropUnderscores false (decimal n) = some (decimal n) :=
    dropUnderscores_of_forall_ne (fun c hc => by have := decimal_bounds hc; omega) false
  have hlen : (digits n).length ≤ k := length_digits_le hk hn
  have hshort : ¬ (0 < py.intMaxStrDigits ∧ py.intMaxStrDigits < (digits n).length) := by
    have hge := py.limit_ge
    omega
  unfold intOfStr
  rw [asciiNumeral_decimal, hunder]
  simp only [takeSign_decimal, spanDigits_decimal]
  cases hd : digits n with
  | nil => exact absurd hd (digits_ne_nil n)
  | cons d ds =>
    simp only [← hd, ofDigits_digits]
    rw [if_neg hshort]
    rfl

/-- `str()` writes the number. -/
def Printable (py : Interp) (n : ℤ) : Prop :=
  0 < py.intMaxStrDigits → (digits n.natAbs).length ≤ py.intMaxStrDigits

instance (py : Interp) (n : ℤ) : Decidable (Printable py n) :=
  inferInstanceAs (Decidable (_ → _))

/-- `str(n)` of an `int`. -/
def strOfInt (py : Interp) (n : ℤ) : Except Exc Str :=
  if Printable py n then .ok (signText (n < 0) ++ decimal n.natAbs) else .error .valueError

/-- A number that is no further from zero than one that is written is written, too. -/
theorem Printable.of_abs_le {py : Interp} {m n : ℤ} (hn : Printable py n) (h : |m| ≤ |n|) :
    Printable py m := by
  intro hlimit
  rw [Int.abs_eq_natAbs, Int.abs_eq_natAbs] at h
  exact (length_digits_mono (by exact_mod_cast h)).trans (hn hlimit)

/-- A number of fewer than 640 digits is written. -/
theorem printable_of_abs_lt (py : Interp) {n : ℤ} {k : ℕ} (hk : k < 640) (h : |n| < 10 ^ k) :
    Printable py n := by
  intro hlimit
  have hnat : n.natAbs < 10 ^ k := by
    rw [Int.abs_eq_natAbs] at h
    exact_mod_cast h
  have hlen := length_digits_le k.succ_pos
    (hnat.trans (Nat.pow_lt_pow_right (by decide) k.lt_succ_self))
  have hge := py.limit_ge
  omega

/-- The integer part of a rational, towards zero. -/
def truncate (q : ℚ) : ℤ := if 0 ≤ q then q.floor else q.ceil

/-- `int(value)`. -/
def toInt (py : Interp) : Val → Except Exc ℤ
  | .none => .error .typeError
  | .bool b => .ok (if b then 1 else 0)
  | .int n => .ok n
  | .float .nan => .error .valueError
  | .float .posInf => .error .overflowError
  | .float .negInf => .error .overflowError
  | .float (.fin q) => .ok (truncate q)
  | .str s => intOfStr py s
  | .list _ => .error .typeError
  | .dict _ => .error .typeError

/-- The words that `float(s)` accepts, after a sign. -/
def floatWord (s : Str) : Option ExtRat :=
  let w := s.map lowerAscii
  if w = text "inf" ∨ w = text "infinity" then some .posInf
  else if w = text "nan" then some .nan
  else none

/-- The decimal number that is the whole of a text. -/
def floatNumber (s : Str) : Option ℚ :=
  let ip := spanDigits digitVal s
  let fp := takeFraction digitVal ip.2
  let e := takeExponent [101, 69] fp.2
  if ip.1 ++ fp.1 = [] ∨ e.2 ≠ [] then none else some (decimalValue ip.1 fp.1 e.1)

/-- `float(s)` of a string. -/
def floatOfStr (s : Str) : Except Exc ExtRat :=
  match dropUnderscores false (asciiNumeral s) with
  | none => .error .valueError
  | some u =>
    -- A numeral that is out of range is an infinity here, and no exception.
    let x := (floatWord (takeSign u).2).orElse fun _ => (floatNumber (takeSign u).2).map floatOfRat
    match x with
    | none => .error .valueError
    | some x => .ok (if (takeSign u).1 then x.neg else x)

/-- `float(value)`. -/
def toFloat : Val → Except Exc ExtRat
  | .none => .error .typeError
  | .bool b => .ok (.fin (if b then 1 else 0))
  | .int n => floatOfInt n
  | .float x => .ok x
  | .str s => floatOfStr s
  | .list _ => .error .typeError
  | .dict _ => .error .typeError

/-- `str(value).lower() == word` for a word that is not what `str()` makes of any other type. -/
def isWord (word : String) : Val → Bool
  | .str s => s.map lowerAscii == text word
  | _ => false

/-- `value.lower()`. Only ASCII letters are changed here; no other letter becomes one of the words
that the result is compared with. -/
def lowerStr : Val → Except Exc Str
  | .str s => .ok (s.map lowerAscii)
  | _ => .error .attributeError

/-- A value that is no string has no lower-case form. -/
theorem lowerStr_cases (v : Val) :
    (∃ s, v = .str s) ∨ ((∀ s, v ≠ .str s) ∧ lowerStr v = .error .attributeError) := by
  rcases v with _ | _ | _ | _ | s | _ | _
  case str => exact .inl ⟨s, rfl⟩
  all_goals exact .inr ⟨by simp, rfl⟩

/-- `value == word` for a string. -/
def isStr (word : String) : Val → Bool
  | .str s => s == text word
  | _ => false

/-- `x + y` of floats. -/
def floatAdd (x y : ExtRat) : ExtRat :=
  match x.add y with
  | .fin q => floatOfRat q
  | z => z

/-- `x - y` of floats. -/
def floatSub (x y : ExtRat) : ExtRat := floatAdd x y.neg

/-- `x / y` of floats, for a `y` that is not zero. -/
def floatDiv (x y : ExtRat) : ExtRat :=
  match x.div y with
  | .fin q => floatOfRat q
  | z => z

/-- An `int` or a `float`; a `bool` is the `int` 0 or 1. -/
inductive Num where
  /-- An `int`. -/
  | int (n : ℤ)
  /-- A `float`. -/
  | float (x : ExtRat)

/-- The number that a value is. -/
def toNum : Val → Option Num
  | .bool b => some (.int (if b then 1 else 0))
  | .int n => some (.int n)
  | .float x => some (.float x)
  | _ => none

/-- `value <= 0`, where `none` means that the comparison raises. -/
def leZero (v : Val) : Option Bool :=
  (toNum v).map fun
    | .int n => decide (n ≤ 0)
    | .float x => x.le (.fin 0)

/-- `f"{x:.kf}"` of a float: the nearest number with `k` decimals, and of two nearest the one with
an even last digit. -/
def formatFixed (k : ℕ) : ExtRat → Str
  | .nan => text "nan"
  | .posInf => text "inf"
  | .negInf => text "-inf"
  | .fin q => signText (q < 0) ++ fixedPoint k (roundHalfEven (|q| * 10 ^ k)).toNat

/-- `value[name]`, where `none` means that the access raises. -/
def item? : Val → String → Option Val
  | .dict items, name => Obj.get? items name
  | _, _ => none

end EnergyStation.Python
