import EnergyStation.Python.Utf8

/-!
# `json.loads`

The decoder of Python's `json` module, character by character as its C scanner reads: it accepts
`NaN`, `Infinity` and `-Infinity`, keeps integers exact, takes the last of duplicate keys, and
allows lone surrogates in strings. A text that is not JSON raises `JSONDecodeError`. Two texts can
raise something else: containers nested beyond the interpreter's recursion limit, and an integer
with more digits than `int()` accepts.
-/

namespace EnergyStation.Python

open Numeral

/-- A value and the text after it, or the exception raised. -/
abbrev Scan (α : Type) := Except Exc (α × List ℕ)

/-- The text without leading JSON white space. -/
def skipWs (s : List ℕ) : List ℕ := s.dropWhile fun c => c = 32 || c = 9 || c = 10 || c = 13

/-- The code point of four hexadecimal digits. -/
def hex4 (a b c d : ℕ) : Option ℕ :=
  match hexVal a, hexVal b, hexVal c, hexVal d with
  | some a, some b, some c, some d => some (((a * 16 + b) * 16 + c) * 16 + d)
  | _, _, _, _ => none

/-- The character that a one-letter escape stands for. -/
def simpleEscape (c : ℕ) : Option ℕ :=
  if c = 34 ∨ c = 92 ∨ c = 47 then some c
  else if c = 98 then some 8
  else if c = 102 then some 12
  else if c = 110 then some 10
  else if c = 114 then some 13
  else if c = 116 then some 9
  else none

/-- One more character in front of a scanned string. -/
def consChar (c : ℕ) (r : Scan Str) : Scan Str := r.map fun p => (c :: p.1, p.2)

/-- A string, from after its opening quote. -/
def scanString : List ℕ → Scan Str
  | [] => .error .jsonDecodeError
  | 34 :: s => .ok ([], s)
  -- A `\u` escape. A high surrogate takes the low surrogate of the escape after it with it.
  | 92 :: 117 :: a :: b :: c :: d :: s =>
    match hex4 a b c d with
    | none => .error .jsonDecodeError
    | some u =>
      match s with
      | 92 :: 117 :: a' :: b' :: c' :: d' :: s' =>
        match hex4 a' b' c' d' with
        | none => .error .jsonDecodeError
        | some u' =>
          if 0xD800 ≤ u ∧ u ≤ 0xDBFF ∧ 0xDC00 ≤ u' ∧ u' ≤ 0xDFFF then
            consChar (0x10000 + (u - 0xD800) * 0x400 + (u' - 0xDC00)) (scanString s')
          -- The escape after it is scanned again, on its own.
          else consChar u (scanString (92 :: 117 :: a' :: b' :: c' :: d' :: s'))
      | s => consChar u (scanString s)
  | 92 :: e :: s =>
    match simpleEscape e with
    | some c => consChar c (scanString s)
    | none => .error .jsonDecodeError
  -- The decoder is strict: control characters have to be escaped.
  | c :: s => if c ≤ 0x1F ∨ c = 92 then .error .jsonDecodeError else consChar c (scanString s)

/-- The integer part of a number: a single zero, or digits that do not start with one. -/
def scanIntPart (s : List ℕ) : Option (List ℕ × List ℕ) :=
  match s with
  | 48 :: rest => some ([0], rest)
  | _ =>
    match spanDigits digitVal s with
    | ([], _) => none
    | p => some p

/-- A point with at least one digit after it. -/
def scanFraction (s : List ℕ) : List ℕ × List ℕ :=
  match takeFraction digitVal s with
  | ([], _) => ([], s)
  | p => p

/-- A number. It is an `int` unless it has a fraction or an exponent. -/
def scanNumber (py : Interp) (s : List ℕ) : Scan Val :=
  let neg := s.head? = some 45
  match scanIntPart (if neg then s.tail else s) with
  | none => .error .jsonDecodeError
  | some (ip, rest) =>
    let fp := scanFraction rest
    let e := takeExponent [101, 69] fp.2
    -- Neither a fraction nor an exponent has taken anything.
    if fp.2 = rest ∧ e.2 = fp.2 then
      if 0 < py.intMaxStrDigits ∧ py.intMaxStrDigits < ip.length then .error .valueError
      else .ok (.int (if neg then -(ofDigits 10 ip : ℤ) else (ofDigits 10 ip : ℤ)), rest)
    else
      let q := decimalValue ip fp.1 e.1
      .ok (.float (floatOfRat (if neg then -q else q)), e.2)

/-- The constants, with what they denote. -/
def constants : List (List ℕ × Val) :=
  [(text "null", .none), (text "true", .bool true), (text "false", .bool false),
    (text "NaN", .float .nan), (text "Infinity", .float .posInf),
    (text "-Infinity", .float .negInf)]

/-- A constant or a number. -/
def scanAtom (py : Interp) (s : List ℕ) : Scan Val :=
  match constants.find? fun p => s.take p.1.length == p.1 with
  | some (w, v) => .ok (v, s.drop w.length)
  | none => scanNumber py s

/-- The elements of an array from the first one on, with a scanner for values. An element and its
comma take at least one character, so as many rounds as there are characters are enough. -/
def scanElements (value : List ℕ → Scan Val) : ℕ → List ℕ → Scan (List Val)
  | 0, _ => .error .jsonDecodeError
  | n + 1, s =>
    (value s).bind fun (v, s) =>
      match skipWs s with
      | 93 :: s => .ok ([v], s)
      | 44 :: s => (scanElements value n (skipWs s)).map fun p => (v :: p.1, p.2)
      | _ => .error .jsonDecodeError

/-- The members of an object from the first one on, added to those before. -/
def scanMembers (value : List ℕ → Scan Val) : ℕ → Obj → List ℕ → Scan Obj
  | n + 1, acc, 34 :: s =>
    (scanString s).bind fun (k, s) =>
      match skipWs s with
      | 58 :: s =>
        (value (skipWs s)).bind fun (v, s) =>
          match skipWs s with
          -- A key that is there already keeps its place and takes the new value.
          | 125 :: s => .ok (Assoc.set acc k v, s)
          | 44 :: s => scanMembers value n (Assoc.set acc k v) (skipWs s)
          | _ => .error .jsonDecodeError
      | _ => .error .jsonDecodeError
  | _, _, _ => .error .jsonDecodeError

/-- An array from after its bracket. -/
def scanArray (value : List ℕ → Scan Val) (s : List ℕ) : Scan Val :=
  match skipWs s with
  | 93 :: s => .ok (.list [], s)
  | s => (scanElements value s.length s).map fun p => (.list p.1, p.2)

/-- An object from after its brace. -/
def scanObject (value : List ℕ → Scan Val) (s : List ℕ) : Scan Val :=
  match skipWs s with
  | 125 :: s => .ok (.dict [], s)
  | s => (scanMembers value s.length [] s).map fun p => (.dict p.1, p.2)

/-- A value, with at most `depth` more levels of containers. -/
def scanValue (py : Interp) : ℕ → List ℕ → Scan Val
  | 0, s =>
    match s with
    | 34 :: s => (scanString s).map fun p => (.str p.1, p.2)
    -- The C scanner checks the recursion when it enters a container.
    | 91 :: _ => .error .recursionError
    | 123 :: _ => .error .recursionError
    | s => scanAtom py s
  | depth + 1, s =>
    match s with
    | 34 :: s => (scanString s).map fun p => (.str p.1, p.2)
    | 91 :: s => scanArray (scanValue py depth) s
    | 123 :: s => scanObject (scanValue py depth) s
    | s => scanAtom py s

/-- `json.loads(s)` of a string. -/
def jsonLoads (py : Interp) (s : Str) : Except Exc Val :=
  -- A byte order mark has a `JSONDecodeError` of its own.
  if s.head? = some 0xFEFF then .error .jsonDecodeError
  else
    (scanValue py py.recursionLimit (skipWs s)).bind fun (v, s) =>
      if skipWs s = [] then .ok v else .error .jsonDecodeError

/-- `json.loads(payload.decode('utf-8'))`. -/
def loadBody (py : Interp) (body : List UInt8) : Except Exc Val :=
  match utf8Decode body with
  | none => .error .unicodeDecodeError
  | some s => jsonLoads py s

/-- The object that a request or a message carries, whose `.get` is called first. -/
def loadObject (py : Interp) (body : List UInt8) : Except Exc Obj := (loadBody py body).bind asDict

end EnergyStation.Python
