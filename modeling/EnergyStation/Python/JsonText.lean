import EnergyStation.Lib.FixedPoint
import EnergyStation.Python.Json

/-!
# Decoding a printed object

What the decoder makes of text that a program has printed without blanks: a key in quotes, a number
with a point, a member followed by a comma or by the end of the object. The lemmas consume the text
from the left, and leave what follows as it is.
-/

namespace EnergyStation.Python

open Numeral

/-- The character stands for itself in a JSON string. -/
def isPlain (c : ℕ) : Bool := 0x1F < c && c ≠ 34 && c ≠ 92

/-- A plain character is taken into the string. -/
theorem scanString_cons {c : ℕ} (hc : isPlain c = true) (s : List ℕ) :
    scanString (c :: s) = consChar c (scanString s) := by
  simp only [isPlain, Bool.and_eq_true, decide_eq_true_eq] at hc
  rw [scanString]
  · rw [if_neg (by omega)]
  · omega
  · intros
    omega
  · intros
    omega

/-- A string of plain characters ends at its quote. -/
theorem scanString_plain {w : List ℕ} (hw : ∀ c ∈ w, isPlain c = true) (rest : List ℕ) :
    scanString (w ++ 34 :: rest) = .ok (w, rest) := by
  induction w with
  | nil => rfl
  | cons c w ih =>
    rw [List.cons_append, scanString_cons (hw c List.mem_cons_self),
      ih fun c' hc' => hw c' (List.mem_cons_of_mem c hc')]
    rfl

/-- A text that does not start with a blank has none to skip. -/
theorem skipWs_cons {c : ℕ} (hc : 32 < c) (s : List ℕ) : skipWs (c :: s) = c :: s := by
  unfold skipWs
  rw [List.dropWhile_cons_of_neg]
  simp only [Bool.or_eq_true, decide_eq_true_eq]
  omega

/-- The integer part of a number is its decimal text. -/
theorem scanIntPart_decimal (n : ℕ) {rest : List ℕ}
    (hrest : ∀ c s, rest = c :: s → digitVal c = none) :
    scanIntPart (decimal n ++ rest) = some (digits n, rest) := by
  rcases Nat.eq_zero_or_pos n with rfl | hn
  · rfl
  · obtain ⟨d, l, hd, hd0⟩ := digits_eq_cons hn.ne'
    have hspan : spanDigits digitVal (decimal n ++ rest) = (digits n, rest) :=
      spanDigits_map (fun d hd => digits_lt_ten hd) hrest
    unfold scanIntPart
    rw [hspan, decimal, hd, List.map_cons, List.cons_append]
    split
    · rename_i heq
      have hzero := (List.cons.inj heq).1
      omega
    · rfl

/-- A number with a point is a `float`. -/
theorem scanNumber_fixedPoint (py : Interp) {k : ℕ} (hk : 0 < k) (n : ℕ) {c : ℕ} {rest : List ℕ}
    (hc : c = 44 ∨ c = 125) :
    scanNumber py (fixedPoint k n ++ c :: rest) =
      .ok (.float (floatOfRat (n / 10 ^ k)), c :: rest) := by
  have hrest : ∀ c' s, c :: rest = c' :: s → digitVal c' = none := by
    intro c' s h
    rw [← (List.cons.inj h).1]
    rcases hc with rfl | rfl <;> rfl
  -- The point ends the integer part.
  have hpoint : ∀ c' s, 46 :: ((fixedDigits k n).map (48 + ·) ++ c :: rest) = c' :: s →
      digitVal c' = none := by
    intro c' s h
    rw [← (List.cons.inj h).1]
    rfl
  have hint : scanIntPart (fixedPoint k n ++ c :: rest) =
      some (digits (n / 10 ^ k), 46 :: ((fixedDigits k n).map (48 + ·) ++ c :: rest)) := by
    rw [fixedPoint, List.append_assoc]
    exact scanIntPart_decimal _ hpoint
  have hlength : fixedDigits k n ≠ [] := fun h => by
    have := length_fixedDigits k n
    rw [h, List.length_nil] at this
    omega
  have hfraction : scanFraction (46 :: ((fixedDigits k n).map (48 + ·) ++ c :: rest)) =
      (fixedDigits k n, c :: rest) := by
    unfold scanFraction
    rw [takeFraction_fixedDigits hrest]
    split
    · rename_i heq
      exact absurd (Prod.mk.inj heq).1 hlength
    · rfl
  have hexponent : takeExponent [101, 69] (c :: rest) = (0, c :: rest) := by
    rcases hc with rfl | rfl <;> rfl
  obtain ⟨c', s, hcons, h48, -⟩ := fixedPoint_eq_cons k n
  -- The text starts with a digit, and so has no sign.
  have hhead : (fixedPoint k n ++ c :: rest).head? ≠ some 45 := by
    rw [hcons, List.cons_append, List.head?_cons, ne_eq, Option.some_inj]
    omega
  -- The point takes at least one character, so the number is no `int`.
  have hpoint' : ¬ (c :: rest = 46 :: ((fixedDigits k n).map (48 + ·) ++ c :: rest)) := fun h => by
    have := (List.cons.inj h).1
    omega
  unfold scanNumber
  simp only [hhead, if_false, hint, hfraction, hexponent,
    hpoint', false_and, decimalValue_fixedPoint]

/-- A text that starts with a digit is scanned as a number. -/
theorem scanAtom_digit (py : Interp) {c : ℕ} (h48 : 48 ≤ c) (h57 : c ≤ 57) (s : List ℕ) :
    scanAtom py (c :: s) = scanNumber py (c :: s) := by
  -- Every constant starts with a letter or a minus sign.
  have hletter : ∀ p ∈ constants, ∃ d w, p.1 = d :: w ∧ (d < 48 ∨ 57 < d) := by
    intro p hp
    simp only [constants, List.mem_cons, List.not_mem_nil, or_false] at hp
    rcases hp with rfl | rfl | rfl | rfl | rfl | rfl <;>
      exact ⟨_, _, rfl, by decide⟩
  have hnone : (constants.find? fun p => (c :: s).take p.1.length == p.1) = none := by
    rw [List.find?_eq_none]
    intro p hp
    obtain ⟨d, w, hw, hd⟩ := hletter p hp
    rw [hw, List.length_cons, List.take_succ_cons, beq_iff_eq]
    intro h
    have hcd := (List.cons.inj h).1
    omega
  unfold scanAtom
  rw [hnone]

/-- A value that starts with a digit is scanned as a number, at every depth. -/
theorem scanValue_digit (py : Interp) (depth : ℕ) {c : ℕ} (h48 : 48 ≤ c) (h57 : c ≤ 57)
    (s : List ℕ) : scanValue py depth (c :: s) = scanNumber py (c :: s) := by
  -- A digit opens neither a string nor a container.
  have hne : ∀ d, d < 48 ∨ 57 < d → ∀ t, c :: s = d :: t → False := by
    intro d hd t h
    have hcd := (List.cons.inj h).1
    omega
  rw [← scanAtom_digit py h48 h57]
  cases depth with
  | zero =>
    rw [scanValue]
    · exact hne 34 (by omega)
    · exact hne 91 (by omega)
    · exact hne 123 (by omega)
  | succ depth =>
    rw [scanValue]
    · exact hne 34 (by omega)
    · exact hne 91 (by omega)
    · exact hne 123 (by omega)

/-- The scanner takes the text as the value, in front of a comma or of a closing brace. -/
def Reads (value : List ℕ → Scan Val) (t : List ℕ) (v : Val) : Prop :=
  ∀ c rest, c = 44 ∨ c = 125 → value (skipWs (t ++ c :: rest)) = .ok (v, c :: rest)

/-- A number with a point is read as a `float`. -/
theorem reads_fixedPoint (py : Interp) (depth : ℕ) {k : ℕ} (hk : 0 < k) (n : ℕ) :
    Reads (scanValue py depth) (fixedPoint k n) (.float (floatOfRat (n / 10 ^ k))) := by
  intro c rest hc
  rw [← scanNumber_fixedPoint py hk n hc]
  obtain ⟨c', s, hcons, h48, h57⟩ := fixedPoint_eq_cons k n
  rw [hcons, List.cons_append, skipWs_cons (by omega), scanValue_digit py depth h48 h57]

/-- The constants `true` and `false` are read as a `bool`. -/
theorem reads_bool (py : Interp) (depth : ℕ) (b : Bool) :
    Reads (scanValue py depth) (if b then text "true" else text "false") (.bool b) := by
  intro c rest hc
  cases b <;> cases depth <;> rcases hc with rfl | rfl <;> rfl

/-- The members of an object as they are printed without blanks, and the brace after them. -/
def membersText : List (Str × List ℕ) → List ℕ
  | [] => [125]
  | [(key, t)] => 34 :: (key ++ 34 :: 58 :: (t ++ [125]))
  | (key, t) :: l => 34 :: (key ++ 34 :: 58 :: (t ++ 44 :: membersText l))

/-- Printed members start with the quote of the first key. -/
theorem membersText_eq_cons {texts : List (Str × List ℕ)} (hne : texts ≠ []) :
    ∃ u, membersText texts = 34 :: u := by
  rcases texts with _ | ⟨⟨key, t⟩, _ | ⟨p, l⟩⟩
  · exact absurd rfl hne
  · exact ⟨_, rfl⟩
  · exact ⟨_, rfl⟩

/-- Each member takes at least one character. -/
theorem length_le_membersText (texts : List (Str × List ℕ)) :
    texts.length ≤ (membersText texts).length := by
  induction texts with
  | nil => exact Nat.zero_le _
  | cons p l ih =>
    obtain ⟨key, t⟩ := p
    cases l with
    | nil => simp [membersText]
    | cons p' l =>
      rw [membersText]
      · simp only [List.length_cons, List.length_append] at ih ⊢
        omega
      · exact List.cons_ne_nil p' l

/-- A member in front of another one is stored under its key. -/
theorem scanMembers_comma {value : List ℕ → Scan Val} {key : Str} {t : List ℕ} {v : Val}
    (hkey : ∀ c ∈ key, isPlain c = true) (hv : Reads value t v) (n : ℕ) (acc : Obj)
    (rest : List ℕ) :
    scanMembers value (n + 1) acc (34 :: (key ++ 34 :: 58 :: (t ++ 44 :: rest))) =
      scanMembers value n (Assoc.set acc key v) (skipWs rest) := by
  have hcolon : skipWs (58 :: (t ++ 44 :: rest)) = 58 :: (t ++ 44 :: rest) :=
    skipWs_cons (by omega) _
  have hcomma : skipWs (44 :: rest) = 44 :: rest := skipWs_cons (by omega) _
  rw [scanMembers, scanString_plain hkey]
  simp only [Except.bind, hcolon, hv 44 rest (Or.inl rfl), hcomma]

/-- The last member is stored under its key, and ends the object. -/
theorem scanMembers_brace {value : List ℕ → Scan Val} {key : Str} {t : List ℕ} {v : Val}
    (hkey : ∀ c ∈ key, isPlain c = true) (hv : Reads value t v) (n : ℕ) (acc : Obj)
    (rest : List ℕ) :
    scanMembers value (n + 1) acc (34 :: (key ++ 34 :: 58 :: (t ++ 125 :: rest))) =
      .ok (Assoc.set acc key v, rest) := by
  have hcolon : skipWs (58 :: (t ++ 125 :: rest)) = 58 :: (t ++ 125 :: rest) :=
    skipWs_cons (by omega) _
  have hbrace : skipWs (125 :: rest) = 125 :: rest := skipWs_cons (by omega) _
  rw [scanMembers, scanString_plain hkey]
  simp only [Except.bind, hcolon, hv 125 rest (Or.inr rfl), hbrace]

/-- The text has a member for each entry, which is read as the entry's value. -/
def Prints (value : List ℕ → Scan Val) (texts : List (Str × List ℕ)) (entries : Obj) : Prop :=
  List.Forall₂ (fun p e => p.1 = e.1 ∧ (∀ c ∈ e.1, isPlain c = true) ∧ Reads value p.2 e.2)
    texts entries

/-- The members that are printed are decoded, each over those before it. -/
theorem scanMembers_membersText {value : List ℕ → Scan Val} {texts : List (Str × List ℕ)}
    {entries : Obj} (h : Prints value texts entries) (hne : texts ≠ []) {n : ℕ}
    (hn : texts.length ≤ n) (acc : Obj) :
    scanMembers value n acc (membersText texts) =
      .ok (entries.foldl (fun o e => Assoc.set o e.1 e.2) acc, []) := by
  induction h generalizing n acc with
  | nil => exact absurd rfl hne
  | cons hhead htail ih =>
    rename_i p e texts' entries'
    obtain ⟨key, t⟩ := p
    obtain ⟨key', v⟩ := e
    obtain ⟨rfl, hkey, hv⟩ := hhead
    -- There is fuel for the members that are left.
    obtain ⟨n, rfl⟩ : ∃ m, n = m + 1 := ⟨n - 1, by
      rw [List.length_cons] at hn
      omega⟩
    cases texts' with
    | nil =>
      cases htail
      exact scanMembers_brace hkey hv n acc []
    | cons p' texts' =>
      have hlen : (p' :: texts').length ≤ n := by
        rw [List.length_cons] at hn
        omega
      have hskip : skipWs (membersText (p' :: texts')) = membersText (p' :: texts') := by
        obtain ⟨u, hu⟩ := membersText_eq_cons (List.cons_ne_nil p' texts')
        rw [hu]
        exact skipWs_cons (by omega) u
      rw [membersText, scanMembers_comma hkey hv, hskip, ih (List.cons_ne_nil p' texts') hlen,
        List.foldl_cons]
      exact List.cons_ne_nil p' texts'

/-- A printed object is decoded to its entries, where containers may be nested at all. -/
theorem jsonLoads_membersText {py : Interp} {depth : ℕ} (hdepth : py.recursionLimit = depth + 1)
    {texts : List (Str × List ℕ)} {entries : Obj}
    (h : Prints (scanValue py depth) texts entries) (hne : texts ≠ []) :
    jsonLoads py (123 :: membersText texts) =
      .ok (.dict (entries.foldl (fun o e => Assoc.set o e.1 e.2) [])) := by
  have hmembers := scanMembers_membersText h hne (length_le_membersText texts) []
  obtain ⟨u, hu⟩ := membersText_eq_cons hne
  have hskip : skipWs (34 :: u) = 34 :: u := skipWs_cons (by omega) u
  have hbrace : skipWs (123 :: 34 :: u) = 123 :: 34 :: u := skipWs_cons (by omega) _
  rw [hu] at hmembers ⊢
  unfold jsonLoads
  rw [hbrace, hdepth]
  simp only [scanValue, scanObject, hskip, hmembers]
  rfl

end EnergyStation.Python
