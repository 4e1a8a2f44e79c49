import EnergyStation.Firmware.Sampling

/-!
# The bodies of a sampling PUT

A body of digits for a number between 1 and 60000 commands an interval, and no other body does. The
handler reads the first 31 bytes, up to a zero byte, with `strtoul`, and leaves the upper bound to
`set_publish_interval_ms`. So it does what a body says exactly if a commanded interval fits the
bound and the buffer, and a body that commands none is not read as a number all the same
(`resPutHandler_exact_iff`).
-/

namespace EnergyStation.Firmware

open CStdlib Numeral

/-- The number that a body of digits denotes. -/
def denoted (body : Bytes) : Option ℕ :=
  match spanDigits digitVal (body.map UInt8.toNat) with
  | (d :: ds, []) => some (ofDigits 10 (d :: ds))
  | _ => none

/-- The body is a number that the resource takes. -/
def Commands (body : Bytes) (interval_ms : ℕ) : Prop :=
  denoted body = some interval_ms ∧ 1 ≤ interval_ms ∧ interval_ms ≤ 60000

/-- A body that denotes a number consists of digits. -/
theorem denoted_eq_some_iff {body : Bytes} {n : ℕ} :
    denoted body = some n ↔ ∃ ds, ds ≠ [] ∧ (∀ d ∈ ds, d < 10) ∧
      body = ds.map (fun d => UInt8.ofNat (48 + d)) ∧ ofDigits 10 ds = n := by
  constructor
  · intro h
    have hlt : ∀ d ∈ (spanDigits digitVal (body.map UInt8.toNat)).1, d < 10 :=
      fun d => spanDigits_lt_ten
    have happend := spanDigits_append (body.map UInt8.toNat)
    unfold denoted at h
    rcases hspan : spanDigits digitVal (body.map UInt8.toNat) with ⟨_ | ⟨d, ds⟩, _ | ⟨c, rest⟩⟩
    · rw [hspan] at h
      cases h
    · rw [hspan] at h
      cases h
    · rw [hspan] at h hlt happend
      rw [List.append_nil] at happend
      refine ⟨d :: ds, List.cons_ne_nil d ds, hlt, ?_, Option.some.inj h⟩
      -- The characters are those of the digits, and a byte is its character.
      have hbytes := congrArg (List.map UInt8.ofNat) happend
      rw [List.map_map, List.map_map] at hbytes
      calc body = body.map (UInt8.ofNat ∘ UInt8.toNat) := by simp [Function.comp_def]
        _ = _ := hbytes.symm
    · rw [hspan] at h
      cases h
  · rintro ⟨ds, hne, hdigits, rfl, rfl⟩
    obtain ⟨d, ds, rfl⟩ := List.exists_cons_of_ne_nil hne
    have hcodes : ((d :: ds).map fun d => UInt8.ofNat (48 + d)).map UInt8.toNat =
        (d :: ds).map (48 + ·) := by
      rw [List.map_map]
      refine List.map_congr_left fun x hx => ?_
      have hlt := hdigits x hx
      exact UInt8.toNat_ofNat_of_lt' (by norm_num [UInt8.size]; omega)
    have hrest : ∀ c s, ([] : List ℕ) = c :: s → digitVal c = none := by simp
    have hspan := spanDigits_map hdigits hrest
    rw [List.append_nil] at hspan
    unfold denoted
    rw [hcodes, hspan]

/-- A text that `strtoul` reads to its end as an interval: a number that the resource takes, with
blanks and a plus sign before it, or the difference of one to `2^32`, with a minus sign. -/
def ReadAsInterval (s : List ℕ) : Prop :=
  ∃ negative ds, Spells s negative ds ∧
    if negative then 2 ^ 32 - 60000 ≤ ofDigits 10 ds ∧ ofDigits 10 ds < 2 ^ 32
    else 1 ≤ ofDigits 10 ds ∧ ofDigits 10 ds ≤ 60000

/-- The number of a text that is read as an interval is one that the resource takes. -/
theorem ulongOf_mem_iff (negative : Bool) (n : ℕ) :
    1 ≤ ulongOf negative n ∧ ulongOf negative n ≤ 60000 ↔
      if negative then 2 ^ 32 - 60000 ≤ n ∧ n < 2 ^ 32 else 1 ≤ n ∧ n ≤ 60000 := by
  unfold ulongOf ulongMax
  cases negative with
  | false =>
    simp only [Bool.false_eq_true, if_false]
    split_ifs <;> omega
  | true =>
    simp only [if_true]
    split_ifs with hmax
    · omega
    · omega

/-- What `strtoul` makes of a text that is read as an interval. -/
theorem readAsInterval_iff (s : List ℕ) :
    ReadAsInterval s ↔
      s ≠ [] ∧ (strtoul s).2 = [] ∧ 1 ≤ (strtoul s).1 ∧ (strtoul s).1 ≤ 60000 := by
  constructor
  · rintro ⟨negative, ds, hspells, hbounds⟩
    obtain ⟨hread, hne⟩ := (strtoul_reads_iff s _).mpr ⟨negative, ds, hspells, rfl⟩
    rw [hread]
    exact ⟨hne, rfl, (ulongOf_mem_iff negative (ofDigits 10 ds)).mpr hbounds⟩
  · rintro ⟨hne, hend, hbounds⟩
    have hread : strtoul s = ((strtoul s).1, []) := Prod.ext rfl hend
    obtain ⟨negative, ds, hspells, hv⟩ := (strtoul_reads_iff s _).mp ⟨hread, hne⟩
    rw [hv] at hbounds
    exact ⟨negative, ds, hspells, (ulongOf_mem_iff negative (ofDigits 10 ds)).mp hbounds⟩

/-- The decimal text of a number denotes it. -/
theorem denoted_decimal (n : ℕ) : denoted ((decimal n).map UInt8.ofNat) = some n := by
  refine denoted_eq_some_iff.mpr
    ⟨digits n, digits_ne_nil n, fun d => digits_lt_ten, ?_, ofDigits_digits n⟩
  rw [decimal, List.map_map]
  rfl

/-- A body of digits leaves its first 31 bytes in the buffer. -/
theorem boundedString_of_digits {ds : List ℕ} (h : ∀ d ∈ ds, d < 10) :
    boundedString 32 (ds.map fun d => UInt8.ofNat (48 + d)) = (ds.take 31).map (48 + ·) := by
  have hascii : ∀ c ∈ (ds.take 31).map (48 + ·), 0 < c ∧ c < 128 := by
    intro c hc
    obtain ⟨d, hd, rfl⟩ := List.mem_map.mp hc
    have hlt := h d (List.mem_of_mem_take hd)
    omega
  have hlen : ((ds.take 31).map (48 + ·)).length < 32 := by
    rw [List.length_map, List.length_take]
    omega
  have hshort := boundedString_ascii hascii hlen
  rw [List.map_map] at hshort
  calc boundedString 32 (ds.map fun d => UInt8.ofNat (48 + d))
      = boundedString 32 ((ds.map fun d => UInt8.ofNat (48 + d)).take 31) := by
        unfold boundedString
        rw [List.take_take, Nat.min_self]
    _ = boundedString 32 ((ds.take 31).map fun d => UInt8.ofNat (48 + d)) := by rw [List.map_take]
    _ = (ds.take 31).map (48 + ·) := hshort

/-- A number that fits the buffer is there as it was sent. -/
theorem boundedString_of_denoted {body : Bytes} {n : ℕ} (hn : denoted body = some n)
    (hlen : body.length < 32) :
    (boundedString 32 body).map UInt8.ofNat = body ∧
      ∃ ds, Spells (boundedString 32 body) false ds ∧ ofDigits 10 ds = n := by
  obtain ⟨ds, hne, hdigits, rfl, hds⟩ := denoted_eq_some_iff.mp hn
  rw [List.length_map] at hlen
  rw [boundedString_of_digits hdigits, List.take_of_length_le (by omega), List.map_map]
  exact ⟨rfl, ds, ⟨hne, hdigits, [], [], by simp, List.mem_pair.mpr (.inl rfl), rfl⟩, hds⟩

/-- A number that the buffer cuts is a smaller number there. -/
theorem length_lt_of_denoted {body : Bytes} {n : ℕ} (hpos : 0 < n) (hn : denoted body = some n)
    (hcut : denoted ((boundedString 32 body).map UInt8.ofNat) = some n) : body.length < 32 := by
  obtain ⟨ds, -, hdigits, rfl, hds⟩ := denoted_eq_some_iff.mp hn
  rw [List.length_map]
  by_contra hlong
  have htake : denoted ((ds.take 31).map fun d => UInt8.ofNat (48 + d)) =
      some (ofDigits 10 (ds.take 31)) := by
    refine denoted_eq_some_iff.mpr ⟨ds.take 31, fun h => ?_,
      fun d hd => hdigits d (List.mem_of_mem_take hd), rfl, rfl⟩
    have hlen := congrArg List.length h
    rw [List.length_take, List.length_nil] at hlen
    omega
  rw [boundedString_of_digits hdigits, List.map_map] at hcut
  have hsame : ofDigits 10 (ds.take 31) = n := Option.some.inj (htake.symm.trans hcut)
  -- Each digit that is cut off is a factor of ten.
  have hsplit := ofDigits_append 10 (ds.take 31) (ds.drop 31)
  rw [List.take_append_drop, hds, hsame] at hsplit
  have hpow : 10 ^ 1 ≤ 10 ^ (ds.drop 31).length :=
    Nat.pow_le_pow_right (by norm_num) (by rw [List.length_drop]; omega)
  have hmul : n * 10 ^ 1 ≤ n * 10 ^ (ds.drop 31).length := Nat.mul_le_mul_left n hpow
  omega

/-- What a sampling PUT is for: it takes a number of the range, repeats it, stores it and reports
it, and refuses any other body without a trace. -/
structure PutExact (cfg : SamplingBuild) (s : Sampling) (body : Bytes) : Prop where
  /-- 2.04 is for a number of the range. -/
  changed_iff : (s.resPutHandler cfg body).1.code = .changed ↔ ∃ n, Commands body n
  /-- The reply, the interval and the next GET have this number. -/
  denotes : ∀ n, Commands body n →
    denoted (s.resPutHandler cfg body).1.payload = some n ∧
      (s.resPutHandler cfg body).2.current_publish_interval_ms = n ∧
      denoted (s.resPutHandler cfg body).2.resGetHandler.payload = some n
  /-- Any other body is answered 4.00, and changes nothing. -/
  refused : (¬ ∃ n, Commands body n) →
    (s.resPutHandler cfg body).1.code = .badRequest ∧ (s.resPutHandler cfg body).2 = s

/-- A body that the handler takes for what it is: an interval that it commands is not above the
bound of `set_publish_interval_ms` and fits the buffer, and if it commands none, none is read. -/
structure TakenExactly (body : Bytes) : Prop where
  /-- The interval and its text are not cut. -/
  uncut : ∀ n, Commands body n → n ≤ mqttPublishIntervalStressedMs ∧ body.length < 32
  /-- An interval that is read was commanded. -/
  commanded : ReadAsInterval (boundedString 32 body) → ∃ n, Commands body n

namespace Sampling

/-- The handler sets an interval that it reads from the buffer, and refuses every other body. -/
theorem resPutHandler_reads (cfg : SamplingBuild) (s : Sampling) (body : Bytes) :
    (ReadAsInterval (boundedString 32 body) ∧
      s.resPutHandler cfg body =
        (⟨.changed, (boundedString 32 body).map UInt8.ofNat⟩,
          s.setPublishIntervalMs cfg (strtoul (boundedString 32 body)).1)) ∨
    (¬ ReadAsInterval (boundedString 32 body) ∧
      (s.resPutHandler cfg body).1.code = .badRequest ∧ (s.resPutHandler cfg body).2 = s) := by
  rw [readAsInterval_iff]
  unfold resPutHandler
  simp only
  split_ifs with hbody hbad
  · refine .inr ⟨?_, rfl, rfl⟩
    rw [hbody]
    exact fun h => h.1 rfl
  · refine .inr ⟨?_, rfl, rfl⟩
    rintro ⟨hne, hend, hpos, hle⟩
    rw [hend] at hbad
    rcases hbad with h | h | h | h
    · exact hne h.symm
    · exact h rfl
    · omega
    · omega
  · push Not at hbad
    obtain ⟨hne, hend, hpos, hle⟩ := hbad
    exact .inl ⟨⟨fun h => hne (hend.trans h.symm), hend, by omega, by omega⟩, rfl⟩

/-- A number that fits the bound and the buffer is repeated and stored as it is. -/
theorem resPutHandler_of_uncut (cfg : SamplingBuild) (s : Sampling) {body : Bytes} {n : ℕ}
    (hn : Commands body n) (hle : n ≤ mqttPublishIntervalStressedMs) (hlen : body.length < 32) :
    (s.resPutHandler cfg body).1 = ⟨.changed, body⟩ ∧
      (s.resPutHandler cfg body).2.current_publish_interval_ms = n := by
  obtain ⟨hbody, ds, hspells, hds⟩ := boundedString_of_denoted hn.1 hlen
  have hmax : n ≤ 60000 := hn.2.2
  have hread : strtoul (boundedString 32 body) = (n, []) := by
    obtain ⟨heq, -⟩ := (strtoul_reads_iff _ _).mpr ⟨false, ds, hspells, rfl⟩
    rw [heq, hds, ulongOf, if_neg (by unfold ulongMax; omega), if_neg Bool.false_ne_true]
  rcases resPutHandler_reads cfg s body with ⟨-, heq⟩ | ⟨hno, -⟩
  · rw [heq, hbody, hread]
    exact ⟨rfl, (setPublishIntervalMs_current cfg n s).trans (clampInterval_of_bounds hn.2.1 hle)⟩
  · refine absurd ⟨false, ds, hspells, ?_⟩ hno
    rw [hds]
    exact hn.2

/-- The handler does what a body says, in every state, exactly if it takes the body for what it
is. -/
theorem resPutHandler_exact_iff (cfg : SamplingBuild) (s : Sampling) (body : Bytes) :
    PutExact cfg s body ↔ TakenExactly body := by
  constructor
  · intro h
    refine ⟨fun n hn => ?_, fun hread => ?_⟩
    · obtain ⟨hecho, hstored, -⟩ := h.denotes n hn
      -- No state stores an interval above the bound, so an exact handler is not asked for one.
      have hle := (s.resPutHandler cfg body).2.le
      rw [hstored] at hle
      rcases resPutHandler_reads cfg s body with ⟨-, heq⟩ | ⟨-, hcode, -⟩
      · rw [heq] at hecho
        exact ⟨hle, length_lt_of_denoted hn.2.1 hn.1 hecho⟩
      · have hchanged := h.changed_iff.mpr ⟨n, hn⟩
        rw [hcode] at hchanged
        exact absurd hchanged Code.badRequest_ne_changed
    · rcases resPutHandler_reads cfg s body with ⟨-, heq⟩ | ⟨hno, -⟩
      · exact h.changed_iff.mp (by rw [heq])
      · exact absurd hread hno
  · intro h
    have hreads : ∀ n, Commands body n → (s.resPutHandler cfg body).1 = ⟨.changed, body⟩ ∧
        (s.resPutHandler cfg body).2.current_publish_interval_ms = n := fun n hn =>
      resPutHandler_of_uncut cfg s hn (h.uncut n hn).1 (h.uncut n hn).2
    refine ⟨⟨fun hcode => ?_, ?_⟩, fun n hn => ?_, fun hno => ?_⟩
    · rcases resPutHandler_reads cfg s body with ⟨hread, -⟩ | ⟨-, hbad, -⟩
      · exact h.commanded hread
      · exact absurd (hbad.symm.trans hcode) Code.badRequest_ne_changed
    · rintro ⟨n, hn⟩
      rw [(hreads n hn).1]
    · obtain ⟨hreply, hstored⟩ := hreads n hn
      refine ⟨hreply ▸ hn.1, hstored, ?_⟩
      unfold resGetHandler
      rw [hstored]
      exact denoted_decimal n
    · rcases resPutHandler_reads cfg s body with ⟨hread, -⟩ | ⟨-, hrefused⟩
      · exact absurd (h.commanded hread) hno
      · exact hrefused

/-- A PUT of 20000 is answered with 20000, and sets an interval of 15000. -/
theorem cut_interval_is_not_reported :
    ¬ ∀ (cfg : SamplingBuild) (s : Sampling) (body : Bytes), PutExact cfg s body := by
  intro h
  have hput := h ⟨5000, by decide, by decide⟩ (boot ⟨5000, by decide, by decide⟩) (ascii "20000")
  exact absurd (hput.denotes 20000 ⟨by decide, by decide, by decide⟩).2.1 (by decide)

end Sampling

end EnergyStation.Firmware
