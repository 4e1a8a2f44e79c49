import EnergyStation.Firmware.Battery

/-!
# The range of the charge

`res_put_battery_handler` adds a number that it reads with `atof` and then brings the sum back into
the range by two comparisons. Both are false for NaN, which `atof` accepts, so the charge stays in
its range exactly as long as no body spells NaN (`charge_in_range_iff`). Every other body, whatever
its bytes, is harmless.
-/

namespace EnergyStation.Firmware.Battery

open CStdlib Runs

/-- A request to one of the battery node's PUT handlers, by its body. -/
inductive Put where
  /-- PUT `actuators/battery`. -/
  | battery (body : Bytes)
  /-- PUT `actuators/battery/override`. -/
  | override (body : Bytes)

/-- The state after a request. -/
def put (b : Battery) : Put → Battery
  | .battery body => (b.resPutBatteryHandler body).2
  | .override body => (b.resPutOverrideHandler body).2

/-- The charge is an ordinary number between zero and the capacity `m`, and so the state of charge
that the handlers compare is one between zero and one. -/
def InRange (m : ℚ) (b : Battery) : Prop :=
  ∃ c, b.charged_capacity = .fin c ∧ 0 ≤ c ∧ c ≤ m ∧ b.soc = .fin (c / m)

/-- What the handler sees of the body spells NaN. -/
def bodySpellsNan (body : Bytes) : Bool := spellsNan (boundedString 32 body)

theorem parseDelta_eq_nan_iff (body : Bytes) :
    parseDelta body = .nan ↔ bodySpellsNan body = true := atof_eq_nan_iff _

@[simp] theorem put_max_capacity (b : Battery) (p : Put) :
    (b.put p).max_capacity = b.max_capacity := by
  cases p with
  | battery body =>
    simp only [put, resPutBatteryHandler]
    split_ifs
    · rfl
    · exact putDelta_max_capacity b _
  | override body =>
    obtain ⟨v, hv⟩ := resPutOverrideHandler_frame b body
    simp only [put, hv]

/-- A charge in the range gives a state of charge that the comparisons can use. -/
theorem inRange_of_charged {m c : ℚ} {b : Battery} (hm : 0 < m) (hmax : b.max_capacity = .fin m)
    (hc : b.charged_capacity = .fin c) (h0 : 0 ≤ c) (h1 : c ≤ m) : InRange m b :=
  ⟨c, hc, h0, h1, soc_of_fin hm hmax hc⟩

/-- The two comparisons bring every number back into the range. -/
theorem charge_in_range {m c : ℚ} {b : Battery} (hm : 0 < m) (hmax : b.max_capacity = .fin m)
    (hc : b.charged_capacity = .fin c) {x : ExtRat} (hx : x ≠ .nan) :
    ∃ c', b.charge x = .fin c' ∧ 0 ≤ c' ∧ c' ≤ m := by
  cases x with
  | nan => exact absurd rfl hx
  | posInf =>
    refine ⟨m, ?_, hm.le, le_refl m⟩
    simp [charge, hc, hmax]
  | negInf =>
    refine ⟨0, ?_, le_refl 0, hm.le⟩
    have hnot : ¬ m < 0 := not_lt.mpr hm.le
    simp [charge, hc, hmax, hnot, ExtRat.lt]
  | fin d =>
    exact ⟨_, charge_fin hmax hc d, le_min (le_max_right _ _) hm.le, min_le_right _ _⟩

/-- A NaN is added to the charge, and no comparison takes it out again. -/
theorem putDelta_nan (b : Battery) : (b.putDelta .nan).2.charged_capacity = .nan := by
  have hrefuse : b.refuses .nan = false := by simp [refuses]
  unfold putDelta
  rw [hrefuse, if_neg Bool.false_ne_true, updateLockState_charged_capacity]
  simp [charge]

/-- A body that spells NaN takes the charge with it. -/
theorem put_of_spellsNan (b : Battery) {body : Bytes} (h : bodySpellsNan body = true) :
    (b.put (.battery body)).charged_capacity = .nan := by
  have hbody : body ≠ [] := by
    rintro rfl
    exact absurd h (by decide)
  simp only [put, resPutBatteryHandler, if_neg hbody, (parseDelta_eq_nan_iff body).mpr h]
  exact putDelta_nan b

/-- A request leaves the charge as it is, or adds the number in its body. -/
theorem put_charged_cases (b : Battery) (p : Put) :
    (b.put p).charged_capacity = b.charged_capacity ∨
      ∃ body, p = .battery body ∧ (b.put p).charged_capacity = b.charge (parseDelta body) := by
  rcases p with body | body
  · simp only [put, resPutBatteryHandler, putDelta]
    split_ifs
    · exact Or.inl rfl
    · exact Or.inl rfl
    · exact Or.inr ⟨body, rfl, updateLockState_charged_capacity _⟩
  · obtain ⟨v, hv⟩ := resPutOverrideHandler_frame b body
    left
    simp only [put, hv]

/-- From a charge in the range, a request keeps it there exactly when its body does not spell NaN
to the battery handler. -/
theorem put_inRange_iff {m : ℚ} {b : Battery} (hm : 0 < m) (hmax : b.max_capacity = .fin m)
    (h : InRange m b) (p : Put) :
    InRange m (b.put p) ↔ ∀ body, p = .battery body → bodySpellsNan body = false := by
  obtain ⟨c, hc, h0, h1, -⟩ := h
  have hmax' := (put_max_capacity b p).trans hmax
  constructor
  · rintro ⟨c', hc', -⟩ body rfl
    refine Bool.eq_false_iff.mpr fun hnan => ?_
    rw [put_of_spellsNan b hnan] at hc'
    cases hc'
  · intro hspells
    rcases put_charged_cases b p with hsame | ⟨body, rfl, hnew⟩
    · exact inRange_of_charged hm hmax' (hsame.trans hc) h0 h1
    · have hx : parseDelta body ≠ .nan := fun h => by
        have hfree := hspells body rfl
        rw [(parseDelta_eq_nan_iff body).mp h] at hfree
        exact absurd hfree (by decide)
      obtain ⟨c', hc', h0', h1'⟩ := charge_in_range hm hmax hc hx
      exact inRange_of_charged hm hmax' (hnew.trans hc') h0' h1'

/-- From a charge in the range, a whole run keeps it there exactly when none of its charge commands
spells NaN. -/
theorem visited_inRange_iff {m : ℚ} {b : Battery} (hm : 0 < m) (hmax : b.max_capacity = .fin m)
    (h : InRange m b) (es : List Put) :
    (∀ t ∈ visited put b es, InRange m t) ↔
      ∀ body, Put.battery body ∈ es → bodySpellsNan body = false := by
  induction es generalizing b with
  | nil => simp [visited, h]
  | cons p es ih =>
    have hstep := put_inRange_iff hm hmax h p
    have hmax' := (put_max_capacity b p).trans hmax
    simp only [visited, List.forall_mem_cons, h, true_and]
    constructor
    · intro hall body hbody
      have hfirst : InRange m (b.put p) := by
        refine hall _ ?_
        cases es <;> exact List.mem_cons_self
      rcases List.mem_cons.mp hbody with hp | hbody
      · exact hstep.mp hfirst body hp.symm
      · exact (ih hmax' hfirst).mp hall body hbody
    · intro hall
      have hfirst : InRange m (b.put p) :=
        hstep.mpr fun body hp => hall body (hp ▸ List.mem_cons_self)
      exact (ih hmax' hfirst).mpr fun body hbody => hall body (List.mem_cons_of_mem p hbody)

/-- From a boot with the charge in its range, the charge is an ordinary number in the range in every
state of a run exactly when no charge command of the run spells NaN in its first 31 bytes. -/
theorem charge_in_range_iff {m c : ℚ} (hm : 0 < m) (h0 : 0 ≤ c) (h1 : c ≤ m) (es : List Put) :
    (∀ t ∈ visited put (boot m c) es, InRange m t) ↔
      ∀ body, Put.battery body ∈ es → bodySpellsNan body = false :=
  visited_inRange_iff hm rfl (inRange_of_charged hm rfl rfl h0 h1) es

/-- The build's battery after a charge command that is not a number at all, and one that is
infinite. -/
theorem charge_in_range_build :
    InRange 10 (run put (boot 10 5) [.battery (ascii "full"), .battery (ascii "-inf")]) := by
  have hspells : ∀ body, Put.battery body ∈
      [Put.battery (ascii "full"), Put.battery (ascii "-inf")] → bodySpellsNan body = false := by
    intro body hbody
    simp only [List.mem_cons, Put.battery.injEq, List.not_mem_nil, or_false] at hbody
    rcases hbody with rfl | rfl <;> decide
  exact (charge_in_range_iff (by norm_num) (by norm_num) (by norm_num) _).mpr hspells _
    (mem_visited_iff.mpr ⟨_, List.prefix_rfl, rfl⟩)

/-- The body `nan` takes the charge of the build's battery out of its range. -/
theorem nan_leaves_range :
    ¬ ∀ (es : List Put), ∀ t ∈ visited put (boot 10 5) es, InRange 10 t := by
  intro h
  obtain ⟨c, hc, -⟩ := h [.battery (ascii "nan")] (put (boot 10 5) (.battery (ascii "nan")))
    (by simp [visited])
  rw [put_of_spellsNan (boot 10 5) (by decide)] at hc
  cases hc

end EnergyStation.Firmware.Battery
