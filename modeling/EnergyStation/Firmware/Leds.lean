import EnergyStation.Coap
import EnergyStation.Lib.Runs
import Mathlib.Logic.Function.Basic

/-!
# The LEDs of a producer node

`res_leds` switches an LED for a query variable `color` and a post variable `mode`, `res_toggle`
toggles the red one, and `mqtt_event_handler` takes commands such as `led:g:on`. `res_leds` compares
no more characters than it is given, so it also takes the beginning of a word for the word: `mode=o`
switches on. What a request commands is `Commands`, and each handler does that and nothing else
(`step_cases`). So over a run every LED is as its last command has left it (`run_of_last`).
-/

namespace EnergyStation.Firmware.Leds

open CStdlib Runs

/-- The LEDs. -/
inductive Led where
  /-- `LEDS_RED` -/
  | red
  /-- `LEDS_GREEN` -/
  | green
  /-- `LEDS_BLUE`, or `LEDS_YELLOW` on a platform without a blue one. -/
  | blue
  deriving DecidableEq

/-- Which of the LEDs are lit. -/
abbrev Lit := Led → Bool

/-- `leds_on` -/
def ledsOn (led : Led) (leds : Lit) : Lit := Function.update leds led true

/-- `leds_off` -/
def ledsOff (led : Led) (leds : Lit) : Lit := Function.update leds led false

/-- `leds_toggle` -/
def ledsToggle (led : Led) (leds : Lit) : Lit := Function.update leds led !(leds led)

/-- `strncmp(s, word, len) == 0` for an `s` of `len` characters and a `word` that ends at its
NUL. -/
def strncmp : Bytes → Bytes → Bool
  | [], _ => true
  | c :: _, [] => c == 0
  | c :: s, w :: word => c == w && (c == 0 || strncmp s word)

namespace ResLeds

/-- The LED of a color. -/
def led (color : Bytes) : Option Led :=
  if strncmp color (ascii "r") then some .red
  else if strncmp color (ascii "g") then some .green
  else if strncmp color (ascii "b") then some .blue
  else none

/-- `res_post_put_handler` of `res-leds.c`, for the values of `coap_get_query_variable` and of
`coap_get_post_variable`, which are empty where there is no such variable. The status code is the
one that the handler sets, if it sets one. -/
def resPostPutHandler (color mode : Bytes) (leds : Lit) : Option Code × Lit :=
  match if color.length ≠ 0 then led color else none with
  | none => (some .badRequest, leds)
  | some led =>
    if mode.length ≠ 0 then
      if strncmp mode (ascii "on") then (none, ledsOn led leds)
      else if strncmp mode (ascii "off") then (none, ledsOff led leds)
      else (some .badRequest, leds)
    else (some .badRequest, leds)

end ResLeds

/-- `res_post_handler` of `res-toggle.c`. -/
def ResToggle.resPostHandler (leds : Lit) : Lit := ledsToggle .red leds

/-- The LED of the letter in a command over MQTT. -/
def mqttLed (color : UInt8) : Option Led :=
  if color = 114 then some .red else if color = 103 then some .green else if color =
    98 then some .blue else none

/-- `MQTT_EVENT_PUBLISH` of `mqtt_event_handler`, for a `payload_chunk` of `payload_chunk_length`
bytes, and the bytes that follow it in memory. -/
def mqttEventPublish (payload_chunk after : Bytes) (leds : Lit) : Lit :=
  let buffer := payload_chunk ++ after
  if hasPrefix (ascii "led:") buffer && decide (8 ≤ payload_chunk.length) then
    match (buffer[4]?).bind mqttLed with
    | none => leds
    | some led =>
      if hasPrefix (ascii "on") (buffer.drop 6) then ledsOn led leds
      else if hasPrefix (ascii "off") (buffer.drop 6) then ledsOff led leds
      else leds
  else leds

/-- What reaches the LEDs. -/
inductive Request where
  /-- A POST or PUT request to `actuators/leds`, with the values of its two variables. -/
  | control (color mode : Bytes)
  /-- A POST request to `actuators/toggle`. -/
  | toggle
  /-- A message over MQTT. -/
  | message (payload_chunk after : Bytes)

/-- The LEDs after a request. -/
def step (leds : Lit) : Request → Lit
  | .control color mode => (ResLeds.resPostPutHandler color mode leds).2
  | .toggle => ResToggle.resPostHandler leds
  | .message payload_chunk after => mqttEventPublish payload_chunk after leds

/-- What can be commanded. -/
inductive Command where
  /-- The LED is to be on, or off. -/
  | set (led : Led) (on : Bool)
  /-- The LED is to change. -/
  | toggle (led : Led)
  deriving DecidableEq

/-- The LED of a command. -/
def Command.led : Command → Led
  | .set led _ => led
  | .toggle led => led

/-- The command is obeyed. -/
def Command.apply (leds : Lit) : Command → Lit
  | .set led on => Function.update leds led on
  | .toggle led => Function.update leds led !(leds led)

/-- The value passes for the word: it is the word or a beginning of it, or goes on after the word
with a NUL. -/
def PassesFor (s word : Bytes) : Prop := s ≠ [] ∧ (s <+: word ∨ word ++ [0] <+: s)

instance (s word : Bytes) : Decidable (PassesFor s word) := inferInstanceAs (Decidable (_ ∧ _))

/-- The letter of an LED. -/
def Led.letter : Led → UInt8
  | .red => 114
  | .green => 103
  | .blue => 98

/-- The word for on and off. -/
def modeWord (on : Bool) : Bytes := if on then ascii "on" else ascii "off"

/-- What a request commands. -/
inductive Commands : Request → Command → Prop where
  /-- A color and a mode. A beginning that both words have is the one of `on`. -/
  | control {color mode : Bytes} (led : Led) (on : Bool) (hcolor : PassesFor color [led.letter])
      (hmode : PassesFor mode (modeWord on)) (hoff : on = false →
        ¬ PassesFor mode (modeWord true)) :
      Commands (.control color mode) (.set led on)
  /-- The red LED. -/
  | toggle : Commands .toggle (.toggle .red)
  /-- A message of eight bytes or more, with any byte between the color and the mode. -/
  | message {payload_chunk after : Bytes} (led : Led) (on : Bool) (separator : UInt8) (tail : Bytes)
      (hlength : 8 ≤ payload_chunk.length)
      (htext : payload_chunk ++ after = ascii "led:" ++
        led.letter :: separator :: (modeWord on ++ tail)) :
      Commands (.message payload_chunk after) (.set led on)

/-- The comparison takes the beginnings of the word, and what goes on after it with a NUL. -/
theorem strncmp_iff {s word : Bytes} (hword : (0 : UInt8) ∉ word) :
    strncmp s word = true ↔ s <+: word ∨ word ++ [0] <+: s := by
  induction s generalizing word with
  | nil => exact iff_of_true rfl (.inl List.nil_prefix)
  | cons c s ih =>
    cases word with
    | nil =>
      rw [strncmp, beq_iff_eq, List.nil_append, List.cons_prefix_cons]
      constructor
      · rintro rfl
        exact .inr ⟨rfl, List.nil_prefix⟩
      · rintro (h | ⟨h, -⟩)
        · cases List.prefix_nil.mp h
        · exact h.symm
    | cons w word =>
      obtain ⟨hw, hrest⟩ := not_or.mp fun h => hword (List.mem_cons.mpr h)
      simp only [strncmp, Bool.and_eq_true, beq_iff_eq, Bool.or_eq_true, ih hrest, List.cons_append,
        List.cons_prefix_cons]
      constructor
      · rintro ⟨rfl, rfl | h⟩
        · exact absurd rfl hw
        · exact h.imp (fun h => ⟨rfl, h⟩) fun h => ⟨rfl, h⟩
      · rintro (⟨rfl, h⟩ | ⟨rfl, h⟩)
        · exact ⟨rfl, .inr (.inl h)⟩
        · exact ⟨rfl, .inr (.inr h)⟩

/-- The comparison of a value that is there. -/
theorem passesFor_iff {s word : Bytes} (hword : (0 : UInt8) ∉ word) :
    PassesFor s word ↔ s ≠ [] ∧ strncmp s word = true := by
  rw [PassesFor, strncmp_iff hword]

/-- A value passes for one letter at most. -/
theorem letter_unique {color : Bytes} {led led' : Led} (h : PassesFor color [led.letter])
    (h' : PassesFor color [led'.letter]) : led = led' := by
  have hhead : ∀ {led : Led}, PassesFor color [led.letter] → color.head? = some led.letter := by
    rintro led ⟨hne, hprefix | hprefix⟩
    · obtain ⟨c, s, rfl⟩ := List.exists_cons_of_ne_nil hne
      rw [(List.cons_prefix_cons.mp hprefix).1]
      rfl
    · obtain ⟨rest, rfl⟩ := hprefix
      rfl
  have hletter := Option.some.inj ((hhead h).symm.trans (hhead h'))
  revert hletter
  cases led <;> cases led' <;> decide

/-- The handler finds the LED whose letter the color passes for. -/
theorem led_iff {color : Bytes} (hcolor : color ≠ []) (led : Led) :
    ResLeds.led color = some led ↔ PassesFor color [led.letter] := by
  have hword : ∀ led : Led, (0 : UInt8) ∉ [led.letter] := by
    intro led
    cases led <;> decide
  have hred := passesFor_iff (s := color) (hword .red)
  have hgreen := passesFor_iff (s := color) (hword .green)
  have hblue := passesFor_iff (s := color) (hword .blue)
  have hascii : ascii "r" = [Led.red.letter] ∧ ascii "g" = [Led.green.letter] ∧
      ascii "b" = [Led.blue.letter] := by decide
  unfold ResLeds.led
  rw [hascii.1, hascii.2.1, hascii.2.2]
  split_ifs with hr hg hb
  · have hpasses := hred.mpr ⟨hcolor, hr⟩
    exact ⟨fun h => Option.some.inj h ▸ hpasses, fun h => congrArg some (letter_unique hpasses h)⟩
  · have hpasses := hgreen.mpr ⟨hcolor, hg⟩
    exact ⟨fun h => Option.some.inj h ▸ hpasses, fun h => congrArg some (letter_unique hpasses h)⟩
  · have hpasses := hblue.mpr ⟨hcolor, hb⟩
    exact ⟨fun h => Option.some.inj h ▸ hpasses, fun h => congrArg some (letter_unique hpasses h)⟩
  · refine iff_of_false (fun h => by cases h) fun h => ?_
    cases led with
    | red => exact hr (hred.mp h).2
    | green => exact hg (hgreen.mp h).2
    | blue => exact hb (hblue.mp h).2

/-- A beginning of both words is not a value for off. -/
theorem mode_cases (mode : Bytes) :
    (PassesFor mode (modeWord true)) ∨
      (PassesFor mode (modeWord false) ∧ ¬ PassesFor mode (modeWord true)) ∨
      ∀ on, ¬ PassesFor mode (modeWord on) := by
  by_cases hon : PassesFor mode (modeWord true)
  · exact .inl hon
  · by_cases hoff : PassesFor mode (modeWord false)
    · exact .inr (.inl ⟨hoff, hon⟩)
    · refine .inr (.inr fun on => ?_)
      cases on with
      | true => exact hon
      | false => exact hoff

/-- The handler of `res_leds` obeys a command without an error, or refuses the request and changes
nothing. -/
theorem control_cases (color mode : Bytes) (leds : Lit) :
    (∃ led on, Commands (.control color mode) (.set led on) ∧
      ResLeds.resPostPutHandler color mode leds = (none, Function.update leds led on)) ∨
    ((∀ c, ¬ Commands (.control color mode) c) ∧
      ResLeds.resPostPutHandler color mode leds = (some .badRequest, leds)) := by
  unfold ResLeds.resPostPutHandler
  by_cases hcolor : color = []
  · refine .inr ⟨fun c hc => ?_, by simp [hcolor]⟩
    cases hc with
    | control led on hpasses hmode hoff => exact hpasses.1 hcolor
  · rw [if_pos (by simpa using hcolor)]
    rcases hled : ResLeds.led color with _ | led
    · refine .inr ⟨fun c hc => ?_, rfl⟩
      cases hc with
      | control led on hpasses hmode hoff =>
        rw [(led_iff hcolor led).mpr hpasses] at hled
        cases hled
    · have hpasses := (led_iff hcolor led).mp hled
      have hwords : (0 : UInt8) ∉ modeWord true ∧ (0 : UInt8) ∉ modeWord false := by decide
      have hon := passesFor_iff (s := mode) hwords.1
      have hoff := passesFor_iff (s := mode) hwords.2
      have hword : modeWord true = ascii "on" ∧ modeWord false = ascii "off" := ⟨rfl, rfl⟩
      simp only
      rcases mode_cases mode with hmode | ⟨hmode, hnot⟩ | hnone
      · obtain ⟨hne, hcmp⟩ := hon.mp hmode
        rw [if_pos (by simpa using hne), ← hword.1, if_pos hcmp]
        exact .inl ⟨led, true, .control led true hpasses hmode (fun h => by cases h), rfl⟩
      · obtain ⟨hne, hcmp⟩ := hoff.mp hmode
        have hcmp' : ¬ strncmp mode (modeWord true) = true := fun h => hnot (hon.mpr ⟨hne, h⟩)
        rw [if_pos (by simpa using hne), ← hword.1, ← hword.2, if_neg hcmp', if_pos hcmp]
        exact .inl ⟨led, false, .control led false hpasses hmode (fun _ => hnot), rfl⟩
      · refine .inr ⟨fun c hc => ?_, ?_⟩
        · cases hc with
          | control led' on hpasses' hmode hoff' => exact hnone on hmode
        · by_cases hne : mode = []
          · simp [hne]
          · have hcmp : ¬ strncmp mode (modeWord true) = true := fun h =>
              hnone true (hon.mpr ⟨hne, h⟩)
            have hcmp' : ¬ strncmp mode (modeWord false) = true := fun h =>
              hnone false (hoff.mpr ⟨hne, h⟩)
            rw [if_pos (by simpa using hne), ← hword.1, ← hword.2, if_neg hcmp, if_neg hcmp']

/-- The words of a message that starts as a command does. -/
theorem message_text_iff {buffer : Bytes} (led : Led) (on : Bool) :
    (∃ separator tail, buffer = ascii "led:" ++ led.letter :: separator :: (modeWord on ++ tail)) ↔
      hasPrefix (ascii "led:") buffer = true ∧ buffer[4]? = some led.letter ∧
        hasPrefix (modeWord on) (buffer.drop 6) = true := by
  constructor
  · rintro ⟨separator, tail, rfl⟩
    refine ⟨rfl, rfl, ?_⟩
    show ((modeWord on ++ tail).take (modeWord on).length == modeWord on) = true
    rw [List.take_left, beq_self_eq_true]
  · rintro ⟨hled, hletter, hmode⟩
    unfold hasPrefix at hled hmode
    rw [beq_iff_eq] at hled hmode
    -- The buffer, from its end to its beginning.
    obtain ⟨separator, hseparator⟩ : ∃ separator, buffer[5]? = some separator := by
      rcases h : buffer[5]? with _ | separator
      · have hnil : buffer.drop 6 = [] :=
          List.drop_eq_nil_of_le ((List.getElem?_eq_none_iff.mp h).trans (Nat.le_succ 5))
        rw [hnil, List.take_nil] at hmode
        cases on <;> cases hmode
      · exact ⟨separator, rfl⟩
    have htail : buffer.drop 6 = modeWord on ++ (buffer.drop 6).drop (modeWord on).length :=
      (List.take_append_drop (modeWord on).length (buffer.drop 6)).symm.trans
        (congrArg (· ++ (buffer.drop 6).drop (modeWord on).length) hmode)
    refine ⟨separator, (buffer.drop 6).drop (modeWord on).length, ?_⟩
    calc buffer = buffer.take 4 ++ buffer.drop 4 := (List.take_append_drop 4 buffer).symm
      _ = ascii "led:" ++ buffer.drop 4 := congrArg (· ++ buffer.drop 4) hled
      _ = ascii "led:" ++ led.letter :: buffer.drop 5 := by
        rw [List.drop_eq_getElem?_toList_append, hletter]
        rfl
      _ = ascii "led:" ++ led.letter :: separator :: buffer.drop 6 := by
        rw [@List.drop_eq_getElem?_toList_append _ _ 5, hseparator]
        rfl
      _ = _ := by rw [← htail]

/-- The letter of a command over MQTT is the one of its LED. -/
theorem mqttLed_iff (color : UInt8) (led : Led) :
    mqttLed color = some led ↔ color = led.letter := by
  unfold mqttLed
  split_ifs with hr hg hb
  · subst hr
    cases led <;> decide
  · subst hg
    cases led <;> decide
  · subst hb
    cases led <;> decide
  · refine iff_of_false (fun h => by cases h) fun h => ?_
    cases led with
    | red => exact hr h
    | green => exact hg h
    | blue => exact hb h

/-- The buffer of a message goes on with one of the two words at most. -/
theorem modeWord_unique {s : Bytes} {on on' : Bool} (h : hasPrefix (modeWord on) s = true)
    (h' : hasPrefix (modeWord on') s = true) : on = on' := by
  have hsecond : ∀ {on : Bool}, hasPrefix (modeWord on) s = true → s[1]? = (modeWord on)[1]? := by
    intro on hon
    unfold hasPrefix at hon
    rw [← beq_iff_eq.mp hon, List.getElem?_take, if_pos (by cases on <;> decide)]
  have hword := (hsecond h).symm.trans (hsecond h')
  revert hword
  cases on <;> cases on' <;> decide

/-- The handler of messages obeys a command, or changes nothing. -/
theorem message_cases (payload_chunk after : Bytes) (leds : Lit) :
    (∃ led on, Commands (.message payload_chunk after) (.set led on) ∧
      mqttEventPublish payload_chunk after leds = Function.update leds led on) ∨
    ((∀ c, ¬ Commands (.message payload_chunk after) c) ∧
      mqttEventPublish payload_chunk after leds = leds) := by
  unfold mqttEventPublish
  simp only
  generalize hbuffer : payload_chunk ++ after = buffer
  by_cases hstart : hasPrefix (ascii "led:") buffer = true ∧ 8 ≤ payload_chunk.length
  · rw [if_pos (by simpa using hstart)]
    rcases hled : (buffer[4]?).bind mqttLed with _ | led
    · refine .inr ⟨fun c hc => ?_, rfl⟩
      cases hc with
      | message led on separator tail hlength htext =>
        obtain ⟨-, hletter, -⟩ := (message_text_iff led on).mp ⟨separator, tail, htext⟩
        rw [hbuffer] at hletter
        rw [hletter, Option.bind_some, (mqttLed_iff _ led).mpr rfl] at hled
        cases hled
    · obtain ⟨color, hcolor, hled⟩ := Option.bind_eq_some_iff.mp hled
      rw [(mqttLed_iff color led).mp hled] at hcolor
      have hcommands : ∀ on, hasPrefix (modeWord on) (buffer.drop 6) = true →
          Commands (.message payload_chunk after) (.set led on) := by
        intro on hmode
        obtain ⟨separator, tail, htext⟩ := (message_text_iff led on).mpr ⟨hstart.1, hcolor, hmode⟩
        exact .message led on separator tail hstart.2 (hbuffer.trans htext)
      simp only
      by_cases hon : hasPrefix (modeWord true) (buffer.drop 6) = true
      · exact .inl ⟨led, true, hcommands true hon, if_pos hon⟩
      · have hnot : ¬ hasPrefix (ascii "on") (buffer.drop 6) = true := hon
        rw [if_neg hnot]
        by_cases hoff : hasPrefix (modeWord false) (buffer.drop 6) = true
        · exact .inl ⟨led, false, hcommands false hoff, if_pos hoff⟩
        · refine .inr ⟨fun c hc => ?_, if_neg hoff⟩
          cases hc with
          | message led' on separator tail hlength htext =>
            obtain ⟨-, -, hmode⟩ := (message_text_iff led' on).mp ⟨separator, tail, htext⟩
            rw [hbuffer] at hmode
            cases on with
            | true => exact hon hmode
            | false => exact hoff hmode
  · rw [if_neg (by simpa using hstart)]
    refine .inr ⟨fun c hc => ?_, rfl⟩
    cases hc with
    | message led on separator tail hlength htext =>
      obtain ⟨hled, -⟩ := (message_text_iff led on).mp ⟨separator, tail, htext⟩
      rw [hbuffer] at hled
      exact hstart ⟨hled, hlength⟩

/-- A request carries one command at most. -/
theorem Commands.unique {r : Request} {c c' : Command} (h : Commands r c) (h' : Commands r c') :
    c = c' := by
  cases h with
  | control led on hcolor hmode hoff =>
    cases h' with
    | control led' on' hcolor' hmode' hoff' =>
      rw [letter_unique hcolor hcolor']
      congr 1
      cases on with
      | true =>
        cases on' with
        | true => rfl
        | false => exact absurd hmode (hoff' rfl)
      | false =>
        cases on' with
        | true => exact absurd hmode' (hoff rfl)
        | false => rfl
  | toggle =>
    cases h'
    rfl
  | message led on separator tail hlength htext =>
    cases h' with
    | message led' on' separator' tail' hlength' htext' =>
      obtain ⟨-, hletter, hmode⟩ := (message_text_iff led on).mp ⟨separator, tail, htext⟩
      obtain ⟨-, hletter', hmode'⟩ := (message_text_iff led' on').mp ⟨separator', tail', htext'⟩
      have hled : led.letter = led'.letter := Option.some.inj (hletter.symm.trans hletter')
      rw [modeWord_unique hmode hmode', Option.some.inj
        (((mqttLed_iff _ led).mpr rfl).symm.trans ((mqttLed_iff _ led').mpr hled))]

/-- A request that carries a command obeys it, and one that carries none changes nothing. -/
theorem step_cases (r : Request) (leds : Lit) :
    (∃ c, Commands r c ∧ step leds r = c.apply leds) ∨
    ((∀ c, ¬ Commands r c) ∧ step leds r = leds) := by
  cases r with
  | control color mode =>
    rcases control_cases color mode leds with ⟨led, on, hset, hhandler⟩ | ⟨hnone, hhandler⟩
    · exact .inl ⟨_, hset, congrArg Prod.snd hhandler⟩
    · exact .inr ⟨hnone, congrArg Prod.snd hhandler⟩
  | toggle => exact .inl ⟨_, .toggle, rfl⟩
  | message payload_chunk after =>
    rcases message_cases payload_chunk after leds with ⟨led, on, hset, hhandler⟩ | ⟨hnone, hhandler⟩
    · exact .inl ⟨_, hset, hhandler⟩
    · exact .inr ⟨hnone, hhandler⟩

/-- A command changes no LED but its own. -/
theorem Command.apply_of_ne (c : Command) (leds : Lit) {led : Led} (h : c.led ≠ led) :
    c.apply leds led = leds led := by
  cases c with
  | set led' on => exact Function.update_of_ne (Ne.symm h) on leds
  | toggle led' => exact Function.update_of_ne (Ne.symm h) _ leds

/-- An LED stays as it is while no request commands it. -/
theorem run_of_uncommanded {led : Led} {rs : List Request}
    (h : ∀ r ∈ rs, ∀ c, Commands r c → c.led ≠ led) (leds : Lit) :
    run step leds rs led = leds led := by
  refine run_invariant (I := fun l : Lit => l led = leds led)
    (C := fun _ r => ∀ c, Commands r c → c.led ≠ led) (fun l r hl hr => ?_) rfl
    (along_of_forall_mem h)
  rcases step_cases r l with ⟨c, hc, hstep⟩ | ⟨-, hstep⟩
  · rw [hstep, c.apply_of_ne l (hr c hc), hl]
  · rw [hstep, hl]

/-- An LED is as the last command for it has left it. -/
theorem run_of_last {r : Request} {c : Command} (hc : Commands r c) (pre : List Request)
    {mid : List Request} (hmid : ∀ r' ∈ mid, ∀ c', Commands r' c' → c'.led ≠ c.led) (leds : Lit) :
    run step leds (pre ++ r :: mid) c.led = c.apply (run step leds pre) c.led := by
  rw [run_append, run_cons, run_of_uncommanded hmid]
  rcases step_cases r (run step leds pre) with ⟨c', hc', hstep⟩ | ⟨hnone, -⟩
  · rw [hstep, hc.unique hc']
  · exact absurd hc (hnone c)

end EnergyStation.Firmware.Leds
