import EnergyStation.Cloud.Commands
import EnergyStation.Firmware.Leds

/-!
# From `set_led` to the LED

`set_led` takes the name of a color or its letter, and `on` or `off`, in any case, and writes the
letter into the query of a URI and the mode into a payload. The libraries between the two programs
split the URI and find the two variables again (`Variables`). The firmware then switches the LED
that was named, and the LED stays so until the next command for it (`leds_follow_commands`).
-/

namespace EnergyStation.System.LedCommands

open Cloud CStdlib Firmware Firmware.Leds Numeral Python Runs

/-- What the CoAP libraries make of a request. -/
structure Variables where
  /-- `coap_get_query_variable`, for a request to the URI. -/
  queryVariable : Uri → Bytes → Bytes
  /-- `coap_get_post_variable` -/
  postVariable : Bytes → Bytes → Bytes

/-- A short word of lower case letters, which no library encodes or cuts. -/
def IsWord (s : Str) : Prop := s.length ≤ 32 ∧ ∀ c ∈ s, 97 ≤ c ∧ c ≤ 122

instance (s : Str) : Decidable (IsWord s) := inferInstanceAs (Decidable (_ ∧ _))

/-- The libraries find the value of a variable that stands alone. -/
structure Variables.Documented (V : Variables) : Prop where
  /-- After the question mark of a URI. -/
  query : ∀ uri name value, text uri.path = text "actuators/leds" ++ 63 :: (name ++ 61 :: value) →
    IsWord name → IsWord value → V.queryVariable uri (name.map UInt8.ofNat) = value.map UInt8.ofNat
  /-- In a payload. -/
  post : ∀ name value, IsWord name → IsWord value →
    V.postVariable ((name ++ 61 :: value).map UInt8.ofNat) (name.map UInt8.ofNat) =
      value.map UInt8.ofNat

/-- The request of `set_led` as it reaches the handler of `res_leds`. -/
def Variables.delivered (V : Variables) (request : PutRequest) : Leds.Request :=
  .control (V.queryVariable request.uri (ascii "color"))
    (V.postVariable request.payload (ascii "mode"))

/-- The names that `set_led` knows for an LED. -/
def ledNames : Led → List String
  | .red => ["red", "r"]
  | .green => ["green", "g"]
  | .blue => ["blue", "b"]

/-- The value names the LED, in any case. -/
def NamesLed (color : Val) (led : Led) : Prop :=
  ∃ name ∈ ledNames led, lowerStr color = .ok (text name)

/-- The value names the mode, in any case. -/
def NamesMode (mode : Val) (on : Bool) : Prop :=
  lowerStr mode = .ok (text (if on then "on" else "off"))

/-- The letter of an LED, in a URI. -/
def letterString : Led → String
  | .red => "r"
  | .green => "g"
  | .blue => "b"

/-- A color that has a code names an LED, and its code is the letter of the LED. -/
theorem namesLed_of_colorCode {color : Val} {s : Str} {code : String} (hs : lowerStr color = .ok s)
    (hcode : colorCode s = some code) : ∃ led, NamesLed color led ∧ code = letterString led := by
  obtain ⟨⟨name, code'⟩, hfind, rfl⟩ := Option.map_eq_some_iff.mp hcode
  have hname : (text name == s) = true :=
    @List.find?_some _ (fun p : String × String => text p.1 == s) _ _ hfind
  rw [beq_iff_eq] at hname
  have hmem := List.mem_of_find?_eq_some hfind
  have hmap : ∀ p ∈ colorMap, ∃ led, p.1 ∈ ledNames led ∧ p.2 = letterString led := by
    simp only [colorMap, List.forall_mem_cons]
    exact ⟨⟨.red, by decide, rfl⟩, ⟨.green, by decide, rfl⟩, ⟨.blue, by decide, rfl⟩,
      ⟨.red, by decide, rfl⟩,
      ⟨.green, by decide, rfl⟩, ⟨.blue, by decide, rfl⟩, List.forall_mem_nil _⟩
  obtain ⟨led, hled, hletter⟩ := hmap _ hmem
  exact ⟨led, ⟨name, hled, by rw [hs, hname]⟩, hletter⟩

/-- A mode that is `on` or `off` names one of the two. -/
theorem namesMode_of_isOnOff {mode : Val} {s : Str} (hs : lowerStr mode = .ok s)
    (h : isOnOff s = true) : ∃ on, NamesMode mode on ∧ s = text (if on then "on" else "off") := by
  rcases (Bool.or_eq_true _ _).mp h with hon | hoff
  · exact ⟨true, by rw [NamesMode, hs, beq_iff_eq.mp hon]; rfl, beq_iff_eq.mp hon⟩
  · exact ⟨false, by rw [NamesMode, hs, beq_iff_eq.mp hoff]; rfl, beq_iff_eq.mp hoff⟩

/-- `_make_uri` keeps the path. -/
theorem makeUri_path {ip : Val} {port : ℤ} {path : String} {uri : Uri}
    (h : makeUri ip port path = .ok uri) : uri.path = path := by
  unfold makeUri at h
  rcases ip with _ | _ | _ | _ | s | l | items
  case str =>
    rw [← Except.ok.inj h]
  case list =>
    simp only at h
    split_ifs at h
    rw [← Except.ok.inj h]
  case dict =>
    simp only at h
    split_ifs at h
    rw [← Except.ok.inj h]
  all_goals cases h

/-- A PUT request has the path and the payload that it is made with. -/
theorem putRequest_eq {rejects : Uri → Bool} {ip : Val} {port : ℤ} {path : String} {payload : Bytes}
    {request : PutRequest} (h : putRequest rejects ip port path payload = .ok request) :
    request.uri.path = path ∧ request.payload = payload := by
  obtain ⟨uri, huri, h⟩ := bind_eq_ok.mp h
  split_ifs at h
  obtain rfl := Except.ok.inj h
  exact ⟨makeUri_path huri, rfl⟩

/-- A request of `set_led` has the letter of the LED in its query and the mode in its payload. -/
theorem setLedRequest_eq {rejects : Uri → Bool} {ip : Val} {port : ℤ} {color mode : Val}
    {request : PutRequest} (h : setLedRequest rejects ip port color mode = .ok request) :
    ∃ led on, NamesLed color led ∧ NamesMode mode on ∧
      request.uri.path = "actuators/leds?color=" ++ letterString led ∧
      request.payload = ascii "mode" ++ 61 :: modeWord on := by
  obtain ⟨s, hs, h⟩ := bind_eq_ok.mp h
  rcases hcode : colorCode s with _ | code
  · rw [hcode] at h
    cases h
  · rw [hcode] at h
    obtain ⟨mode', hmode', h⟩ := bind_eq_ok.mp h
    split_ifs at h with hnot
    rw [Bool.not_eq_true', Bool.not_eq_false] at hnot
    obtain ⟨led, hled, rfl⟩ := namesLed_of_colorCode hs hcode
    obtain ⟨on, hon, rfl⟩ := namesMode_of_isOnOff hmode' hnot
    obtain ⟨hpath, hpayload⟩ := putRequest_eq h
    refine ⟨led, on, hled, hon, hpath, hpayload.trans ?_⟩
    clear hmode' hnot hon h hpath hpayload
    revert on
    decide

/-- The text of the path of a request of `set_led`. -/
theorem text_ledPath (led : Led) :
    text ("actuators/leds?color=" ++ letterString led) =
      text "actuators/leds" ++ 63 :: (text "color" ++ 61 :: [led.letter.toNat]) := by
  cases led <;> decide

variable {V : Variables}

/-- What reaches the handler is the command of `set_led`. -/
theorem commands_delivered (hV : V.Documented) {rejects : Uri → Bool} {ip : Val} {port : ℤ}
    {color mode : Val} {request : PutRequest}
    (h : setLedRequest rejects ip port color mode = .ok request) :
    ∃ led on, NamesLed color led ∧ NamesMode mode on ∧
      Leds.Commands (V.delivered request) (.set led on) := by
  obtain ⟨led, on, hled, hon, hpath, hpayload⟩ := setLedRequest_eq h
  have hquery : V.queryVariable request.uri (ascii "color") = [led.letter] := by
    have hfound := hV.query request.uri (text "color") [led.letter.toNat]
      (hpath ▸ text_ledPath led) (by decide) (by cases led <;> decide)
    rw [List.map_singleton, UInt8.ofNat_toNat] at hfound
    exact hfound
  have hpost : V.postVariable request.payload (ascii "mode") = modeWord on := by
    rw [hpayload]
    cases on with
    | true => exact hV.post (text "mode") (text "on") (by decide) (by decide)
    | false => exact hV.post (text "mode") (text "off") (by decide) (by decide)
  refine ⟨led, on, hled, hon, ?_⟩
  rw [Variables.delivered, hquery, hpost]
  refine .control led on ⟨List.cons_ne_nil _ _, .inl List.prefix_rfl⟩ ?_ ?_
  · cases on <;> decide
  · rintro rfl
    decide

/-- A request that commands an LED is answered without an error, and the LED is as commanded until
the next command for it. -/
theorem obeyed_of_commands {request : PutRequest} {led : Led} {on : Bool}
    (h : Leds.Commands (V.delivered request) (.set led on)) :
    (∀ leds, (ResLeds.resPostPutHandler (V.queryVariable request.uri (ascii "color"))
      (V.postVariable request.payload (ascii "mode")) leds).1 = none) ∧
    ∀ pre mid leds, (∀ r ∈ mid, ∀ c, Leds.Commands r c → c.led ≠ led) →
      run step leds (pre ++ V.delivered request :: mid) led = on := by
  refine ⟨fun leds => ?_, fun pre mid leds hmid => ?_⟩
  · rcases control_cases (V.queryVariable request.uri (ascii "color"))
      (V.postVariable request.payload (ascii "mode")) leds with
        ⟨led', on', -, hhandler⟩ | ⟨hnone, -⟩
    · rw [hhandler]
    · exact absurd h (hnone _)
  · have hlast := run_of_last h pre hmid leds
    rwa [Command.apply, Command.led, Function.update_self] at hlast

/-- What becomes of requests for the LEDs. -/
structure Obeyed (V : Variables) (rejects : Uri → Bool) : Prop where
  /-- A request of `set_led` that reaches the node is answered without an error, and the LED that it
  names is on or off, as it says, until the next command for this LED. -/
  forwarded : ∀ ip port color mode request, setLedRequest rejects ip port color mode = .ok request →
    ∃ led on, NamesLed color led ∧ NamesMode mode on ∧
      (∀ leds, (ResLeds.resPostPutHandler (V.queryVariable request.uri (ascii "color"))
        (V.postVariable request.payload (ascii "mode")) leds).1 = none) ∧
      ∀ pre mid leds, (∀ r ∈ mid, ∀ c, Leds.Commands r c → c.led ≠ led) →
        run step leds (pre ++ V.delivered request :: mid) led = on
  /-- Every LED is as the last command for it has left it. -/
  last : ∀ r c pre mid leds, Leds.Commands r c →
    (∀ r' ∈ mid, ∀ c', Leds.Commands r' c' → c'.led ≠ c.led) →
    run step leds (pre ++ r :: mid) c.led = c.apply (run step leds pre) c.led
  /-- An LED for which no command comes stays as it is. -/
  frame : ∀ led rs leds, (∀ r ∈ rs, ∀ c, Leds.Commands r c → c.led ≠ led) →
    run step leds rs led = leds led
  /-- A request to `res_leds` is refused exactly if it carries no command. -/
  refused : ∀ color mode leds, (ResLeds.resPostPutHandler color mode leds).1 = some .badRequest ↔
    ∀ c, ¬ Leds.Commands (.control color mode) c

/-- Over every run of requests, over CoAP with any values of the two variables and over MQTT with
any bytes, an LED is as its last command has left it, and `set_led` commands the LED and the mode
that it is called with. -/
theorem leds_follow_commands (hV : V.Documented) (rejects : Uri → Bool) : Obeyed V rejects where
  forwarded ip port color mode request h := by
    obtain ⟨led, on, hled, hon, hcommands⟩ := commands_delivered hV h
    exact ⟨led, on, hled, hon, obeyed_of_commands hcommands⟩
  last r c pre mid leds hc hmid := run_of_last hc pre hmid leds
  frame led rs leds h := run_of_uncommanded h leds
  refused color mode leds := by
    rcases control_cases color mode leds with ⟨led, on, hset, hhandler⟩ | ⟨hnone, hhandler⟩
    · rw [hhandler]
      exact iff_of_false (fun h => by cases h) fun h => h _ hset
    · rw [hhandler]
      exact iff_of_true rfl hnone

/-- The value of a variable that stands alone in a text. -/
def soleValue (s name : Bytes) : Bytes :=
  if name ++ [61] <+: s then s.drop (name.length + 1) else []

theorem soleValue_eq (name value : Str) :
    soleValue ((name ++ 61 :: value).map UInt8.ofNat) (name.map UInt8.ofNat) =
      value.map UInt8.ofNat := by
  rw [List.map_append, List.map_cons, soleValue, if_pos ⟨value.map UInt8.ofNat,
    List.append_cons _ _ _ |>.symm⟩,
    ← List.drop_drop, List.drop_left, List.drop_one, List.tail_cons]

/-- Libraries that find variables that stand alone. -/
def soleVariables : Variables where
  queryVariable uri name :=
    soleValue ((((text uri.path).dropWhile (· ≠ 63)).drop 1).map UInt8.ofNat) name
  postVariable := soleValue

theorem soleVariables_documented : soleVariables.Documented where
  query uri name value hpath _ _ := by
    have hdrop : (text "actuators/leds" ++ 63 :: (name ++ 61 :: value)).dropWhile (· ≠ 63) =
        63 :: (name ++ 61 :: value) := by
      rw [List.dropWhile_append_of_pos (by decide), List.dropWhile_cons_of_neg (by decide)]
    show soleValue ((((text uri.path).dropWhile (· ≠ 63)).drop 1).map UInt8.ofNat)
      (name.map UInt8.ofNat) = _
    rw [hpath, hdrop, List.drop_one, List.tail_cons]
    exact soleValue_eq name value
  post name value _ _ := soleValue_eq name value

theorem leds_follow_commands_sole : Obeyed soleVariables fun _ => false :=
  leds_follow_commands soleVariables_documented fun _ => false

end EnergyStation.System.LedCommands
