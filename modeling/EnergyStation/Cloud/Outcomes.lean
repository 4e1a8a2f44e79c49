import EnergyStation.Cloud.ControlResources

/-!
# The outcome of a command

Whoever commands a node relies on the operation to raise unless the node has accepted the command.
Two of the five operations look at the code of the response. The other three return whatever the
node has answered, as long as the answer is text, and with them the two endpoints answer 2.04 and
the diesel flag changes (`outcome_agrees_iff`).
-/

namespace EnergyStation.Cloud.Outcomes

open Numeral Python

/-- The node has answered with a success code. -/
def Accepted (answer : Except Exc Response) : Prop :=
  ∃ response, answer = .ok response ∧ response.code.isSuccessful = true

/-- The node has answered with text, of any code. -/
def Readable (answer : Except Exc Response) : Prop :=
  ∃ response reply, answer = .ok response ∧ utf8Decode response.payload = some reply

/-- The node has an address to which the request of the operation can be sent. -/
def Sends (py : Interp) (rejects : Uri → Bool) (node : Obj) (command : Command) : Prop :=
  ∃ ip port sent, nodeAddress py node = .ok (ip, port) ∧
    command.request rejects ip port = .ok sent

/-- The endpoint finds the node and can send the request of its operation. -/
def Forwards (rejects : Uri → Bool) (prepared : Except Early (Command × Val × ℤ)) : Prop :=
  ∃ command ip port sent, prepared = .ok (command, ip, port) ∧
    command.request rejects ip port = .ok sent

/-- The cycle wants the flag changed, and can send the request to the diesel node. -/
def CycleSends (py : Interp) (rejects : Uri → Bool) (dispatched : Bool) (registry : Registry)
    (soc : Option ExtRat) (surplus : ExtRat) : Prop :=
  ∃ node run, dieselCommand dispatched (firstOfType dieselType registry) soc surplus =
    some (node, run) ∧ Sends py rejects node.info (dieselStatus run)

/-- An operation returns where its request can be sent and the answer is text, and those that check
the code do so for an accepted command only. -/
theorem perform_returns_iff (rejects : Uri → Bool) (ip : Val) (port : ℤ) (command : Command)
    (answer : Except Exc Response) :
    (∃ reply, command.perform rejects ip port answer = .ok reply) ↔
      (∃ sent, command.request rejects ip port = .ok sent) ∧ Readable answer ∧
        (command.checksCode = true → Accepted answer) := by
  rcases answer with e | response
  · constructor
    · rintro ⟨reply, h⟩
      exact absurd h (command.perform_error_ne_ok rejects ip port e reply)
    · rintro ⟨-, ⟨response, reply, h, -⟩, -⟩
      cases h
  · have haccepted : Accepted (.ok response) ↔ response.code.isSuccessful = true := by
      simp [Accepted]
    have hreadable : Readable (.ok response) ↔
        ∃ reply, utf8Decode response.payload = some reply := by
      simp [Readable]
    simp only [Command.perform_eq_ok_iff, haccepted, hreadable]
    constructor
    · rintro ⟨reply, hsent, hreply, hcode⟩
      exact ⟨hsent, ⟨reply, hreply⟩, hcode⟩
    · rintro ⟨hsent, ⟨reply, hreply⟩, hcode⟩
      exact ⟨reply, hsent, hreply, hcode⟩

/-- An operation on a stored node returns where its request can be sent and the answer is text, and
those that check the code do so for an accepted command only. -/
theorem performAt_returns_iff (py : Interp) (rejects : Uri → Bool) (node : Obj) (command : Command)
    (answer : Except Exc Response) :
    (∃ reply, command.performAt py rejects node answer = .ok reply) ↔
      Sends py rejects node command ∧ Readable answer ∧
        (command.checksCode = true → Accepted answer) := by
  unfold Command.performAt Sends
  constructor
  · rintro ⟨reply, h⟩
    obtain ⟨⟨ip, port⟩, haddress, h⟩ := bind_eq_ok.mp h
    obtain ⟨⟨sent, hsent⟩, hanswer⟩ :=
      (perform_returns_iff rejects ip port command answer).mp ⟨reply, h⟩
    exact ⟨⟨ip, port, sent, haddress, hsent⟩, hanswer⟩
  · rintro ⟨⟨ip, port, sent, haddress, hsent⟩, hanswer⟩
    obtain ⟨reply, h⟩ :=
      (perform_returns_iff rejects ip port command answer).mpr ⟨⟨sent, hsent⟩, hanswer⟩
    exact ⟨reply, bind_eq_ok.mpr ⟨(ip, port), haddress, h⟩⟩

/-- An endpoint whose operation does not check the code answers 2.04 where it can send the request
and the answer is text. -/
theorem respond_changed_iff {rejects : Uri → Bool} {texts : Texts}
    {prepared : Except Early (Command × Val × ℤ)} (hprepared : EndsUnchanged prepared)
    (hcommand : ∀ command address, prepared = .ok (command, address) → command.checksCode = false)
    (answer : Except Exc Response) :
    (∃ r, respond rejects texts prepared answer = .ok r ∧ r.code = .changed) ↔
      Forwards rejects prepared ∧ Readable answer := by
  rw [Cloud.respond_changed_iff hprepared]
  unfold Forwards
  constructor
  · rintro ⟨command, ip, port, reply, heq, h⟩
    obtain ⟨⟨sent, hsent⟩, hreadable, -⟩ :=
      (perform_returns_iff rejects ip port command answer).mp ⟨reply, h⟩
    exact ⟨⟨command, ip, port, sent, heq, hsent⟩, hreadable⟩
  · rintro ⟨⟨command, ip, port, sent, heq, hsent⟩, hreadable⟩
    -- The operation does not ask for a success code.
    have hunchecked := hcommand command (ip, port) heq
    obtain ⟨reply, h⟩ := (perform_returns_iff rejects ip port command answer).mpr
      ⟨⟨sent, hsent⟩, hreadable, fun hchecks => by
        rw [hunchecked] at hchecks
        exact absurd hchecks Bool.false_ne_true⟩
    exact ⟨command, ip, port, reply, heq, h⟩

/-- The flag changes where the cycle can send the request and the answer is text. -/
theorem dieselCycle_eq_not_iff (py : Interp) (rejects : Uri → Bool) (dispatched : Bool)
    (registry : Registry) (soc : Option ExtRat) (surplus : ExtRat) (answer : Except Exc Response) :
    dieselCycle py rejects dispatched registry soc surplus answer = !dispatched ↔
      CycleSends py rejects dispatched registry soc surplus ∧ Readable answer := by
  have hflag := updateDieselDispatch_eq_not_iff_command dispatched (firstOfType dieselType registry)
    soc surplus
  simp only [dieselCycle, CycleSends, hflag]
  rcases dieselCommand dispatched (firstOfType dieselType registry) soc surplus with
    _ | ⟨node, run⟩
  · simp
  · have hreturns := performAt_returns_iff py rejects node.info (dieselStatus run) answer
    have hok : ((dieselStatus run).performAt py rejects node.info answer).isOk = true ↔
        ∃ reply, (dieselStatus run).performAt py rejects node.info answer = .ok reply := by
      rcases (dieselStatus run).performAt py rejects node.info answer with e | reply
      · simp [Except.isOk, Except.toBool]
      · simp [Except.isOk, Except.toBool]
    constructor
    · rintro ⟨-, h⟩
      obtain ⟨hsends, hreadable, -⟩ := hreturns.mp (hok.mp h)
      exact ⟨⟨node, run, rfl, hsends⟩, hreadable⟩
    · rintro ⟨⟨node', run', heq, hsends⟩, hreadable⟩
      cases heq
      refine ⟨rfl, hok.mpr (hreturns.mpr ⟨hsends, hreadable, fun hchecks => ?_⟩)⟩
      exact absurd hchecks Bool.false_ne_true

/-- Every operation that returns, every 2.04 of an endpoint and every change of the diesel flag
comes from an accepted command exactly where the command is accepted, or the operation checks the
code, or nothing is sent, or the answer is not text. -/
theorem outcome_agrees_iff (py : Interp) (rejects : Uri → Bool) (texts : Texts)
    (registry : Registry) (answer : Except Exc Response) :
    (∀ (node : Obj) (command : Command),
      ((∃ reply, command.performAt py rejects node answer = .ok reply) → Accepted answer) ↔
        Accepted answer ∨ command.checksCode = true ∨ ¬ Sends py rejects node command ∨
          ¬ Readable answer) ∧
    (∀ body, ((∃ r, StatusControlResource.handle py rejects texts registry body answer = .ok r ∧
        r.code = .changed) → Accepted answer) ↔
      Accepted answer ∨ ¬ Forwards rejects (StatusControlResource.prepare py texts registry body) ∨
        ¬ Readable answer) ∧
    (∀ body, ((∃ r, LedControlResource.handle py rejects texts registry body answer = .ok r ∧
        r.code = .changed) → Accepted answer) ↔
      Accepted answer ∨ ¬ Forwards rejects (LedControlResource.prepare py texts registry body) ∨
        ¬ Readable answer) ∧
    (∀ dispatched soc surplus,
      (dieselCycle py rejects dispatched registry soc surplus answer = !dispatched →
        Accepted answer) ↔
      Accepted answer ∨ ¬ CycleSends py rejects dispatched registry soc surplus ∨
        ¬ Readable answer) := by
  refine ⟨fun node command => ?_, fun body => ?_, fun body => ?_, fun dispatched soc surplus => ?_⟩
  · -- What is left of each part is propositional.
    rw [performAt_returns_iff, ← Bool.not_eq_false]
    tauto
  · have hprepared := StatusControlResource.endsUnchanged py texts registry body
    rw [StatusControlResource.handle, respond_changed_iff hprepared ?_ answer]
    · tauto
    · intro command address h
      obtain ⟨status, rfl⟩ := StatusControlResource.prepare_command h
      rfl
  · have hprepared := LedControlResource.endsUnchanged py texts registry body
    rw [LedControlResource.handle, respond_changed_iff hprepared ?_ answer]
    · tauto
    · intro command address h
      obtain ⟨color, mode, rfl⟩ := LedControlResource.prepare_command h
      rfl
  · rw [dieselCycle_eq_not_iff]
    tauto

/-- A diesel node as it registers. -/
def diesel : Obj :=
  [(text "node_id", .str (text "d")), (text "type", .str (text "diesel")),
    (text "ip", .str (text "fd00::5"))]

/-- A registry with that node. -/
def registry : Registry := Registry.boot.insert (.str (text "d")) 0 diesel

/-- A node that has no such resource answers 4.04, and the cloud takes it for a success: the
operation returns, and the diesel counts as dispatched. -/
theorem not_found_counts_as_success :
    ¬ ∀ (node : Obj) (command : Command) (dispatched : Bool) (registry : Registry)
        (soc : Option ExtRat) (surplus : ExtRat) (answer : Except Exc Response),
      ((∃ reply, command.performAt .cpython (fun _ => false) node answer = .ok reply) →
        Accepted answer) ∧
      (dieselCycle .cpython (fun _ => false) dispatched registry soc surplus answer = !dispatched →
        Accepted answer) := by
  intro h
  obtain ⟨-, hflag⟩ := h diesel (dieselStatus true) false registry (some (.fin (1 / 10)))
    (.fin (-1))
    (.ok ⟨.notFound, []⟩)
  obtain ⟨response, hresponse, hcode⟩ := hflag (by decide +kernel)
  rw [← Except.ok.inj hresponse] at hcode
  exact Bool.false_ne_true hcode

end EnergyStation.Cloud.Outcomes
