import Mathlib.Tactic.Common

/-!
# One request and its reply

What can become of a request that is sent over a network that loses messages: the exchange
completes, the request is lost before it reaches the other side, or the other side applies it and
the reply is lost. The sender sees the last two as the same failure. A `Mirror` is a sender's record
of a remote cell beside the cell itself, and `send_sound` is the one fact that its users need: a
relation between the two survives an exchange unless the reply is lost after the command was
applied.
-/

namespace EnergyStation

/-- The ways a request can end. -/
inductive Exchange where
  /-- The request was applied and the reply arrived. -/
  | completed
  /-- The request never reached the other side. -/
  | requestLost
  /-- The request was applied, and the reply was lost. -/
  | replyLost
  deriving DecidableEq

namespace Exchange

/-- The other side applied the request. -/
def applied : Exchange → Bool
  | completed => true
  | requestLost => false
  | replyLost => true

/-- The sender's call returned, rather than raised. -/
def returned : Exchange → Bool
  | completed => true
  | requestLost => false
  | replyLost => false

@[simp] theorem applied_completed : applied completed = true := rfl
@[simp] theorem applied_requestLost : applied requestLost = false := rfl
@[simp] theorem applied_replyLost : applied replyLost = true := rfl
@[simp] theorem returned_completed : returned completed = true := rfl
@[simp] theorem returned_requestLost : returned requestLost = false := rfl
@[simp] theorem returned_replyLost : returned replyLost = false := rfl

end Exchange

/-- A sender's record of a remote cell, and the cell. -/
structure Mirror (α β : Type*) where
  /-- What the sender last wrote down. -/
  recorded : α
  /-- The remote state. -/
  cell : β

namespace Mirror

variable {α β : Type*}

/-- The sender commands `a`: the cell moves by `apply` when the request arrives, and the record
becomes `a` when the reply does. -/
def send (apply : α → β → β) (m : Mirror α β) (a : α) (x : Exchange) : Mirror α β where
  recorded := if x.returned then a else m.recorded
  cell := if x.applied then apply a m.cell else m.cell

/-- A relation between record and cell survives a command that establishes it, when a reply lost
after the command was applied does no harm. -/
theorem send_sound {apply : α → β → β} {R : α → β → Prop} {m : Mirror α β} {a : α} {x : Exchange}
    (hm : R m.recorded m.cell) (happly : R a (apply a m.cell))
    (hlost : x = .replyLost → R m.recorded (apply a m.cell)) :
    R (m.send apply a x).recorded (m.send apply a x).cell := by
  cases x with
  | completed => simpa [send] using happly
  | requestLost => simpa [send] using hm
  | replyLost => simpa [send] using hlost rfl

end Mirror

end EnergyStation
