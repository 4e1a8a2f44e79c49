import EnergyStation.CStdlib

/-!
# CoAP responses
-/

namespace EnergyStation

/-- A response code. -/
structure Code where
  /-- The class, before the point. -/
  cls : Fin 8
  /-- The detail, after the point. -/
  detail : Fin 32
  deriving DecidableEq

namespace Code

/-- 2.01 -/
def created : Code := ⟨2, 1⟩

/-- 2.02 -/
def deleted : Code := ⟨2, 2⟩

/-- 2.04 -/
def changed : Code := ⟨2, 4⟩

/-- 2.05 -/
def content : Code := ⟨2, 5⟩

/-- 4.00 -/
def badRequest : Code := ⟨4, 0⟩

/-- 4.03 -/
def forbidden : Code := ⟨4, 3⟩

/-- 4.04 -/
def notFound : Code := ⟨4, 4⟩

/-- 4.05 -/
def methodNotAllowed : Code := ⟨4, 5⟩

/-- 5.03 -/
def serviceUnavailable : Code := ⟨5, 3⟩

/-- `is_successful` of the response code: class 2. -/
def isSuccessful (code : Code) : Bool := code.cls = 2

@[simp] theorem changed_ne_forbidden : changed ≠ forbidden := by decide
@[simp] theorem badRequest_ne_changed : badRequest ≠ changed := by decide
@[simp] theorem notFound_ne_changed : notFound ≠ changed := by decide
@[simp] theorem serviceUnavailable_ne_changed : serviceUnavailable ≠ changed := by decide
@[simp] theorem isSuccessful_changed : changed.isSuccessful = true := rfl
@[simp] theorem isSuccessful_content : content.isSuccessful = true := rfl

end Code

/-- A response: its code and its payload. -/
structure Response where
  /-- The response code. -/
  code : Code
  /-- The payload, empty where none was set. -/
  payload : CStdlib.Bytes
  deriving DecidableEq

end EnergyStation
