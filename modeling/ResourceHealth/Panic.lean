/-!
# Panics

A panic ends the operation that raised it; nobody handles it as an error.

Main definitions:

- `Panic`: its causes.
- `Panic.message`: what it says.
-/

namespace ResourceHealth

/-- What makes an operation break off. -/
inductive Panic where
  /-- A sum of counters is too large. -/
  | addOverflow
  /-- A product of counters is too large. -/
  | multiplyOverflow
  /-- A source of readings gave up, saying why. -/
  | raised (reason : String)
deriving DecidableEq

/-- What a panic says. -/
def Panic.message : Panic → String
  | .addOverflow => "attempt to add with overflow"
  | .multiplyOverflow => "attempt to multiply with overflow"
  | .raised reason => reason

end ResourceHealth
