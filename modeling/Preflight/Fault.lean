/-!
# Faults

Settings that nobody checked may make a rule divide by zero. A rule that
meets such a setting ends with a fault instead of an answer.
-/

namespace Preflight

/-- The divisions by zero that unchecked settings can cause. -/
inductive Fault where
  /-- An indentation was to be divided into steps of no width. -/
  | remainderByZero
  /-- Characters were to be divided among tokens of no length. -/
  | quotientByZero
  deriving DecidableEq, Repr

def Fault.message : Fault → String
  | remainderByZero =>
      "attempt to calculate the remainder with a divisor of zero"
  | quotientByZero => "attempt to divide by zero"

end Preflight
