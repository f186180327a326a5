/-!
# Counts

Counts of characters, tokens and lines are natural numbers. Data can carry
them up to the greatest number of sixty-four bits.
-/

namespace Preflight

/-- The greatest count that data can carry. -/
def maxCount : Nat := 18446744073709551615

end Preflight
