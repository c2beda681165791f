/-!
# Character classes as tables

A class of characters is a list of closed ranges of code points.
-/

namespace RequestLog.Text

/-- A class of characters, as closed ranges of code points. -/
abbrev CharTable := List (Nat × Nat)

/-- The character lies in one of the ranges. -/
def CharTable.contains (table : CharTable) (c : Char) : Bool :=
  table.any fun r => decide (r.1 ≤ c.toNat) && decide (c.toNat ≤ r.2)

end RequestLog.Text
