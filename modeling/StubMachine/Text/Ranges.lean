/-!
# Sets of characters given by ranges

A property of characters that comes from a published table is stored as the list of
its maximal ranges of code points, in ascending order.
-/

namespace StubMachine.Text

/-- Ranges of code points, both ends included. -/
abbrev Ranges := Array (Nat × Nat)

/-- Whether a character falls into one of the ranges. -/
def Ranges.holds (table : Ranges) (c : Char) : Bool :=
  table.any fun r => r.1 ≤ c.toNat && c.toNat ≤ r.2

end StubMachine.Text
