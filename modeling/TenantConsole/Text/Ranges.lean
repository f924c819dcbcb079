/-!
# Sets of characters

A property of characters as the list of the ranges of code points that have it.
-/

namespace TenantConsole.Text

/-- The first and the last code point of each range, in ascending order. -/
abbrev Ranges := List (Nat × Nat)

def Ranges.contains (ranges : Ranges) (c : Char) : Bool :=
  ranges.any fun (first, last) => first ≤ c.toNat && c.toNat ≤ last

end TenantConsole.Text
