/-!
# Ranges of code points

A character class given as a table of inclusive ranges.
-/

namespace NodeInventory.Text

/-- Membership of a character in a table of ranges. -/
def inRanges (table : List (Nat × Nat)) (c : Char) : Bool :=
  table.any fun (first, last) => first ≤ c.toNat && c.toNat ≤ last

end NodeInventory.Text
