/-!
# Classes of characters by code point

A class of characters is given by the ends of its runs of consecutive code points.
-/

namespace ShelterLine.Text

/-- Whether a character lies in one of the runs, both ends included. -/
def inRanges (runs : List (Nat × Nat)) (c : Char) : Bool :=
  runs.any fun r => r.1 ≤ c.toNat && c.toNat ≤ r.2

end ShelterLine.Text
