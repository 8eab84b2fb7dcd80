/-!
Classes of characters given by intervals of code points.
-/
namespace TunnelSettings.Text

/-- Whether the code point of `c` lies in one of the closed intervals. -/
def within (table : List (Nat × Nat)) (c : Char) : Bool :=
  table.any fun r => r.1 ≤ c.toNat && c.toNat ≤ r.2

end TunnelSettings.Text
