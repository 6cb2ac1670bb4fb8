/-!
# Text — sets of code points

A `CodeSet` lists which code points have a property. Long stretches of such a list hold every code
point, or, where lower and upper case alternate, every other one; a set keeps the two kinds apart.
-/

namespace AbiBindings.Text

/-- A set of code points given by its inclusive runs. -/
structure CodeSet where
  /-- Runs in which every code point belongs to the set. -/
  solid : Array (Nat × Nat)
  /-- Runs in which the first code point belongs to the set and then every other one. -/
  alternating : Array (Nat × Nat) := #[]

/-- Whether the code point of `c` belongs to the set. -/
def CodeSet.contains (set : CodeSet) (c : Char) : Bool :=
  set.solid.any (fun (first, last) => first ≤ c.toNat && c.toNat ≤ last)
    || set.alternating.any fun (first, last) =>
      first ≤ c.toNat && c.toNat ≤ last && (c.toNat - first) % 2 == 0

end AbiBindings.Text
