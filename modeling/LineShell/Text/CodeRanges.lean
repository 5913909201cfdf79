/-!
# Ranges of code points

Character classes that follow no formula are given as lists of inclusive code point ranges.
-/

namespace LineShell

/-- A class of characters as inclusive ranges of code points. -/
abbrev CodeRanges := List (Nat × Nat)

/-- Whether a character lies in one of the ranges. -/
def CodeRanges.holds (ranges : CodeRanges) (character : Char) : Bool :=
  ranges.any fun (first, last) => first ≤ character.toNat && character.toNat ≤ last

end LineShell
