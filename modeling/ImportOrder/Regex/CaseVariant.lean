import ImportOrder.Text.Lowercase

/-!
# Characters that differ in case only

Two characters match each other when case is ignored if their lower cases are equal, or are one of
the few pairs of small letters that share a capital.

## Main definitions

* `caseVariants`: the code points that match a character when case is ignored
-/

namespace ImportOrder

/-- Small letters that count as one letter when case is ignored. -/
def smallLetterClasses : List (List Nat) := [
  [0x69, 0x131], [0x73, 0x17f], [0xb5, 0x3bc], [0x345, 0x3b9, 0x1fbe], [0x390, 0x1fd3],
  [0x3b0, 0x1fe3], [0x3b2, 0x3d0], [0x3b5, 0x3f5], [0x3b8, 0x3d1], [0x3ba, 0x3f0], [0x3c0, 0x3d6],
  [0x3c1, 0x3f1], [0x3c2, 0x3c3], [0x3c6, 0x3d5], [0x432, 0x1c80], [0x434, 0x1c81],
  [0x43e, 0x1c82], [0x441, 0x1c83], [0x442, 0x1c84, 0x1c85], [0x44a, 0x1c86], [0x463, 0x1c87],
  [0x1c88, 0xa64b], [0x1e61, 0x1e9b], [0xfb05, 0xfb06]]

/-- The code points whose lower case is the given one. -/
def lowerOrigins (small : Nat) : List Nat :=
  let runs := caseRuns.filterMap fun r =>
    let n := (small : Int) - r.shift
    if 0 ≤ n ∧ r.contains n.toNat then some n.toNat else none
  let ascii := if 97 ≤ small ∧ small ≤ 122 then [small - 32] else []
  let dotted := if small = 0x69 then [0x130] else []
  small :: ascii ++ dotted ++ runs

/-- The code points that match a character when case is ignored, within ASCII or over all of
Unicode. -/
def caseVariants (ascii : Bool) (c : Char) : List Nat :=
  if ascii then [c.toNat, c.toLower.toNat, c.toUpper.toNat]
  else
    let small := (lowerChar c).toNat
    let classmates := (smallLetterClasses.find? (·.contains small)).getD [small]
    classmates.flatMap lowerOrigins

end ImportOrder
