import ImportOrder.Merge
import ImportOrder.Order

/-!
# The arrangement of imports

Statements are put into their groups, merged and sorted within each group; the groups come out in
the order of their positions, and empty ones not at all.

## Main definitions

* `classifyAll`: statements with their groups
* `arrange`: the groups of statements in their final order
-/

namespace ImportOrder

/-- Each statement with the position of its group. -/
def classifyAll (project : Option Project) (groups : List Group) (ss : List Statement) :
    Except SettingsError (List (Int × Statement)) :=
  ss.mapM fun s =>
    match Group.classify? project groups s with
    | some g => .ok (g.position, s)
    | none => .error .noCatchAll

/-- The statements of the group at a position, merged and in order. -/
def arrangeGroup (s : Settings) (placed : List (Int × Statement)) (position : Int) :
    Journaled Failure (List Statement) := do
  let members := (placed.filter (·.1 == position)).map (·.2)
  let members ← if s.mergeDuplicates then mergeDuplicates members else pure members
  return sortStatements s members

/-- The positions of groups in increasing order. -/
def sortedPositions (groups : List Group) : List Int :=
  inOrder (fun a b => decide (a ≤ b)) (groups.map (·.position))

/-- The groups of statements in their final order. -/
def arrange [Platform] (s : Settings) (project : Option Project) (ss : List Statement) :
    Journaled Failure (List (List Statement)) := do
  let groups ← Journaled.ofExcept (s.builtGroups.mapError Failure.settings)
  let placed ← Journaled.ofExcept ((classifyAll project groups ss).mapError Failure.settings)
  let arranged ← Journaled.forEach (arrangeGroup s placed) (sortedPositions groups)
  let filled := arranged.filter (!·.isEmpty)
  Journaled.debug s!"Sorted {ss.length} imports into {filled.length} groups"
  return filled

end ImportOrder
