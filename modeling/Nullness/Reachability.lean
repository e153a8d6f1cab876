/-!
# Breadth-first listing

The values that can be reached from a start by repeated steps, nearest first, and among equally
near ones in the order in which the steps list them. Look-ups that walk a class hierarchy or a flow
graph ask for the first listed value with some property.
-/

namespace Nullness

variable {α : Type} [DecidableEq α]

/-- Lists what a queue of values leads to, leaving out what was seen before. The bound limits the
number of values that are taken from the queue. -/
def listReachable (next : α → List α) : Nat → (queue seen : List α) → List α
  | 0, _, _ => []
  | _ + 1, [], _ => []
  | bound + 1, a :: queue, seen =>
    if a ∈ seen then listReachable next bound queue seen
    else a :: listReachable next bound (queue ++ next a) (a :: seen)

/-- What one value leads to, itself included. The bound has to be at least the number of steps out
of all distinct values that are met. -/
def reachableFrom (next : α → List α) (steps : Nat) (a : α) : List α :=
  listReachable next (steps + 1) [a] []

end Nullness
