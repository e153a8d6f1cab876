import Nullness.Error
import Nullness.SortedMap

/-!
# Thrower summaries

What is known of a method that leaves by throwing, and the collection of such summaries. Each method
is summarized at most once; a method without an entry has the summary `none`.
-/

namespace Nullness

/-- How a method may be relied upon to throw. -/
inductive MethodSummary
  | none
  /-- Every way out of the method throws. -/
  | alwaysThrows
  /-- The method throws when any of these parameters is null. -/
  | conditional (parameters : SortedSet Nat)
deriving DecidableEq

/-- The summaries of a program by method. -/
structure SummaryStore where
  entries : SortedMap MethodId MethodSummary

namespace SummaryStore

/-- The store without summaries. -/
def empty : SummaryStore := ⟨.empty⟩

/-- The summary of a method. -/
def get (s : SummaryStore) (id : MethodId) : MethodSummary := (s.entries.get? id).getD .none

/-- Adds the summary of a method that has none yet. -/
def record (s : SummaryStore) (id : MethodId) (summary : MethodSummary) :
    Except Error SummaryStore :=
  if s.entries.contains id then .error (.recordedTwice id)
  else .ok ⟨s.entries.insert id summary⟩

/-- The methods with a summary and their summaries, in ascending order. -/
def toList (s : SummaryStore) : List (MethodId × MethodSummary) := s.entries.entries

/-- The number of methods with a summary. -/
def size (s : SummaryStore) : Nat := s.entries.size

end SummaryStore

end Nullness
