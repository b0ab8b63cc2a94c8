import MapServices.Sorted.Map

/-!
# Sets of strings in ascending order

A `NameSet` lists its members once each and in ascending order of code points, so that equal sets
are equal values.
-/

namespace MapServices

/-- A set of strings. -/
structure NameSet where
  members : SortedMap String Unit := ∅
deriving DecidableEq, Inhabited

namespace NameSet

instance : EmptyCollection NameSet where
  emptyCollection := {}

instance : Membership String NameSet where
  mem s x := s.members.contains x = true

/-- The members in ascending order. -/
def toList (s : NameSet) : List String := s.members.keys

/-- The set with one more member. -/
def insert (s : NameSet) (x : String) : NameSet := ⟨s.members.insert x ()⟩

/-- The set of the strings in a list. -/
def ofList (l : List String) : NameSet := l.foldl insert ∅

end NameSet

end MapServices
