/-!
Points in time.
-/

namespace Vigil.Clock

/-- A point in time: whole seconds since the start of 1970, leap seconds not counted, and
nanoseconds within the second. Nanoseconds from `10 ^ 9` on lie in a leap second after that
second. -/
structure Instant where
  seconds : Int
  nanos : Nat
deriving DecidableEq, Repr, Inhabited

end Vigil.Clock
