/-!
# Instants

Instants are counted in nanoseconds from a common start.  A clock may be read in any order; the
time elapsed since an instant that has not come yet is none.
-/

namespace HadithService

/-- A point in time, in nanoseconds. -/
abbrev Instant := Nat

/-- A length of time, in nanoseconds. -/
abbrev Duration := Nat

/-- A number of seconds. -/
def Duration.seconds (n : Nat) : Duration :=
  n * 1000000000

/-- Whether more time than a lifetime has elapsed since an instant. -/
def hasExpired (lifetime : Duration) (since now : Instant) : Bool :=
  lifetime < now - since

end HadithService
