import HadithService.Clock

/-!
# Counters

What is counted per client or per conversation is kept in a list of counters, one for each key,
each with the instant it counts from.  A counter that has outlived its lifetime counts for
nothing, whether or not it is still there.
-/

namespace HadithService

/-- A count under a key since an instant. -/
structure Counter where
  key : String
  count : Nat
  since : Instant
deriving DecidableEq, Repr

namespace Counter

/-- The counter of a key. -/
def find? (counters : List Counter) (key : String) : Option Counter :=
  counters.find? fun c => c.key == key

/-- The counter of a key at an instant: the one that is there if it has not expired, or one that
starts from zero. -/
def current (counters : List Counter) (lifetime : Duration) (key : String) (now : Instant) :
    Counter :=
  match find? counters key with
  | none => ⟨key, 0, now⟩
  | some c => if hasExpired lifetime c.since now then ⟨key, 0, now⟩ else c

/-- The counters with one put in the place of the one with its key. -/
def put (counters : List Counter) (c : Counter) : List Counter :=
  c :: counters.filter fun d => d.key != c.key

/-- The counters that have not expired. -/
def alive (counters : List Counter) (lifetime : Duration) (now : Instant) : List Counter :=
  counters.filter fun c => !hasExpired lifetime c.since now

end Counter

end HadithService
