import HadithService.Editions.Loading

/-!
# What becomes of loads

Which loads of a run the source has answered, how many have found their edition when they looked for
the second time, and whether the loads came one after the other.
-/

namespace HadithService

/-- Whether a load stands in a queue and has not looked into the cache again. -/
def Phase.isWaiting : Phase → Bool
  | .waiting _ => true
  | _ => false

namespace Loading

/-- The loads that the source answers in a run, in the order of the answers. -/
def answered (steps : List (Instant × Move)) : List Nat :=
  steps.filterMap fun
    | (_, .begin _) => none
    | (_, .advance _) => none
    | (_, .answer i _) => some i

/-- Whether a load finds its edition in a step although it did not find it at first. -/
def findsAgain (s : Loading) (now : Instant) : Move → Bool
  | .begin _ => false
  | .advance i =>
    s.loads[i]?.any fun l => l.phase.isWaiting && (s.cache.peek l.slug now).isSome
  | .answer _ _ => false

/-- How many loads of a run find their editions although they did not find them at first. -/
def foundAgain (s : Loading) : List (Instant × Move) → Nat
  | [] => 0
  | (now, m) :: rest =>
    match s.move now m with
    | none => 0
    | some t => (s.findsAgain now m).toNat + t.foundAgain rest

/-- Whether a step can be taken when loads come one after the other: none begins until the loads
before it are done. -/
def allowsAlone (s : Loading) : Move → Bool
  | .begin _ => s.isSettled
  | .advance _ => true
  | .answer _ _ => true

/-- Whether the loads of a run come one after the other. -/
def isOneByOne (s : Loading) : List (Instant × Move) → Bool
  | [] => true
  | (now, m) :: rest =>
    match s.move now m with
    | none => true
    | some t => s.allowsAlone m && t.isOneByOne rest

end Loading

end HadithService
