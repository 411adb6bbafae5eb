import HadithService.Editions.Source
import HadithService.Search.Engine

/-!
# Searches of a source that changes

What is published may change between one search and the next, and while searches are under way.
-/

namespace HadithService.Search

/-- A query at an instant, with what is published then and for how many rounds a call for it is
awaited. -/
structure Occasion where
  now : Instant
  published : String → Publication
  rounds : String → Nat
  query : Query

namespace Occasion

/-- The answer on an occasion. -/
def answer (o : Occasion) (store : EditionStore) : Except Unavailable (Option Results) :=
  (search (.ofPublications o.published o.rounds) o.query (store.wait o.now)).1

/-- The store after an occasion. -/
def store (o : Occasion) (store : EditionStore) : EditionStore :=
  (search (.ofPublications o.published o.rounds) o.query (store.wait o.now)).2.2

end Occasion

/-- The store after occasions that come one after the other. -/
def storeAfter (store : EditionStore) (occasions : List Occasion) : EditionStore :=
  occasions.foldl (fun store o => o.store store) store

/-- A run of searches at the same time.  With every move comes what is published when it is
made. -/
def Inquiries.runThrough (s : Inquiries) :
    List (Instant × (String → Publication) × InquiryMove) → Option Inquiries
  | [] => some s
  | (now, published, m) :: rest =>
    (s.move (.atOnce published) now m).bind fun s => s.runThrough rest

end HadithService.Search
