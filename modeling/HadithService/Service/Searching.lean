import HadithService.Search.Engine
import HadithService.Service.Basic
import HadithService.Service.Input

/-!
# Answering searches

A search is answered at once.  A query with a field given twice is refused before it counts as a
search.
-/

namespace HadithService

namespace Search

/-- Where results come from. -/
def sourceName : String := "fawazahmed0-hadith-api"

/-- What a client reads when a collection could not be fetched. -/
def Unavailable.notice (e : Unavailable) : String :=
  match e.status? with
  | some code => "Failed to fetch from API: " ++ toString code
  | none => "Failed to fetch hadiths"

/-- The answer when a collection could not be fetched. -/
def Unavailable.response (e : Unavailable) : Http.Response :=
  .ofJson ((e.status?.map Http.forwardedStatus).getD Http.badGateway)
    (.object [("results", .array []), ("total", Json.ofNat 0), ("error", .string e.notice)])

/-- Results as a JSON value. -/
def Results.toJson (r : Results) : Json :=
  .object [("results", .array (r.hadiths.map Hadith.toJson)), ("total", Json.ofNat r.total),
    ("source", .string sourceName)]

/-- The answer to a search. -/
def response : Except Unavailable (Option Results) → Http.Response
  | .ok none => .ofJson 200 (.object [("results", .array [])])
  | .ok (some r) => .ofJson 200 r.toJson
  | .error e => e.response

end Search

namespace Service

/-- The answer to a query with a field given twice. -/
def repeatedField (name : String) : Http.Response :=
  .ofText 400 ("Failed to deserialize query string: duplicate field \x60" ++ name ++ "\x60")

/-- Answers the search that a request is.  Gives the answer and the calls of the source in the
order they were made. -/
def answerSearch (source : EditionSource) (now : Instant) (r : Http.Request) (s : Service) :
    Http.Response × List String × Service :=
  match Input.search r.target.query with
  | .error name => (repeatedField name, [], s)
  | .ok q =>
    let (found, calls, store) := Search.search source q (s.store.wait now)
    let response := Search.response found
    (response, calls, { s with store := store }.conclude .search r.arrival store.clock response)

end Service

end HadithService
