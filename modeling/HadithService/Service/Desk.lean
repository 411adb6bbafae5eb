import HadithService.Service.Answering

/-!
# Requests at the same time

A search has to wait for its editions, and other requests come meanwhile.  A search that comes
begins the loads of its editions, which take their steps among those of other searches as
`Search.Inquiries` says, and is answered when its own loads are done.  Every other request is taken
at once, as `Service.receive` says.
-/

namespace HadithService

/-- The search that a request is. -/
def Search.Query.ofRequest? (r : Http.Request) : Option Search.Query :=
  if Route.ofPath? r.target.path == some .search && Route.search.methods.contains r.method then
    (Input.search r.target.query).toOption
  else none

/-- The service, in whose store the loads are, and the searches that have not been answered. -/
structure Desk where
  service : Service
  asked : List Search.Inquiry

/-- What can happen: a request comes, a load goes on by itself, the source answers a load, the
search that a request is gets its answer, the model replies, or a sweep is made. -/
inductive DeskEvent where
  | request (r : Http.Request)
  | advance (load : Nat)
  | reply (load : Nat)
  | finish (r : Http.Request) (inquiry : Search.Inquiry)
  | resume (p : Pending) (reply : ModelReply)
  | sweep

/-- What keeps a load from going on by itself. -/
inductive Obstacle where
  /-- It has called the source, which has not answered. -/
  | source (slug : String)
  /-- Another load holds the lock. -/
  | lock
  /-- It is done, or there is no such load. -/
  | done
deriving DecidableEq, Repr

namespace Desk

/-- A service with no search under way. -/
def ofService (s : Service) : Desk :=
  ⟨s, []⟩

/-- The loads of the searches under way. -/
def loading (d : Desk) : Loading :=
  d.service.store.loading

/-- The searches under way. -/
def inquiries (d : Desk) : Search.Inquiries :=
  ⟨d.loading, d.asked⟩

/-- The same desk with other searches under way. -/
def setInquiries (d : Desk) (s : Search.Inquiries) : Desk where
  service := { d.service with store := { d.service.store with loading := s.loading } }
  asked := s.asked

/-- Lets the service do something that has nothing to do with the searches under way. -/
def serve {α : Type} (act : Service → α × Service) (d : Desk) : α × Desk :=
  let (result, service) := act d.service
  (result, { d with service := service })

/-- A source that is never called. -/
def noSource : EditionSource := fun _ =>
  ⟨0, .error .request⟩

/-- Takes a request: a search is begun, and what becomes of any other request is known at once. -/
def take (now : Instant) (r : Http.Request) (d : Desk) : (Search.Inquiry ⊕ Handling) × Desk :=
  match Search.Query.ofRequest? r with
  | some q =>
    (.inl ⟨q, d.loading.loads.length⟩, d.setInquiries (d.inquiries.begun q))
  | none =>
    d.serve fun s =>
      let (handling, _, s) := s.receive noSource now r
      (.inr handling, s)

/-- Lets a load take a step, if it can. -/
def step (source : EditionSource) (now : Instant) (m : Search.InquiryMove) (d : Desk) :
    Option Desk :=
  (d.inquiries.move source now m).map d.setInquiries

/-- What keeps a load from going on by itself when it cannot. -/
def obstacle (d : Desk) (load : Nat) : Obstacle :=
  match d.loading.loads[load]? with
  | some ⟨slug, .fetching _⟩ => .source slug
  | some ⟨_, .waiting _⟩ => .lock
  | _ => .done

/-- Answers the search that a request is, if its loads are done. -/
def finish? (now : Instant) (r : Http.Request) (inquiry : Search.Inquiry) (d : Desk) :
    Option (Handling × Desk) :=
  (d.inquiries.answer? inquiry).map fun found =>
    let response := Search.response found
    let d := d.setInquiries (d.inquiries.without inquiry)
    let s := d.service.conclude .search r.arrival now response
    (s.finished r (.answered response), { d with service := s })

/-- The desk after an event, if it can happen. -/
def after (source : EditionSource) (d : Desk) (now : Instant) : DeskEvent → Option Desk
  | .request r => some (d.take now r).2
  | .advance load => d.step source now (.advance load)
  | .reply load => d.step source now (.reply load)
  | .finish r inquiry => (d.finish? now r inquiry).map Prod.snd
  | .resume p reply => some (d.serve fun s => s.resume p reply now).2
  | .sweep => some (d.serve fun s => s.prune now).2

/-- The desk after a run of events, each with its instant. -/
def run (source : EditionSource) (d : Desk) : List (Instant × DeskEvent) → Option Desk
  | [] => some d
  | (now, e) :: rest => (d.after source now e).bind fun d => d.run source rest

end Desk

end HadithService
