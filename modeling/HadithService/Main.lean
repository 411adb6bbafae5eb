import HadithService.Assistant.Completion
import HadithService.Editions.Archive
import HadithService.Http.Message
import HadithService.Http.Wire
import HadithService.Program
import HadithService.Service.Desk
import Std.Http.Server

/-!
# Running the program

The outer layer: it reads the environment, keeps the state of the service, and moves bytes between
the service and its connections.  What is answered is decided elsewhere.  Connections to other
servers are not encrypted, so a server that insists on that is out of reach.
-/

namespace HadithService.Main

open Std.Async

/-- The program while it runs.  Whoever waits for a load of somebody else is told through `moved`
when one has gone on. -/
structure Host where
  setup : Program.Setup
  desk : Std.Mutex Desk
  moved : Std.Notify
  archive : Archive
  model : ModelServer

/-- Writes those of some entries that are logged. -/
def log (setup : Program.Setup) (entries : List Log.Entry) : IO Unit :=
  (setup.logged entries).forM fun e => IO.println (setup.line e)

/-! ### Calls of other servers -/

/-- All bytes until the other side closes the connection. -/
partial def drain (socket : TCP.Socket.Client) (got : ByteArray) : Async ByteArray := do
  match ← socket.recv? 65536 with
  | none => return got
  | some bytes => drain socket (got ++ bytes)

/-- The address of a port of a server. -/
def portOf (address : Std.Net.IPAddr) (port : UInt16) : Std.Net.SocketAddress :=
  match address with
  | .v4 addr => .v4 ⟨addr, port⟩
  | .v6 addr => .v6 ⟨addr, port⟩

/-- Carries out a call. -/
def exchange (call : Http.Call) : Async Http.CallOutcome := do
  let port := call.url.port.getD 80
  let addresses ← DNS.getAddrInfo call.url.host (toString port)
  match addresses[0]? with
  | none => return .failed
  | some address =>
    let socket ← TCP.Socket.Client.mk
    socket.connect (portOf address (UInt16.ofNat port))
    socket.send ⟨(Http.Wire.bytesOf call).toArray⟩
    return Http.Wire.outcomeOf (← drain socket .empty).toList

instance : Inhabited Http.CallOutcome :=
  ⟨.failed⟩

/-- Carries out a call within a number of seconds. -/
def carryOut (limit : UInt64) (call : Http.Call) : Async Http.CallOutcome := do
  if call.url.isSecure then return .failed
  let patience : Async Http.CallOutcome := do
    sleep (.ofNat (limit.toNat * 1000))
    return .timedOut
  try Async.race (exchange call) patience
  catch _ => return .failed

/-- Fetches an edition. -/
def Host.fetch (h : Host) (slug : String) : Async Fetched := do
  match h.archive.call? slug with
  | none => return .error .request
  | some call =>
    return Archive.fetched slug (← carryOut h.setup.settings.upstream.timeoutSecs call)

/-- Asks the model. -/
def Host.ask (h : Host) (r : ModelRequest) : Async ModelReply := do
  match h.model.call r with
  | .error e => return .error e
  | .ok call => return ModelServer.reply (← carryOut h.setup.settings.ai.timeoutSecs call)

/-! ### Requests -/

/-- The body of a request, read no further than is needed to see that it is too long. -/
partial def bodyOf (stream : Std.Http.Body.Stream) (got : ByteArray) : Async ByteArray := do
  if Input.bodyLimit < got.size then return got
  match ← stream.recv with
  | none => return got
  | some chunk => bodyOf stream (got ++ chunk.data)

/-- A request as it came, if its target is one. -/
def requestOf? (request : Std.Http.Request Std.Http.Body.Stream) :
    Async (Option Http.Request) := do
  match Http.Target.read? (toString request.line.uri) with
  | none => return none
  | some target =>
    let id := Http.Identifier.ofBytes (← IO.getRandomBytes 16).toList
    let arrival ← IO.monoNanosNow
    let headers := request.line.headers.toList.map fun (name, value) =>
      ⟨name.value, value.value⟩
    let peer := (request.extensions.get Std.Http.Server.RemoteAddr).bind fun a =>
      Http.Address.ofPeer? (toString a)
    let body := (← bodyOf request.body .empty).toList
    return some { id, arrival, method := toString request.line.method, target, headers, peer, body }

/-- Gives the answer of the source to a load. -/
def Host.reply (h : Host) (load : Nat) (outcome : Fetched) : Async Unit :=
  h.desk.atomically do
    let source : EditionSource := fun _ => ⟨0, outcome⟩
    if let some d := (← get).step source (← IO.monoNanosNow) (.reply load) then
      set d

/-- Lets a load go on until it is done. -/
partial def Host.load (h : Host) (load : Nat) : Async Unit := do
  let rest : Async Unit ← h.desk.atomically do
    let d ← get
    if let some d := d.step Desk.noSource (← IO.monoNanosNow) (.advance load) then
      set d
      h.moved.notify
      return h.load load
    match d.obstacle load with
    | .done => return pure ()
    | .lock =>
      -- asked for inside the lock, so that no step of another load is missed
      let moved ← h.moved.wait
      return do
        await moved
        h.load load
    | .source slug =>
      return do
        h.reply load (← h.fetch slug)
        h.load load
  rest

/-- Carries out a search that has been begun. -/
partial def Host.search (h : Host) (r : Http.Request) (inquiry : Search.Inquiry) :
    Async Handling := do
  let _ ← Async.concurrentlyAll (inquiry.loads.toArray.map h.load)
  let handling : Option Handling ← h.desk.atomically do
    match (← get).finish? (← IO.monoNanosNow) r inquiry with
    | none => return none
    | some (handling, d) =>
      set d
      return some handling
  match handling with
  | none => h.search r inquiry
  | some handling => return handling

/-- Takes a request. -/
def Host.receive (h : Host) (r : Http.Request) : Async Handling := do
  let taken : Search.Inquiry ⊕ Handling ← h.desk.atomically do
    let (taken, d) := (← get).take (← IO.monoNanosNow) r
    set d
    return taken
  match taken with
  | .inl inquiry => h.search r inquiry
  | .inr handling => return handling

/-- Answers a request. -/
def Host.answer (h : Host) (r : Http.Request) : Async Http.Response := do
  match ← h.receive r with
  | .answered response => return response
  | .pending p =>
    let reply ← h.ask p.request
    h.desk.atomically do
      let now ← IO.monoNanosNow
      let (response, d) := (← get).serve fun s => s.resume p reply now
      set d
      return response

/-- An answer as it is sent. -/
def sent (r : Http.Response) : Async (Std.Http.Response Std.Http.Body.Any) := do
  let status := (Std.Http.Status.ofCode none (UInt16.ofNat r.status)).getD .badGateway
  let text := match r.body with
    | .empty => ""
    | .text s => s
    | .json v => v.render
  let headers := r.headers.foldl (fun hs h => (hs.insert? h.name h.value).getD hs)
    Std.Http.Headers.empty
  let body ← Std.Http.Body.Full.ofString text
  return ((Std.Http.Response.withStatus status).headers headers).body (.ofBody body)

instance : Std.Http.Server.Handler Host where
  onRequest h request := do
    match ← requestOf? request with
    | none => sent (.bare 400 [])
    | some r => sent (← h.answer r)

/-! ### The life of the program -/

/-- Drops what has expired, again and again. -/
partial def Host.sweep (h : Host) : Async Unit := do
  sleep (.ofNat (max 1 h.setup.settings.cache.pruneIntervalSecs.toNat * 1000))
  h.desk.atomically do
    let now ← IO.monoNanosNow
    set ((← get).serve fun s => s.prune now).2
  h.sweep

/-- Serves until the program is interrupted. -/
def serve (setup : Program.Setup) : Async UInt32 := do
  let settings := setup.settings
  let model := ModelServer.ofSettings settings.ai
  log setup (Program.startEntries settings)
  let desk ← Std.Mutex.new (Desk.ofService (.new settings model.isConfigured))
  let moved ← Std.Notify.new
  let h : Host := ⟨setup, desk, moved, .ofBase settings.upstream.editionsUrl, model⟩
  background h.sweep
  let everywhere : Std.Net.SocketAddress := .v4 ⟨.ofParts 0 0 0 0, settings.server.port⟩
  try
    let server ← Std.Http.Server.serve everywhere h
    let interrupt ← Signal.Waiter.mk .sigint false
    log setup [Program.listening settings]
    let _ ← await (← interrupt.wait)
    log setup [Program.stopping]
    server.shutdownAndWait
    log setup [Program.stopped]
    return 0
  catch e =>
    IO.eprint (Program.complaint ("Failed to bind " ++ Program.address settings) (toString e))
    return 1

/-- The variables of the environment that the program looks at. -/
def variableNames : List String :=
  Program.filterVariable :: Settings.variableNames

/-- The environment of the program. -/
def environment : IO (String → Option String) := do
  let values ← variableNames.mapM fun name => do return (name, ← IO.getEnv name)
  return fun name => (values.find? fun v => v.1 == name).bind Prod.snd

end HadithService.Main

/-- Runs the program. -/
def main : IO UInt32 := do
  match HadithService.Program.setup (← HadithService.Main.environment) with
  | .error e =>
    IO.eprint (HadithService.Program.settingComplaint e)
    return 1
  | .ok setup => Std.Async.Async.block (HadithService.Main.serve setup)
