import KeepApart.Http.Cors
import KeepApart.Http.Failure
import KeepApart.Http.Form
import KeepApart.Http.Target
import KeepApart.Http.View
import KeepApart.Security.Log
import KeepApart.Settings

/-!
# Serving requests

A request is received first, and only then looks at the register: its content must be readable, the
acting person's name not too long, the key right and the form filled in as it should be. What it asks for
then runs as one transaction. Refused keys, refused forms and a missing acting person are written to the
security log under the mark of the request.
-/

namespace KeepApart.Http

/-- How the service is set up, under the name by which clients reach it. Without a key of its own it asks
for none. -/
structure Server where
  settings : Settings
  name : String
  key : String := ""
  origins : Cors.Origins := .listed Cors.localOrigins

/-- What surrounds a request: the clock and the directory, the moment up to which a booking without an
end is taken to last, how storage answers a probe, an id for the request if it brings none, and the
client's address. -/
structure Surroundings where
  context : Context
  latest : Moment
  probe : Monitoring.Probe
  drawnId : String
  address : String

structure ServiceState where
  register : Register := .empty
  log : SecurityLog := {}

/-! ## Receiving -/

inductive Refusal where
  /-- The content is meant as JSON and is none. -/
  | badContent (trouble : Body.Trouble)
  | longActor
  | missingKey
  | wrongKey
  | badForm (issues : List Schema.Issue)

namespace Refusal

def fieldName (location : List String) : Option String :=
  if location.isEmpty then none else some (".".intercalate location)

def issues : Refusal → List Schema.Issue
  | badContent (.badJson position) =>
    [⟨[toString position], "JSON decode error", (Json.obj []).display⟩]
  | badForm issues => issues
  | _ => []

def failure (r : Refusal) : Failure :=
  match r with
  | longActor => .ofStatus 400 (.str "X-User-Name cannot exceed 60 characters")
  | missingKey => .ofStatus 401 (.str "Missing API key. Provide X-API-Key header.")
  | wrongKey => .ofStatus 403 (.str "Invalid API key")
  | badContent _ | badForm _ =>
    match r.issues with
    | i :: _ => .ofSchema i.message (fieldName i.location)
    | [] => .ofSchema "Invalid request" none

def record (r : Refusal) (path : String) (log : SecurityLog) : SecurityLog :=
  match r with
  | longActor | badContent .unreadable => log
  | missingKey => log.badKey "" "verify_api_key" true
  | wrongKey => log.badKey "" "verify_api_key" false
  | badContent (.badJson _) | badForm _ =>
    let count : List (String × Json) := [("error_count", .int r.issues.length)]
    match r.issues with
    | i :: _ =>
      log.invalidInput "" ((fieldName i.location).getD "") "REQUEST_VALIDATION_FAILED" (.str i.input)
        path count
    | [] => log.invalidInput "" "" "REQUEST_VALIDATION_FAILED" (.str "") path count

end Refusal

/-- The acting person whom a request names, if any; the name is trimmed and must not be too long. -/
def actingPerson (q : Request) : Except Refusal (Option String) :=
  match q.header? "X-User-Name" with
  | none => .ok none
  | some text =>
    let name := Text.trim text
    if name.isEmpty then .ok none
    else if Schema.nameLimit < name.length then .error .longActor
    else .ok (some name)

namespace Server

def needsKey (s : Server) (o : Operation) : Bool :=
  !s.key.isEmpty && (!o.isReading || s.settings.readKeyRequired)

def checkKey (s : Server) (q : Request) (o : Operation) : Except Refusal Unit :=
  if !s.needsKey o then .ok ()
  else
    let key := (q.header? "X-API-Key").getD ""
    if key.isEmpty then .error .missingKey
    else if key == s.key then .ok ()
    else .error .wrongKey

def receive (s : Server) (q : Request) (o : Operation) : Except Refusal (Option String × Call) := do
  let body ← if o.hasContent then (Body.ofRequest q).mapError .badContent else .ok .missing
  let actor ← if o.hasActor then actingPerson q else .ok none
  s.checkKey q o
  match o.check q body with
  | .accepted call => return (actor, call)
  | .refused issues => throw (.badForm issues)

end Server

/-! ## Calls -/

def requireCalendar (t : Moment) : Action Unit :=
  if Moment.earliest ≤ t ∧ t < Moment.limit then pure () else throw .overflow

def requireCalendar? (t : Option Moment) : Action Unit :=
  match t with
  | some t => requireCalendar t
  | none => pure ()

def requireDates (q : LegacyRequest) : Action Unit := do
  requireCalendar (.ofDate q.effective)
  requireCalendar? (q.expiry.map .ofDate)

def Call.run (around : Surroundings) (defaults : SyncDefaults) (actor : Option String) :
    Call → Action Json
  | .constants => return View.constants
  | .create p => return View.record (← Command.create around.context p actor)
  | .between numbers o => return View.records (← Query.amongGroup around.context numbers o)
  | .find id => return View.record (← Action.require id)
  | .amend id a => return View.record (← Command.amend around.context id actor a)
  | .close id t => do
    requireCalendar? t.at?
    return View.record (← Command.close around.context id (some t.reason) actor t.person t.at?)
  | .reopen id t => do
    requireCalendar? t.at?
    return View.record (← Command.reopen around.context id (some t.reason) actor t.person t.at?)
  | .ofPrisoner number o => do
    let listing ← Query.forPrisoner around.context number o
    Action.attempt (View.listing number listing)
  | .legacyDetails number currentPrisonOnly excludeInactive => do
    let view ← Legacy.view around.context number currentPrisonOnly excludeInactive
    Action.attempt (View.legacy view)
  | .upsert q => do
    requireDates q
    Action.attempt (View.saved (← Sync.upsert around.context.now defaults q))
  | .migrate q => do
    requireDates q
    Action.attempt (View.saved (← Sync.migrate around.context.now defaults q))
  | .merge old new w => do
    requireCalendar? w.since
    requireCalendar? w.until?
    return View.merged (← Merge.run old new w)
  | .event e => do Action.attempt (View.eventOutcome (← e.apply around.latest))

def Operation.successStatus : Operation → Int
  | .create | .migrate => 201
  | _ => 200

/-! ## Responses -/

/-- The response to a failure. An unexpected one does not name the request. -/
def Failure.response (f : Failure) (requestId : String) : Response :=
  { Response.ofJson f.status f.body with
    requestId := if f.isInternal then none else some requestId }

/-- The response to a request that is not received. Of content that cannot be read no more is said. -/
def Refusal.response (r : Refusal) (requestId : String) : Response :=
  match r with
  | .badContent .unreadable =>
    { Response.ofDetail 400 "There was an error parsing the body" with requestId := some requestId }
  | _ => r.failure.response requestId

def recordFault (fault : Fault) (path : String) (log : SecurityLog) : SecurityLog :=
  match fault with
  | .rejected .noActor => log.noActor "" path
  | _ => log

namespace Server

def serve (s : Server) (around : Surroundings) (q : Request) (requestId : String) (o : Operation)
    (state : ServiceState) : Response × ServiceState :=
  match s.receive q o with
  | .error refusal =>
    (refusal.response requestId,
      { state with log := refusal.record (loggedPath q.path) state.log })
  | .ok (actor, call) =>
    let (outcome, session) :=
      (Session.start state.register).transact (call.run around s.settings.syncDefaults actor)
    let state := { state with register := session.committed }
    match outcome with
    | .ok v => ({ Response.ofJson o.successStatus v with requestId := some requestId }, state)
    | .error fault =>
      ((Failure.ofFault fault).response requestId,
        { state with log := recordFault fault (loggedPath q.path) state.log })

def respond (s : Server) (around : Surroundings) (q : Request) (requestId : String)
    (state : ServiceState) : Response × ServiceState :=
  let named (r : Response) : Response × ServiceState := ({ r with requestId := some requestId }, state)
  match Cors.Preflight.ofRequest? q with
  | some p => named (Cors.answer s.origins p).1
  | none =>
    match Destination.of q.method q.path with
    | .found (.operation o) => s.serve around q requestId o state
    | .found .health => named (.ofJson 200 (View.health around.probe))
    | .found .root => named (.redirect "/api/docs")
    | .found .page => named (.ofText 200 "")
    | .elsewhere path =>
      named (.redirect (absoluteAddress ((q.header? "Host").getD s.name) s.name path q.query))
    | .wrongMethod => named (deadEnd 405)
    | .unknown => named (deadEnd 404)

/-- Handles a request: begins its mark in the security log, answers it and clears the mark. -/
def handle (s : Server) (around : Surroundings) (q : Request) (state : ServiceState) :
    Response × ServiceState :=
  let log := state.log.begin around.drawnId (q.header? "X-Request-ID")
    ((q.header? "X-User-Name").getD "") around.address
  let requestId := (q.header? "X-Request-ID").getD around.drawnId
  let (response, state) := s.respond around q requestId { state with log }
  (response, { state with log := state.log.clear })

end Server

end KeepApart.Http
