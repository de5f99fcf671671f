import KeepApart.Http.Message
import KeepApart.Http.Status
import KeepApart.Text.Split

/-!
# Routes

A route is a method and a path in which some segments are parameters. The first route that fits both
method and path is taken; when some fit the path alone, the method is not allowed. A path that fits
nothing but for slashes at its end, or for one that is missing there, is sent to where it fits.
-/

namespace KeepApart.Http

/-- What the service does. Parameters in the path are as they came in. -/
inductive Operation where
  | constants
  | create
  | between
  | find (id : String)
  | amend (id : String)
  | close (id : String)
  | reopen (id : String)
  | ofPrisoner (number : String)
  | legacyDetails (number : String)
  | upsert
  | migrate
  | merge
  | event
  deriving DecidableEq, Repr

namespace Operation

def isReading : Operation → Bool
  | constants | between | find _ | ofPrisoner _ | legacyDetails _ => true
  | create | amend _ | close _ | reopen _ | upsert | migrate | merge | event => false

def hasActor : Operation → Bool
  | create | amend _ | close _ | reopen _ => true
  | _ => false

def hasContent : Operation → Bool
  | constants | find _ | ofPrisoner _ | legacyDetails _ => false
  | _ => true

end Operation

inductive Endpoint where
  | operation (o : Operation)
  | health
  | root
  /-- A page of the documentation. -/
  | page
  deriving DecidableEq, Repr

inductive Segment where
  | word (s : String)
  | parameter
  deriving DecidableEq, Repr

structure Route where
  methods : List String
  path : List Segment
  endpoint : List String → Endpoint

namespace Route

def first (parameters : List String) : String :=
  parameters.headD ""

private def api (words : List Segment) : List Segment :=
  .word "api" :: .word "v1" :: words

private def record (words : List Segment) : List Segment :=
  api (.word "non-associations" :: words)

def all : List Route :=
  [⟨["GET", "HEAD"], [.word "api", .word "openapi.json"], fun _ => .page⟩,
   ⟨["GET", "HEAD"], [.word "api", .word "docs"], fun _ => .page⟩,
   ⟨["GET", "HEAD"], [.word "api", .word "docs", .word "oauth2-redirect"], fun _ => .page⟩,
   ⟨["GET", "HEAD"], [.word "api", .word "redoc"], fun _ => .page⟩,
   ⟨["GET"], api [.word "constants"], fun _ => .operation .constants⟩,
   ⟨["POST"], record [], fun _ => .operation .create⟩,
   ⟨["POST"], record [.word "between"], fun _ => .operation .between⟩,
   ⟨["GET"], record [.parameter], fun ps => .operation (.find (first ps))⟩,
   ⟨["PATCH"], record [.parameter], fun ps => .operation (.amend (first ps))⟩,
   ⟨["PUT"], record [.parameter, .word "close"], fun ps => .operation (.close (first ps))⟩,
   ⟨["PUT"], record [.parameter, .word "reopen"], fun ps => .operation (.reopen (first ps))⟩,
   ⟨["GET"], api [.word "prisoner", .parameter, .word "non-associations"],
     fun ps => .operation (.ofPrisoner (first ps))⟩,
   ⟨["GET"], api [.word "legacy", .word "offenders", .parameter, .word "non-association-details"],
     fun ps => .operation (.legacyDetails (first ps))⟩,
   ⟨["PUT"], api [.word "sync", .word "upsert"], fun _ => .operation .upsert⟩,
   ⟨["POST"], api [.word "migrate"], fun _ => .operation .migrate⟩,
   ⟨["POST"], api [.word "merge"], fun _ => .operation .merge⟩,
   ⟨["POST"], api [.word "events"], fun _ => .operation .event⟩,
   ⟨["GET"], api [.word "health"], fun _ => .health⟩,
   ⟨["GET"], [.word ""], fun _ => .root⟩]

/-- The parameters in the segments of a path that fits; a parameter is never empty. A line feed may
follow a word that ends the path. -/
def parameters? : List Segment → List String → Option (List String)
  | [], [] => some []
  | [.word w], [s] => if s == w || s == w ++ "\n" then some [] else none
  | .word w :: path, s :: segments => if w == s then parameters? path segments else none
  | .parameter :: path, s :: segments =>
    if s.isEmpty then none else (parameters? path segments).map (s :: ·)
  | _, _ => none

end Route

inductive Destination where
  | found (endpoint : Endpoint)
  | wrongMethod
  | elsewhere (path : String)
  | unknown
  deriving DecidableEq, Repr

namespace Destination

def segments (path : String) : List String :=
  (Text.splitOn '/' path).drop 1

def fitting (path : String) : List (Route × List String) :=
  Route.all.filterMap fun r => (Route.parameters? r.path (segments path)).map fun ps => (r, ps)

def trimSlashes (path : String) : String :=
  String.ofList (path.toList.reverse.dropWhile (· == '/')).reverse

/-- The path with the slashes at its end dropped, or with one added when there is none. -/
def slashVariant (path : String) : String :=
  if path.toList.getLast? == some '/' then trimSlashes path else path ++ "/"

def of (method path : String) : Destination :=
  let routes := fitting path
  match routes.find? fun r => r.1.methods.contains method with
  | some (r, ps) => found (r.endpoint ps)
  | none =>
    if !routes.isEmpty then wrongMethod
    else if path != "/" && !(fitting (slashVariant path)).isEmpty then elsewhere (slashVariant path)
    else unknown

example : of "PUT" "/api/v1/non-associations/7/close" = .found (.operation (.close "7")) := by decide

end Destination

def deadEnd (status : Int) : Response :=
  .ofDetail status ((statusReason? status).getD "")

end KeepApart.Http
