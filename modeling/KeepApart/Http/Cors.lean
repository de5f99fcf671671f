import KeepApart.Http.Message
import KeepApart.Text.Blank
import KeepApart.Text.Split

/-!
# Requests from other origins

A page of another origin may call the service when its origin is on a list. A browser asks first, with a
preflight: which methods, and does this origin count? It may also ask to reach into a private network,
which is always refused. Other requests are answered whatever their origin,
and the browser learns from the headers whether it may show the answer.
-/

namespace KeepApart.Http.Cors

inductive Origins where
  | any
  | listed (origins : List String)
  deriving DecidableEq, Repr

def localOrigins : List String :=
  ["http://localhost:3000", "http://localhost:8080", "http://127.0.0.1:3000", "http://127.0.0.1:8080"]

/-- Origins from a list with commas; without one, the local ones. A star stands for any origin. -/
def Origins.ofSetting (setting : Option String) : Origins :=
  match setting with
  | none | some "" => listed localOrigins
  | some text =>
    let origins := (Text.splitOn ',' text).map Text.trim
    if origins.contains "*" then any else listed origins

def Origins.allows : Origins → String → Bool
  | any, _ => true
  | listed origins, origin => origins.contains origin

def methods : List String := ["GET", "POST", "PUT", "PATCH", "OPTIONS"]

def exposed : List String := ["X-Request-ID", "X-Processing-Time-MS"]

def originHeader (o : Origins) (origin : String) : Headers :=
  if o.allows origin then [("access-control-allow-origin", origin)] else []

def credentials : Headers := [("access-control-allow-credentials", "true")]

def added (o : Origins) (origin : String) : Headers :=
  originHeader o origin ++ credentials
    ++ [("access-control-expose-headers", ", ".intercalate exposed)]

structure Preflight where
  origin : String
  method : String
  privateNetwork : Bool
  deriving DecidableEq, Repr

def Preflight.ofRequest? (q : Request) : Option Preflight :=
  if q.method == "OPTIONS" then
    match q.header? "Origin", q.header? "Access-Control-Request-Method" with
    | some origin, some method =>
      some ⟨origin, method, (q.header? "Access-Control-Request-Private-Network").isSome⟩
    | _, _ => none
  else none

def answer (o : Origins) (p : Preflight) : Response × Headers :=
  let faults := (if o.allows p.origin then [] else ["origin"])
    ++ (if methods.contains p.method then [] else ["method"])
    ++ (if p.privateNetwork then ["private-network"] else [])
  let headers := originHeader o p.origin
    ++ [("access-control-allow-methods", ", ".intercalate methods)] ++ credentials
  if faults.isEmpty then (.ofText 200 "OK", headers)
  else (.ofText 400 ("Disallowed CORS " ++ ", ".intercalate faults), headers)

/-- Answers a request: a preflight at once, any other by the service, with headers added when it comes
from an origin. -/
def handle (o : Origins) (q : Request) (service : Request → Response) : Response × Headers :=
  match Preflight.ofRequest? q with
  | some p => answer o p
  | none =>
    match q.header? "Origin" with
    | some origin => (service q, added o origin)
    | none => (service q, [])

end KeepApart.Http.Cors
