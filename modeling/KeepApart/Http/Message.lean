import KeepApart.Json.Printer
import KeepApart.Json.Parser

/-!
# Requests and responses

A request and a response as data. The names of headers are the same in capitals and in small letters.
-/

namespace KeepApart.Http

abbrev Headers := List (String × String)

def lowerAscii (s : String) : String :=
  String.ofList (s.toList.map Char.toLower)

def Headers.get? (headers : Headers) (name : String) : Option String :=
  (List.find? (fun h => lowerAscii h.1 == lowerAscii name) headers).map Prod.snd

/-- A request. Path and query are decoded; content that is missing is empty. -/
structure Request where
  method : String
  path : String
  query : List (String × String) := []
  headers : Headers := []
  content : String := ""
  deriving DecidableEq, Repr

namespace Request

def header? (q : Request) (name : String) : Option String :=
  q.headers.get? name

/-- The last value of a parameter. -/
def parameter? (q : Request) (name : String) : Option String :=
  (q.query.reverse.find? fun p => p.1 == name).map Prod.snd

end Request

inductive Content where
  | json (v : Json)
  /-- Text or a page. -/
  | other (text : String)

namespace Content

def json? : Content → Option Json
  | json v => some v
  | other _ => none

def text : Content → String
  | json v => v.renderCompact
  | other text => text

end Content

structure Response where
  status : Int
  content : Content
  location : Option String := none
  requestId : Option String := none

namespace Response

def ofJson (status : Int) (v : Json) : Response where
  status := status
  content := .json v

def ofText (status : Int) (text : String) : Response where
  status := status
  content := .other text

def ofDetail (status : Int) (detail : String) : Response :=
  ofJson status (.obj [("detail", .str detail)])

def redirect (location : String) : Response where
  status := 307
  content := .other ""
  location := some location

end Response

end KeepApart.Http
