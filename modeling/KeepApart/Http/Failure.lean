import KeepApart.Http.Status
import KeepApart.Report

/-!
# Failed requests

What a client is told of a request that failed: a status, a code for programs, a message for people, and
where there are any a number, the field at fault and a way out. Faults that are not of the client's
making show no detail.
-/

namespace KeepApart.Http

structure Failure where
  status : Int
  code : String
  message : String
  number : Option Nat := none
  field : Json := .null
  suggestion : Option String := none

namespace Failure

def statusOf : RejectionKind → Int
  | .general => 500
  | .invalid | .badClosure => 400
  | .noActor => 401
  | .notFound | .unknownPrisoners => 404
  | .alreadyClosed | .alreadyOpen | .openExists | .noLocation => 409

def suggestionFor : RejectionKind → Option String
  | .noActor => some "Send the acting user in the X-User-Name header"
  | .openExists => some "Close or amend the existing open non-association instead"
  | _ => none

def ofReport (r : Report) : Failure where
  status := statusOf r.kind
  code := r.kind.code
  message := r.message
  number := r.kind.number
  field := r.field.getD .null
  suggestion := suggestionFor r.kind

def internalCode : String := "INTERNAL_ERROR"

/-- A failure of which the client learns nothing. -/
def internal : Failure where
  status := 500
  code := internalCode
  message := "An unexpected error occurred. Please try again later."

def isInternal (f : Failure) : Bool :=
  f.code == internalCode

def notStored (message : String) : Failure where
  status := 404
  code := "NOT_FOUND"
  message := message

def searchUnavailable : Failure where
  status := 502
  code := "PRISONER_SEARCH_UNAVAILABLE"
  message := "Prisoner search is unavailable. Please try again later."

def badSettings : Failure where
  status := 503
  code := "CONFIGURATION_ERROR"
  message := "Service configuration is invalid. Please contact administrator."

def ofFault (f : Fault) : Failure :=
  match f with
  | .rejected r => ofReport r.report
  | .notStored _ => notStored (f.message?.getD "")
  | .searchFailed _ => searchUnavailable
  | .badSettings _ => badSettings
  | _ => internal

/-- A refusal by its status. Its message is the detail, of any kind, or else the reason of the status. -/
def ofStatus (status : Int) (detail : Json) : Failure where
  status := status
  code := "HTTP_" ++ toString status
  message := if detail.isNull then (statusReason? status).getD "" else detail.display

def ofSchema (message : String) (field : Option String) : Failure where
  status := 422
  code := "REQUEST_VALIDATION_FAILED"
  message := message
  field := .ofText? field

/-- The body of the answer. An empty field of any kind is left out. -/
def body (f : Failure) : Json :=
  let item (name : String) (value : Option Json) := (value.map fun v => (name, v)).toList
  .obj [("error", .obj
    ([("code", .str f.code), ("message", .str f.message)]
      ++ item "error_code" (f.number.map fun n => .int n)
      ++ item "field" (if f.field.isNothing then none else some f.field)
      ++ item "suggestion" (f.suggestion.map Json.str)))]

end Failure

end KeepApart.Http
