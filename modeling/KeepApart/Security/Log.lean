import KeepApart.Security.Event

/-!
# The security log

One log serves all requests. It remembers the request that was begun last, and every event written until
that is cleared carries its id, user and address. Three things are written down: input that a schema
refused, calls without a valid key, and calls that name no acting person.
-/

namespace KeepApart

structure RequestMark where
  id : String := ""
  user : String := ""
  address : String := ""
  deriving DecidableEq, Repr

/-- The log with the events written so far, the latest last. -/
structure SecurityLog where
  mark : RequestMark := {}
  events : List SecurityEvent := []

namespace SecurityLog

/-- Begins a request. One that comes without an id gets the one that was drawn for it. -/
def begin (log : SecurityLog) (drawn : String) (id : Option String) (user address : String) :
    SecurityLog :=
  let id := match id with
    | some s => if s.isEmpty then drawn else s
    | none => drawn
  { log with mark := ⟨id, Text.sanitize Security.userWidth user, address⟩ }

/-- Ends a request: later events belong to none. -/
def clear (log : SecurityLog) : SecurityLog :=
  { log with mark := {} }

def write (log : SecurityLog) (time kind field errorCode source : String) (input : Json)
    (context : List (String × Json)) : SecurityLog :=
  let event : SecurityEvent :=
    { timestamp := time
      kind
      severity := "WARNING"
      field
      errorCode
      input := Security.clipInput input
      source
      requestId := log.mark.id
      user := log.mark.user
      address := log.mark.address
      context := Security.cleanContext context }
  { log with events := log.events ++ [event] }

def invalidInput (log : SecurityLog) (time field errorCode : String) (input : Json) (source : String)
    (context : List (String × Json)) : SecurityLog :=
  log.write time "VALIDATION_FAILED" field errorCode source input context

def badKey (log : SecurityLog) (time source : String) (missing : Bool) : SecurityLog :=
  if missing then
    log.write time "API_KEY_MISSING" "X-API-Key" "AUTHENTICATION_REQUIRED" source .null []
  else log.write time "API_KEY_REJECTED" "X-API-Key" "INVALID_API_KEY" source .null []

def noActor (log : SecurityLog) (time source : String) : SecurityLog :=
  log.write time "USER_IN_CONTEXT_MISSING" "X-User-Name" "USER_IN_CONTEXT_MISSING" source .null []

end SecurityLog

inductive LogSink where
  | file | console
  deriving DecidableEq, Repr

def LogSink.opened (toFile toConsole : Bool) : List LogSink :=
  (if toFile then [file] else []) ++ (if toConsole then [console] else [])

end KeepApart
