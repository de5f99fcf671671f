import KeepApart.Fault
import KeepApart.Text.Sanitized

/-!
# Security events

A security event is one line of JSON. What users supplied is cleaned first: texts are flattened onto one
line and clipped, names of items as well, while numbers, truth values and null stay as they are.
-/

namespace KeepApart

structure SecurityEvent where
  timestamp : String
  kind : String
  severity : String
  field : String := ""
  errorCode : String := ""
  input : String := ""
  source : String := ""
  requestId : String := ""
  user : String := ""
  address : String := ""
  context : List (String × Json) := []

namespace SecurityEvent

def toFields (e : SecurityEvent) : List (String × Json) :=
  [("timestamp", .str e.timestamp),
   ("event_type", .str e.kind),
   ("severity", .str e.severity),
   ("field", .str e.field),
   ("error_code", .str e.errorCode),
   ("sanitized_input", .str e.input),
   ("source", .str e.source),
   ("request_id", .str e.requestId),
   ("user_id", .str e.user),
   ("source_ip", .str e.address),
   ("context", .obj e.context)]

def toJson (e : SecurityEvent) : Json :=
  .obj e.toFields

/-- The text of the event, however long its integers are. -/
def text (e : SecurityEvent) : String :=
  e.toJson.render

/-- The text of the event as it is written down. There is none when an integer in the context has too many
digits or the context is nested too deeply. -/
def written (limits : Json.Limits) (e : SecurityEvent) : Except Fault String :=
  (e.toJson.write limits).mapError Fault.ofWriting

def line (time : String) (e : SecurityEvent) : String :=
  time ++ " - SECURITY - " ++ e.severity ++ " - " ++ e.text

end SecurityEvent

namespace Security

def inputWidth : Nat := 50

def keyWidth : Nat := 100

def valueWidth : Nat := 200

def userWidth : Int := 60

/-- A value on one line, clipped; empty values of any kind leave nothing. -/
def clipInput (v : Json) : String :=
  if v.isNothing then "" else Text.clip inputWidth v.display

/-- Puts code points back in their order where a text shows them as U+FFFD. -/
def restoreCodes : List Nat → List Char → List Nat
  | _, [] => []
  | [], c :: s => c.toNat :: restoreCodes [] s
  | code :: codes, c :: s =>
    if c = '\uFFFD' then code :: restoreCodes codes s else c.toNat :: restoreCodes (code :: codes) s

/-- Clips a text with halves of surrogate pairs as it is shown. -/
def clipCodes (width : Nat) (codes : List Nat) : List Nat :=
  restoreCodes (codes.filter fun code => Json.shownChar code = '\uFFFD')
    (Text.clipChars width (codes.map Json.shownChar))

mutual

def cleanValue : Json → Json
  | .obj fields => .obj (cleanFields [] fields)
  | .null => .null
  | .bool b => .bool b
  | .int n => .int n
  | .float x => .float x
  | .str s => .str (Text.clip valueWidth s)
  | .surrogates codes => .ofCodes (clipCodes valueWidth codes)
  | .arr items => .str (Text.clip valueWidth (Json.arr items).display)

/-- Adds the cleaned items to those in `done`. Of names that become equal the later value counts. -/
def cleanFields (done : List (String × Json)) : List (String × Json) → List (String × Json)
  | [] => done
  | (name, v) :: rest =>
    cleanFields (Json.insertField done (Text.clip keyWidth name) (cleanValue v)) rest

end

/-- The cleaned context, whatever the lists in it are like. -/
def cleanContext (context : List (String × Json)) : List (String × Json) :=
  cleanFields [] context

mutual

/-- What goes too far first in the lists of a value, of which the text is wanted. -/
def listExcess? (limits : Json.Limits) : Json → Option Json.WriteFault
  | .obj fields => listExcessOfFields? limits fields
  | .arr items => (Json.arr items).excess? limits 0
  | _ => none

def listExcessOfFields? (limits : Json.Limits) : List (String × Json) → Option Json.WriteFault
  | [] => none
  | (_, v) :: rest => (listExcess? limits v).or (listExcessOfFields? limits rest)

end

/-- The cleaned context as it is written down. There is none when a list in it has an integer with too many
digits or is nested too deeply, which leaves the list without a text. -/
def cleaned (limits : Json.Limits) (context : List (String × Json)) :
    Except Fault (List (String × Json)) :=
  match listExcessOfFields? limits context with
  | some f => .error (.ofWriting f)
  | none => .ok (cleanContext context)

end Security

end KeepApart
