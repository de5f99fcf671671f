import KeepApart.Calendar.Timestamp
import KeepApart.Merge.Value

/-!
# Prisoner events

Two events move prisoner numbers: two prisoners turn out to be one, or a booking moves from one prisoner
to another. The first concerns every record of the old number, the second those created during the
booking, which is bounded only when its start is known. Any other event is ignored.
-/

namespace KeepApart

structure PrisonerEvent where
  kind : String
  information : Json
  occurredAt : Json

namespace PrisonerEvent

def mergedKind : String := "prison-offender-events.prisoner.merged"

def bookingMovedKind : String := "prison-offender-events.prisoner.booking.moved"

def ofPayload (kind : String) : Json → Except Fault PrisonerEvent
  | .obj payload =>
    let item (name : String) := (Json.lookup? payload name).getD .null
    .ok ⟨kind, item "additionalInformation", item "occurredAt"⟩
  | _ => .error .wrongShape

/-- An item of the information. Empty information of any kind has no items. -/
def item (information : Json) (key : String) : Except Fault Json :=
  if information.isNothing then .ok .null
  else
    match information with
    | .obj fields => .ok ((Json.lookup? fields key).getD .null)
    | _ => .error .wrongShape

def requireItem (information : Json) (key : String) : Except Fault Json := do
  let value ← item information key
  if value.isNothing then throw (.rejected (.invalid (.eventIncomplete key)))
  return value

def inCalendar (invalid : Invalid) : Option Moment → Except Fault (Option Moment)
  | none => .error (.rejected (.invalid invalid))
  | some t => if Moment.earliest ≤ t ∧ t < Moment.limit then .ok (some t) else .error .overflow

def timestamp? (field : String) : Json → Except Fault (Option Moment)
  | .null => .ok none
  | .str s => inCalendar (.badTimestamp s field) (Timestamp.moment? s)
  | .surrogates codes =>
    inCalendar (.badTimestampCodes codes field) (Timestamp.momentOfCodes? codes)
  | _ => .error .wrongShape

/-- The time during which the booking belonged to the old number. A booking without an end lasts until
now. -/
def bookingWindow (e : PrisonerEvent) (now : Moment) : Except Fault Window := do
  let start ← item e.information "bookingStartDateTime"
  let since ← timestamp? "bookingStartDateTime" start
  if since.isNone then return {}
  let occurred ← timestamp? "occurredAt" e.occurredAt
  return ⟨since, some (occurred.getD now)⟩

def apply (now : Moment) (e : PrisonerEvent) : Action (Option MergeReport) := do
  if e.kind == mergedKind then
    let old ← Action.attempt (requireItem e.information "removedNomsNumber")
    let new ← Action.attempt (requireItem e.information "nomsNumber")
    return some (← Merge.ofValues old new {})
  else if e.kind == bookingMovedKind then
    let window ← Action.attempt (e.bookingWindow now)
    let old ← Action.attempt (requireItem e.information "movedFromNomsNumber")
    let new ← Action.attempt (requireItem e.information "movedToNomsNumber")
    return some (← Merge.ofValues old new window)
  else return none

end PrisonerEvent

end KeepApart
