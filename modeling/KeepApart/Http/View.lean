import KeepApart.Json.Printer
import KeepApart.Legacy.View
import KeepApart.Merge.Value
import KeepApart.Monitoring
import KeepApart.Text.Sanitized

/-!
# Views

Records, listings and results as clients see them. Codes come with their descriptions, and whoever is
shown by name must have one.
-/

namespace KeepApart.Http.View

def described {α : Type} [Vocabulary α] [Described α] (name : String) (a : α) : List (String × Json) :=
  [(name, .str (code a)), (name ++ "Description", .str (describe a))]

def vocabulary (α : Type) [Vocabulary α] [Described α] : Json :=
  .arr ((Vocabulary.all : List α).map fun a =>
    .obj [("code", .str (code a)), ("description", .str (describe a))])

def constants : Json :=
  .obj [("roles", vocabulary Role), ("reasons", vocabulary Reason),
    ("restrictionTypes", vocabulary Restriction)]

def history (r : Record) : List (String × Json) :=
  [("comment", .str r.comment),
   ("authorisedBy", .ofText? r.authorisedBy),
   ("whenCreated", .str r.whenCreated.iso),
   ("whenUpdated", .str r.whenUpdated.iso),
   ("updatedBy", .str r.updatedBy),
   ("isClosed", .bool r.isClosed),
   ("closedBy", .ofText? r.closedBy),
   ("closedReason", .ofText? r.closedReason),
   ("closedAt", .ofText? (r.closedAt.map Moment.iso)),
   ("isOpen", .bool r.isOpen)]

def record (r : Record) : Json :=
  .obj ([("id", .ofInt? r.id), ("firstPrisonerNumber", .str r.firstNumber)]
    ++ described "firstPrisonerRole" r.firstRole
    ++ [("secondPrisonerNumber", .str r.secondNumber)]
    ++ described "secondPrisonerRole" r.secondRole
    ++ described "reason" r.reason
    ++ described "restrictionType" r.restriction
    ++ history r)

def records (rs : List Record) : Json :=
  .arr (rs.map record)

def saved (s : Saved) : Except Fault Json :=
  if s.given.isPlain then .ok (record s.record) else .error .wrongShape

def merged (m : MergeResults) : Json :=
  .obj [("renamed", records m.renamed), ("superseded", records m.superseding),
    ("collapsed", records m.collapsed)]

def eventOutcome (outcome : Option MergeReport) : Except Fault Json :=
  match outcome with
  | none => .ok (.obj [("handled", .bool false), ("results", .null)])
  | some m =>
    if m.isPlain then
      .ok (.obj [("handled", .bool true),
        ("results", merged ⟨m.renamed.map (·.record), m.superseding, m.collapsed⟩)])
    else .error .wrongShape

def requireText : Json → Except Fault Json
  | .str s => .ok (.str s)
  | _ => .error .wrongShape

def requireText? (value : Json) : Except Fault Json :=
  if value.isNull then .ok .null else requireText value

/-- The names and the place of a prisoner, who must have both names. -/
def person (p : Prisoner) : Except Fault (List (String × Json)) := do
  let firstName ← requireText p.firstName
  let lastName ← requireText p.lastName
  let prisonId ← requireText? p.prisonId
  let prisonName ← requireText? p.prisonName
  let cell ← requireText? p.cell
  return [("firstName", firstName), ("lastName", lastName), ("prisonId", prisonId),
    ("prisonName", prisonName), ("cellLocation", cell)]

def roles (number : String) (r : Record) : Role × Role :=
  if r.firstNumber = number then (r.firstRole, r.secondRole) else (r.secondRole, r.firstRole)

def entry (number : String) (e : Entry) : Except Fault Json := do
  let (own, other) := roles number e.record
  let names ← person e.prisoner
  return .obj ([("id", .ofInt? e.record.id)]
    ++ described "role" own
    ++ described "reason" e.record.reason
    ++ described "restrictionType" e.record.restriction
    ++ history e.record
    ++ [("otherPrisonerDetails", .obj
      ([("prisonerNumber", e.prisoner.number)] ++ described "role" other ++ names))])

def listing (number : String) (l : PrisonerListing) : Except Fault Json := do
  let entries ← l.entries.mapM (entry number)
  let names ← person l.prisoner
  return .obj ([("prisonerNumber", l.prisoner.number)] ++ names
    ++ [("openCount", .int (l.entries.filter (·.record.isOpen)).length),
        ("closedCount", .int (l.entries.filter (·.record.isClosed)).length),
        ("nonAssociations", .arr entries)])

def legacy (v : LegacyView) : Except Fault Json :=
  if v.toJson.isStrict then .ok v.toJson else .error .wrongShape

def version : String := "1.0.0"

/-- The health of the service. A probe that fails in an unforeseen way shows its text on one line. -/
def health (probe : Monitoring.Probe) : Json :=
  let (status, error) := match probe with
    | .answered => ("healthy", none)
    | .refused text => ("degraded", some text)
    | .crashed text => ("error", some (Text.sanitize Text.sanitizeLimit text))
  .obj [("status", .str status),
    ("database", .obj [("healthy", .bool error.isNone), ("error", .ofText? error)]),
    ("version", .str version), ("uptimeSeconds", .null)]

end KeepApart.Http.View
