import KeepApart.Command
import KeepApart.Http.Route
import KeepApart.Legacy.Sync
import KeepApart.Merge.Event
import KeepApart.Schema.Number
import KeepApart.Schema.PrisonerNumber
import KeepApart.Schema.Time
import KeepApart.Text.Encoding

/-!
# Forms

What each operation asks for in its content and parameters. A form is checked field by field in the
order in which the fields are listed here; unknown fields are passed over.
-/

namespace KeepApart.Http

open Schema

structure Turn where
  reason : String
  person : Option String
  at? : Option Moment
  deriving DecidableEq, Repr

inductive Call where
  | constants
  | create (p : Proposal)
  | between (numbers : List String) (o : ListOptions)
  | find (id : Int)
  | amend (id : Int) (a : Amendment)
  | close (id : Int) (t : Turn)
  | reopen (id : Int) (t : Turn)
  | ofPrisoner (number : String) (o : ListOptions)
  | legacyDetails (number : String) (currentPrisonOnly excludeInactive : Bool)
  | upsert (q : LegacyRequest)
  | migrate (q : LegacyRequest)
  | merge (old new : String) (w : Window)
  | event (e : PrisonerEvent)

/-! ## Content -/

inductive Body where
  | missing
  /-- Content that is not meant as JSON. -/
  | octets (text : String)
  | value (v : Json)

namespace Body

def isJsonType (contentType : String) : Bool :=
  let type := lowerAscii (Text.trim ((Text.splitOn ';' contentType).headD ""))
  match Text.splitOn '/' type with
  | ["application", subtype] => subtype == "json" || "+json".toList.isSuffixOf subtype.toList
  | _ => false

/-- A text without the mark of its byte order. -/
def dropOrderMark : List Char → List Char
  | '\uFEFF' :: rest => rest
  | cs => cs

inductive Trouble where
  | badJson (position : Nat)
  /-- It is in no encoding, or goes beyond a limit. -/
  | unreadable

def ofJson (text : String) : Except Trouble Json :=
  match Text.Encoding.decode? (String.ofList (dropOrderMark text.toList)).toUTF8.toList with
  | none => .error .unreadable
  | some cs =>
    match Json.read cs with
    | .ok v => .ok v
    | .error (.malformed left) => .error (.badJson (cs.length - left))
    | .error _ => .error .unreadable

def ofRequest (q : Request) : Except Trouble Body :=
  if q.content.isEmpty then .ok .missing
  else if isJsonType ((q.header? "Content-Type").getD "") then (ofJson q.content).map .value
  else .ok (.octets q.content)

def check {α : Type} (form : List (String × Json) → Checked α) : Body → Checked α
  | missing => .refused [⟨[], "Field required", Json.null.display⟩]
  | value (.obj fields) => form fields
  | value v => .refuse notObject v
  | octets s => .refused [⟨[], notObject, Text.quoteOctets s⟩]
where
  notObject : String := "Input should be a valid dictionary or object to extract fields from"

end Body

/-! ## The forms -/

namespace Form

/-- A code of a vocabulary, kept as it came in. -/
def coded (α : Type) [Vocabulary α] : Check Json := fun v =>
  (codeOf α v).map fun a => .str (code a)

def proposal (fields : List (String × Json)) : Checked Proposal :=
  Proposal.mk
    <$> required fields "first_prisoner_number" prisonerNumber
    <*> required fields "first_prisoner_role" (coded Role)
    <*> required fields "second_prisoner_number" prisonerNumber
    <*> required fields "second_prisoner_role" (coded Role)
    <*> required fields "reason" (coded Reason)
    <*> required fields "restriction_type" (coded Restriction)
    <*> required fields "comment" filledText
    <*> pure false

def amendment (fields : List (String × Json)) : Checked Amendment :=
  Amendment.mk
    <$> optional fields "first_prisoner_role" (nullable (codeOf Role)) none
    <*> optional fields "second_prisoner_role" (nullable (codeOf Role)) none
    <*> optional fields "reason" (nullable (codeOf Reason)) none
    <*> optional fields "restriction_type" (nullable (codeOf Restriction)) none
    <*> optional fields "comment" (nullable filledText) none
    <*> pure []
    <*> pure false

def closing (fields : List (String × Json)) : Checked Turn :=
  Turn.mk
    <$> required fields "closure_reason" filledText
    <*> optional fields "staff_member_requesting_closure" (nullable name) none
    <*> optional fields "date_of_closure" (nullable moment) none

def reopening (fields : List (String × Json)) : Checked Turn :=
  Turn.mk
    <$> required fields "reopen_reason" filledText
    <*> optional fields "staff_member_requesting_reopen" (nullable name) none
    <*> optional fields "date_of_reopen" (nullable moment) none

def group (fields : List (String × Json)) : Checked Call :=
  (fun numbers wantOpen wantClosed otherPrisons =>
      Call.between numbers { wantOpen, wantClosed, otherPrisons })
    <$> required fields "prisoner_numbers" prisonerGroup
    <*> optional fields "include_open" flag true
    <*> optional fields "include_closed" flag false
    <*> optional fields "include_other_prisons" flag false

def legacy (fields : List (String × Json)) (id : Checked (Option Int)) : Checked LegacyRequest :=
  (fun firstNumber firstReason secondNumber secondReason restriction comment authorisedBy modifiedBy
      effective expiry id =>
      { id, firstNumber, firstReason, secondNumber, secondReason, restriction, effective, expiry,
        comment, authorisedBy, modifiedBy : LegacyRequest })
    <$> required fields "first_prisoner_number" prisonerNumber
    <*> required fields "first_prisoner_reason" (coded LegacyReason)
    <*> required fields "second_prisoner_number" prisonerNumber
    <*> required fields "second_prisoner_reason" (coded LegacyReason)
    <*> required fields "restriction_type" (coded LegacyRestriction)
    <*> optional fields "comment" (nullable text) none
    <*> optional fields "authorised_by" (nullable name) none
    <*> optional fields "last_modified_by_username" (nullable name) none
    <*> required fields "effective_from_date" date
    <*> optional fields "expiry_date" (nullable date) none
    <*> id

def migration (fields : List (String × Json)) : Checked LegacyRequest :=
  legacy fields (pure none)

def update (fields : List (String × Json)) : Checked LegacyRequest :=
  legacy fields (optional fields "id" (nullable positive) none)

def merge (fields : List (String × Json)) : Checked Call :=
  (fun old new since until? => Call.merge old new ⟨since, until?⟩)
    <$> required fields "old_prisoner_number" prisonerNumber
    <*> required fields "new_prisoner_number" prisonerNumber
    <*> optional fields "since" (nullable moment) none
    <*> optional fields "until" (nullable moment) none

def event (fields : List (String × Json)) : Checked Call :=
  (fun kind information occurredAt =>
      Call.event ⟨kind, .obj information, Json.ofText? occurredAt⟩)
    <$> required fields "event_type" filledText
    <*> optional fields "additional_information" object []
    <*> optional fields "occurred_at" (nullable text) none

/-! ## Parameters -/

def recordId (id : String) : Checked Int :=
  ((integer (.str id)).under "record_id").under "path"

def parameter {α : Type} (q : Request) (name : String) (check : Check α) (default : α) : Checked α :=
  match q.parameter? name with
  | some value => ((check (.str value)).under name).under "query"
  | none => .accepted default

def listOptions (q : Request) : Checked ListOptions :=
  (fun wantOpen wantClosed otherPrisons sortBy direction =>
      { wantOpen, wantClosed, otherPrisons, sortBy, direction : ListOptions })
    <$> parameter q "includeOpen" flag true
    <*> parameter q "includeClosed" flag false
    <*> parameter q "includeOtherPrisons" flag false
    <*> parameter q "sortBy" (nullable (codeOf SortField)) none
    <*> parameter q "sortDirection" (nullable (codeOf SortDirection)) none

end Form

/-- Checks a request for an operation: the path first, then the query, then the content. -/
def Operation.check (q : Request) (body : Body) : Operation → Checked Call
  | .constants => .accepted .constants
  | .create => Call.create <$> body.check Form.proposal
  | .between => body.check Form.group
  | .find id => Call.find <$> Form.recordId id
  | .amend id => Call.amend <$> Form.recordId id <*> body.check Form.amendment
  | .close id => Call.close <$> Form.recordId id <*> body.check Form.closing
  | .reopen id => Call.reopen <$> Form.recordId id <*> body.check Form.reopening
  | .ofPrisoner number => Call.ofPrisoner number <$> Form.listOptions q
  | .legacyDetails number =>
    Call.legacyDetails number
      <$> Form.parameter q "currentPrisonOnly" flag false
      <*> Form.parameter q "excludeInactive" flag false
  | .upsert => Call.upsert <$> body.check Form.update
  | .migrate => Call.migrate <$> body.check Form.migration
  | .merge => body.check Form.merge
  | .event => body.check Form.event

end KeepApart.Http
