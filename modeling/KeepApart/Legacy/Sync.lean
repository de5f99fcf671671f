import KeepApart.Context
import KeepApart.Record.Lifecycle
import KeepApart.Legacy.Codes

/-!
# Records from the legacy system

The legacy system describes a record by a reason for each prisoner and by two dates. Such a request
becomes a record of the register: open or closed as the dates say today, and with no date in the future.
Texts that the request leaves out have defaults, which are taken as the settings give them.
-/

namespace KeepApart

/-- What stands for texts that a request leaves out. -/
structure SyncDefaults where
  systemUser : Json := .str "NON_ASSOCIATIONS_API"
  noComment : Json := .str "No comment provided"
  noClosureReason : Json := .str "No closure reason provided"
  migratedNoComment : Json := .str "NO COMMENT"
  syncClosureReason : Json := .str "UNDEFINED"

/-- A record as the legacy system describes it. The codes are as they came in. -/
structure LegacyRequest where
  id : Option Int
  firstNumber : String
  firstReason : Json
  secondNumber : String
  secondReason : Json
  restriction : Json
  effective : Date
  expiry : Option Date
  comment : Option String
  authorisedBy : Option String
  modifiedBy : Option String

namespace LegacyRequest

def textOr (text : Option String) (default : Json) : Json :=
  ((given? text).map Json.str).getD default

def draft (q : LegacyRequest) (defaults : SyncDefaults) (noComment : Json) (today : Date) :
    Except Fault Draft := do
  if q.firstNumber == q.secondNumber then throw (.rejected (.invalid .samePrisoner))
  let first ← Vocabulary.read LegacyReason q.firstReason
  let second ← Vocabulary.read LegacyReason q.secondReason
  let restriction ← Vocabulary.read LegacyRestriction q.restriction
  let user := textOr q.modifiedBy defaults.systemUser
  let created := Moment.ofDate (Date.notAfter (some q.effective) today)
  let closed := Standing.on today q.effective q.expiry == .closed
  return {
    id := none
    firstNumber := .str q.firstNumber
    firstRole := first.role
    secondNumber := .str q.secondNumber
    secondRole := second.role
    reason := first.pairReason second
    restriction := restriction.modern
    comment := textOr q.comment noComment
    authorisedBy := .ofText? q.authorisedBy
    whenCreated := created
    whenUpdated := created
    updatedBy := user
    isClosed := closed
    closedBy := if closed then user else .null
    closedReason := if closed then defaults.noClosureReason else .null
    closedAt := if closed then some (Moment.ofDate (Date.notAfter q.expiry today)) else none }

/-- The draft that takes the place of a stored record: it keeps the id, the pair and the time of
creation. A closed one keeps the reason that is stored, or gets the default. -/
def restated (existing : Record) (incoming : Draft) (defaults : SyncDefaults) (now : Moment) : Draft :=
  { incoming with
    id := existing.id
    firstNumber := .str existing.firstNumber
    secondNumber := .str existing.secondNumber
    whenCreated := existing.whenCreated
    whenUpdated := now
    closedReason :=
      if incoming.isClosed then textOr existing.closedReason defaults.syncClosureReason else .null }

end LegacyRequest

namespace Sync

/-- Stores a draft for a pair. Unless it is closed, the pair must have no other open record. -/
def store (first second : String) (d : Draft) : Action Saved := do
  if !d.isClosed then Action.requireNoOtherOpen d.id first second
  Action.saveDraft d

/-- Creates a record, or overwrites the one with the id of the request. The prisoner numbers of a
request that overwrites are not used. The clock is read for the day on which the request is judged,
and once more for the time of update of a record that is overwritten. -/
def upsertOn (today : Date) (now : Moment) (defaults : SyncDefaults) (q : LegacyRequest) :
    Action Saved := do
  match q.id with
  | none =>
    let incoming ← Action.attempt (q.draft defaults defaults.noComment today)
    store q.firstNumber q.secondNumber incoming
  | some id =>
    let existing ← Action.require id
    let incoming ← Action.attempt (q.draft defaults defaults.noComment today)
    store existing.firstNumber existing.secondNumber
      (LegacyRequest.restated existing incoming defaults now)

def upsert (now : Moment) (defaults : SyncDefaults) (q : LegacyRequest) : Action Saved :=
  upsertOn now.date now defaults q

/-- Creates a record, whatever the id of the request. -/
def migrate (now : Moment) (defaults : SyncDefaults) (q : LegacyRequest) : Action Saved := do
  let incoming ← Action.attempt (q.draft defaults defaults.migratedNoComment now.date)
  let authorisedBy := if incoming.authorisedBy.isNull then defaults.systemUser else incoming.authorisedBy
  store q.firstNumber q.secondNumber { incoming with authorisedBy }

end Sync

end KeepApart
