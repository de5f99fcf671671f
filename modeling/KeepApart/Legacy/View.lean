import KeepApart.Query
import KeepApart.Legacy.Codes

/-!
# The legacy view

A prisoner's records in the legacy vocabulary: each prisoner has a reason of their own, a record is in
force from its creation, and it expires when it was closed.
-/

namespace KeepApart

structure LegacyCounterpart where
  number : Json
  firstName : Json
  lastName : Json
  reason : LegacyReason
  prisonName : Json
  cell : Json

structure LegacyItem where
  id : Option Int
  reason : LegacyReason
  restriction : LegacyRestriction
  effective : Moment
  expiry : Option Moment
  authorisedBy : Option String
  comment : String
  counterpart : LegacyCounterpart

structure LegacyView where
  prisoner : Prisoner
  items : List LegacyItem

namespace Legacy

def reasons (number : String) (r : Record) : LegacyReason × LegacyReason :=
  let pair := r.reason.legacyPair r.firstRole r.secondRole
  if r.firstNumber = number then pair else (pair.2, pair.1)

def item (number : String) (e : Entry) : LegacyItem :=
  let (own, other) := reasons number e.record
  { id := e.record.id
    reason := own
    restriction := e.record.restriction.legacy
    effective := e.record.whenCreated
    expiry := e.record.closedAt
    authorisedBy := e.record.authorisedBy
    comment := e.record.comment
    counterpart :=
      { number := e.prisoner.number
        firstName := e.prisoner.firstName
        lastName := e.prisoner.lastName
        reason := other
        prisonName := e.prisoner.prisonName
        cell := e.prisoner.cell } }

/-- A prisoner's records, with those that are closed unless they are excluded, and those in other prisons
unless only the current one is wanted. -/
def view (ctx : Context) (number : String) (currentPrisonOnly excludeInactive : Bool) :
    Action LegacyView := do
  let listing ← Query.forPrisoner ctx number
    { wantOpen := true, wantClosed := !excludeInactive, otherPrisons := !currentPrisonOnly }
  return ⟨listing.prisoner, listing.entries.map (item number)⟩

end Legacy

def LegacyCounterpart.toJson (c : LegacyCounterpart) : Json :=
  .obj [
    ("offenderNo", c.number),
    ("firstName", c.firstName),
    ("lastName", c.lastName),
    ("reasonCode", .str (code c.reason)),
    ("reasonDescription", .str (describe c.reason)),
    ("agencyDescription", c.prisonName),
    ("assignedLivingUnitDescription", c.cell)]

def LegacyItem.toJson (i : LegacyItem) : Json :=
  .obj [
    ("id", .ofInt? i.id),
    ("reasonCode", .str (code i.reason)),
    ("reasonDescription", .str (describe i.reason)),
    ("typeCode", .str (code i.restriction)),
    ("typeDescription", .str (describe i.restriction)),
    ("effectiveDate", .str i.effective.iso),
    ("expiryDate", .ofText? (i.expiry.map Moment.iso)),
    ("authorisedBy", .ofText? i.authorisedBy),
    ("comments", .str i.comment),
    ("offenderNonAssociation", i.counterpart.toJson)]

def LegacyView.toJson (v : LegacyView) : Json :=
  .obj [
    ("offenderNo", v.prisoner.number),
    ("firstName", v.prisoner.firstName),
    ("lastName", v.prisoner.lastName),
    ("agencyDescription", v.prisoner.prisonName),
    ("assignedLivingUnitDescription", v.prisoner.cell),
    ("nonAssociations", .arr (v.items.map LegacyItem.toJson))]

end KeepApart
