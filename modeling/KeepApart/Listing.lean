import KeepApart.Fault
import KeepApart.Json.Equality
import KeepApart.Record

/-!
# Listings

A listing shows records beside details of one of their prisoners. It keeps open records, closed ones or
both, and is sorted by one field in one direction. Entries that are equal in that field keep their
order, whatever the direction. Details come from elsewhere and are taken as they come; only those that
are all texts or all numbers can be sorted.
-/

namespace KeepApart

structure Prisoner where
  number : Json
  firstName : Json
  lastName : Json
  prisonId : Json
  prisonName : Json
  cell : Json

structure Entry where
  record : Record
  prisoner : Prisoner

inductive Inclusion where
  | openOnly | closedOnly | all
  deriving DecidableEq, Repr

inductive SortField where
  | whenCreated | whenUpdated | whenClosed | lastName | firstName | number | prisonId | prisonName | cell
  deriving DecidableEq, Repr

inductive SortDirection where
  | ascending | descending
  deriving DecidableEq, Repr

instance : Vocabulary SortField where
  name := "SortField"
  all := [.whenCreated, .whenUpdated, .whenClosed, .lastName, .firstName, .number, .prisonId,
    .prisonName, .cell]
  code
    | .whenCreated => "WHEN_CREATED"
    | .whenUpdated => "WHEN_UPDATED"
    | .whenClosed => "WHEN_CLOSED"
    | .lastName => "LAST_NAME"
    | .firstName => "FIRST_NAME"
    | .number => "PRISONER_NUMBER"
    | .prisonId => "PRISON_ID"
    | .prisonName => "PRISON_NAME"
    | .cell => "CELL_LOCATION"

instance : Vocabulary SortDirection where
  name := "SortDirection"
  all := [.ascending, .descending]
  code
    | .ascending => "ASC"
    | .descending => "DESC"

/-- Times are listed latest first, texts in order. -/
def SortField.defaultDirection : SortField → SortDirection
  | .whenCreated | .whenUpdated | .whenClosed => .descending
  | _ => .ascending

inductive SortKey where
  | moment (t : Moment)
  | detail (r : Json.Rank)
  deriving DecidableEq

namespace SortKey

def le : SortKey → SortKey → Bool
  | moment a, moment b => a ≤ b
  | detail a, detail b => a.le b
  | moment _, detail _ => true
  | detail _, moment _ => false

/-- The key of a detail; whatever counts as nothing is the empty text. -/
def ofDetail (value : Json) : SortKey :=
  .detail (if value.isNothing then (Json.str "").rank else value.rank)

def detail? : SortKey → Option Json.Rank
  | moment _ => none
  | detail r => some r

end SortKey

/-- An open record counts as closed at the earliest moment. -/
def Entry.key (e : Entry) : SortField → SortKey
  | .whenCreated => .moment e.record.whenCreated
  | .whenUpdated => .moment e.record.whenUpdated
  | .whenClosed => .moment (e.record.closedAt.getD Moment.earliest)
  | .lastName => .ofDetail e.prisoner.lastName
  | .firstName => .ofDetail e.prisoner.firstName
  | .number => .ofDetail e.prisoner.number
  | .prisonId => .ofDetail e.prisoner.prisonId
  | .prisonName => .ofDetail e.prisoner.prisonName
  | .cell => .ofDetail e.prisoner.cell

/-- May `a` stand before `b`? -/
def SortDirection.le (d : SortDirection) (a b : SortKey) : Bool :=
  match d with
  | ascending => a.le b
  | descending => b.le a

namespace Inclusion

def of (wantOpen wantClosed : Bool) : Option Inclusion :=
  match wantOpen, wantClosed with
  | true, true => some all
  | true, false => some openOnly
  | false, true => some closedOnly
  | false, false => none

def code : Inclusion → String
  | openOnly => "OPEN_ONLY"
  | closedOnly => "CLOSED_ONLY"
  | all => "ALL"

def keeps : Inclusion → Record → Bool
  | openOnly, r => r.isOpen
  | closedOnly, r => r.isClosed
  | all, _ => true

end Inclusion

structure ListOptions where
  wantOpen : Bool := true
  wantClosed : Bool := false
  otherPrisons : Bool := false
  sortBy : Option SortField := none
  direction : Option SortDirection := none
  deriving DecidableEq, Repr

namespace ListOptions

def inclusion (o : ListOptions) : Option Inclusion :=
  Inclusion.of o.wantOpen o.wantClosed

def field (o : ListOptions) : SortField :=
  o.sortBy.getD .whenCreated

def order (o : ListOptions) : SortDirection :=
  o.direction.getD o.field.defaultDirection

def keeps (o : ListOptions) (r : Record) : Bool :=
  o.inclusion.any (·.keeps r)

def sort (o : ListOptions) (entries : List Entry) : List Entry :=
  entries.mergeSort fun a b => o.order.le (a.key o.field) (b.key o.field)

def apply (o : ListOptions) (entries : List Entry) : List Entry :=
  o.sort (entries.filter fun e => o.keeps e.record)

def canSort (o : ListOptions) (entries : List Entry) : Bool :=
  let kept := entries.filter fun e => o.keeps e.record
  Json.Rank.comparable (kept.filterMap fun e => (e.key o.field).detail?)

def listed (o : ListOptions) (entries : List Entry) : Except Fault (List Entry) :=
  if o.canSort entries then .ok (o.apply entries) else .error .wrongType

end ListOptions

end KeepApart
