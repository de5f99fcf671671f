import KeepApart.Calendar.Date
import KeepApart.Vocabulary

/-!
# Non-association records

A record says that two prisoners must be kept apart, who decided so, why and since when. The order of
the two sides is as given and is kept.
-/

namespace KeepApart

/-- Two prisoners who must be kept apart. A record that is not stored yet has no id. -/
structure Record where
  id : Option Int
  firstNumber : String
  firstRole : Role
  secondNumber : String
  secondRole : Role
  reason : Reason
  restriction : Restriction
  comment : String
  authorisedBy : Option String
  whenCreated : Moment
  whenUpdated : Moment
  updatedBy : String
  isClosed : Bool
  closedBy : Option String
  closedReason : Option String
  closedAt : Option Moment
  deriving DecidableEq, Repr

namespace Record

def isOpen (r : Record) : Bool := !r.isClosed

def involves (r : Record) (number : String) : Bool :=
  r.firstNumber == number || r.secondNumber == number

def other? (r : Record) (number : String) : Option String :=
  if number = r.firstNumber then some r.secondNumber
  else if number = r.secondNumber then some r.firstNumber
  else none

def hasPair (r : Record) (first second : String) : Bool :=
  r.firstNumber == first && r.secondNumber == second

def isBetween (r : Record) (a b : String) : Bool :=
  r.hasPair a b || r.hasPair b a

def pair (r : Record) : String × String := (r.firstNumber, r.secondNumber)

theorem involves_iff {r : Record} {number : String} :
    r.involves number = true ↔ r.firstNumber = number ∨ r.secondNumber = number := by
  simp [involves]

theorem hasPair_iff {r : Record} {a b : String} : r.hasPair a b = true ↔ r.pair = (a, b) := by
  simp [hasPair, pair]

theorem isBetween_iff {r : Record} {a b : String} :
    r.isBetween a b = true ↔ r.pair = (a, b) ∨ r.pair = (b, a) := by
  rw [isBetween, Bool.or_eq_true, hasPair_iff, hasPair_iff]

theorem isBetween_comm (r : Record) (a b : String) : r.isBetween a b = r.isBetween b a :=
  Bool.or_comm _ _

/-- The details of a closure are all there when the record is closed and all missing when it is open. -/
def closureConsistent (r : Record) : Bool :=
  if r.isClosed then r.closedBy.isSome && r.closedReason.isSome && r.closedAt.isSome
  else r.closedBy.isNone && r.closedReason.isNone && r.closedAt.isNone

end Record

inductive RequiredText where
  | firstNumber | secondNumber | comment | updatedBy
  deriving DecidableEq, Repr

def RequiredText.column : RequiredText → String
  | .firstNumber => "first_prisoner_number"
  | .secondNumber => "second_prisoner_number"
  | .comment => "comment"
  | .updatedBy => "updated_by"

end KeepApart
